import Wagebook.Proofs.Authorship
import Wagebook.Proofs.Tokens

/-!
Logins. The token that answers a login stands for the user who has logged in, wherever it is shown
under the same secret before its time is up.
-/

namespace Wagebook

theorem Role.ofId?_id (role : Role) : ofId? role.id = some role := by
  cases role <;> rfl

theorem Role.ofIsAdmin_eq_admin {isAdmin : Bool} : ofIsAdmin isAdmin = .admin ↔ isAdmin = true := by
  cases isAdmin <;> decide

/-- Of several users of a name the first is found. -/
theorem Tables.user?_of_first {t : Tables} {u : User} {earlier later : List User}
    (stored : t.users = earlier ++ u :: later) (first : ∀ e ∈ earlier, e.username ≠ u.username) :
    t.user? u.username = some u := by
  have others : earlier.find? (fun e => decide (e.username = u.username)) = none := by
    rw [List.find?_eq_none]
    intro e mem
    simpa using first e mem
  rw [user?, stored, List.find?_append, others, Option.none_or, List.find?_cons_of_pos (by simp)]

theorem Memory.run_findUser (memory : Memory) (username : String) :
    (findUser username).run memory = (.ok (memory.tables.user? username), memory) := by
  rw [Prod.ext_iff]
  exact ⟨rfl, rfl⟩

namespace Digest.Blake2b

theorem length_bytes (ws : List UInt64) : (bytes ws).length = 8 * ws.length := by
  induction ws with
  | nil => rfl
  | cons w ws ih =>
      rw [bytes, List.flatMap_cons, List.length_append, ← bytes, ih, littleEndian, List.length_map,
        List.length_range, List.length_cons]
      omega

theorem size_absorbAll (n : Nat) (message : List UInt8) (count : Nat) (h : Array UInt64) :
    (absorbAll n message count h).size = 8 := by
  induction n generalizing message count h with
  | zero => simp [absorbAll, absorb]
  | succ n ih => exact ih _ _ _

end Digest.Blake2b

theorem Digest.length_blake2b {size : Nat} (least : size ≤ 64) (message : List UInt8) :
    (blake2b size message).length = size := by
  rw [blake2b, List.length_take, Blake2b.length_bytes, Array.length_toList,
    Blake2b.size_absorbAll]
  omega

theorem Argon2.length_digest {size : Nat} (least : size ≤ 64) (job : Job)
    (password salt : List UInt8) : (digest job password salt size).length = size := by
  simp only [digest, longDigest, if_pos least, Digest.length_blake2b least]

namespace Password

/-- The least work that a hash may ask for. -/
def lightJob : Argon2.Job := ⟨.id, .v19, { memory := 8, passes := 1, lanes := 1 }⟩

def lightSalt : List UInt8 := List.replicate 8 0

def lightOutput (password : String) : List UInt8 :=
  Argon2.digest lightJob (Text.utf8 password) lightSalt 16

/-- The hash that this work makes of a password, and the fields that spell it. -/
def lightText (password : String) : HashText where
  algorithm := "argon2id".toList
  version := some 19
  params := [(['m'], ['8']), (['t'], ['1']), (['p'], ['1'])]
  salt := some (Text.Base64.standard.encode lightSalt)
  output := some (lightOutput password)

def lightFields (password : String) : List (List Char) :=
  [[], "argon2id".toList, "v=19".toList, "m=8,t=1,p=1".toList,
    Text.Base64.standard.encode lightSalt, Text.Base64.standard.encode (lightOutput password)]

def lightHash (password : String) : String :=
  String.ofList (['$'].intercalate (lightFields password))

theorem splitOn_lightHash (password : String) :
    (lightHash password).toList.splitOn '$' = lightFields password := by
  have plain (bytes : List UInt8) : '$' ∉ Text.Base64.standard.encode bytes := by
    intro mem
    obtain ⟨n, small, dollar⟩ := Text.Base64.exists_digit mem
    have all : ∀ n < 64, '$' ≠ Text.Base64.standard.digit n := by decide
    exact all n small dollar
  rw [lightHash, String.toList_ofList]
  refine List.splitOn_intercalate '$' ?_ (List.cons_ne_nil _ _)
  simp only [lightFields, List.forall_mem_cons]
  exact ⟨by decide, by decide, by decide, by decide, plain _, plain _, List.forall_mem_nil _⟩

theorem output?_encode {bytes : List UInt8} (h : bytes.length = 16) :
    HashText.output? (Text.Base64.standard.encode bytes) = some bytes := by
  have legible : Text.Base64.standard.Legible := by decide
  rw [HashText.output?, Text.Base64.decode?_encode legible]
  simp [h]

theorem readVersion_light (fields : List (List Char)) :
    HashText.readVersion ⟨"argon2id".toList, none, [], none, none⟩
        ("v=19".toList :: "m=8,t=1,p=1".toList :: fields) =
      HashText.readEnd ⟨"argon2id".toList, some 19,
        [(['m'], ['8']), (['t'], ['1']), (['p'], ['1'])], none, none⟩ fields :=
  rfl

theorem read?_lightHash (password : String) :
    HashText.read? (lightHash password).toList = some (lightText password) := by
  have output : HashText.output? (Text.Base64.standard.encode (lightOutput password)) =
      some (lightOutput password) :=
    output?_encode (Argon2.length_digest (by decide : 16 ≤ 64) _ _ _)
  have named : HashText.isName "argon2id".toList = true := by decide
  rw [HashText.read?, splitOn_lightHash]
  change (if HashText.isName "argon2id".toList then HashText.readVersion _ _ else none) = _
  rw [if_pos named, readVersion_light, HashText.readEnd, output]
  rfl

/-- The password fits the hash that is made of it. -/
theorem matches?_lightHash (password : String) :
    matches? password (lightHash password) = some true := by
  have length : (lightOutput password).length = 16 := Argon2.length_digest (by decide) _ _ _
  have asked : job? (lightText password) (Text.Base64.standard.encode lightSalt) =
      some (lightJob, lightSalt) := rfl
  rw [matches?, read?_lightHash]
  change (job? (lightText password) (Text.Base64.standard.encode lightSalt)).bind
    (fun asked => some (Argon2.digest asked.1 (Text.utf8 password) asked.2
      (lightOutput password).length == lightOutput password)) = _
  rw [asked, length]
  simp [lightOutput]

end Password

namespace Http

namespace Service

/-- What a token for a user claims. -/
def claimsOf (s : Service) (u : User) : Claims where
  user := u.id
  username := u.username
  role := (Role.ofIsAdmin u.isAdmin).id
  expires := s.occasion.now.unixSeconds.toNat + s.config.tokenSeconds
  issuedAt := s.occasion.now.unixSeconds.toNat
  tokenId := s.occasion.freshId

def tokenOf (s : Service) (u : User) : String := Token.sign s.config.secret (s.claimsOf u)

variable {s : Service} {request : Request} {shared : Shared Memory}

theorem runUntimed_findUser (username : String) :
    shared.runUntimed (findUser username) =
      (.ok (shared.store.tables.user? username), shared) := by
  rw [Shared.runUntimed, Memory.run_findUser]

/-- A login succeeds for the first user of its name, if the password fits his hash. -/
theorem run_login {form : LoginForm}
    (asked : request.json? s.config.decoders LoginForm.ofJson? = .ok form)
    (store : s.parts.store = true) (config : s.parts.config = true) {u : User}
    (found : shared.store.tables.user? form.username = some u) :
    (s.login request).run shared =
      if (Text.trim form.username.toList).isEmpty ∨ form.password.isEmpty then
        (.error Fault.blankCredentials.response, shared)
      else if Password.matches? form.password u.passwordHash ≠ some true then
        (.error Fault.wrongCredentials.response, shared)
      else (.ok (.ok (.record ["token"] [.str (s.tokenOf u)])), shared) := by
  unfold login
  rw [asked, store, config]
  simp only [orRefuse, needs, if_true, pure_bind]
  split
  · rfl
  · simp only [Serve.run_bind, Serve.run_get, Serve.run_set, runUntimed_findUser, found]
    split <;> rfl

end Service

theorem bearerToken_bearer (token : String) :
    bearerToken (some ("Bearer " ++ token)) = .ok token := by
  have spelt : ("Bearer " ++ token).toList =
      'B' :: 'e' :: 'a' :: 'r' :: 'e' :: 'r' :: ' ' :: token.toList := by
    rw [String.toList_append]
    rfl
  simp only [bearerToken, spelt, String.ofList_toList]

theorem Request.header?_of_visible {request : Request} {name value : String}
    (visible : ∀ c ∈ value.toList, 32 ≤ c.toNat ∧ c.toNat < 127)
    (sent : (request.valuesOf name).head? = some value) : request.header? name = some value := by
  obtain ⟨more, values⟩ := List.head?_eq_some_iff.mp sent
  have text : isText value = true := by
    rw [isText, List.all_eq_true]
    intro c mem
    obtain ⟨least, most⟩ := visible c mem
    simp [least, most]
  rw [header?, values]
  simp only [text, if_true]

theorem Request.header?_bearer {request : Request} {name secret : String} {claims : Claims}
    (sent : (request.valuesOf name).head? = some ("Bearer " ++ Token.sign secret claims)) :
    request.header? name = some ("Bearer " ++ Token.sign secret claims) := by
  refine header?_of_visible (fun c mem => ?_) sent
  rcases List.mem_append.mp (String.toList_append ▸ mem) with scheme | token
  · have all : "Bearer ".toList.all fun c => 32 ≤ c.toNat ∧ c.toNat < 127 := by decide
    exact of_decide_eq_true (List.all_eq_true.mp all c scheme)
  · exact Token.visible_sign token

/-- A header with a token that is signed with the secret stands for the user in it. -/
theorem Caller.authenticate_sign {secret : String} {claims : Claims} (fits : claims.Fits)
    {role : Role} (known : claims.role = role.id) {now : Stamp}
    (inTime : now.unixSeconds ≤ claims.expires + Token.leeway) :
    authenticate now secret (some ("Bearer " ++ Token.sign secret claims)) =
      .ok ⟨claims.user, claims.username, role⟩ := by
  have verified : Token.verify now secret (Token.sign secret claims) = .ok claims := by
    rw [Token.verify_sign secret fits, if_neg (by omega)]
  simp only [authenticate, bearerToken_bearer, bind, Except.bind, verified, ofClaims, known,
    Role.ofId?_id]

def LoginForm.toJson (form : LoginForm) : Json :=
  .record ["username", "password"] [.str form.username, .str form.password]

theorem LoginForm.ofJson?_toJson (form : LoginForm) : ofJson? form.toJson = some form := by
  rw [ofJson?, toJson, Json.fields?_record (by decide) rfl]
  rfl

/-- A request to log in. -/
def Request.loggingIn (form : LoginForm) : Request where
  method := "POST"
  target := .read "/v1/login"
  headers := [("content-type", "application/json")]
  body := Text.utf8 form.toJson.render
  peer := some (.v4 [10, 0, 0, 1])

/-- A request whose body is JSON is read as what that means. -/
theorem Request.json?_of_content {request : Request} {decoders : Decoders} {v : Json}
    (exact : v.Exact) (typed : request.header? "content-type" = some "application/json")
    (content : request.content? decoders = some (Text.utf8 v.render))
    {ofJson? : Json → Option α} {form : α} (means : ofJson? v = some form) :
    request.json? decoders ofJson? = .ok form := by
  have read : Json.ofBytes? (Text.utf8 v.render) = some v := by
    rw [Json.ofBytes?, exact.charsOf?_render]
    exact exact.read?_write
  have isJson : MediaType.isJson "application/json" = true := by decide +kernel
  simp only [json?, typed, Option.map_some, isJson, Option.getD_some, if_true, content,
    Option.bind_some, read, means]

theorem Request.content?_of_plain {request : Request} (decoders : Decoders)
    (plain : request.coding = .identity) (short : request.body.length ≤ bodyLimit) :
    request.content? decoders = some request.body := by
  rw [content?, unpacked?, plain]
  simp [short]

theorem Request.json?_loggingIn {form : LoginForm} (decoders : Decoders)
    (short : (loggingIn form).body.length ≤ bodyLimit) :
    (loggingIn form).json? decoders LoginForm.ofJson? = .ok form := by
  have exact : form.toJson.Exact := Json.exact_record (by simp [Json.Exact.str])
  have content : (loggingIn form).content? decoders = some (loggingIn form).body :=
    content?_of_plain decoders rfl short
  exact json?_of_content exact rfl content form.ofJson?_toJson

namespace App

variable {app : App Memory} {occasion : Occasion} {login : Request}

theorem login_asks (routed : app.route? login = some ⟨.login, some .login⟩) :
    login.method ≠ "GET" := by
  obtain ⟨path, -, leads⟩ := Option.bind_eq_some_iff.mp routed
  have posts : "POST" = login.method := (Route.of_endpoint leads rfl).2
  rw [← posts]
  decide

/-- A login that is let in and logged goes on at its endpoint. -/
theorem handle_entered (routed : app.route? login = some ⟨.login, some .login⟩)
    {admitted : App Memory} (passed : app.letIn occasion login .login = .ok admitted)
    (logs : (app.service occasion).Logs app.shared) :
    let ended := ((app.service occasion).login login).run
      (logEntry app.shared (login.entry occasion.now))
    (app.handle occasion login).1 = Serve.told ended.1 ∧
      (app.handle occasion login).2.shared = ended.2 := by
  obtain ⟨service, shared⟩ := letIn_ok passed
  rw [handle_eq, routed]
  simp only [passed, serve_told, service, shared, Service.serve_eq]
  rw [Service.logFirst_of_logs _ login (login_asks routed) logs]
  exact ⟨rfl, rfl⟩

/-- What a login that can be logged comes to for a name that is known. -/
theorem handle_login (routed : app.route? login = some ⟨.login, some .login⟩)
    {admitted : App Memory} (passed : app.letIn occasion login .login = .ok admitted)
    (logs : (app.service occasion).Logs app.shared) {form : LoginForm}
    (asked : login.json? app.config.decoders LoginForm.ofJson? = .ok form) {u : User}
    (found : app.tables.user? form.username = some u) :
    (app.handle occasion login).1 =
      if (Text.trim form.username.toList).isEmpty ∨ form.password.isEmpty then
        Fault.blankCredentials.response
      else if Password.matches? form.password u.passwordHash ≠ some true then
        Fault.wrongCredentials.response
      else .ok (.record ["token"] [.str ((app.service occasion).tokenOf u)]) := by
  rw [(handle_entered routed passed logs).1,
    Service.run_login asked logs.1 logs.2.1 ((user?_logEntry _ _ _).trans found)]
  split
  · rfl
  split <;> rfl

/-- Only a login that has been logged is answered with success. -/
theorem login_answer (routed : app.route? login = some ⟨.login, some .login⟩)
    (answered : (app.handle occasion login).1.status = 200) {form : LoginForm}
    (asked : login.json? app.config.decoders LoginForm.ofJson? = .ok form) {u : User}
    (found : app.tables.user? form.username = some u) :
    (app.handle occasion login).1 =
      .ok (.record ["token"] [.str ((app.service occasion).tokenOf u)]) := by
  cases passed : app.letIn occasion login .login with
  | error refusal =>
      have refused : app.handle occasion login = (refusal, app) := by
        simp only [handle_eq, routed, passed]
      rw [refused] at answered
      exact absurd answered (letIn_error passed)
  | ok admitted =>
      by_cases logs : (app.service occasion).Logs app.shared
      · rw [handle_login routed passed logs asked found] at answered ⊢
        split at answered
        · cases answered
        split at answered
        · cases answered
        rename_i filled fits
        rw [if_neg filled, if_neg fits]
      · obtain ⟨service, shared⟩ := letIn_ok passed
        obtain ⟨refusal, genuine, refused⟩ :=
          Service.logFirst_refuses _ login (login_asks routed) logs
        rw [handle_eq, routed] at answered
        simp only [passed, serve_told, service, shared, Service.serve_eq] at answered
        rw [refused app.shared.store.tables] at answered
        exact absurd answered genuine.1

end App

/-- The check of tokens lets the request pass as one of this caller. -/
def Service.Admits (s : Service) (request : Request) (caller : Caller) : Prop :=
  ∀ {σ : Type} [Store σ] (next : Context → Serve σ Response) (context : Context),
    s.authenticateFirst request next context = next { context with caller? := some caller }

theorem Service.admits_of_sent {s : Service} (config : s.parts.config = true) {claims : Claims}
    (fits : claims.Fits) {role : Role} (known : claims.role = role.id)
    (inTime : s.occasion.now.unixSeconds ≤ claims.expires + Token.leeway) {request : Request}
    (sent : (request.valuesOf "authorization").head? =
      some ("Bearer " ++ Token.sign s.config.secret claims)) :
    s.Admits request ⟨claims.user, claims.username, role⟩ := by
  intro σ store next context
  rw [authenticateFirst, config, Request.header?_bearer sent,
    Caller.authenticate_sign fits known inTime]
  rfl

/-- The token stands for the user, with these claims, until a minute after its end. -/
structure App.Vouches (app : App Memory) (token : String) (u : User) (claims : Claims) : Prop where
  span : claims.expires = claims.issuedAt + app.config.tokenSeconds
  verifies : ∀ now : Stamp, now.unixSeconds ≤ claims.expires + Token.leeway →
    Token.verify now app.config.secret token = .ok claims
  admits : ∀ (s : Service) (request : Request), s.config.secret = app.config.secret →
    s.parts.config = true → s.occasion.now.unixSeconds ≤ claims.expires + Token.leeway →
    (request.valuesOf "authorization").head? = some ("Bearer " ++ token) →
    ∃ caller, s.Admits request caller ∧ caller.user = u.id ∧ caller.username = u.username ∧
      (caller.role = .admin ↔ u.isAdmin = true)

/-- Whatever the user's name and id are, a login answers with a token for him and nobody else. -/
theorem App.login_vouches {app : App Memory} {occasion : Occasion} {login : Request}
    (routed : app.route? login = some ⟨.login, some .login⟩) {form : LoginForm}
    (asked : login.json? app.config.decoders LoginForm.ofJson? = .ok form) {u : User}
    {earlier later : List User} (stored : app.tables.users = earlier ++ u :: later)
    (first : ∀ e ∈ earlier, e.username ≠ u.username) (named : form.username = u.username)
    (small : u.id < 0x10000000000000000)
    (ends : occasion.now.unixSeconds.toNat + app.config.tokenSeconds < 0x10000000000000000)
    (answered : (app.handle occasion login).1.status = 200) :
    ∃ token claims, (app.handle occasion login).1 = .ok (.record ["token"] [.str token]) ∧
      claims.issuedAt = occasion.now.unixSeconds.toNat ∧ app.Vouches token u claims := by
  have found : app.tables.user? form.username = some u :=
    named ▸ Tables.user?_of_first stored first
  have role : (Role.ofIsAdmin u.isAdmin).id < 0x100 := by
    cases u.isAdmin <;> decide
  have fits : ((app.service occasion).claimsOf u).Fits :=
    ⟨small, role, ends, Nat.lt_of_le_of_lt (Nat.le_add_right _ _) ends⟩
  refine ⟨_, (app.service occasion).claimsOf u, login_answer routed answered asked found, rfl, rfl,
    fun now inTime => ?_, ?_⟩
  · exact (Token.verify_sign _ fits now).trans (if_neg (by omega))
  · intro s request secret config inTime sent
    rw [Service.tokenOf, show (app.service occasion).config = app.config from rfl, ← secret] at sent
    exact ⟨_, Service.admits_of_sent config fits rfl inTime sent, rfl, rfl,
      Role.ofIsAdmin_eq_admin⟩

/-- Her id is the last there is, and her name needs escapes. -/
def zoe : User :=
  ⟨0xffffffffffffffff, "zo\u00eb \"\\\x00", Password.lightHash "secret", "", 0, true, .epoch,
    .epoch⟩

/-- A service that she can log in to. -/
def App.withZoe : App Memory where
  config := {}
  shared.store.tables.users := [⟨1, "zoe", "", "", 0, false, .epoch, .epoch⟩, zoe]

theorem App.login_vouches_zoe :
    let login := Request.loggingIn ⟨zoe.username, "secret"⟩
    (withZoe.handle .epoch login).1.status = 200 ∧
      ∃ token claims, (withZoe.handle .epoch login).1 = .ok (.record ["token"] [.str token]) ∧
        claims.issuedAt = 0 ∧ withZoe.Vouches token zoe claims := by
  intro login
  have routed : withZoe.route? login = some ⟨.login, some .login⟩ := by
    decide +kernel
  have asked : login.json? withZoe.config.decoders LoginForm.ofJson? =
      .ok ⟨zoe.username, "secret"⟩ :=
    Request.json?_loggingIn _ (by decide +kernel)
  have first : ∀ e ∈ [(⟨1, "zoe", "", "", 0, false, .epoch, .epoch⟩ : User)],
      e.username ≠ zoe.username := by
    decide
  have found : withZoe.tables.user? zoe.username = some zoe := Tables.user?_of_first rfl first
  obtain ⟨admitted, passed⟩ : ∃ admitted, withZoe.letIn .epoch login .login = .ok admitted :=
    ⟨_, rfl⟩
  have filled : ¬ ((Text.trim zoe.username.toList).isEmpty ∨ "secret".isEmpty) := by decide
  have fits : Password.matches? "secret" zoe.passwordHash = some true :=
    Password.matches?_lightHash "secret"
  have answered : (withZoe.handle .epoch login).1.status = 200 := by
    rw [handle_login routed passed ⟨rfl, rfl, rfl, rfl⟩ asked found, if_neg filled,
      if_neg (not_not.mpr fits)]
    rfl
  exact ⟨answered, login_vouches routed asked rfl first rfl (by decide) (by decide) answered⟩

end Http

end Wagebook
