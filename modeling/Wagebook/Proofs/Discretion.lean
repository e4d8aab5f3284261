import Wagebook.Proofs.Logins

/-!
Logins that are refused. What they are answered does not depend on why: the name is unknown, the
password is wrong, or the hash that is stored for it cannot be read. So nobody learns from them who
is a user.
-/

namespace Wagebook

/-- The first user of a name has a hash that the password fits. -/
def Tables.Knows (t : Tables) (username password : String) : Prop :=
  ∃ earlier u later, t.users = earlier ++ u :: later ∧ (∀ e ∈ earlier, e.username ≠ username) ∧
    u.username = username ∧ Password.matches? password u.passwordHash = some true

theorem Tables.knows_iff {t : Tables} {username password : String} :
    t.Knows username password ↔
      ∃ u, t.user? username = some u ∧ Password.matches? password u.passwordHash = some true := by
  constructor
  · rintro ⟨earlier, u, later, stored, first, rfl, fits⟩
    exact ⟨u, user?_of_first stored first, fits⟩
  · rintro ⟨u, found, fits⟩
    obtain ⟨named, earlier, later, stored, first⟩ := List.find?_eq_some_iff_append.mp found
    exact ⟨earlier, u, later, stored, fun e mem => by simpa using first e mem,
      of_decide_eq_true named, fits⟩

namespace Http

/-- The login gets to its endpoint and asks for something there: it is below the limit, can be
logged, and its form is filled in. -/
structure App.TakesLogin (app : App Memory) (occasion : Occasion) (login : Request)
    (form : LoginForm) : Prop where
  routed : app.route? login = some ⟨.login, some .login⟩
  passed : ∃ admitted, app.letIn occasion login .login = .ok admitted
  logs : (app.service occasion).Logs app.shared
  asked : login.json? app.config.decoders LoginForm.ofJson? = .ok form
  named : Text.trim form.username.toList ≠ []
  worded : form.password ≠ ""

namespace Service

/-- A login for a name that nobody has. -/
theorem run_login_unknown {s : Service} {request : Request} {shared : Shared Memory}
    {form : LoginForm}
    (asked : request.json? s.config.decoders LoginForm.ofJson? = .ok form)
    (store : s.parts.store = true) (config : s.parts.config = true)
    (unknown : shared.store.tables.user? form.username = none) :
    (s.login request).run shared =
      (.error (if (Text.trim form.username.toList).isEmpty ∨ form.password.isEmpty then
        Fault.blankCredentials.response
      else Fault.wrongCredentials.response), shared) := by
  unfold login
  rw [asked, store, config]
  simp only [orRefuse, needs, if_true, pure_bind]
  split
  · rfl
  · simp only [Serve.run_bind, Serve.run_get, Serve.run_set, runUntimed_findUser, unknown]
    rfl

end Service

namespace App

variable {app : App Memory} {occasion : Occasion} {login : Request} {form : LoginForm}

theorem TakesLogin.filled (taken : app.TakesLogin occasion login form) :
    ¬ ((Text.trim form.username.toList).isEmpty ∨ form.password.isEmpty) := by
  simp [taken.named, taken.worded]

/-- A login leaves its log entry and nothing else. -/
theorem TakesLogin.shared (taken : app.TakesLogin occasion login form) :
    (app.handle occasion login).2.shared = logEntry app.shared (login.entry occasion.now) := by
  obtain ⟨admitted, passed⟩ := taken.passed
  rw [(handle_entered taken.routed passed taken.logs).2]
  exact ((app.service occasion).login_idle login _).2

/-- It succeeds for those who are known, and the others are all answered the same. -/
theorem TakesLogin.answer (taken : app.TakesLogin occasion login form) :
    (app.tables.Knows form.username form.password ∧ (app.handle occasion login).1.status = 200) ∨
      (¬ app.tables.Knows form.username form.password ∧
        (app.handle occasion login).1 = Fault.wrongCredentials.response) := by
  obtain ⟨admitted, passed⟩ := taken.passed
  rw [Tables.knows_iff]
  cases found : app.tables.user? form.username with
  | none =>
      refine .inr ⟨by simp, ?_⟩
      rw [(handle_entered taken.routed passed taken.logs).1,
        Service.run_login_unknown taken.asked taken.logs.1 taken.logs.2.1
          ((user?_logEntry _ _ _).trans found),
        if_neg taken.filled]
      rfl
  | some u =>
      rw [handle_login taken.routed passed taken.logs taken.asked found, if_neg taken.filled]
      by_cases fits : Password.matches? form.password u.passwordHash = some true
      · rw [if_neg (not_not.mpr fits)]
        exact .inl ⟨⟨u, rfl, fits⟩, rfl⟩
      · rw [if_pos fits]
        exact .inr ⟨fun ⟨other, same, fits'⟩ => fits (Option.some.inj same ▸ fits'), rfl⟩

theorem TakesLogin.success_iff (taken : app.TakesLogin occasion login form) :
    (app.handle occasion login).1.status = 200 ↔
      app.tables.Knows form.username form.password := by
  obtain ⟨known, success⟩ | ⟨unknown, refused⟩ := taken.answer
  · exact iff_of_true success known
  · rw [refused]
    exact iff_of_false nofun unknown

/-- A refused login says nothing about the users. Whoever is stored in two databases, the same login
gets the same answer from both unless one of them lets it in, and both only log it. To be let in,
the password has to fit the hash of the first user of the name. -/
theorem login_discreet {app other : App Memory} {occasion later : Occasion} {login : Request}
    {form : LoginForm} (taken : app.TakesLogin occasion login form)
    (again : other.TakesLogin later login form) :
    ((app.handle occasion login).1.status ≠ 200 → (other.handle later login).1.status ≠ 200 →
      (app.handle occasion login).1 = (other.handle later login).1 ∧
        (app.handle occasion login).1 = ⟨401, .json (.record ["success", "error", "data"]
          [.bool false, .str "invalid credentials", .null])⟩) ∧
      (app.handle occasion login).2.shared = logEntry app.shared (login.entry occasion.now) ∧
      (other.handle later login).2.shared = logEntry other.shared (login.entry later.now) ∧
      ((app.handle occasion login).1.status = 200 ↔
        app.tables.Knows form.username form.password) ∧
      ((other.handle later login).1.status = 200 ↔
        other.tables.Knows form.username form.password) := by
  refine ⟨fun refused refused' => ?_, taken.shared, again.shared, taken.success_iff,
    again.success_iff⟩
  have answer := (taken.answer.resolve_left fun known => refused known.2).2
  have answer' := (again.answer.resolve_left fun known => refused' known.2).2
  rw [answer, answer']
  exact ⟨rfl, rfl⟩

/-- A service with one user, whose hash cannot be read. -/
def withGarbled : App Memory where
  config := {}
  shared.store.tables.users := [⟨1, "zoe", "not-a-phc-string", "", 0, false, .epoch, .epoch⟩]

/-- A service that nobody can log in to. -/
def withNobody : App Memory where
  config := {}
  shared := { store := {} }

/-- She is not told that her hash is broken, and nobody that she is a user. -/
theorem login_discreet_zoe :
    let login := Request.loggingIn ⟨"zoe", "secret"⟩
    (withGarbled.handle .epoch login).1 = (withNobody.handle .epoch login).1 ∧
      (withGarbled.handle .epoch login).1.status = 401 := by
  intro login
  have asked : login.json? {} LoginForm.ofJson? = .ok ⟨"zoe", "secret"⟩ :=
    Request.json?_loggingIn _ (by decide +kernel)
  have taken : withGarbled.TakesLogin .epoch login ⟨"zoe", "secret"⟩ :=
    ⟨by decide +kernel, ⟨_, rfl⟩, ⟨rfl, rfl, rfl, rfl⟩, asked, by decide, by decide⟩
  have again : withNobody.TakesLogin .epoch login ⟨"zoe", "secret"⟩ :=
    ⟨by decide +kernel, ⟨_, rfl⟩, ⟨rfl, rfl, rfl, rfl⟩, asked, by decide, by decide⟩
  have garbled : ¬ withGarbled.tables.Knows "zoe" "secret" := by
    rw [Tables.knows_iff]
    rintro ⟨u, found, fits⟩
    cases found
    exact absurd fits (by decide +kernel)
  have nobody : ¬ withNobody.tables.Knows "zoe" "secret" := by
    rw [Tables.knows_iff]
    rintro ⟨u, found, -⟩
    cases found
  obtain ⟨same, -, -, known, known'⟩ := login_discreet taken again
  obtain ⟨equal, answer⟩ := same (mt known.mp garbled) (mt known'.mp nobody)
  exact ⟨equal, by rw [answer]⟩

end App
end Http
end Wagebook
