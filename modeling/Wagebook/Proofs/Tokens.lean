import Wagebook.Proofs.Encodings
import Wagebook.Proofs.JsonText
import Wagebook.Proofs.Records
import Wagebook.Token

/-!
A token is read as the claims that it was signed for, by everyone who has the secret, until its time
is up.
-/

namespace Wagebook

/-- The bytes of a text give its characters back. -/
theorem Json.Exact.charsOf?_render {v : Json} (h : Exact v) :
    charsOf? (Text.utf8 v.render) = some (write v []) := by
  have proper : '\x00' ∉ write v [] := by
    intro mem
    exact absurd (h.printable printable_nil _ mem) (by decide)
  rw [charsOf?_utf8 (by rwa [render, String.toList_ofList]), render, String.toList_ofList]

namespace Token

namespace Registered

/-- These are read as far as a value goes that is no array and no object. -/
def Name.isScalar : Name → Bool
  | .expires | .notBefore | .subject => true
  | .issuer | .audience => false

/-- A value that is read in one go: it is no array and no object. -/
structure Flat (v : Json) : Prop where
  first : ∀ rest, ∃ c cs, Json.write v rest = c :: cs ∧ Json.isSpace c = false ∧ c ≠ '[' ∧
    c ≠ '\x7b'
  read : ∀ {rest}, Json.EndsNumber rest → readScalar (Json.write v rest) = .ok (v, rest)

theorem flat_str (s : String) : Flat (.str s) where
  first _ := ⟨_, _, rfl, by decide, by decide, by decide⟩
  read {rest} _ := by rw [readScalar, Json.readValue_str]

theorem flat_nat {n : Nat} (small : n < 0x10000000000000000) : Flat (.nat n) where
  first rest := by
    obtain ⟨c, cs, written, number⟩ := Json.exists_ofInt n
    refine ⟨c, cs ++ rest, ?_, Json.isSpace_of_number number, ?_, ?_⟩
    · rw [Json.nat, Json.write, written, List.cons_append]
    · rintro rfl
      exact absurd number (by decide)
    · rintro rfl
      exact absurd number (by decide)
  read {rest} ends := by
    have number : Json.number? n = some (.int n) := by
      rw [Json.number?, if_pos ⟨by omega, by omega⟩]
    rw [readScalar, Json.nat, Json.readValue_int n 0 ends]
    simp [number]

theorem readClaim_flat {name : Name} (scalar : name.isScalar) {v : Json} (flat : Flat v)
    {rest : List Char} (ends : Json.EndsNumber rest) :
    readClaim name (Json.write v rest) = (false, rest) := by
  obtain ⟨c, cs, written, solid, array, object⟩ := flat.first rest
  have read := flat.read ends
  rw [written] at read ⊢
  cases name with
  | issuer => cases scalar
  | audience => cases scalar
  | _ => simp [readClaim, Json.skipSpace_cons solid, array, object, read, ending]

/-- A member of claims that names no audience. -/
structure Silent (m : String × Json) : Prop where
  exact : m.2.Exact
  flat : ∀ {name}, Name.ofKey? m.1 = some name → name.isScalar ∧ Flat m.2

theorem readClaims_member {m : String × Json} (silent : Silent m) {seen : List Name}
    (fresh : ∀ {name}, Name.ofKey? m.1 = some name → name ∉ seen) (fuel : Nat) (found : Bool)
    {after : List Char} (ends : Json.EndsNumber after) :
    readClaims (fuel + 1) seen found (Json.writeString m.1 (':' :: Json.write m.2 after)) =
      match Json.skipSpace after with
      | ',' :: rest => readClaims fuel ((Name.ofKey? m.1).toList ++ seen) found rest
      | '\x7d' :: rest => if (Json.skipSpace rest).isEmpty then some found else none
      | _ => none := by
  obtain ⟨text, written, read⟩ := Json.readString_writeString m.1 (':' :: Json.write m.2 after)
  rw [written, readClaims, Json.skipSpace_cons (by decide)]
  simp only [read, Option.bind_eq_bind, Option.bind_some,
    Json.skipSpace_cons (show Json.isSpace ':' = false by decide)]
  cases known : Name.ofKey? m.1 with
  | none =>
      have value := silent.exact.reads (2 * (Json.write m.2 after).length + 2) after ends (by omega)
      simp only [value, Option.map_some, Option.bind_some]
      rfl
  | some name =>
      obtain ⟨scalar, flat⟩ := silent.flat known
      simp only [List.contains_eq_mem, fresh known, decide_false, Bool.false_eq_true, if_false,
        readClaim_flat scalar flat ends, Bool.or_false]
      rfl

/-- What the members of an object say about the token, in order. -/
def named (ms : List (String × Json)) : List Name := ms.flatMap fun m => (Name.ofKey? m.1).toList

theorem nodup_named {m : String × Json} {ms : List (String × Json)} {seen : List Name}
    (distinct : (named (m :: ms) ++ seen).Nodup) :
    (∀ {name}, Name.ofKey? m.1 = some name → name ∉ seen) ∧
      (named ms ++ ((Name.ofKey? m.1).toList ++ seen)).Nodup := by
  have split : named (m :: ms) ++ seen = (Name.ofKey? m.1).toList ++ (named ms ++ seen) := by
    rw [named, List.flatMap_cons, List.append_assoc, named]
  have moved : (named (m :: ms) ++ seen).Perm (named ms ++ ((Name.ofKey? m.1).toList ++ seen)) := by
    rw [split]
    exact List.perm_append_comm_assoc _ _ _
  refine ⟨fun known mem => ?_, moved.nodup_iff.mp distinct⟩
  rw [split, known, Option.toList_some, List.singleton_append, List.nodup_cons] at distinct
  exact distinct.1 (List.mem_append_right _ mem)

theorem readClaims_write {m : String × Json} {ms : List (String × Json)}
    (silent : ∀ n ∈ m :: ms, Silent n) {seen : List Name}
    (distinct : (named (m :: ms) ++ seen).Nodup) {fuel : Nat} (enough : ms.length < fuel)
    (found : Bool) :
    readClaims fuel seen found
      (Json.writeString m.1 (':' :: Json.write m.2 (Json.writeMembers ms []))) = some found := by
  obtain ⟨fuel, rfl⟩ := Nat.exists_eq_add_one_of_ne_zero (Nat.ne_zero_of_lt enough)
  induction ms generalizing m seen fuel with
  | nil =>
      rw [Json.writeMembers, readClaims_member (silent m List.mem_cons_self)
        (nodup_named distinct).1 fuel found (Json.endsNumber_cons (by decide) (by decide) []),
        Json.skipSpace_cons (by decide)]
      rfl
  | cons n ms ih =>
      rw [Json.writeMembers, readClaims_member (silent m List.mem_cons_self)
        (nodup_named distinct).1 fuel found (Json.endsNumber_cons (by decide) (by decide) _),
        Json.skipSpace_cons (by decide)]
      rw [List.length_cons, Nat.succ_lt_succ_iff] at enough
      obtain ⟨fuel, rfl⟩ := Nat.exists_eq_add_one_of_ne_zero (Nat.ne_zero_of_lt enough)
      exact ih (fun u mem => silent u (List.mem_cons_of_mem m mem)) (nodup_named distinct).2 fuel
        enough

theorem length_lt_write (key : String) (v : Json) (exact : v.Exact) (ms : List (String × Json))
    (members : ∀ m ∈ ms, m.2.Exact) : ms.length <
      (Json.writeString key (':' :: Json.write v (Json.writeMembers ms []))).length := by
  induction ms generalizing key v with
  | nil => exact Nat.zero_lt_of_lt (Json.length_writeString _ _)
  | cons m ms ih =>
      have later := ih m.1 m.2 (members m List.mem_cons_self)
        fun n mem => members n (List.mem_cons_of_mem m mem)
      have first := Json.length_member key (exact.starts (Json.writeMembers (m :: ms) []))
      rw [Json.writeMembers] at first ⊢
      simp only [List.length_cons] at first ⊢
      omega

/-- An object is read through and found to name no audience. -/
theorem hasAudience?_write {m : String × Json} {ms : List (String × Json)}
    (silent : ∀ n ∈ m :: ms, Silent n) (distinct : (named (m :: ms)).Nodup) :
    hasAudience? (Json.write (.obj (m :: ms)) []) = some false := by
  rw [hasAudience?, Json.write, Json.skipSpace_cons (by decide)]
  exact readClaims_write silent (by rwa [List.append_nil])
    (length_lt_write m.1 m.2 (silent m List.mem_cons_self).exact ms
      fun n mem => (silent n (List.mem_cons_of_mem m mem)).exact) false

end Registered

end Token

namespace Claims

/-- The numbers are of the kinds that are written. -/
structure Fits (c : Claims) : Prop where
  user : c.user < 0x10000000000000000
  role : c.role < 0x100
  expires : c.expires < 0x10000000000000000
  issuedAt : c.issuedAt < 0x10000000000000000

theorem exact (c : Claims) : c.toJson.Exact :=
  Json.exact_record (by simp [Json.exact_nat, Json.Exact.str])

theorem ofJson?_toJson {c : Claims} (h : c.Fits) : ofJson? c.toJson = some c := by
  refine Json.read_record (by decide) rfl ?_
  have role : (Json.nat c.role).nat8? = some c.role := Json.natBelow?_nat h.role
  simp [ofFields?, Json.nat64?_nat h.user, role, Json.nat64?_nat h.expires,
    Json.nat64?_nat h.issuedAt, Json.str?]

theorem Fits.silent {c : Claims} (h : c.Fits) :
    ∀ m ∈ fieldNames.zip [.nat c.user, .str c.username, .nat c.role, .nat c.expires,
      .nat c.issuedAt, .str c.tokenId], Token.Registered.Silent m := by
  have unnamed {key : String} {v : Json} (exact : v.Exact)
      (other : Token.Registered.Name.ofKey? key = none) : Token.Registered.Silent (key, v) :=
    ⟨exact, fun known => by rw [other] at known; cases known⟩
  simp only [fieldNames, List.zip_cons_cons, List.zip_nil_right, List.forall_mem_cons]
  refine ⟨unnamed (.int _) (by decide), ⟨.str _, ?_⟩, unnamed (.int _) (by decide), ⟨.int _, ?_⟩,
    unnamed (.int _) (by decide), unnamed (.str _) (by decide), List.forall_mem_nil _⟩
  · rintro _ ⟨⟩
    exact ⟨rfl, Token.Registered.flat_str c.username⟩
  · rintro _ ⟨⟩
    exact ⟨rfl, Token.Registered.flat_nat h.expires⟩

theorem hasAudience?_toJson {c : Claims} (h : c.Fits) :
    Token.Registered.hasAudience? (Json.write c.toJson []) = some false :=
  Token.Registered.hasAudience?_write h.silent
    (show [Token.Registered.Name.subject, .expires].Nodup by decide)

end Claims

namespace Token

theorem splitLast_append (before : List Char) {after : List Char} (h : '.' ∉ after) :
    splitLast (before ++ '.' :: after) = some (before, after) := by
  have plain : ∀ c ∈ after.reverse, decide (c ≠ '.') = true := by
    intro c mem
    rw [List.mem_reverse] at mem
    exact decide_eq_true fun eq => h (eq ▸ mem)
  have reversed : (before ++ '.' :: after).reverse = after.reverse ++ '.' :: before.reverse := by
    simp
  rw [splitLast, reversed, List.dropWhile_append_of_pos plain, List.takeWhile_append_of_pos plain]
  simp

theorem readSegment_segment {v : Json} (h : v.Exact) :
    readSegment (segment v) = .ok (Json.write v []) := by
  rw [readSegment, segment, Text.Base64.decode?_encode Text.Base64.legible_url]
  simp only [h.charsOf?_render]

theorem exact_header : header.Exact := .obj (by simp [Json.Exact.str])

/-- Whoever has the secret reads the claims of a token until a minute after its end. -/
theorem verify_sign (secret : String) {claims : Claims} (fits : claims.Fits) (now : Stamp) :
    verify now secret (sign secret claims) =
      if (claims.expires : Int) < now.unixSeconds - leeway then .error .expired
      else .ok claims := by
  have parts : splitLast (sign secret claims).toList =
      some (segment header ++ '.' :: segment claims.toJson,
        signature secret (segment header ++ '.' :: segment claims.toJson)) := by
    rw [sign, String.toList_ofList]
    exact splitLast_append _ (Text.Base64.dot_not_mem_encode _)
  have message : splitLast (segment header ++ '.' :: segment claims.toJson) =
      some (segment header, segment claims.toJson) :=
    splitLast_append _ (Text.Base64.dot_not_mem_encode _)
  have head : (Json.read? (Json.write header [])).bind algorithm? = some algorithm := by
    rw [exact_header.read?_write]
    decide
  have body : (Json.read? (Json.write claims.toJson [])).bind Claims.ofJson? = some claims := by
    rw [claims.exact.read?_write, Option.bind_some, Claims.ofJson?_toJson fits]
  have audience := Claims.hasAudience?_toJson fits
  unfold verify
  simp only [parts, message, readSegment_segment exact_header, readSegment_segment claims.exact,
    bind, Except.bind, head, body, audience, ne_eq, not_true_eq_false, if_false]
  split <;> rfl

theorem visible_sign {secret : String} {claims : Claims} {c : Char}
    (mem : c ∈ (sign secret claims).toList) : 32 ≤ c.toNat ∧ c.toNat < 127 := by
  simp only [sign, String.toList_ofList, List.mem_append, List.mem_cons] at mem
  rcases mem with (head | rfl | payload) | rfl | given
  · exact Text.Base64.visible_of_mem_encode head
  · decide
  · exact Text.Base64.visible_of_mem_encode payload
  · decide
  · exact Text.Base64.visible_of_mem_encode given

end Token
end Wagebook
