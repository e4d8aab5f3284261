import Wagebook.Json.Reader
import Wagebook.Json.Record
import Wagebook.Json.Writer
import Wagebook.Proofs.CalendarText

/-!
A value is read back from its text, as long as it holds no spelling of a number. The writer puts no
white space and no character below the space into a text, and what stands behind a value in it never
goes on with a number.
-/

namespace Wagebook

namespace Text

theorem isDigit_of_mem_ofNat {n : Nat} {c : Char} (h : c ∈ ofNat n) : isDigit c = true :=
  @isDigit_of_mem_padded 0 n c (List.mem_append_right _ h)

theorem ofNat_ne_nil (n : Nat) : ofNat n ≠ [] := by
  simp [ofNat]

theorem valueOfDigits_ofNat (n : Nat) : valueOfDigits (ofNat n) = n := by
  rw [valueOfDigits_eq, ofNat, Nat.ofDigitChars_ten_toDigits]

theorem digitChar_ne_zero {n : Nat} (pos : 0 < n) (lt : n < 10) : n.digitChar ≠ '0' := by
  have all : ∀ n : Fin 10, n.val ≠ 0 → n.val.digitChar ≠ '0' := by decide
  exact all ⟨n, lt⟩ (Nat.ne_of_gt pos)

/-- A number is written without leading zeros. -/
theorem head?_ofNat {n : Nat} (pos : 0 < n) : (ofNat n).head? ≠ some '0' := by
  induction n using Nat.strongRecOn with
  | ind n ih =>
      rw [ofNat, Nat.toDigits_eq_if (by decide)]
      split
      · rename_i lt
        simpa using digitChar_ne_zero pos lt
      · rename_i ge
        have higher : 0 < n / 10 := by omega
        have first := ih (n / 10) (by omega) higher
        cases digits : ofNat (n / 10) with
        | nil => exact absurd digits (ofNat_ne_nil _)
        | cons d ds =>
            rw [digits] at first
            rw [show Nat.toDigits 10 (n / 10) = d :: ds from digits]
            exact first

end Text

namespace Json

/-- No number goes on with what starts so. -/
def EndsNumber (rest : List Char) : Prop :=
  ∀ c, rest.head? = some c → Text.isDigit c = false ∧ c ≠ '.' ∧ c ≠ 'e' ∧ c ≠ 'E'

theorem endsNumber_nil : EndsNumber [] := nofun

theorem endsNumber_cons {c : Char} (digit : Text.isDigit c = false)
    (other : c ≠ '.' ∧ c ≠ 'e' ∧ c ≠ 'E') (rest : List Char) : EndsNumber (c :: rest) := by
  rintro d first
  cases first
  exact ⟨digit, other⟩

section Numbers
variable {rest : List Char} (ends : EndsNumber rest)
include ends

theorem takeWhile_isDigit_ofNat (n : Nat) :
    (Text.ofNat n ++ rest).takeWhile Text.isDigit = Text.ofNat n ∧
      (Text.ofNat n ++ rest).dropWhile Text.isDigit = rest := by
  have digits : ∀ c ∈ Text.ofNat n, Text.isDigit c = true := fun c => Text.isDigit_of_mem_ofNat
  rw [List.takeWhile_append_of_pos digits, List.dropWhile_append_of_pos digits]
  cases rest with
  | nil => simp
  | cons c rest => simp [(ends c rfl).1]

theorem readFraction_of_ends : readFraction rest = some ([], rest) := by
  unfold readFraction
  split
  · exact absurd rfl (ends '.' rfl).2.1
  · rfl

theorem readExponent_of_ends : readExponent rest = some ([], rest) := by
  cases rest with
  | nil => rfl
  | cons c rest =>
      obtain ⟨-, -, lower, upper⟩ := ends c rfl
      simp [readExponent, lower, upper]

/-- Minus zero would be no whole number. -/
theorem readUnsigned_ofNat (n : Nat) (negative : Bool) (proper : negative = true → n ≠ 0) :
    readUnsigned negative (Text.ofNat n ++ rest) =
      some (.int (if negative then -n else n), rest) := by
  obtain ⟨whole, after⟩ := takeWhile_isDigit_ofNat ends n
  have leading : ((Text.ofNat n).isEmpty ||
      (decide ((Text.ofNat n).length > 1) && (Text.ofNat n).head? == some '0')) = false := by
    rcases Nat.eq_zero_or_pos n with rfl | pos
    · decide
    · simp [Text.ofNat_ne_nil, Text.head?_ofNat pos]
  unfold readUnsigned
  simp only [whole, after, leading, readFraction_of_ends ends, Text.valueOfDigits_ofNat]
  cases negative with
  | false => simp [readExponent_of_ends ends]
  | true => simp [readExponent_of_ends ends, proper rfl]

theorem readNumber_ofInt (n : Int) : readNumber (Text.ofInt n ++ rest) = some (.int n, rest) := by
  cases n with
  | ofNat n =>
      have read := readUnsigned_ofNat ends n false nofun
      obtain ⟨d, ds, digits⟩ := List.exists_cons_of_ne_nil (Text.ofNat_ne_nil n)
      have first : Text.isDigit d = true := Text.isDigit_of_mem_ofNat (digits ▸ List.mem_cons_self)
      rw [digits] at read
      rw [Text.ofInt, digits]
      unfold readNumber
      split
      · rename_i minus
        cases minus
        exact absurd first (by decide)
      · exact read
  | negSucc n => exact readUnsigned_ofNat ends (n + 1) true nofun

end Numbers

theorem unit16?_hexDigit {n : Nat} (h : n < 0x20) :
    unit16? '0' '0' (Text.hexDigit (n / 16)) (Text.hexDigit (n % 16)) = some n := by
  have all : ∀ n : Fin 0x20,
      unit16? '0' '0' (Text.hexDigit (n.val / 16)) (Text.hexDigit (n.val % 16)) = some n.val := by
    decide
  exact all ⟨n, h⟩

/-- An escape is read as the one character that it was written for. -/
theorem readString_escaped (seen : List Char) (c : Char) (rest : List Char) :
    readString ⟨seen, none, true⟩ (escaped c ++ rest) =
      readString ⟨c :: seen, none, true⟩ rest := by
  unfold escaped
  split
  · rename_i quote
    rw [quote]
    rfl
  split
  · rename_i backslash
    rw [backslash]
    rfl
  split
  · rename_i short
    rw [short]
    rfl
  split
  · rename_i short
    rw [short]
    rfl
  split
  · rename_i short
    rw [short]
    rfl
  split
  · rename_i short
    rw [short]
    rfl
  split
  · rename_i short
    rw [short]
    rfl
  rename_i quote backslash _ _ _ _ _
  split
  · rename_i low
    have unit : Spelled.unit ⟨seen, none, true⟩ c.toNat = ⟨c :: seen, none, true⟩ := by
      have high : isHighSurrogate c.toNat = false := by simp [isHighSurrogate]; omega
      have last : isLowSurrogate c.toNat = false := by simp [isLowSurrogate]; omega
      simp [Spelled.unit, high, last]
    simp only [List.cons_append, List.nil_append, readString, unit16?_hexDigit low, unit]
  · rename_i high
    have proper : c ≠ gap := by
      rintro rfl
      exact high (by decide)
    rw [List.singleton_append, readString.eq_def]
    split
    · rename_i eq
      cases eq
    · rename_i eq
      cases eq
      exact absurd rfl quote
    · rename_i eq
      cases eq
      exact absurd rfl backslash
    · rename_i eq
      cases eq
      exact absurd rfl backslash
    · rename_i eq
      cases eq
      simp [backslash, high, Spelled.plain, proper, Spelled.char]

/-- The characters of a string as the writer puts them, with the closing quote. -/
theorem readString_written (cs seen rest : List Char) :
    readString ⟨seen, none, true⟩ (cs.foldr (fun c acc => escaped c ++ acc) ('"' :: rest)) =
      some (some (String.ofList (seen.reverse ++ cs)), rest) := by
  induction cs generalizing seen with
  | nil => simp [readString, Spelled.value?]
  | cons c cs ih =>
      rw [List.foldr_cons, readString_escaped, ih, List.reverse_cons, List.append_assoc,
        List.singleton_append]

theorem readString_writeString (s : String) (rest : List Char) :
    ∃ cs, writeString s rest = '"' :: cs ∧ readString {} cs = some (some s, rest) := by
  refine ⟨_, rfl, ?_⟩
  rw [readString_written, List.reverse_nil, List.nil_append, String.ofList_toList]

theorem exists_ofInt (n : Int) : ∃ c cs, Text.ofInt n = c :: cs ∧ (Text.isDigit c ∨ c = '-') := by
  cases n with
  | ofNat n =>
      obtain ⟨d, ds, digits⟩ := List.exists_cons_of_ne_nil (Text.ofNat_ne_nil n)
      exact ⟨d, ds, digits, .inl (Text.isDigit_of_mem_ofNat (digits ▸ List.mem_cons_self))⟩
  | negSucc n => exact ⟨_, _, rfl, .inr rfl⟩

theorem isSpace_of_number {c : Char} (number : Text.isDigit c ∨ c = '-') : isSpace c = false := by
  rcases number with digit | rfl
  · obtain ⟨least, -⟩ := Text.isDigit_iff.mp digit
    simp only [isSpace, Bool.or_eq_false_iff, decide_eq_false_iff_not]
    refine ⟨⟨⟨?_, ?_⟩, ?_⟩, ?_⟩ <;> rintro rfl <;> exact absurd least (by decide)
  · decide

theorem skipSpace_cons {c : Char} (solid : isSpace c = false) (cs : List Char) :
    skipSpace (c :: cs) = c :: cs := by
  simp [skipSpace, solid]

/-- What starts as a number is read as one. -/
theorem readValue_number {c : Char} (number : Text.isDigit c ∨ c = '-') (fuel : Nat)
    (cs : List Char) : readValue (fuel + 1) (c :: cs) = readNumber (c :: cs) := by
  have other {d : Char} {ds : List Char} (no : ¬ (Text.isDigit d ∨ d = '-')) :
      c :: cs ≠ d :: ds := by
    intro eq
    cases eq
    exact no number
  rw [readValue, skipSpace_cons (isSpace_of_number number)]
  split
  · rename_i eq
    exact absurd eq (other (by decide))
  · rename_i eq
    exact absurd eq (other (by decide))
  · rename_i eq
    exact absurd eq (other (by decide))
  · rename_i eq
    exact absurd eq (other (by decide))
  · rename_i eq
    exact absurd eq (other (by decide))
  · rename_i eq
    exact absurd eq (other (by decide))
  · rfl

theorem readValue_int (n : Int) (fuel : Nat) {rest : List Char} (ends : EndsNumber rest) :
    readValue (fuel + 1) (write (.int n) rest) = some (.int n, rest) := by
  obtain ⟨c, cs, written, number⟩ := exists_ofInt n
  have read := readNumber_ofInt ends n
  rw [write, written, List.cons_append] at *
  rw [readValue_number number, read]

theorem readValue_str (s : String) (fuel : Nat) (rest : List Char) :
    readValue (fuel + 1) (write (.str s) rest) = some (.str s, rest) := by
  obtain ⟨cs, written, read⟩ := readString_writeString s rest
  rw [write, written, readValue, skipSpace_cons (by decide)]
  simp [read]

theorem readValue_arr {c : Char} (solid : isSpace c = false) (other : c ≠ ']') {cs : List Char}
    (read : readItems fuel (c :: cs) = some (vs, rest)) :
    readValue (fuel + 1) ('[' :: c :: cs) = some (.arr vs, rest) := by
  rw [readValue, skipSpace_cons (by decide)]
  simp only [skipSpace_cons solid]
  split
  · rename_i eq
    cases eq
    exact absurd rfl other
  · rw [read]
    rfl

/-- The value holds no spelling of a number, and everything in it has a value. -/
inductive Exact : Json → Prop
  | null : Exact .null
  | bool (b : Bool) : Exact (.bool b)
  | int (n : Int) : Exact (.int n)
  | str (s : String) : Exact (.str s)
  | arr (items : ∀ v ∈ vs, Exact v) : Exact (.arr vs)
  | obj (members : ∀ m ∈ ms, Exact m.2) : Exact (.obj ms)

theorem exact_record {names : List String} {values : List Json} (h : ∀ v ∈ values, Exact v) :
    Exact (record names values) :=
  .obj fun _ mem => h _ (List.of_mem_zip mem).2

theorem exact_nat (n : Nat) : Exact (nat n) := .int n

/-- How the text of a value starts, and that it has one. -/
structure Starts (v : Json) (rest : List Char) : Prop where
  first : ∃ c cs, write v rest = c :: cs ∧ isSpace c = false ∧ c ≠ ']'
  length : rest.length < (write v rest).length

theorem length_writeString (s : String) (rest : List Char) :
    rest.length < (writeString s rest).length := by
  rw [writeString]
  induction s.toList with
  | nil =>
      simp only [List.foldr_nil, List.length_cons]
      omega
  | cons c cs ih =>
      simp only [List.foldr_cons, List.length_cons, List.length_append] at ih ⊢
      omega

theorem length_writeItems {vs : List Json} (items : ∀ v ∈ vs, ∀ rest, Starts v rest)
    (rest : List Char) : rest.length < (writeItems vs rest).length := by
  induction vs with
  | nil => simp [writeItems]
  | cons v vs ih =>
      have later := ih fun w mem => items w (List.mem_cons_of_mem v mem)
      have first := (items v List.mem_cons_self (writeItems vs rest)).length
      rw [writeItems, List.length_cons]
      omega

theorem length_member (key : String) {v : Json} (starts : Starts v rest) :
    rest.length + 1 < (writeString key (':' :: write v rest)).length := by
  have value := starts.length
  have all := length_writeString key (':' :: write v rest)
  rw [List.length_cons] at all
  omega

theorem length_writeMembers {ms : List (String × Json)}
    (members : ∀ m ∈ ms, ∀ rest, Starts m.2 rest) (rest : List Char) :
    rest.length < (writeMembers ms rest).length := by
  induction ms with
  | nil => simp [writeMembers]
  | cons m ms ih =>
      have later := ih fun w mem => members w (List.mem_cons_of_mem m mem)
      have first := length_member m.1 (members m List.mem_cons_self (writeMembers ms rest))
      rw [writeMembers, List.length_cons]
      omega

theorem Exact.starts {v : Json} (h : Exact v) (rest : List Char) : Starts v rest := by
  induction h generalizing rest with
  | null => exact ⟨⟨_, _, rfl, by decide, by decide⟩, by simp only [write, List.length_cons]; omega⟩
  | bool b =>
      cases b with
      | false =>
          exact ⟨⟨_, _, rfl, by decide, by decide⟩, by simp only [write, List.length_cons]; omega⟩
      | true =>
          exact ⟨⟨_, _, rfl, by decide, by decide⟩, by simp only [write, List.length_cons]; omega⟩
  | int n =>
      obtain ⟨c, cs, written, number⟩ := exists_ofInt n
      have text : write (.int n) rest = c :: (cs ++ rest) := by
        rw [write, written, List.cons_append]
      refine ⟨⟨c, _, text, isSpace_of_number number, ?_⟩, ?_⟩
      · rintro rfl
        exact absurd number (by decide)
      · rw [text, List.length_cons, List.length_append]
        omega
  | str s => exact ⟨⟨_, _, rfl, by decide, by decide⟩, length_writeString s rest⟩
  | @arr vs items ih =>
      cases vs with
      | nil =>
          exact ⟨⟨_, _, rfl, by decide, by decide⟩, by simp only [write, List.length_cons]; omega⟩
      | cons v vs =>
          have first := (ih v List.mem_cons_self (writeItems vs rest)).length
          have later := length_writeItems (fun w mem => ih w (List.mem_cons_of_mem v mem)) rest
          refine ⟨⟨_, _, rfl, by decide, by decide⟩, ?_⟩
          rw [write, List.length_cons]
          omega
  | @obj ms members ih =>
      cases ms with
      | nil =>
          exact ⟨⟨_, _, rfl, by decide, by decide⟩, by simp only [write, List.length_cons]; omega⟩
      | cons m ms =>
          have first := length_member m.1 (ih m List.mem_cons_self (writeMembers ms rest))
          have later := length_writeMembers (fun w mem => ih w (List.mem_cons_of_mem m mem)) rest
          refine ⟨⟨_, _, rfl, by decide, by decide⟩, ?_⟩
          rw [write, List.length_cons]
          omega

/-- The value is read back from the front of a text, with what stands behind it left over. Two steps
for each character are enough. -/
def Reads (v : Json) : Prop :=
  ∀ fuel rest, EndsNumber rest → 2 * (write v rest).length ≤ fuel →
    readValue fuel (write v rest) = some (v, rest)

theorem readItems_last {fuel : Nat} {v : Json} {cs rest : List Char}
    (last : readValue fuel cs = some (v, ']' :: rest)) :
    readItems (fuel + 1) cs = some ([v], rest) := by
  rw [readItems, last]
  rfl

theorem readItems_more {fuel : Nat} {v : Json} {vs : List Json} {cs after rest : List Char}
    (first : readValue fuel cs = some (v, ',' :: after))
    (later : readItems fuel after = some (vs, rest)) :
    readItems (fuel + 1) cs = some (v :: vs, rest) := by
  rw [readItems, first]
  change (readItems fuel after >>= _) = _
  rw [later]
  rfl

theorem readItems_write {v : Json} {vs : List Json} (exact : ∀ w ∈ v :: vs, Exact w)
    (reads : ∀ w ∈ v :: vs, Reads w) (fuel : Nat) (rest : List Char)
    (enough : 2 * (write v (writeItems vs rest)).length ≤ fuel) :
    readItems (fuel + 1) (write v (writeItems vs rest)) = some (v :: vs, rest) := by
  induction vs generalizing v fuel with
  | nil =>
      exact readItems_last (reads v List.mem_cons_self fuel (']' :: rest)
        (endsNumber_cons (by decide) (by decide) rest) enough)
  | cons w vs ih =>
      rw [writeItems] at enough ⊢
      have first := reads v List.mem_cons_self fuel (',' :: write w (writeItems vs rest))
        (endsNumber_cons (by decide) (by decide) _) enough
      have shorter :=
        ((exact v List.mem_cons_self).starts (',' :: write w (writeItems vs rest))).length
      rw [List.length_cons] at shorter
      obtain ⟨fuel, rfl⟩ := Nat.exists_eq_add_one_of_ne_zero (show fuel ≠ 0 by omega)
      have later := ih (fun u mem => exact u (List.mem_cons_of_mem v mem))
        (fun u mem => reads u (List.mem_cons_of_mem v mem)) fuel (by omega)
      exact readItems_more first later

theorem readMembers_last {fuel : Nat} {key : String} {v : Json} {cs rest : List Char}
    (last : readValue fuel cs = some (v, '\x7d' :: rest)) :
    readMembers (fuel + 1) (writeString key (':' :: cs)) = some (some [(key, v)], rest) := by
  obtain ⟨text, written, read⟩ := readString_writeString key (':' :: cs)
  rw [written, readMembers, skipSpace_cons (by decide)]
  change (readString {} text >>= _) = _
  rw [read]
  change (readValue fuel cs >>= _) = _
  rw [last]
  rfl

theorem readMembers_more {fuel : Nat} {key : String} {v : Json} {ms : List (String × Json)}
    {cs after rest : List Char} (first : readValue fuel cs = some (v, ',' :: after))
    (later : readMembers fuel after = some (some ms, rest)) :
    readMembers (fuel + 1) (writeString key (':' :: cs)) = some (some ((key, v) :: ms), rest) := by
  obtain ⟨text, written, read⟩ := readString_writeString key (':' :: cs)
  rw [written, readMembers, skipSpace_cons (by decide)]
  change (readString {} text >>= _) = _
  rw [read]
  change (readValue fuel cs >>= _) = _
  rw [first]
  change (readMembers fuel after >>= _) = _
  rw [later]
  rfl

theorem readMembers_write {m : String × Json} {ms : List (String × Json)}
    (exact : ∀ n ∈ m :: ms, Exact n.2) (reads : ∀ n ∈ m :: ms, Reads n.2) (fuel : Nat)
    (rest : List Char)
    (enough : 2 * (writeString m.1 (':' :: write m.2 (writeMembers ms rest))).length ≤ fuel) :
    readMembers (fuel + 1) (writeString m.1 (':' :: write m.2 (writeMembers ms rest))) =
      some (some (m :: ms), rest) := by
  have key := length_writeString m.1 (':' :: write m.2 (writeMembers ms rest))
  rw [List.length_cons] at key
  induction ms generalizing m fuel with
  | nil =>
      exact readMembers_last (reads m List.mem_cons_self fuel ('\x7d' :: rest)
        (endsNumber_cons (by decide) (by decide) rest) (by rw [writeMembers] at key enough; omega))
  | cons n ms ih =>
      rw [writeMembers] at key enough ⊢
      have first := reads m List.mem_cons_self fuel
        (',' :: writeString n.1 (':' :: write n.2 (writeMembers ms rest)))
        (endsNumber_cons (by decide) (by decide) _) (by omega)
      have shorter := ((exact m List.mem_cons_self).starts
        (',' :: writeString n.1 (':' :: write n.2 (writeMembers ms rest)))).length
      rw [List.length_cons] at shorter
      obtain ⟨fuel, rfl⟩ := Nat.exists_eq_add_one_of_ne_zero (show fuel ≠ 0 by omega)
      exact readMembers_more first (ih (fun u mem => exact u (List.mem_cons_of_mem m mem))
        (fun u mem => reads u (List.mem_cons_of_mem m mem)) fuel (by omega)
        (length_writeString n.1 (':' :: write n.2 (writeMembers ms rest))))

/-- No text is empty, so there is fuel for a step. -/
theorem Exact.reads_of_step {v : Json} (h : Exact v)
    (step : ∀ fuel rest, EndsNumber rest → 2 * (write v rest).length ≤ fuel + 1 →
      readValue (fuel + 1) (write v rest) = some (v, rest)) : Reads v := by
  intro fuel rest ends enough
  have written := (h.starts rest).length
  obtain ⟨fuel, rfl⟩ := Nat.exists_eq_add_one_of_ne_zero (show fuel ≠ 0 by omega)
  exact step fuel rest ends enough

theorem Exact.reads {v : Json} (h : Exact v) : Reads v := by
  induction h with
  | null => exact Exact.null.reads_of_step fun _ _ _ _ => rfl
  | bool b =>
      refine (Exact.bool b).reads_of_step fun _ _ _ _ => ?_
      cases b <;> rfl
  | int n => exact (Exact.int n).reads_of_step fun fuel _ ends _ => readValue_int n fuel ends
  | str s => exact (Exact.str s).reads_of_step fun fuel rest _ _ => readValue_str s fuel rest
  | @arr vs items ih =>
      refine (Exact.arr items).reads_of_step fun fuel rest ends enough => ?_
      cases vs with
      | nil => rfl
      | cons v vs =>
          obtain ⟨c, cs, text, solid, other⟩ :=
            ((items v List.mem_cons_self).starts (writeItems vs rest)).first
          rw [write, List.length_cons] at enough
          obtain ⟨fuel, rfl⟩ := Nat.exists_eq_add_one_of_ne_zero (show fuel ≠ 0 by omega)
          have read := readItems_write items ih fuel rest (by omega)
          rw [text] at read
          rw [write, text, readValue_arr solid other read]
  | @obj ms members ih =>
      refine (Exact.obj members).reads_of_step fun fuel rest ends enough => ?_
      cases ms with
      | nil => rfl
      | cons m ms =>
          rw [write, List.length_cons] at enough
          obtain ⟨fuel, rfl⟩ := Nat.exists_eq_add_one_of_ne_zero (show fuel ≠ 0 by omega)
          have read := readMembers_write members ih fuel rest (by omega)
          rw [write, readValue, skipSpace_cons (by decide)]
          change (readMembers (fuel + 1)
            (writeString m.1 (':' :: write m.2 (writeMembers ms rest))) >>= _) = _
          rw [read]
          rfl

theorem Exact.read?_write {v : Json} (h : Exact v) : read? (write v []) = some v := by
  rw [read?, h.reads _ [] endsNumber_nil (by omega)]
  rfl

/-- There is no control character among them. -/
def Printable (cs : List Char) : Prop := ∀ c ∈ cs, 0x20 ≤ c.toNat

instance : DecidablePred Printable := List.decidableBAll fun c : Char => 0x20 ≤ c.toNat

theorem printable_nil : Printable [] := List.forall_mem_nil _

theorem printable_cons {c : Char} {cs : List Char} :
    Printable (c :: cs) ↔ 0x20 ≤ c.toNat ∧ Printable cs := List.forall_mem_cons

theorem printable_append {cs cs' : List Char} (h : Printable cs) (h' : Printable cs') :
    Printable (cs ++ cs') := fun c mem => (List.mem_append.mp mem).elim (h c) (h' c)

theorem printable_escaped (c : Char) : Printable (escaped c) := by
  unfold escaped
  iterate 7
    split
    · decide
  split
  · rename_i low
    have all : ∀ n : Fin 0x20, Printable ['\\', 'u', '0', '0', Text.hexDigit (n.val / 16),
        Text.hexDigit (n.val % 16)] := by
      decide
    exact all ⟨c.toNat, low⟩
  · rename_i high
    exact printable_cons.mpr ⟨Nat.le_of_not_lt high, printable_nil⟩

theorem printable_writeString (s : String) {rest : List Char} (h : Printable rest) :
    Printable (writeString s rest) := by
  rw [writeString, printable_cons]
  refine ⟨by decide, ?_⟩
  induction s.toList with
  | nil => exact printable_cons.mpr ⟨by decide, h⟩
  | cons c cs ih => exact printable_append (printable_escaped c) ih

theorem printable_ofInt (n : Int) : Printable (Text.ofInt n) := by
  have digits (n : Nat) : Printable (Text.ofNat n) := by
    intro c mem
    have digit := Text.isDigit_iff.mp (Text.isDigit_of_mem_ofNat mem)
    omega
  cases n with
  | ofNat n => exact digits n
  | negSucc n => exact printable_cons.mpr ⟨by decide, digits (n + 1)⟩

theorem printable_writeItems {vs : List Json}
    (items : ∀ v ∈ vs, ∀ {rest}, Printable rest → Printable (write v rest)) {rest : List Char}
    (clean : Printable rest) : Printable (writeItems vs rest) := by
  induction vs with
  | nil => exact printable_cons.mpr ⟨by decide, clean⟩
  | cons v vs ih =>
      have later := ih fun w mem => items w (List.mem_cons_of_mem v mem)
      exact printable_cons.mpr ⟨by decide, items v List.mem_cons_self later⟩

theorem printable_writeMembers {ms : List (String × Json)}
    (members : ∀ m ∈ ms, ∀ {rest}, Printable rest → Printable (write m.2 rest)) {rest : List Char}
    (clean : Printable rest) : Printable (writeMembers ms rest) := by
  induction ms with
  | nil => exact printable_cons.mpr ⟨by decide, clean⟩
  | cons m ms ih =>
      have later := ih fun w mem => members w (List.mem_cons_of_mem m mem)
      have value := members m List.mem_cons_self later
      exact printable_cons.mpr ⟨by decide,
        printable_writeString m.1 (printable_cons.mpr ⟨by decide, value⟩)⟩

theorem Exact.printable {v : Json} (h : Exact v) {rest : List Char} (clean : Printable rest) :
    Printable (write v rest) := by
  induction h generalizing rest with
  | null => simpa [write, printable_cons] using clean
  | bool b => cases b <;> simpa [write, printable_cons] using clean
  | int n => exact printable_append (printable_ofInt n) clean
  | str s => exact printable_writeString s clean
  | @arr vs items ih =>
      cases vs with
      | nil => simpa [write, printable_cons] using clean
      | cons v vs =>
          have later := printable_writeItems (fun w mem => ih w (List.mem_cons_of_mem v mem)) clean
          exact printable_cons.mpr ⟨by decide, ih v List.mem_cons_self later⟩
  | @obj ms members ih =>
      cases ms with
      | nil => simpa [write, printable_cons] using clean
      | cons m ms =>
          have later :=
            printable_writeMembers (fun n mem => ih n (List.mem_cons_of_mem m mem)) clean
          have value := ih m List.mem_cons_self later
          exact printable_cons.mpr ⟨by decide,
            printable_writeString m.1 (printable_cons.mpr ⟨by decide, value⟩)⟩

/-- The text of a value gives the value back. -/
theorem Exact.parse?_render {v : Json} (h : Exact v) : parse? v.render = some v := by
  have proper : gap ∉ write v [] := by
    intro mem
    exact absurd (h.printable printable_nil gap mem) (by decide)
  rw [parse?, render, String.toList_ofList, if_neg (by simpa using proper), h.read?_write]

end Json
end Wagebook
