import Mathlib.Algebra.Group.Nat.Defs
import Wagebook.Calendar.StampText

/-!
Dates and stamps can be read back from their text. Numbers are written with a fixed count of digits,
so the reader stops where the writer did.
-/

namespace Wagebook

namespace Text

theorem isDigit_iff {c : Char} : isDigit c = true ↔ 48 ≤ c.toNat ∧ c.toNat ≤ 57 := by
  simp only [isDigit, Bool.and_eq_true, decide_eq_true_eq]
  rfl

theorem isDigit_of_mem_padded {width n : Nat} {c : Char} (h : c ∈ padded width n) :
    isDigit c = true := by
  rcases List.mem_append.mp h with zero | digit
  · rw [List.eq_of_mem_replicate zero]
    decide
  · have := Nat.isDigit_of_mem_toDigits (by decide) (Nat.le_refl 10) digit
    rw [isDigit_iff]
    simpa [Char.isDigit, UInt32.le_iff_toNat_le] using this

theorem length_padded {width n : Nat} (pos : 0 < width) (h : n < 10 ^ width) :
    (padded width n).length = width := by
  have := (Nat.length_toDigits_le_iff (by decide : 1 < 10) pos).mpr h
  simp only [padded, ofNat, List.length_append, List.length_replicate]
  omega

theorem padded_ne_nil (width n : Nat) : padded width n ≠ [] := by
  simp [padded, ofNat]

theorem valueOfDigits_eq (cs : List Char) : valueOfDigits cs = Nat.ofDigitChars 10 cs 0 := by
  unfold valueOfDigits digitValue
  rw [Nat.ofDigitChars_eq_foldl]
  congr 1
  funext n c
  rw [Nat.mul_comm]

@[simp] theorem valueOfDigits_padded (width n : Nat) : valueOfDigits (padded width n) = n := by
  rw [valueOfDigits_eq, padded, Nat.ofDigitChars_append, Nat.ofDigitChars_replicate_zero]
  simp [ofNat]

theorem isBlank_of_isDigit {c : Char} (h : isDigit c = true) : isBlank c = false := by
  obtain ⟨least, most⟩ := isDigit_iff.mp h
  simp only [isBlank, Bool.or_eq_false_iff, Bool.and_eq_false_iff, decide_eq_false_iff_not,
    beq_eq_false_iff_ne]
  omega

/-- White space is looked for before a number, and none is found. -/
theorem trimStart_digits {ds rest : List Char} (digits : ∀ c ∈ ds, isDigit c = true)
    (some : ds ≠ []) : trimStart (ds ++ rest) = ds ++ rest := by
  cases ds with
  | nil => exact absurd rfl some
  | cons d ds =>
      have first := isBlank_of_isDigit (digits d List.mem_cons_self)
      simp [trimStart, first]

end Text

namespace Date

theorem takeWhile_take {p : α → Bool} {rest : List α} (h : rest.takeWhile p = []) (k : Nat) :
    (rest.take k).takeWhile p = [] := by
  cases rest with
  | nil => simp
  | cons a rest =>
      cases k with
      | zero => rfl
      | succ k =>
          rw [List.takeWhile_cons] at h
          rw [List.take_succ_cons, List.takeWhile_cons]
          split at h
          · cases h
          · rename_i stops
            rw [if_neg stops]

theorem readDigits_digits (width : Nat) (rest : List Char) {ds : List Char}
    (digits : ∀ c ∈ ds, Text.isDigit c = true) (some : ds ≠ []) (fits : ds.length ≤ width)
    (ends : ds.length = width ∨ rest.takeWhile Text.isDigit = []) :
    readDigits width (ds ++ rest) = .some (Text.valueOfDigits ds, rest) := by
  have stop : ((ds ++ rest).take width).takeWhile Text.isDigit = ds := by
    rw [List.take_append, List.take_of_length_le fits, List.takeWhile_append_of_pos digits]
    have none : (rest.take (width - ds.length)).takeWhile Text.isDigit = [] := by
      rcases ends with full | ends
      · rw [full, Nat.sub_self]
        rfl
      · exact takeWhile_take ends _
    rw [none, List.append_nil]
  unfold readDigits
  simp [stop, some]

theorem readDigits_padded {width n : Nat} (pos : 0 < width) (h : n < 10 ^ width)
    (rest : List Char) : readDigits width (Text.padded width n ++ rest) = some (n, rest) := by
  have len := Text.length_padded pos h
  rw [readDigits_digits _ _ (fun c => Text.isDigit_of_mem_padded) (Text.padded_ne_nil width n)
    (Nat.le_of_eq len) (.inl len), Text.valueOfDigits_padded]

theorem readPart_padded {width n : Nat} (pos : 0 < width) (h : n < 10 ^ width)
    (rest : List Char) : readPart width (Text.padded width n ++ rest) = some (n, rest) := by
  rw [readPart, Text.trimStart_digits (fun c => Text.isDigit_of_mem_padded)
    (Text.padded_ne_nil width n), readDigits_padded pos h]

@[simp] theorem readMark_self (mark : Char) (spaced : Bool) (cs : List Char)
    (h : Text.isBlank mark = false) : readMark mark spaced (mark :: cs) = some cs := by
  cases spaced <;> simp [readMark, Text.trimStart, h]

theorem readYear_digits {ds rest : List Char} (digits : ∀ c ∈ ds, Text.isDigit c = true)
    (some : ds ≠ []) (fits : ds.length ≤ 4)
    (ends : ds.length = 4 ∨ rest.takeWhile Text.isDigit = []) :
    readYear (ds ++ rest) = .some ((Text.valueOfDigits ds : Int), rest) := by
  have read := readDigits_digits 4 rest digits some fits ends
  unfold readYear
  rw [Text.trimStart_digits digits some]
  obtain ⟨d, ds, rfl⟩ := List.exists_cons_of_ne_nil some
  split
  · rename_i eq
    cases eq
    exact absurd (digits '-' List.mem_cons_self) (by decide)
  · rename_i eq
    cases eq
    exact absurd (digits '+' List.mem_cons_self) (by decide)
  · rw [read]
    rfl

/-- After a sign the digits of a year go on to the dash. -/
theorem readDigits_signed (n : Nat) (rest : List Char) :
    let cs := Text.padded 4 n ++ '-' :: rest
    readDigits cs.length cs = some (n, '-' :: rest) := by
  intro cs
  have fits : (Text.padded 4 n).length ≤ cs.length := by simp [cs]
  rw [readDigits_digits _ _ (fun c => Text.isDigit_of_mem_padded) (Text.padded_ne_nil 4 n) fits
    (.inr rfl), Text.valueOfDigits_padded]

theorem readYear_yearText (year : Int) (rest : List Char) :
    readYear (yearText year ++ '-' :: rest) = some (year, '-' :: rest) := by
  unfold yearText
  split
  · rename_i plain
    have small : year.toNat < 10 ^ 4 := by omega
    have four := Text.length_padded (by decide) small
    rw [readYear_digits (fun c => Text.isDigit_of_mem_padded) (Text.padded_ne_nil 4 _)
      (Nat.le_of_eq four) (.inl four), Text.valueOfDigits_padded]
    rw [Int.toNat_of_nonneg plain.1]
  · rename_i signed
    have signed := readDigits_signed year.natAbs rest
    by_cases negative : year < 0
    · have value : -(year.natAbs : Int) = year := by omega
      simp only [negative, if_true, List.cons_append]
      change (readDigits _ _).map _ = _
      rw [signed]
      change some (-(year.natAbs : Int), '-' :: rest) = _
      rw [value]
    · have value : (year.natAbs : Int) = year := by omega
      simp only [negative, if_false, List.cons_append]
      change (readDigits _ _).map _ = _
      rw [signed]
      change some ((year.natAbs : Int), '-' :: rest) = _
      rw [value]

theorem month_lt (d : Date) : d.month < 10 ^ 2 := by
  have := d.valid.2.2.2.1
  omega

theorem day_lt (d : Date) : d.day < 10 ^ 2 := by
  have most := d.valid.2.2.2.2.2
  have : monthLength d.year d.month ≤ 31 := by
    unfold monthLength
    split
    · split <;> omega
    · omega
    · omega
    · omega
    · omega
    · omega
  omega

theorem of?_self (d : Date) : of? d.year d.month d.day = some d := by
  simp [of?, d.valid]

theorem readFront_text (d : Date) (spaced : Bool) (rest : List Char) :
    readFront spaced (d.text ++ rest) = some (d, rest) := by
  have month := readPart_padded (by decide) d.month_lt
  have day := readPart_padded (by decide) d.day_lt
  have dash : Text.isBlank '-' = false := by decide
  simp [readFront, text, readYear_yearText, readMark_self, dash, month, day, of?_self]

theorem read?_text (d : Date) : read? d.text = some d := by
  have front := d.readFront_text true []
  rw [List.append_nil] at front
  unfold read?
  rw [front]
  rfl

end Date

namespace Stamp

theorem readFraction_point {width n : Nat} (pos : 0 < width) (nine : width ≤ 9)
    (h : n < 10 ^ width) :
    readFraction ('.' :: Text.padded width n ++ ['Z']) = some (n * 10 ^ (9 - width), ['Z']) := by
  have len := Text.length_padded pos h
  have read := Date.readDigits_digits 9 ['Z']
    (fun c => Text.isDigit_of_mem_padded) (Text.padded_ne_nil width n) (by omega) (.inr rfl)
  rw [Text.valueOfDigits_padded] at read
  simp only [readFraction, List.cons_append, read, List.length_append, List.length_singleton, len]
  rfl

theorem readFraction_text {nano : Nat} (h : nano < nanosPerSecond) :
    readFraction (fractionText nano ++ ['Z']) = some (nano, ['Z']) := by
  unfold nanosPerSecond at h
  unfold fractionText
  split
  · rename_i none
    rw [none]
    rfl
  · split
    · have millis : nano / 1000000 < 10 ^ 3 := by omega
      rw [readFraction_point (by decide) (by decide) millis]
      congr 2
      omega
    · split
      · have micros : nano / 1000 < 10 ^ 6 := by omega
        rw [readFraction_point (by decide) (by decide) micros]
        congr 2
        omega
      · rw [readFraction_point (by decide) (by decide) (by omega)]
        simp

theorem eq_of_fields {a b : Stamp} (date : a.date = b.date) (second : a.second = b.second)
    (nano : a.nano = b.nano) (leap : a.leap = b.leap) : a = b := by
  cases a
  cases b
  simp only [mk.injEq]
  exact ⟨date, second, nano, leap⟩

/-- A clock shows a leap second as the sixtieth. -/
theorem of?_shown (s : Stamp) :
    of? s.date (s.second / 3600) (s.second / 60 % 60) (s.second % 60 + if s.leap then 1 else 0)
      s.nano = some s := by
  have day := s.second_lt
  have nano := s.nano_lt
  have shown : (s.second % 60 + (if s.leap then 1 else 0) == 60) = s.leap := by
    cases leap : s.leap with
    | true =>
        rw [s.leap_at leap]
        rfl
    | false =>
        simp only [Bool.false_eq_true, if_false, beq_eq_false_iff_ne]
        omega
  have kept : (if s.leap = true then 59 else s.second % 60 + if s.leap then 1 else 0) =
      s.second % 60 := by
    cases leap : s.leap with
    | true => exact (s.leap_at leap).symm
    | false => rfl
  unfold of?
  simp only [shown, kept]
  rw [dif_pos ⟨by omega, by omega, by omega, nano⟩]
  exact congrArg some (eq_of_fields rfl (by simp only; omega) rfl rfl)

theorem ofLocal?_zero (s : Stamp) : s.ofLocal? 0 = some s := by
  have day := s.second_lt
  have before : ¬ (s.second : Int) - 0 * 60 < 0 := by omega
  have after : ¬ 86400 ≤ (s.second : Int) - 0 * 60 := by omega
  unfold ofLocal?
  simp only [before, after, if_false]
  exact congrArg some (eq_of_fields rfl (by simp only; omega) rfl rfl)

theorem read?_text (s : Stamp) : read? s.text = some s := by
  have day := s.second_lt
  have hour : s.second / 3600 < 10 ^ 2 := by omega
  have minute : s.second / 60 % 60 < 10 ^ 2 := by omega
  have second : (s.second % 60 + if s.leap then 1 else 0) < 10 ^ 2 := by split <;> omega
  have readHour := Date.readPart_padded (by decide) hour
  have readMinute := Date.readPart_padded (by decide) minute
  have readSecond := Date.readPart_padded (by decide) second
  have colon : Text.isBlank ':' = false := by decide
  have zone : readZone (Text.trimStart ['Z']) = some (0, []) := by decide
  have finished : Text.trimStart [] = [] := rfl
  simp [read?, text, Date.readFront_text, readTimeMark, readHour, readMinute, readSecond, colon,
    readFraction_text s.nano_lt, zone, finished, of?_shown, ofLocal?_zero]

end Stamp
end Wagebook
