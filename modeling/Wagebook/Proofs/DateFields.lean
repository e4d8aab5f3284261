import Mathlib.Data.List.TakeWhile
import Wagebook.Http.Form
import Wagebook.Proofs.CalendarText
import Wagebook.Proofs.Days

/-!
What a date field of a form may hold. A year, a month and a day with dashes between are read, and
the date is the one of the calendar that they denote. But the year may carry a sign and then have
any number of digits, without one it may have fewer than four, a month and a day may have one digit,
and white space may stand before them. All else is refused under the name of the field.
-/

namespace Wagebook

namespace Text

/-- Digits, and at least one. -/
def IsNumeral (cs : List Char) : Prop := cs ≠ [] ∧ ∀ c ∈ cs, isDigit c = true

def IsBlanks (cs : List Char) : Prop := ∀ c ∈ cs, isBlank c = true

theorem valueOfDigits_lt {ds : List Char} (digits : ∀ c ∈ ds, isDigit c = true) :
    valueOfDigits ds < 10 ^ ds.length := by
  induction ds using List.reverseRecOn with
  | nil => decide
  | append_singleton ds d ih =>
      have before := ih fun c mem => digits c (List.mem_append_left _ mem)
      obtain ⟨-, most⟩ := isDigit_iff.mp (digits d List.mem_concat_self)
      have digit : digitValue d ≤ 9 := Nat.sub_le_of_le_add most
      have value : valueOfDigits (ds ++ [d]) = valueOfDigits ds * 10 + digitValue d := by
        simp only [valueOfDigits, List.foldl_append, List.foldl_cons, List.foldl_nil]
      rw [value, List.length_append, List.length_singleton, Nat.pow_succ]
      omega

theorem trimStart_append {blanks : List Char} (h : IsBlanks blanks) (rest : List Char) :
    trimStart (blanks ++ rest) = trimStart rest :=
  List.dropWhile_append_of_pos h

theorem exists_blanks (cs : List Char) :
    ∃ blanks, IsBlanks blanks ∧ cs = blanks ++ trimStart cs :=
  ⟨cs.takeWhile isBlank, fun _ => List.mem_takeWhile_imp, List.takeWhile_append_dropWhile.symm⟩

theorem trimStart_cons {c : Char} (visible : isBlank c = false) (cs : List Char) :
    trimStart (c :: cs) = c :: cs := by
  simp [trimStart, visible]

theorem trimStart_trim (cs : List Char) : trimStart (trim cs) = trim cs := by
  have before : trim cs <+: trimStart cs := by
    have after : trimStart (trimStart cs).reverse <:+ (trimStart cs).reverse :=
      List.dropWhile_suffix _
    simpa [trim] using List.reverse_prefix.mpr after
  cases trimmed : trim cs with
  | nil => rfl
  | cons c rest =>
      obtain ⟨blanks, starts⟩ := before
      rw [trimmed] at starts
      have visible : isBlank c = false := by
        have head := List.head?_dropWhile_not isBlank cs
        rw [show cs.dropWhile isBlank = trimStart cs from rfl, ← starts] at head
        simpa using head
      exact trimStart_cons visible rest

end Text

namespace Date

theorem of_readDigits {width n : Nat} {cs rest : List Char}
    (h : readDigits width cs = some (n, rest)) :
    ∃ ds, Text.IsNumeral ds ∧ ds.length ≤ width ∧ Text.valueOfDigits ds = n ∧
      cs = ds ++ rest := by
  simp only [readDigits] at h
  split at h
  · cases h
  · rename_i some
    cases h
    have front : (cs.take width).takeWhile Text.isDigit <+: cs.take width :=
      List.takeWhile_prefix _
    refine ⟨_, ⟨by simpa using some, fun _ => List.mem_takeWhile_imp⟩, ?_, rfl, ?_⟩
    · exact Nat.le_trans front.length_le (List.length_take_le width cs)
    · exact (List.prefix_iff_eq_append.mp (front.trans (List.take_prefix width cs))).symm

theorem of_readPart {width n : Nat} {cs rest : List Char}
    (h : readPart width cs = some (n, rest)) :
    ∃ blanks ds, Text.IsBlanks blanks ∧ Text.IsNumeral ds ∧ ds.length ≤ width ∧
      Text.valueOfDigits ds = n ∧ cs = blanks ++ ds ++ rest := by
  obtain ⟨blanks, blank, split⟩ := Text.exists_blanks cs
  obtain ⟨ds, numeral, short, value, starts⟩ := of_readDigits h
  refine ⟨blanks, ds, blank, numeral, short, value, ?_⟩
  rw [split, starts, List.append_assoc]

theorem of_readDash {cs rest : List Char} (h : readMark '-' false cs = some rest) :
    cs = '-' :: rest := by
  cases cs with
  | nil => cases h
  | cons c cs =>
      simp only [readMark, Bool.false_eq_true, if_false] at h
      split at h
      · rename_i dash
        cases h
        rw [dash]
      · cases h

/-- The year that a sign and digits stand for. -/
def signed (sign ds : List Char) : Int :=
  if sign = ['-'] then -(Text.valueOfDigits ds : Int) else Text.valueOfDigits ds

def IsSign (sign : List Char) : Prop := sign = [] ∨ sign = ['-'] ∨ sign = ['+']

theorem of_readYear {year : Int} {cs rest : List Char} (tight : Text.trimStart cs = cs)
    (h : readYear cs = some (year, rest)) :
    ∃ sign ds, IsSign sign ∧ Text.IsNumeral ds ∧ (sign = [] → ds.length ≤ 4) ∧
      signed sign ds = year ∧ cs = sign ++ ds ++ rest := by
  unfold readYear at h
  rw [tight] at h
  split at h
  · obtain ⟨⟨n, rest'⟩, read, same⟩ := Option.map_eq_some_iff.mp h
    cases same
    obtain ⟨ds, numeral, -, rfl, rfl⟩ := of_readDigits read
    exact ⟨['-'], ds, .inr (.inl rfl), numeral, nofun, rfl, rfl⟩
  · obtain ⟨⟨n, rest'⟩, read, same⟩ := Option.map_eq_some_iff.mp h
    cases same
    obtain ⟨ds, numeral, -, rfl, rfl⟩ := of_readDigits read
    exact ⟨['+'], ds, .inr (.inr rfl), numeral, nofun, rfl, rfl⟩
  · obtain ⟨⟨n, rest'⟩, read, same⟩ := Option.map_eq_some_iff.mp h
    cases same
    obtain ⟨ds, numeral, short, rfl, rfl⟩ := of_readDigits read
    exact ⟨[], ds, .inl rfl, numeral, fun _ => short, rfl, rfl⟩

theorem readYear_signed {sign ds : List Char} (isSign : IsSign sign) (numeral : Text.IsNumeral ds)
    (short : sign = [] → ds.length ≤ 4) (rest : List Char) :
    readYear (sign ++ ds ++ '-' :: rest) = some (signed sign ds, '-' :: rest) := by
  have read : readDigits (ds ++ '-' :: rest).length (ds ++ '-' :: rest) =
      some (Text.valueOfDigits ds, '-' :: rest) :=
    readDigits_digits _ _ numeral.2 numeral.1 (by simp) (.inr rfl)
  obtain rfl | rfl | rfl := isSign
  · exact readYear_digits numeral.2 numeral.1 (short rfl) (.inr rfl)
  · have visible := Text.trimStart_cons (c := '-') rfl (ds ++ '-' :: rest)
    rw [readYear, List.append_assoc, List.singleton_append, visible]
    simp only [read]
    rfl
  · have visible := Text.trimStart_cons (c := '+') rfl (ds ++ '-' :: rest)
    rw [readYear, List.append_assoc, List.singleton_append, visible]
    simp only [read]
    rfl

theorem readPart_numeral {blanks ds : List Char} (blank : Text.IsBlanks blanks)
    (numeral : Text.IsNumeral ds) {width : Nat} (short : ds.length ≤ width) (rest : List Char)
    (ends : rest.takeWhile Text.isDigit = []) :
    readPart width (blanks ++ ds ++ rest) = some (Text.valueOfDigits ds, rest) := by
  rw [readPart, List.append_assoc, Text.trimStart_append blank,
    Text.trimStart_digits numeral.2 numeral.1]
  exact readDigits_digits width rest numeral.2 numeral.1 short (.inr ends)

/-- A text that is read as a date, in its parts. -/
structure Spelling where
  sign : List Char
  year : List Char
  beforeMonth : List Char
  month : List Char
  beforeDay : List Char
  day : List Char
  isSign : IsSign sign
  year_numeral : Text.IsNumeral year
  year_short : sign = [] → year.length ≤ 4
  beforeMonth_blank : Text.IsBlanks beforeMonth
  month_numeral : Text.IsNumeral month
  month_short : month.length ≤ 2
  beforeDay_blank : Text.IsBlanks beforeDay
  day_numeral : Text.IsNumeral day
  day_short : day.length ≤ 2

namespace Spelling

def text (s : Spelling) : List Char :=
  s.sign ++ s.year ++ '-' :: (s.beforeMonth ++ s.month ++ '-' :: (s.beforeDay ++ s.day))

/-- The date of the calendar that the parts denote, if there is one. -/
def date? (s : Spelling) : Option Date :=
  of? (signed s.sign s.year) (Text.valueOfDigits s.month) (Text.valueOfDigits s.day)

/-- Four digits, two and two, and nothing else but the dashes. -/
structure IsExact (s : Spelling) : Prop where
  sign : s.sign = []
  year : s.year.length = 4
  beforeMonth : s.beforeMonth = []
  month : s.month.length = 2
  beforeDay : s.beforeDay = []
  day : s.day.length = 2

theorem readFront_text (s : Spelling) :
    readFront false s.text = s.date?.map fun d => (d, []) := by
  have year := readYear_signed s.isSign s.year_numeral s.year_short
    (s.beforeMonth ++ s.month ++ '-' :: (s.beforeDay ++ s.day))
  have month := readPart_numeral s.beforeMonth_blank s.month_numeral s.month_short
    ('-' :: (s.beforeDay ++ s.day)) rfl
  have day := readPart_numeral s.beforeDay_blank s.day_numeral s.day_short [] rfl
  rw [List.append_nil] at day
  unfold readFront text
  simp only [year, month, day, readMark, Bool.false_eq_true, if_false, if_true,
    Option.bind_eq_bind, Option.bind_some]
  unfold date?
  cases of? (signed s.sign s.year) (Text.valueOfDigits s.month) (Text.valueOfDigits s.day) <;> rfl

end Spelling

theorem exists_spelling {cs rest : List Char} {d : Date} (tight : Text.trimStart cs = cs)
    (h : readFront false cs = some (d, rest)) (ends : rest = []) :
    ∃ s : Spelling, s.text = cs ∧ s.date? = some d := by
  simp only [readFront, Option.bind_eq_bind, Option.bind_eq_some_iff] at h
  obtain ⟨⟨year, cs₁⟩, readYear, cs₂, dash, ⟨month, cs₃⟩, readMonth, cs₄, dash', ⟨day, cs₅⟩,
    readDay, d', date, same⟩ := h
  cases same
  cases ends
  obtain ⟨sign, ys, isSign, yearNumeral, yearShort, rfl, rfl⟩ := of_readYear tight readYear
  obtain rfl := of_readDash dash
  obtain ⟨blanks, ms, blank, monthNumeral, monthShort, rfl, rfl⟩ := of_readPart readMonth
  obtain rfl := of_readDash dash'
  obtain ⟨blanks', ds, blank', dayNumeral, dayShort, rfl, rfl⟩ := of_readPart readDay
  rw [List.append_nil]
  exact ⟨⟨sign, ys, blanks, ms, blanks', ds, isSign, yearNumeral, yearShort, blank, monthNumeral,
    monthShort, blank', dayNumeral, dayShort⟩, rfl, date⟩

/-- A field is read as the date that its text denotes, and as nothing else. -/
theorem readField?_of_spelling {text : String} {s : Spelling}
    (same : s.text = Text.trim text.toList) : readField? text = s.date? := by
  simp only [readField?, ← same, s.readFront_text]
  cases s.date? <;> rfl

theorem readField?_eq_some_iff {text : String} {d : Date} :
    readField? text = some d ↔
      ∃ s : Spelling, s.text = Text.trim text.toList ∧ s.date? = some d := by
  constructor
  · intro h
    simp only [readField?, Option.bind_eq_bind, Option.bind_eq_some_iff] at h
    obtain ⟨⟨d', rest⟩, front, ends⟩ := h
    split at ends
    · rename_i empty
      cases ends
      exact exists_spelling (Text.trimStart_trim _) front (List.isEmpty_iff.mp empty)
    · cases ends
  · rintro ⟨s, same, date⟩
    rw [readField?_of_spelling same, date]

namespace Spelling

theorem date?_eq_some_iff {s : Spelling} {d : Date} :
    s.date? = some d ↔ d.year = signed s.sign s.year ∧ d.month = Text.valueOfDigits s.month ∧
      d.day = Text.valueOfDigits s.day :=
  of?_eq_some_iff

theorem IsExact.length_text {s : Spelling} (plain : s.IsExact) : s.text.length = 10 := by
  simp [text, plain.sign, plain.year, plain.beforeMonth, plain.month, plain.beforeDay,
    plain.day]

/-- Without a sign a year has four digits at most. -/
theorem year_bounds {s : Spelling} (unsigned : s.sign = []) {d : Date} (date : s.date? = some d) :
    0 ≤ d.year ∧ d.year ≤ 9999 := by
  have small : Text.valueOfDigits s.year < 10 ^ 4 :=
    Nat.lt_of_lt_of_le (Text.valueOfDigits_lt s.year_numeral.2)
      (Nat.pow_le_pow_right (by decide) (s.year_short unsigned))
  rw [(date?_eq_some_iff.mp date).1, unsigned, signed, if_neg (by decide)]
  omega

end Spelling

end Date

namespace Http

theorem dateField_eq_ok_iff {name text : String} {d : Date} :
    dateField name text = .ok d ↔ Date.readField? text = some d := by
  unfold dateField
  cases Date.readField? text with
  | none => exact ⟨nofun, nofun⟩
  | some d' => rw [Except.ok.injEq, Option.some.injEq]

/-- A date field holds what is spelled as a date of the calendar, and all else is refused by the
name of the field. Of what is spelled exactly, the real dates are read, and a year without a sign
has four digits at most. -/
theorem dateField_reads (name text : String) :
    (∀ d, dateField name text = .ok d ↔
        ∃ s : Date.Spelling, s.text = Text.trim text.toList ∧ s.date? = some d) ∧
      ((∀ d, dateField name text ≠ .ok d) →
        dateField name text = .error (.badRequest ("invalid input " ++ name))) ∧
      ∀ s : Date.Spelling, s.text = Text.trim text.toList →
        (s.IsExact → ∀ d, dateField name text = .ok d ↔
          d.year = Text.valueOfDigits s.year ∧ d.month = Text.valueOfDigits s.month ∧
            d.day = Text.valueOfDigits s.day) ∧
          (s.sign = [] → ∀ d, dateField name text = .ok d → 0 ≤ d.year ∧ d.year ≤ 9999) := by
  refine ⟨fun d => dateField_eq_ok_iff.trans Date.readField?_eq_some_iff, fun refused => ?_,
    fun s same => ⟨fun plain d => ?_, fun unsigned d read => ?_⟩⟩
  · have unread : Date.readField? text = none :=
      Option.eq_none_iff_forall_ne_some.mpr fun d read => refused d (dateField_eq_ok_iff.mpr read)
    rw [dateField, unread]
    rfl
  · rw [dateField_eq_ok_iff, Date.readField?_of_spelling same, Date.Spelling.date?_eq_some_iff,
      plain.sign]
    rfl
  · rw [dateField_eq_ok_iff, Date.readField?_of_spelling same] at read
    exact s.year_bounds unsigned read

/-- A leap day with white space around it. -/
def leapDaySpelling : Date.Spelling where
  sign := []
  year := ['2', '0', '2', '4']
  beforeMonth := []
  month := ['0', '2']
  beforeDay := []
  day := ['2', '9']
  isSign := .inl rfl
  year_numeral := ⟨by decide, List.all_eq_true.mp rfl⟩
  year_short := by decide
  beforeMonth_blank := List.forall_mem_nil _
  month_numeral := ⟨by decide, List.all_eq_true.mp rfl⟩
  month_short := by decide
  beforeDay_blank := List.forall_mem_nil _
  day_numeral := ⟨by decide, List.all_eq_true.mp rfl⟩
  day_short := by decide

theorem dateField_reads_leap_day :
    (leapDaySpelling.text = Text.trim "\t2024-02-29 ".toList ∧ leapDaySpelling.IsExact ∧
        leapDaySpelling.sign = []) ∧
      dateField "date" "\t2024-02-29 " = .ok ⟨2024, 2, 29, by decide⟩ ∧
      dateField "date" "2023-02-29" = .error (.badRequest "invalid input date") := by
  have same : leapDaySpelling.text = Text.trim "\t2024-02-29 ".toList := by decide
  have plain : leapDaySpelling.IsExact := ⟨rfl, rfl, rfl, rfl, rfl, rfl⟩
  obtain ⟨-, -, spelled⟩ := dateField_reads "date" "\t2024-02-29 "
  have read := ((spelled leapDaySpelling same).1 plain ⟨2024, 2, 29, by decide⟩).mpr (by decide)
  have unread : Date.readField? "2023-02-29" = none := by decide
  have refused := (dateField_reads "date" "2023-02-29").2.1 fun d read => by
    rw [dateField_eq_ok_iff, unread] at read
    cases read
  exact ⟨⟨same, plain, rfl⟩, read, refused⟩

/-- A year of two digits, white space within, and a year of five digits. -/
theorem loose_dates_are_read :
    (dateField "date" "25-6-1" = .ok ⟨25, 6, 1, by decide⟩ ∧
        ∀ s : Date.Spelling, s.IsExact → s.text ≠ "25-6-1".toList) ∧
      dateField "date" "2025- 06- 01" = .ok ⟨2025, 6, 1, by decide⟩ ∧
      dateField "date" "+10000-01-01" = .ok ⟨10000, 1, 1, by decide⟩ := by
  refine ⟨⟨rfl, fun s plain same => ?_⟩, rfl, rfl⟩
  have := plain.length_text
  rw [same] at this
  exact absurd this (by decide)

end Http

end Wagebook
