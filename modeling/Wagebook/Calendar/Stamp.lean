import Wagebook.Calendar.Date

/-!
Stamps: points of universal time, down to the nanosecond, leap seconds included.
-/

namespace Wagebook

def nanosPerSecond : Nat := 1000000000

structure Stamp where
  date : Date
  /-- The second of the day; the last second of a minute may be followed by a leap second. -/
  second : Nat
  nano : Nat
  /-- True in the leap second after `second`. -/
  leap : Bool
  second_lt : second < 86400
  nano_lt : nano < nanosPerSecond
  leap_at : leap = true → second % 60 = 59
  deriving DecidableEq

namespace Stamp

/-- The stamp of a clock that shows 60 seconds in a leap second. -/
def of? (date : Date) (hour minute second nano : Nat) : Option Stamp :=
  let leap := second == 60
  let shown := if leap then 59 else second
  let total := hour * 3600 + minute * 60 + shown
  if h : hour < 24 ∧ minute < 60 ∧ shown < 60 ∧ nano < nanosPerSecond then
    some {
      date, second := total, nano, leap
      second_lt := by omega
      nano_lt := h.2.2.2
      leap_at := fun hl => by simp only [total, shown, hl, if_true]; omega }
  else none

def epoch : Stamp := ⟨Date.epoch, 0, 0, false, by decide, by decide, by decide⟩

instance : Inhabited Stamp := ⟨epoch⟩

/-- Without what is below a microsecond, which is what a database column keeps. -/
def toMicros (s : Stamp) : Stamp :=
  { s with
    nano := s.nano / 1000 * 1000
    nano_lt := Nat.lt_of_le_of_lt (Nat.div_mul_le_self _ _) s.nano_lt }

/-- Seconds since the start of 1970, in which a leap second has no number of its own. -/
def unixSeconds (s : Stamp) : Int :=
  (s.date.dayNumber - Date.epoch.dayNumber) * 86400 + s.second

def unixMillis (s : Stamp) : Int := s.unixSeconds * 1000 + s.nano / 1000000

/-- The same point of time, read off a clock that runs `minutes` ahead of universal time. Shifts
stay below a day. -/
def ofLocal? (s : Stamp) (minutes : Int) : Option Stamp := do
  let shifted := (s.second : Int) - minutes * 60
  let date ←
    if shifted < 0 then s.date.previous? else if 86400 ≤ shifted then s.date.next? else some s.date
  let second := (shifted % 86400).toNat
  return {
    s with
    date, second
    second_lt := by omega
    leap_at := fun hl => by have := s.leap_at hl; omega }

end Stamp
end Wagebook
