import Wagebook.Calendar.Json

/-!
Attendance periods: spans of days that are paid together, both ends included.
-/

namespace Wagebook

structure Period where
  id : Nat
  first : Date
  last : Date
  /-- Kept with the period; a payroll run neither reads nor sets it. -/
  isProcessed : Bool
  createdAt : Stamp
  updatedAt : Stamp
  deriving DecidableEq

structure Period.Draft where
  first : Date
  last : Date
  createdAt : Stamp
  deriving DecidableEq

namespace Period

def Draft.stored (draft : Draft) (id : Nat) : Period :=
  { id, first := draft.first, last := draft.last, isProcessed := false
    createdAt := draft.createdAt, updatedAt := draft.createdAt }

def Contains (p : Period) (d : Date) : Prop := p.first ≤ d ∧ d ≤ p.last

instance (p : Period) (d : Date) : Decidable (p.Contains d) := by
  unfold Contains; infer_instance

/-- The days of the period, weekends included; not positive when the last day is before the
first. -/
def workingDays (p : Period) : Int := p.last.dayNumber - p.first.dayNumber + 1

def fieldNames : List String :=
  ["id", "start_date", "end_date", "is_processed", "created_at", "updated_at"]

def toJson (p : Period) : Json :=
  .record fieldNames [.nat p.id, p.first.toJson, p.last.toJson, .bool p.isProcessed,
    p.createdAt.toJson, p.updatedAt.toJson]

def ofFields? : List Json → Option Period
  | [id, first, last, isProcessed, createdAt, updatedAt] => do
    return { id := ← id.nat64?, first := ← first.date?, last := ← last.date?
             isProcessed := ← isProcessed.bool?
             createdAt := ← createdAt.stamp?, updatedAt := ← updatedAt.stamp? }
  | _ => none

def ofJson? (v : Json) : Option Period := do ofFields? (← v.fields? fieldNames [])

end Period
end Wagebook
