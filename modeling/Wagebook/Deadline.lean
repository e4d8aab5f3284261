import Wagebook.PayrollError

/-!
Deadlines: an operation that has no result when its time is up fails, whatever it would have come
to.
-/

namespace Wagebook

/-- How an operation ends when nobody stops it. -/
inductive Course (α : Type)
  | ends (afterMs : Nat) (result : Except PayrollError α)
  | never

/-- The result within a limit. One that is there when the time is up still counts. -/
def Course.within (limitMs : Nat) : Course α → Except PayrollError α
  | .ends afterMs result => if afterMs ≤ limitMs then result else .error .timeout
  | .never => .error .timeout

end Wagebook
