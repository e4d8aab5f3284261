import Wagebook.Calendar.DateText
import Wagebook.Store.Error

/-!
Why an operation on the wage book fails, and the text that its caller is told. The text of a store
failure says nothing about the store.
-/

namespace Wagebook

inductive Violation
  | startNotBeforeEnd
  | hoursOutOfRange
  | amountNotPositive
  | noWorkingDays
  | amountTooLarge (user : Nat)
  | other (text : String)
  deriving DecidableEq, Repr

def Violation.message : Violation → String
  | .startNotBeforeEnd => "start_date must be before end_date"
  | .hoursOutOfRange => "hours must be between 1 and 3"
  | .amountNotPositive => "amount must be greater than 0"
  | .noWorkingDays => "period has no working days"
  | .amountTooLarge user => "payslip amount out of range for employee " ++ toString user
  | .other text => text

inductive PayrollError
  | invalid (violation : Violation)
  | notFound (what : String)
  /-- A date that its period does not contain. -/
  | outOfWindow (first last : Date)
  | alreadyExists (what : String)
  /-- Overtime for a day without attendance. -/
  | attendanceMissing
  /-- The period has payslips already. -/
  | alreadyProcessed (period : Nat)
  | store (cause : StoreError)
  | unserializable
  | timeout
  deriving DecidableEq

def PayrollError.message : PayrollError → String
  | .invalid violation => violation.message
  | .notFound what => what ++ " not found"
  | .outOfWindow first last =>
    "date must be between " ++ first.toText ++ " and " ++ last.toText
  | .alreadyExists what => what ++ " already exists"
  | .attendanceMissing => "you need to submit attendance first before submitting overtime"
  | .alreadyProcessed _ => "payroll already generated"
  | .store _ => "storage failure"
  | .unserializable => "failed to serialize audit snapshot"
  | .timeout => "request deadline exceeded"

end Wagebook
