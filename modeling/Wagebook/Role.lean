/-!
Who may do what: an admin opens periods and runs the payroll, an employee hands in work and reads
his own payslips.
-/

namespace Wagebook

inductive Role
  | admin
  | employee
  deriving DecidableEq, Repr

namespace Role

def ofId? : Nat → Option Role
  | 1 => some .admin
  | 2 => some .employee
  | _ => none

def ofIsAdmin (isAdmin : Bool) : Role := if isAdmin then .admin else .employee

def id : Role → Nat
  | .admin => 1
  | .employee => 2

end Role

/-- Who makes a change, and in which logged request. -/
structure Actor where
  user : Nat
  request : Nat
  deriving DecidableEq, Repr

end Wagebook
