import Mathlib.Algebra.BigOperators.Group.List.Basic
import Wagebook.Proofs.Contest

/-!
What a user has handed in for a period, without the ids and the times of the rows. Besides the user
and the period this is all that a payslip is computed from, and the order of the rows does not
matter for it.
-/

namespace Wagebook

/-- What one user has handed in for one period, in the order of the rows. -/
structure Facts where
  days : List Date
  overtimes : List (Date × Int)
  expenses : List Int

/-- The same days, hours and amounts in any order. On which days the hours were worked does not
matter. -/
structure Facts.Amounts (facts facts' : Facts) : Prop where
  days : facts.days.Perm facts'.days
  hours : (facts.overtimes.map (·.2)).Perm (facts'.overtimes.map (·.2))
  expenses : facts.expenses.Perm facts'.expenses

theorem Facts.Amounts.refl (facts : Facts) : facts.Amounts facts := ⟨.rfl, .rfl, .rfl⟩

namespace Tables

def facts (t : Tables) (user period : Nat) : Facts where
  days := (t.attendances.filter fun a => a.user = user ∧ a.period = period).map (·.date)
  overtimes :=
    (t.overtimes.filter fun o => o.user = user ∧ o.period = period).map fun o => (o.date, o.hours)
  expenses :=
    (t.reimbursements.filter fun r => r.user = user ∧ r.period = period).map (·.amount)

variable {t t' : Tables} {user period : Nat} {date : Date}

theorem isSome_attendance? :
    (t.attendance? user period date).isSome ↔ date ∈ (t.facts user period).days := by
  simp [attendance?, facts, and_assoc]

theorem isSome_overtime? :
    (t.overtime? user period date).isSome ↔
      date ∈ (t.facts user period).overtimes.map (·.1) := by
  simp [overtime?, facts, and_assoc]

theorem total_perm {ns ns' : List Int} (h : ns.Perm ns') : total ns = total ns' :=
  congrArg Amount.wrapped h.sum_eq

/-- Who has handed in the same gets the same tally. -/
theorem tally_congr {user user' : User} (id : user.id = user'.id)
    (salary : user.salary = user'.salary)
    (h : (t.facts user.id period).Amounts (t'.facts user'.id period)) :
    t.tally period user = t'.tally period user' := by
  have days := h.days.length_eq
  have hours := total_perm h.hours
  have expenses := total_perm h.expenses
  simp only [facts, List.length_map, List.map_map, Function.comp_def] at days hours expenses
  rw [tally, days, hours, expenses, id, salary, tally]

end Tables

/-! Runs at different times. -/

/-- The same payslip apart from its id and its times. -/
def Payslip.SamePay (p q : Payslip) : Prop :=
  { p with id := q.id, createdAt := q.createdAt, updatedAt := q.updatedAt } = q

def Payslip.Draft.at (draft : Draft) (createdAt : Stamp) : Draft := { draft with createdAt }

namespace Payslip

theorem compute_at (tally : Tally) (period : Nat) (days : Int) (now now' : Stamp) :
    compute tally period days now' = (compute tally period days now).map (·.at now') := by
  unfold compute
  simp only
  split <;> rfl

/-- Another time of the run shows in the times of the payslips only. -/
theorem mapM_compute_at (tallies : List Tally) (period : Nat) (days : Int) (now now' : Stamp) :
    tallies.mapM (compute · period days now') =
      (tallies.mapM (compute · period days now)).map (List.map (·.at now')) := by
  induction tallies with
  | nil => rfl
  | cons tally tallies ih =>
      rw [List.mapM_cons, List.mapM_cons, ih, compute_at tally period days now now']
      cases compute tally period days now with
      | error cause => rfl
      | ok draft => cases tallies.mapM (compute · period days now) <;> rfl

theorem samePay_storedFrom (drafts : List Draft) (now : Stamp) (id id' : Nat) :
    List.Forall₂ SamePay (storedFrom id drafts) (storedFrom id' (drafts.map (·.at now))) := by
  induction drafts generalizing id id' with
  | nil => exact .nil
  | cons draft drafts ih => exact .cons rfl (ih (id + 1) (id' + 1))

end Payslip

namespace Tables

variable {t t' : Tables}

theorem payslip?_eq_none_iff_key {user period : Nat} :
    t.payslip? user period = none ↔ (user, period) ∉ t.payslips.map (·.key) := by
  simp [payslip?, Payslip.key]

/-- Only the keys of the stored payslips can be in the way of a run. -/
theorem free_at {drafts : List Payslip.Draft} {now : Stamp}
    (keys : t.payslips.map (·.key) = t'.payslips.map (·.key)) :
    t'.Free (drafts.map (·.at now)) ↔ t.Free drafts := by
  induction drafts generalizing t t' with
  | nil => exact .rfl
  | cons draft drafts ih =>
      have next : (t.addPayslip draft).payslips.map (·.key) =
          (t'.addPayslip (draft.at now)).payslips.map (·.key) := by
        rw [addPayslip, addPayslip, List.map_append, List.map_append, keys]
        rfl
      rw [List.map_cons, Free, Free, payslip?_eq_none_iff_key, payslip?_eq_none_iff_key, keys,
        ih next]
      rfl

end Tables
end Wagebook
