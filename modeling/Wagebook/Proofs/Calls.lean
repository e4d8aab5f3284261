import Wagebook.Proofs.Commands

/-!
The calls that a piece of work makes, one after the other. A payroll run that succeeds has handed
the payslips that it computed to the store, once.
-/

namespace Wagebook

/-- The calls of a piece of work, as far as the replies let it get. -/
def Work.calls (answer : (call : Call) → σ → Except StoreError call.Reply × σ) :
    Work α → σ → List Call
  | .done _, _ => []
  | .ask call next, s => call :: (next (answer call s).1).calls answer (answer call s).2

/-- The payslips that a call hands to the store. -/
def Call.drafts : Call → List Payslip.Draft
  | .insertPayslips drafts => drafts
  | _ => []

namespace Memory

variable {memory : Memory} {window : Period} {drafts : List Payslip.Draft}

theorem seesPayslips_of_run
    (h : (runPayroll now period actor).run memory = (.ok result, memory')) :
    memory.seesPayslips period = false := by
  cases seen : memory.seesPayslips period with
  | false => rfl
  | true =>
      rw [run_runPayroll, seen] at h
      cases h

theorem auditFails_of_run
    (h : (runPayroll now period actor).run memory = (.ok result, memory'))
    (known : memory.tables.period? period = some window)
    (computed : (memory.tables.tallies period).mapM
      (Payslip.compute · period window.workingDays now.toMicros) = .ok drafts) :
    memory.switches.auditFails = false := by
  cases fails : memory.switches.auditFails with
  | false => rfl
  | true =>
      rw [run_runPayroll] at h
      simp only [known, computed, fails, if_true] at h
      split at h
      · cases h
      split at h
      · cases h
      split at h <;> cases h

private theorem mapError_ok (f : StoreError → PayrollError) (a : α) :
    (Except.ok a : Except StoreError α).mapError f = .ok a := rfl

theorem drafts_of_run
    (h : (runPayroll now period actor).run memory = (.ok result, memory'))
    (known : memory.tables.period? period = some window) (days : 0 < window.workingDays)
    (computed : (memory.tables.tallies period).mapM
      (Payslip.compute · period window.workingDays now.toMicros) = .ok drafts)
    (free : memory.tables.Free drafts) :
    ((runPayroll now period actor).work.calls (answer memory.switches)
      memory.tables).flatMap Call.drafts = drafts := by
  have unseen := seesPayslips_of_run h
  unfold seesPayslips at unseen
  have audited := auditFails_of_run h known computed
  have computing : (memory.tables.tallies period).mapM
      (fun tally => (liftM (Payslip.compute tally period window.workingDays now.toMicros) :
        Step Payslip.Draft)) = (Work.done (.ok drafts) : Step (List Payslip.Draft)) := by
    rw [Step.mapM_lift, computed]
  simp only [runPayroll, Operation.writing, bind, ExceptT.bind, ExceptT.mk, ExceptT.bindCont,
    Work.bind, Step.ask, Step.askUnless, Step.audit, mapError_ok, Work.calls, answer, known,
    unseen, computing, insertPayslips_free free, audited, Int.not_le.mpr days, if_false,
    Bool.false_eq_true, List.flatMap_cons, Call.drafts, List.nil_append]
  exact List.append_nil drafts

end Memory
end Wagebook
