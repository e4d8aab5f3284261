import Mathlib.Data.List.Forall2
import Wagebook.Proofs.Growth

/-!
A payroll run as a batch: its payslips get the next ids in a row, and every employee of the roster
gets one of them, computed from what is in the tables when the run looks.
-/

namespace Wagebook

/-- The drafts as they are stored with ids in a row. -/
def Payslip.storedFrom (id : Nat) : List Payslip.Draft → List Payslip
  | [] => []
  | draft :: drafts => draft.stored id :: storedFrom (id + 1) drafts

namespace Payslip

@[simp] theorem length_storedFrom (id : Nat) (drafts : List Payslip.Draft) :
    (storedFrom id drafts).length = drafts.length := by
  induction drafts generalizing id with
  | nil => rfl
  | cons draft drafts ih => simp [storedFrom, ih]

theorem map_user_storedFrom (drafts : List Draft) (id : Nat) :
    (storedFrom id drafts).map (·.user) = drafts.map (·.user) := by
  induction drafts generalizing id with
  | nil => rfl
  | cons draft drafts ih => exact congrArg _ (ih (id + 1))

theorem mem_storedFrom {id : Nat} {drafts : List Payslip.Draft} {p : Payslip}
    (h : p ∈ storedFrom id drafts) :
    id ≤ p.id ∧ p.id < id + drafts.length ∧ ∃ draft ∈ drafts, p = draft.stored p.id := by
  induction drafts generalizing id with
  | nil => simp [storedFrom] at h
  | cons draft drafts ih =>
      rw [storedFrom, List.mem_cons] at h
      rcases h with rfl | h
      · refine ⟨Nat.le_refl _, ?_, draft, List.mem_cons_self, rfl⟩
        simp only [Draft.stored, List.length_cons]
        omega
      · obtain ⟨least, most, draft', mem, eq⟩ := ih h
        refine ⟨by omega, ?_, draft', List.mem_cons_of_mem _ mem, eq⟩
        simp only [List.length_cons]
        omega

theorem exists_stored (id : Nat) {drafts : List Payslip.Draft} {draft : Payslip.Draft}
    (mem : draft ∈ drafts) : ∃ p ∈ storedFrom id drafts, p = draft.stored p.id := by
  induction drafts generalizing id with
  | nil => simp at mem
  | cons first drafts ih =>
      rcases List.mem_cons.mp mem with rfl | mem
      · exact ⟨draft.stored id, List.mem_cons_self, rfl⟩
      · obtain ⟨p, hp, eq⟩ := ih (id + 1) mem
        exact ⟨p, List.mem_cons_of_mem _ hp, eq⟩

end Payslip

namespace Tables

variable {t : Tables}

theorem addPayslips_eq (t : Tables) (drafts : List Payslip.Draft) :
    t.addPayslips drafts =
      { t with
        payslips := t.payslips ++ Payslip.storedFrom t.nextId drafts
        lastId := t.lastId + drafts.length } := by
  induction drafts generalizing t with
  | nil => simp [addPayslips, Payslip.storedFrom]
  | cons draft drafts ih =>
      have rest := ih (t.addPayslip draft)
      simp only [addPayslips, List.foldl_cons] at rest ⊢
      rw [rest]
      simp only [addPayslip, nextId, Payslip.storedFrom, List.length_cons, List.append_assoc,
        List.singleton_append, Nat.add_assoc, Nat.add_comm 1]

theorem payslips_bookPayslips (t : Tables) (drafts : List Payslip.Draft) (actor : Actor)
    (now : Stamp) : (t.bookPayslips drafts actor now).payslips =
      t.payslips ++ Payslip.storedFrom t.nextId drafts := by
  rw [bookPayslips, addPayslips_eq]
  rfl

/-- A free batch has no draft with the key of a stored payslip. -/
theorem Free.not_stored {drafts : List Payslip.Draft} (free : t.Free drafts)
    {draft : Payslip.Draft} (mem : draft ∈ drafts) {p : Payslip} (stored : p ∈ t.payslips) :
    ¬ (p.user = draft.user ∧ p.period = draft.period) := by
  induction drafts generalizing t with
  | nil => simp at mem
  | cons first drafts ih =>
      rcases List.mem_cons.mp mem with rfl | mem
      · exact payslip?_eq_none.mp free.1 p stored
      · exact ih free.2 mem (List.mem_append_left _ stored)

end Tables

/-! A batch is computed as a whole or not at all. -/

section Batch
variable {ε α β : Type} {f : α → Except ε β}

theorem forall₂_of_mapM {as : List α} {bs : List β} (h : as.mapM f = .ok bs) :
    List.Forall₂ (fun a b => f a = .ok b) as bs := by
  induction as generalizing bs with
  | nil =>
      cases h
      exact .nil
  | cons a as ih =>
      rw [List.mapM_cons] at h
      cases hb : f a with
      | error cause => simp [hb, bind, Except.bind] at h
      | ok b =>
          cases hbs : as.mapM f with
          | error cause => simp [hb, hbs, bind, Except.bind] at h
          | ok bs' =>
              simp only [hb, hbs, bind, Except.bind, pure, Except.pure, Except.ok.injEq] at h
              subst h
              exact .cons hb (ih hbs)

theorem mapM_of_forall {as : List α} (h : ∀ a ∈ as, ∃ b, f a = .ok b) :
    ∃ bs, as.mapM f = .ok bs := by
  induction as with
  | nil => exact ⟨[], rfl⟩
  | cons a as ih =>
      obtain ⟨b, hb⟩ := h a List.mem_cons_self
      obtain ⟨bs, hbs⟩ := ih fun a mem => h a (List.mem_cons_of_mem _ mem)
      exact ⟨b :: bs, by simp [List.mapM_cons, hb, hbs, bind, Except.bind, pure, Except.pure]⟩

theorem exists_of_mapM_error {as : List α} {e : ε} (h : as.mapM f = .error e) :
    ∃ a ∈ as, f a = .error e := by
  induction as with
  | nil => cases h
  | cons a as ih =>
      rw [List.mapM_cons] at h
      cases first : f a with
      | error cause =>
          simp only [first, bind, Except.bind, Except.error.injEq] at h
          exact ⟨a, List.mem_cons_self, h ▸ first⟩
      | ok b =>
          cases rest : as.mapM f with
          | error cause =>
              simp only [first, rest, bind, Except.bind, Except.error.injEq] at h
              obtain ⟨a', mem, failed⟩ := ih (h ▸ rest)
              exact ⟨a', List.mem_cons_of_mem _ mem, failed⟩
          | ok bs =>
              simp [first, rest, bind, Except.bind, pure, Except.pure] at h

end Batch

theorem exists_of_mem_left {R : α → β → Prop} {as : List α} {bs : List β}
    (h : List.Forall₂ R as bs) {a : α} (mem : a ∈ as) : ∃ b ∈ bs, R a b := by
  induction h with
  | nil => simp at mem
  | cons first rest ih =>
      rcases List.mem_cons.mp mem with rfl | mem
      · exact ⟨_, List.mem_cons_self, first⟩
      · obtain ⟨b, hb, of⟩ := ih mem
        exact ⟨b, List.mem_cons_of_mem _ hb, of⟩

theorem exists_of_mem_right {R : α → β → Prop} {as : List α} {bs : List β}
    (h : List.Forall₂ R as bs) {b : β} (mem : b ∈ bs) : ∃ a ∈ as, R a b :=
  exists_of_mem_left (R := flip R) h.flip mem

/-- A computed payslip holds what was tallied, and none of its amounts has left the 64 bits. -/
theorem Payslip.of_compute {tally : Tally} {period : Nat} {days : Int} {createdAt : Stamp}
    {draft : Payslip.Draft} (h : compute tally period days createdAt = .ok draft) :
    draft =
      { user := tally.user, period, baseSalary := tally.baseSalary, workingDays := days
        presentDays := tally.presentDays
        attendanceAmount := (tally.presentDays * tally.baseSalary).tdiv days
        overtimeHours := tally.overtimeHours
        overtimeAmount := (tally.overtimeHours * tally.baseSalary).tdiv days
        reimbursementTotal := tally.reimbursementTotal
        takeHomePay := (tally.presentDays * tally.baseSalary).tdiv days +
          (tally.overtimeHours * tally.baseSalary).tdiv days + tally.reimbursementTotal
        createdAt } ∧
      Amount.Fits (draft.presentDays * draft.baseSalary) ∧
      Amount.Fits (draft.overtimeHours * draft.baseSalary) ∧ Amount.Fits draft.takeHomePay := by
  simp only [compute] at h
  split at h
  · rename_i fits
    cases h
    exact ⟨rfl, fits.1, fits.2.1, fits.2.2.2⟩
  · cases h

namespace Tables

variable {t : Tables}

theorem mem_tallies {period : Nat} {tally : Tally} :
    tally ∈ t.tallies period ↔ ∃ u ∈ t.users, u.isAdmin = false ∧ t.tally period u = tally := by
  simp [tallies, and_assoc]

section Computed
variable {period : Nat} {days : Int} {createdAt : Stamp} {drafts : List Payslip.Draft}

theorem exists_employee
    (computed : (t.tallies period).mapM (Payslip.compute · period days createdAt) = .ok drafts)
    {draft : Payslip.Draft} (mem : draft ∈ drafts) :
    ∃ u ∈ t.users, u.isAdmin = false ∧
      Payslip.compute (t.tally period u) period days createdAt = .ok draft := by
  obtain ⟨tally, tallied, of⟩ := exists_of_mem_right (forall₂_of_mapM computed) mem
  obtain ⟨u, stored, employee, rfl⟩ := mem_tallies.mp tallied
  exact ⟨u, stored, employee, of⟩

theorem exists_draft
    (computed : (t.tallies period).mapM (Payslip.compute · period days createdAt) = .ok drafts)
    {u : User} (mem : u ∈ t.users) (employee : u.isAdmin = false) :
    ∃ draft ∈ drafts, Payslip.compute (t.tally period u) period days createdAt = .ok draft :=
  exists_of_mem_left (forall₂_of_mapM computed) (mem_tallies.mpr ⟨u, mem, employee, rfl⟩)

theorem periods_of_computed
    (computed : (t.tallies period).mapM (Payslip.compute · period days createdAt) = .ok drafts) :
    ∀ draft ∈ drafts, draft.period = period := by
  intro draft mem
  obtain ⟨u, -, -, of⟩ := exists_employee computed mem
  rw [(Payslip.of_compute of).1]

end Computed
end Tables
end Wagebook
