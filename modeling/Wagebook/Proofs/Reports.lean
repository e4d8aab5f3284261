import Mathlib.Data.List.Permutation
import Mathlib.Data.List.Sort
import Wagebook.Proofs.Confinement

/-!
The report of a period against the payslips behind it. Its totals are collected payslip by payslip
in a list of users seen so far, which is sorted in the end. What comes out depends on the payslips
alone, in whatever order they are stored: it is what each user finds in his own list.
-/

namespace Wagebook

theorem sortedLE_mergeSort_key (key : α → Nat) (rows : List α) :
    ((rows.mergeSort (key · ≤ key ·)).map key).SortedLE := by
  have keys : (rows.mergeSort (key · ≤ key ·)).map key = (rows.map key).mergeSort (· ≤ ·) :=
    List.map_mergeSort fun _ _ _ _ => rfl
  rw [keys]
  exact List.sortedLE_mergeSort

/-- No choice of some amounts comes to more than all of them move. -/
theorem natAbs_sum_filter_le (amount : α → Int) (chosen : α → Bool) (rows : List α) :
    ((rows.filter chosen).map amount).sum.natAbs ≤ (rows.map (amount · |>.natAbs)).sum := by
  induction rows with
  | nil => exact Nat.le_refl 0
  | cons a rows ih =>
      simp only [List.filter_cons, List.map_cons, List.sum_cons]
      split
      · rw [List.map_cons, List.sum_cons]
        omega
      · omega

theorem Amount.fits_sum_filter {amount : α → Int} {rows : List α}
    (few : (rows.map (amount · |>.natAbs)).sum ≤ 0x7fffffffffffffff) (chosen : α → Bool) :
    Fits ((rows.filter chosen).map amount).sum := by
  have bound := natAbs_sum_filter_le amount chosen rows
  unfold Fits
  omega

namespace Payslip

/-- What payslips pay together, however much that is. -/
def payOf (rows : List Payslip) : Int := (rows.map (·.takeHomePay)).sum

/-- What payslips move, whether they pay or charge. -/
def turnover (rows : List Payslip) : Nat := (rows.map (·.takeHomePay.natAbs)).sum

variable {rows rows' : List Payslip}

theorem payOf_perm (h : rows.Perm rows') : payOf rows = payOf rows' := (h.map _).sum_eq

theorem turnover_perm (h : rows.Perm rows') : turnover rows = turnover rows' := (h.map _).sum_eq

theorem payOf_snoc (rows : List Payslip) (p : Payslip) :
    payOf (rows ++ [p]) = payOf rows + p.takeHomePay := by
  simp [payOf]

theorem payOf_filter_snoc (rows : List Payslip) (p : Payslip) (user : Nat) :
    payOf ((rows ++ [p]).filter (·.user = user)) =
      payOf (rows.filter (·.user = user)) + if p.user = user then p.takeHomePay else 0 := by
  by_cases same : p.user = user <;> simp [payOf, same]

theorem turnover_snoc (rows : List Payslip) (p : Payslip) :
    turnover (rows ++ [p]) = turnover rows + p.takeHomePay.natAbs := by
  simp [turnover]

theorem fits_payOf_filter (h : turnover rows ≤ 0x7fffffffffffffff) (chosen : Payslip → Bool) :
    Amount.Fits (payOf (rows.filter chosen)) :=
  Amount.fits_sum_filter h chosen

end Payslip

open Payslip

/-- Totals of some payslips: one for each user who has any, and it is what his payslips pay. -/
structure UserTotal.Sums (totals : List UserTotal) (rows : List Payslip) : Prop where
  users : (totals.map (·.user)).Nodup
  listed : ∀ user, user ∈ totals.map (·.user) ↔ ∃ p ∈ rows, p.user = user
  exact : ∀ entry ∈ totals, entry.totalTakeHome = payOf (rows.filter (·.user = entry.user))
  total : (totals.map (·.totalTakeHome)).sum = payOf rows

namespace Tables

/-- The user of a payslip is either new to the totals and gets one at their end, or he has one
already, and nothing but that changes. -/
theorem addPay_cases (p : Payslip) (totals : List UserTotal) :
    (p.user ∉ totals.map (·.user) ∧ addPay p totals = totals ++ [⟨p.user, p.takeHomePay⟩]) ∨
    ∃ before amount after, totals = before ++ ⟨p.user, amount⟩ :: after ∧
      addPay p totals = before ++ ⟨p.user, Amount.wrapped (amount + p.takeHomePay)⟩ :: after := by
  induction totals with
  | nil => exact .inl ⟨List.not_mem_nil, rfl⟩
  | cons entry totals ih =>
      by_cases same : entry.user = p.user
      · refine .inr ⟨[], entry.totalTakeHome, totals, by rw [← same]; rfl, ?_⟩
        rw [addPay, if_pos same, ← same]
        rfl
      rw [addPay, if_neg same]
      obtain ⟨unseen, added⟩ | ⟨before, amount, after, rfl, added⟩ := ih
      · refine .inl ⟨?_, by rw [added]; rfl⟩
        rw [List.map_cons, List.mem_cons, not_or]
        exact ⟨Ne.symm same, unseen⟩
      · exact .inr ⟨entry :: before, amount, after, rfl, by rw [added]; rfl⟩

end Tables

namespace UserTotal.Sums

variable {totals totals' : List UserTotal} {rows rows' : List Payslip}

theorem empty : Sums [] [] := ⟨.nil, by simp, by simp, rfl⟩

/-- The first payslip of a user. -/
theorem first (h : Sums totals rows) {p : Payslip} (unseen : p.user ∉ totals.map (·.user)) :
    Sums (totals ++ [⟨p.user, p.takeHomePay⟩]) (rows ++ [p]) where
  users := nodup_map_snoc h.users unseen
  listed user := by
    simp only [List.map_append, List.mem_append, h.listed, or_and_right, exists_or]
    simp [eq_comm]
  exact entry mem := by
    rw [payOf_filter_snoc]
    rcases List.mem_append.mp mem with old | new
    · have other : p.user ≠ entry.user := fun same =>
        unseen (List.mem_map.mpr ⟨entry, old, same.symm⟩)
      rw [if_neg other, add_zero, h.exact entry old]
    · obtain rfl := List.mem_singleton.mp new
      have none : rows.filter (·.user = p.user) = [] := by
        rw [List.filter_eq_nil_iff]
        intro q mem same
        exact unseen ((h.listed _).mpr ⟨q, mem, of_decide_eq_true same⟩)
      rw [if_pos rfl, none]
      exact (zero_add _).symm
  total := by simp [payOf_snoc, h.total]

/-- A further payslip of a user. -/
theorem further {p : Payslip} (h : Sums (before ++ ⟨p.user, amount⟩ :: after) rows) :
    Sums (before ++ ⟨p.user, amount + p.takeHomePay⟩ :: after) (rows ++ [p]) where
  users := by simpa using h.users
  listed user := by
    have users : (before ++ ⟨p.user, amount + p.takeHomePay⟩ :: after).map (·.user) =
        (before ++ ⟨p.user, amount⟩ :: after).map (·.user) := by simp
    rw [users, h.listed]
    constructor
    · rintro ⟨q, mem, of⟩
      exact ⟨q, List.mem_append_left _ mem, of⟩
    · rintro ⟨q, mem, rfl⟩
      rcases List.mem_append.mp mem with old | new
      · exact ⟨q, old, rfl⟩
      · rw [List.mem_singleton.mp new, ← h.listed]
        simp
  exact entry mem := by
    have users := h.users
    rw [List.map_append, List.map_cons, List.nodup_middle, List.nodup_cons, ← List.map_append]
      at users
    rw [payOf_filter_snoc]
    rcases mem_middle.mp mem with rfl | mem
    · rw [if_pos rfl, ← h.exact ⟨p.user, amount⟩ (by simp)]
    · have other : p.user ≠ entry.user := fun same =>
        users.1 (List.mem_map.mpr ⟨entry, mem, same.symm⟩)
      rw [if_neg other, add_zero, h.exact entry (mem_middle.mpr (.inr mem))]
  total := by
    have total := h.total
    simp only [List.map_append, List.map_cons, List.sum_append, List.sum_cons] at total ⊢
    rw [payOf_snoc]
    omega

/-- One more payslip, and no amount leaves the 64 bits. -/
theorem addPay (h : Sums totals rows) (p : Payslip)
    (fits : turnover (rows ++ [p]) ≤ 0x7fffffffffffffff) :
    Sums (Tables.addPay p totals) (rows ++ [p]) := by
  obtain ⟨unseen, added⟩ | ⟨before, amount, after, rfl, added⟩ := Tables.addPay_cases p totals
  · rw [added]
    exact h.first unseen
  · have mine : amount = payOf (rows.filter (·.user = p.user)) := h.exact ⟨p.user, amount⟩ (by simp)
    have fit := fits_payOf_filter fits (·.user = p.user)
    rw [payOf_filter_snoc, if_pos rfl, ← mine] at fit
    rw [added, Amount.wrapped_eq fit]
    exact h.further

/-- The totals of a whole list, collected payslip by payslip. -/
theorem collect (rows : List Payslip) (fits : turnover rows ≤ 0x7fffffffffffffff) :
    Sums (rows.foldl (fun totals p => Tables.addPay p totals) []) rows := by
  induction rows using List.reverseRecOn with
  | nil => exact .empty
  | append_singleton rows p ih =>
      rw [List.foldl_append]
      refine (ih ?_).addPay p fits
      rw [turnover_snoc] at fits
      omega

theorem perm (h : Sums totals rows) (same : totals'.Perm totals) :
    Sums totals' rows where
  users := ((same.map _).nodup_iff).mpr h.users
  listed user := (same.map _).mem_iff.trans (h.listed user)
  exact entry mem := h.exact entry (same.mem_iff.mp mem)
  total := ((same.map _).sum_eq).trans h.total

theorem eq_map (h : Sums totals rows) :
    totals = (totals.map (·.user)).map fun user => ⟨user, payOf (rows.filter (·.user = user))⟩ := by
  rw [List.map_map]
  conv => lhs; rw [← List.map_id totals]
  apply List.map_congr_left
  intro entry mem
  rw [Function.comp, ← h.exact entry mem]
  rfl

/-- In the order of the users there is only one list of totals, whatever the order of the
payslips. -/
theorem unique (h : Sums totals rows) (h' : Sums totals' rows') (same : rows.Perm rows')
    (sorted : (totals.map (·.user)).SortedLT) (sorted' : (totals'.map (·.user)).SortedLT) :
    totals = totals' := by
  have users : totals.map (·.user) = totals'.map (·.user) := by
    apply sorted.eq_of_mem_iff sorted'
    intro user
    simp only [h.listed, h'.listed, same.mem_iff]
  rw [h.eq_map, h'.eq_map, users]
  apply List.map_congr_left
  intro user _
  rw [payOf_perm (same.filter _)]

end UserTotal.Sums

/-- A report of some payslips: totals of them in the order of the users, and all together. -/
structure Report.Sums (report : Report) (rows : List Payslip) : Prop where
  perUser : UserTotal.Sums report.perUser rows
  ascending : (report.perUser.map (·.user)).SortedLT
  total : report.total = payOf rows

namespace Tables

variable {t : Tables} {period : Nat} {rows : List Payslip}

theorem report_sums (fits : turnover (t.payslips.filter (·.period = period)) ≤ 0x7fffffffffffffff) :
    (t.report period).Sums (t.payslips.filter (·.period = period)) := by
  have totals := (UserTotal.Sums.collect _ fits).perm (List.mergeSort_perm _ (·.user ≤ ·.user))
  have all : Amount.Fits (payOf (t.payslips.filter (·.period = period))) := by
    simpa using fits_payOf_filter fits fun _ => true
  refine ⟨totals, (sortedLE_mergeSort_key _ _).sortedLT_of_nodup totals.users, ?_⟩
  rw [← totals.total] at all ⊢
  exact Amount.wrapped_eq all

/-- A report does not depend on the order in which the payslips are stored. -/
theorem report_perm {t' : Tables} (same : t'.payslips.Perm t.payslips)
    (fits : turnover (t.payslips.filter (·.period = period)) ≤ 0x7fffffffffffffff) :
    t'.report period = t.report period := by
  have rows := same.filter (·.period = period)
  have sums := report_sums fits
  have sums' := report_sums (t := t') (turnover_perm rows ▸ fits)
  have perUser := sums'.perUser.unique sums.perUser rows sums'.ascending sums.ascending
  have total : (t'.report period).total = (t.report period).total := by
    rw [sums'.total, sums.total, payOf_perm rows]
  exact congrArg₂ Report.mk perUser total

/-- Payslips of users who have one each are collected as they are. -/
theorem collect_of_nodup (users : (rows.map (·.user)).Nodup) :
    rows.foldl (fun totals p => addPay p totals) [] =
      rows.map fun p => ⟨p.user, p.takeHomePay⟩ := by
  induction rows using List.reverseRecOn with
  | nil => rfl
  | append_singleton rows p ih =>
      rw [List.map_append, List.map_singleton, ← List.concat_eq_append, List.nodup_concat] at users
      rw [List.foldl_append, ih users.2, List.map_append]
      obtain ⟨-, added⟩ | ⟨before, amount, after, split, -⟩ :=
        addPay_cases p (rows.map fun p => ⟨p.user, p.takeHomePay⟩)
      · exact added
      · have seen := congrArg (List.map UserTotal.user) split
        rw [List.map_map] at seen
        refine absurd ?_ users.1
        change p.user ∈ List.map (UserTotal.user ∘ fun p => ⟨p.user, p.takeHomePay⟩) rows
        rw [seen]
        simp

/-- A user has at most one payslip for each period. -/
theorem Lawful.nodup_periods (h : t.Lawful) (user : Nat) :
    ((t.payslipsOf user).map (·.period)).Nodup := by
  rw [((t.payslipsOf_perm user).map _).nodup_iff, List.Nodup, List.pairwise_map,
    List.pairwise_filter]
  refine (List.pairwise_map.mp h.payslipKeys).imp fun differ mine his same => differ ?_
  exact Prod.ext ((of_decide_eq_true mine).trans (of_decide_eq_true his).symm) same

end Tables

namespace Memory

theorem run_getReport (period : Nat) (memory : Memory) :
    (getReport period).run memory = (.ok (memory.tables.report period), memory) := by
  rw [run_operation]
  rfl

variable {memory paid : Memory} {period : Nat}

/-- What a run has paid is the report of its period: there were no payslips of the period before. -/
theorem report_of_run (reached : memory.tables.Reachable)
    (ran : (runPayroll now period actor).run memory = (.ok n, paid)) :
    ∃ new, paid.tables.payslips = memory.tables.payslips ++ new ∧ new.length = n ∧
      (paid.tables.report period).perUser = new.map fun p => ⟨p.user, p.takeHomePay⟩ := by
  have writes := Command.writes_of_runPayroll ran
  generalize paid.tables = t at writes ⊢
  cases writes with
  | payroll found days computed free =>
      rename_i window drafts
      have users : ((Payslip.storedFrom memory.tables.nextId drafts).map (·.user)).SortedLT := by
        rw [Payslip.map_user_storedFrom, Tables.users_of_computed computed]
        exact (Tables.ascending_tallies reached.numbered period).sortedLT
      refine ⟨_, Tables.payslips_bookPayslips .., Payslip.length_storedFrom .., ?_⟩
      rw [Tables.report, reached.paid.filter_bookPayslips computed free,
        Tables.collect_of_nodup users.nodup]
      apply List.mergeSort_of_pairwise
      rw [List.pairwise_map]
      exact (List.pairwise_map.mp users.pairwise).imp fun less => decide_eq_true (Nat.le_of_lt less)

/-- The report of a period and the lists of payslips are one account. However the table is ordered,
and even with several payslips per user and period, the report names each user who has payslips of
the period, in order, with what they pay him, and its total is what all of them pay, as long as no
sum can leave the 64 bits. In his own list he finds all his payslips, by period, and those of the
period come to his part of the report. In a history he has at most one for each period, and after a
run the report names what the run has paid. -/
theorem report_matches_payslips (memory : Memory) (period : Nat) :
    let rows := memory.tables.payslips.filter (·.period = period)
    ∃ report, (getReport period).run memory = (.ok report, memory) ∧
      (turnover rows ≤ 0x7fffffffffffffff → report.Sums rows ∧
        ∀ other : Memory, other.tables.payslips.Perm memory.tables.payslips →
          (getReport period).run other = (.ok report, other)) ∧
      (∀ user, ∃ own, (getPayslips user).run memory = (.ok own, memory) ∧
        own.Perm (memory.tables.payslips.filter (·.user = user)) ∧
        (own.map (·.period)).SortedLE ∧
        (memory.tables.Reachable → (own.map (·.period)).SortedLT) ∧
        (turnover rows ≤ 0x7fffffffffffffff → ∀ entry ∈ report.perUser, entry.user = user →
          entry.totalTakeHome = payOf (own.filter (·.period = period)))) ∧
      ∀ (before : Memory) (now : Stamp) (actor : Actor) (n : Nat), before.tables.Reachable →
        (runPayroll now period actor).run before = (.ok n, memory) →
        ∃ new, memory.tables.payslips = before.tables.payslips ++ new ∧ new.length = n ∧
          report.perUser = new.map fun p => ⟨p.user, p.takeHomePay⟩ := by
  intro rows
  refine ⟨_, run_getReport period memory, fun fits => ⟨Tables.report_sums fits, ?_⟩, fun user => ?_,
    fun before now actor n reached ran => report_of_run reached ran⟩
  · intro other same
    rw [run_getReport, Tables.report_perm same fits]
  · have own := memory.tables.payslipsOf_perm user
    have sorted : ((memory.tables.payslipsOf user).map (·.period)).SortedLE :=
      sortedLE_mergeSort_key Payslip.period _
    refine ⟨_, run_getPayslips user memory, own, sorted, fun reached => ?_, ?_⟩
    · exact sorted.sortedLT_of_nodup (reached.lawful.nodup_periods user)
    · rintro fits entry listed rfl
      rw [(Tables.report_sums fits).perUser.exact entry listed, payOf_perm (own.filter _),
        List.filter_comm]

/-- Payslips that somebody has put into the table as they came to hand. -/
def withPayslips : Memory where
  tables.payslips :=
    let payslip (id user period : Nat) (takeHomePay : Int) : Payslip :=
      { Payslip.ofWeek with id, user, period, takeHomePay }
    [payslip 9 4 3 70, payslip 5 2 3 100, payslip 8 2 1 40, payslip 6 4 1 (-15),
      payslip 7 2 3 30]

/-- The report of the third period takes them by user, and adds up the two of the first one. The
other user has his list by period. -/
theorem report_of_withPayslips :
    (getReport 3).run withPayslips = (.ok ⟨[⟨2, 130⟩, ⟨4, 70⟩], 200⟩, withPayslips) ∧
      ∃ own, (getPayslips 4).run withPayslips = (.ok own, withPayslips) ∧
        own.map (·.id) = [6, 9] ∧ own.map (·.takeHomePay) = [-15, 70] := by
  obtain ⟨report, answered, adds, lists, -⟩ := report_matches_payslips withPayslips 3
  obtain ⟨sums, -⟩ := adds (by decide)
  obtain ⟨own, shown, perm, sorted, -⟩ := lists 4
  have totals : UserTotal.Sums [⟨2, 130⟩, ⟨4, 70⟩]
      (withPayslips.tables.payslips.filter (·.period = 3)) :=
    { users := by decide
      listed := fun user => by simp [withPayslips, eq_comm, or_comm]
      exact := by decide
      total := by decide }
  have perUser := sums.perUser.unique totals .rfl sums.ascending (by decide)
  have same : report = ⟨[⟨2, 130⟩, ⟨4, 70⟩], 200⟩ := congrArg₂ Report.mk perUser sums.total
  refine ⟨same ▸ answered, own, shown, ?_⟩
  obtain rfl | rfl := List.perm_pair.mp perm
  · exact absurd sorted (by decide)
  · exact ⟨rfl, rfl⟩

end Memory
end Wagebook
