import Wagebook.Proofs.Earnings

/-!
What a payslip is worth. It pays exactly for what was recorded before it, everyone on the roster of
its run got one, and no one is paid for more days or hours than there were.
-/

namespace Wagebook

namespace Tables

variable {t : Tables} {p : Payslip}

theorem Earned.exact_hours (h : t.Earned p) (lawful : t.Lawful) (numbered : t.Numbered) :
    p.overtimeHours = t.hoursBefore p.user p.period p.id := by
  obtain ⟨w, mem, period, -⟩ := h.window
  have fits := lawful.hoursBefore_fits numbered mem p.user p.id
  rw [period] at fits
  rw [h.overtimeHours, Amount.wrapped_eq fits]

theorem Earned.exact_reimbursement (h : t.Earned p)
    (fits : Amount.Fits (t.reimbursedBefore p.user p.period p.id)) :
    p.reimbursementTotal = t.reimbursedBefore p.user p.period p.id := by
  rw [h.reimbursementTotal, Amount.wrapped_eq fits]

theorem length_filter_key_le {rows : List α} {key : α → β} (h : (rows.map key).Nodup)
    (q : α → Prop) [DecidablePred q] (same : ∀ a ∈ rows, ∀ b ∈ rows, q a → q b → key a = key b) :
    (rows.filter fun a => q a).length ≤ 1 := by
  have nodup : (rows.filter fun a => q a).Nodup := h.of_map.filter _
  match found : rows.filter fun a => q a with
  | [] => exact Nat.zero_le _
  | [a] => exact Nat.le_refl _
  | a :: b :: rest =>
      have ha : a ∈ rows.filter fun a => q a := by simp [found]
      have hb : b ∈ rows.filter fun a => q a := by simp [found]
      simp only [List.mem_filter, decide_eq_true_eq] at ha hb
      have eq := List.inj_on_of_nodup_map h ha.1 hb.1 (same a ha.1 b hb.1 ha.2 hb.2)
      rw [found, eq] at nodup
      simp at nodup

/-- Of a period with payslips, an employee who was on the roster has one, and no one else has
any. -/
theorem Paid.count (h : t.Paid) (lawful : t.Lawful) (numbered : t.Numbered) {q : Payslip}
    (hq : q ∈ t.payslips) {u : User} (hu : u ∈ t.users) :
    (t.payslips.filter fun p => p.user = u.id ∧ p.period = q.period).length =
      if u.isAdmin = false ∧ ∀ p ∈ t.payslips, p.period = q.period → u.id < p.id then 1 else 0 := by
  have most : (t.payslips.filter fun p => p.user = u.id ∧ p.period = q.period).length ≤ 1 := by
    apply length_filter_key_le lawful.payslipKeys
    rintro a - b - ⟨ua, pa⟩ ⟨ub, pb⟩
    rw [Payslip.key, Payslip.key, ua, ub, pa, pb]
  split
  · rename_i onRoster
    obtain ⟨p, hp, of⟩ := h.complete q hq u hu onRoster.1 (onRoster.2 q hq rfl)
    have some : p ∈ t.payslips.filter fun p => p.user = u.id ∧ p.period = q.period := by
      simp [hp, of]
    have := List.length_pos_of_mem some
    omega
  · rename_i offRoster
    rw [List.length_eq_zero_iff, List.filter_eq_nil_iff]
    intro p hp of
    simp only [decide_eq_true_eq] at of
    obtain ⟨v, hv, user, employee, -⟩ := (h.earned p hp).employee
    rw [numbered.users.eq_of_mem hv hu (user.trans of.1)] at employee
    refine offRoster ⟨employee, fun p' hp' same => ?_⟩
    rw [← of.1]
    exact h.earlier p hp p' hp' (of.2.trans same.symm)

end Tables

/-- In every history each payslip is the pay for the records with smaller ids than its own, and no
later event changes it. Of each paid period, the employees with smaller ids than its payslips have
one payslip each, and nobody else has any. -/
theorem Memory.payslips_pay_earlier_records (events : List Event) :
    let t := (after events).tables
    (∀ p ∈ t.payslips,
      (∃ u ∈ t.users, u.id = p.user ∧ u.isAdmin = false ∧ u.salary = p.baseSalary) ∧
      (∃ w ∈ t.periods, w.id = p.period ∧
        p.workingDays = w.last.dayNumber - w.first.dayNumber + 1) ∧
      p.presentDays = (t.attendances.filter fun a =>
        a.id < p.id ∧ a.user = p.user ∧ a.period = p.period).length ∧
      p.overtimeHours = ((t.overtimes.filter fun o =>
        o.id < p.id ∧ o.user = p.user ∧ o.period = p.period).map (·.hours)).sum ∧
      (Amount.Fits ((t.reimbursements.filter fun r =>
          r.id < p.id ∧ r.user = p.user ∧ r.period = p.period).map (·.amount)).sum →
        p.reimbursementTotal = ((t.reimbursements.filter fun r =>
          r.id < p.id ∧ r.user = p.user ∧ r.period = p.period).map (·.amount)).sum) ∧
      p.attendanceAmount = (p.presentDays * p.baseSalary).tdiv p.workingDays ∧
      p.overtimeAmount = (p.overtimeHours * p.baseSalary).tdiv p.workingDays ∧
      p.takeHomePay = p.attendanceAmount + p.overtimeAmount + p.reimbursementTotal) ∧
    (∀ q ∈ t.payslips, ∀ u ∈ t.users,
      (t.payslips.filter fun p => p.user = u.id ∧ p.period = q.period).length =
        if u.isAdmin = false ∧ ∀ p ∈ t.payslips, p.period = q.period → u.id < p.id then 1
        else 0) ∧
    ∀ more : List Event, ∀ p ∈ t.payslips, p ∈ (after (events ++ more)).tables.payslips := by
  intro t
  have reached := after_reachable events
  have paid := reached.paid
  refine ⟨fun p mem => ?_, fun q hq u hu => ?_, fun more p mem => ?_⟩
  · have earned := paid.earned p mem
    obtain ⟨w, hw, period, days⟩ := earned.window
    exact ⟨earned.employee, ⟨w, hw, period, days.symm⟩, earned.presentDays,
      earned.exact_hours reached.lawful reached.numbered, earned.exact_reimbursement,
      earned.attendanceAmount, earned.overtimeAmount, earned.takeHomePay⟩
  · exact paid.count reached.lawful reached.numbered hq hu
  · exact (after_extends events more).payslips.mem mem

def Stamp.midnight (date : Date) : Stamp := { epoch with date }

/-- Ann comes to work on one day of a week, and takes a taxi. -/
def Event.week : List Event :=
  let monday : Date := ⟨2024, 1, 1, by decide⟩
  let now := Stamp.midnight monday
  [.addUser now "root" "" 0 true, .addUser now "ann" "" 700 false,
    .call (.createPeriod now monday ⟨2024, 1, 7, by decide⟩ ⟨1, 10⟩),
    .call (.submitAttendance now ⟨2, 11⟩ 3 monday),
    .call (.submitReimbursement now ⟨2, 12⟩ 3 30 "taxi")]

def Stamp.payday : Stamp := midnight ⟨2024, 1, 8, by decide⟩

/-- Her week is paid. -/
def Event.paidWeek : List Event := week ++ [.call (.runPayroll .payday 3 ⟨1, 13⟩)]

def Payslip.ofWeek : Payslip where
  id := 9
  user := 2
  period := 3
  baseSalary := 700
  workingDays := 7
  presentDays := 1
  attendanceAmount := 100
  overtimeHours := 0
  overtimeAmount := 0
  reimbursementTotal := 30
  takeHomePay := 130
  createdAt := .payday
  updatedAt := .payday

theorem Tables.tallies_of_one {t : Tables} {u : User} (h : t.users.filter (!·.isAdmin) = [u])
    (period : Nat) : t.tallies period = [t.tally period u] := by
  rw [tallies, h, List.mergeSort_singleton, List.map_singleton]

theorem Memory.tallies_week : (after Event.week).tables.tallies 3 = [⟨2, 700, 1, 0, 30⟩] := by
  rw [Tables.tallies_of_one rfl 3]
  rfl

theorem Memory.payslips_paidWeek : (after Event.paidWeek).tables.payslips = [Payslip.ofWeek] := by
  rw [Event.paidWeek, after_snoc, Event.apply, Command.operation, run_runPayroll, tallies_week]
  rfl

/-- A share of the days, or a few times that, of an amount. -/
theorem natAbs_share_le {n days amount : Int} {times : Nat} (least : 0 ≤ n)
    (most : n ≤ times * days) (pos : 0 < days) :
    ((n * amount).tdiv days).natAbs ≤ times * amount.natAbs := by
  obtain ⟨n, rfl⟩ := Int.eq_ofNat_of_zero_le least
  obtain ⟨days, rfl⟩ := Int.eq_ofNat_of_zero_le (Int.le_of_lt pos)
  have within : n ≤ times * days := by exact_mod_cast most
  rw [Int.natAbs_tdiv, Int.natAbs_mul, Int.natAbs_natCast, Int.natAbs_natCast]
  apply Nat.div_le_of_le_mul
  calc n * amount.natAbs ≤ times * days * amount.natAbs := Nat.mul_le_mul_right _ within
    _ = days * (times * amount.natAbs) := by
      rw [Nat.mul_comm times days, Nat.mul_assoc]

theorem Tables.Earned.bounds {t : Tables} {p : Payslip} (h : t.Earned p) (lawful : t.Lawful)
    (numbered : t.Numbered) :
    2 ≤ p.workingDays ∧ 0 ≤ p.presentDays ∧ p.presentDays ≤ p.workingDays ∧
      0 ≤ p.overtimeHours ∧ p.overtimeHours ≤ 3 * p.presentDays := by
  obtain ⟨w, mem, period, days⟩ := h.window
  have two := Period.two_le_workingDays (lawful.periodOrder w mem).1
  have present := lawful.presentBefore_le numbered mem p.user p.id
  have hours := lawful.hoursBefore_bounds p.user p.period p.id
  rw [h.exact_hours lawful numbered, h.presentDays]
  rw [period] at present
  omega

/-- In every history no payslip pays for more days than its period has, or for more than three hours
of overtime a day, and so at most four times the salary besides the expenses. -/
theorem Memory.payslips_never_overpay (events : List Event) :
    ∀ p ∈ (after events).tables.payslips,
      2 ≤ p.workingDays ∧ 0 ≤ p.presentDays ∧ p.presentDays ≤ p.workingDays ∧
      0 ≤ p.overtimeHours ∧ p.overtimeHours ≤ 3 * p.presentDays ∧
      p.attendanceAmount.natAbs ≤ p.baseSalary.natAbs ∧
      p.overtimeAmount.natAbs ≤ 3 * p.baseSalary.natAbs ∧
      (0 ≤ p.baseSalary → p.reimbursementTotal ≤ p.takeHomePay ∧
        p.takeHomePay ≤ 4 * p.baseSalary + p.reimbursementTotal) := by
  intro p mem
  have reached := after_reachable events
  have earned := reached.paid.earned p mem
  obtain ⟨days, least, most, someHours, hours⟩ := earned.bounds reached.lawful reached.numbered
  have attendance : p.attendanceAmount.natAbs ≤ 1 * p.baseSalary.natAbs := by
    rw [earned.attendanceAmount]
    exact natAbs_share_le least (by omega) (by omega)
  have overtime : p.overtimeAmount.natAbs ≤ 3 * p.baseSalary.natAbs := by
    rw [earned.overtimeAmount]
    exact natAbs_share_le someHours (by omega) (by omega)
  refine ⟨days, least, most, someHours, hours, by omega, overtime, fun salary => ?_⟩
  have attendancePaid : 0 ≤ p.attendanceAmount := by
    rw [earned.attendanceAmount]
    exact Int.tdiv_nonneg (Int.mul_nonneg least salary) (by omega)
  have overtimePaid : 0 ≤ p.overtimeAmount := by
    rw [earned.overtimeAmount]
    exact Int.tdiv_nonneg (Int.mul_nonneg someHours salary) (by omega)
  rw [earned.takeHomePay]
  omega

theorem Memory.payslip_ofWeek_never_overpays :
    Payslip.ofWeek ∈ (after Event.paidWeek).tables.payslips ∧
      Payslip.ofWeek.takeHomePay ≤ 4 * 700 + 30 := by
  have mem : Payslip.ofWeek ∈ (after Event.paidWeek).tables.payslips := by simp [payslips_paidWeek]
  exact ⟨mem, ((payslips_never_overpay Event.paidWeek _ mem).2.2.2.2.2.2.2 (by decide)).2⟩

end Wagebook
