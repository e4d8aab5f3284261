import Mathlib.Data.List.Forall2
import Wagebook.Amount
import Wagebook.Attendance
import Wagebook.Overtime
import Wagebook.Payslip
import Wagebook.Period
import Wagebook.Proofs.CalendarText
import Wagebook.Reimbursement

/-!
Records can be read back from their JSON, as long as their numbers are of the kind that is stored.
-/

namespace Wagebook

namespace Json

theorem membersNamed_cons (key name : String) (v : Json) (members : List (String × Json)) :
    membersNamed name ((key, v) :: members) =
      if key = name then v :: membersNamed name members else membersNamed name members := by
  by_cases same : key = name
  · simp [membersNamed, same]
  · simp [membersNamed, same]

theorem membersNamed_of_not_mem {members : List (String × Json)} {name : String}
    (h : name ∉ members.map (·.1)) : membersNamed name members = [] := by
  induction members with
  | nil => rfl
  | cons first members ih =>
      rw [List.map_cons, List.mem_cons, not_or] at h
      rw [membersNamed_cons, if_neg (Ne.symm h.1), ih h.2]

theorem membersNamed_of_mem {members : List (String × Json)} {name : String} {v : Json}
    (nodup : (members.map (·.1)).Nodup) (mem : (name, v) ∈ members) :
    membersNamed name members = [v] := by
  induction members with
  | nil => simp at mem
  | cons first members ih =>
      rw [List.map_cons, List.nodup_cons] at nodup
      rw [membersNamed_cons]
      rcases List.mem_cons.mp mem with rfl | mem
      · rw [if_pos rfl, membersNamed_of_not_mem nodup.1]
      · have other : first.1 ≠ name := by
          intro same
          exact nodup.1 (same ▸ List.mem_map.mpr ⟨_, mem, rfl⟩)
        rw [if_neg other]
        exact ih nodup.2 mem

theorem mapM_of_forall₂ {f : α → Option β} {as : List α} {bs : List β}
    (h : List.Forall₂ (fun a b => f a = some b) as bs) : as.mapM f = some bs := by
  induction h with
  | nil => rfl
  | cons first rest ih => simp [List.mapM_cons, first, ih]

theorem fields?_record {names optional : List String} {values : List Json}
    (nodup : names.Nodup) (len : names.length = values.length) :
    (record names values).fields? names optional = some values := by
  apply mapM_of_forall₂
  rw [List.forall₂_iff_zip]
  refine ⟨len, fun {name v} mem => ?_⟩
  have keys : ((names.zip values).map (·.1)).Nodup := by
    rw [List.map_fst_zip (Nat.le_of_eq len)]
    exact nodup
  simp [field?, membersNamed_of_mem keys mem]

/-- A record is read back when its values are. -/
theorem read_record {ofFields? : List Json → Option α} {names optional : List String}
    {values : List Json} (nodup : names.Nodup) (len : names.length = values.length) {a : α}
    (read : ofFields? values = some a) :
    ((record names values).fields? names optional >>= ofFields?) = some a := by
  rw [fields?_record nodup len]
  exact read

theorem natBelow?_nat {n bound : Nat} (h : n < bound) : natBelow? bound (nat n) = some n := by
  have within : (0 : Int) ≤ n ∧ (n : Int) < bound := by omega
  rw [nat, natBelow?, if_pos within, Int.toNat_natCast]

theorem nat64?_nat {n : Nat} (h : n < 0x10000000000000000) : (nat n).nat64? = some n :=
  natBelow?_nat h

theorem int64?_int {n : Int} (h : Amount.Fits n) : (int n).int64? = some n := by
  have : -((0x8000000000000000 : Nat) : Int) ≤ n ∧ n < (0x8000000000000000 : Nat) := h
  simp only [int64?, intWithin?, this]
  simp

theorem int32?_int {n : Int} (least : -0x80000000 ≤ n) (most : n < 0x80000000) :
    (int n).int32? = some n := by
  have : -((0x80000000 : Nat) : Int) ≤ n ∧ n < (0x80000000 : Nat) := ⟨least, most⟩
  simp only [int32?, intWithin?, this]
  simp

theorem date?_toJson (d : Date) : d.toJson.date? = some d := by
  change Date.read? (String.ofList d.text).toList = some d
  rw [String.toList_ofList, Date.read?_text]

theorem stamp?_toJson (s : Stamp) : s.toJson.stamp? = some s := by
  change Stamp.read? (String.ofList s.text).toList = some s
  rw [String.toList_ofList, Stamp.read?_text]

end Json

theorem Period.ofJson?_toJson {p : Period} (id : p.id < 0x10000000000000000) :
    ofJson? p.toJson = some p := by
  refine Json.read_record (by decide) rfl ?_
  simp [ofFields?, Json.nat64?_nat id, Json.date?_toJson, Json.stamp?_toJson, Json.bool?]

theorem Attendance.ofJson?_toJson {a : Attendance} (id : a.id < 0x10000000000000000)
    (user : a.user < 0x10000000000000000) (period : a.period < 0x10000000000000000) :
    ofJson? a.toJson = some a := by
  refine Json.read_record (by decide) rfl ?_
  simp [ofFields?, Json.nat64?_nat id, Json.nat64?_nat user, Json.nat64?_nat period,
    Json.date?_toJson, Json.stamp?_toJson]

theorem Overtime.ofJson?_toJson {o : Overtime} (id : o.id < 0x10000000000000000)
    (user : o.user < 0x10000000000000000) (period : o.period < 0x10000000000000000)
    (least : -0x80000000 ≤ o.hours) (most : o.hours < 0x80000000) : ofJson? o.toJson = some o := by
  refine Json.read_record (by decide) rfl ?_
  simp [ofFields?, Json.nat64?_nat id, Json.nat64?_nat user, Json.nat64?_nat period,
    Json.int32?_int least most, Json.date?_toJson, Json.stamp?_toJson]

theorem Reimbursement.ofJson?_toJson {r : Reimbursement} (id : r.id < 0x10000000000000000)
    (user : r.user < 0x10000000000000000) (period : r.period < 0x10000000000000000)
    (amount : Amount.Fits r.amount) : ofJson? r.toJson = some r := by
  refine Json.read_record (by decide) rfl ?_
  simp [ofFields?, Json.nat64?_nat id, Json.nat64?_nat user, Json.nat64?_nat period,
    Json.int64?_int amount, Json.str?, Json.stamp?_toJson]

/-- The payslip as it was before it had an id. -/
def Payslip.draft (p : Payslip) : Payslip.Draft where
  user := p.user
  period := p.period
  baseSalary := p.baseSalary
  workingDays := p.workingDays
  presentDays := p.presentDays
  attendanceAmount := p.attendanceAmount
  overtimeHours := p.overtimeHours
  overtimeAmount := p.overtimeAmount
  reimbursementTotal := p.reimbursementTotal
  takeHomePay := p.takeHomePay
  createdAt := p.createdAt

/-- All numbers of the payslip are of the kind that is stored. -/
structure Payslip.Draft.Fits (d : Payslip.Draft) : Prop where
  user : d.user < 0x10000000000000000
  period : d.period < 0x10000000000000000
  baseSalary : Amount.Fits d.baseSalary
  workingDays : Amount.Fits d.workingDays
  presentDays : Amount.Fits d.presentDays
  attendanceAmount : Amount.Fits d.attendanceAmount
  overtimeHours : Amount.Fits d.overtimeHours
  overtimeAmount : Amount.Fits d.overtimeAmount
  reimbursementTotal : Amount.Fits d.reimbursementTotal
  takeHomePay : Amount.Fits d.takeHomePay

theorem Payslip.Draft.ofJson?_toJson {d : Payslip.Draft} (h : d.Fits) :
    ofJson? d.toJson = some d := by
  refine Json.read_record (by decide) rfl ?_
  simp [ofFields?, Json.nat64?_nat h.user, Json.nat64?_nat h.period, Json.int64?_int h.baseSalary,
    Json.int64?_int h.workingDays, Json.int64?_int h.presentDays,
    Json.int64?_int h.attendanceAmount, Json.int64?_int h.overtimeHours,
    Json.int64?_int h.overtimeAmount, Json.int64?_int h.reimbursementTotal,
    Json.int64?_int h.takeHomePay, Json.stamp?_toJson]

theorem Payslip.Draft.list?_map_toJson {drafts : List Payslip.Draft}
    (h : ∀ draft ∈ drafts, draft.Fits) :
    (Json.arr (drafts.map toJson)).list? ofJson? = some drafts := by
  apply Json.mapM_of_forall₂
  rw [List.forall₂_map_left_iff, List.forall₂_same]
  exact fun draft mem => ofJson?_toJson (h draft mem)

end Wagebook
