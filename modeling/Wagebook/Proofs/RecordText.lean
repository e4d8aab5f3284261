import Wagebook.Audit
import Wagebook.Proofs.FreeForm
import Wagebook.Proofs.Records

/-!
Every record is read back from its text, and so is whatever is read of any text.
-/

namespace Wagebook

namespace Json

/-- A record from its text. -/
def decode (ofJson? : Json → Option α) (text : String) : Option α := (parse? text).bind ofJson?

theorem decode_render {ofJson? : Json → Option α} {v : Json} {a : α} (exact : Exact v)
    (read : ofJson? v = some a) : decode ofJson? v.render = some a := by
  rw [decode, exact.parse?_render, Option.bind_some, read]

theorem exact_date (d : Date) : Exact d.toJson := .str _

theorem exact_stamp (s : Stamp) : Exact s.toJson := .str _

theorem exact_ofOption {encode : α → Json} (h : ∀ a, Exact (encode a)) (o : Option α) :
    Exact (ofOption encode o) := by
  cases o with
  | none => exact .null
  | some a => exact h a

theorem nat64?_lt {v : Json} {n : Nat} (h : v.nat64? = some n) : n < 0x10000000000000000 := by
  unfold nat64? natBelow? at h
  split at h
  · split at h
    · cases h
      omega
    · cases h
  · cases h

theorem intWithin?_bounds {v : Json} {n : Int} {bound : Nat} (h : v.intWithin? bound = some n) :
    -bound ≤ n ∧ n < bound := by
  unfold intWithin? at h
  split at h
  · split at h
    · rename_i within
      cases h
      exact within
    · cases h
  · cases h

theorem int64?_fits {v : Json} {n : Int} (h : v.int64? = some n) : Amount.Fits n :=
  intWithin?_bounds h

theorem int32?_bounds {v : Json} {n : Int} (h : v.int32? = some n) :
    -0x80000000 ≤ n ∧ n < 0x80000000 :=
  intWithin?_bounds h

theorem option?_lt {v : Json} {o : Option Nat} (h : v.option? nat64? = some o) :
    ∀ n ∈ o, n < 0x10000000000000000 := by
  unfold option? at h
  split at h
  · cases h
    nofun
  · simp only [Option.map_eq_some_iff] at h
    obtain ⟨m, read, rfl⟩ := h
    rintro n ⟨⟩
    exact nat64?_lt read

theorem option?_ofOption {o : Option Nat} (h : ∀ n ∈ o, n < 0x10000000000000000) :
    (ofOption nat o).option? nat64? = some o := by
  cases o with
  | none => rfl
  | some n =>
      change (nat64? (nat n)).map some = _
      rw [nat64?_nat (h n (Option.mem_some_self n)), Option.map_some]

theorem forall_of_mapM {f : α → Option β} {P : β → Prop} (each : ∀ a b, f a = some b → P b)
    {as : List α} {bs : List β} (h : as.mapM f = some bs) : ∀ b ∈ bs, P b := by
  induction as generalizing bs with
  | nil =>
      cases h
      nofun
  | cons a as ih =>
      rw [List.mapM_cons] at h
      simp only [Option.bind_eq_bind, Option.bind_eq_some_iff, Option.pure_def,
        Option.some.injEq] at h
      obtain ⟨b, first, bs, later, rfl⟩ := h
      exact List.forall_mem_cons.mpr ⟨each a b first, ih later⟩

end Json

/-- Values are read back from their texts, and so is whatever is read of any text; at least if they
last. -/
structure Lossless (toJson : α → Json) (ofJson? : Json → Option α) (Value Lasts : α → Prop) :
    Prop where
  reads : ∀ a, Value a → Lasts a → Json.decode ofJson? (toJson a).render = some a
  rereads : ∀ text a, Json.decode ofJson? text = some a → Lasts a →
    Json.decode ofJson? (toJson a).render = some a

/-- It is enough that what is read is a value, and that values are read back from their JSON. -/
theorem Lossless.of_json {toJson : α → Json} {ofJson? : Json → Option α} {Value Lasts : α → Prop}
    (exact : ∀ a, Lasts a → Json.Exact (toJson a))
    (reads : ∀ a, Value a → Lasts a → ofJson? (toJson a) = some a)
    (values : ∀ v a, ofJson? v = some a → Value a) : Lossless toJson ofJson? Value Lasts where
  reads a value lasts := Json.decode_render (exact a lasts) (reads a value lasts)
  rereads text a read lasts := by
    rw [Json.decode, Option.bind_eq_some_iff] at read
    obtain ⟨v, -, read⟩ := read
    exact Json.decode_render (exact a lasts) (reads a (values v a read) lasts)

/-- What is read of any JSON comes from the values of its fields. -/
theorem Json.forall_of_record {ofFields? : List Json → Option α} {P : α → Prop}
    (each : ∀ values a, ofFields? values = some a → P a) {v : Json} {names free : List String}
    {a : α} (h : (v.fields? names free >>= ofFields?) = some a) : P a := by
  rw [Option.bind_eq_bind, Option.bind_eq_some_iff] at h
  obtain ⟨values, -, read⟩ := h
  exact each values a read

/-! The numbers of a record are of the kind of its fields. -/

def Period.Fits (p : Period) : Prop := p.id < 0x10000000000000000

structure Attendance.Fits (a : Attendance) : Prop where
  id : a.id < 0x10000000000000000
  user : a.user < 0x10000000000000000
  period : a.period < 0x10000000000000000

structure Overtime.Fits (o : Overtime) : Prop where
  id : o.id < 0x10000000000000000
  user : o.user < 0x10000000000000000
  period : o.period < 0x10000000000000000
  hours : -0x80000000 ≤ o.hours ∧ o.hours < 0x80000000

structure Reimbursement.Fits (r : Reimbursement) : Prop where
  id : r.id < 0x10000000000000000
  user : r.user < 0x10000000000000000
  period : r.period < 0x10000000000000000
  amount : Amount.Fits r.amount

structure Payslip.Fits (p : Payslip) : Prop where
  id : p.id < 0x10000000000000000
  draft : p.draft.Fits

structure UserTotal.Fits (t : UserTotal) : Prop where
  user : t.user < 0x10000000000000000
  totalTakeHome : Amount.Fits t.totalTakeHome

structure Report.Fits (r : Report) : Prop where
  perUser : ∀ t ∈ r.perUser, t.Fits
  total : Amount.Fits r.total

/-- What stood and what stands in the table are kept in the form in which they would be read. -/
structure AuditEntry.Fits (e : AuditEntry) : Prop where
  id : e.id < 0x10000000000000000
  recordId : e.recordId < 0x10000000000000000
  oldData : e.oldData.Held
  newData : e.newData.Held
  changedBy : ∀ n ∈ e.changedBy, n < 0x10000000000000000
  request : ∀ n ∈ e.request, n < 0x10000000000000000

/-- The entry around them is one level of their nesting. -/
structure AuditEntry.Lasts (e : AuditEntry) : Prop where
  oldData : e.oldData.Lasting (Json.depthLimit - 1)
  newData : e.newData.Lasting (Json.depthLimit - 1)

def RequestEntry.Fits (e : RequestEntry) : Prop := e.id < 0x10000000000000000

section Lossless

open Json (exact_record exact_nat exact_date exact_stamp nat64?_lt int64?_fits)

theorem Period.lossless : Lossless toJson ofJson? Fits fun _ => True := by
  refine .of_json (fun p _ => ?_) (fun p h _ => ofJson?_toJson h) fun v p =>
    Json.forall_of_record fun values p h => ?_
  · exact exact_record (by simp [exact_nat, exact_date, exact_stamp, Json.Exact.bool])
  · unfold ofFields? at h
    split at h
    · simp only [Option.bind_eq_bind, Option.bind_eq_some_iff, Option.pure_def,
        Option.some.injEq] at h
      obtain ⟨id, hid, -, -, -, -, -, -, -, -, -, -, rfl⟩ := h
      exact nat64?_lt hid
    · cases h

theorem Attendance.lossless : Lossless toJson ofJson? Fits fun _ => True := by
  refine .of_json (fun a _ => ?_) (fun a h _ => ofJson?_toJson h.id h.user h.period) fun v a =>
    Json.forall_of_record fun values a h => ?_
  · exact exact_record (by simp [exact_nat, exact_date, exact_stamp])
  · unfold ofFields? at h
    split at h
    · simp only [Option.bind_eq_bind, Option.bind_eq_some_iff, Option.pure_def,
        Option.some.injEq] at h
      obtain ⟨id, hid, user, huser, period, hperiod, -, -, -, -, -, -, rfl⟩ := h
      exact ⟨nat64?_lt hid, nat64?_lt huser, nat64?_lt hperiod⟩
    · cases h

theorem Overtime.lossless : Lossless toJson ofJson? Fits fun _ => True := by
  refine .of_json (fun o _ => ?_)
    (fun o h _ => ofJson?_toJson h.id h.user h.period h.hours.1 h.hours.2) fun v o =>
    Json.forall_of_record fun values o h => ?_
  · exact exact_record (by simp [exact_nat, exact_date, exact_stamp, Json.Exact.int])
  · unfold ofFields? at h
    split at h
    · simp only [Option.bind_eq_bind, Option.bind_eq_some_iff, Option.pure_def,
        Option.some.injEq] at h
      obtain ⟨id, hid, user, huser, period, hperiod, -, -, hours, hhours, -, -, -, -, rfl⟩ := h
      exact ⟨nat64?_lt hid, nat64?_lt huser, nat64?_lt hperiod, Json.int32?_bounds hhours⟩
    · cases h

theorem Reimbursement.lossless : Lossless toJson ofJson? Fits fun _ => True := by
  refine .of_json (fun r _ => ?_) (fun r h _ => ofJson?_toJson h.id h.user h.period h.amount)
    fun v r => Json.forall_of_record fun values r h => ?_
  · exact exact_record (by simp [exact_nat, exact_stamp, Json.Exact.int, Json.Exact.str])
  · unfold ofFields? at h
    split at h
    · simp only [Option.bind_eq_bind, Option.bind_eq_some_iff, Option.pure_def,
        Option.some.injEq] at h
      obtain ⟨id, hid, user, huser, period, hperiod, amount, hamount, -, -, -, -, -, -, rfl⟩ := h
      exact ⟨nat64?_lt hid, nat64?_lt huser, nat64?_lt hperiod, int64?_fits hamount⟩
    · cases h

theorem Payslip.Draft.lossless : Lossless toJson ofJson? Fits fun _ => True := by
  refine .of_json (fun d _ => ?_) (fun d h _ => ofJson?_toJson h) fun v d =>
    Json.forall_of_record fun values d h => ?_
  · exact exact_record (by simp [exact_nat, exact_stamp, Json.Exact.int])
  · unfold ofFields? at h
    split at h
    · simp only [Option.bind_eq_bind, Option.bind_eq_some_iff, Option.pure_def,
        Option.some.injEq] at h
      obtain ⟨user, huser, period, hperiod, salary, hsalary, days, hdays, present, hpresent,
        attendance, hattendance, hours, hhours, overtime, hovertime, reimbursed, hreimbursed,
        pay, hpay, -, -, rfl⟩ := h
      exact ⟨nat64?_lt huser, nat64?_lt hperiod, int64?_fits hsalary, int64?_fits hdays,
        int64?_fits hpresent, int64?_fits hattendance, int64?_fits hhours,
        int64?_fits hovertime, int64?_fits hreimbursed, int64?_fits hpay⟩
    · cases h

theorem Payslip.ofJson?_toJson {p : Payslip} (h : p.Fits) : ofJson? p.toJson = some p := by
  refine Json.read_record (by decide) rfl ?_
  obtain ⟨id, user, period, salary, days, present, attendance, hours, overtime, reimbursed, pay⟩ :=
    h
  simp only [draft] at user period salary days present attendance hours overtime reimbursed pay
  simp [ofFields?, Json.nat64?_nat id, Json.nat64?_nat user, Json.nat64?_nat period,
    Json.int64?_int salary, Json.int64?_int days, Json.int64?_int present,
    Json.int64?_int attendance, Json.int64?_int hours, Json.int64?_int overtime,
    Json.int64?_int reimbursed, Json.int64?_int pay, Json.stamp?_toJson]

theorem Payslip.lossless : Lossless toJson ofJson? Fits fun _ => True := by
  refine .of_json (fun p _ => ?_) (fun p h _ => ofJson?_toJson h) fun v p =>
    Json.forall_of_record fun values p h => ?_
  · exact exact_record (by simp [exact_nat, exact_stamp, Json.Exact.int])
  · unfold ofFields? at h
    split at h
    · obtain ⟨id, hid, h⟩ := Option.bind_eq_some_iff.mp h
      obtain ⟨user, huser, h⟩ := Option.bind_eq_some_iff.mp h
      obtain ⟨period, hperiod, h⟩ := Option.bind_eq_some_iff.mp h
      simp only [Option.bind_eq_bind, Option.bind_eq_some_iff, Option.pure_def,
        Option.some.injEq] at h
      obtain ⟨salary, hsalary, days, hdays, present, hpresent, attendance, hattendance, hours,
        hhours, overtime, hovertime, reimbursed, hreimbursed, pay, hpay, -, -, -, -, rfl⟩ := h
      exact ⟨nat64?_lt hid, nat64?_lt huser, nat64?_lt hperiod, int64?_fits hsalary,
        int64?_fits hdays, int64?_fits hpresent, int64?_fits hattendance, int64?_fits hhours,
        int64?_fits hovertime, int64?_fits hreimbursed, int64?_fits hpay⟩
    · cases h

theorem UserTotal.ofJson?_toJson {t : UserTotal} (h : t.Fits) : ofJson? t.toJson = some t := by
  refine Json.read_record (by decide) rfl ?_
  simp [ofFields?, Json.nat64?_nat h.user, Json.int64?_int h.totalTakeHome]

theorem UserTotal.exact (t : UserTotal) : t.toJson.Exact :=
  exact_record (by simp [exact_nat, Json.Exact.int])

theorem UserTotal.fits_of_ofJson? {v : Json} {t : UserTotal} (h : ofJson? v = some t) :
    t.Fits := by
  refine Json.forall_of_record (fun values t h => ?_) h
  unfold ofFields? at h
  split at h
  · simp only [Option.bind_eq_bind, Option.bind_eq_some_iff, Option.pure_def,
      Option.some.injEq] at h
    obtain ⟨user, huser, total, htotal, rfl⟩ := h
    exact ⟨nat64?_lt huser, int64?_fits htotal⟩
  · cases h

theorem UserTotal.lossless : Lossless toJson ofJson? Fits fun _ => True :=
  .of_json (fun t _ => t.exact) (fun _ h _ => ofJson?_toJson h) fun _ _ => fits_of_ofJson?

theorem Report.ofJson?_toJson {r : Report} (h : r.Fits) : ofJson? r.toJson = some r := by
  refine Json.read_record (by decide) rfl ?_
  have perUser : (Json.arr (r.perUser.map UserTotal.toJson)).list? UserTotal.ofJson? =
      some r.perUser := by
    apply Json.mapM_of_forall₂
    rw [List.forall₂_map_left_iff, List.forall₂_same]
    exact fun t mem => UserTotal.ofJson?_toJson (h.perUser t mem)
  simp [ofFields?, perUser, Json.int64?_int h.total]

theorem Report.lossless : Lossless toJson ofJson? Fits fun _ => True := by
  refine .of_json (fun r _ => ?_) (fun r h _ => ofJson?_toJson h) fun v r =>
    Json.forall_of_record fun values r h => ?_
  · have perUser : (Json.arr (r.perUser.map UserTotal.toJson)).Exact :=
      .arr (List.forall_mem_map.mpr fun t _ => t.exact)
    exact exact_record (by simp [perUser, Json.Exact.int])
  · unfold ofFields? at h
    split at h
    · rename_i perUser total
      simp only [Option.bind_eq_bind, Option.bind_eq_some_iff, Option.pure_def,
        Option.some.injEq] at h
      obtain ⟨totals, htotals, total, htotal, rfl⟩ := h
      refine ⟨?_, int64?_fits htotal⟩
      cases perUser with
      | arr items =>
          exact Json.forall_of_mapM (fun _ _ => UserTotal.fits_of_ofJson?) htotals
      | _ => cases htotals
    · cases h

theorem AuditTable.ofJson?_toJson (t : AuditTable) : ofJson? t.toJson = some t := by
  cases t <;> decide

theorem AuditAction.ofJson?_toJson (a : AuditAction) : ofJson? a.toJson = some a := by
  cases a
  decide

theorem AuditEntry.ofJson?_toJson {e : AuditEntry} (h : e.Fits) (lasts : e.Lasts) :
    ofJson? e.toJson = some e := by
  refine Json.read_record (by decide) rfl ?_
  simp [ofFields?, Json.nat64?_nat h.id, AuditTable.ofJson?_toJson, Json.nat64?_nat h.recordId,
    AuditAction.ofJson?_toJson, Json.free?_self h.oldData lasts.oldData,
    Json.free?_self h.newData lasts.newData, Json.option?_ofOption h.changedBy,
    Json.option?_ofOption h.request, Json.stamp?_toJson]

theorem AuditEntry.lossless : Lossless toJson ofJson? Fits Lasts := by
  refine .of_json (fun e lasts => ?_) (fun e => ofJson?_toJson) fun v e =>
    Json.forall_of_record fun values e h => ?_
  · have table : e.table.toJson.Exact := .str _
    have action : e.action.toJson.Exact := .str _
    exact exact_record (by simp [exact_nat, table, action, lasts.oldData.exact,
      lasts.newData.exact, Json.exact_ofOption exact_nat, exact_stamp])
  · unfold ofFields? at h
    split at h
    · simp only [Option.bind_eq_bind, Option.bind_eq_some_iff, Option.pure_def,
        Option.some.injEq] at h
      obtain ⟨id, hid, -, -, recordId, hrecordId, -, -, old, hold, new, hnew, changedBy,
        hchangedBy, request, hrequest, -, -, rfl⟩ := h
      exact ⟨nat64?_lt hid, nat64?_lt hrecordId, Json.held_of_free? hold, Json.held_of_free? hnew,
        Json.option?_lt hchangedBy, Json.option?_lt hrequest⟩
    · cases h

theorem RequestEntry.ofJson?_toJson {e : RequestEntry} (h : e.Fits) :
    ofJson? e.toJson = some e := by
  refine Json.read_record (by decide) rfl ?_
  simp [ofFields?, Json.nat64?_nat h, Json.str?, Json.stamp?_toJson]

theorem RequestEntry.lossless : Lossless toJson ofJson? Fits fun _ => True := by
  refine .of_json (fun e _ => ?_) (fun e h _ => ofJson?_toJson h) fun v e =>
    Json.forall_of_record fun values e h => ?_
  · exact exact_record (by simp [exact_nat, exact_stamp, Json.Exact.str])
  · unfold ofFields? at h
    split at h
    · simp only [Option.bind_eq_bind, Option.bind_eq_some_iff, Option.pure_def,
        Option.some.injEq] at h
      obtain ⟨id, hid, -, -, -, -, -, -, -, -, rfl⟩ := h
      exact nat64?_lt hid
    · cases h

end Lossless

namespace Json

theorem mem_of_mem_membersNamed {name : String} {members : List (String × Json)} {v : Json}
    (h : v ∈ membersNamed name members) : (name, v) ∈ members := by
  simp only [membersNamed, List.mem_filterMap, Option.ite_none_right_eq_some,
    Option.some.injEq] at h
  obtain ⟨⟨key, w⟩, mem, rfl, rfl⟩ := h
  exact mem

theorem Frank.of_fields? {v : Json} (frank : Frank v) {names free : List String}
    {values : List Json} (h : v.fields? names free = some values) : ∀ w ∈ values, Frank w := by
  cases frank with
  | arr items =>
      simp only [fields?, Option.ite_none_right_eq_some, Option.some.injEq] at h
      obtain ⟨-, rfl⟩ := h
      exact items
  | obj members keys =>
      refine forall_of_mapM (fun name w found => ?_) h
      unfold field? at found
      split at found
      · rename_i named
        cases found
        exact members _ (mem_of_mem_membersNamed (named ▸ List.mem_singleton_self _))
      · split at found
        · cases found
          exact .null
        · cases found
      · cases found
  | _ => cases h

end Json

theorem AuditEntry.lasts_of_frank {v : Json} (frank : v.Frank) {e : AuditEntry}
    (h : ofJson? v = some e) : e.Lasts := by
  rw [ofJson?, Option.bind_eq_bind, Option.bind_eq_some_iff] at h
  obtain ⟨values, fields, h⟩ := h
  have each := frank.of_fields? fields
  unfold ofFields? at h
  split at h
  · simp only [Option.bind_eq_bind, Option.bind_eq_some_iff, Option.pure_def,
      Option.some.injEq] at h
    obtain ⟨-, -, -, -, -, -, -, -, old, hold, new, hnew, -, -, -, -, -, -, rfl⟩ := h
    exact ⟨(each _ (by simp)).lasting hold, (each _ (by simp)).lasting hnew⟩
  · cases h

/-- Values of all kinds of records are read back from their texts, over the whole range of their
fields, and so is whatever is read of any text. The free-form values of audit entries must not hold
spelled numbers, nest too deep or have objects that stand for texts. None of these comes from a text
that is frank. -/
theorem records_read_back :
    Lossless Period.toJson Period.ofJson? Period.Fits (fun _ => True) ∧
    Lossless Attendance.toJson Attendance.ofJson? Attendance.Fits (fun _ => True) ∧
    Lossless Overtime.toJson Overtime.ofJson? Overtime.Fits (fun _ => True) ∧
    Lossless Reimbursement.toJson Reimbursement.ofJson? Reimbursement.Fits (fun _ => True) ∧
    Lossless Payslip.toJson Payslip.ofJson? Payslip.Fits (fun _ => True) ∧
    Lossless Payslip.Draft.toJson Payslip.Draft.ofJson? Payslip.Draft.Fits (fun _ => True) ∧
    Lossless UserTotal.toJson UserTotal.ofJson? UserTotal.Fits (fun _ => True) ∧
    Lossless Report.toJson Report.ofJson? Report.Fits (fun _ => True) ∧
    Lossless RequestEntry.toJson RequestEntry.ofJson? RequestEntry.Fits (fun _ => True) ∧
    Lossless AuditEntry.toJson AuditEntry.ofJson? AuditEntry.Fits AuditEntry.Lasts ∧
    ∀ text v e, Json.parse? text = some v → v.Frank → AuditEntry.ofJson? v = some e → e.Lasts :=
  ⟨Period.lossless, Attendance.lossless, Overtime.lossless, Reimbursement.lossless,
    Payslip.lossless, Payslip.Draft.lossless, UserTotal.lossless, Report.lossless,
    RequestEntry.lossless, AuditEntry.lossless,
    fun _ _ _ _ frank => AuditEntry.lasts_of_frank frank⟩

/-- An entry of a payroll run that holds some data. -/
def AuditEntry.holding (newData : Json) : AuditEntry where
  id := 1
  table := .payslips
  recordId := runRecordId
  action := .create
  oldData := .obj []
  newData
  changedBy := some 4
  request := some 5
  createdAt := .epoch

namespace Json

theorem parse?_one : parse? "1" = some (.int 1) := (Exact.int 1).parse?_render

/-- The object is taken for the value in its text. -/
theorem free?_standing : free? (depthLimit - 1) (.obj [(textKey, .str "1")]) = some (.int 1) := by
  change (parse? "1").bind (freeWith? (freeText? 1) depthLimit) = _
  rw [parse?_one]
  rfl

/-- Behind another key the key of texts is one like any other, but in its form the object starts
with it, and then it must be the only one. -/
theorem free?_shifted :
    free? (depthLimit - 1) (.obj [("a", .int 1), (textKey, .str "1")]) =
        some (.obj [(textKey, .str "1"), ("a", .int 1)]) ∧
      free? (depthLimit - 1) (.obj [(textKey, .str "1"), ("a", .int 1)]) = none := by
  have other : textKey ≠ "a" := by decide
  have before : textKey < "a" := by decide
  constructor
  · unfold free?
    rw [depthLimit, freeWith?_proper (by simpa using other.symm)]
    simp [freeMembers?, freeWith?, number?, insertMember, other, before]
  · rfl

end Json

namespace AuditEntry

theorem exact_holding {newData : Json} (h : newData.Exact) : (holding newData).toJson.Exact := by
  have oldData : (Json.obj []).Exact := .obj (List.forall_mem_nil _)
  have table : AuditTable.payslips.toJson.Exact := .str _
  have action : AuditAction.create.toJson.Exact := .str _
  exact Json.exact_record (by simp [holding, Json.exact_nat, table, action, oldData, h,
    Json.exact_ofOption Json.exact_nat, Json.exact_stamp])

/-- Only the form in which the data is read decides what becomes of the entry. -/
theorem decode_holding {newData : Json} (h : newData.Exact) :
    Json.decode ofJson? (holding newData).toJson.render =
      (Json.free? (Json.depthLimit - 1) newData).map holding := by
  rw [Json.decode, (exact_holding h).parse?_render, Option.bind_some, ofJson?, toJson,
    Json.fields?_record (by decide) rfl]
  have empty : Json.free? (Json.depthLimit - 1) (.obj []) = some (.obj []) :=
    Json.free?_self (.obj (List.forall_mem_nil _) .nil) (.obj (List.forall_mem_nil _) nofun)
  have table : AuditTable.ofJson? AuditTable.payslips.toJson = some .payslips :=
    AuditTable.ofJson?_toJson _
  have action : AuditAction.ofJson? AuditAction.create.toJson = some .create :=
    AuditAction.ofJson?_toJson _
  have number (n : Nat) (small : n < 0x10) : (Json.nat n).nat64? = some n :=
    Json.nat64?_nat (by omega)
  have someone (n : Nat) (small : n < 0x10) :
      (Json.ofOption Json.nat (some n)).option? Json.nat64? = some (some n) :=
    Json.option?_ofOption (by rintro m ⟨⟩; omega)
  cases read : Json.free? (Json.depthLimit - 1) newData with
  | none => simp [ofFields?, holding, number, table, action, empty, runRecordId, read]
  | some data =>
      simp [ofFields?, holding, number, someone, table, action, empty, runRecordId, read,
        Json.stamp?_toJson]

/-- Not every entry is read back from its text, and not every text that is read is written so that
it can be read again, even without spelled numbers and deep nesting: an object of the entry may come
to stand for a text. -/
theorem standing_text_is_lost :
    let standing := Json.obj [(Json.textKey, .str "1")]
    let shifted := Json.obj [("a", .int 1), (Json.textKey, .str "1")]
    let ordered := Json.obj [(Json.textKey, .str "1"), ("a", .int 1)]
    (holding standing).Fits ∧ standing.Exact ∧ shifted.Exact ∧
    Json.decode ofJson? (holding standing).toJson.render = some (holding (.int 1)) ∧
    holding (.int 1) ≠ holding standing ∧
    Json.decode ofJson? (holding shifted).toJson.render = some (holding ordered) ∧
    Json.decode ofJson? (holding ordered).toJson.render = none := by
  intro standing shifted ordered
  have text : ∀ m ∈ [(Json.textKey, Json.str "1")], m.2.Exact := by simp [Json.Exact.str]
  have exact : standing.Exact := .obj text
  have exact' : shifted.Exact := .obj (List.forall_mem_cons.mpr ⟨.int 1, text⟩)
  have exact'' : ordered.Exact := .obj (by simp [Json.Exact.str, Json.Exact.int])
  refine ⟨?_, exact, exact', ?_, ?_, ?_, ?_⟩
  · refine ⟨by decide, by decide, .obj (List.forall_mem_nil _) .nil, ?_, ?_, ?_⟩
    · exact .obj (by simp [Json.Held.str]) (List.pairwise_singleton _ _)
    · rintro n ⟨⟩
      decide
    · rintro n ⟨⟩
      decide
  · rw [decode_holding exact, Json.free?_standing, Option.map_some]
  · intro same
    cases congrArg newData same
  · rw [decode_holding exact', Json.free?_shifted.1, Option.map_some]
  · rw [decode_holding exact'', Json.free?_shifted.2, Option.map_none]

end AuditEntry

end Wagebook
