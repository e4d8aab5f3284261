import Wagebook.Proofs.Dialogue

/-!
What a store says when a call fails. No operation goes on after that: it ends with the failure as it
was told, or with a report of its own if the call has collided with a unique key. So an operation on
a store that tells its failures in other words goes as it goes on the store itself, up to the words.
-/

namespace Wagebook

namespace StoreError

/-- Failures of one kind; what they say about it may differ. -/
def Alike : StoreError → StoreError → Prop
  | .uniqueViolation _, .uniqueViolation _ => True
  | .database _, .database _ => True
  | .unavailable _, .unavailable _ => True
  | _, _ => False

theorem alike_refl (cause : StoreError) : cause.Alike cause := by
  cases cause <;> exact trivial

def isCollision : StoreError → Bool
  | .uniqueViolation _ => true
  | _ => false

end StoreError

/-- Other words for failures, by how many there have been before. -/
structure Retelling where
  tell : Nat → StoreError → StoreError
  alike : ∀ n cause, (tell n cause).Alike cause

/-- A store that tells its failures in other words, and remembers them as they were. -/
structure Retold (σ : Type) where
  store : σ
  retelling : Retelling
  failures : List StoreError := []

namespace Retold

variable {σ : Type} [Store σ]

/-- What comes of a call of the store behind. -/
def hear (r : Retold σ) : Except StoreError α × σ → Except StoreError α × Retold σ
  | (.ok a, store) => (.ok a, { r with store })
  | (.error cause, store) =>
    (.error (r.retelling.tell r.failures.length cause),
      { r with store, failures := r.failures ++ [cause] })

instance : Store (Retold σ) where
  Held := Store.Held σ
  begin r := r.hear (Store.begin r.store)
  answer call unit :=
    let (reply, store, held) := Store.answer call (unit.1.store, unit.2)
    let (reply, r) := unit.1.hear (reply, store)
    (reply, r, held)
  commit unit := unit.1.hear (Store.commit (unit.1.store, unit.2))
  drop unit := { unit.1 with store := Store.drop (unit.1.store, unit.2) }
  ping r := r.hear (Store.ping r.store)

/-- How something ends on a store that retells, and how on the store behind: alike, or it has failed
in a call, and the failure is reported in each store's words. -/
inductive Echo (r : Retold σ) :
    Except PayrollError α × Retold σ → Except PayrollError α × σ → Prop
  | kept (result : Except PayrollError α) (store : σ) :
      Echo r (result, { r with store }) (result, store)
  | failed (conflict? : Option PayrollError) (cause : StoreError) (store : σ) :
      Echo r
        (.error (.ofStore conflict? (r.retelling.tell r.failures.length cause)),
          { r with store, failures := r.failures ++ [cause] })
        (.error (.ofStore conflict? cause), store)

end Retold

/-- Work that ends at the first call that fails, and tells why. -/
inductive Work.Candid : Work (Except PayrollError α) → Prop
  | done (result : Except PayrollError α) : Candid (.done result)
  | ask {call : Call} {next : Except StoreError call.Reply → Work (Except PayrollError α)}
      (conflict? : Option PayrollError)
      (failed : ∀ cause, next (.error cause) = .done (.error (.ofStore conflict? cause)))
      (later : ∀ reply, Candid (next (.ok reply))) : Candid (.ask call next)

namespace Work.Candid

theorem ask_bind {call : Call} {next : call.Reply → Step α} (later : ∀ reply, Candid (next reply)) :
    Candid (Step.ask call >>= next : Step α) :=
  .ask none (fun cause => by rw [PayrollError.ofStore_none]; rfl) later

theorem askUnless_bind (conflict : PayrollError) {call : Call} {next : call.Reply → Step α}
    (later : ∀ reply, Candid (next reply)) :
    Candid (Step.askUnless conflict call >>= next : Step α) :=
  .ask (some conflict) (fun _ => rfl) later

theorem asked (call : Call) : Candid (Step.ask call) :=
  .ask none (fun cause => by rw [PayrollError.ofStore_none]; rfl) fun reply => .done (.ok reply)

theorem check {c : Prop} [Decidable c] {cause : PayrollError} {next : α → Step β} {step : Step β}
    (rest : ¬ c → Candid step) :
    Candid (if c then (throw cause : Step α) >>= next else step : Step β) := by
  split
  · exact .done _
  · rename_i kept
    exact rest kept

theorem mapM_bind {f : α → Except PayrollError β} {as : List α} {next : List β → Step γ}
    (later : ∀ bs, Candid (next bs)) :
    Candid (as.mapM (fun a => (liftM (f a) : Step β)) >>= next : Step γ) := by
  rw [Step.mapM_lift]
  cases as.mapM f with
  | error cause => exact .done _
  | ok bs => exact later bs

end Work.Candid

section Operations
variable (now : Stamp) (actor : Actor)

theorem createPeriod_candid (first last : Date) : (createPeriod now first last actor).work.Candid :=
  .ask_bind fun _ => .ask_bind fun _ => .done _

theorem submitAttendance_candid (period : Nat) (date : Date) :
    (submitAttendance now actor period date).work.Candid := by
  refine .ask_bind fun seen => .check fun _ => .ask_bind fun window? => ?_
  cases window? with
  | none => exact .done _
  | some window => exact .check fun _ => .askUnless_bind _ fun _ => .ask_bind fun _ => .done _

theorem submitOvertime_candid (period : Nat) (date : Date) (hours : Int) :
    (submitOvertime now actor period date hours).work.Candid :=
  .ask_bind fun _ => .check fun _ => .ask_bind fun _ => .check fun _ => .ask_bind fun _ =>
    .check fun _ => .check fun _ => .askUnless_bind _ fun _ => .ask_bind fun _ => .done _

theorem submitReimbursement_candid (period : Nat) (amount : Int) (description : String) :
    (submitReimbursement now actor period amount description).work.Candid :=
  .ask_bind fun _ => .check fun _ => .check fun _ => .ask_bind fun _ => .ask_bind fun _ => .done _

theorem runPayroll_candid (period : Nat) : (runPayroll now period actor).work.Candid := by
  refine .ask_bind fun held => .ask_bind fun paid => .check fun _ => ?_
  cases held with
  | none => exact .done _
  | some window =>
      exact .check fun _ => .ask_bind fun _ => .mapM_bind fun _ => .askUnless_bind _ fun _ =>
        .ask_bind fun _ => .done _

end Operations

namespace Retold

variable {σ : Type} [Store σ]

omit [Store σ] in
/-- What comes of something that has first left only the store behind changed. -/
theorem Echo.after {r : Retold σ} {store : σ} {ended : Except PayrollError α × Retold σ}
    {ended₀ : Except PayrollError α × σ} (h : Echo { r with store } ended ended₀) :
    Echo r ended ended₀ := by
  cases h with
  | kept result store' => exact .kept result store'
  | failed conflict? cause store' => exact .failed conflict? cause store'

theorem answer_eq (call : Call) (r : Retold σ) (held : Store.Held σ) :
    Store.answer call ((r, held) : Retold σ × Store.Held (Retold σ)) =
      match Store.answer call (r.store, held) with
      | (reply, store, held) => ((r.hear (reply, store)).1, (r.hear (reply, store)).2, held) :=
  rfl

theorem echo_work {work : Work (Except PayrollError α)} (candid : work.Candid) (r : Retold σ)
    (held : Store.Held σ) :
    let ended := work.run Store.answer ((r, held) : Retold σ × Store.Held (Retold σ))
    let ended₀ := work.run Store.answer (r.store, held)
    Echo r (ended.1, ended.2.1) (ended₀.1, ended₀.2.1) ∧ ended.2.2 = ended₀.2.2 := by
  induction candid generalizing r held with
  | done result => exact ⟨.kept result r.store, rfl⟩
  | @ask call next conflict? failed later ih =>
      simp only [Work.run, answer_eq]
      rcases Store.answer call (r.store, held) with ⟨cause | reply, store, held'⟩
      · simp only [hear, failed]
        exact ⟨.failed conflict? cause store, rfl⟩
      · obtain ⟨echo, same⟩ := ih reply { r with store } held'
        exact ⟨echo.after, same⟩

theorem commit_eq (r : Retold σ) (held : Store.Held σ) :
    Store.commit ((r, held) : Retold σ × Store.Held (Retold σ)) =
      r.hear (Store.commit (r.store, held)) :=
  rfl

omit [Store σ] in
/-- A failure in the words of its store. -/
theorem Echo.told (r : Retold σ) (cause : StoreError) (store : σ) :
    Echo r (α := α) (.error (.store (r.retelling.tell r.failures.length cause)),
      { r with store, failures := r.failures ++ [cause] }) (.error (.store cause), store) := by
  have failed : Echo r (α := α) _ _ := .failed none cause store
  rwa [PayrollError.ofStore_none, PayrollError.ofStore_none] at failed

theorem echo_close {r : Retold σ} {ended : Except PayrollError α × Retold σ}
    {ended₀ : Except PayrollError α × σ} (h : Echo r ended ended₀) (commits : Bool)
    (held : Store.Held σ) :
    Echo r
      (Operation.close commits ended.1 ((ended.2, held) : Retold σ × Store.Held (Retold σ)))
      (Operation.close commits ended₀.1 (ended₀.2, held)) := by
  cases h with
  | failed conflict? cause store => exact .failed conflict? cause (Store.drop (store, held))
  | kept result store =>
      cases result with
      | error cause => exact .kept (.error cause) (Store.drop (store, held))
      | ok a =>
          cases commits with
          | false => exact .kept (.ok a) (Store.drop (store, held))
          | true =>
              simp only [Operation.close, if_true, commit_eq]
              rcases Store.commit (store, held) with ⟨cause | done, store'⟩
              · exact .told r cause store'
              · exact .kept (.ok a) store'

theorem begin_eq (r : Retold σ) : Store.begin r = r.hear (Store.begin r.store) := rfl

theorem ping_eq (r : Retold σ) : Store.ping r = r.hear (Store.ping r.store) := rfl

theorem echo_operation {operation : Operation α} (candid : operation.work.Candid) (r : Retold σ) :
    Echo r (operation.run r) (operation.run r.store) := by
  unfold Operation.run
  cases operation.check with
  | error cause => exact .kept (.error cause) r.store
  | ok passed =>
      simp only [begin_eq]
      rcases Store.begin r.store with ⟨cause | held, store⟩
      · exact .told r cause store
      · have worked := echo_work candid { r with store } held
        simp only [hear]
        revert worked
        rcases operation.work.run Store.answer (store, held) with ⟨result₀, store', held₀⟩
        rcases operation.work.run Store.answer
          (({ r with store }, held) : Retold σ × Store.Held (Retold σ)) with ⟨result, r', held'⟩
        rintro ⟨echo, rfl⟩
        exact (echo_close echo operation.commits held').after

end Retold

end Wagebook
