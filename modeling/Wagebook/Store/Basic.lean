import Wagebook.Deadline
import Wagebook.Store.Work

/-!
What a store offers: units of work, one at a time. A unit of work sees the store as it is when it
begins. Its changes last when it is committed and vanish when it is dropped.
-/

namespace Wagebook

class Store (σ : Type) where
  /-- A unit of work that is open on the store. -/
  Held : Type
  begin : σ → Except StoreError Held × σ
  answer : (call : Call) → σ × Held → Except StoreError call.Reply × σ × Held
  commit : σ × Held → Except StoreError Unit × σ
  drop : σ × Held → σ
  /-- Whether the store can be reached. -/
  ping : σ → Except StoreError Unit × σ

/-- Ends the unit of work that an operation has used. -/
def Operation.close [Store σ] (commits : Bool) :
    Except PayrollError α → σ × Store.Held σ → Except PayrollError α × σ
  | .error cause, unit => (.error cause, Store.drop unit)
  | .ok result, unit =>
    if commits then
      match Store.commit unit with
      | (.error cause, store) => (.error (.store cause), store)
      | (.ok (), store) => (.ok result, store)
    else (.ok result, Store.drop unit)

def Operation.run [Store σ] (operation : Operation α) (store : σ) : Except PayrollError α × σ :=
  match operation.check with
  | .error cause => (.error cause, store)
  | .ok () =>
    match Store.begin store with
    | (.error cause, store) => (.error (.store cause), store)
    | (.ok held, store) =>
      let (result, unit) := operation.work.run Store.answer (store, held)
      Operation.close operation.commits result unit

/-- A store, and the unit of work that somebody holds open on it. Everyone else waits for its
end. -/
structure Shared (σ : Type) [Store σ] where
  store : σ
  held : Option (Store.Held σ) := none

namespace Shared

variable {σ : Type} [Store σ]

/-- Runs an operation under a deadline. It does not get to its unit of work while another one is
held. -/
def run (shared : Shared σ) (limitMs : Nat) (operation : Operation α) :
    Except PayrollError α × Shared σ :=
  match operation.check, shared.held with
  | .ok (), some _ => (Course.never.within limitMs, shared)
  | _, _ =>
    let (result, store) := operation.run shared.store
    ((Course.ends 0 result).within limitMs, { shared with store })

/-- Runs an operation however long it takes, on a store that nobody holds. -/
def runUntimed (shared : Shared σ) (operation : Operation α) : Except PayrollError α × Shared σ :=
  let (result, store) := operation.run shared.store
  (result, { shared with store })

def begin (shared : Shared σ) : Except StoreError Unit × Shared σ :=
  match Store.begin shared.store with
  | (.error cause, store) => (.error cause, { shared with store })
  | (.ok held, store) => (.ok (), { store, held := some held })

/-- Work on the unit that is held. -/
def work (shared : Shared σ) (work : Work α) : Option (α × Shared σ) :=
  shared.held.map fun held =>
    let (result, store, held) := work.run Store.answer (shared.store, held)
    (result, { store, held := some held })

def commit (shared : Shared σ) : Except StoreError Unit × Shared σ :=
  match shared.held with
  | none => (.ok (), shared)
  | some held =>
    let (result, store) := Store.commit (shared.store, held)
    (result, { store })

def rollback (shared : Shared σ) : Shared σ :=
  match shared.held with
  | none => shared
  | some held => { store := Store.drop (shared.store, held) }

def ping (shared : Shared σ) : Except StoreError Unit × Shared σ :=
  let (result, store) := Store.ping shared.store
  (result, { shared with store })

end Shared
end Wagebook
