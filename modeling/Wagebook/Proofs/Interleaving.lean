import Wagebook.Proofs.Calls
import Wagebook.Proofs.Histories

/-!
Clients that share a store in memory. Each of them goes its way in steps: it looks which tables are
hidden, waits for the unit of work, makes its calls one at a time, and commits or drops what it has
done. The steps of different clients mix in every order that the one unit of work permits. An
operation still takes effect as if it had been run at once when it ends.
-/

namespace Wagebook

/-- How far an operation has got. -/
inductive Stage
  | arrived
  /-- It waits for the unit of work, and knows which tables were hidden when it came. -/
  | queued (hidden : List AuditTable)
  | working (rest : Work (Except PayrollError Nat))
  | returned (result : Except PayrollError Nat)
  /-- Its caller has gone away. -/
  | abandoned

structure Client where
  command : Command
  stage : Stage := .arrived
  made : List Call := []

namespace Client

def isWorking (c : Client) : Bool :=
  match c.stage with
  | .working _ => true
  | _ => false

def result? (c : Client) : Option (Except PayrollError Nat) :=
  match c.stage with
  | .returned result => some result
  | _ => none

/-- The payslips that it has handed to the store. -/
def drafts (c : Client) : List Payslip.Draft := c.made.flatMap Call.drafts

inductive Move : Shared Memory → Client → Shared Memory → Client → Prop
  | refuse (arrived : c.stage = .arrived) (refused : c.command.operation.check = .error cause) :
      Move shared c shared { c with stage := .returned (.error cause) }
  | queue (arrived : c.stage = .arrived) (passed : c.command.operation.check = .ok ()) :
      Move shared c shared { c with stage := .queued shared.store.switches.hidden }
  | begin {hidden : List AuditTable} (queued : c.stage = .queued hidden) (free : shared.held = none)
      (began : Store.begin { shared.store with switches.hidden := hidden } = (.ok copy, memory)) :
      Move shared c { shared with held := some copy }
        { c with stage := .working c.command.operation.work }
  | call (working : c.stage = .working (.ask call next)) (held : shared.held = some copy)
      (answered : Store.answer call (shared.store, copy) = (reply, store, copy')) :
      Move shared c { store, held := some copy' }
        { c with stage := .working (next reply), made := c.made ++ [call] }
  | finish (working : c.stage = .working (.done result)) (held : shared.held = some copy)
      (closed : Operation.close c.command.operation.commits result (shared.store, copy) =
        (result', store)) :
      Move shared c { store } { c with stage := .returned result' }

end Client

structure World where
  shared : Shared Memory
  clients : List Client

inductive Turn : World → World → Prop
  | move (moved : Client.Move shared c shared' c') :
      Turn ⟨shared, before ++ c :: after⟩ ⟨shared', before ++ c' :: after⟩
  | arrive (command : Command) :
      Turn ⟨shared, clients⟩ ⟨shared, clients ++ [{ command := command }]⟩
  | addUser (free : shared.held = none) (now : Stamp) (username passwordHash : String)
      (salary : Int) (isAdmin : Bool) :
      Turn ⟨shared, clients⟩
        ⟨{ shared with store := shared.store.addUser now username passwordHash salary isAdmin },
          clients⟩
  | switch (switches : Switches) :
      Turn ⟨shared, clients⟩ ⟨{ shared with store.switches := switches }, clients⟩
  | leave (idle : c.isWorking = false) (pending : c.result? = none) :
      Turn ⟨shared, before ++ c :: after⟩
        ⟨shared, before ++ { c with stage := .abandoned } :: after⟩
  | drop (working : c.isWorking = true) :
      Turn ⟨shared, before ++ c :: after⟩
        ⟨shared.rollback, before ++ { c with stage := .abandoned } :: after⟩

/-! While a client works, nobody else changes the tables. So what it has done so far, and the rest
of its work on its copy, are what its work comes to on the tables of the store. -/

theorem Command.commits_operation (command : Command) : command.operation.commits = true := by
  cases command <;> rfl

namespace Client

/-- The rest of its work continues a run on the tables of the store. -/
structure Continues (c : Client) (shared : Shared Memory) (copy : Memory.WorkingCopy)
    (rest : Work (Except PayrollError Nat)) : Prop where
  passed : c.command.operation.check = .ok ()
  held : shared.held = some copy
  run : c.command.operation.work.run (Memory.answer copy.switches) shared.store.tables =
    rest.run (Memory.answer copy.switches) copy.tables
  calls : c.command.operation.work.calls (Memory.answer copy.switches) shared.store.tables =
    c.made ++ rest.calls (Memory.answer copy.switches) copy.tables

def Consistent (c : Client) (shared : Shared Memory) : Prop :=
  match c.stage with
  | .arrived => c.made = []
  | .queued _ => c.made = [] ∧ c.command.operation.check = .ok ()
  | .working rest => ∃ copy, c.Continues shared copy rest
  | .returned _ => True
  | .abandoned => True

variable {c c' : Client} {shared shared' : Shared Memory}

theorem exists_rest (working : c.isWorking = true) : ∃ rest, c.stage = .working rest := by
  unfold isWorking at working
  split at working
  · exact ⟨_, by assumption⟩
  · cases working

theorem Consistent.of_idle (h : c.Consistent shared) (idle : c.isWorking = false) :
    c.Consistent shared' := by
  unfold Consistent at h ⊢
  unfold isWorking at idle
  cases stage : c.stage with
  | working rest => simp [stage] at idle
  | arrived => simpa [stage] using h
  | queued hidden => simpa [stage] using h
  | returned result => trivial
  | abandoned => trivial

theorem Consistent.continues (h : c.Consistent shared) (working : c.stage = .working rest) :
    ∃ copy, c.Continues shared copy rest := by
  simpa only [Consistent, working] using h

/-- What a step of a client can do: nothing to the tables, and no answer yet; or it is refused; or
it ends, and its operation takes effect as if it had been run just now. -/
theorem Move.cases_of_consistent (h : c.Consistent shared) (moved : Move shared c shared' c') :
    (shared'.store = shared.store ∧ c'.result? = none) ∨
      (∃ cause, c.command.operation.check = .error cause ∧ shared' = shared ∧
        c'.result? = some (.error cause)) ∨
      ∃ copy result, shared.held = some copy ∧ c'.result? = some result ∧
        c.command.operation.run { shared.store with switches := copy.switches } =
          (result, { shared'.store with switches := copy.switches }) ∧
        c'.made = c.command.operation.work.calls (Memory.answer copy.switches)
          shared.store.tables := by
  cases moved with
  | refuse arrived refused => exact .inr (.inl ⟨_, refused, rfl, rfl⟩)
  | queue arrived passed => exact .inl ⟨rfl, rfl⟩
  | begin queued free began => exact .inl ⟨rfl, rfl⟩
  | call working held answered =>
      cases answered
      exact .inl ⟨rfl, rfl⟩
  | @finish copy result result' store _ _ working held closed =>
      obtain ⟨copy', continues⟩ := h.continues working
      obtain rfl : copy' = copy := Option.some.inj (continues.held.symm.trans held)
      refine .inr (.inr ⟨copy', result', held, rfl, ?_, ?_⟩)
      · rw [Memory.run_operation, continues.passed]
        rw [Command.commits_operation] at closed ⊢
        simp only [continues.run, Work.run]
        cases result <;> cases closed <;> rfl
      · rw [continues.calls]
        exact (List.append_nil _).symm

theorem Move.consistent (moved : Move shared c shared' c') (h : c.Consistent shared) :
    c'.Consistent shared' := by
  cases moved with
  | refuse arrived refused => trivial
  | queue arrived passed =>
      have fresh : c.made = [] := by simpa only [Consistent, arrived] using h
      exact ⟨fresh, passed⟩
  | begin queued free began =>
      have fresh : c.made = [] ∧ c.command.operation.check = .ok () := by
        simpa only [Consistent, queued] using h
      cases began
      refine ⟨_, fresh.2, rfl, rfl, ?_⟩
      rw [fresh.1]
      rfl
  | @call copy call reply store copy' _ _ next working held answered =>
      obtain ⟨copy₀, continues⟩ := h.continues working
      obtain rfl : copy₀ = copy := Option.some.inj (continues.held.symm.trans held)
      cases answered
      refine ⟨_, continues.passed, rfl, continues.run, ?_⟩
      rw [List.append_assoc]
      exact continues.calls
  | finish working held closed => trivial

/-- Only the holder of the unit of work, or someone who gets it, changes what is shared. -/
theorem Move.exclusive (moved : Move shared c shared' c') :
    shared' = shared ∨ c.isWorking = true ∨ shared.held = none := by
  cases moved with
  | refuse arrived refused => exact .inl rfl
  | queue arrived passed => exact .inl rfl
  | begin queued free began => exact .inr (.inr free)
  | call working held answered => exact .inr (.inl (by simp only [isWorking, working]))
  | finish working held closed => exact .inr (.inl (by simp only [isWorking, working]))

theorem Move.holder (moved : Move shared c shared' c') :
    shared'.held.toList.length + c.isWorking.toNat =
      shared.held.toList.length + c'.isWorking.toNat := by
  cases moved with
  | refuse arrived refused => simp [isWorking, arrived]
  | queue arrived passed => simp [isWorking, arrived]
  | begin queued free began => simp [isWorking, queued, free]
  | call working held answered => simp [isWorking, working, held]
  | finish working held closed => simp [isWorking, working, held]

end Client

structure World.Sound (w : World) : Prop where
  reached : w.shared.store.tables.Reachable
  holder : w.clients.countP (·.isWorking) = w.shared.held.toList.length
  consistent : ∀ c ∈ w.clients, c.Consistent w.shared

theorem countP_middle (p : α → Bool) (before after : List α) (a : α) :
    (before ++ a :: after).countP p = before.countP p + after.countP p + (p a).toNat := by
  rw [List.countP_append, List.countP_cons]
  cases p a with
  | false => simp
  | true =>
      simp only [if_true, Bool.toNat_true]
      omega

theorem mem_middle {before after : List α} {a b : α} :
    b ∈ before ++ a :: after ↔ b = a ∨ b ∈ before ++ after := by
  simp [or_left_comm]

namespace World

/-- A unit of work that is dropped leaves no trace. -/
theorem rollback_of_held {shared : Shared Memory} {copy : Memory.WorkingCopy}
    (held : shared.held = some copy) : shared.rollback = { store := shared.store } := by
  unfold Shared.rollback
  rw [held]
  rfl

namespace Sound

variable {shared shared' : Shared Memory} {clients before after : List Client} {c c' : Client}

/-- While one client works, and while the unit of work is free, no other client works. -/
theorem others_idle (h : Sound ⟨shared, before ++ c :: after⟩)
    (alone : c.isWorking = true ∨ shared.held = none) :
    ∀ d ∈ before ++ after, d.isWorking = false := by
  have count := h.holder
  simp only [countP_middle] at count
  have one : shared.held.toList.length ≤ 1 := by cases shared.held <;> simp
  have none : (before ++ after).countP (·.isWorking) = 0 := by
    rw [List.countP_append]
    rcases alone with working | free
    · simp only [working, Bool.toNat_true] at count
      omega
    · simp only [free, Option.toList_none, List.length_nil] at count
      omega
  intro d mem
  simpa using List.countP_eq_zero.mp none d mem

/-- One client's step, or its end, leaves the others as they are. -/
theorem replace (h : Sound ⟨shared, before ++ c :: after⟩)
    (reached : shared'.store.tables.Reachable)
    (exclusive : shared' = shared ∨ c.isWorking = true ∨ shared.held = none)
    (holder : shared'.held.toList.length + c.isWorking.toNat =
      shared.held.toList.length + c'.isWorking.toNat)
    (consistent : c'.Consistent shared') : Sound ⟨shared', before ++ c' :: after⟩ where
  reached := reached
  holder := by
    have count := h.holder
    simp only [countP_middle] at count ⊢
    omega
  consistent := by
    intro d mem
    rcases mem_middle.mp mem with rfl | other
    · exact consistent
    · have stays := h.consistent d (mem_middle.mpr (.inr other))
      rcases exclusive with rfl | alone
      · exact stays
      · exact stays.of_idle (h.others_idle alone d other)

theorem move (h : Sound ⟨shared, before ++ c :: after⟩) (moved : Client.Move shared c shared' c') :
    Sound ⟨shared', before ++ c' :: after⟩ := by
  have mine := h.consistent c (mem_middle.mpr (.inl rfl))
  apply h.replace ?_ moved.exclusive moved.holder (moved.consistent mine)
  obtain ⟨same, -⟩ | ⟨-, -, same, -⟩ | ⟨copy, result, -, -, ran, -⟩ :=
    moved.cases_of_consistent mine
  · rw [same]
    exact h.reached
  · rw [same]
    exact h.reached
  · obtain ⟨cause, failed⟩ | ⟨n, t, done, writes⟩ :=
      c.command.run_cases { shared.store with switches := copy.switches }
    · have same : shared'.store.tables = shared.store.tables := by
        rw [failed, Prod.mk.injEq, Memory.mk.injEq] at ran
        exact ran.2.1.symm
      rw [same]
      exact h.reached
    · have new : shared'.store.tables = t := by
        rw [done, Prod.mk.injEq, Memory.mk.injEq] at ran
        exact ran.2.1.symm
      rw [new]
      exact h.reached.write writes

/-- While nobody works, the tables may change from outside. -/
theorem outside (h : Sound ⟨shared, clients⟩) (same : shared'.held = shared.held)
    (free : shared.held = none ∨ shared'.store.tables = shared.store.tables)
    (reached : shared'.store.tables.Reachable) : Sound ⟨shared', clients⟩ where
  reached := reached
  holder := by
    rw [same]
    exact h.holder
  consistent := by
    intro d mem
    have stays := h.consistent d mem
    cases working : d.isWorking with
    | false => exact stays.of_idle working
    | true =>
        obtain ⟨rest, stage⟩ := Client.exists_rest working
        obtain ⟨copy, continues⟩ := stays.continues stage
        rcases free with free | unchanged
        · cases free.symm.trans continues.held
        · simp only [Client.Consistent, stage]
          exact ⟨copy, continues.passed, same.trans continues.held, unchanged ▸ continues.run,
            unchanged ▸ continues.calls⟩

theorem turn {w w' : World} (h : w.Sound) (turn : Turn w w') : w'.Sound := by
  cases turn with
  | move moved => exact h.move moved
  | arrive command =>
      refine ⟨h.reached, ?_, ?_⟩
      · have count := h.holder
        simpa [Client.isWorking] using count
      · intro d mem
        rcases List.mem_append.mp mem with old | new
        · exact h.consistent d old
        · rw [List.mem_singleton.mp new]
          rfl
  | addUser free now username passwordHash salary isAdmin =>
      exact h.outside rfl (.inl free) (h.reached.addUser _)
  | switch switches => exact h.outside rfl (.inr rfl) h.reached
  | leave idle pending =>
      refine h.replace h.reached (.inl rfl) ?_ trivial
      rw [idle]
      rfl
  | drop working =>
      obtain ⟨rest, stage⟩ := Client.exists_rest working
      obtain ⟨copy, continues⟩ := (h.consistent _ (mem_middle.mpr (.inl rfl))).continues stage
      rw [rollback_of_held continues.held]
      refine h.replace h.reached (.inr (.inl working)) ?_ trivial
      rw [working, continues.held]
      rfl

end Sound
end World
end Wagebook
