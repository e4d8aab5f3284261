import Wagebook.Proofs.Commands

/-!
Histories: what can happen to a store in memory, one event after the other. `Tables.Reachable` holds
of the tables that any history leaves; an invariant of theirs is shown by induction on it, with one
case for a new user and one for each change.
-/

namespace Wagebook

inductive Event
  | addUser (now : Stamp) (username passwordHash : String) (salary : Int) (isAdmin : Bool)
  | switch (switches : Switches)
  | call (command : Command)
  | getPeriod (id : Nat)
  | getReport (period : Nat)
  | getPayslips (user : Nat)
  | findUser (username : String)

def Event.apply : Event → Memory → Memory
  | .addUser now username passwordHash salary isAdmin, memory =>
      memory.addUser now username passwordHash salary isAdmin
  | .switch switches, memory => { memory with switches }
  | .call command, memory => (command.operation.run memory).2
  | .getPeriod id, memory => ((Wagebook.getPeriod id).run memory).2
  | .getReport period, memory => ((Wagebook.getReport period).run memory).2
  | .getPayslips user, memory => ((Wagebook.getPayslips user).run memory).2
  | .findUser username, memory => ((Wagebook.findUser username).run memory).2

/-- The store after some events. -/
def Memory.play (memory : Memory) (events : List Event) : Memory :=
  events.foldl (fun memory event => event.apply memory) memory

/-- The store after some events, the first of which finds it empty. -/
def Memory.after (events : List Event) : Memory := ({} : Memory).play events

theorem Memory.after_snoc (events : List Event) (event : Event) :
    after (events ++ [event]) = event.apply (after events) := by
  simp [after, play]

/-- The tables that some history leaves. -/
inductive Tables.Reachable : Tables → Prop
  | empty : Reachable {}
  | addUser (reached : Reachable t) (user : User) : Reachable (t.addUser user)
  | write (reached : Reachable t) (writes : Command.Writes t command result t') : Reachable t'

/-- A command leaves the store as it was, or it succeeds and writes. -/
theorem Command.run_cases (command : Command) (memory : Memory) :
    (∃ cause, command.operation.run memory = (.error cause, memory)) ∨
      ∃ result t, command.operation.run memory = (.ok result, { memory with tables := t }) ∧
        Command.Writes memory.tables command result t := by
  rcases h : command.operation.run memory with ⟨cause | result, memory'⟩
  · exact .inl ⟨cause, by rw [Memory.run_error h]⟩
  · obtain ⟨t, rfl, writes⟩ := writes_of_run h
    exact .inr ⟨result, t, rfl, writes⟩

/-- An event changes nothing in the tables, adds a user, or writes for a command. -/
theorem Event.apply_cases (event : Event) (memory : Memory) :
    (event.apply memory).tables = memory.tables ∨
      (∃ user, (event.apply memory).tables = memory.tables.addUser user) ∨
      ∃ command result,
        Command.Writes memory.tables command result (event.apply memory).tables := by
  cases event with
  | addUser now username passwordHash salary isAdmin => exact .inr (.inl ⟨_, rfl⟩)
  | switch switches => exact .inl rfl
  | call command =>
      obtain ⟨cause, failed⟩ | ⟨result, t, done, writes⟩ := command.run_cases memory
      · exact .inl (by rw [apply, failed])
      · refine .inr (.inr ⟨command, result, ?_⟩)
        rw [apply, done]
        exact writes
  | getPeriod id => exact .inl (congrArg _ (Memory.run_reading _ memory))
  | getReport period => exact .inl (congrArg _ (Memory.run_reading _ memory))
  | getPayslips user => exact .inl (congrArg _ (Memory.run_reading _ memory))
  | findUser username => exact .inl (congrArg _ (Memory.run_reading _ memory))

theorem Event.apply_reachable (event : Event) {memory : Memory}
    (h : memory.tables.Reachable) : (event.apply memory).tables.Reachable := by
  obtain same | ⟨user, added⟩ | ⟨command, result, writes⟩ := event.apply_cases memory
  · rwa [same]
  · rw [added]
    exact h.addUser user
  · exact h.write writes

theorem Memory.play_reachable (events : List Event) {memory : Memory}
    (h : memory.tables.Reachable) : (memory.play events).tables.Reachable := by
  induction events generalizing memory with
  | nil => exact h
  | cons event events ih => exact ih (event.apply_reachable h)

theorem Memory.after_reachable (events : List Event) : (after events).tables.Reachable :=
  play_reachable events .empty

end Wagebook
