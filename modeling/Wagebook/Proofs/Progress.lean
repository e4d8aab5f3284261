import Mathlib.Logic.Relation
import Wagebook.Proofs.Interleaving

/-!
Clients that are left to themselves all come back: while anyone has not, either the holder of the
unit of work goes on to its end, or the unit is free for the next one.
-/

namespace Wagebook

open Relation

/-- Clients go on; no one new comes, no one leaves, and nothing but what lookups miss is changed
from outside. -/
inductive QuietTurn : World → World → Prop
  | move (moved : Client.Move shared c shared' c') :
      QuietTurn ⟨shared, before ++ c :: after⟩ ⟨shared', before ++ c' :: after⟩
  | hide (hidden : List AuditTable) :
      QuietTurn ⟨shared, clients⟩ ⟨{ shared with store.switches.hidden := hidden }, clients⟩

theorem QuietTurn.turn {w w' : World} (h : QuietTurn w w') : Turn w w' := by
  cases h with
  | move moved => exact .move moved
  | hide hidden => exact .switch _

theorem Client.Move.present {c c' : Client} {shared shared' : Shared Memory}
    (moved : Move shared c shared' c') : c'.stage ≠ .abandoned := by
  cases moved <;> simp

namespace World

/-- Everyone is still waited for. -/
def Present (w : World) : Prop := ∀ c ∈ w.clients, c.stage ≠ .abandoned

def Finished (w : World) : Prop := ∀ c ∈ w.clients, c.result?.isSome

theorem Present.turn {w w' : World} (h : w.Present) (turn : QuietTurn w w') : w'.Present := by
  cases turn with
  | move moved =>
      intro d mem
      rcases mem_middle.mp mem with rfl | other
      · exact moved.present
      · exact h d (mem_middle.mpr (.inr other))
  | hide hidden => exact h

theorem Present.quiet {w w' : World} (h : w.Present) (turns : ReflTransGen QuietTurn w w') :
    w'.Present := by
  induction turns with
  | refl => exact h
  | tail _ last ih => exact ih.turn last

theorem Sound.quiet {w w' : World} (h : w.Sound) (turns : ReflTransGen QuietTurn w w') :
    w'.Sound := by
  induction turns with
  | refl => exact h
  | tail _ last ih => exact Sound.turn ih last.turn

section Ends
variable {shared : Shared Memory} {before after : List Client} {c : Client}

/-- The client comes back after some quiet turns, in which the others stay where they are. -/
def Ends (shared : Shared Memory) (before : List Client) (c : Client) (after : List Client) :
    Prop :=
  ∃ shared' c', ReflTransGen QuietTurn ⟨shared, before ++ c :: after⟩
    ⟨shared', before ++ c' :: after⟩ ∧ c'.result?.isSome

theorem Ends.head {shared' : Shared Memory} {c' : Client}
    (moved : Client.Move shared c shared' c') (h : Ends shared' before c' after) :
    Ends shared before c after := by
  obtain ⟨last, back, turns, returned⟩ := h
  exact ⟨last, back, turns.head (.move moved), returned⟩

/-- Work ends, since it makes its calls one after the other. -/
theorem ends_of_working {rest : Work (Except PayrollError Nat)}
    (working : c.stage = .working rest) {copy : Memory.WorkingCopy}
    (held : shared.held = some copy) : Ends shared before c after := by
  induction rest generalizing shared c copy with
  | done result => exact ⟨_, _, .single (.move (.finish working held rfl)), rfl⟩
  | ask call next ih => exact .head (.call working held rfl) (ih _ rfl rfl)

theorem ends_of_queued {hidden : List AuditTable} (queued : c.stage = .queued hidden)
    (free : shared.held = none) : Ends shared before c after :=
  .head (.begin queued free rfl) (ends_of_working rfl rfl)

theorem ends_of_arrived (arrived : c.stage = .arrived) (free : shared.held = none) :
    Ends shared before c after := by
  cases check : c.command.operation.check with
  | error cause => exact ⟨_, _, .single (.move (.refuse arrived check)), rfl⟩
  | ok u => exact .head (.queue arrived check) (ends_of_queued rfl free)

end Ends

variable {w : World}

/-- Someone who has not come back can: the holder of the unit of work, or anyone while it is
free. -/
theorem exists_ends (sound : w.Sound) (present : w.Present) {c : Client} (mem : c ∈ w.clients)
    (pending : c.result? = none) :
    ∃ before c after, w.clients = before ++ c :: after ∧ c.result? = none ∧
      Ends w.shared before c after := by
  cases held : w.shared.held with
  | some copy =>
      have count := sound.holder
      rw [held] at count
      have some := Nat.lt_of_lt_of_eq Nat.one_pos count.symm
      obtain ⟨holder, mem, working⟩ := List.countP_pos_iff.mp some
      obtain ⟨rest, stage⟩ := Client.exists_rest working
      obtain ⟨before, after, split⟩ := List.append_of_mem mem
      exact ⟨before, holder, after, split, by simp only [Client.result?, stage],
        ends_of_working stage held⟩
  | none =>
      have idle : c.isWorking = false := by
        have count := sound.holder
        rw [held] at count
        simpa using List.countP_eq_zero.mp count c mem
      obtain ⟨before, after, split⟩ := List.append_of_mem mem
      refine ⟨before, c, after, split, pending, ?_⟩
      cases stage : c.stage with
      | arrived => exact ends_of_arrived stage held
      | queued hidden => exact ends_of_queued stage held
      | working rest => simp [Client.isWorking, stage] at idle
      | returned result => simp [Client.result?, stage] at pending
      | abandoned => exact absurd stage (present c mem)

theorem exists_finished (sound : w.Sound) (present : w.Present) :
    ∃ w', ReflTransGen QuietTurn w w' ∧ w'.Finished := by
  induction left : w.clients.countP (·.result?.isNone) generalizing w with
  | zero =>
      refine ⟨w, .refl, fun c mem => ?_⟩
      have := List.countP_eq_zero.mp left c mem
      simpa [Option.isSome_iff_ne_none] using this
  | succ n ih =>
      obtain ⟨c, mem, pending⟩ := List.countP_pos_iff.mp (Nat.lt_of_lt_of_eq n.succ_pos left.symm)
      obtain ⟨before, c, after, split, pending, shared', c', turns, returned⟩ :=
        exists_ends sound present mem (Option.isNone_iff_eq_none.mp pending)
      obtain ⟨shared, clients⟩ := w
      obtain rfl : clients = before ++ c :: after := split
      have fewer : (before ++ c' :: after).countP (·.result?.isNone) = n := by
        simp only [countP_middle, pending, Option.isNone_none, Bool.toNat_true] at left
        have back : c'.result?.isNone = false := by simpa using returned
        simp only [countP_middle, back, Bool.toNat_false]
        omega
      obtain ⟨w', rest, finished⟩ := ih (sound.quiet turns) (present.quiet turns) fewer
      exact ⟨w', turns.trans rest, finished⟩

end World
end Wagebook
