import Wagebook.Store.Error
import Wagebook.Store.Statement

/-!
A database server at the other end of one connection. It is known by what it was sent and by the
replies that it has still to give.
-/

namespace Wagebook

inductive ServerReply
  | refused (refusal : Refusal)
  | written (insertId affected : Nat)
  | rows (found : List (List Cell))

structure Server where
  /-- Replies to the statements to come; statements that change or end a unit of work take none. -/
  replies : List ServerReply := []
  /-- For each `BEGIN` to come, whether it is refused. -/
  begins : List (Option Refusal) := []
  commits : List (Option Refusal) := []
  sent : List Statement := []

abbrev Talk := ExceptT StoreError (StateM Server)

namespace Server

def record (server : Server) (statement : Statement) : Server :=
  { server with sent := server.sent ++ [statement] }

/-- The outcome that is due, and those that are left. -/
def due : List (Option Refusal) → Except StoreError Unit × List (Option Refusal)
  | some refusal :: rest => (.error (.ofRefusal refusal), rest)
  | none :: rest => (.ok (), rest)
  | [] => (.ok (), [])

def begin (server : Server) : Except StoreError Unit × Server :=
  let (outcome, begins) := due server.begins
  (outcome, { server.record .begin with begins })

def rollback (server : Server) : Server := server.record .rollback

/-- A unit of work whose commit is refused is rolled back. -/
def commit (server : Server) : Except StoreError Unit × Server :=
  match due server.commits with
  | (.ok (), commits) => (.ok (), { server.record .commit with commits })
  | (.error cause, commits) => (.error cause, { (server.record .commit).rollback with commits })

/-- Sends a statement and takes the next reply; without one, nothing was written and nothing
found. -/
def send (statement : Statement) : Talk ServerReply := fun server =>
  let server := server.record statement
  match server.replies with
  | .refused refusal :: replies => (.error (.ofRefusal refusal), { server with replies })
  | reply :: replies => (.ok reply, { server with replies })
  | [] => (.ok (.written 0 0), server)

end Server

namespace ServerReply

def insertId : ServerReply → Nat
  | .written insertId _ => insertId
  | _ => 0

def affected : ServerReply → Nat
  | .written _ affected => affected
  | _ => 0

def found : ServerReply → List (List Cell)
  | .rows found => found
  | _ => []

end ServerReply

end Wagebook
