import Wagebook.Store.Basic

/-!
A pool of connections that was closed: there is nothing to begin.
-/

namespace Wagebook

inductive ClosedPool
  | closed

instance : Store ClosedPool where
  Held := Empty
  begin pool := (.error (.database .poolClosed), pool)
  answer _ unit := nomatch unit.2
  commit unit := nomatch unit.2
  drop unit := nomatch unit.2
  ping pool := (.error (.database .poolClosed), pool)

end Wagebook
