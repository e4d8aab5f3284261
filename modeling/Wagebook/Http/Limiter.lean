import Wagebook.Address

/-!
A limit on the requests of each client: a bucket of tokens that fills up at a steady pace. Kept per
client is the time at which its bucket will be full again.
-/

namespace Wagebook.Http

structure Quota where
  /-- The time in which one token comes back. -/
  intervalMs : Nat
  burst : Nat
  deriving DecidableEq, Repr

/-- The quota for a number of requests a minute; none at all still lets single requests through. -/
def Quota.perMinute (requests : Nat) : Quota where
  intervalMs := if requests = 0 then 1 else max (60000 / requests) 1
  burst := max requests 1

structure Limiter where
  quota : Quota
  fullAt : List (Address × Nat) := []

namespace Limiter

def fullAt? (limiter : Limiter) (client : Address) : Option Nat :=
  (limiter.fullAt.find? (·.1 = client)).map (·.2)

/-- Takes a token for a client, or says for how many milliseconds there is none. A new client starts
with a full bucket. -/
def take (limiter : Limiter) (client : Address) (nowMs : Nat) : Except Nat Limiter :=
  let interval := limiter.quota.intervalMs
  let fullAt := (limiter.fullAt? client).getD (nowMs + interval)
  let earliest := fullAt - interval * limiter.quota.burst
  if nowMs < earliest then .error (earliest - nowMs)
  else .ok { limiter with
    fullAt := (client, max fullAt nowMs + interval) :: limiter.fullAt.filter (·.1 ≠ client) }

end Limiter
end Wagebook.Http
