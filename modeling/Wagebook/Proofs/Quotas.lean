import Wagebook.Http.Limiter

/-!
How many requests of a client a limiter lets through in a minute, whenever they come. Each one puts
off by an interval the time at which the bucket of the client is full again, and that time is never
further away than a burst. So a minute holds a burst, the request that finds the bucket full, and
one request for each interval that ends in it; and a client that asks at the right times gets as
many.
-/

namespace Wagebook.Http

/-- A burst, the request that finds the bucket full, and one request for each interval that ends
before the last of so many milliseconds. -/
def Quota.mostWithin (quota : Quota) (spanMs : Nat) : Nat :=
  quota.burst + 1 + (spanMs - 1) / quota.intervalMs

namespace Limiter

/-- The requests that are let through, of those that come in one after the other. -/
def admitted (limiter : Limiter) : List (Address × Nat) → List (Address × Nat)
  | [] => []
  | (client, nowMs) :: later =>
    match limiter.take client nowMs with
    | .ok limiter => (client, nowMs) :: limiter.admitted later
    | .error _ => limiter.admitted later

/-- How many requests of a client are let through in so many milliseconds. -/
def admittedWithin (limiter : Limiter) (spanMs : Nat) (arrivals : List (Address × Nat))
    (client : Address) (start : Nat) : Nat :=
  (limiter.admitted arrivals).countP fun arrival =>
    arrival.1 = client ∧ start ≤ arrival.2 ∧ arrival.2 < start + spanMs

section Take
variable {limiter taken : Limiter} {client : Address} {nowMs : Nat}

/-- A token is there unless the bucket is full later than after a burst, and taking it puts that off
by an interval. The bucket of a new client is taken to be full in one interval. -/
theorem of_take (h : limiter.take client nowMs = .ok taken) :
    let interval := limiter.quota.intervalMs
    let fullAt := (limiter.fullAt? client).getD (nowMs + interval)
    fullAt ≤ nowMs + interval * limiter.quota.burst ∧ taken = { limiter with
      fullAt := (client, max fullAt nowMs + interval) ::
        limiter.fullAt.filter (·.1 ≠ client) } := by
  intro interval fullAt
  simp only [take] at h
  split at h
  · cases h
  · rename_i soon
    change ¬ nowMs < fullAt - interval * limiter.quota.burst at soon
    cases h
    exact ⟨by omega, rfl⟩

theorem quota_take (h : limiter.take client nowMs = .ok taken) : taken.quota = limiter.quota := by
  rw [(of_take h).2]

theorem fullAt?_take (h : limiter.take client nowMs = .ok taken) :
    taken.fullAt? client =
      some (max ((limiter.fullAt? client).getD (nowMs + limiter.quota.intervalMs)) nowMs +
        limiter.quota.intervalMs) := by
  rw [(of_take h).2]
  simp [fullAt?]

theorem fullAt?_take_of_ne (h : limiter.take client nowMs = .ok taken) {other : Address}
    (ne : other ≠ client) : taken.fullAt? other = limiter.fullAt? other := by
  have both (a : Address × Nat) :
      (decide (a.1 ≠ client) = true ∧ decide (a.1 = other) = true) ↔ a.1 = other := by
    rw [decide_eq_true_iff, decide_eq_true_iff]
    exact ⟨And.right, fun same => ⟨same ▸ ne, same⟩⟩
  rw [(of_take h).2]
  simp only [fullAt?, List.find?_cons, decide_eq_false ne.symm, List.find?_filter, both]

theorem exists_take (limiter : Limiter) (client : Address) (nowMs : Nat)
    (soon : (limiter.fullAt? client).getD (nowMs + limiter.quota.intervalMs) ≤
      nowMs + limiter.quota.intervalMs * limiter.quota.burst) :
    ∃ taken, limiter.take client nowMs = .ok taken := by
  unfold take
  exact ⟨_, if_neg (by omega)⟩

end Take

/-- So many requests of a client have been let through since a time. -/
def Drained (limiter : Limiter) (client : Address) (start passed : Nat) : Prop :=
  passed = 0 ∨ ∃ fullAt, limiter.fullAt? client = some fullAt ∧
    start + passed * limiter.quota.intervalMs ≤ fullAt

namespace Drained

variable {limiter taken : Limiter} {client : Address} {start passed nowMs : Nat}

theorem of_other (h : limiter.Drained client start passed) {other : Address}
    (took : limiter.take other nowMs = .ok taken) (ne : client ≠ other) :
    taken.Drained client start passed := by
  unfold Drained
  rw [fullAt?_take_of_ne took ne, quota_take took]
  exact h

theorem of_outside (h : limiter.Drained client start passed)
    (took : limiter.take client nowMs = .ok taken) : taken.Drained client start passed := by
  obtain rfl | ⟨fullAt, known, drained⟩ := h
  · exact .inl rfl
  · refine .inr ⟨_, fullAt?_take took, ?_⟩
    rw [quota_take took, known, Option.getD_some]
    omega

theorem of_inside (h : limiter.Drained client start passed)
    (took : limiter.take client nowMs = .ok taken) (since : start ≤ nowMs) :
    taken.Drained client start (passed + 1) := by
  refine .inr ⟨_, fullAt?_take took, ?_⟩
  rw [quota_take took, Nat.succ_mul]
  obtain rfl | ⟨fullAt, known, drained⟩ := h
  · omega
  · rw [known, Option.getD_some]
    omega

/-- What is let through next in a span is still within its bound. -/
theorem room (h : limiter.Drained client start passed)
    (took : limiter.take client nowMs = .ok taken) {spanMs : Nat}
    (inside : nowMs < start + spanMs) (flows : 0 < limiter.quota.intervalMs) :
    passed + 1 ≤ limiter.quota.mostWithin spanMs := by
  unfold Quota.mostWithin
  obtain rfl | ⟨fullAt, known, drained⟩ := h
  · exact Nat.le_add_right_of_le (Nat.le_add_left 1 _)
  · have soon := (of_take took).1
    rw [known, Option.getD_some] at soon
    have rest : (passed - limiter.quota.burst) * limiter.quota.intervalMs ≤ spanMs - 1 := by
      rw [Nat.sub_mul, Nat.mul_comm limiter.quota.burst]
      omega
    have := (Nat.le_div_iff_mul_le flows).mpr rest
    omega

end Drained

/-- A span that has begun stays within its bound to the end. -/
theorem admittedWithin_drained {limiter : Limiter} {client : Address} {start passed spanMs : Nat}
    (flows : 0 < limiter.quota.intervalMs) (drained : limiter.Drained client start passed)
    (kept : passed ≤ limiter.quota.mostWithin spanMs) (arrivals : List (Address × Nat)) :
    passed + limiter.admittedWithin spanMs arrivals client start ≤
      limiter.quota.mostWithin spanMs := by
  induction arrivals generalizing limiter passed with
  | nil => exact kept
  | cons arrival arrivals ih =>
      obtain ⟨other, nowMs⟩ := arrival
      unfold admittedWithin admitted
      cases took : limiter.take other nowMs with
      | error wait => exact ih flows drained kept
      | ok taken =>
          have same := quota_take took
          have later {passed : Nat} := @ih taken passed
          rw [same] at later
          simp only [List.countP_cons]
          split
          -- A request that counts is bounded by `room` before it is taken, and by `ih` after.
          · rename_i counted
            obtain ⟨rfl, since, inside⟩ := of_decide_eq_true counted
            have := later flows (drained.of_inside took since) (drained.room took inside flows)
            unfold admittedWithin at this
            omega
          · by_cases ne : client = other
            · subst ne
              exact later flows (drained.of_outside took) kept
            · exact later flows (drained.of_other took ne) kept

theorem admittedWithin_le (limiter : Limiter) (flows : 0 < limiter.quota.intervalMs)
    (spanMs : Nat) (arrivals : List (Address × Nat)) (client : Address) (start : Nat) :
    limiter.admittedWithin spanMs arrivals client start ≤ limiter.quota.mostWithin spanMs := by
  have fresh : limiter.Drained client start 0 := .inl rfl
  have least : 0 ≤ limiter.quota.mostWithin spanMs := Nat.zero_le _
  have kept := admittedWithin_drained flows fresh least arrivals
  rwa [Nat.zero_add] at kept

end Limiter

/-- When a client asks for the `i`-th time that finds its bucket full at `start` and asks whenever
there is a token. -/
def Quota.turn (quota : Quota) (start i : Nat) : Nat :=
  start + (i - quota.burst) * quota.intervalMs

theorem Quota.turn_lt (quota : Quota) (flows : 0 < quota.intervalMs) {spanMs : Nat}
    (lasts : 0 < spanMs) {i : Nat} (least : i < quota.mostWithin spanMs) (start : Nat) :
    quota.turn start i < start + spanMs := by
  unfold mostWithin at least
  have back : i - quota.burst ≤ (spanMs - 1) / quota.intervalMs := by
    generalize (spanMs - 1) / quota.intervalMs = refilled at least ⊢
    omega
  have fits := (Nat.le_div_iff_mul_le flows).mp back
  unfold turn
  omega

namespace Limiter

theorem admitted_turns {limiter : Limiter} {client : Address} {start : Nat} (count i : Nat)
    (known : limiter.fullAt? client = some (start + i * limiter.quota.intervalMs)) :
    limiter.admitted ((List.range' i count).map fun j => (client, limiter.quota.turn start j)) =
      (List.range' i count).map fun j => (client, limiter.quota.turn start j) := by
  induction count generalizing limiter i with
  | zero => rfl
  | succ count ih =>
      have share := Nat.sub_mul i limiter.quota.burst limiter.quota.intervalMs
      have burst := Nat.mul_comm limiter.quota.burst limiter.quota.intervalMs
      obtain ⟨taken, took⟩ := exists_take limiter client (limiter.quota.turn start i) (by
        rw [known, Option.getD_some]
        unfold Quota.turn
        omega)
      have same := quota_take took
      have known' : taken.fullAt? client = some (start + (i + 1) * taken.quota.intervalMs) := by
        rw [fullAt?_take took, known, Option.getD_some, same, Nat.succ_mul]
        unfold Quota.turn
        congr 1
        omega
      have later := ih (i + 1) known'
      rw [same] at later
      simp only [List.range'_succ, List.map_cons, admitted, took, later]

/-- After a first request the bucket of a client is full in two intervals. -/
theorem exists_take_new {quota : Quota} (holds : 0 < quota.burst) (client : Address) :
    ∃ taken, ({ quota } : Limiter).take client 0 = .ok taken ∧
      taken.fullAt? client = some (quota.intervalMs + quota.intervalMs) := by
  have new : ({ quota } : Limiter).fullAt? client = none := rfl
  have enough := Nat.le_mul_of_pos_right quota.intervalMs holds
  obtain ⟨taken, took⟩ := exists_take { quota } client 0 (by
    rw [new, Option.getD_none]
    exact Nat.add_le_add_left enough 0)
  refine ⟨taken, took, ?_⟩
  rw [fullAt?_take took, new, Option.getD_none, Nat.zero_add, Nat.max_zero]

theorem exists_admittedWithin_eq {quota : Quota} (flows : 0 < quota.intervalMs)
    (holds : 0 < quota.burst) {spanMs : Nat} (lasts : 0 < spanMs) (client : Address) :
    ∃ arrivals start, ({ quota } : Limiter).admittedWithin spanMs arrivals client start =
      quota.mostWithin spanMs := by
  -- A request at time 0 is not counted. It makes the client known, and its bucket is full again
  -- when the span begins, so that one more than a burst is there at once.
  let start := quota.intervalMs + quota.intervalMs
  let count := quota.mostWithin spanMs
  let turns := (List.range' 0 count).map fun i => (client, quota.turn start i)
  obtain ⟨taken, took, known⟩ := exists_take_new holds client
  have same : taken.quota = quota := quota_take took
  have all : taken.admitted turns = turns := by
    have full : taken.fullAt? client = some (start + 0 * taken.quota.intervalMs) := by
      rw [known, Nat.zero_mul]
      rfl
    have := admitted_turns count 0 full
    rwa [same] at this
  have inside : ∀ arrival ∈ turns, decide (arrival.1 = client ∧ start ≤ arrival.2 ∧
      arrival.2 < start + spanMs) = true := by
    intro arrival mem
    obtain ⟨i, hi, rfl⟩ := List.mem_map.mp mem
    have least : i < count := by simpa using (List.mem_range'_1.mp hi).2
    exact decide_eq_true ⟨rfl, Nat.le_add_right _ _, quota.turn_lt flows lasts least start⟩
  have before : ¬ start ≤ 0 := by omega
  have length : turns.length = count := by simp [turns]
  refine ⟨(client, 0) :: turns, start, ?_⟩
  simp only [admittedWithin, admitted, took, all, List.countP_cons,
    List.countP_eq_length.mpr inside, length, before, false_and, and_false, decide_false,
    Bool.false_eq_true, if_false, Nat.add_zero]
  rfl

end Limiter

namespace Quota

theorem perMinute_flows (requests : Nat) : 0 < (perMinute requests).intervalMs := by
  simp only [perMinute]
  split <;> omega

theorem perMinute_holds (requests : Nat) : 0 < (perMinute requests).burst := by
  simp only [perMinute]
  omega

section Some
variable {requests : Nat} (some : 0 < requests)
include some

theorem burst_perMinute : (perMinute requests).burst = requests := Nat.max_eq_left some

theorem intervalMs_perMinute : (perMinute requests).intervalMs = max (60000 / requests) 1 :=
  if_neg (Nat.ne_of_gt some)

/-- The interval is cut to whole milliseconds, so the intervals of a minute fill it if nothing is
cut, or if they cannot be any shorter. -/
theorem minute_le_intervals_iff :
    60000 ≤ requests * (perMinute requests).intervalMs ↔
      requests ∣ 60000 ∨ 60000 ≤ requests := by
  rw [intervalMs_perMinute some]
  by_cases short : 60000 ≤ requests
  · have enough : requests * 1 ≤ requests * max (60000 / requests) 1 :=
      Nat.mul_le_mul_left requests (Nat.le_max_right _ _)
    omega
  · have long : 1 ≤ 60000 / requests := (Nat.le_div_iff_mul_le some).mpr (by omega)
    have cut : requests * (60000 / requests) ≤ 60000 := Nat.mul_div_le 60000 requests
    rw [Nat.max_eq_left long, Nat.dvd_iff_div_mul_eq, Nat.mul_comm _ requests]
    omega

theorem perMinute_mono {more : Nat} (le : requests ≤ more) :
    (perMinute requests).burst ≤ (perMinute more).burst ∧
      (perMinute more).intervalMs ≤ (perMinute requests).intervalMs := by
  have more_some := Nat.lt_of_lt_of_le some le
  have shorter : 60000 / more ≤ 60000 / requests := Nat.div_le_div_left le some
  rw [burst_perMinute some, burst_perMinute more_some, intervalMs_perMinute some,
    intervalMs_perMinute more_some]
  omega

end Some

theorem perMinute_keeps_iff (requests : Nat) :
    (perMinute requests).mostWithin 60000 ≤ 2 * requests ↔
      requests ≠ 0 ∧ (requests ∣ 60000 ∨ 60000 ≤ requests) := by
  by_cases none : requests = 0
  · subst none
    decide
  · have some := Nat.pos_of_ne_zero none
    have back : 59999 / (perMinute requests).intervalMs < requests ↔
        59999 < requests * (perMinute requests).intervalMs :=
      Nat.div_lt_iff_lt_mul (perMinute_flows requests)
    rw [← minute_le_intervals_iff some, mostWithin, burst_perMinute some]
    change requests + 1 + 59999 / (perMinute requests).intervalMs ≤ 2 * requests ↔ _
    generalize 59999 / (perMinute requests).intervalMs = refilled at back ⊢
    omega

/-- In a minute a client gets a burst, the request that finds its bucket full, and one for each
interval, and no more. That is at most twice what is asked for exactly when the intervals fill the
minute, and a larger number never gives a client less. -/
theorem minute_is_bounded (requests : Nat) :
    (∀ fullAt arrivals client start,
        Limiter.admittedWithin ⟨perMinute requests, fullAt⟩ 60000 arrivals client start ≤
          (perMinute requests).mostWithin 60000) ∧
      (∀ client, ∃ arrivals start,
        Limiter.admittedWithin { quota := perMinute requests } 60000 arrivals client start =
          (perMinute requests).mostWithin 60000) ∧
      ((perMinute requests).mostWithin 60000 ≤ 2 * requests ↔
        requests ≠ 0 ∧ (requests ∣ 60000 ∨ 60000 ≤ requests)) ∧
      ∀ fewer, 0 < fewer → fewer ≤ requests →
        (perMinute fewer).burst ≤ (perMinute requests).burst ∧
          (perMinute requests).intervalMs ≤ (perMinute fewer).intervalMs := by
  have flows := perMinute_flows requests
  have holds := perMinute_holds requests
  refine ⟨fun fullAt arrivals client start => ?_, fun client => ?_, perMinute_keeps_iff requests,
    fun fewer some le => perMinute_mono some le⟩
  · exact Limiter.admittedWithin_le ⟨perMinute requests, fullAt⟩ flows 60000 arrivals client start
  · exact Limiter.exists_admittedWithin_eq flows holds (by decide) client

/-- The limits that are set by default. -/
theorem minute_of_sixty_is_bounded :
    ((0 < 60 ∧ 60 ≤ 1000) ∧ (perMinute 60).burst ≤ (perMinute 1000).burst ∧
        (perMinute 1000).intervalMs ≤ (perMinute 60).intervalMs) ∧
      ∀ fullAt arrivals client start,
        Limiter.admittedWithin ⟨perMinute 1000, fullAt⟩ 60000 arrivals client start ≤ 2 * 1000 := by
  obtain ⟨bound, -, kept, mono⟩ := minute_is_bounded 1000
  refine ⟨⟨by decide, mono 60 (by decide) (by decide)⟩, fun fullAt arrivals client start => ?_⟩
  exact Nat.le_trans (bound fullAt arrivals client start) (kept.mpr (by decide))

/-- A limit of no request lets one through and has the shortest interval of all. One of seven lets
fifteen through in a minute after a pause, and one of 261 lets 523 through in the first minute. -/
theorem minute_exceeds_twice :
    let client : Address := .v4 [10, 0, 0, 1]
    (2 * 0 < Limiter.admittedWithin { quota := perMinute 0 } 60000 [(client, 0)] client 0 ∧
        (perMinute 0).intervalMs < (perMinute 1).intervalMs) ∧
      2 * 7 < Limiter.admittedWithin { quota := perMinute 7 } 60000
        ((client, 0) :: (List.range' 0 15).map fun i => (client, (perMinute 7).turn 17142 i))
        client 17142 ∧
      2 * 261 < Limiter.admittedWithin { quota := perMinute 261 } 60000
        ((List.range' 1 523).map fun i => (client, (perMinute 261).turn 0 i)) client 0 := by
  decide +kernel

end Quota
end Wagebook.Http
