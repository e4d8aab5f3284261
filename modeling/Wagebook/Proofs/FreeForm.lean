import Mathlib.Data.String.Basic
import Wagebook.Json.Free
import Wagebook.Proofs.JsonText

/-!
Free-form values. What is read of one is in a form of its own: numbers of 64 bits, each key once, in
order. In that form a value is read back as it is, unless an object in it would stand for a text.
-/

namespace Wagebook.Json

/-- A value as free-form members hold it. -/
inductive Held : Json → Prop
  | null : Held .null
  | bool (b : Bool) : Held (.bool b)
  | int (least : -0x8000000000000000 ≤ n) (most : n < 0x10000000000000000) : Held (.int n)
  | real (spelling : String) : Held (.real spelling)
  | str (s : String) : Held (.str s)
  | arr (items : ∀ v ∈ vs, Held v) : Held (.arr vs)
  | obj (members : ∀ m ∈ ms, Held m.2) (keys : (ms.map (·.1)).Pairwise (· < ·)) : Held (.obj ms)

/-- A value without spelled numbers that nests at most `depth` arrays and objects, none of which
stands for a text. -/
inductive Lasting : Nat → Json → Prop
  | null : Lasting depth .null
  | bool (b : Bool) : Lasting depth (.bool b)
  | int (n : Int) : Lasting depth (.int n)
  | str (s : String) : Lasting depth (.str s)
  | arr (items : ∀ v ∈ vs, Lasting depth v) : Lasting (depth + 1) (.arr vs)
  | obj (members : ∀ m ∈ ms, Lasting depth m.2) (proper : ms.head?.map (·.1) ≠ some textKey) :
      Lasting (depth + 1) (.obj ms)

theorem Lasting.exact {depth : Nat} {v : Json} (h : Lasting depth v) : Exact v := by
  induction h with
  | null => exact .null
  | bool b => exact .bool b
  | int n => exact .int n
  | str s => exact .str s
  | arr items ih => exact .arr ih
  | obj members proper ih => exact .obj ih

section Insert
variable {key : String} {v : Json} {ms : List (String × Json)}

/-- A key beyond all others goes to the end. -/
theorem insertMember_last (beyond : ∀ m ∈ ms, m.1 < key) :
    insertMember key v ms = ms ++ [(key, v)] := by
  induction ms with
  | nil => rfl
  | cons m ms ih =>
      have first := beyond m List.mem_cons_self
      have later := ih fun n mem => beyond n (List.mem_cons_of_mem m mem)
      rw [insertMember, if_neg, if_neg (String.lt_asymm first), later, List.cons_append]
      rintro rfl
      exact String.lt_irrefl _ first

theorem mem_insertMember {m : String × Json} (h : m ∈ insertMember key v ms) :
    m = (key, v) ∨ m ∈ ms := by
  induction ms with
  | nil => exact .inl (List.mem_singleton.mp h)
  | cons n ms ih =>
      unfold insertMember at h
      split at h
      · exact (List.mem_cons.mp h).imp id (List.mem_cons_of_mem n)
      split at h
      · exact List.mem_cons.mp h
      rcases List.mem_cons.mp h with rfl | later
      · exact .inr List.mem_cons_self
      · exact (ih later).imp id (List.mem_cons_of_mem n)

theorem keys_insertMember (keys : (ms.map (·.1)).Pairwise (· < ·)) :
    ((insertMember key v ms).map (·.1)).Pairwise (· < ·) := by
  rw [List.pairwise_map] at keys ⊢
  induction ms with
  | nil => exact List.pairwise_singleton _ _
  | cons m ms ih =>
      obtain ⟨first, later⟩ := List.pairwise_cons.mp keys
      unfold insertMember
      split
      · rename_i same
        exact List.pairwise_cons.mpr ⟨same ▸ first, later⟩
      split
      · rename_i before
        refine List.pairwise_cons.mpr ⟨fun n mem => ?_, keys⟩
        rcases List.mem_cons.mp mem with rfl | mem
        · exact before
        · exact String.lt_trans before (first n mem)
      · rename_i other notBefore
        have behind : m.1 < key := lt_of_le_of_ne (not_lt.mp notBefore) (Ne.symm other)
        refine List.pairwise_cons.mpr ⟨fun n mem => ?_, ih later⟩
        rcases mem_insertMember mem with rfl | mem
        · exact behind
        · exact first n mem

end Insert

section Free
variable {ofText? : String → Option Json} {depth : Nat}

/-- An object whose first key is not the key of texts is read member by member. -/
theorem freeWith?_proper {ms : List (String × Json)}
    (proper : ms.head?.map (·.1) ≠ some textKey) :
    freeWith? ofText? (depth + 1) (.obj ms) = (freeMembers? ofText? depth ms []).map .obj := by
  unfold freeWith?
  rw [if_neg proper]

/-- An object whose first key is the key of texts has no other member. -/
theorem freeWith?_text {ms : List (String × Json)} {w : Json}
    (standsFor : ms.head?.map (·.1) = some textKey)
    (h : freeWith? ofText? (depth + 1) (.obj ms) = some w) :
    ∃ text, ms = [(textKey, .str text)] ∧ ofText? text = some w := by
  unfold freeWith? at h
  rw [if_pos standsFor] at h
  split at h
  · rw [List.head?_cons, Option.map_some, Option.some.injEq] at standsFor
    exact ⟨_, by rw [← standsFor], h⟩
  · cases h

theorem freeItems?_self {vs : List Json} (same : ∀ v ∈ vs, freeWith? ofText? depth v = some v) :
    freeItems? ofText? depth vs = some vs := by
  induction vs with
  | nil => rfl
  | cons v vs ih =>
      have later := ih fun w mem => same w (List.mem_cons_of_mem v mem)
      simp [freeItems?, same v List.mem_cons_self, later]

theorem freeMembers?_self (seen : List (String × Json)) {ms : List (String × Json)}
    (same : ∀ m ∈ ms, freeWith? ofText? depth m.2 = some m.2)
    (keys : ((seen ++ ms).map (·.1)).Pairwise (· < ·)) :
    freeMembers? ofText? depth ms seen = some (seen ++ ms) := by
  induction ms generalizing seen with
  | nil => simp [freeMembers?]
  | cons m ms ih =>
      have beyond : ∀ n ∈ seen, n.1 < m.1 := by
        intro n mem
        rw [List.pairwise_map] at keys
        exact (List.pairwise_append.mp keys).2.2 n mem m List.mem_cons_self
      rw [List.append_cons] at keys
      have later := ih (seen ++ [m]) (fun n mem => same n (List.mem_cons_of_mem m mem)) keys
      rw [List.append_cons, ← later, ← insertMember_last beyond]
      simp [freeMembers?, same m List.mem_cons_self]

/-- A value in its form is read as it is. -/
theorem freeWith?_self {v : Json} (held : Held v) (lasting : Lasting depth v) :
    freeWith? ofText? depth v = some v := by
  induction lasting with
  | null => rw [freeWith?]
  | bool b => rw [freeWith?]
  | int n =>
      cases held with
      | int least most => rw [freeWith?, number?, if_pos ⟨least, most⟩]
  | str s => rw [freeWith?]
  | arr items ih =>
      cases held with
      | arr held =>
          rw [freeWith?, freeItems?_self fun v mem => ih v mem (held v mem)]
          rfl
  | obj members proper ih =>
      cases held with
      | obj held keys =>
          have same := freeMembers?_self [] (fun m mem => ih m mem (held m mem)) keys
          rw [freeWith?_proper proper, same]
          rfl

/-- What holds of each item as it is read holds of the items. -/
theorem forall_of_freeItems? (P : Json → Prop) {vs ws : List Json}
    (each : ∀ v ∈ vs, ∀ w, freeWith? ofText? depth v = some w → P w)
    (h : freeItems? ofText? depth vs = some ws) : ∀ w ∈ ws, P w := by
  induction vs generalizing ws with
  | nil =>
      cases h
      nofun
  | cons v vs ih =>
      simp only [freeItems?, Option.bind_eq_bind, Option.bind_eq_some_iff, Option.pure_def,
        Option.some.injEq] at h
      obtain ⟨w, first, ws, later, rfl⟩ := h
      exact List.forall_mem_cons.mpr ⟨each v List.mem_cons_self w first,
        ih (fun u mem => each u (List.mem_cons_of_mem v mem)) later⟩

/-- What holds of each member as it is read holds of the members. -/
theorem forall_of_freeMembers? (P : String × Json → Prop) {ms seen ns : List (String × Json)}
    (each : ∀ m ∈ ms, ∀ w, freeWith? ofText? depth m.2 = some w → P (m.1, w))
    (before : ∀ m ∈ seen, P m) (h : freeMembers? ofText? depth ms seen = some ns) :
    ∀ n ∈ ns, P n := by
  induction ms generalizing seen with
  | nil =>
      cases h
      exact before
  | cons m ms ih =>
      simp only [freeMembers?, Option.bind_eq_bind, Option.bind_eq_some_iff] at h
      obtain ⟨w, first, later⟩ := h
      refine ih (fun n mem => each n (List.mem_cons_of_mem m mem)) (fun n mem => ?_) later
      rcases mem_insertMember mem with rfl | mem
      · exact each m List.mem_cons_self w first
      · exact before n mem

theorem keys_freeMembers? {ms seen ns : List (String × Json)}
    (keys : (seen.map (·.1)).Pairwise (· < ·))
    (h : freeMembers? ofText? depth ms seen = some ns) : (ns.map (·.1)).Pairwise (· < ·) := by
  induction ms generalizing seen with
  | nil =>
      cases h
      exact keys
  | cons m ms ih =>
      simp only [freeMembers?, Option.bind_eq_bind, Option.bind_eq_some_iff] at h
      obtain ⟨w, first, later⟩ := h
      exact ih (keys_insertMember keys) later

theorem held_of_number? {n : Int} {w : Json} (h : number? n = some w) : Held w := by
  unfold number? at h
  split at h
  · rename_i fits
    cases h
    exact .int fits.1 fits.2
  · simp only [Option.ite_none_right_eq_some] at h
    cases h.2
    exact .real _

/-- Whatever is read of a value is in its form. -/
theorem held_of_freeWith? (texts : ∀ text w, ofText? text = some w → Held w) {v w : Json}
    (h : freeWith? ofText? depth v = some w) : Held w := by
  induction depth using Nat.strongRecOn generalizing v w with
  | ind depth ih =>
      cases v with
      | null =>
          rw [freeWith?] at h
          cases h
          exact .null
      | bool b =>
          rw [freeWith?] at h
          cases h
          exact .bool b
      | int n =>
          rw [freeWith?] at h
          exact held_of_number? h
      | real spelling =>
          rw [freeWith?, Option.ite_none_right_eq_some] at h
          cases h.2
          exact .real spelling
      | str s =>
          rw [freeWith?] at h
          cases h
          exact .str s
      | arr vs =>
          cases depth with
          | zero => cases h
          | succ depth =>
              rw [freeWith?, Option.map_eq_some_iff] at h
              obtain ⟨ws, read, rfl⟩ := h
              exact .arr (forall_of_freeItems? Held (fun v _ w => ih depth depth.lt_succ_self) read)
      | obj ms =>
          cases depth with
          | zero => cases h
          | succ depth =>
              by_cases standsFor : ms.head?.map (·.1) = some textKey
              · obtain ⟨text, -, read⟩ := freeWith?_text standsFor h
                exact texts text w read
              · rw [freeWith?_proper standsFor, Option.map_eq_some_iff] at h
                obtain ⟨ns, read, rfl⟩ := h
                exact .obj (forall_of_freeMembers? (fun m => Held m.2)
                  (fun m _ w => ih depth depth.lt_succ_self) (List.forall_mem_nil _) read)
                  (keys_freeMembers? .nil read)
      | unusable => cases h

end Free

theorem held_of_freeText? (fuel : Nat) : ∀ text w, freeText? fuel text = some w → Held w := by
  induction fuel with
  | zero => nofun
  | succ fuel ih =>
      intro text w h
      rw [freeText?, Option.bind_eq_bind, Option.bind_eq_some_iff] at h
      obtain ⟨v, -, read⟩ := h
      exact held_of_freeWith? ih read

theorem held_of_free? {depth : Nat} {v w : Json} (h : free? depth v = some w) : Held w :=
  held_of_freeWith? (fun text => held_of_freeText? (text.length + 1) text) h

theorem free?_self {depth : Nat} {v : Json} (held : Held v) (lasting : Lasting depth v) :
    free? depth v = some v := freeWith?_self held lasting

/-- A value as it is spelled, without numbers that are no whole numbers of 64 bits, and without the
key of texts. -/
inductive Frank : Json → Prop
  | null : Frank .null
  | bool (b : Bool) : Frank (.bool b)
  | int (least : -0x8000000000000000 ≤ n) (most : n < 0x10000000000000000) : Frank (.int n)
  | str (s : String) : Frank (.str s)
  | arr (items : ∀ v ∈ vs, Frank v) : Frank (.arr vs)
  | obj (members : ∀ m ∈ ms, Frank m.2) (keys : ∀ m ∈ ms, m.1 ≠ textKey) : Frank (.obj ms)
  | unusable : Frank .unusable

theorem head?_ne_of_forall {ms : List (String × Json)} (others : ∀ m ∈ ms, m.1 ≠ textKey) :
    ms.head?.map (·.1) ≠ some textKey := by
  cases ms with
  | nil => nofun
  | cons m ms => simpa using others m List.mem_cons_self

theorem Frank.lasting {depth : Nat} {v w : Json} (frank : Frank v) (h : free? depth v = some w) :
    Lasting depth w := by
  unfold free? at h
  induction depth using Nat.strongRecOn generalizing v w with
  | ind depth ih =>
      cases frank with
      | null =>
          rw [freeWith?] at h
          cases h
          exact .null
      | bool b =>
          rw [freeWith?] at h
          cases h
          exact .bool b
      | @int n least most =>
          rw [freeWith?, number?, if_pos ⟨least, most⟩] at h
          cases h
          exact .int n
      | str s =>
          rw [freeWith?] at h
          cases h
          exact .str s
      | arr items =>
          cases depth with
          | zero => cases h
          | succ depth =>
              rw [freeWith?, Option.map_eq_some_iff] at h
              obtain ⟨ws, read, rfl⟩ := h
              exact .arr (forall_of_freeItems? (Lasting depth)
                (fun v mem w => ih depth depth.lt_succ_self (items v mem)) read)
      | obj members keys =>
          cases depth with
          | zero => cases h
          | succ depth =>
              rw [freeWith?_proper (head?_ne_of_forall keys), Option.map_eq_some_iff] at h
              obtain ⟨ns, read, rfl⟩ := h
              have others := forall_of_freeMembers? (fun m => m.1 ≠ textKey ∧ Lasting depth m.2)
                (fun m mem w read => ⟨keys m mem, ih depth depth.lt_succ_self (members m mem) read⟩)
                (List.forall_mem_nil _) read
              exact .obj (fun m mem => (others m mem).2)
                (head?_ne_of_forall fun m mem => (others m mem).1)
      | unusable => cases h

end Wagebook.Json
