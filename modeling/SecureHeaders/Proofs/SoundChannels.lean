import SecureHeaders.Shutdown
/-!
States of channels that operations lead to: every receiver has a name of its own, every handle a
channel that is there. On these a receiver is found by its name, the count of receivers is that of
their names, and a signal reaches the channel that it is sent on and no other.
-/

namespace SecureHeaders.Shutdown

section Named

variable {α : Type}

theorem find?_cons (x : String × α) (xs : List (String × α)) (k : String) :
    find? (x :: xs) k = if x.1 = k then some x.2 else find? xs k := by
  unfold find?
  rw [List.find?_cons]
  by_cases here : x.1 = k
  · simp [here]
  · simp [here, beq_false_of_ne here]

theorem mem_of_find? {xs : List (String × α)} {id : String} {a : α}
    (found : find? xs id = some a) : (id, a) ∈ xs := by
  induction xs with
  | nil => cases found
  | cons x xs ih =>
      rw [find?_cons] at found
      split at found
      · rename_i here
        cases found
        subst here
        exact List.mem_cons_self
      · exact List.mem_cons_of_mem x (ih found)

theorem find?_of_mem {xs : List (String × α)} (apart : (xs.map Prod.fst).Nodup) {id : String}
    {a : α} (member : (id, a) ∈ xs) : find? xs id = some a := by
  induction xs with
  | nil => cases member
  | cons x xs ih =>
      rw [List.map_cons, List.nodup_cons] at apart
      rw [find?_cons]
      rcases List.mem_cons.1 member with rfl | later
      · exact if_pos rfl
      · have other : x.1 ≠ id := by
          intro same
          exact apart.1 (List.mem_map.2 ⟨(id, a), later, same.symm⟩)
        rw [if_neg other]
        exact ih apart.2 later

theorem find?_replace (xs : List (String × α)) (id k : String) (a : α) :
    find? (xs.map fun x => if x.1 == id then (id, a) else x) k =
      if k = id then (find? xs id).map fun _ => a else find? xs k := by
  induction xs with
  | nil => exact (ite_self none).symm
  | cons x xs ih =>
      rw [List.map_cons, find?_cons, find?_cons, find?_cons, ih]
      by_cases here : x.1 = id
      · subst here
        by_cases same : x.1 = k
        · simp [same]
        · have other : k ≠ x.1 := fun e => same e.symm
          simp [same, other]
      · by_cases same : k = id
        · subst same
          simp [here]
        · simp [here, same]

theorem nodup_without {xs : List (String × α)} (apart : (xs.map Prod.fst).Nodup) (id : String) :
    ((without xs id).map Prod.fst).Nodup :=
  apart.sublist (List.filter_sublist.map Prod.fst)

theorem nodup_put {xs : List (String × α)} (apart : (xs.map Prod.fst).Nodup) (id : String)
    (a : α) : ((put xs id a).map Prod.fst).Nodup := by
  rw [put, List.map_append, List.nodup_append]
  refine ⟨nodup_without apart id, List.pairwise_singleton _ id, ?_⟩
  intro k old j new same
  obtain ⟨x, member, rfl⟩ := List.mem_map.1 old
  have kept := (List.mem_filter.1 member).2
  rw [same, List.mem_singleton.1 new] at kept
  simp at kept

end Named

namespace State

/-- Receivers have names of their own, and every handle belongs to a channel that is there. -/
structure Sound (s : State) : Prop where
  apart : (s.receivers.map Prod.fst).Nodup
  known : ∀ h ∈ s.handles, h.2 < s.sent.length

theorem Sound.empty : Sound {} := ⟨List.nodup_nil, fun _ member => nomatch member⟩

theorem Sound.channel_lt {s : State} (sound : s.Sound) {id : String} {channel : Nat}
    (found : find? s.handles id = some channel) : channel < s.sent.length :=
  sound.known _ (mem_of_find? found)

theorem known_without {s : State} (sound : s.Sound) (id : String) :
    ∀ h ∈ without s.handles id, h.2 < s.sent.length := by
  intro h member
  exact sound.known h (List.mem_filter.1 member).1

theorem known_put {s : State} (sound : s.Sound) (id : String) {channel n : Nat}
    (new : channel < n) (more : s.sent.length ≤ n) : ∀ h ∈ put s.handles id channel, h.2 < n := by
  intro h member
  rcases List.mem_append.1 member with old | added
  · exact Nat.lt_of_lt_of_le (known_without sound id h old) more
  · rw [List.mem_singleton.1 added]
    exact new

theorem Sound.step {s : State} (sound : s.Sound) (op : Op) : (s.step op).1.Sound := by
  cases op with
  | create id =>
      refine ⟨sound.apart, ?_⟩
      change ∀ h ∈ put s.handles id s.sent.length, h.2 < (s.sent ++ [0]).length
      rw [List.length_append, List.length_singleton]
      exact known_put sound id (Nat.lt_succ_self _) (Nat.le_succ _)
  | clone id on =>
      cases found : find? s.handles on with
      | none => simpa only [State.step, found] using sound
      | some channel =>
          simp only [State.step, found]
          exact ⟨sound.apart, known_put sound id (sound.channel_lt found) (Nat.le_refl _)⟩
  | subscribe id on =>
      cases found : find? s.handles on with
      | none => simpa only [State.step, found] using sound
      | some channel =>
          simp only [State.step, found]
          exact ⟨nodup_put sound.apart id _, sound.known⟩
  | trigger on =>
      cases found : find? s.handles on with
      | none => simpa only [State.step, found] using sound
      | some channel =>
          simp only [State.step, found]
          split
          · exact sound
          · refine ⟨sound.apart, ?_⟩
            intro h member
            rw [List.length_modify]
            exact sound.known h member
  | drop id =>
      simp only [State.step]
      split
      · exact sound
      · exact ⟨nodup_without sound.apart id, known_without sound id⟩
  | receive id =>
      cases found : find? s.receivers id with
      | none => simpa only [State.step, found] using sound
      | some r =>
          simp only [State.step, found]
          refine ⟨?_, sound.known⟩
          have names : (s.receivers.map fun x =>
              if x.1 == id then (id, { r with next := (s.poll r).2 }) else x).map Prod.fst =
              s.receivers.map Prod.fst := by
            rw [List.map_map]
            apply List.map_congr_left
            intro x _
            by_cases here : x.1 = id <;> simp [here]
          rw [names]
          exact sound.apart

theorem Sound.after {s : State} (sound : s.Sound) (ops : List Op) : (s.after ops).Sound := by
  induction ops generalizing s with
  | nil => exact sound
  | cons op ops ih => exact ih (sound.step op)

theorem sentOn_create (s : State) (handles : List (String × Nat)) (channel : Nat) :
    ({ s with sent := s.sent ++ [0], handles } : State).sentOn channel = s.sentOn channel := by
  simp only [sentOn, List.getElem?_append]
  split
  · rfl
  · rename_i beyond
    rw [List.getElem?_eq_none (Nat.le_of_not_lt beyond)]
    cases channel - s.sent.length <;> rfl

theorem sentOn_signal (s : State) {sending : Nat} (known : sending < s.sent.length)
    (channel : Nat) :
    ({ s with sent := s.sent.modify sending (· + 1) } : State).sentOn channel =
      if channel = sending then s.sentOn channel + 1 else s.sentOn channel := by
  simp only [sentOn, List.getElem?_modify]
  by_cases same : channel = sending
  · subst same
    simp [List.getElem?_eq_getElem known]
  · have other : sending ≠ channel := fun e => same e.symm
    simp [same, other]

theorem receiverCount_ne_zero {s : State} {id : String} {r : Receiver}
    (found : find? s.receivers id = some r) : s.receiverCount r.channel ≠ 0 := by
  intro zero
  have none_left := List.length_eq_zero_iff.1 zero
  have member : (id, r) ∈ s.receivers.filter fun x => x.2.channel = r.channel :=
    List.mem_filter.2 ⟨mem_of_find? found, decide_eq_true rfl⟩
  rw [none_left] at member
  cases member

theorem exists_receivers {s : State} (sound : s.Sound) (channel : Nat) :
    ∃ names : List String, names.Nodup ∧ names.length = s.receiverCount channel ∧
      ∀ id, id ∈ names ↔ ∃ r, find? s.receivers id = some r ∧ r.channel = channel := by
  refine ⟨(s.receivers.filter fun r => r.2.channel = channel).map Prod.fst, ?_, ?_, ?_⟩
  · exact sound.apart.sublist (List.filter_sublist.map Prod.fst)
  · rw [List.length_map]
    rfl
  · intro id
    constructor
    · intro named
      obtain ⟨⟨k, r⟩, kept, rfl⟩ := List.mem_map.1 named
      obtain ⟨member, same⟩ := List.mem_filter.1 kept
      exact ⟨r, find?_of_mem sound.apart member, of_decide_eq_true same⟩
    · rintro ⟨r, found, same⟩
      exact List.mem_map.2 ⟨(id, r), List.mem_filter.2 ⟨mem_of_find? found,
        decide_eq_true same⟩, rfl⟩

end State
end SecureHeaders.Shutdown
