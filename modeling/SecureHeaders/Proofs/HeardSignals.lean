import SecureHeaders.Proofs.ReceiverStories
/-!
What receivers hear. A receive brings what the story of the receiver leaves over, and is ready as
soon as that is something or no handle is left, however signals, clones, subscriptions and drops
interleave: a signal may be overwritten, but then a report of it stands in its place. A task that
waits therefore ends with the first signal after its subscription.
-/

namespace SecureHeaders.Shutdown

namespace State

theorem due_isReady (waiting : Nat) (alive : Bool) :
    (due waiting alive).isReady = true ↔ 0 < waiting ∨ alive = false := by
  match waiting, alive with
  | 0, true => simp [due, Result.isReady]
  | 0, false => simp [due, Result.isReady]
  | 1, _ => simp [due, Result.isReady]
  | missed + 2, _ => simp [due, Result.isReady]

theorem Matches.result {s : State} {id : String} {t : Story} (agrees : s.Matches id (some t)) :
    (s.step (.receive id)).2 = due (t.sent - t.taken) (s.hasHandle t.channel) := by
  obtain ⟨-, start, receiver, count⟩ := agrees
  have waiting : start + t.sent - (start + t.taken) = t.sent - t.taken := by omega
  rw [step_receive receiver]
  dsimp only
  rw [poll_fst]
  dsimp only
  rw [count, waiting]

/-- A receive now would be over at once. -/
def Ready (s : State) (id : String) : Prop := (s.step (.receive id)).2.isReady = true

theorem Matches.ready_iff {s : State} {id : String} {t : Story} (agrees : s.Matches id (some t)) :
    s.Ready id ↔ t.taken < t.sent ∨ s.hasHandle t.channel = false := by
  rw [Ready, agrees.result, due_isReady, Nat.sub_pos_iff_lt]

theorem Matches.channel_iff {s : State} {id : String} {story : Option Story}
    (agrees : s.Matches id story) (channel : Nat) :
    (∃ r, find? s.receivers id = some r ∧ r.channel = channel) ↔
      ∃ t, story = some t ∧ t.channel = channel := by
  cases story with
  | none =>
      have absent : find? s.receivers id = none := agrees
      simp [absent]
  | some t =>
      obtain ⟨-, start, receiver, -⟩ := agrees
      simp [receiver]

/-- The operations send a signal on a channel. -/
def Signalled (s : State) (channel : Nat) (ops : List Op) : Prop :=
  ∃ a on b, ops = a ++ .trigger on :: b ∧ find? (s.after a).handles on = some channel

theorem not_signalled_nil (s : State) (channel : Nat) : ¬ s.Signalled channel [] := by
  rintro ⟨a, on, b, split, -⟩
  cases a <;> cases split

theorem signalled_cons (s : State) (channel : Nat) (op : Op) (ops : List Op) :
    s.Signalled channel (op :: ops) ↔
      (∃ on, op = .trigger on ∧ find? s.handles on = some channel) ∨
        (s.step op).1.Signalled channel ops := by
  constructor
  · rintro ⟨a, on, b, split, found⟩
    cases a with
    | nil =>
        cases split
        exact Or.inl ⟨on, rfl, found⟩
    | cons first a =>
        cases split
        exact Or.inr ⟨a, on, b, rfl, found⟩
  · rintro (⟨on, rfl, found⟩ | ⟨a, on, b, rfl, found⟩)
    · exact ⟨[], on, ops, rfl, found⟩
    · exact ⟨op :: a, on, b, rfl, found⟩

end State

/-- The operation is one on this receiver. -/
def Op.Uses (id : String) : Op → Prop
  | .subscribe k _ | .drop k | .receive k => k = id
  | _ => False

theorem tell_of_signal {on : String} {s : State} {t : Story}
    (found : find? s.handles on = some t.channel) (id : String) :
    tell id s (some t) (.trigger on) = some { t with sent := t.sent + 1 } := by
  simp only [tell, Option.map_some, found, if_true]

theorem tell_of_not_uses {op : Op} {id : String} (apart : ¬ op.Uses id) {s : State} {t : Story}
    (quiet : ¬ ∃ on, op = .trigger on ∧ find? s.handles on = some t.channel) :
    tell id s (some t) op = some t := by
  cases op with
  | create k => rfl
  | clone k on => rfl
  | subscribe k on => exact if_neg apart
  | drop k => exact if_neg apart
  | receive k => exact if_neg apart
  | trigger on =>
      have elsewhere : find? s.handles on ≠ some t.channel := fun found => quiet ⟨on, rfl, found⟩
      simp only [tell, Option.map_some, elsewhere, if_false]

namespace State

/-- While others are at work the story of a receiver only grows by what they send. -/
theorem Matches.others {s : State} {id : String} {t : Story} (sound : s.Sound)
    (agrees : s.Matches id (some t)) {others : List Op} (apart : ∀ op ∈ others, ¬ op.Uses id) :
    ∃ more, (s.after others).Matches id (some { t with sent := t.sent + more }) ∧
      (0 < more ↔ s.Signalled t.channel others) := by
  induction others generalizing s t with
  | nil => exact ⟨0, agrees, by simp [not_signalled_nil]⟩
  | cons op others ih =>
      rw [List.forall_mem_cons] at apart
      have next := agrees.step sound op
      rw [signalled_cons]
      by_cases hit : ∃ on, op = .trigger on ∧ find? s.handles on = some t.channel
      · obtain ⟨on, rfl, found⟩ := hit
        rw [tell_of_signal found] at next
        obtain ⟨more, later, -⟩ := ih (sound.step _) next apart.2
        refine ⟨1 + more, ?_, ?_⟩
        · rw [← Nat.add_assoc]
          exact later
        · exact ⟨fun _ => Or.inl ⟨on, rfl, found⟩, fun _ => by omega⟩
      · rw [tell_of_not_uses apart.1 hit] at next
        obtain ⟨more, later, called⟩ := ih (sound.step _) next apart.2
        refine ⟨more, later, called.trans ?_⟩
        exact (or_iff_right hit).symm

/-- Something that ends a wait on a channel: a signal, or the end of the last handle. -/
def Called (s : State) (channel : Nat) (ops : List Op) : Prop :=
  s.Signalled channel ops ∨ (s.after ops).hasHandle channel = false

theorem Matches.ready_others_iff {s : State} {id : String} {channel : Nat} (sound : s.Sound)
    (agrees : s.Matches id (some { channel })) {others : List Op}
    (apart : ∀ op ∈ others, ¬ op.Uses id) :
    (s.after others).Ready id ↔ s.Called channel others := by
  obtain ⟨more, later, called⟩ := agrees.others sound apart
  rw [later.ready_iff, Called, ← called]
  simp

/-- A poll that brings nothing changes nothing. -/
theorem step_receive_of_not_ready {s : State} (sound : s.Sound) {id : String}
    (pending : ¬ s.Ready id) : (s.step (.receive id)).1 = s := by
  cases found : find? s.receivers id with
  | none => simp only [State.step, found]
  | some r =>
      rw [Ready, step_receive found] at pending
      have stays : (s.poll r).2 = r.next := by
        unfold poll at pending ⊢
        dsimp only at pending ⊢
        split
        · rfl
        · rename_i ahead
          rw [if_neg ahead] at pending
          split at pending <;> exact absurd rfl pending
      rw [step_receive found, stays]
      have same : (s.receivers.map fun x => if x.1 == id then (id, r) else x) = s.receivers := by
        conv => rhs; rw [← List.map_id s.receivers]
        apply List.map_congr_left
        intro x member
        by_cases here : x.1 = id
        · subst here
          have own := find?_of_mem sound.apart member
          rw [found, Option.some.injEq] at own
          simp [own]
        · simp [here]
      rw [same]

theorem first_ready_iff {s : State} {id : String} (now : s.Ready id) (others : List Op) (n : Nat) :
    (n ≤ others.length ∧ (s.after (others.take n)).Ready id ∧
      ∀ m < n, ¬ (s.after (others.take m)).Ready id) ↔ n = 0 := by
  constructor
  · rintro ⟨-, -, first⟩
    cases n with
    | zero => rfl
    | succ n => exact absurd now (first 0 (Nat.succ_pos n))
  · rintro rfl
    exact ⟨Nat.zero_le _, now, fun m below => absurd below (Nat.not_lt_zero m)⟩

theorem waitOn_of_ready {s : State} {id : String} (now : s.Ready id) (others : List Op) :
    s.waitOn id others = some 0 := by
  cases others with
  | nil => exact if_pos now
  | cons op others => exact if_pos now

theorem waitOn_cons {s : State} (sound : s.Sound) {id : String} (pending : ¬ s.Ready id) (op : Op)
    (others : List Op) :
    s.waitOn id (op :: others) = ((s.step op).1.waitOn id others).map (· + 1) := by
  have waits : s.waitOn id (op :: others) =
      (((s.step (.receive id)).1.step op).1.waitOn id others).map (· + 1) := if_neg pending
  rw [waits, step_receive_of_not_ready sound pending]

theorem waitOn_eq_some_iff {s : State} (sound : s.Sound) (id : String) (others : List Op)
    (n : Nat) :
    s.waitOn id others = some n ↔
      n ≤ others.length ∧ (s.after (others.take n)).Ready id ∧
        ∀ m < n, ¬ (s.after (others.take m)).Ready id := by
  -- On the operations of the others: until a poll is ready they find every state as if there had
  -- been none.
  induction others generalizing s n with
  | nil =>
      by_cases now : s.Ready id
      · rw [first_ready_iff now, waitOn_of_ready now, Option.some.injEq, eq_comm]
      · have waits : s.waitOn id [] = none := if_neg now
        rw [waits, List.take_nil]
        constructor
        · intro found
          cases found
        · intro least
          exact absurd least.2.1 now
  | cons op others ih =>
      by_cases now : s.Ready id
      · rw [first_ready_iff now, waitOn_of_ready now, Option.some.injEq, eq_comm]
      · rw [waitOn_cons sound now, Option.map_eq_some_iff]
        cases n with
        | zero =>
            constructor
            · rintro ⟨k, -, zero⟩
              cases zero
            · intro least
              exact absurd least.2.1 now
        | succ n =>
            have rest := ih (sound.step op) n
            rw [Nat.forall_lt_succ_left]
            simp only [Nat.add_right_cancel_iff, exists_eq_right, List.length_cons,
              List.take_succ_cons, List.take_zero, Nat.add_le_add_iff_right]
            rw [rest]
            exact and_congr_right fun _ => and_congr_right fun _ => (and_iff_right now).symm

theorem Matches.waitOn_iff {s : State} {id : String} {channel : Nat} (sound : s.Sound)
    (agrees : s.Matches id (some { channel })) {others : List Op}
    (apart : ∀ op ∈ others, ¬ op.Uses id) (n : Nat) :
    s.waitOn id others = some n ↔
      n ≤ others.length ∧ s.Called channel (others.take n) ∧
        ∀ m < n, ¬ s.Called channel (others.take m) := by
  have ready : ∀ k, (s.after (others.take k)).Ready id ↔ s.Called channel (others.take k) := by
    intro k
    apply agrees.ready_others_iff sound
    intro op member
    exact apart op (List.mem_of_mem_take member)
  rw [waitOn_eq_some_iff sound]
  simp only [ready]

end State

/-- Told from any operations: a channel counts the receivers that are there; a receiver gets what
its story leaves over, and waits only while that is nothing and a handle is left; and a task that
waits from its subscription on ends right after the first signal that follows, or with the last
handle. -/
theorem receivers_hear_signals (ops : List Op) :
    let s := State.after {} ops
    (∀ channel, ∃ names : List String, names.Nodup ∧ names.length = s.receiverCount channel ∧
      ∀ id, id ∈ names ↔ ∃ t, story id ops = some t ∧ t.channel = channel) ∧
    (∀ id t, story id ops = some t →
      t.taken ≤ t.sent ∧
      (s.step (.receive id)).2 = due (t.sent - t.taken) (s.hasHandle t.channel) ∧
      (s.Ready id ↔ t.taken < t.sent ∨ s.hasHandle t.channel = false)) ∧
    ∀ id on channel others, find? s.handles on = some channel →
      (∀ op ∈ others, ¬ op.Uses id) →
      let start := (s.step (.subscribe id on)).1
      ((start.after others).Ready id ↔ start.Called channel others) ∧
      ∀ n, start.waitOn id others = some n ↔
        n ≤ others.length ∧ start.Called channel (others.take n) ∧
          ∀ m < n, ¬ start.Called channel (others.take m) := by
  intro s
  have sound : s.Sound := State.Sound.empty.after ops
  refine ⟨?count, ?heard, ?waits⟩
  case count =>
    intro channel
    obtain ⟨names, apart, count, member⟩ := State.exists_receivers sound channel
    refine ⟨names, apart, count, ?_⟩
    intro id
    rw [member, (State.matches_story id ops).channel_iff]
  case heard =>
    intro id t told
    have agrees := State.matches_story id ops
    rw [told] at agrees
    exact ⟨agrees.1, agrees.result, agrees.ready_iff⟩
  case waits =>
    intro id on channel others found apart start
    have fresh : start.Matches id (some { channel }) := by
      have next := (State.matches_story id ops).subscribe id on
      rw [tell, if_pos rfl, found] at next
      exact next
    have next : start.Sound := sound.step _
    exact ⟨fresh.ready_others_iff next apart, fresh.waitOn_iff next apart⟩

theorem receivers_hear_signals_of_overwritten :
    let ops : List Op := [.create "h", .subscribe "r" "h", .trigger "h", .trigger "h"]
    let others : List Op := [.clone "g" "h", .drop "h", .trigger "g", .trigger "g"]
    let s := State.after {} ops
    let start := (s.step (.subscribe "late" "h")).1
    story "r" ops = some { channel := 0, sent := 2 } ∧ (s.step (.receive "r")).2 = .lagged 1 ∧
      s.Ready "r" ∧
    find? s.handles "h" = some 0 ∧ (∀ op ∈ others, ¬ op.Uses "late") ∧
      start.waitOn "late" others = some 3 ∧ start.Called 0 (others.take 3) ∧
        ∀ m < 3, ¬ start.Called 0 (others.take m) := by
  intro ops others s start
  obtain ⟨-, heard, waits⟩ := receivers_hear_signals ops
  have told : story "r" ops = some { channel := 0, sent := 2 } := rfl
  have handle : find? s.handles "h" = some 0 := by decide
  have apart : ∀ op ∈ others, ¬ op.Uses "late" := by simp [others, Op.Uses]
  have ended : start.waitOn "late" others = some 3 := by decide
  obtain ⟨-, result, ready⟩ := heard "r" _ told
  obtain ⟨-, ends⟩ := waits "late" "h" 0 others handle apart
  obtain ⟨-, called⟩ := (ends 3).1 ended
  exact ⟨told, result, ready.2 (Or.inl (by decide)), handle, apart, ended, called⟩

end SecureHeaders.Shutdown
