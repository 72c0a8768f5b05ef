import SecureHeaders.Proofs.SoundChannels
/-!
Stories of receivers, told from the operations: the channel that a receiver subscribed on, the
signals sent there since, and how many of them it has taken. After any operations the position of
every receiver agrees with its story.
-/

namespace SecureHeaders.Shutdown

/-- The signals sent on the channel of a receiver since it subscribed, and how many it took. -/
structure Story where
  channel : Nat
  sent : Nat := 0
  taken : Nat := 0

/-- The signals that a receiver is through with after a receive that brings this. -/
def Result.taken : Result → Nat
  | .signal => 1
  | .lagged missed => missed
  | _ => 0

/-- How an operation that is done in state `s` goes into the story of receiver `id`. -/
def tell (id : String) (s : State) (story : Option Story) : Op → Option Story
  | .create _ => story
  | .clone _ _ => story
  | .subscribe k on =>
    if k = id then (find? s.handles on).elim story fun channel => some { channel } else story
  | .trigger on =>
    story.map fun t =>
      if find? s.handles on = some t.channel then { t with sent := t.sent + 1 } else t
  | .receive k =>
    if k = id then story.map fun t => { t with taken := t.taken + (s.step (.receive k)).2.taken }
    else story
  | .drop k => if k = id then none else story

def tellAll (id : String) (s : State) (story : Option Story) : List Op → Option Story
  | [] => story
  | op :: rest => tellAll id (s.step op).1 (tell id s story op) rest

/-- The story of a receiver; one that is not there, or not any more, has none. -/
def story (id : String) (ops : List Op) : Option Story := tellAll id {} none ops

/-- What a receiver gets while so many signals wait for it: all but the last were overwritten. -/
def due : Nat → Bool → Result
  | 0, alive => if alive then .empty else .closed
  | 1, _ => .signal
  | missed + 2, _ => .lagged (missed + 1)

namespace State

theorem poll_fst (s : State) (r : Receiver) :
    (s.poll r).1 = due (s.sentOn r.channel - r.next) (s.hasHandle r.channel) := by
  unfold poll
  dsimp only
  split
  · rename_i behind
    rw [Nat.sub_eq_zero_of_le behind]
    rfl
  · split
    · rename_i next
      rw [← next, Nat.add_sub_cancel_left]
      rfl
    · obtain ⟨missed, more⟩ : ∃ missed, s.sentOn r.channel - r.next = missed + 2 :=
        ⟨s.sentOn r.channel - r.next - 2, by omega⟩
      have kept : s.sentOn r.channel - 1 - r.next = missed + 1 := by omega
      rw [more, kept]
      rfl

theorem poll_snd {s : State} {r : Receiver} (bound : r.next ≤ s.sentOn r.channel) :
    (s.poll r).2 = r.next + (s.poll r).1.taken ∧ (s.poll r).2 ≤ s.sentOn r.channel := by
  unfold poll
  dsimp only
  split
  · exact ⟨by split <;> rfl, bound⟩
  · split
    · rename_i next
      exact ⟨next.symm, Nat.le_refl _⟩
    · change s.sentOn r.channel - 1 = r.next + (s.sentOn r.channel - 1 - r.next) ∧
        s.sentOn r.channel - 1 ≤ s.sentOn r.channel
      omega

theorem step_receive {s : State} {id : String} {r : Receiver}
    (found : find? s.receivers id = some r) :
    s.step (.receive id) =
      ({ s with receivers := s.receivers.map fun x =>
          if x.1 == id then (id, { r with next := (s.poll r).2 }) else x }, (s.poll r).1) := by
  simp only [State.step, found]

/-- A state agrees with a story: the receiver stands behind the last signal by those that its story
leaves over. -/
def Matches (s : State) (id : String) : Option Story → Prop
  | none => find? s.receivers id = none
  | some t => t.taken ≤ t.sent ∧ ∃ start,
      find? s.receivers id = some ⟨t.channel, start + t.taken⟩ ∧
        s.sentOn t.channel = start + t.sent

theorem Matches.frame {s s' : State} {id : String} {story : Option Story}
    (agrees : s.Matches id story) (receiver : find? s'.receivers id = find? s.receivers id)
    (sent : ∀ t, story = some t → s'.sentOn t.channel = s.sentOn t.channel) :
    s'.Matches id story := by
  cases story with
  | none => exact receiver.trans agrees
  | some t =>
      obtain ⟨bound, start, found, count⟩ := agrees
      exact ⟨bound, start, receiver.trans found, (sent t rfl).trans count⟩

theorem Matches.subscribe {s : State} {id : String} {story : Option Story}
    (agrees : s.Matches id story) (k on : String) :
    (s.step (.subscribe k on)).1.Matches id (tell id s story (.subscribe k on)) := by
  cases found : find? s.handles on with
  | none => simpa [State.step, tell, found] using agrees
  | some channel =>
      simp only [State.step, tell, found, Option.elim_some]
      by_cases same : k = id
      · subst same
        rw [if_pos rfl]
        refine ⟨Nat.le_refl 0, s.sentOn channel, ?_, rfl⟩
        rw [find?_put, if_pos rfl]
        rfl
      · rw [if_neg same]
        apply agrees.frame
        · rw [find?_put, if_neg fun e => same e.symm]
        · intro t _
          rfl

theorem Matches.trigger {s : State} {id : String} {story : Option Story} (sound : s.Sound)
    (agrees : s.Matches id story) (on : String) :
    (s.step (.trigger on)).1.Matches id (tell id s story (.trigger on)) := by
  cases found : find? s.handles on with
  | none => simpa [State.step, tell, found] using agrees
  | some sending =>
      have known := sound.channel_lt found
      simp only [State.step, found]
      cases story with
      | none => split <;> exact agrees
      | some t =>
          obtain ⟨bound, start, receiver, count⟩ := agrees
          by_cases same : t.channel = sending
          · subst same
            -- The receiver of the story is there, so the signal is not lost.
            rw [if_neg (receiverCount_ne_zero receiver)]
            simp only [tell, found, Option.map_some, if_true]
            refine ⟨Nat.le_succ_of_le bound, start, receiver, ?_⟩
            dsimp only
            rw [sentOn_signal s known, if_pos rfl, count]
            rfl
          · have other : sending ≠ t.channel := fun e => same e.symm
            simp only [tell, found, Option.map_some, Option.some.injEq, other, if_false]
            split
            · exact ⟨bound, start, receiver, count⟩
            · refine ⟨bound, start, receiver, ?_⟩
              rw [sentOn_signal s known, if_neg same, count]

theorem Matches.receive {s : State} {id : String} {story : Option Story}
    (agrees : s.Matches id story) (k : String) :
    (s.step (.receive k)).1.Matches id (tell id s story (.receive k)) := by
  simp only [tell]
  by_cases same : k = id
  · subst same
    rw [if_pos rfl]
    cases story with
    | none =>
        have absent : find? s.receivers k = none := agrees
        simp only [State.step, absent, Option.map_none]
        exact agrees
    | some t =>
        obtain ⟨bound, start, receiver, count⟩ := agrees
        have behind : start + t.taken ≤ s.sentOn t.channel := by omega
        obtain ⟨next, still⟩ := poll_snd (r := ⟨t.channel, start + t.taken⟩) behind
        rw [step_receive receiver]
        dsimp only at next still
        refine ⟨?_, start, ?_, count⟩
        · dsimp only
          omega
        · dsimp only
          rw [find?_replace, if_pos rfl, receiver, Option.map_some, next, Nat.add_assoc]
  · rw [if_neg same]
    cases found : find? s.receivers k with
    | none => simpa only [State.step, found] using agrees
    | some r =>
        rw [step_receive found]
        apply agrees.frame
        · dsimp only
          rw [find?_replace, if_neg fun e => same e.symm]
        · intro t _
          rfl

theorem Matches.drop {s : State} {id : String} {story : Option Story}
    (agrees : s.Matches id story) (k : String) :
    (s.step (.drop k)).1.Matches id (tell id s story (.drop k)) := by
  have removed : find? (s.step (.drop k)).1.receivers id =
      if id = k then none else find? s.receivers id := by
    simp only [State.step]
    split
    · rename_i nothing
      split
      · rename_i same
        subst same
        exact Option.isNone_iff_eq_none.1 (Bool.and_eq_true_iff.1 nothing).2
      · rfl
    · exact find?_without s.receivers k id
  simp only [tell]
  by_cases same : k = id
  · subst same
    rw [if_pos rfl]
    rw [if_pos rfl] at removed
    exact removed
  · rw [if_neg same]
    rw [if_neg fun e => same e.symm] at removed
    apply agrees.frame removed
    intro t _
    simp only [State.step]
    split <;> rfl

theorem Matches.step {s : State} {id : String} {story : Option Story} (sound : s.Sound)
    (agrees : s.Matches id story) (op : Op) : (s.step op).1.Matches id (tell id s story op) := by
  cases op with
  | create k => exact agrees.frame rfl fun t _ => sentOn_create s _ t.channel
  | clone k on =>
      simp only [State.step, tell]
      split
      · exact agrees
      · exact agrees.frame rfl fun _ _ => rfl
  | subscribe k on => exact agrees.subscribe k on
  | trigger on => exact agrees.trigger sound on
  | drop k => exact agrees.drop k
  | receive k => exact agrees.receive k

theorem Matches.after {s : State} {id : String} {story : Option Story} (sound : s.Sound)
    (agrees : s.Matches id story) (ops : List Op) :
    (s.after ops).Matches id (tellAll id s story ops) := by
  induction ops generalizing s story with
  | nil => exact agrees
  | cons op ops ih => exact ih (sound.step op) (agrees.step sound op)

theorem matches_story (id : String) (ops : List Op) :
    (State.after {} ops).Matches id (story id ops) := by
  have start : State.Matches {} id none := rfl
  exact start.after Sound.empty ops

end State
end SecureHeaders.Shutdown
