/-!
Shutdown signals. A channel keeps only the latest signal; handles of one channel send it, receivers
get what is sent after they subscribed. A signal that nobody could receive is lost. Handles and
receivers live under names.
-/

namespace SecureHeaders.Shutdown

/-- A receiver of a channel. The signals below `next` are behind it. -/
structure Receiver where
  channel : Nat
  next : Nat
deriving DecidableEq

/-- The channels by number, each with the count of signals sent on it; the handles, each with its
channel; and the receivers. -/
structure State where
  sent : List Nat := []
  handles : List (String × Nat) := []
  receivers : List (String × Receiver) := []
deriving DecidableEq

inductive Op where
  | create (id : String)
  | clone (id on : String)
  | subscribe (id on : String)
  | trigger (on : String)
  | drop (id : String)
  | receive (id : String)
deriving DecidableEq

inductive Result where
  | ok
  /-- The thing that was named does not exist. -/
  | nothing
  | signal
  | empty
  /-- No handle is left and nothing is pending. -/
  | closed
  /-- So many signals were overwritten before they were received. -/
  | lagged (missed : Nat)
deriving DecidableEq

/-- A receive that gets this is over; without it the receiver has to wait on. -/
def Result.isReady : Result → Bool
  | .signal | .closed | .lagged _ => true
  | _ => false

def Result.text : Result → String
  | .ok => "ok"
  | .nothing => "nothing"
  | .signal => "signal"
  | .empty => "empty"
  | .closed => "closed"
  | .lagged missed => "lagged " ++ toString missed

def find? {α : Type} (xs : List (String × α)) (id : String) : Option α :=
  (xs.find? fun x => x.1 == id).map Prod.snd

def without {α : Type} (xs : List (String × α)) (id : String) : List (String × α) :=
  xs.filter fun x => x.1 != id

def put {α : Type} (xs : List (String × α)) (id : String) (a : α) : List (String × α) :=
  without xs id ++ [(id, a)]

theorem find?_without {α : Type} (xs : List (String × α)) (id k : String) :
    find? (without xs id) k = if k = id then none else find? xs k := by
  unfold find? without
  rw [List.find?_filter]
  by_cases same : k = id
  · subst same
    simp
  · rw [if_neg same]
    congr 2
    funext x
    by_cases hit : x.1 = k
    · subst hit
      simp [same]
    · simp [hit]

theorem find?_put {α : Type} (xs : List (String × α)) (id k : String) (a : α) :
    find? (put xs id a) k = if k = id then some a else find? xs k := by
  have split : find? (put xs id a) k = (find? (without xs id) k).or (find? [(id, a)] k) := by
    simp only [find?, put, List.find?_append]
    cases (without xs id).find? fun x => x.1 == k <;> rfl
  rw [split, find?_without]
  by_cases same : k = id
  · subst same
    simp [find?]
  · have other : id ≠ k := fun e => same e.symm
    simp [find?, same, other]

namespace State

def sentOn (s : State) (channel : Nat) : Nat := (s.sent[channel]?).getD 0

def receiverCount (s : State) (channel : Nat) : Nat :=
  (s.receivers.filter fun r => r.2.channel = channel).length

def hasHandle (s : State) (channel : Nat) : Bool := s.handles.any fun h => h.2 = channel

def counts (s : State) : List (String × Nat) :=
  s.handles.map fun h => (h.1, s.receiverCount h.2)

/-- What a receiver gets, and the position that it moves to. -/
def poll (s : State) (r : Receiver) : Result × Nat :=
  let sent := s.sentOn r.channel
  if sent ≤ r.next then (if s.hasHandle r.channel then .empty else .closed, r.next)
  else if r.next + 1 = sent then (.signal, sent)
  else (.lagged (sent - 1 - r.next), sent - 1)

def step (s : State) : Op → State × Result
  | .create id =>
    ({ s with sent := s.sent ++ [0], handles := put s.handles id s.sent.length }, .ok)
  | .clone id on =>
    match find? s.handles on with
    | none => (s, .nothing)
    | some channel => ({ s with handles := put s.handles id channel }, .ok)
  | .subscribe id on =>
    match find? s.handles on with
    | none => (s, .nothing)
    | some channel =>
      ({ s with receivers := put s.receivers id ⟨channel, s.sentOn channel⟩ }, .ok)
  | .trigger on =>
    match find? s.handles on with
    | none => (s, .nothing)
    | some channel =>
      if s.receiverCount channel = 0 then (s, .ok)
      else ({ s with sent := s.sent.modify channel (· + 1) }, .ok)
  | .drop id =>
    if (find? s.handles id).isNone && (find? s.receivers id).isNone then (s, .nothing)
    else
      ({ s with handles := without s.handles id, receivers := without s.receivers id }, .ok)
  | .receive id =>
    match find? s.receivers id with
    | none => (s, .nothing)
    | some r =>
      let (result, next) := s.poll r
      ({ s with receivers := s.receivers.map fun x =>
          if x.1 == id then (id, { r with next }) else x }, result)

def run (s : State) : List Op → List (Result × State)
  | [] => []
  | op :: rest =>
    let (s, result) := s.step op
    (result, s) :: s.run rest

def after (s : State) (ops : List Op) : State := ops.foldl (fun s op => (s.step op).1) s

/-- A task that waits on a receiver, while others go on with operations. It polls after each of
them and ends at the first poll that is ready, whatever that brings; the result is the number of
operations before it. -/
def waitOn (s : State) (id : String) : List Op → Option Nat
  | [] => if (s.step (.receive id)).2.isReady then some 0 else none
  | op :: rest =>
    let (s, result) := s.step (.receive id)
    if result.isReady then some 0 else ((s.step op).1.waitOn id rest).map (· + 1)

end State
end SecureHeaders.Shutdown
