import SecureHeaders.Chain.Declaration
/-!
Declarations written as text: steps whose policies, names and values still have to be read. A step
that cannot be read in full leaves what it did before its fault.
-/

namespace SecureHeaders

/-- A change to a slot, given as text: members to set one after another, then, if `assign` is
given, the content that the slot is left with. -/
structure PolicyEdit where
  set : List String := []
  assign : Option (Option String) := none

namespace PolicySlot

variable {P : Type} [HeaderPolicy P]

def setAll (slot : PolicySlot P) : List String → PolicySlot P × Option UnknownPolicy
  | [] => (slot, none)
  | s :: rest =>
    match HeaderPolicy.parse P s with
    | .error e => (slot, some e)
    | .ok p => (slot.set p).setAll rest

/-- The slot after an edit. The edit stops at its first unknown text; what it did before stays. -/
def edit (slot : PolicySlot P) (e : PolicyEdit) : PolicySlot P × Option UnknownPolicy :=
  match slot.setAll e.set with
  | (slot, some unknown) => (slot, some unknown)
  | (slot, none) =>
    match e.assign with
    | none => (slot, none)
    | some none => ({ slot with policy := none }, none)
    | some (some s) =>
      match HeaderPolicy.parse P s with
      | .error unknown => (slot, some unknown)
      | .ok p => ({ slot with policy := some p }, none)

end PolicySlot

namespace Declaration

inductive TextStep where
  | embedder (edit : PolicyEdit)
  | referrer (edit : PolicyEdit)
  | fixed (name : String) (values : List String)
  | disable

inductive TextError where
  | policy (e : UnknownPolicy)
  | header (e : HeaderError)

def applyText (d : Declaration) : TextStep → Declaration × Option TextError
  | .embedder edit =>
    let (slot, e) := (d.embedder.getD {}).edit edit
    (d.step (.embedder fun _ => slot), e.map .policy)
  | .referrer edit =>
    let (slot, e) := (d.referrer.getD {}).edit edit
    (d.step (.referrer fun _ => slot), e.map .policy)
  | .fixed name values =>
    match Header.ofText name values with
    | .ok h => (d.step (.fixed h), none)
    | .error e => (d, some (.header e))
  | .disable => (d.step .disable, none)

def traceText (d : Declaration) : List TextStep → List (Declaration × Option TextError)
  | [] => []
  | step :: rest =>
    let next := d.applyText step
    next :: next.1.traceText rest

/-- The declaration after several steps, faults passed over. -/
def ofText (steps : List TextStep) : Declaration :=
  steps.foldl (fun d step => (d.applyText step).1) {}

end Declaration
end SecureHeaders
