import SecureHeaders.Chain.Basic
/-!
Declarations: what a chain is built from. A policy header is declared with a slot that later
steps may fill or change; fixed headers collect in order; one step turns everything off, whenever
it comes. Only declared headers get a writer.
-/

namespace SecureHeaders

/-- Where the policy of a declared header is kept until the chain is built. -/
structure PolicySlot (P : Type) where
  policy : Option P := none
deriving DecidableEq

namespace PolicySlot

variable {P : Type}

def set (slot : PolicySlot P) (p : P) : PolicySlot P := { slot with policy := some p }

end PolicySlot

structure Declaration where
  disabled : Bool := false
  embedder : Option (PolicySlot EmbedderPolicy) := none
  referrer : Option (PolicySlot ReferrerPolicy) := none
  fixed : List Header := []

namespace Declaration

/-- One step of declaring. A policy step changes the slot of its header, which is a fresh one only
if the header was not declared before. -/
inductive Step where
  | embedder (configure : PolicySlot EmbedderPolicy → PolicySlot EmbedderPolicy)
  | referrer (configure : PolicySlot ReferrerPolicy → PolicySlot ReferrerPolicy)
  | fixed (header : Header)
  | disable

def step (d : Declaration) : Step → Declaration
  | .embedder configure => { d with embedder := some (configure (d.embedder.getD {})) }
  | .referrer configure => { d with referrer := some (configure (d.referrer.getD {})) }
  | .fixed header => { d with fixed := d.fixed ++ [header] }
  | .disable => { d with disabled := true }

def run (steps : List Step) (d : Declaration := {}) : Declaration := steps.foldl step d

/-- The writers of the declared headers: policies first, then the fixed headers in order. -/
def writers (d : Declaration) : List Writer :=
  (d.embedder.map fun slot => Writer.embedder slot.policy).toList
    ++ (d.referrer.map fun slot => Writer.referrer slot.policy).toList
    ++ d.fixed.map Writer.fixed

/-- The chain of a declaration; a disabled one has the empty chain. -/
def build (d : Declaration) : Chain := if d.disabled then Chain.empty else ⟨d.writers⟩

end Declaration
end SecureHeaders
