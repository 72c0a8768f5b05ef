import SecureHeaders.Chain.Declaration
/-!
The chain of a declaration, read off its steps. Steps of different kinds do not meet: each policy
is what its own edits make of a slot that starts unset, the fixed headers stand in the order of
their steps, and a single step that turns everything off is enough, wherever it stands.
-/

namespace SecureHeaders.Declaration

/-- A change to the slot of a policy. -/
abbrev Edit (P : Type) := PolicySlot P → PolicySlot P

namespace Step

def embedder? : Step → Option (Edit EmbedderPolicy)
  | embedder configure => some configure
  | _ => none

def referrer? : Step → Option (Edit ReferrerPolicy)
  | referrer configure => some configure
  | _ => none

def fixed? : Step → Option Header
  | fixed header => some header
  | _ => none

def disables : Step → Bool
  | disable => true
  | _ => false

end Step

/-- Steps by kind, each kind in the order of its steps. -/
structure Parts where
  disabled : Bool
  embedder : List (Edit EmbedderPolicy)
  referrer : List (Edit ReferrerPolicy)
  fixed : List Header

def parts (steps : List Step) : Parts where
  disabled := steps.any Step.disables
  embedder := steps.filterMap Step.embedder?
  referrer := steps.filterMap Step.referrer?
  fixed := steps.filterMap Step.fixed?

/-- The slot that edits leave: the first one finds it unset, each later one as the edits before it
have left it. Without an edit the header is not declared. -/
def configured {P : Type} : List (Edit P) → Option (PolicySlot P)
  | [] => none
  | first :: later => some (later.foldl (fun slot edit => edit slot) (first {}))

namespace Parts

/-- The steps of `b` behind those of `a`. -/
def append (a b : Parts) : Parts where
  disabled := a.disabled || b.disabled
  embedder := a.embedder ++ b.embedder
  referrer := a.referrer ++ b.referrer
  fixed := a.fixed ++ b.fixed

def declaration (p : Parts) : Declaration where
  disabled := p.disabled
  embedder := configured p.embedder
  referrer := configured p.referrer
  fixed := p.fixed

/-- The writers in their fixed order: at most one for each policy, then the fixed headers. -/
def chain (p : Parts) : Chain :=
  if p.disabled then Chain.empty
  else
    ⟨((configured p.embedder).map fun slot => Writer.embedder slot.policy).toList
      ++ ((configured p.referrer).map fun slot => Writer.referrer slot.policy).toList
      ++ p.fixed.map Writer.fixed⟩

theorem append_assoc (a b c : Parts) : (a.append b).append c = a.append (b.append c) := by
  simp only [append, Bool.or_assoc, List.append_assoc]

end Parts

theorem parts_append (a b : List Step) : parts (a ++ b) = (parts a).append (parts b) := by
  simp only [parts, Parts.append, List.any_append, List.filterMap_append]

theorem configured_append {P : Type} (edits : List (Edit P)) (edit : Edit P) :
    configured (edits ++ [edit]) = some (edit ((configured edits).getD {})) := by
  cases edits with
  | nil => rfl
  | cons first later =>
      simp only [configured, List.cons_append, List.foldl_append, List.foldl_cons, List.foldl_nil,
        Option.getD_some]

@[simp] theorem parts_embedder (configure : Edit EmbedderPolicy) :
    parts [.embedder configure] = ⟨false, [configure], [], []⟩ := rfl

@[simp] theorem parts_referrer (configure : Edit ReferrerPolicy) :
    parts [.referrer configure] = ⟨false, [], [configure], []⟩ := rfl

@[simp] theorem parts_fixed (header : Header) :
    parts [.fixed header] = ⟨false, [], [], [header]⟩ := rfl

@[simp] theorem parts_disable : parts [.disable] = ⟨true, [], [], []⟩ := rfl

/-- A step changes its own part and no other. -/
theorem step_declaration (p : Parts) (s : Step) :
    p.declaration.step s = (p.append (parts [s])).declaration := by
  cases s with
  | embedder configure =>
      have slot := configured_append p.embedder configure
      simp [step, Parts.declaration, Parts.append, slot]
  | referrer configure =>
      have slot := configured_append p.referrer configure
      simp [step, Parts.declaration, Parts.append, slot]
  | fixed header => simp [step, Parts.declaration, Parts.append]
  | disable => simp [step, Parts.declaration, Parts.append]

/-- The induction is on the steps to come, for any parts that stand for those already done. -/
theorem run_declaration (p : Parts) (steps : List Step) :
    run steps p.declaration = (p.append (parts steps)).declaration := by
  induction steps generalizing p with
  | nil => simp [run, parts, Parts.append]
  | cons s rest ih =>
      have first : run (s :: rest) p.declaration = run rest (p.declaration.step s) := rfl
      have split : parts (s :: rest) = (parts [s]).append (parts rest) := parts_append [s] rest
      rw [first, step_declaration, ih, split, Parts.append_assoc]

theorem run_eq_declaration (steps : List Step) : run steps = (parts steps).declaration := by
  have start : run steps (parts []).declaration = ((parts []).append (parts steps)).declaration :=
    run_declaration (parts []) steps
  rw [← parts_append, List.nil_append] at start
  exact start

theorem build_declaration (p : Parts) : p.declaration.build = p.chain := rfl

/-- A declaration has the chain of its parts, so steps with the same parts have the same chain,
however those of different kinds stand between each other. -/
theorem build_run_eq_chain (steps : List Step) :
    (run steps).build = (parts steps).chain ∧
      ∀ other, parts other = parts steps → (run other).build = (run steps).build := by
  have normal : ∀ steps, (run steps).build = (parts steps).chain := by
    intro steps
    rw [run_eq_declaration, build_declaration]
  refine ⟨normal steps, ?_⟩
  intro other same
  rw [normal other, normal steps, same]

theorem build_run_eq_chain_of_interleaved :
    let nosniff : Header :=
      .single ⟨"x-content-type-options", by decide⟩ ⟨Text.bytes "nosniff", by decide⟩
    let choose : Edit EmbedderPolicy := fun slot => slot.set .credentialless
    let a : List Step := [.fixed nosniff, .embedder choose, .referrer id, .embedder id]
    let b : List Step := [.referrer id, .embedder choose, .embedder id, .fixed nosniff]
    parts a = parts b ∧ (run a).build = (run b).build ∧
      (run b).build =
        ⟨[.embedder (some .credentialless), .referrer none, .fixed nosniff]⟩ := by
  intro nosniff choose a b
  have normal := build_run_eq_chain b
  exact ⟨rfl, normal.2 a rfl, normal.1⟩

end SecureHeaders.Declaration
