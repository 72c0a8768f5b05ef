import SecureHeaders.Proofs.FirstWins
import SecureHeaders.Proofs.Served
/-!
Chains on top of each other. A chain that runs on what another chain has left does what both do as
one chain, on a message and as layers of a router. And once a chain has run, its writers find
nothing left to write, however often and in whichever order they are called again.
-/

namespace SecureHeaders

open Header (Fields Name)

namespace Chain

/-- The writers of `b` behind those of `a`. -/
def append (a b : Chain) : Chain := ⟨a.writers ++ b.writers⟩

theorem writeAll_append (a b : Chain) (m : Fields) :
    (a.append b).writeAll m =
      ((b.writeAll (a.writeAll m).1).1, (a.writeAll m).2 ++ (b.writeAll (a.writeAll m).1).2) :=
  run_append a.writers b.writers m

/-- Single calls of writers one after another; beside the message, what each call reported. -/
def writeEach : List Writer → Fields → Fields × List (Option Header)
  | [], m => (m, [])
  | w :: ws, m =>
    let (m', written) := w.write m
    let (m'', reports) := writeEach ws m'
    (m'', written :: reports)

/-- Whatever the writer computes, the message has its name. -/
def Settled (w : Writer) (m : Fields) : Prop :=
  ∀ h, w.compute = some h → m.contains h.name = true

theorem Settled.write_eq {w : Writer} {m : Fields} (settled : Settled w m) :
    w.write m = (m, none) := by
  cases computed : w.compute with
  | none => exact Writer.write_of_compute_eq_none computed m
  | some h => exact Writer.write_of_contains computed (settled h computed)

/-- A run leaves each of its writers settled: a name that it offers was there, or is written with
the values of the first header that carries it, which has some. -/
theorem settled_run {ws : List Writer} {w : Writer} (own : w ∈ ws) (m : Fields) :
    Settled w (run ws m).1 := by
  intro h computed
  have offered : h ∈ ws.filterMap Writer.compute := List.mem_filterMap.2 ⟨w, own, computed⟩
  rw [Fields.contains_iff, values_run]
  split
  · exact firstValues_ne_nil_iff.2 (List.mem_map_of_mem offered)
  · assumption

/-- Calls of settled writers change nothing, so that all of them stay settled. -/
theorem writeEach_of_settled {ws : List Writer} {m : Fields} (settled : ∀ w ∈ ws, Settled w m) :
    writeEach ws m = (m, ws.map fun _ => none) := by
  induction ws with
  | nil => rfl
  | cons w ws ih =>
      rw [List.forall_mem_cons] at settled
      rw [writeEach, settled.1.write_eq]
      dsimp only
      rw [ih settled.2, List.map_cons]

end Chain

namespace Http

/-- A layer around another sees the response that the inner one has left. -/
theorem securityHeaders_securityHeaders (a b : Chain) (service : Service) :
    securityHeaders b (securityHeaders a service) = securityHeaders (a.append b) service := by
  funext request
  simp only [securityHeaders, Chain.writeAll_append, List.map_append, List.append_assoc]

theorem Router.layer_layer (r : Router) (inner outer : Layer) :
    (r.layer inner).layer outer = r.layer (outer ∘ inner) := by
  simp only [layer, List.map_map, Function.comp_def]

theorem Router.secure_secure (r : Router) (a b : Chain) :
    (r.secure a).secure b = r.secure (a.append b) := by
  have layers : securityHeaders b ∘ securityHeaders a = securityHeaders (a.append b) := by
    funext service
    exact securityHeaders_securityHeaders a b service
  rw [secure_eq_layer, secure_eq_layer, secure_eq_layer, layer_layer, layers]

end Http

/-- Two chains that run one after the other leave the message that they leave as one chain, and
report the names that it reports; a router secured with one and then the other is secured with the
one chain. After a chain has run, calls of its own writers leave the message alone and report
nothing. -/
theorem Chain.layered_and_settled (a b : Chain) (m : Fields) :
    (b.writeAll (a.writeAll m).1).1 = ((a.append b).writeAll m).1 ∧
    (a.writeAll m).2 ++ (b.writeAll (a.writeAll m).1).2 = ((a.append b).writeAll m).2 ∧
    (∀ r : Http.Router, (r.secure a).secure b = r.secure (a.append b)) ∧
    ∀ ws, (∀ w ∈ ws, w ∈ a.writers) →
      writeEach ws (a.writeAll m).1 = ((a.writeAll m).1, ws.map fun _ => none) := by
  refine ⟨?message, ?names, ?routers, ?calls⟩
  case message => rw [writeAll_append]
  case names => rw [writeAll_append]
  case routers =>
    intro r
    exact r.secure_secure a b
  case calls =>
    intro ws own
    exact writeEach_of_settled fun w member => settled_run (own w member) m

theorem Chain.layered_and_settled_of_shared_name :
    let frame : Name := ⟨"x-frame-options", by decide⟩
    let deny : Writer := .fixed (.single frame ⟨Text.bytes "DENY", by decide⟩)
    let same : Writer := .fixed (.single frame ⟨Text.bytes "SAMEORIGIN", by decide⟩)
    let a : Chain := ⟨[deny, .embedder none]⟩
    let b : Chain := ⟨[same, .referrer none]⟩
    let left := (a.writeAll .empty).1
    (a.writeAll .empty).2 ++ (b.writeAll left).2 = [frame, ReferrerPolicy.name] ∧
      writeEach [.embedder none, deny, deny] left = (left, [none, none, none]) := by
  intro frame deny same a b left
  obtain ⟨-, names, -, calls⟩ := Chain.layered_and_settled a b .empty
  refine ⟨names.trans (by decide), calls _ ?_⟩
  decide

end SecureHeaders
