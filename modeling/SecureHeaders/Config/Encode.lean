import SecureHeaders.Config.Schema
import SecureHeaders.Data
/-!
Writing a configuration as a tree of data, with every field present and an undecided policy as
`null`. No map of the tree has a key twice.
-/

namespace SecureHeaders

open Data (Keyed)

namespace Config

def Listener.encode (c : Listener) : Data :=
  .map [("bind_address", .text c.bindAddress)]

def Timeouts.encode (c : Timeouts) : Data :=
  .map [("request_secs", .int c.requestSecs.toNat)]

def Observability.encode (c : Observability) : Data :=
  .map [("log_level", .text c.logLevel), ("metrics_enabled", .bool c.metricsEnabled),
    ("metrics_address", .text c.metricsAddress)]

def encodePolicy {P : Type} [HeaderPolicy P] : Option P → Data
  | none => .null
  | some p => .text (HeaderPolicy.token p)

def PolicySection.encode {P : Type} [HeaderPolicy P] (c : PolicySection P) : Data :=
  .map [("enabled", .bool c.enabled), ("policy", encodePolicy c.policy)]

def CustomHeader.encode (c : CustomHeader) : Data :=
  .map [("name", .text c.name), ("values", .list (c.values.map Data.text))]

def Headers.encode (c : Headers) : Data :=
  .map [("enabled", .bool c.enabled), ("cross_origin_embedder_policy", c.embedder.encode),
    ("referrer_policy", c.referrer.encode), ("custom", .list (c.custom.map CustomHeader.encode))]

theorem isLeaf_encodePolicy {P : Type} [HeaderPolicy P] (policy : Option P) :
    (encodePolicy policy).isLeaf = true := by
  cases policy with
  | none => rfl
  | some p => rfl

theorem PolicySection.keyed_encode {P : Type} [HeaderPolicy P] (c : PolicySection P) :
    Keyed c.encode := by
  apply Data.keyed_of_leaves (by simp)
  simp only [List.forall_mem_cons]
  exact ⟨rfl, isLeaf_encodePolicy _, List.forall_mem_nil _⟩

theorem CustomHeader.keyed_encode (c : CustomHeader) : Keyed c.encode := by
  refine .map (by simp) ?_
  simp only [List.forall_mem_cons]
  exact ⟨.leaf rfl, Data.keyed_map fun _ => .leaf rfl, List.forall_mem_nil _⟩

theorem Headers.keyed_encode (c : Headers) : Keyed c.encode := by
  refine .map (by simp) ?_
  simp only [List.forall_mem_cons]
  exact ⟨.leaf rfl, c.embedder.keyed_encode, c.referrer.keyed_encode,
    Data.keyed_map CustomHeader.keyed_encode, List.forall_mem_nil _⟩

end Config

def Config.encode (c : Config) : Data :=
  .map [("listener", c.listener.encode), ("timeouts", c.timeouts.encode),
    ("observability", c.observability.encode), ("headers", c.headers.encode)]

theorem Config.keyed_encode (c : Config) : Keyed c.encode := by
  refine .map (by simp) ?_
  simp only [List.forall_mem_cons]
  refine ⟨?listener, ?timeouts, ?observability, c.headers.keyed_encode, List.forall_mem_nil _⟩
  all_goals
    apply Data.keyed_of_leaves (by simp)
    simp [Data.isLeaf]

end SecureHeaders
