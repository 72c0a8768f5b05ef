import SecureHeaders.Proofs.EditedDocument
import SecureHeaders.Proofs.PolicySpelling
/-!
Configurations read back from their own documents. What is taken out of the document, in whole
sections or in single fields, is filled in from the default configuration, what is put in under
other keys is passed over, and all else is as it was. The sections are read from the inside out:
`keep present` is a section with its own content in the fields whose keys are in `present` and its
defaults in the others.
-/

namespace SecureHeaders.Config

open Data (Edited Path lost)
open HeaderPolicy (Consistent)

def Listener.keep (c : Listener) (present : String → Bool) : Listener where
  bindAddress := bif present "bind_address" then c.bindAddress else ({} : Listener).bindAddress

def Timeouts.keep (c : Timeouts) (present : String → Bool) : Timeouts where
  requestSecs := bif present "request_secs" then c.requestSecs else ({} : Timeouts).requestSecs

def Observability.keep (c : Observability) (present : String → Bool) : Observability where
  logLevel := bif present "log_level" then c.logLevel else ({} : Observability).logLevel
  metricsEnabled := bif present "metrics_enabled" then c.metricsEnabled
    else ({} : Observability).metricsEnabled
  metricsAddress := bif present "metrics_address" then c.metricsAddress
    else ({} : Observability).metricsAddress

def PolicySection.keep {P : Type} (c : PolicySection P) (present : String → Bool) :
    PolicySection P where
  enabled := bif present "enabled" then c.enabled else ({} : PolicySection P).enabled
  policy := bif present "policy" then c.policy else ({} : PolicySection P).policy

def CustomHeader.keep (c : CustomHeader) (present : String → Bool) : CustomDraft where
  name := bif present "name" then some c.name else none
  values := bif present "values" then some c.values else none

def Headers.keep (c : Headers) (present : String → Bool) : Headers where
  enabled := bif present "enabled" then c.enabled else ({} : Headers).enabled
  embedder := bif present "cross_origin_embedder_policy" then c.embedder
    else ({} : Headers).embedder
  referrer := bif present "referrer_policy" then c.referrer else ({} : Headers).referrer
  custom := bif present "custom" then c.custom else ({} : Headers).custom

def keep (c : Config) (present : String → Bool) : Config where
  listener := bif present "listener" then c.listener else ({} : Config).listener
  timeouts := bif present "timeouts" then c.timeouts else ({} : Config).timeouts
  observability := bif present "observability" then c.observability
    else ({} : Config).observability
  headers := bif present "headers" then c.headers else ({} : Config).headers

section
variable {σ α : Type} {keep : (String → Bool) → σ} {gone : Path → Bool} {key : String}
  {inner : Data} {read : Format → Data → Reading α} {put : α → σ → σ} {x : α}

/-- A field that reads its content on its own and then puts it into the section. -/
theorem restores_of_read
    (reads : ∀ d, Edited (fun path => gone (key :: path)) inner d → read .json d = .ok x)
    (puts : ∀ present, put x (keep present) = keep fun k => present k || k == key) :
    Restores keep gone ⟨key, fun format d s => (read format d).map fun x => put x s⟩
      (key, inner) := by
  refine ⟨rfl, ?_⟩
  intro d edited present
  simp only [reads d edited, Except.map, puts]

theorem restores_leaf (plain : inner.isLeaf = true) (reads : read .json inner = .ok x)
    (puts : ∀ present, put x (keep present) = keep fun k => present k || k == key) :
    Restores keep gone ⟨key, fun format d s => (read format d).map fun x => put x s⟩
      (key, inner) := by
  apply restores_of_read _ puts
  intro d edited
  rw [edited.eq_of_isLeaf plain, reads]

end

variable {gone : Path → Bool} {d : Data}

theorem Listener.byField (c : Listener) : ByField Listener.fields c.keep := by
  intro p q same
  have keys : Listener.fields.map Field.key = ["bind_address"] := rfl
  simp only [keys, List.forall_mem_cons] at same
  simp only [Listener.keep, same]

theorem Listener.restored (c : Listener) (gone : Path → Bool) :
    List.Forall₂ (Restores c.keep gone) Listener.fields
      [("bind_address", .text c.bindAddress)] := by
  refine .cons (restores_leaf rfl rfl fun present => ?_) .nil
  simp [Listener.keep]

theorem Listener.read_of_edited (c : Listener) (edited : Edited gone c.encode d) :
    readSection "ListenerConfig" Listener.fields {} .json d = .ok (c.keep fun key => !gone [key]) :=
  readSection_of_edited c.byField (c.restored gone) edited _

theorem Timeouts.byField (c : Timeouts) : ByField Timeouts.fields c.keep := by
  intro p q same
  have keys : Timeouts.fields.map Field.key = ["request_secs"] := rfl
  simp only [keys, List.forall_mem_cons] at same
  simp only [Timeouts.keep, same]

/-- Every number of the type is read as it was written. -/
theorem readWord_toNat (n : UInt64) : readWord (.int n.toNat) = .ok n := by
  have fits : 0 ≤ (n.toNat : Int) ∧ (n.toNat : Int) < (UInt64.size : Nat) :=
    ⟨Int.natCast_nonneg _, Int.ofNat_lt.2 n.toNat_lt_size⟩
  rw [readWord, if_pos fits, Int.toNat_natCast, UInt64.ofNat_toNat]

theorem Timeouts.restored (c : Timeouts) (gone : Path → Bool) :
    List.Forall₂ (Restores c.keep gone) Timeouts.fields
      [("request_secs", .int c.requestSecs.toNat)] := by
  refine .cons (restores_leaf rfl (readWord_toNat _) fun present => ?_) .nil
  simp [Timeouts.keep]

theorem Timeouts.read_of_edited (c : Timeouts) (edited : Edited gone c.encode d) :
    readSection "TimeoutConfig" Timeouts.fields {} .json d = .ok (c.keep fun key => !gone [key]) :=
  readSection_of_edited c.byField (c.restored gone) edited _

theorem Observability.byField (c : Observability) : ByField Observability.fields c.keep := by
  intro p q same
  have keys : Observability.fields.map Field.key =
    ["log_level", "metrics_enabled", "metrics_address"] := rfl
  simp only [keys, List.forall_mem_cons] at same
  simp only [Observability.keep, same]

theorem Observability.restored (c : Observability) (gone : Path → Bool) :
    List.Forall₂ (Restores c.keep gone) Observability.fields
      [("log_level", .text c.logLevel), ("metrics_enabled", .bool c.metricsEnabled),
        ("metrics_address", .text c.metricsAddress)] := by
  refine .cons ?level (.cons ?enabled (.cons ?address .nil))
  all_goals exact restores_leaf rfl rfl (by simp [Observability.keep])

theorem Observability.read_of_edited (c : Observability) (edited : Edited gone c.encode d) :
    readSection "ObservabilityConfig" Observability.fields {} .json d =
      .ok (c.keep fun key => !gone [key]) :=
  readSection_of_edited c.byField (c.restored gone) edited _

section
variable {P : Type} [HeaderPolicy P]

theorem readPolicy?_encodePolicy (consistent : Consistent P) (policy : Option P) :
    readPolicy? P .json (encodePolicy policy) = .ok policy := by
  cases policy with
  | none => rfl
  | some p =>
      have read : readPolicy P .json (.text (HeaderPolicy.token p)) = .ok p := by
        rw [readPolicy_text, readToken_eq_ok_iff consistent, consistent.token_eq]
      exact congrArg (Except.map some) read

theorem PolicySection.byField (c : PolicySection P) : ByField (PolicySection.fields P) c.keep := by
  intro p q same
  have keys : (PolicySection.fields P).map Field.key = ["enabled", "policy"] := rfl
  simp only [keys, List.forall_mem_cons] at same
  simp only [PolicySection.keep, same]

theorem PolicySection.restored (consistent : Consistent P) (c : PolicySection P)
    (gone : Path → Bool) :
    List.Forall₂ (Restores c.keep gone) (PolicySection.fields P)
      [("enabled", .bool c.enabled), ("policy", encodePolicy c.policy)] := by
  refine .cons ?enabled (.cons ?policy .nil)
  case enabled => exact restores_leaf rfl rfl (by simp [PolicySection.keep])
  case policy =>
    have read := readPolicy?_encodePolicy consistent c.policy
    exact restores_leaf (isLeaf_encodePolicy _) read (by simp [PolicySection.keep])

theorem PolicySection.read_of_edited (consistent : Consistent P) (c : PolicySection P)
    (edited : Edited gone c.encode d) :
    readPolicySection P .json d = .ok (c.keep fun key => !gone [key]) :=
  readSection_of_edited c.byField (c.restored consistent gone) edited _

end

/-- A list is read item by item. -/
theorem readList_of_edited {α : Type} {write : α → Data} {read : Data → Reading α}
    (reads : ∀ x d, Edited (fun _ => false) (write x) d → read d = .ok x) {xs : List α}
    (edited : Edited gone (.list (xs.map write)) d) : readList read d = .ok xs := by
  obtain ⟨items, rfl, inner⟩ := edited.exists_list
  clear edited
  rw [List.forall₂_map_left_iff] at inner
  rw [readList]
  induction inner with
  | nil => rfl
  | cons first _ ih =>
      rw [readEach, reads _ _ first, ih]
      rfl

theorem readText_of_edited (s : String) (d : Data) (edited : Edited gone (.text s) d) :
    readText d = .ok s := by
  rw [edited.eq_of_isLeaf rfl]
  rfl

theorem CustomHeader.byField (c : CustomHeader) : ByField CustomDraft.fields c.keep := by
  intro p q same
  have keys : CustomDraft.fields.map Field.key = ["name", "values"] := rfl
  simp only [keys, List.forall_mem_cons] at same
  simp only [CustomHeader.keep, same]

theorem CustomHeader.restored (c : CustomHeader) (gone : Path → Bool) :
    List.Forall₂ (Restores c.keep gone) CustomDraft.fields
      [("name", .text c.name), ("values", .list (c.values.map Data.text))] := by
  refine .cons ?name (.cons ?values .nil)
  case name => exact restores_leaf rfl rfl (by simp [CustomHeader.keep])
  case values =>
    exact restores_of_read (fun _ => readList_of_edited readText_of_edited)
      (by simp [CustomHeader.keep])

/-- A custom header keeps its name and its values, whatever is put in beside them. -/
theorem readCustom_of_edited (c : CustomHeader) (d : Data)
    (edited : Edited (fun _ => false) c.encode d) : readCustom .json d = .ok c := by
  have read := readSection_of_edited c.byField (c.restored _) edited "StaticHeaderConfig"
  have start : c.keep (fun _ => false) = {} := rfl
  rw [readCustom, ← start, read]
  rfl

/-- The headers section with what is left of the policies in it. -/
def Headers.trimmed (gone : Path → Bool) (c : Headers) : Headers :=
  { c with
    embedder := c.embedder.keep fun key => !gone ["cross_origin_embedder_policy", key]
    referrer := c.referrer.keep fun key => !gone ["referrer_policy", key] }

/-- The configuration with what is left of its sections. -/
def trimmed (gone : Path → Bool) (c : Config) : Config where
  listener := c.listener.keep fun key => !gone ["listener", key]
  timeouts := c.timeouts.keep fun key => !gone ["timeouts", key]
  observability := c.observability.keep fun key => !gone ["observability", key]
  headers := (c.headers.trimmed fun path => gone ("headers" :: path)).keep fun key =>
    !gone ["headers", key]

theorem Headers.byField (c : Headers) : ByField Headers.fields c.keep := by
  intro p q same
  have keys : Headers.fields.map Field.key =
    ["enabled", "cross_origin_embedder_policy", "referrer_policy", "custom"] := rfl
  simp only [keys, List.forall_mem_cons] at same
  simp only [Headers.keep, same]

theorem Headers.restored (c : Headers) (gone : Path → Bool) :
    List.Forall₂ (Restores (c.trimmed gone).keep gone) Headers.fields
      [("enabled", .bool c.enabled), ("cross_origin_embedder_policy", c.embedder.encode),
        ("referrer_policy", c.referrer.encode),
        ("custom", .list (c.custom.map CustomHeader.encode))] := by
  refine .cons ?enabled (.cons ?embedder (.cons ?referrer (.cons ?custom .nil)))
  case enabled => exact restores_leaf rfl rfl (by simp [Headers.keep, Headers.trimmed])
  case embedder =>
    exact restores_of_read (fun _ => c.embedder.read_of_edited EmbedderPolicy.consistent)
      (by simp [Headers.keep, Headers.trimmed])
  case referrer =>
    exact restores_of_read (fun _ => c.referrer.read_of_edited ReferrerPolicy.consistent)
      (by simp [Headers.keep, Headers.trimmed])
  case custom =>
    exact restores_of_read (fun _ => readList_of_edited readCustom_of_edited)
      (by simp [Headers.keep, Headers.trimmed])

theorem Headers.read_of_edited (c : Headers) (edited : Edited gone c.encode d) :
    readSection "HeadersConfig" Headers.fields {} .json d =
      .ok ((c.trimmed gone).keep fun key => !gone [key]) :=
  readSection_of_edited (Headers.byField _) (c.restored gone) edited _

theorem byField (c : Config) : ByField fields c.keep := by
  intro p q same
  have keys : fields.map Field.key = ["listener", "timeouts", "observability", "headers"] := rfl
  simp only [keys, List.forall_mem_cons] at same
  simp only [Config.keep, same]

theorem restored (c : Config) (gone : Path → Bool) :
    List.Forall₂ (Restores (c.trimmed gone).keep gone) fields
      [("listener", c.listener.encode), ("timeouts", c.timeouts.encode),
        ("observability", c.observability.encode), ("headers", c.headers.encode)] := by
  refine .cons ?listener (.cons ?timeouts (.cons ?observability (.cons ?headers .nil)))
  case listener =>
    exact restores_of_read (fun _ => c.listener.read_of_edited)
      (by simp [Config.keep, Config.trimmed])
  case timeouts =>
    exact restores_of_read (fun _ => c.timeouts.read_of_edited)
      (by simp [Config.keep, Config.trimmed])
  case observability =>
    exact restores_of_read (fun _ => c.observability.read_of_edited)
      (by simp [Config.keep, Config.trimmed])
  case headers =>
    exact restores_of_read (fun _ => c.headers.read_of_edited)
      (by simp [Config.keep, Config.trimmed])

theorem decode_of_edited (c : Config) (edited : Edited gone c.encode d) :
    decode .json d = .ok ((c.trimmed gone).keep fun key => !gone [key]) :=
  readSection_of_edited (byField _) (c.restored gone) edited _

/-- A field of a configuration, or its default where its entry is gone, on its own or with a section
around it. -/
def fieldOr {α : Type} (gone : Path → Bool) (c : Config) (path : Path) (field : Config → α) : α :=
  bif lost gone path then field {} else field c

/-- The configuration with the default in every field that is gone. -/
def filled (gone : Path → Bool) (c : Config) : Config where
  listener.bindAddress := c.fieldOr gone ["listener", "bind_address"] (·.listener.bindAddress)
  timeouts.requestSecs := c.fieldOr gone ["timeouts", "request_secs"] (·.timeouts.requestSecs)
  observability.logLevel := c.fieldOr gone ["observability", "log_level"] (·.observability.logLevel)
  observability.metricsEnabled :=
    c.fieldOr gone ["observability", "metrics_enabled"] (·.observability.metricsEnabled)
  observability.metricsAddress :=
    c.fieldOr gone ["observability", "metrics_address"] (·.observability.metricsAddress)
  headers.enabled := c.fieldOr gone ["headers", "enabled"] (·.headers.enabled)
  headers.embedder.enabled :=
    c.fieldOr gone ["headers", "cross_origin_embedder_policy", "enabled"]
      (·.headers.embedder.enabled)
  headers.embedder.policy :=
    c.fieldOr gone ["headers", "cross_origin_embedder_policy", "policy"] (·.headers.embedder.policy)
  headers.referrer.enabled :=
    c.fieldOr gone ["headers", "referrer_policy", "enabled"] (·.headers.referrer.enabled)
  headers.referrer.policy :=
    c.fieldOr gone ["headers", "referrer_policy", "policy"] (·.headers.referrer.policy)
  headers.custom := c.fieldOr gone ["headers", "custom"] (·.headers.custom)

theorem filled_of_nothing (c : Config) : c.filled (fun _ => false) = c := rfl

/-- What is left of a section that is left itself. -/
theorem cond_keep {σ : Type} (keep : (String → Bool) → σ) (start : σ)
    (empty : keep (fun _ => false) = start) (present : String → Bool) (left : Bool) :
    (bif left then keep present else start) = keep fun key => left && present key := by
  cases left with
  | false => exact empty.symm
  | true => rfl

theorem keep_trimmed (c : Config) (gone : Path → Bool) :
    (c.trimmed gone).keep (fun key => !gone [key]) = c.filled gone := by
  simp only [keep, trimmed, cond_keep c.listener.keep {} rfl, cond_keep c.timeouts.keep {} rfl,
    cond_keep c.observability.keep {} rfl, cond_keep (Headers.keep _) {} rfl]
  simp only [Headers.keep, Headers.trimmed, cond_keep c.headers.embedder.keep {} rfl,
    cond_keep c.headers.referrer.keep {} rfl]
  simp only [Listener.keep, Timeouts.keep, Observability.keep, PolicySection.keep, filled, fieldOr,
    lost, ← Bool.not_or, Bool.cond_not, Bool.or_false, Bool.or_assoc]

/-- The defaults fill in what is missing from the document of a configuration, and nothing else: it
is read back as it is, and with entries taken out, in any order and with unknown ones between them,
as the same configuration but for the fields that are gone. -/
theorem edited_document_filled (c : Config) :
    decode .json c.encode = .ok c ∧
      (∀ gone, decode .json (c.encode.without gone) = .ok (c.filled gone)) ∧
      ∀ gone d, Edited gone c.encode d → decode .json d = .ok (c.filled gone) := by
  have read : ∀ gone d, Edited gone c.encode d → decode .json d = .ok (c.filled gone) := by
    intro gone d edited
    rw [decode_of_edited c edited, keep_trimmed]
  refine ⟨?_, ?_, read⟩
  · have whole := read _ _ c.keyed_encode.refl
    rwa [filled_of_nothing] at whole
  · intro gone
    exact read gone _ (c.keyed_encode.edited_without gone)

/-- Only the address of the listener is the default. -/
def strict : Config where
  timeouts.requestSecs := 18446744073709551615
  observability := ⟨"debug", true, "127.0.0.1:9100"⟩
  headers := ⟨false, ⟨false, none⟩, ⟨false, some .sameOrigin⟩, [⟨"x-frame-options", ["DENY", ""]⟩]⟩

/-- A section, a section inside of one and two fields are gone. -/
def cut (path : Path) : Bool :=
  path ∈ [["listener"], ["observability", "log_level"], ["headers", "enabled"],
    ["headers", "referrer_policy"]]

def leftCustom : Data :=
  .map [("name", .text "x-frame-options"), ("note", .null),
    ("values", .list [.text "DENY", .text ""])]

def leftEmbedder : Data := .map [("policy", .null), ("enabled", .bool false)]

def leftObservability : Data :=
  .map [("metrics_enabled", .bool true), ("Log_level", .list []),
    ("metrics_address", .text "127.0.0.1:9100")]

def leftTimeouts : Data := .map [("secs", .map []), ("request_secs", .int 18446744073709551615)]

def leftHeaders : Data :=
  .map [("custom", .list [leftCustom]), ("policy", .text "none"),
    ("cross_origin_embedder_policy", leftEmbedder)]

/-- What is left, in another order, with unknown entries in all maps but one. -/
def leftover : Data :=
  .map [("headers", leftHeaders), ("log_level", .int 3), ("observability", leftObservability),
    ("timeouts", leftTimeouts)]

theorem edited_document_filled_of_leftover :
    Edited cut strict.encode leftover ∧
      decode .json leftover = .ok
        ⟨{}, ⟨18446744073709551615⟩, ⟨"info", true, "127.0.0.1:9100"⟩,
          ⟨true, ⟨false, none⟩, {}, [⟨"x-frame-options", ["DENY", ""]⟩]⟩⟩ := by
  have null (gone : Path → Bool) : Edited gone .null .null := .leaf rfl
  have bool (gone : Path → Bool) (b : Bool) : Edited gone (.bool b) (.bool b) := .leaf rfl
  have int (gone : Path → Bool) (n : Int) : Edited gone (.int n) (.int n) := .leaf rfl
  have text (gone : Path → Bool) (s : String) : Edited gone (.text s) (.text s) := .leaf rfl
  have custom (gone : Path → Bool) :
      Edited gone (.list (strict.headers.custom.map CustomHeader.encode)) (.list [leftCustom]) :=
    .list (.cons (.map (by decide) (by decide) (by simp [text, Edited.list])) .nil)
  have embedder : Edited (fun path => cut ("headers" :: "cross_origin_embedder_policy" :: path))
      strict.headers.embedder.encode leftEmbedder :=
    .map (by decide) (by decide) (by simp [strict, encodePolicy, bool, null])
  have timeouts : Edited (fun path => cut ("timeouts" :: path)) strict.timeouts.encode
      leftTimeouts := .map (by decide) (by decide) (by simp [strict, int])
  have observability : Edited (fun path => cut ("observability" :: path))
      strict.observability.encode leftObservability :=
    .map (by decide) (by decide) (by simp [strict, bool, text])
  have headers : Edited (fun path => cut ("headers" :: path)) strict.headers.encode
      leftHeaders := .map (by decide) (by decide) (by simp [embedder, custom])
  have edited : Edited cut strict.encode leftover :=
    .map (by decide) (by decide) (by simp [timeouts, observability, headers])
  exact ⟨edited, (edited_document_filled strict).2.2 cut leftover edited⟩

end SecureHeaders.Config
