import SecureHeaders.Config.Schema
import SecureHeaders.Config.Mismatch
/-!
Reading a configuration from a tree of data. A section is a map, or a list of its fields in order;
missing fields keep their defaults, unknown entries are passed over, and the first mismatch in the
order of the tree is reported.
-/

namespace SecureHeaders.Config

abbrev Reading (α : Type) := Except Mismatch α

def readBool : Data → Reading Bool
  | .bool b => .ok b
  | d => .error (.wrongType d.kind "a boolean")

def readText : Data → Reading String
  | .text s => .ok s
  | d => .error (.wrongType d.kind "a string")

/-- An integer that fits an unsigned word of 64 bits. -/
def readWord : Data → Reading UInt64
  | .int n =>
    if 0 ≤ n ∧ n < UInt64.size then .ok (UInt64.ofNat n.toNat)
    else .error (.wrongValue (.int n) "u64")
  | d => .error (.wrongType d.kind "u64")

/-- The readings of the items in order, up to the first mismatch. -/
def readEach {α : Type} (read : Data → Reading α) : List Data → Reading (List α)
  | [] => .ok []
  | d :: rest => do
    let x ← read d
    let xs ← readEach read rest
    .ok (x :: xs)

def readList {α : Type} (read : Data → Reading α) : Data → Reading (List α)
  | .list items | .tables items => readEach read items
  | d => .error (.wrongType d.kind "a sequence")

section
variable {P : Type} [HeaderPolicy P]

def readToken (P : Type) [HeaderPolicy P] (s : String) : Reading P :=
  match HeaderPolicy.ofToken? s with
  | some p => .ok p
  | none => .error (.unknownVariant s (HeaderPolicy.tokens P))

/-- In JSON a member is a text, or a map with the text as its only key and `null` behind it. -/
def readJsonPolicy (P : Type) [HeaderPolicy P] : Data → Reading P
  | .text s => readToken P s
  | .map [(key, d)] => do
    let p ← readToken P key
    match d with
    | .null => .ok p
    | d => .error (.wrongType d.kind "unit")
  | .map _ => .error (.wrongValue .map "map with a single key")
  | d => .error (.wrongType d.kind "string or map")

/-- In TOML a member is a text, or a table with the text as its only key and an empty table or
array behind it. -/
def readTomlPolicy (P : Type) [HeaderPolicy P] : Data → Reading P
  | .text s => readToken P s
  | .map [(key, d)] => do
    let p ← readToken P key
    match d with
    | .map [] | .list [] => .ok p
    | .map _ | .list _ => .error .fullTable
    | .tables _ => .error .fullArray
    | d => .error (.noTable d.typeName)
  | .map entries => .error (.entryCount !entries.isEmpty)
  | _ => .error .noTextOrTable

def readPolicy (P : Type) [HeaderPolicy P] : Format → Data → Reading P
  | .json => readJsonPolicy P
  | .toml => readTomlPolicy P

/-- A policy that may be left undecided; JSON says so with `null`. -/
def readPolicy? (P : Type) [HeaderPolicy P] : Format → Data → Reading (Option P)
  | .json, .null => .ok none
  | format, d => (readPolicy P format d).map some

end

/-- A field of a section under construction. -/
structure Field (σ : Type) where
  key : String
  read : Format → Data → σ → Reading σ

section
variable {σ : Type}

/-- The section after the entries of a map. -/
def readEntries (fields : List (Field σ)) (format : Format) :
    List (String × Data) → σ → Reading σ
  | [], s => .ok s
  | (key, d) :: rest, s =>
    match fields.find? fun f => f.key == key with
    | none => readEntries fields format rest s
    | some f => do
      let s ← f.read format d s
      readEntries fields format rest s

/-- The section after items in the order of its fields; surplus items are not looked at. -/
def readItems (format : Format) : List (Field σ) → List Data → σ → Reading σ
  | f :: fields, d :: rest, s => do
    let s ← f.read format d s
    readItems format fields rest s
  | _, _, s => .ok s

/-- Surplus items are a mismatch in JSON and are passed over in TOML. -/
def checkSurplus (fields : List (Field σ)) (format : Format) (items : List Data) : Reading Unit :=
  if format = .json ∧ fields.length < items.length then
    .error (.wrongLength items.length "fewer elements in array")
  else .ok ()

/-- The section that a tree describes, starting from `start`. -/
def readSection (title : String) (fields : List (Field σ)) (start : σ)
    (format : Format) : Data → Reading σ
  | .map entries => readEntries fields format entries start
  | .moment => .ok start
  | .list items | .tables items => do
    let s ← readItems format fields items start
    checkSurplus fields format items
    .ok s
  | d => .error (.wrongType d.kind ("struct " ++ title))

end

def Listener.fields : List (Field Listener) :=
  [⟨"bind_address", fun _ d s => (readText d).map fun x => { s with bindAddress := x }⟩]

def Timeouts.fields : List (Field Timeouts) :=
  [⟨"request_secs", fun _ d s => (readWord d).map fun x => { s with requestSecs := x }⟩]

def Observability.fields : List (Field Observability) :=
  [⟨"log_level", fun _ d s => (readText d).map fun x => { s with logLevel := x }⟩,
   ⟨"metrics_enabled", fun _ d s => (readBool d).map fun x => { s with metricsEnabled := x }⟩,
   ⟨"metrics_address", fun _ d s => (readText d).map fun x => { s with metricsAddress := x }⟩]

def PolicySection.fields (P : Type) [HeaderPolicy P] : List (Field (PolicySection P)) :=
  [⟨"enabled", fun _ d s => (readBool d).map fun x => { s with enabled := x }⟩,
   ⟨"policy", fun format d s => (readPolicy? P format d).map fun x => { s with policy := x }⟩]

def readPolicySection (P : Type) [HeaderPolicy P] : Format → Data → Reading (PolicySection P) :=
  readSection "PolicySection" (PolicySection.fields P) {}

/-- A custom header under construction: neither of its fields has a default. -/
structure CustomDraft where
  name : Option String := none
  values : Option (List String) := none

def CustomDraft.fields : List (Field CustomDraft) :=
  [⟨"name", fun _ d s => (readText d).map fun x => { s with name := some x }⟩,
   ⟨"values", fun _ d s => (readList readText d).map fun x => { s with values := some x }⟩]

/-- The header of a finished draft. A missing field is named in a map and counted in a list. -/
def CustomDraft.finish (draft : CustomDraft) (d : Data) : Reading CustomHeader :=
  match draft.name, draft.values with
  | some name, some values => .ok ⟨name, values⟩
  | name, _ =>
    match d with
    | .list items | .tables items =>
      .error (.wrongLength items.length "struct StaticHeaderConfig with 2 elements")
    | _ => .error (.missingField (if name.isNone then "name" else "values"))

def readCustom (format : Format) (d : Data) : Reading CustomHeader := do
  let draft ← readSection "StaticHeaderConfig" CustomDraft.fields {} format d
  draft.finish d

def Headers.fields : List (Field Headers) :=
  [⟨"enabled", fun _ d s => (readBool d).map fun x => { s with enabled := x }⟩,
   ⟨"cross_origin_embedder_policy", fun format d s =>
     (readPolicySection EmbedderPolicy format d).map fun x => { s with embedder := x }⟩,
   ⟨"referrer_policy", fun format d s =>
     (readPolicySection ReferrerPolicy format d).map fun x => { s with referrer := x }⟩,
   ⟨"custom", fun format d s =>
     (readList (readCustom format) d).map fun x => { s with custom := x }⟩]

def fields : List (Field Config) :=
  [⟨"listener", fun format d s =>
     (readSection "ListenerConfig" Listener.fields {} format d).map fun x =>
       { s with listener := x }⟩,
   ⟨"timeouts", fun format d s =>
     (readSection "TimeoutConfig" Timeouts.fields {} format d).map fun x =>
       { s with timeouts := x }⟩,
   ⟨"observability", fun format d s =>
     (readSection "ObservabilityConfig" Observability.fields {} format d).map fun x =>
       { s with observability := x }⟩,
   ⟨"headers", fun format d s =>
     (readSection "HeadersConfig" Headers.fields {} format d).map fun x =>
       { s with headers := x }⟩]

/-- The configuration that a tree describes, or the first mismatch. -/
def decode (format : Format) : Data → Reading Config :=
  readSection "GuardConfig" fields {} format

/-- The observability section on its own. -/
def decodeObservability (format : Format) : Data → Reading Observability :=
  readSection "ObservabilityConfig" Observability.fields {} format

end SecureHeaders.Config
