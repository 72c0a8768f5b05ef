import SecureHeaders.Proofs.BareMessage
import SecureHeaders.Proofs.ConfigMeaning
import SecureHeaders.Proofs.LateFaults
import SecureHeaders.Proofs.Served
/-!
The headers that the check command lists beside those on responses. A page that names its own
content type keeps it, and nothing else gets between the two: what the layers and the router fill
in, they fill in only where it is missing.
-/

namespace SecureHeaders

open Config (Content)
open Header (Fields Name Value)

namespace Http

/-- The values of a listed header on the response to a request. Where a page has a content type of
its own, that stands in the place of a listed one. -/
def servedValues (request : Request) (h : Header) : List Value :=
  if h.name = contentType then ((pageType request).map fun type => [type]).getD h.values
  else h.values

theorem servedValues_ne_nil (request : Request) (h : Header) : servedValues request h ≠ [] := by
  unfold servedValues
  split
  · cases pageType request with
    | none => exact h.hasValue
    | some type => exact List.cons_ne_nil _ _
  · exact h.hasValue

theorem values_writeAll_bare {c : Chain} (distinct : (c.headers.map Header.name).Nodup)
    {h : Header} (listed : h ∈ c.headers) (request : Request) :
    (c.writeAll (bare request).headers).1.values h.name = servedValues request h := by
  have own := Chain.firstValues_of_mem distinct listed
  have page := values_bare request h.name
  unfold servedValues
  split at page
  · rename_i typed
    rw [if_pos typed]
    cases type : pageType request with
    | some t =>
        rw [type] at page
        have present : (bare request).headers.contains h.name = true :=
          Fields.contains_iff.2 (page ▸ List.cons_ne_nil _ _)
        exact (Chain.values_writeAll_of_present c present).trans page
    | none =>
        rw [type] at page
        have absent := Fields.contains_eq_false_iff.2 page
        exact (Chain.values_writeAll_of_absent c absent).trans own
  · rename_i other
    have absent := Fields.contains_eq_false_iff.2 page
    rw [if_neg other]
    exact (Chain.values_writeAll_of_absent c absent).trans own

theorem Server.values_answer_of_listed {s : Server}
    (distinct : (s.chain.headers.map Header.name).Nodup) {h : Header}
    (listed : h ∈ s.chain.headers) (fresh : Value) (request : Request) :
    (s.answer fresh request).response.headers.values h.name = servedValues request h := by
  have written := values_writeAll_bare distinct listed request
  have full := servedValues_ne_nil request h
  rw [← written] at full ⊢
  exact values_answer_of_ne_nil full fresh

end Http

namespace Config

/-- A check without faults leaves no name to two headers. -/
theorem Headers.Checked.distinct_declaration {c : Headers} {fixed : List Header}
    (checked : c.Checked fixed) : (c.declaration fixed).Distinct := by
  refine ⟨checked.distinct, ?_, ?_⟩
  · intro _ h member same
    exact (not_mem_managedNames.1 (checked.unmanaged h member)).1 same
  · intro _ h member same
    exact (not_mem_managedNames.1 (checked.unmanaged h member)).2 same

theorem load_of_parse {text : String} {c : Config} (parsed : (parse text).toOption = some c) :
    load (.file (Text.bytes text)) = .ok c := by
  have read : Content.text (.file (Text.bytes text)) = .ok text := by
    rw [Content.text, Text.ofBytes?_bytes]
  rw [load, read]
  change parse text = .ok c
  cases outcome : parse text with
  | error e =>
      rw [outcome] at parsed
      cases parsed
  | ok c' =>
      rw [outcome] at parsed
      cases parsed
      rfl

end Config

/-- What the check command lists is on every response as listed, a content type aside that the page
has of its own. -/
theorem listed_headers_served (content : Content) (c : Config)
    (loaded : Config.load content = .ok c) :
    ∃ s listed, Http.Server.ofConfig c = .ok s ∧
      Cli.listHeaders (some content) = .ok listed ∧
      (∀ json, Cli.check (some content) json =
        { exit := 0, stdout := Cli.listing json listed }) ∧
      ∀ fresh request, ∀ h ∈ listed,
        (s.answer fresh request).response.headers.values h.name =
          Http.servedValues request h := by
  obtain ⟨fixed, checked, made⟩ :=
    Http.Server.ofConfig_of_faults_eq_nil (Config.faults_of_load loaded)
  have listing :=
    Cli.listHeaders_of_load loaded (Config.Headers.declare_of_read checked.read)
  refine ⟨_, _, made, listing, ?check, ?served⟩
  case check =>
    intro json
    rw [Cli.check, listing]
  case served =>
    intro fresh request h member
    have distinct := Declaration.nodup_names_build.2 (Or.inr checked.distinct_declaration)
    exact Http.Server.values_answer_of_listed distinct member fresh request

theorem listed_headers_served_of_content_type :
    let text := "[[headers.custom]]\nname = \"Vary\"\nvalues = [\"a\", \"b\"]\n" ++
      "[[headers.custom]]\nname = \"content-TYPE\"\nvalues = [\"text/html\"]\n"
    let c : Config := { headers := {
      custom := [⟨"Vary", ["a", "b"]⟩, ⟨"content-TYPE", ["text/html"]⟩] } }
    Config.load (.file (Text.bytes text)) = .ok c ∧
      ∃ s listed, Http.Server.ofConfig c = .ok s ∧
        Cli.listHeaders (some (.file (Text.bytes text))) = .ok listed ∧
        (∀ json, Cli.check (some (.file (Text.bytes text))) json =
          { exit := 0, stdout := Cli.listing json listed }) ∧
        ∀ fresh request, ∀ h ∈ listed,
          (s.answer fresh request).response.headers.values h.name =
            Http.servedValues request h := by
  intro text c
  have loaded : Config.load (.file (Text.bytes text)) = .ok c :=
    Config.load_of_parse (by decide +kernel)
  exact ⟨loaded, listed_headers_served _ _ loaded⟩

/-- A content type that is listed, and that the index page does not have. -/
theorem listed_content_type_not_served :
    let content : Content := .file (Text.bytes
      "[[headers.custom]]\nname = \"Content-Type\"\nvalues = [\"text/html\"]\n")
    let c : Config := { headers := { custom := [⟨"Content-Type", ["text/html"]⟩] } }
    let type : Header := .single Http.contentType ⟨Text.bytes "text/html", by decide⟩
    Config.load content = .ok c ∧ ∃ s listed, Http.Server.ofConfig c = .ok s ∧
      Cli.listHeaders (some content) = .ok listed ∧ type ∈ listed ∧
      ∀ fresh, (s.answer fresh { target := "/" }).response.headers.values type.name ≠
        type.values := by
  intro content c type
  have loaded : Config.load content = .ok c := Config.load_of_parse (by decide +kernel)
  obtain ⟨fixed, checked, made⟩ :=
    Http.Server.ofConfig_of_faults_eq_nil (Config.faults_of_load loaded)
  have listing :=
    Cli.listHeaders_of_load loaded (Config.Headers.declare_of_read checked.read)
  have read : Config.CustomHeader.header ⟨"Content-Type", ["text/html"]⟩ = .ok type :=
    Header.ofText_eq_ok_iff.2 (by decide)
  have custom : type ∈ fixed := by
    obtain ⟨h, member, same⟩ := Config.header_of_mem checked.read List.mem_cons_self
    rw [read, Except.ok.injEq] at same
    exact same ▸ member
  have listed : type ∈ (c.headers.declaration fixed).build.headers := by
    rw [Config.Headers.headers_of_enabled rfl]
    exact List.mem_append_right _ custom
  refine ⟨loaded, _, _, made, listing, listed, ?_⟩
  intro fresh
  have distinct := Declaration.nodup_names_build.2 (Or.inr checked.distinct_declaration)
  rw [Http.Server.values_answer_of_listed distinct listed fresh { target := "/" }]
  decide

end SecureHeaders
