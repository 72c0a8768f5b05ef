import SecureHeaders.Config.Encode
import SecureHeaders.Config.Load
import SecureHeaders.Proofs.SectionReading
/-!
One spelling for each member of a policy. The wire texts, the words of configuration documents and
what messages show are the same texts, so every reader accepts exactly these, each as its own
member; and a document that has any other text in the place of a policy is no configuration.
-/

namespace SecureHeaders

namespace HeaderPolicy

variable {P : Type} [HeaderPolicy P]

/-- The names of the members are spelled in documents as their values are on the wire, and no two
members alike. -/
structure Consistent (P : Type) [HeaderPolicy P] : Prop where
  token_eq : ∀ p : P, token p = wire p
  apart : ∀ p q : P, wire p = wire q → p = q

theorem find?_wire_eq_some_iff (consistent : Consistent P) {s : String} {p : P} :
    all.find? (fun p : P => wire p == s) = some p ↔ s = wire p := by
  constructor
  · intro found
    have own := List.find?_some found
    exact (eq_of_beq own).symm
  · rintro rfl
    cases found : all.find? fun q : P => wire q == wire p with
    | none =>
        have missed := List.find?_eq_none.1 found p (mem_all p)
        exact absurd (beq_self_eq_true (wire p)) missed
    | some q =>
        have own := List.find?_some found
        rw [consistent.apart q p (eq_of_beq own)]

theorem find?_wire_eq_none_iff {s : String} :
    all.find? (fun p : P => wire p == s) = none ↔ ∀ p : P, s ≠ wire p := by
  rw [List.find?_eq_none]
  constructor
  · intro missed p same
    exact missed p (mem_all p) (beq_iff_eq.2 same.symm)
  · intro none p _ same
    exact none p (eq_of_beq same).symm

theorem parse_eq_ok_iff (consistent : Consistent P) {s : String} {p : P} :
    parse P s = .ok p ↔ s = wire p := by
  rw [← find?_wire_eq_some_iff consistent, parse]
  cases all.find? fun p : P => wire p == s <;> simp

theorem parse_of_unknown {s : String} (unknown : ∀ p : P, s ≠ wire p) :
    parse P s = .error ⟨header P, s⟩ := by
  rw [parse, find?_wire_eq_none_iff.2 unknown]

theorem ofToken?_eq (consistent : Consistent P) (s : String) :
    ofToken? s = all.find? fun p : P => wire p == s := by
  simp only [ofToken?, consistent.token_eq]

theorem tokens_eq (consistent : Consistent P) : tokens P = (all : List P).map wire := by
  simp only [tokens, funext consistent.token_eq]

end HeaderPolicy

namespace Config

open HeaderPolicy (Consistent wire)

variable {P : Type} [HeaderPolicy P]

theorem readPolicy_text (format : Format) (s : String) :
    readPolicy P format (.text s) = readToken P s := by
  cases format <;> rfl

theorem readToken_eq_ok_iff (consistent : Consistent P) {s : String} {p : P} :
    readToken P s = .ok p ↔ s = wire p := by
  rw [← HeaderPolicy.find?_wire_eq_some_iff consistent, readToken,
    HeaderPolicy.ofToken?_eq consistent]
  cases HeaderPolicy.all.find? fun p : P => wire p == s <;> simp

theorem readToken_of_unknown (consistent : Consistent P) {s : String}
    (unknown : ∀ p : P, s ≠ wire p) :
    readToken P s = .error (.unknownVariant s (HeaderPolicy.all.map (wire : P → String))) := by
  rw [readToken, HeaderPolicy.ofToken?_eq consistent,
    HeaderPolicy.find?_wire_eq_none_iff.2 unknown, HeaderPolicy.tokens_eq consistent]

/-- A document that has a text in the place of the policy of a section, under a key of the headers
section. -/
def ChoosesPolicy (P : Type) [HeaderPolicy P] (key s : String) (d : Data) : Prop :=
  ∃ headers policy, Gives fields "headers" headers d ∧ Gives Headers.fields key policy headers ∧
    Gives (PolicySection.fields P) "policy" (.text s) policy

theorem fails_readPolicySection (consistent : Consistent P) {s : String}
    (unknown : ∀ p : P, s ≠ wire p) {policy : Data}
    (gives : Gives (PolicySection.fields P) "policy" (.text s) policy) (format : Format) :
    Fails (readPolicySection P format policy) := by
  have failed : Fails (readPolicy? P format (.text s)) := by
    have bad : Fails (readPolicy P format (.text s)) :=
      ⟨_, (readPolicy_text format s).trans (readToken_of_unknown consistent unknown)⟩
    cases format with
    | json => exact bad.map some
    | toml => exact bad.map some
  have keys : (PolicySection.fields P).map Field.key = ["enabled", "policy"] := rfl
  have distinct : ((PolicySection.fields P).map Field.key).Nodup := by
    rw [keys]
    decide
  exact fails_readSection gives distinct rfl (fun _ => failed.map _) _ _

/-- A policy section that cannot be read is in the way of the whole document. -/
theorem fails_decode {key : String} {f : Field Headers} {format : Format} {headers policy d : Data}
    (found : Headers.fields.find? (fun f => f.key == key) = some f)
    (outer : Gives fields "headers" headers d) (inner : Gives Headers.fields key policy headers)
    (failed : ∀ s, Fails (f.read format policy s)) : Fails (decode format d) := by
  have section_failed : Fails (readSection "HeadersConfig" Headers.fields {} format headers) :=
    fails_readSection inner (by decide) found failed _ _
  exact fails_readSection outer (by decide) rfl (fun _ => section_failed.map _) _ _

theorem parse_of_fails {text : String} {d : Data} (document : Toml.read? text = some d)
    (failed : Fails (decode .toml d)) : ∃ m, parse text = .error (.mismatch m) := by
  obtain ⟨m, bad⟩ := failed
  refine ⟨m, ?_⟩
  rw [parse, document]
  simp only [bad]

end Config

/-- How a policy is spelled wherever it is read or written: `name` is its header and `key` its
section in a configuration. -/
structure HeaderPolicy.SpelledAlike (P : Type) [HeaderPolicy P] (name key : String) : Prop where
  parsed : ∀ (s : String) (p : P), parse P s = .ok p ↔ s = wire p
  read : ∀ format (s : String) (p : P), Config.readPolicy P format (.text s) = .ok p ↔ s = wire p
  shown : ∀ p : P, display p = wire p
  written : ∀ p : P, Config.encodePolicy (some p) = .text (wire p)
  unknown : ∀ s, (∀ p : P, s ≠ wire p) →
    ∃ e, parse P s = .error e ∧ e.header.text = name ∧ e.given = s
  unread : ∀ format s, (∀ p : P, s ≠ wire p) →
    Config.readPolicy P format (.text s) = .error (.unknownVariant s (all.map (wire : P → String)))
  rejected : ∀ format d s, Config.ChoosesPolicy P key s d → (∀ p : P, s ≠ wire p) →
    ∃ m, Config.decode format d = .error m
  notParsed : ∀ text d s, Toml.read? text = some d → Config.ChoosesPolicy P key s d →
    (∀ p : P, s ≠ wire p) → ∃ m, Config.parse text = .error (.mismatch m)

theorem HeaderPolicy.Consistent.spelledAlike {P : Type} [HeaderPolicy P]
    (consistent : Consistent P) {name key : String} (named : (header P).text = name)
    {f : Config.Field Config.Headers}
    (found : Config.Headers.fields.find? (fun f => f.key == key) = some f)
    (own : ∀ format d s, Config.Fails (Config.readPolicySection P format d) →
      Config.Fails (f.read format d s)) : SpelledAlike P name key := by
  have rejected : ∀ format d s, Config.ChoosesPolicy P key s d → (∀ p : P, s ≠ wire p) →
      ∃ m, Config.decode format d = .error m := by
    rintro format d s ⟨headers, policy, outer, inner, text⟩ unknown
    have failed := Config.fails_readPolicySection consistent unknown text format
    exact Config.fails_decode found outer inner fun state => own format policy state failed
  constructor
  case parsed =>
    intro s p
    exact parse_eq_ok_iff consistent
  case read =>
    intro format s p
    rw [Config.readPolicy_text]
    exact Config.readToken_eq_ok_iff consistent
  case shown =>
    intro p
    rfl
  case written =>
    intro p
    rw [Config.encodePolicy, consistent.token_eq]
  case unknown =>
    intro s unknown
    exact ⟨_, parse_of_unknown unknown, named, rfl⟩
  case unread =>
    intro format s unknown
    rw [Config.readPolicy_text]
    exact Config.readToken_of_unknown consistent unknown
  case rejected => exact rejected
  case notParsed =>
    intro text d s document chooses unknown
    exact Config.parse_of_fails document (rejected .toml d s chooses unknown)

theorem EmbedderPolicy.consistent : HeaderPolicy.Consistent EmbedderPolicy where
  token_eq p := by cases p <;> decide
  apart p q := by cases p <;> cases q <;> decide

theorem ReferrerPolicy.consistent : HeaderPolicy.Consistent ReferrerPolicy where
  token_eq p := by cases p <;> decide
  apart p q := by cases p <;> cases q <;> decide

/-- Both policies are read and written by the same texts everywhere, and by no others. -/
theorem policies_spelled_alike :
    HeaderPolicy.SpelledAlike EmbedderPolicy "cross-origin-embedder-policy"
      "cross_origin_embedder_policy" ∧
    HeaderPolicy.SpelledAlike ReferrerPolicy "referrer-policy" "referrer_policy" := by
  constructor
  · refine EmbedderPolicy.consistent.spelledAlike rfl rfl ?_
    intro format d s failed
    exact failed.map _
  · refine ReferrerPolicy.consistent.spelledAlike rfl rfl ?_
    intro format d s failed
    exact failed.map _

/-- The beginning of two members is no member. -/
theorem policies_spelled_alike_of_prefix :
    ∃ m, Config.decode .toml (.map [("headers", .map [("referrer_policy",
      .map [("policy", .text "no-referrer-")])])]) = .error m := by
  have unknown : ∀ p : ReferrerPolicy, "no-referrer-" ≠ HeaderPolicy.wire p := by
    intro p
    cases p <;> decide
  exact policies_spelled_alike.2.rejected .toml _ _ ⟨_, _, .head _, .head _, .head _⟩ unknown

end SecureHeaders
