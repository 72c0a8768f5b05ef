import SecureHeaders.Header.Basic
import SecureHeaders.Text.Basic
/-!
Policies: closed sets of values for one response header. A policy knows the header that carries
it, the member that stands in when none is chosen, and the wire text of each member. There are two:
that of `cross-origin-embedder-policy` has no fallback, so that undecided the header is left out;
under an undecided policy of `referrer-policy` no referrer is sent.
-/

namespace SecureHeaders

open Header (Name Value)

class HeaderPolicy (P : Type) where
  header : Name
  /-- What an undecided policy means; `none` leaves the header out. -/
  fallback : Option P
  all : List P
  mem_all : ∀ p : P, p ∈ all
  wire : P → String
  wire_valid : ∀ p : P, (Text.bytes (wire p)).all Header.isValueByte = true
  /-- The name of the member. -/
  label : P → String

structure UnknownPolicy where
  header : Name
  given : String
deriving DecidableEq

def UnknownPolicy.message (e : UnknownPolicy) : String :=
  "unknown " ++ e.header.text ++ " policy: " ++ Text.quoted e.given

namespace HeaderPolicy

variable {P : Type} [HeaderPolicy P]

def parse (P : Type) [HeaderPolicy P] (s : String) : Except UnknownPolicy P :=
  match (all : List P).find? fun p => wire p == s with
  | some p => .ok p
  | none => .error ⟨header P, s⟩

def display (p : P) : String := wire p

/-- The member's word in a configuration document: its name in kebab case. -/
def token (p : P) : String := Text.kebab (label p)

def tokens (P : Type) [HeaderPolicy P] : List String := (all : List P).map token

def ofToken? (s : String) : Option P := all.find? fun p => token p == s

def value (p : P) : Value := ⟨Text.bytes (wire p), wire_valid p⟩

/-- The header of a policy: the chosen member's, or the fallback's. -/
def compute (policy : Option P) : Option Header :=
  (policy.or fallback).map fun p => Header.single (header P) (value p)

end HeaderPolicy

inductive EmbedderPolicy where
  | unsafeNone
  | requireCorp
  | credentialless
deriving DecidableEq

namespace EmbedderPolicy

def name : Header.Name := ⟨"cross-origin-embedder-policy", by decide⟩

def wire : EmbedderPolicy → String
  | unsafeNone => "unsafe-none"
  | requireCorp => "require-corp"
  | credentialless => "credentialless"

def label : EmbedderPolicy → String
  | unsafeNone => "UnsafeNone"
  | requireCorp => "RequireCorp"
  | credentialless => "Credentialless"

instance : HeaderPolicy EmbedderPolicy where
  header := name
  fallback := none
  all := [unsafeNone, requireCorp, credentialless]
  mem_all p := by cases p <;> decide
  wire := wire
  wire_valid p := by cases p <;> decide
  label := label

end EmbedderPolicy

inductive ReferrerPolicy where
  | noReferrer
  | noReferrerWhenDowngrade
  | sameOrigin
  | origin
  | strictOrigin
  | originWhenCrossOrigin
  | strictOriginWhenCrossOrigin
  | unsafeUrl
deriving DecidableEq

namespace ReferrerPolicy

def name : Header.Name := ⟨"referrer-policy", by decide⟩

def wire : ReferrerPolicy → String
  | noReferrer => "no-referrer"
  | noReferrerWhenDowngrade => "no-referrer-when-downgrade"
  | sameOrigin => "same-origin"
  | origin => "origin"
  | strictOrigin => "strict-origin"
  | originWhenCrossOrigin => "origin-when-cross-origin"
  | strictOriginWhenCrossOrigin => "strict-origin-when-cross-origin"
  | unsafeUrl => "unsafe-url"

def label : ReferrerPolicy → String
  | noReferrer => "NoReferrer"
  | noReferrerWhenDowngrade => "NoReferrerWhenDowngrade"
  | sameOrigin => "SameOrigin"
  | origin => "Origin"
  | strictOrigin => "StrictOrigin"
  | originWhenCrossOrigin => "OriginWhenCrossOrigin"
  | strictOriginWhenCrossOrigin => "StrictOriginWhenCrossOrigin"
  | unsafeUrl => "UnsafeUrl"

instance : HeaderPolicy ReferrerPolicy where
  header := name
  fallback := some noReferrer
  all := [noReferrer, noReferrerWhenDowngrade, sameOrigin, origin, strictOrigin,
    originWhenCrossOrigin, strictOriginWhenCrossOrigin, unsafeUrl]
  mem_all p := by cases p <;> decide
  wire := wire
  wire_valid p := by cases p <;> decide
  label := label

end ReferrerPolicy

end SecureHeaders
