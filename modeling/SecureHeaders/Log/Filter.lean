import SecureHeaders.Config.Schema
import SecureHeaders.Log.Directive
/-!
Filters in front of a log. A filter is written as directives with commas between them. A directive
about spans, or about the values of fields, says nothing of events outside of spans, which all
events here are; every other one is a rule, and of the rules that speak of an event the most
specific decides.
-/

namespace SecureHeaders.Log

/-- Events of the targets that start with `target` and that have all `fields` pass the threshold
or not. -/
structure Rule where
  target : Option String := none
  fields : List String := []
  threshold : Threshold
deriving DecidableEq

namespace Rule

def ofDirective? (d : Directive) : Option Rule :=
  if d.span.isSome || d.fields.any (fun f => f.value.isSome) then none
  else some ⟨d.target, d.fields.map FieldPattern.name, d.threshold⟩

def speaksOf (r : Rule) (e : Event) : Bool :=
  (match r.target with
    | none => true
    | some target => target.toList.isPrefixOf e.target.toList)
  && r.fields.all e.fieldNames.contains

/-- The length of the target; a rule for all targets comes below the others. -/
def reach (r : Rule) : Nat :=
  match r.target with
  | none => 0
  | some target => target.utf8ByteSize + 1

/-- Whether `b` is at least as specific as `a`: the longer target first, then more fields, then
the field names that come later in the alphabet. -/
def atLeast (b a : Rule) : Bool :=
  if a.reach ≠ b.reach then a.reach < b.reach
  else if a.fields.length ≠ b.fields.length then a.fields.length < b.fields.length
  else !(b.fields < a.fields)

end Rule

def commaParts (s : List Char) : List String :=
  ((go s).filter fun part => !part.isEmpty).map String.ofList
where
  go : List Char → List (List Char)
    | [] => [[]]
    | c :: s =>
      if c = ',' then [] :: go s
      else
        match go s with
        | [] => [[c]]
        | part :: rest => (c :: part) :: rest

/-- The directives of a filter; texts that are none are passed over. -/
def directives (s : String) : List Directive :=
  (commaParts s.toList).filterMap fun part => (Directive.ofText part).toOption

def fallback : Rule := { threshold := some .error }

/-- The rules of directives: first those of directives without fields. -/
def rules (ds : List Directive) : List Rule :=
  if ds.isEmpty then [fallback]
  else
    let (plain, others) := ds.partition fun d => d.span.isNone && d.fields.isEmpty
    plain.filterMap Rule.ofDirective? ++ others.filterMap Rule.ofDirective?

/-- The most specific of several rules, of equal ones the last. -/
def mostSpecific (rs : List Rule) : Option Rule :=
  rs.foldl
    (fun best r =>
      match best with
      | some b => if r.atLeast b then some r else best
      | none => some r)
    none

def passes (rs : List Rule) (e : Event) : Bool :=
  match mostSpecific (rs.filter fun r => r.speaksOf e) with
  | some r => r.threshold.passes e.level
  | none => false

/-- The filter of the configured level: it speaks of the program's own targets and of those of the
layers around it. -/
def defaultDirective (c : Config.Observability) : String :=
  "header_guard=" ++ c.logLevel ++ ",tower_http=" ++ c.logLevel

def complaint? (part : String) : Option String :=
  match Directive.ofText part with
  | .ok _ => none
  | .error e => some ("ignoring `" ++ part ++ "`: " ++ e.message ++ "\n")

def render (c : Config.Observability) (events : List Event) : String :=
  let rs := rules (directives (defaultDirective c))
  String.join ((events.filter (passes rs)).map fun e => e.line ++ "\n")

def complaints (c : Config.Observability) : String :=
  String.join ((commaParts (defaultDirective c).toList).filterMap complaint?)

end SecureHeaders.Log
