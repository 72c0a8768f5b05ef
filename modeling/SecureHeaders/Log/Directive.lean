import SecureHeaders.Log.Basic
import SecureHeaders.Log.Pattern.Support
import SecureHeaders.Text.Basic
/-!
Directives of a log filter. One has the form `target[span{field=value}]=level`, where parts may be
missing: a level alone speaks of all targets, and without a level everything passes. The blanks
around a directive are not read, but they stay part of the names that are cut out of it.
-/

namespace SecureHeaders.Log

inductive DirectiveError where
  | malformed
  | unknownLevel
  | pattern (fault : Pattern.Fault)
deriving DecidableEq

def DirectiveError.message : DirectiveError → String
  | .malformed => "invalid filter directive"
  | .unknownLevel =>
    "error parsing level filter: expected one of \"off\", \"error\", \"warn\", \"info\", "
      ++ "\"debug\", \"trace\", or a number 0-5"
  | .pattern fault => "invalid field filter: " ++ fault.message

/-- A field that must be there, or that must have a value. -/
structure FieldPattern where
  name : String
  value : Option String
deriving DecidableEq

structure Directive where
  threshold : Threshold := some .trace
  target : Option String := none
  span : Option String := none
  fields : List FieldPattern := []
deriving DecidableEq

def levelNumber? (s : List Char) : Option Nat :=
  let digits := match s with
    | '+' :: rest => rest
    | _ => s
  if digits.isEmpty || !digits.all Char.isDigit then none
  else some (digits.foldl (fun n c => n * 10 + (c.toNat - 0x30)) 0)

def thresholdOfNumber? : Nat → Option Threshold
  | 0 => some none
  | 1 => some (some .error)
  | 2 => some (some .warn)
  | 3 => some (some .info)
  | 4 => some (some .debug)
  | 5 => some (some .trace)
  | _ => none

def threshold? (s : String) : Option Threshold :=
  match levelNumber? s.toList with
  | some n => thresholdOfNumber? n
  | none =>
    match s.toLower with
    | "off" => some none
    | "error" => some (some .error)
    | "warn" => some (some .warn)
    | "info" => some (some .info)
    | "debug" => some (some .debug)
    | "trace" => some (some .trace)
    | _ => none

/-- The threshold after an equals sign; with nothing there everything passes. -/
def assignedThreshold (s : String) : Except DirectiveError Threshold :=
  if s = "" then .ok (some .trace)
  else
    match threshold? s with
    | some threshold => .ok threshold
    | none => .error .unknownLevel

def digits (s : List Char) : List Char × List Char :=
  (s.takeWhile Char.isDigit, s.dropWhile Char.isDigit)

def isExponent : List Char → Bool
  | [] => true
  | c :: s =>
    let s := match s with
      | '+' :: rest | '-' :: rest => rest
      | s => s
    (c = 'e' || c = 'E') && !s.isEmpty && s.all Char.isDigit

/-- A number without a sign: a word for one that is not finite, or digits, of which some may stand
behind a point. -/
def isMagnitude (s : List Char) : Bool :=
  if ["inf", "infinity", "nan"].contains (String.ofList s).toLower then true
  else
    let (whole, s) := digits s
    let (fraction, s) := match s with
      | '.' :: rest => digits rest
      | s => ([], s)
    !(whole.isEmpty && fraction.isEmpty) && isExponent s

def isNumber : List Char → Bool
  | '+' :: s | '-' :: s => isMagnitude s
  | s => isMagnitude s

def valueFault? (s : List Char) : Option Pattern.Fault :=
  if isNumber s then none else Pattern.fault? s

/-- A field, up to its equals sign, and its value, up to the next one. -/
def fieldPattern (s : String) : Except DirectiveError FieldPattern :=
  let isName (c : Char) : Bool := c ≠ '='
  let name := String.ofList (s.toList.takeWhile isName)
  match s.toList.dropWhile isName with
  | [] => .ok ⟨name, none⟩
  | _ :: rest =>
    let value := rest.takeWhile isName
    match valueFault? value with
    | some fault => .error (.pattern fault)
    | none => .ok ⟨name, some (String.ofList value)⟩

/-- Where in a directive the reader stands, with the position at which the part began. -/
inductive Place where
  | word
  | span (start : Nat)
  | field (start : Nat)
  | afterFields
  | afterSpan
  | level (start : Nat)
deriving DecidableEq

/-- The part of a text between two positions, counted in bytes. -/
def cut (s : Text.Bytes) (start stop : Nat) : String :=
  (Text.ofBytes? ((s.take stop).drop start)).getD ""

def opening (c : Char) : Except DirectiveError Place :=
  if c = '[' then .ok (.span 1)
  else if c = '-' ∨ c = ':' ∨ c = '_' ∨ Text.isAlphanumeric c then .ok .word
  else .error .malformed

def readChar (part : Nat → Nat → String) (i : Nat) (c : Char) (d : Directive) :
    Place → Except DirectiveError (Place × Directive)
  | .word =>
    if c = '=' then .ok (.level (i + 1), { d with target := some (part 0 i) })
    else if c = '[' then .ok (.span (i + 1), { d with target := some (part 0 i) })
    else .ok (.word, d)
  | .span start =>
    if c = ']' then .ok (.afterSpan, { d with span := some (part start i) })
    else if c = '\x7b' then
      let name := part start i
      .ok (.field (i + 1), { d with span := if name = "" then none else some name })
    else .ok (.span start, d)
  | .field start =>
    if c = '\x7d' then
      let field := part start i
      if field = "" then .error .malformed
      else do
        let pattern ← fieldPattern field
        .ok (.afterFields, { d with fields := d.fields ++ [pattern] })
    else .ok (.field start, d)
  | .afterFields => if c = ']' then .ok (.afterSpan, d) else .error .malformed
  | .afterSpan =>
    if c = '=' then .ok (.level (i + 1), d) else .error .malformed
  | .level start => .ok (.level start, d)

def readChars (part : Nat → Nat → String) :
    Nat → List Char → Place → Directive → Except DirectiveError (Place × Directive)
  | _, [], place, d => .ok (place, d)
  | i, c :: rest, place, d => do
    let (place, d) ← readChar part i c d place
    readChars part (i + c.utf8Size) rest place d

/-- The directive when nothing is left to read. A word alone is a level if it names one, else a
target. -/
def finish (tail : Nat → String) (d : Directive) : Place → Except DirectiveError Directive
  | .word =>
    match threshold? (tail 0) with
    | some threshold => .ok { d with threshold }
    | none => .ok { d with target := some (tail 0) }
  | .level start => do
    let threshold ← assignedThreshold (tail start)
    .ok { d with threshold }
  | .afterSpan => .ok d
  | .span _ | .field _ | .afterFields => .error .malformed

/-- The directive that a text spells. Positions are counted without the blanks in front of it, and
the parts are cut out of the whole text. -/
def Directive.ofText (s : String) : Except DirectiveError Directive := do
  let bytes := Text.bytes s
  match Text.trim s.toList with
  | [] => .error .malformed
  | c :: rest =>
    let place ← opening c
    let (place, d) ← readChars (cut bytes) c.utf8Size rest place {}
    finish (fun start => cut bytes start bytes.length) d place

end SecureHeaders.Log
