import SecureHeaders.Cli.Serve
import SecureHeaders.Net.AddressReader
/-!
The program: what arguments come to, given what stands at each path and the machine. The arguments
are a subcommand, then its options in any order, each at most once; the value of an option is the
next argument, or stands in the same one.
-/

namespace SecureHeaders.Cli

open Config (Content)
open Net (SocketAddress)

inductive Command where
  | serve (config : Option String) (bind : Option SocketAddress)
  | check (config : Option String) (json : Bool)
deriving DecidableEq

inductive Request where
  | run (command : Command)
  | help
  | misuse
deriving DecidableEq

structure Options where
  config : Option String := none
  bind : Option SocketAddress := none
  json : Bool := false

/-- The subcommands; each knows its own options. -/
inductive Subcommand where
  | serve
  | check
deriving DecidableEq

inductive ValueOption where
  | config
  | bind
deriving DecidableEq

/-- An argument that can only be a value: one without a dash in front, or a lone dash. -/
def isValue (arg : String) : Bool :=
  match arg.toList with
  | '-' :: _ :: _ => false
  | _ => true

/-- Sets an option to a value. A repeated option, an empty path and a text that is no address do
not fit. -/
def setOption (o : Options) (option : ValueOption) (value : String) : Option Options :=
  match option with
  | .config =>
    if o.config.isSome || value.isEmpty then none else some { o with config := some value }
  | .bind =>
    if o.bind.isSome then none
    else (SocketAddress.parse? value).map fun address => { o with bind := some address }

def longOption? (sub : Subcommand) (name : List Char) : Option ValueOption :=
  if name = "config".toList then some .config
  else if name = "bind".toList ∧ sub = .serve then some .bind
  else none

def shortOption? (sub : Subcommand) (c : Char) : Option ValueOption :=
  if c = 'c' then some .config
  else if c = 'b' ∧ sub = .serve then some .bind
  else none

inductive Argument where
  | assigned (option : ValueOption) (value : String)
  /-- An option whose value is the next argument. -/
  | awaiting (option : ValueOption)
  | json
  | help
  | done
  | unknown
deriving DecidableEq

def argument (sub : Subcommand) (arg : String) : Argument :=
  match arg.toList with
  | ['-', '-'] => .done
  | '-' :: '-' :: s =>
    let name := s.takeWhile fun c => c ≠ '='
    match s.dropWhile fun c => c ≠ '=' with
    | '=' :: value =>
      match longOption? sub name with
      | some option => .assigned option (String.ofList value)
      | none => .unknown
    | _ =>
      if name = "json".toList ∧ sub = .check then .json
      else if name = "help".toList then .help
      else
        match longOption? sub name with
        | some option => .awaiting option
        | none => .unknown
  | ['-', c] =>
    if c = 'h' then .help
    else
      match shortOption? sub c with
      | some option => .awaiting option
      | none => .unknown
  | '-' :: c :: s =>
    if c = 'h' then .help
    else
      match shortOption? sub c with
      | some option =>
        .assigned option (String.ofList (match s with | '=' :: value => value | s => s))
      | none => .unknown
  | _ => .unknown

def Options.command (o : Options) : Subcommand → Command
  | .serve => .serve o.config o.bind
  | .check => .check o.config o.json

def options (sub : Subcommand) (o : Options) : List String → Request
  | [] => .run (o.command sub)
  | [arg] =>
    match argument sub arg with
    | .assigned option value =>
      match setOption o option value with
      | some o => .run (o.command sub)
      | none => .misuse
    | .json => if o.json then .misuse else .run ({ o with json := true }.command sub)
    | .help => .help
    | .done => .run (o.command sub)
    | .awaiting _ | .unknown => .misuse
  | arg :: value :: rest =>
    match argument sub arg with
    | .assigned option value' =>
      match setOption o option value' with
      | some o => options sub o (value :: rest)
      | none => .misuse
    | .awaiting option =>
      if isValue value then
        match setOption o option value with
        | some o => options sub o rest
        | none => .misuse
      else .misuse
    | .json => if o.json then .misuse else options sub { o with json := true } (value :: rest)
    | .help => .help
    | .done | .unknown => .misuse

/-- Help on a subcommand, or on help itself. -/
def helpOn : List String → Request
  | [] | ["serve"] | ["check"] | ["help"] => .help
  | _ => .misuse

def asksForHelp (arg : String) : Bool :=
  match arg.toList with
  | '-' :: 'h' :: _ => true
  | _ => arg = "--help"

def request : List String → Request
  | [] => .misuse
  | "serve" :: rest => options .serve {} rest
  | "check" :: rest => options .check {} rest
  | "help" :: rest => helpOn rest
  | first :: _ => if asksForHelp first then .help else .misuse

def usage : String :=
  "Usage: header-guard serve [-c PATH] [-b ADDRESS]\n" ++
  "       header-guard check [-c PATH] [--json]\n"

def misuseExit : Nat := 2

def program (host : Host) (contentAt : String → Content) (args : List String) : Outcome :=
  match request args with
  | .misuse => .finished { exit := misuseExit, stderr := usage }
  | .help => .finished { exit := 0, stdout := usage }
  | .run (.check config json) => .finished (check (config.map contentAt) json)
  | .run (.serve config bind) => serve host (config.map contentAt) bind

/-- The path of the configuration file that arguments name, if they name one. -/
def configPath? (args : List String) : Option String :=
  match request args with
  | .run (.check config _) | .run (.serve config _) => config
  | _ => none

end SecureHeaders.Cli
