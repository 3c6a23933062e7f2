import ArtifactPipeline.Log.Level
import ArtifactPipeline.Text.Basic

set_option autoImplicit false

namespace ArtifactPipeline

structure CommandLine where
  config : String := "Pipeline.toml"
  groups : List String := []
  list : Bool := false
  dryRun : Bool := false
  jobs : Option Nat := none
  onlyPublic : Bool := false
  queries : Option Nat := none
  logLevel : Option LogLevel := none
  targets : List String := []
  deriving DecidableEq, Repr

namespace CommandLine

inductive Refusal where
  | unknownArgument
  | invalidValue
  | valueValidation
  | argumentConflict
  | tooManyValues
  | helpRequested
  | versionRequested
  deriving DecidableEq, Repr

inductive Switch where
  | list
  | dryRun
  | onlyPublic
  | help
  | version
  deriving DecidableEq, Repr

inductive ValueKey where
  | config
  | group
  | jobs
  | queries
  | logLevel
  deriving DecidableEq, Repr

inductive Key where
  | switch (switch : Switch)
  | option (option : ValueKey)
  deriving DecidableEq, Repr

def longNames : List (String × Key) := [
  ("config", .option .config), ("group", .option .group), ("list", .switch .list),
  ("dry-run", .switch .dryRun), ("jobs", .option .jobs), ("only-public", .switch .onlyPublic),
  ("queries", .option .queries), ("log-level", .option .logLevel), ("help", .switch .help),
  ("version", .switch .version)
]

def shortNames : List (Char × Key) := [
  ('c', .option .config), ('g', .option .group), ('n', .switch .dryRun), ('j', .option .jobs),
  ('h', .switch .help), ('V', .switch .version)
]

structure Pending where
  option : ValueKey
  value : Option String
  deriving DecidableEq, Repr

structure Reading where
  line : CommandLine := {}
  given : List Key := []
  pending : Option Pending := none

def store (line : CommandLine) (option : ValueKey) (value : String) :
    Except Refusal CommandLine :=
  match option with
  | .config => .ok { line with config := value }
  | .group => .ok { line with groups := line.groups ++ [value] }
  | .jobs =>
      match Text.readWord value with
      | some jobs => .ok { line with jobs := some jobs }
      | none => .error .valueValidation
  | .queries =>
      match Text.readWord value with
      | some queries => .ok { line with queries := some queries }
      | none => .error .valueValidation
  | .logLevel =>
      match LogLevel.named? value with
      | some level => .ok { line with logLevel := some level }
      | none => .error .invalidValue

namespace Reading

def claim (reading : Reading) (key : Key) : Except Refusal Reading :=
  if key = .option .group then .ok reading
  else if key ∈ reading.given then .error .argumentConflict
  else .ok { reading with given := key :: reading.given }

def take (reading : Reading) (option : ValueKey) (value : String) : Except Refusal Reading :=
  match reading.claim (.option option) with
  | .error refusal => .error refusal
  | .ok reading =>
      match store reading.line option value with
      | .error refusal => .error refusal
      | .ok line => .ok { reading with line }

def settle (reading : Reading) : Except Refusal Reading :=
  match reading.pending with
  | none => .ok reading
  | some ⟨_, none⟩ => .error .invalidValue
  | some ⟨option, some value⟩ => ({ reading with pending := none } : Reading).take option value

def defer (reading : Reading) (option : ValueKey) (value : Option String) :
    Except Refusal Reading :=
  match reading.settle with
  | .error refusal => .error refusal
  | .ok reading => .ok { reading with pending := some ⟨option, value⟩ }

def takeAttached (reading : Reading) (option : ValueKey) (value : String) :
    Except Refusal Reading :=
  match reading.settle with
  | .error refusal => .error refusal
  | .ok reading => reading.take option value

def flip (line : CommandLine) : Switch → CommandLine
  | .list => { line with list := true }
  | .dryRun => { line with dryRun := true }
  | .onlyPublic => { line with onlyPublic := true }
  | .help | .version => line

def takeSwitch (reading : Reading) (switch : Switch) : Except Refusal Reading :=
  match reading.settle with
  | .error refusal => .error refusal
  | .ok reading =>
      match switch with
      | .help => .error .helpRequested
      | .version => .error .versionRequested
      | switch =>
          match reading.claim (.switch switch) with
          | .error refusal => .error refusal
          | .ok reading => .ok { reading with line := flip reading.line switch }

def addTarget (reading : Reading) (target : String) : Except Refusal Reading :=
  match reading.settle with
  | .error refusal => .error refusal
  | .ok reading =>
      .ok { reading with
        line := { reading.line with targets := reading.line.targets ++ [target] } }

def splitValue (text : List Char) : List Char × Option (List Char) :=
  match text.dropWhile fun c => c != '=' with
  | [] => (text, none)
  | _ :: value => (text.takeWhile fun c => c != '=', some value)

def long (reading : Reading) (text : List Char) : Except Refusal Reading :=
  let (name, value) := splitValue text
  match longNames.lookup (String.ofList name), value with
  | none, _ => .error .unknownArgument
  | some (.switch switch), none => reading.takeSwitch switch
  | some (.switch _), some _ => .error .tooManyValues
  | some (.option option), none => reading.defer option none
  | some (.option option), some value => reading.takeAttached option (String.ofList value)

def short (reading : Reading) : List Char → Except Refusal Reading
  | [] => .ok reading
  | c :: rest =>
      match shortNames.lookup c with
      | none => .error .unknownArgument
      | some (.switch switch) =>
          match reading.takeSwitch switch with
          | .error refusal => .error refusal
          | .ok reading => reading.short rest
      | some (.option option) =>
          match rest with
          | [] => reading.defer option none
          | '=' :: value => reading.takeAttached option (String.ofList value)
          | value => reading.takeAttached option (String.ofList value)

def word (reading : Reading) (text : String) : Except Refusal Reading :=
  match reading.pending with
  | some ⟨option, none⟩ => .ok { reading with pending := some ⟨option, some text⟩ }
  | _ => reading.addTarget text

def argument (reading : Reading) (text : String) : Except Refusal Reading :=
  match text.toList with
  | '-' :: '-' :: name => reading.long name
  | '-' :: c :: rest => reading.short (c :: rest)
  | _ => reading.word text

def targets (reading : Reading) : List String → Except Refusal Reading
  | [] => .ok reading
  | text :: rest =>
      match reading.addTarget text with
      | .ok reading => reading.targets rest
      | .error refusal => .error refusal

def arguments (reading : Reading) : List String → Except Refusal Reading
  | [] => .ok reading
  | text :: rest =>
      if text = "--" then reading.targets rest
      else
        match reading.argument text with
        | .ok reading => reading.arguments rest
        | .error refusal => .error refusal

end Reading

def read (args : List String) : Except Refusal CommandLine :=
  match ({} : Reading).arguments args with
  | .error refusal => .error refusal
  | .ok reading =>
      match reading.settle with
      | .error refusal => .error refusal
      | .ok reading => .ok reading.line

end CommandLine

end ArtifactPipeline
