import ArtifactPipeline.Host.Routine

set_option autoImplicit false

namespace ArtifactPipeline.Tools

open Text (Octets)

structure Call where
  name : Octets
  args : List Octets := []
  vars : List (Octets × Octets) := []

abbrev Exec := Octets → Call → Chore (Except HostFault Nat)

def candidates (path name : Octets) : List Octets :=
  if name.contains '/' then [name]
  else (Text.splitOn ':' path).map fun dir => if dir.isEmpty then name else dir ++ '/' :: name

def runFirst (exec : Exec) (call : Call) :
    List Octets → HostFault → Chore (Except HostFault Nat)
  | [], fault => pure (.error fault)
  | path :: rest, fault => do
      match ← exec path call with
      | .ok status => return .ok status
      | .error .missing | .error .notDirectory => runFirst exec call rest fault
      | .error other => runFirst exec call rest other

def refusalStatus : HostFault → Nat
  | .missing | .notDirectory | .tooManyLinks | .nameTooLong => 127
  | _ => 126

abbrev Tool := Call → Chore Nat

def complain (name : Octets) (message : String) : Chore Unit := do
  let _ ← Chore.write 2 (name ++ ": ".toList ++ Text.octets message ++ ['\n'])

def refuse (name : Octets) (message : String) : Chore Nat := do
  complain name message
  return 1

def misuse (name : Octets) (message : String) (status : Nat) : Chore Nat := do
  complain name message
  let _ ← Chore.write 2 ("Try '".toList ++ name ++ " --help' for more information.\n".toList)
  return status

def isShown (c : Char) : Bool :=
  32 ≤ c.toNat && c.toNat < 127

def isTame (c : Char) : Bool :=
  c.isAlphanum || " '%+,-./:@]_".toList.contains c

def codeOf (c : Char) : Octets :=
  match c with
  | '\x07' => ['\\', 'a']
  | '\x08' => ['\\', 'b']
  | '\t' => ['\\', 't']
  | '\n' => ['\\', 'n']
  | '\x0b' => ['\\', 'v']
  | '\x0c' => ['\\', 'f']
  | '\r' => ['\\', 'r']
  | c =>
      let code := c.toNat
      '\\' :: [code / 64 % 4, code / 8 % 8, code % 8].map fun digit =>
        Char.ofNat ('0'.toNat + digit)

/-- The characters of a name between single quotes. What cannot be shown stands between quotes of
its own; `coded` holds between these. -/
def quotedChars (coded : Bool) : Octets → Octets
  | [] => []
  | c :: rest =>
      if isShown c then
        (if coded then ['\'', '\''] else []) ++ (if c == '\'' then "'\\''".toList else [c]) ++
          quotedChars false rest
      else (if coded then [] else "'$'".toList) ++ codeOf c ++ quotedChars true rest

def quote (name : Octets) : String :=
  if name.contains '\'' && name.all isTame then "\"" ++ String.ofList name ++ "\""
  else "'" ++ String.ofList (quotedChars false name) ++ "'"

def inQuotes (text : Octets) : String :=
  "'" ++ String.ofList (text.flatMap fun c =>
    if c == '\'' || c == '\\' then ['\\', c] else if isShown c then [c] else codeOf c) ++ "'"

def needsQuotes (name : Octets) : Bool :=
  name.isEmpty || name = ['\x7b'] || name = ['\x7d'] ||
    name.head? = some '#' || name.head? = some '~' ||
    name.any fun c => !isShown c || " !\"$&'()*:;<=>?[\\^\x60|".toList.contains c

def quoteIfNeeded (name : Octets) : String :=
  if needsQuotes name then quote name else String.ofList name

def complainAbout (call : Call) (path : Octets) (fault : HostFault) : Chore Unit :=
  complain call.name (quoteIfNeeded path ++ ": " ++ fault.message)

def finish (call : Call) (output : Octets) (status : Nat) : Chore Nat := do
  if output.isEmpty then return status
  else
    match ← Chore.write 1 output with
    | .ok () => return status
    | .error fault =>
        complain call.name ("write error: " ++ fault.message)
        return max status 1

structure OptionSet where
  flags : String := ""
  valued : String := ""
  optional : String := ""
  long : List (String × Char) := []
  strictOrder : Bool := false

structure Given where
  options : List (Char × Octets) := []
  operands : List Octets := []

namespace Given

def has (given : Given) (letter : Char) : Bool :=
  given.options.any fun option => option.1 == letter

def values (given : Given) (letter : Char) : List Octets :=
  given.options.filterMap fun option => if option.1 == letter then some option.2 else none

def value? (given : Given) (letter : Char) : Option Octets :=
  (given.values letter).getLast?

def add (given : Given) (letter : Char) (value : Octets) : Given :=
  { given with options := given.options ++ [(letter, value)] }

def addOperand (given : Given) (operand : Octets) : Given :=
  { given with operands := given.operands ++ [operand] }

end Given

namespace OptionSet

def letterOf (options : OptionSet) (name : Octets) : Except String Char :=
  let shown := "option '--" ++ Text.ofOctets name ++ "'"
  match options.long.lookup (String.ofList name) with
  | some letter => .ok letter
  | none =>
      match options.long.filter fun entry => name.isPrefixOf entry.1.toList with
      | [] => .error ("unrecognized " ++ shown)
      | first :: others =>
          if others.all fun entry => entry.2 == first.2 then .ok first.2
          else .error (shown ++ " is ambiguous; possibilities:" ++
            String.join ((first :: others).map fun entry => " '--" ++ entry.1 ++ "'"))

def isValued (options : OptionSet) (letter : Char) : Bool :=
  options.valued.toList.contains letter

def isOptional (options : OptionSet) (letter : Char) : Bool :=
  options.optional.toList.contains letter

def cluster (options : OptionSet) (rest : List Octets) :
    Given → Octets → Except String (Given × List Octets)
  | given, [] => .ok (given, rest)
  | given, letter :: letters =>
      if options.isValued letter then
        match letters, rest with
        | [], value :: rest => .ok (given.add letter value, rest)
        | [], [] => .error ("option requires an argument -- '" ++ letter.toString ++ "'")
        | letters, rest => .ok (given.add letter letters, rest)
      else if options.isOptional letter then .ok (given.add letter letters, rest)
      else if options.flags.toList.contains letter then
        cluster options rest (given.add letter []) letters
      else .error ("invalid option -- '" ++ letter.toString ++ "'")

def named (options : OptionSet) (given : Given) (name : Octets) (rest : List Octets) :
    Except String (Given × List Octets) :=
  let key := name.takeWhile fun c => c != '='
  match options.letterOf key, name.drop key.length with
  | .error message, _ => .error message
  | .ok letter, _ :: value =>
      if options.isValued letter || options.isOptional letter then .ok (given.add letter value, rest)
      else .error ("option '--" ++ Text.ofOctets key ++ "' doesn't allow an argument")
  | .ok letter, [] =>
      if options.isValued letter then
        match rest with
        | value :: rest => .ok (given.add letter value, rest)
        | [] => .error ("option '--" ++ Text.ofOctets key ++ "' requires an argument")
      else .ok (given.add letter [], rest)

def readFrom (options : OptionSet) : Nat → Given → List Octets → Except String Given
  | 0, given, _ => .ok given
  | _ + 1, given, [] => .ok given
  | fuel + 1, given, arg :: rest =>
      match arg with
      | ['-', '-'] => .ok { given with operands := given.operands ++ rest }
      | '-' :: '-' :: name =>
          match options.named given name rest with
          | .ok (given, rest) => readFrom options fuel given rest
          | .error message => .error message
      | '-' :: c :: letters =>
          match cluster options rest given (c :: letters) with
          | .ok (given, rest) => readFrom options fuel given rest
          | .error message => .error message
      | operand =>
          if options.strictOrder then .ok { given with operands := given.operands ++ operand :: rest }
          else readFrom options fuel (given.addOperand operand) rest

def read (options : OptionSet) (args : List Octets) : Except String Given :=
  options.readFrom (args.length + 1) {} args

end OptionSet

def withOptions (options : OptionSet) (usageStatus : Nat) (run : Call → Given → Chore Nat) : Tool :=
  fun call =>
    match options.read call.args with
    | .ok given => run call given
    | .error message => misuse call.name message usageStatus

def eachOperand (operands : List Octets) (run : Octets → Chore Nat) : Chore Nat :=
  go operands 0
where
  go : List Octets → Nat → Chore Nat
    | [], status => pure status
    | operand :: rest, status => do
        let own ← run operand
        go rest (max status own)

def contentOf (path : Octets) : Chore (Except HostFault Octets) :=
  if path = ['-'] then Chore.readAll 0 else Chore.readFile path

/-- The contents of files one after the other, or of standard input without any. Files that cannot be
read are complained about and make the status 1. -/
def contentsOf (call : Call) (paths : List Octets) : Chore (List (Octets × Octets) × Nat) :=
  go (if paths.isEmpty then [['-']] else paths) [] 0
where
  go : List Octets → List (Octets × Octets) → Nat → Chore (List (Octets × Octets) × Nat)
    | [], read, status => pure (read.reverse, status)
    | path :: rest, read, status => do
        match ← contentOf path with
        | .ok content => go rest ((path, content) :: read) status
        | .error fault => do
            complainAbout call path fault
            go rest read 1

/-- Goes through files, or standard input without any. What is made of a file is written before the next
one is looked at, and what is left behind the last one. -/
def streamFiles {σ : Type} (call : Call) (paths : List Octets) (start : σ)
    (step : σ → Octets → Octets → σ × Octets) (last : σ → Octets) : Chore Nat :=
  go (if paths.isEmpty then [['-']] else paths) start 0
where
  go : List Octets → σ → Nat → Chore Nat
    | [], state, status => finish call (last state) status
    | path :: rest, state, status => do
        match ← contentOf path with
        | .error fault => do
            complainAbout call path fault
            go rest state 1
        | .ok content =>
            let (state, output) := step state path content
            let own ← finish call output 0
            if own = 0 then go rest state status else return own

def eachFile (call : Call) (paths : List Octets) (run : Octets → Octets) : Chore Nat :=
  streamFiles call paths () (fun _ _ content => ((), run content)) fun _ => []

def linesOf (text : Octets) : List Octets × Bool :=
  match text with
  | [] => ([], true)
  | text =>
      let parts := Text.splitOn '\n' text
      match parts.getLast? with
      | some [] => (parts.dropLast, true)
      | _ => (parts, false)

def unlines (lines : List Octets) : Octets :=
  lines.flatMap fun line => line ++ ['\n']

def unlinesLike (complete : Bool) (lines : List Octets) : Octets :=
  if complete then unlines lines else (unlines lines).dropLast

def wholeLines (ending : Char) (text : Octets) : List Octets :=
  let parts := Text.splitOn ending text
  let whole := parts.dropLast.map fun part => part ++ [ending]
  match parts.getLast? with
  | some [] | none => whole
  | some last => whole ++ [last]

def decimal (value : Nat) : Octets :=
  (Nat.repr value).toList

def number? (text : Octets) : Option Nat :=
  if text.isEmpty || !text.all Char.isDigit then none
  else some (text.foldl (fun value c => 10 * value + (c.toNat - '0'.toNat)) 0)

def integer? (text : Octets) : Option Int :=
  match text with
  | '-' :: rest => (number? rest).map fun n => -(n : Int)
  | '+' :: rest => (number? rest).map fun n => (n : Int)
  | text => (number? text).map fun n => (n : Int)

def padLeft (c : Char) (width : Nat) (text : Octets) : Octets :=
  List.replicate (width - text.length) c ++ text

def padRight (width : Nat) (text : Octets) : Octets :=
  text ++ List.replicate (width - text.length) ' '

end ArtifactPipeline.Tools
