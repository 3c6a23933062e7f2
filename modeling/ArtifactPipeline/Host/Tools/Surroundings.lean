import ArtifactPipeline.Host.Tools.Command

set_option autoImplicit false

namespace ArtifactPipeline.Tools

open Text (Octets)

def which : Tool := fun call =>
  let options := call.args.takeWhile fun arg =>
    arg.head? == some '-' && arg.length > 1 && arg != ['-', '-']
  let letters := (options.map (List.drop 1)).flatten
  match letters.find? fun c => c != 'a' && c != 's' with
  | some c => do
      let _ ← Chore.write 2 ("Illegal option -".toList ++ [c, '\n'])
      finish call "Usage: /usr/bin/which [-as] args\n".toList 2
  | none => do
      let names := match call.args.drop options.length with
        | ['-', '-'] :: names => names
        | names => names
      if names.isEmpty then return 1
      else
        eachOperand names fun name => do
          let found ← Chore.look fun scene =>
            (candidates (searchPath call.vars) name).filter fun path =>
              match scene.stat path with
              | .ok ⟨_, _, .file _ _ mode⟩ => HostDisk.isExecutable mode
              | .ok ⟨_, _, .tool _⟩ => true
              | _ => false
          match found with
          | [] => return 1
          | path :: rest =>
              if letters.contains 's' then return 0
              else finish call (unlines (if letters.contains 'a' then path :: rest else [path])) 0

def yes : Tool :=
  withOptions {} 1 fun call given =>
    let words := given.operands
    let line := (if words.isEmpty then ['y'] else Text.joinWith [' '] words) ++ ['\n']
    say call (List.replicate 512 line).flatten Chore.readLimit
where
  say (call : Call) (block : Octets) : Nat → Chore Nat
    | 0 => pure 0
    | rounds + 1 => do
        match ← Chore.write 1 block with
        | .ok () => say call block rounds
        | .error fault => refuse call.name ("standard output: " ++ fault.message)

def fixed (text : String) : Tool :=
  withOptions {} 1 fun call given =>
    match given.operands with
    | operand :: _ => misuse call.name ("extra operand " ++ inQuotes operand) 1
    | [] => finish call (text.toList ++ ['\n']) 0

def processorCount : Nat := 1

def nproc : Tool :=
  withOptions { valued := "i", flags := "a", long := [("all", 'a'), ("ignore", 'i')] } 1
    fun call given =>
      match given.operands, (given.values 'i').find? fun text => (number? text).isNone with
      | operand :: _, _ => misuse call.name ("extra operand " ++ inQuotes operand) 1
      | [], some text => do
          complain call.name ("invalid number: " ++ inQuotes text)
          return 1
      | [], none =>
          let ignored := ((given.value? 'i').bind number?).getD 0
          finish call (decimal (max 1 (processorCount - ignored)) ++ ['\n']) 0

def tty : Tool :=
  withOptions { flags := "s", long := [("silent", 's'), ("quiet", 's')] } 2 fun call given =>
    match given.operands with
    | operand :: _ => misuse call.name ("extra operand " ++ inQuotes operand) 2
    | [] => if given.has 's' then return 1 else finish call "not a tty\n".toList 1

def logname : Tool :=
  withOptions {} 1 fun call given =>
    match given.operands with
    | operand :: _ => misuse call.name ("extra operand " ++ inQuotes operand) 1
    | [] => refuse call.name "no login name"

def users : List (String × Nat) :=
  [("root", 0), ("daemon", 1), ("bin", 2), ("sys", 3)]

def user? (text : Octets) : Option (String × Nat) :=
  users.find? fun (name, number) => name.toList = text || decimal number = text

def userFact (given : Given) (user : String × Nat) : Octets :=
  if given.has 'n' then user.1.toList
  else if given.has 'u' || given.has 'g' || given.has 'G' then decimal user.2
  else
    let shown (what : String) : String :=
      what ++ "=" ++ Nat.repr user.2 ++ "(" ++ user.1 ++ ")"
    Text.octets (shown "uid" ++ " " ++ shown "gid" ++ " " ++ shown "groups")

def userId : Tool :=
  withOptions {
    flags := "augGnrzZ"
    long := [("user", 'u'), ("group", 'g'), ("groups", 'G'), ("name", 'n'), ("real", 'r'),
      ("zero", 'z'), ("context", 'Z')] } 1 fun call given =>
    let choices := ['u', 'g', 'G'].filter given.has
    if 1 < choices.length then refuse call.name "cannot print \"only\" of more than one choice"
    else if choices.isEmpty && (given.has 'n' || given.has 'r') then
      refuse call.name "cannot print only names or real IDs in default format"
    else if choices.isEmpty && given.has 'z' then
      refuse call.name "option --zero not permitted in default format"
    else
      let ending := if given.has 'z' then Char.ofNat 0 else '\n'
      eachOperand (if given.operands.isEmpty then ["root".toList] else given.operands)
        fun name =>
          match user? name with
          | some user => finish call (userFact given user ++ [ending]) 0
          | none => refuse call.name (quote name ++ ": no such user")

def groups : Tool :=
  withOptions {} 1 fun call given =>
    if given.operands.isEmpty then finish call "root\n".toList 0
    else
      eachOperand given.operands fun name =>
        match user? name with
        | some user => finish call (name ++ " : ".toList ++ user.1.toList ++ ['\n']) 0
        | none => refuse call.name (quote name ++ ": no such user")

def systemFacts : List (Char × String) :=
  [('s', "Linux"), ('n', "localhost"), ('r', "6.8.0"), ('v', "#1 SMP"), ('m', "x86_64"),
    ('p', "x86_64"), ('i', "x86_64"), ('o', "GNU/Linux")]

def uname : Tool :=
  withOptions {
    flags := "asnrvmpio"
    long := [("all", 'a'), ("kernel-name", 's'), ("sysname", 's'), ("nodename", 'n'),
      ("kernel-release", 'r'), ("release", 'r'), ("kernel-version", 'v'), ("machine", 'm'),
      ("processor", 'p'), ("hardware-platform", 'i'), ("operating-system", 'o')] } 1
    fun call given =>
      match given.operands with
      | operand :: _ => misuse call.name ("extra operand " ++ inQuotes operand) 1
      | [] =>
          let wanted := systemFacts.filter fun (letter, _) =>
            given.has 'a' || given.has letter || (given.options.isEmpty && letter == 's')
          finish call (Text.octets (" ".intercalate (wanted.map (·.2)) ++ "\n")) 0

end ArtifactPipeline.Tools
