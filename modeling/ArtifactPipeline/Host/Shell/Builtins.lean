import ArtifactPipeline.Host.LineFields
import ArtifactPipeline.Host.Shell.Subshell
import ArtifactPipeline.Host.Tools.Condition
import ArtifactPipeline.Host.Tools.Permission
import ArtifactPipeline.Host.Tools.Format

set_option autoImplicit false

namespace ArtifactPipeline.Shell

open Text (Octets)

abbrev Builtin := Kit → Mode → List Octets → Sh Nat

namespace Builtins

def number (text : Octets) : Sh Nat := do
  match Tools.number? text with
  | some n => if n < 2147483648 then return n else illegal
  | none => illegal
where
  illegal : Sh Nat := Sh.fail ("Illegal number: " ++ String.ofList text)

def options (flags valued : String) :
    Nat → List Octets → List (Char × Octets) → Sh (List (Char × Octets) × List Octets)
  | 0, args, found => pure (found.reverse, args)
  | fuel + 1, args, found =>
      match args with
      | ['-', '-'] :: rest => pure (found.reverse, rest)
      | ('-' :: c :: letters) :: rest => do
          let (more, rest) ← cluster (c :: letters) rest []
          options flags valued fuel rest (more ++ found)
      | args => pure (found.reverse, args)
where
  cluster : Octets → List Octets → List (Char × Octets) →
      Sh (List (Char × Octets) × List Octets)
    | [], rest, found => pure (found, rest)
    | letter :: letters, rest, found =>
        if valued.toList.contains letter then
          match letters, rest with
          | [], value :: rest => pure ((letter, value) :: found, rest)
          | [], [] => Sh.fail ("No arg for -" ++ letter.toString ++ " option")
          | letters, rest => pure ((letter, letters) :: found, rest)
        else if flags.toList.contains letter then cluster letters rest ((letter, []) :: found)
        else Sh.fail ("Illegal option -" ++ letter.toString)

def optionsOf (flags valued : String) (args : List Octets) :
    Sh (List (Char × Octets) × List Octets) :=
  options flags valued (args.length + 1) args []

def line (text : Octets) : Sh Unit :=
  Sh.say 1 (text ++ ['\n'])

def quoted (text : Octets) : Octets :=
  go (text.length + 1) text
where
  go : Nat → Octets → Octets
    | 0, _ => []
    | fuel + 1, text =>
        let plain := text.takeWhile fun c => c != '\''
        let quotes := (text.drop plain.length).takeWhile (· == '\'')
        let rest := text.drop (plain.length + quotes.length)
        '\'' :: plain ++ '\'' :: (if quotes.isEmpty then [] else '"' :: quotes ++ ['"']) ++
          (if rest.isEmpty then [] else go fuel rest)

def sortedVars (test : Variable → Bool) : Sh (List (Octets × Variable)) := do
  let vars := (← get).vars.filter fun entry => test entry.2
  return (HostDisk.inOrder (vars.map (·.1))).filterMap fun name =>
    (vars.lookup name).map fun held => (name, held)

def showVars (lead : String) (test : Variable → Bool) : Sh Unit := do
  (← sortedVars test).forM fun (name, held) =>
    line (lead.toList ++ name ++ match held.value with
      | some value => '=' :: quoted value
      | none => [])

def leaveLoops (resume : Bool) : Builtin := fun _ _ args => do
  let count ←
    match args with
    | [] => pure 1
    | text :: _ => do
        let count ← number text
        if count = 0 then Sh.fail ("Illegal number: " ++ String.ofList text) else pure count
  let count := min count (← get).loops
  if count = 0 then return 0
  else
    Sh.setStatus 0
    throw (.loops (count - 1) resume)

def exit : Builtin := fun _ _ args => do
  let status ←
    match args with
    | [] => do
        let state ← get
        pure (state.before.getD state.status)
    | text :: _ => number text
  Sh.leave status

def return' : Builtin := fun _ _ args => do
  let status ←
    match args with
    | [] => do pure (← get).status
    | text :: _ => number text
  Sh.setStatus status
  throw .returned

def logicalPath (base path : Octets) : Octets :=
  let start := if path.head? = some '/' then [] else HostDisk.spotOf base
  let names := (Text.splitOn '/' path).foldl (fun (names : Spot) segment =>
    if segment.isEmpty || segment = ['.'] then names
    else if segment = ['.', '.'] then names.dropLast
    else names ++ [segment]) start
  HostDisk.spotText names

def enterDirectory (path : Octets) : Sh Bool :=
  (Chore.act fun scene =>
    match scene.stat path with
    | .ok ⟨spot, _, .dir _ _⟩ => (true, scene.setMe { scene.me with cwd := spot })
    | _ => (false, scene) : Chore _)

def export' (name value : Octets) : Sh Unit :=
  modify fun state =>
    let old := (state.vars.lookup name).getD { value := none }
    { state with
      vars := Assoc.set name { old with value := some value, exported := true } state.vars }

def starts (state : State) (target : Octets) : List Octets :=
  let first := target.takeWhile fun c => c != '/'
  if target.head? = some '/' || first = ['.'] || first = ['.', '.'] || target.isEmpty then [[]]
  else
    match state.value? "CDPATH".toList with
    | some path => if path.isEmpty then [[]] else Text.splitOn ':' path ++ [[]]
    | none => [[]]

def enterFirst (physical : Bool) (target : Octets) : List Octets → Sh (Option Octets)
  | [] => pure none
  | start :: rest => do
      let path := if start.isEmpty then target else start ++ '/' :: target
      let logical := logicalPath (← get).directory path
      if ← enterDirectory (if physical then path else logical) then
        let old := (← get).directory
        let now ← if physical then Sh.scene fun scene => HostDisk.spotText scene.cwd else pure logical
        export' "OLDPWD".toList old
        export' "PWD".toList now
        modify fun state => { state with directory := now }
        return some start
      else enterFirst physical target rest

def cd : Builtin := fun _ _ args => do
  let (given, operands) ← optionsOf "LP" "" args
  let physical := (given.getLast?.map (·.1)) == some 'P'
  let state ← get
  let (target, shown) :=
    match operands with
    | [] => (state.valueOf "HOME", false)
    | ['-'] :: _ => (state.valueOf "OLDPWD", true)
    | target :: _ => (target, false)
  match ← enterFirst physical target (starts state target) with
  | none => Sh.fail ("can't cd to " ++ String.ofList target)
  | some start =>
      if shown || !start.isEmpty then line (← get).directory
      return 0

def pwd : Builtin := fun _ _ args => do
  let (given, _) ← optionsOf "LP" "" args
  if (given.getLast?.map (·.1)) == some 'P' then
    line (← Sh.scene fun scene => HostDisk.spotText scene.cwd)
  else line (← get).directory
  return 0

def splitAssignment (text : Octets) : Octets × Option Octets :=
  let name := text.takeWhile fun c => c != '='
  match text.drop name.length with
  | [] => (name, none)
  | _ :: value => (name, some value)

def checkName (name : Octets) : Sh Unit := do
  if !isName name then Sh.fail (String.ofList name ++ ": bad variable name")

def mark (lead : String) (test : Variable → Bool) (change : Variable → Variable) : Builtin :=
  fun _ _ args => do
    let (given, names) ← optionsOf "p" "" args
    if names.isEmpty || !given.isEmpty then
      showVars lead test
      return 0
    else
      names.forM fun text => do
        let (name, value) := splitAssignment text
        checkName name
        if let some value := value then Sh.assign name value
        modify fun state => { state with
          vars := Assoc.set name (change ((state.vars.lookup name).getD { value := none })) state.vars }
      return 0

def unset : Builtin := fun _ _ args => do
  let (given, names) ← optionsOf "fv" "" args
  names.forM fun name => do
    if (given.getLast?.map (·.1)) == some 'f' then
      modify fun state => { state with functions := Assoc.erase name state.functions }
    else
      checkName name
      if (← get).isReadOnly name then Sh.fail (String.ofList name ++ ": is read only")
      modify fun state => { state with vars := Assoc.erase name state.vars }
  return 0

def local' : Builtin := fun _ _ args => do
  if (← get).locals.isEmpty then Sh.fail "not in a function"
  args.forM fun text => do
    let (name, value) := splitAssignment text
    if text = ['-'] then pure ()
    else
      checkName name
      modify fun state =>
        match state.locals with
        | frame :: frames =>
            if (frame.lookup name).isSome then state
            else { state with locals := ((name, state.vars.lookup name) :: frame) :: frames }
        | [] => state
      if let some value := value then Sh.assign name value
  return 0

def aliasLine (name text : Octets) : Sh Unit :=
  line (name ++ '=' :: quoted text)

def alias' : Builtin := fun _ _ args => do
  if args.isEmpty then
    (State.byShelf (← get).aliases).forM fun (name, text) => aliasLine name text
    return 0
  else each args 0
where
  each : List Octets → Nat → Sh Nat
    | [], status => pure status
    | arg :: rest, status => do
        -- The name has at least one character, which may be an equals sign.
        let name := arg.take 1 ++ (arg.drop 1).takeWhile fun c => c != '='
        match arg.drop name.length with
        | _ :: text => do
            modify fun state => { state with aliases := Assoc.set name text state.aliases }
            each rest status
        | [] =>
            match (← get).aliases.lookup arg with
            | some text => do
                aliasLine arg text
                each rest status
            | none => do
                Sh.say 2 ("alias: ".toList ++ arg ++ " not found\n".toList)
                each rest 1

def unalias : Builtin := fun _ _ args => do
  let (given, names) ← optionsOf "a" "" args
  if !given.isEmpty then
    modify fun state => { state with aliases := [] }
    return 0
  else each names 0
where
  each : List Octets → Nat → Sh Nat
    | [], status => pure status
    | name :: rest, status => do
        if ((← get).aliases.lookup name).isSome then
          modify fun state => { state with aliases := Assoc.erase name state.aliases }
          each rest status
        else
          Sh.say 2 ("unalias: ".toList ++ name ++ " not found\n".toList)
          each rest 1

def optionNames : List (String × Char) := [
  ("errexit", 'e'), ("noglob", 'f'), ("ignoreeof", 'I'), ("interactive", 'i'), ("monitor", 'm'),
  ("noexec", 'n'), ("stdin", 's'), ("xtrace", 'x'), ("verbose", 'v'), ("vi", 'V'), ("emacs", 'E'),
  ("noclobber", 'C'), ("allexport", 'a'), ("notify", 'b'), ("nounset", 'u'), ("privileged", 'p')
]

def namedOptions : List String :=
  ["nolog", "debug"]

def showOptions (asCommands : Bool) : Sh Unit := do
  let state ← get
  let settings := optionNames.map (fun (name, letter) => (name, state.has letter)) ++
    namedOptions.map fun name => (name, false)
  if asCommands then
    settings.forM fun (name, value) =>
      line ((if value then "set -o " else "set +o ") ++ name).toList
  else
    line "Current option settings".toList
    settings.forM fun (name, value) =>
      line (Tools.padRight 16 name.toList ++ (if value then "on" else "off").toList)

def switch (value : Bool) (letter : Char) : Sh Unit := do
  if !(optionNames.any fun entry => entry.2 == letter) then
    Sh.fail ("Illegal option " ++ (if value then "-" else "+") ++ letter.toString)
  modify fun state => { state with
    options := (optionNames.map (·.2)).reverse.filter fun other =>
      if other == letter then value else state.options.contains other }

def switchNamed (value : Bool) (name : Octets) : Sh Unit := do
  match optionNames.lookup (String.ofList name) with
  | some letter => switch value letter
  | none =>
      if !namedOptions.contains (String.ofList name) then
        Sh.fail ("Illegal option -o " ++ String.ofList name)

def setOptions : Nat → List Octets → Sh (Option (List Octets))
  | 0, _ => pure none
  | fuel + 1, args =>
      match args with
      | [] => pure none
      | ['-'] :: rest => do
          modify fun state => { state with
            options := state.options.filter fun c => c != 'x' && c != 'v' }
          return if rest.isEmpty then none else some rest
      | ['-', '-'] :: rest => return some rest
      | (sign :: letters) :: rest => do
          if sign == '-' || (sign == '+' && !letters.isEmpty) then
            setOptions fuel (← cluster (sign == '-') letters rest)
          else return some args
      | [] :: _ => return some args
where
  cluster (value : Bool) : Octets → List Octets → Sh (List Octets)
    | [], rest => pure rest
    | 'o' :: letters, rest =>
        match rest with
        | name :: rest => do
            switchNamed value name
            cluster value letters rest
        | [] => do
            showOptions (!value)
            return []
    | letter :: letters, rest => do
        switch value letter
        cluster value letters rest

def set' : Builtin := fun _ _ args => do
  if args.isEmpty then showVars "" fun held => held.value.isSome
  else if let some args ← setOptions (args.length + 1) args then
    modify fun state => { state with args, optionIndex := 1, letters := 0 }
  return 0

def shift : Builtin := fun _ _ args => do
  let count ←
    match args with
    | [] => pure 1
    | text :: _ => number text
  if (← get).args.length < count then Sh.fail "can't shift that many"
  modify fun state => { state with args := state.args.drop count, optionIndex := 1, letters := 0 }
  return 0

structure OptionFound where
  letter : Char := '?'
  value : Option Octets := none
  index : Nat
  letters : Nat := 0
  complaint : String := ""
  ended : Bool := false

def optionKind? (letters : Octets) (letter : Char) : Option Bool :=
  match letters with
  | [] => none
  | c :: ':' :: rest => if c == letter then some true else optionKind? rest letter
  | c :: rest => if c == letter then some false else optionKind? rest letter

def nextOption (known : Octets) (args : List Octets) (index letters : Nat) : OptionFound :=
  let quiet := known.head? = some ':'
  let known := if quiet then known.drop 1 else known
  let current := (args[index - 2]?.getD []).drop letters
  let (text, index) :=
    if letters != 0 && 1 < index && !current.isEmpty then (current, index)
    else
      match args[index - 1]? with
      | some ('-' :: c :: rest) =>
          if c == '-' && rest.isEmpty then ([], index + 1) else (c :: rest, index + 1)
      | _ => ([], index)
  let word := args[index - 2]?.getD []
  match text with
  | [] => { index, ended := true }
  | letter :: rest =>
      let taken := if rest.isEmpty then 0 else word.length - rest.length
      match (if letter == ':' then none else optionKind? known letter) with
      | none =>
          if quiet then { value := some [letter], index, letters := taken }
          else
            { index, letters := taken, complaint := "Illegal option -" ++ letter.toString ++ "\n" }
      | some false => { letter, value := some [], index, letters := taken }
      | some true =>
          if !rest.isEmpty then { letter, value := some rest, index }
          else
            match args[index - 1]? with
            | some value => { letter, value := some value, index := index + 1 }
            | none =>
                if quiet then { letter := ':', value := some [letter], index }
                else { index, complaint := "No arg for -" ++ letter.toString ++ " option\n" }

def getopts : Builtin := fun _ _ args => do
  match args with
  | known :: name :: own => do
      let state ← get
      let args := if own.isEmpty then state.args else own
      let told := (Tools.number? (state.valueOf "OPTIND")).getD 1
      let (index, letters) :=
        if told = state.optionIndex then (told, state.letters) else (max told 1, 0)
      let found := nextOption known args index letters
      Sh.say 2 found.complaint.toList
      match found.value with
      | some value => Sh.assign "OPTARG".toList value
      | none =>
          if !found.ended then
            modify fun state => { state with vars := Assoc.erase "OPTARG".toList state.vars }
      Sh.assign "OPTIND".toList (Tools.decimal found.index)
      checkName name
      Sh.assign name [found.letter]
      modify fun state => { state with optionIndex := found.index, letters := found.letters }
      return if found.ended then 1 else 0
  | _ => Sh.fail "Usage: getopts optstring var [arg]"

structure LineRead where
  chars : List (Char × Bool) := []
  escaped : Bool := false
  complete : Bool := false

def LineRead.feed (raw : Bool) : LineRead → Octets → LineRead × Octets
  | line, [] => (line, [])
  | line, c :: rest =>
      if line.escaped then
        if c == '\n' then feed raw { line with escaped := false } rest
        else feed raw { line with chars := (c, true) :: line.chars, escaped := false } rest
      else if c == '\n' then ({ line with complete := true }, rest)
      else if c == '\\' && !raw then feed raw { line with escaped := true } rest
      else if c.toNat = 0 then feed raw line rest
      else feed raw { line with chars := (c, false) :: line.chars } rest

def readLine (raw : Bool) : Nat → LineRead → Chore LineRead
  | 0, line => pure line
  | rounds + 1, line => do
      let place ← Chore.look fun scene => scene.place? 0
      match ← Chore.readUpTo 0 (if place.isSome then 1024 else 1) with
      | .error _ | .ok [] => return line
      | .ok bytes => do
          let (line, rest) := line.feed raw bytes
          if let some place := place then
            Chore.change fun scene => scene.seek 0 (place + bytes.length - rest.length)
          if line.complete then return line else readLine raw rounds line

def assignFields (separators : Octets) : List Octets → List (Char × Bool) → Sh Unit
  | [], _ => pure ()
  | [name], line => Sh.assign name (LineFields.lastField separators line)
  | name :: names, line => do
      let (field, rest) := LineFields.firstField separators line
      Sh.assign name (field.map (·.1))
      assignFields separators names rest

def read : Builtin := fun _ _ args => do
  let (given, names) ← optionsOf "r" "p" args
  if names.isEmpty then Sh.fail "arg count"
  names.forM checkName
  let raw := given.any fun option => option.1 == 'r'
  let line ← (readLine raw Chore.readLimit {} : Chore _)
  let separators := separators (← get)
  assignFields separators names (line.chars.reverse.dropWhile (LineFields.isGap separators))
  return if line.complete then 0 else 1

def eval : Builtin := fun kit mode args => do
  runText kit { tested := mode.tested } (Tools.joinWords args)
  return (← get).status

def found (name : Octets) : Sh (List Octets) := do
  let paths := Tools.candidates ((← get).valueOf "PATH") name
  Sh.scene fun scene => paths.filter fun path =>
    match scene.stat path with
    | .ok ⟨_, _, .file _ _ _⟩ | .ok ⟨_, _, .tool _⟩ => true
    | _ => false

def dot : Builtin := fun kit _ args => do
  match args.filter fun arg => arg != ['-', '-'] with
  | [] => return 0
  | name :: _ => do
      let path ←
        if name.contains '/' then pure name
        else
          match ← found name with
          | path :: _ => pure path
          | [] => Sh.fail (String.ofList name ++ ": not found")
      match ← (Chore.readFile path : Chore _) with
      | .error fault => Sh.fail (openingFault .reading path fault)
      | .ok text => do
          modify fun state => { state with builtin := some path }
          match ← Sh.attempt (runText kit {} text) with
          | .ok () | .error .returned => return (← get).status
          | .error jump => throw jump

def trapped? (text : Octets) : Option Nat :=
  if text = "EXIT".toList || text = ['0'] then some 0 else Signal.ofText? text

def trapName (signal : Nat) : Octets :=
  if signal = 0 then "EXIT".toList
  else ((Signal.nameOf? signal).getD (Nat.repr signal)).toList

def setTrap (signal : Nat) (action : Option Octets) : Sh Unit := do
  modify fun state => { state with
    traps := match action with
      | some action => Assoc.set signal action state.traps
      | none => Assoc.erase signal state.traps }
  if signal != 0 then
    Chore.change fun scene =>
      let me := scene.me
      let ignored := me.ignored.filter fun other => other != signal
      let caught := me.caught.filter fun other => other != signal
      match action with
      | none => scene.setMe { me with ignored, caught }
      | some [] => scene.setMe { me with ignored := signal :: ignored, caught }
      | some _ => scene.setMe { me with ignored, caught := signal :: caught }

def trap : Builtin := fun _ _ args => do
  let (_, operands) ← optionsOf "" "" args
  match operands with
  | [] => do
      let state ← get
      (List.range Signal.bound).forM fun signal =>
        match state.traps.lookup signal with
        | some action => line ("trap -- ".toList ++ quoted action ++ ' ' :: trapName signal)
        | none => pure ()
      return 0
  | first :: rest => do
      let alone := rest.isEmpty || (Tools.number? first).isSome
      let (action, signals) : Option Octets × List Octets :=
        if alone then (none, first :: rest)
        else (if first = ['-'] then none else some first, rest)
      set signals action 0
where
  set : List Octets → Option Octets → Nat → Sh Nat
    | [], _, status => pure status
    | text :: rest, action, status => do
        match trapped? text with
        | some signal => do
            setTrap signal action
            set rest action status
        | none => do
            Sh.complain (String.ofList text ++ ": bad trap")
            return 1

def waitOne (job : Job) : Sh Nat := do
  match job.ending with
  | some ending => return ending.status
  | none => do
      Chore.await fun scene =>
        (endingOf? scene job).isSome || !scene.me.pending.isEmpty
      let (ending, signals) ← Sh.scene fun scene => (endingOf? scene job, scene.me.pending)
      match ending, signals with
      | some ending, _ => do
          tellSignal ending
          noticeEnds
          return ending.status
      | none, signal :: _ => return 128 + signal
      | none, [] => return 0

def waitAll : Sh Nat := do
  let running := (← get).jobs.filter fun job => job.ending.isNone
  Chore.await fun scene =>
    running.all (fun job => (endingOf? scene job).isSome) || !scene.me.pending.isEmpty
  noticeEnds
  match ← Sh.scene fun scene => scene.me.pending with
  | signal :: _ => return 128 + signal
  | [] => do
      modify fun state =>
        { state with jobs := state.jobs.map fun job => { job with awaited := true } }
      return 0

def wait : Builtin := fun _ _ args => do
  match args with
  | [] => waitAll
  | args => go args 127
where
  go : List Octets → Nat → Sh Nat
    | [], status => pure status
    | text :: rest, _ => do
        let job? ←
          match text with
          | '%' :: _ => do pure (some (← jobNamed text))
          | text => do
              let process ← number text
              pure ((← get).jobs.find? fun job => job.processes.getLast? = some process)
        match job? with
        | some job => do
            let status ← waitOne job
            modify fun state =>
              { state with
                jobs := state.jobs.map fun other =>
                  if other.number = job.number then { other with awaited := true } else other }
            go rest status
        | none => go rest 127

def jobs : Builtin := fun _ _ args => do
  let (given, operands) ← optionsOf "lp" "" args
  noticeEnds
  let shown ←
    if operands.isEmpty then do pure (← get).jobs else operands.mapM jobNamed
  shown.forM fun job => do
    let state ← get
    if given.any (·.1 == 'p') then line (Nat.repr (job.processes.headD 0)).toList
    else Sh.say 1 (job.shown state.jobs (given.any (·.1 == 'l')))
    if job.ending.isSome && !given.any (·.1 == 'p') then
      modify fun state =>
        { state with jobs := state.jobs.filter fun other => other.number != job.number }
  return 0

def resume : Builtin := fun _ _ args => do
  match args with
  | [] => do
      let _ ← jobNamed ['%']
      Sh.fail "job (null) not created under job control"
  | text :: _ => do
      let _ ← jobNamed text
      Sh.fail ("job " ++ String.ofList text ++ " not created under job control")

def killSignals (args : List Octets) : Sh (Nat × List Octets) := do
  let named (text : Octets) (rest : List Octets) : Sh (Nat × List Octets) := do
    match (if text = ['0'] then some 0 else Signal.ofText? text) with
    | some signal => return (signal, rest)
    | none => Sh.fail ("invalid signal number or name: " ++ String.ofList text)
  match args with
  | ['-', '-'] :: rest => return (15, rest)
  | ['-', 's'] :: text :: rest => named text rest
  | ('-' :: 's' :: c :: text) :: rest =>
      match Signal.ofText? ('s' :: c :: text) with
      | some signal => return (signal, rest)
      | none => named (c :: text) rest
  | ('-' :: c :: text) :: rest => do
      let (signal, rest) ← named (c :: text) rest
      return (signal, if rest.head? = some ['-', '-'] then rest.drop 1 else rest)
  | args => return (15, args)

def kill : Builtin := fun _ _ args => do
  match args with
  | [] => Sh.fail "Usage: kill [-s sigspec | -signum | -sigspec] [pid | job]... or\nkill -l [exitstatus]"
  | ['-', 'l'] :: rest => do
      match rest with
      | [] => do
          line ['0']
          Signal.names.forM fun name => line name.toList
          return 0
      | text :: _ => do
          let status ← number text
          let signal := if 128 < status then status - 128 else status
          match Signal.nameOf? signal with
          | some name => line name.toList
          | none => Sh.fail ("invalid signal number or exit status: " ++ String.ofList text)
          return 0
  | args => do
      let (signal, targets) ← killSignals args
      send signal targets 0
where
  send (signal : Nat) : List Octets → Nat → Sh Nat
    | [], status => pure status
    | text :: rest, status => do
        let target ←
          match text with
          | '%' :: _ => do
              -- A job has no group of processes of its own.
              let _ ← jobNamed text
              pure none
          | text =>
              match Tools.number? text with
              | some process => pure (some process)
              | none => Sh.fail ("Illegal number: " ++ String.ofList text)
        let result : Except HostFault Unit ←
          match target with
          | some process => (Chore.act fun scene => scene.signal process signal : Chore _)
          | none => pure (.error .missing)
        match result with
        | .ok () => send signal rest status
        | .error _ => do
            Sh.complain "No such process\n"
            send signal rest 1

def umask : Builtin := fun _ _ args => do
  let (given, operands) ← optionsOf "S" "" args
  let mask ← Sh.scene fun scene => scene.me.umask
  match operands with
  | [] => do
      if given.isEmpty then line (Tools.padLeft '0' 4 (Nat.toDigits 8 mask))
      else
        let letters := Tools.Permission.letters (0o777 - (0o777 &&& mask))
        let part (lead : Char) (index : Nat) : Octets :=
          lead :: '=' :: ((letters.drop (3 * index)).take 3).filter fun c => c != '-'
        line (part 'u' 0 ++ ',' :: part 'g' 1 ++ ',' :: part 'o' 2)
      return 0
  | text :: _ =>
      let mask? :=
        match Tools.Permission.octal? text with
        | some mask => some (mask &&& 0o777)
        | none =>
            if text.all Char.isDigit then none
            else (Tools.Permission.change? text false 0 (0o777 - (0o777 &&& mask))).map fun mode =>
              0o777 - (0o777 &&& mode)
      match mask? with
      | some mask => do
          Chore.change fun scene => scene.setMe { scene.me with umask := mask }
          return 0
      | none => Sh.fail ("Illegal number: " ++ String.ofList text)

def tool (run : Tools.Tool) (name : String) : Builtin := fun _ _ args => do
  let state ← get
  let shown := state.name ++ ": ".toList ++ Tools.decimal state.line ++ ": ".toList ++ name.toList
  (run { name := shown, args, vars := [] } : Chore Nat)

end Builtins

open Builtins in
def builtins : List (String × Builtin) := [
  (":", fun _ _ _ => pure 0),
  (".", dot),
  ("[", tool Tools.test "["),
  ("alias", alias'),
  ("bg", fun _ _ _ => Sh.fail "No current job"),
  ("break", leaveLoops false),
  ("cd", cd),
  ("chdir", cd),
  ("continue", leaveLoops true),
  ("echo", tool Tools.shellEcho "echo"),
  ("eval", eval),
  ("exit", exit),
  ("export", mark "export " Variable.exported fun held => { held with exported := true }),
  ("false", fun _ _ _ => pure 1),
  ("bg", resume),
  ("fg", resume),
  ("getopts", getopts),
  ("hash", fun _ _ _ => pure 0),
  ("jobs", jobs),
  ("kill", kill),
  ("local", local'),
  ("printf", tool Tools.shellPrintf "printf"),
  ("pwd", pwd),
  ("read", read),
  ("readonly", mark "readonly " Variable.readOnly fun held => { held with readOnly := true }),
  ("return", return'),
  ("set", set'),
  ("shift", shift),
  ("test", tool Tools.test "test"),
  ("times", fun _ _ _ => do
    line "0m0.000000s 0m0.000000s".toList
    line "0m0.000000s 0m0.000000s".toList
    return 0),
  ("trap", trap),
  ("true", fun _ _ _ => pure 0),
  ("ulimit", fun _ _ _ => do
    line "unlimited".toList
    return 0),
  ("umask", umask),
  ("unalias", unalias),
  ("unset", unset),
  ("wait", wait)
]

def commandBuiltins : List String :=
  ["command", "exec", "type"]

def isBuiltin (name : Octets) : Bool :=
  (builtins.lookup (String.ofList name)).isSome || commandBuiltins.contains (String.ofList name)

end ArtifactPipeline.Shell
