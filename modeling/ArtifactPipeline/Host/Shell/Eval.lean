import ArtifactPipeline.Host.Shell.Builtins

set_option autoImplicit false

namespace ArtifactPipeline.Shell

open Text (Octets)

def takesAssignments (name : Octets) : Bool :=
  ["export", "readonly", "local", "alias"].contains (String.ofList name)

def expandOperand (kit : Kit) (word : Word) : Sh (List Octets) := do
  match assignment? word with
  | some (name, value) => do
      let text ← expandText (capture kit) (markHomes value)
      return [name ++ '=' :: text]
  | none => expandFields (capture kit) word

def expandOperands (kit : Kit) : List Word → Sh (List Octets)
  | [] => pure []
  | word :: rest => do
      let fields ← expandOperand kit word
      return fields ++ (← expandOperands kit rest)

def expandCommand (kit : Kit) : List Word → Sh (List Octets)
  | [] => pure []
  | word :: rest => do
      match ← expandFields (capture kit) word with
      | [] => expandCommand kit rest
      | [name] =>
          if name = "command".toList then return name :: (← expandCommand kit rest)
          else if takesAssignments name then return name :: (← expandOperands kit rest)
          else return name :: (← expandAllFields (capture kit) rest)
      | fields => return fields ++ (← expandAllFields (capture kit) rest)

def assignAll (kit : Kit) (exported : Bool) :
    List (Octets × Word) → Sh (List (Octets × Octets))
  | [] => pure []
  | (name, word) :: rest => do
      let value ← expandText (capture kit) word
      Sh.assign name value
      if exported then Builtins.export' name value
      return (name, value) :: (← assignAll kit exported rest)

def restoreVars (saved : List (Octets × Option Variable)) : Sh Unit :=
  modify fun state => { state with
    vars := saved.foldl (fun vars (name, held) =>
      match held with
      | some held => Assoc.set name held vars
      | none => Assoc.erase name vars) state.vars }

def withAssignments (kit : Kit) (assignments : List (Octets × Word))
    (body : List (Octets × Octets) → Sh Unit) : Sh Unit := do
  if assignments.isEmpty then body []
  else
    let state ← get
    let saved := assignments.map fun (name, _) => (name, state.vars.lookup name)
    Sh.ensure (do body (← assignAll kit true assignments)) (restoreVars saved)

def showCommand (assigned : List (Octets × Octets)) (fields : List Octets) : Sh Unit := do
  if (← get).has 'x' then
    let parts := assigned.map (fun (name, value) => name ++ '=' :: value) ++ fields
    Sh.say 2 ((← get).valueOf "PS4" ++ Tools.joinWords parts ++ ['\n'])

def execOrScript (exec : Tools.Exec) : Tools.Exec := fun path call => do
  match ← exec path call with
  | .error .badFormat =>
      exec "/bin/sh".toList { call with name := "/bin/sh".toList, args := path :: call.args }
  | result => return result

def becomeProgram (kit : Kit) (name : Octets) (args : List Octets) : Sh Unit := do
  let state ← get
  let call : Tools.Call := { name, args, vars := state.exportedVars }
  let paths := Tools.candidates (state.valueOf "PATH") name
  Chore.change (closeAll state.kept)
  match ← (Tools.runFirst (execOrScript kit.exec) call paths .missing : Chore _) with
  | .ok status => (Chore.exit status : Chore Unit)
  | .error fault => do
      let reason := if Tools.refusalStatus fault = 127 && fault != .tooManyLinks &&
        fault != .nameTooLong then "not found" else fault.message
      Sh.complain (String.ofList name ++ ": " ++ reason)
      Sh.leave (Tools.refusalStatus fault)

def hasActions (state : State) : Bool :=
  state.traps.any fun entry => !entry.2.isEmpty

def runProgram (kit : Kit) (mode : Mode) (name : Octets) (args : List Octets) : Sh Unit := do
  if !name.contains '/' && (← Builtins.found name).isEmpty then
    let paths := Tools.candidates ((← get).valueOf "PATH") name
    let occupied ← Sh.scene fun scene => paths.any fun path => (scene.stat path).isOk
    Sh.complain (String.ofList name ++ if occupied then ": Permission denied" else ": not found")
    Sh.setStatus 127
  else if mode.last && !hasActions (← get) then becomeProgram kit name args
  else
    let process ← forkShell kit id (becomeProgram kit name args)
    Sh.setStatus (← awaitChild process)

def functionLimit : Nat := 1000

def callFunction (kit : Kit) (mode : Mode) (body : Command) (args : List Octets) : Sh Unit := do
  let outer ← get
  if functionLimit ≤ outer.locals.length then
    Sh.fail ("Maximum function recursion depth (" ++ Nat.repr functionLimit ++ ") reached")
  set { outer with args, loops := 0, locals := [] :: outer.locals, optionIndex := 1, letters := 0 }
  let result ← Sh.attempt (kit.run { tested := mode.tested } body)
  restoreVars ((← get).locals.headD [])
  modify fun state => { state with
    args := outer.args
    loops := outer.loops
    locals := outer.locals
    optionIndex := outer.optionIndex
    letters := outer.letters }
  match result with
  | .ok () | .error .returned => pure ()
  | .error jump => throw jump

def runBuiltin (special : Bool) (name : Octets) (body : Sh Nat) : Sh Unit := do
  let outer := (← get).builtin
  modify fun state => { state with builtin := some name }
  let result ← Sh.attempt body
  modify fun state => { state with builtin := outer }
  match result with
  | .ok status => Sh.setStatus status
  | .error .failed => if special then throw .failed else Sh.setStatus 2
  | .error jump => throw jump

def meaning (name : Octets) : Sh (Option (Octets × String)) := do
  let text := String.ofList name
  if isKeyword name then return some (name, "is a shell keyword")
  else if let some value := (← get).aliases.lookup name then
    return some ("alias ".toList ++ name ++ '=' :: Builtins.quoted value,
      "is an alias for " ++ String.ofList value)
  else if specialBuiltins.contains text then return some (name, "is a special shell builtin")
  else if ((← get).functions.lookup name).isSome then return some (name, "is a shell function")
  else if isBuiltin name then return some (name, "is a shell builtin")
  else
    match ← Builtins.found name with
    | path :: _ => return some (path, "is " ++ String.ofList path)
    | [] => return none

def describe : List Octets → Nat → Sh Nat
  | [], status => pure status
  | name :: rest, status => do
      match ← meaning name with
      | some (_, text) => do
          Builtins.line (name ++ ' ' :: text.toList)
          describe rest status
      | none => do
          Builtins.line (name ++ ": not found".toList)
          describe rest 127

inductive Direct where
  | asked (long : Bool) (names : List Octets)
  | run (fields : List Octets)
  | refused (option : Char)

def direct : Nat → List Octets → Direct
  | 0, args => .run args
  | fuel + 1, args =>
      match args with
      | ['-', '-'] :: rest => .run rest
      | ('-' :: c :: letters) :: rest =>
          if let some option := (c :: letters).find? fun c => c != 'p' && c != 'v' && c != 'V' then
            .refused option
          else if (c :: letters).contains 'v' then .asked false rest
          else if (c :: letters).contains 'V' then .asked true rest
          else direct fuel rest
      | args => .run args

def answer (long : Bool) : List Octets → Sh Nat
  | [] => pure 0
  | name :: _ => do
      if long then describe [name] 0
      else
        match ← meaning name with
        | some (text, _) => do
            Builtins.line text
            return 0
        | none => return 127

def runNamed (kit : Kit) (mode : Mode) : Nat → Bool → List Octets → Sh Unit
  | 0, _, _ => pure ()
  | _ + 1, _, [] => Sh.setStatus 0
  | fuel + 1, plain, name :: args => do
      let special := plain && specialBuiltins.contains (String.ofList name)
      let functions := (← get).functions
      let function := if plain && !special then functions.lookup name else none
      match function, String.ofList name with
      | some body, _ => callFunction kit mode body args
      | none, "command" =>
          match direct (args.length + 1) args with
          | .asked long names => runBuiltin false name (answer long names)
          | .run fields => runNamed kit mode fuel false fields
          | .refused option =>
              runBuiltin false name (Sh.fail ("Illegal option -" ++ option.toString))
      | none, "exec" =>
          match args.filter fun arg => arg != ['-', '-'] with
          | [] => Sh.setStatus 0
          | program :: args => runBuiltin special name do
              becomeProgram kit program args
              return 0
      | none, "type" => runBuiltin false name (describe args 0)
      | none, text =>
          match builtins.lookup text with
          | some builtin => runBuiltin special name (builtin kit mode args)
          | none => runProgram kit mode name args

def isExec : List Octets → Bool
  | name :: rest => name = "exec".toList || (name = "command".toList && rest.head? = some "exec".toList)
  | [] => false

def runSimple (kit : Kit) (mode : Mode) (assignments : List (Octets × Word)) (words : List Word)
    (redirections : List Redirection) : Sh Unit := do
  modify fun state => { state with substitution := 0 }
  let fields ← expandCommand kit words
  let special := (fields.head?.map fun name => specialBuiltins.contains (String.ofList name)).getD false
  let targets ← targets (capture kit) redirections
  let refused : Sh Unit := do
    Sh.setStatus 2
    if special then throw .failed
  withTargets (capture kit) targets (pure (isExec fields)) refused do
    match fields with
    | [] => do
        showCommand (← assignAll kit false assignments) []
        Sh.setStatus (← get).substitution
    | fields =>
        let run (assigned : List (Octets × Octets)) : Sh Unit := do
          showCommand assigned fields
          runNamed kit mode (fields.length + 1) true fields
        if special then do run (← assignAll kit (isExec fields && 1 < fields.length) assignments)
        else withAssignments kit assignments run

inductive Turn where
  | next
  | stop

def turnOf : Except Jump Unit → Sh Turn
  | .ok () | .error (.loops 0 true) => pure .next
  | .error (.loops 0 false) => pure .stop
  | .error (.loops (more + 1) resume) => throw (.loops more resume)
  | .error jump => throw jump

def rounds (kit : Kit) (mode : Mode) (untilHolds : Bool) (condition body : Command) :
    Nat → Nat → Sh Unit
  | 0, _ => pure ()
  | fuel + 1, status => do
      match ← Sh.attempt (kit.run { tested := true } condition) with
      | .ok () =>
          if ((← get).status == 0) == untilHolds then Sh.setStatus status
          else
            match ← turnOf (← Sh.attempt (kit.run { tested := mode.tested } body)) with
            | .next => rounds kit mode untilHolds condition body fuel (← get).status
            | .stop => pure ()
      | left =>
          match ← turnOf left with
          | .next => rounds kit mode untilHolds condition body fuel status
          | .stop => Sh.setStatus status

def eachRound (kit : Kit) (mode : Mode) (name : Octets) (body : Command) : List Octets → Sh Unit
  | [] => pure ()
  | value :: rest => do
      Sh.assign name value
      match ← turnOf (← Sh.attempt (kit.run { tested := mode.tested } body)) with
      | .next => eachRound kit mode name body rest
      | .stop => pure ()

def inLoop (body : Sh Unit) : Sh Unit := do
  modify fun state => { state with loops := state.loops + 1 }
  Sh.ensure body (modify fun state => { state with loops := state.loops - 1 })

def roundLimit : Nat := 1000000000

def anyFits (kit : Kit) (text : Octets) : List Word → Sh Bool
  | [] => pure false
  | pattern :: rest => do
      if fits (← expandPattern (capture kit) pattern) text then return true
      else anyFits kit text rest

def branch (kit : Kit) (mode : Mode) (text : Octets) : List (List Word × Command) → Sh Unit
  | [] => Sh.setStatus 0
  | (patterns, body) :: rest => do
      if ← anyFits kit text patterns then
        if isNothing body then Sh.setStatus 0 else kit.run mode body
      else branch kit mode text rest

def startBackground (kit : Kit) (command : Command) : Sh Unit := do
  let processes ←
    match command with
    | .pipeline parts => startParts kit { last := true } detachFromTerminal none parts
    | command => do
        let process ← forkShell kit detachFromTerminal (kit.run { last := true } command)
        pure [process]
  modify fun state => { state with latest := processes.getLast? }
  addJob processes
  Sh.setStatus 0

def runSubshell (kit : Kit) (mode : Mode) (targets : List (Nat × Target)) (body : Command) :
    Sh Unit := do
  let inner : Sh Unit :=
    withTargets (capture kit) targets (pure false) (Sh.leave 2) (kit.run { mode with last := true } body)
  if mode.last && !hasActions (← get) then
    modify fun state => { state with jobs := [] }
    inner
    throw .ended
  else
    let process ← forkShell kit id inner
    Sh.setStatus (← awaitChild process)

def awaitAll : List Nat → Sh Nat
  | [] => pure 0
  | [process] => awaitChild process
  | process :: rest => do
      let _ ← awaitChild process
      awaitAll rest

def isDecisive : Command → Bool
  | .simple _ _ _ _ | .pipeline _ | .subshell _ | .background _ => true
  | .redirected (.subshell _) _ => true
  | _ => false

def runParts (kit : Kit) (mode : Mode) (command : Command) : Sh Unit := do
  let inner : Mode := { tested := mode.tested }
  match command with
  | .nothing => pure ()
  | .simple assignments words redirections line => do
      modify fun state => { state with line }
      runSimple kit mode assignments words redirections
  | .pipeline parts => do
      let processes ← startParts kit { mode with last := true } id none parts
      Sh.setStatus (← awaitAll processes)
  | .negated command => do
      kit.run { tested := true } command
      Sh.setStatus (if (← get).status = 0 then 1 else 0)
  | .both first second => do
      kit.run { tested := true } first
      if (← get).status = 0 then kit.run mode second
  | .either first second => do
      kit.run { tested := true } first
      if (← get).status != 0 then kit.run mode second
  | .sequence first second => do
      kit.run inner first
      kit.run mode second
  | .background command => startBackground kit command
  | .subshell body => runSubshell kit mode [] body
  | .redirected (.subshell body) redirections => do
      runSubshell kit mode (← targets (capture kit) redirections) body
  | .redirected command redirections => do
      let targets ← targets (capture kit) redirections
      withTargets (capture kit) targets (pure false) (Sh.setStatus 2) (kit.run inner command)
  | .choice condition first second => do
      kit.run { tested := true } condition
      if (← get).status = 0 then kit.run mode first
      else if isNothing second then Sh.setStatus 0
      else kit.run mode second
  | .loop untilHolds condition body =>
      inLoop (rounds kit mode untilHolds condition body roundLimit 0)
  | .each name words body => do
      let values ←
        match words with
        | some words => expandAllFields (capture kit) words
        | none => do pure (← get).args
      if values.isEmpty then Sh.setStatus 0 else inLoop (eachRound kit mode name body values)
  | .match word branches => do
      branch kit mode (← expandText (capture kit) word) branches
  | .define name body => do
      modify fun state => { state with functions := Assoc.set name body state.functions }
      Sh.setStatus 0

/-- Runs a command, looks after signals, and gives up behind a failure if the shell is told to. A
shell that only reads runs nothing. -/
def runCommand (kit : Kit) (mode : Mode) (command : Command) : Sh Unit := do
  if (← get).has 'n' then pure ()
  else
    let result ← Sh.attempt (runParts kit mode command)
    match result with
    | .ok () => runActions kit
    | .error .returned => pure ()
    | .error jump => throw jump
    let state ← get
    if state.has 'e' && !mode.tested && isDecisive command && state.status != 0 then throw .ended
    if let .error jump := result then throw jump

def callLimit : Nat := 100000

def runNested (exec : Tools.Exec) : Nat → Mode → Command → Sh Unit
  | 0, _, _ => Sh.fail "too deeply nested"
  | depth + 1, mode, command => runCommand { exec, run := runNested exec depth } mode command

def kitFor (exec : Tools.Exec) : Kit :=
  { exec, run := runNested exec callLimit }

def defaultPath : String :=
  "/usr/local/sbin:/usr/local/bin:/usr/sbin:/usr/bin:/sbin:/bin"

def directoryFor (scene : Scene) (written : Option Octets) : Octets :=
  match written with
  | some ('/' :: path) =>
      match scene.stat ('/' :: path) with
      | .ok entry => if entry.spot = scene.cwd then '/' :: path else HostDisk.spotText scene.cwd
      | .error _ => HostDisk.spotText scene.cwd
  | _ => HostDisk.spotText scene.cwd

def startState (call : Tools.Call) (process : Nat) (directory : Octets) : State :=
  let inherited := (call.vars.filter fun entry => isName entry.1).map fun (name, value) =>
    (name, ({ value := some value, exported := true } : Variable))
  let state : State := { vars := inherited, name := call.name, process, directory, line := 0 }
  let preset (state : State) (name value : String) : State :=
    state.assign name.toList value.toList
  let state := preset (preset (preset state "IFS" " \t\n") "OPTIND" "1") "PPID" "1"
  let state := preset (preset state "PS1" "# ") "PS2" "> "
  let state := if (state.value? "PS4".toList).isNone then preset state "PS4" "+ " else state
  let state := if (state.value? "PATH".toList).isNone then preset state "PATH" defaultPath else state
  { state with
    vars := Assoc.set "PWD".toList { value := some directory, exported := true } state.vars }

def startOptions : Nat → List Octets → Bool × Bool → Sh (List Octets × Bool × Bool)
  | 0, args, flags => pure (args, flags)
  | fuel + 1, args, flags =>
      match args with
      | ['-'] :: rest | ['-', '-'] :: rest => pure (rest, flags)
      | (sign :: letters) :: rest => do
          if sign == '-' || sign == '+' then
            let (rest, flags) ← cluster (sign == '-') letters rest flags
            startOptions fuel rest flags
          else return (args, flags)
      | args => pure (args, flags)
where
  cluster (value : Bool) : Octets → List Octets → Bool × Bool →
      Sh (List Octets × Bool × Bool)
    | [], rest, flags => pure (rest, flags)
    | letter :: letters, rest, (asText, fromInput) => do
        if letter == 'c' && value then cluster value letters rest (true, fromInput)
        else if letter == 'o' then
          Builtins.switchNamed value (rest.headD [])
          cluster value letters (rest.drop 1) (asText, fromInput)
        else if letter == 'l' then cluster value letters rest (asText, fromInput)
        else
          Builtins.switch value letter
          cluster value letters rest (asText, fromInput || letter == 's')

def runTask (kit : Kit) (args : List Octets) : Sh Unit := do
  let (args, asText, fromInput) ← startOptions (args.length + 1) args (false, false)
  if asText && args.isEmpty then Sh.fail "-c requires an argument"
  modify fun state => { state with line := 1 }
  if asText then
    match args with
    | [] => pure ()
    | text :: rest => do
        if let name :: rest := rest then modify fun state => { state with name, args := rest }
        runText kit {} text
  else
    match args with
    | path :: rest =>
        if fromInput then
          modify fun state => { state with args }
          runInput
        else do
          match ← (Chore.readFile path : Chore _) with
          | .error fault => do
              Sh.complainAt 0 (openingFault .reading path fault)
              Sh.leave 2
          | .ok text => do
              modify fun state => { state with name := path, args := rest }
              runText kit {} text
    | [] => runInput
where
  runInput : Sh Unit := do
    let text : Except HostFault Octets ← (Chore.readAll 0 : Chore _)
    runText kit {} (text.toOption.getD [])

def shell (exec : Tools.Exec) : Tools.Tool := fun call => do
  let written := call.vars.lookup "PWD".toList
  let (process, directory) ← Chore.look fun scene => (scene.self, directoryFor scene written)
  let kit := kitFor exec
  conclude kit (runTask kit call.args) (startState call process directory)

end ArtifactPipeline.Shell
