import ArtifactPipeline.Host.RichShell.Programs

set_option autoImplicit false

namespace ArtifactPipeline.RichShell

open Text (Octets)
open Shell (isName)

def hiddenTraps (state : State) (function : Function) : List String :=
  (if state.has 'T' || function.traced then [] else ["DEBUG", "RETURN"]) ++
    (if state.has 'E' then [] else ["ERR"])

def callFunction (kit : Kit) (mode : Mode) (name : Octets) (function : Function)
    (assignments : List Word) (args : List Octets) : Sh Unit := do
  let depth := (← get).scopes.length
  modify fun state => { state with scopes := { passing := true } :: state.scopes }
  let prepared ← Sh.attempt (passWords kit assignments)
  let outer ← get
  let hidden := hiddenTraps outer function
  let limit := (outer.valueOf? "FUNCNEST").bind Builtins.integer?
  match prepared with
  | .error jump => do
      modify fun state => { state with scopes := state.scopes.drop (state.scopes.length - depth) }
      throw jump
  | .ok () => do
      if (limit.map fun limit => 0 < limit && limit ≤ (outer.frames.length : Int)).getD false then
        modify fun state => { state with scopes := state.scopes.drop (state.scopes.length - depth) }
        Sh.drop (String.ofList name ++ ": maximum function nesting level exceeded (" ++
          Nat.repr (limit.getD 0).toNat ++ ")")
      set { outer with
        args
        loops := 0
        builtin := none
        lineShift := 0
        scopes := match outer.scopes with
          | scope :: rest => { scope with passing := false } :: rest
          | [] => []
        traps := outer.traps.filter fun entry => !hidden.contains entry.1
        title := function.source
        frames := { name, line := outer.line, source := function.source } :: outer.frames }
      let result ← Sh.attempt (kit.run { tested := mode.tested } function.body)
      match result with
      | .ok () | .error .returned => onOccasion kit "RETURN"
      | .error _ => pure ()
      modify fun state => { state with
        args := outer.args
        loops := outer.loops
        builtin := outer.builtin
        lineShift := outer.lineShift
        line := outer.line
        scopes := state.scopes.drop (state.scopes.length - depth)
        title := outer.title
        frames := outer.frames
        traps := state.traps ++ outer.traps.filter fun entry =>
          hidden.contains entry.1 && (state.traps.lookup entry.1).isNone }
      match result with
      | .ok () | .error .returned => pure ()
      | .error jump => throw jump

def runBuiltin (name : Octets) (body : Sh Nat) : Sh Unit := do
  let outer := (← get).builtin
  modify fun state => { state with builtin := some name }
  let result ← Sh.attempt body
  modify fun state => { state with builtin := outer }
  match result with
  | .ok status => Sh.setStatus status
  | .error jump => throw jump

inductive Direct where
  | asked (long : Bool) (names : List Octets)
  | run (standard : Bool) (operands : List Operand)
  | refused

def direct (operands : List Operand) : Sh Direct := do
  match ← Builtins.readOptions "pVv" false (operands.length + 1) operands [] with
  | none => return .refused
  | some options =>
      match options.lastOf? ['v', 'V'] with
      | some letter => return .asked (letter == 'V') options.texts
      | none => return .run (options.has 'p') options.operands

structure Lookup where
  functions : Bool := true
  programs : Bool := true
  standard : Bool := false

def runProgram (kit : Kit) (mode : Mode) (lookup : Lookup) (redirections : List Redirection)
    (words : List Octets) (command : Command) : Sh Unit := do
  let whereabouts ← locate lookup.standard (words.headD [])
  let body : Sh Unit := do
    let opened ← withFiles kit.expander redirections (pure true) (pure ())
    if opened then becomeProgram kit whereabouts words
    else Sh.leave (← get).status
  if mode.last && !hasActions (← get) then
    lowerLevel
    body
    throw .ended
  else
    let process ← forkShell kit id body
    Sh.setStatus (← awaitChild process command)

def runNamed (kit : Kit) (mode : Mode) (command : Command) :
    Nat → Lookup → List Redirection → List Word → List Operand → Sh Unit
  | 0, _, _, _, _ => pure ()
  | _ + 1, _, _, _, [] => Sh.setStatus 0
  | fuel + 1, lookup, redirections, assignments, operand :: operands => do
      let name := operand.text
      let state ← get
      let function := if lookup.functions then state.functions.lookup name else none
      match function with
      | some function => do
          let _ ← withFiles kit.expander redirections (pure false)
            (callFunction kit { tested := mode.tested } name function assignments
              (operands.map (·.text)))
      | none =>
          if Builtins.isBuiltin state name then
            let lasting : Sh Bool := pure (name = "exec".toList)
            let _ ← withFiles kit.expander redirections lasting
              (withPassing kit assignments (runOwn fuel lookup name operands))
          else if lookup.programs then
            if mode.last && !hasActions state then
              passLasting assignments
              runProgram kit mode lookup redirections (name :: operands.map (·.text)) command
            else
              withPassing kit assignments
                (runProgram kit mode lookup redirections (name :: operands.map (·.text)) command)
          else do
            Sh.complainAs (String.ofList name ++ ": not a shell builtin")
            Sh.setStatus 1
termination_by fuel => (fuel, 0)
where
  passLasting (assignments : List Word) : Sh Unit := do
    if !assignments.isEmpty then
      modify fun state => { state with scopes := { passing := true } :: state.scopes }
      passWords kit assignments
  runOwn (fuel : Nat) (lookup : Lookup) (name : Octets) (operands : List Operand) : Sh Unit := do
    match String.ofList name with
    | "command" => do
        let outer := (← get).builtin
        modify fun state => { state with builtin := some name }
        let asked ← direct operands
        match asked with
        | .asked long names => do
            runBuiltin name (Builtins.answer long names)
            modify fun state => { state with builtin := outer }
        | .refused => do
            modify fun state => { state with builtin := outer }
            Sh.setStatus 2
        | .run standard operands => do
            modify fun state => { state with builtin := outer }
            runNamed kit mode command fuel
              { lookup with functions := false, standard := standard || lookup.standard } [] []
              operands
    | "builtin" => do
        let outer := (← get).builtin
        modify fun state => { state with builtin := some name }
        let options ← Builtins.readOptions "" false (operands.length + 1) operands []
        match options with
        | none => Sh.setStatus 2
        | some options =>
            runNamed kit mode command fuel { functions := false, programs := false } [] []
              options.operands
        modify fun state => { state with builtin := outer }
    | "exec" => runBuiltin name (exec kit operands)
    | text =>
        match builtins.lookup text with
        | some builtin => runBuiltin name (builtin kit mode operands)
        | none => Sh.setStatus 127
  termination_by (fuel, 1)

def showFile (kit : Kit) (word : Pieces) (raw : Octets) : Sh Unit := do
  match ← oneWord kit.expander word with
  | none => do
      Sh.complain (Refusal.ambiguous raw).message
      Sh.setStatus 1
  | some path =>
      match ← (Chore.readFile path : Chore _) with
      | .error fault => do
          Sh.complain (String.ofList path ++ ": " ++ fault.message)
          Sh.setStatus 1
      | .ok text => do
          Sh.say 1 text
          Sh.setStatus 0

def runNameless (kit : Kit) (assignments : List Word) (redirections : List Redirection) :
    Sh Unit := do
  assignWords kit assignments
  let status := (← get).substitution
  let opened ← withFiles kit.expander redirections (pure false) (pure ())
  if opened then
    let later := (← get).substitution
    Sh.setStatus (if later != 0 then later else status)

def noteLastWord (word : Octets) : Sh Unit :=
  modify fun state => { state with lastWord := word }

def runSimple (kit : Kit) (mode : Mode) (command : Command) (assignments words : List Word)
    (redirections : List Redirection) : Sh Unit := do
  modify fun state => { state with substitution := 0 }
  match mode.shows, assignments, words, redirections with
  | true, [], [], [.open none (.file .reading _) raw word] => showFile kit word raw
  | _, _, _, _ => do
      match ← expandCommand kit words with
      | [] => do
          runNameless kit assignments redirections
          noteLastWord []
      | operands => do
          let last := (operands.getLast?.map (·.text)).getD []
          traceOperands kit operands
          let channels := (← get).channels
          let result ← Sh.attempt
            (runNamed kit mode command (operands.length + 1) {} redirections assignments operands)
          noteLastWord last
          closeChannels channels
          if let .error jump := result then throw jump

inductive Turn where
  | next
  | stop

def turnOf : Except Jump Unit → Sh Turn
  | .ok () => pure .next
  | .error (.loops 0 resume) => do
      Sh.setStatus 0
      return if resume then .next else .stop
  | .error (.loops (more + 1) resume) => do
      Sh.setStatus 0
      throw (.loops more resume)
  | .error jump => throw jump

def rounds (kit : Kit) (mode : Mode) (untilHolds : Bool) (condition body : Command) :
    Nat → Nat → Sh Unit
  | 0, _ => pure ()
  | fuel + 1, status => do
      match ← Sh.attempt (kit.run { tested := true } condition) with
      | .ok () =>
          if ((← get).status == 0) == untilHolds then Sh.setStatus status
          else
            match ← turnOf (← Sh.attempt (kit.run { tested := mode.tested } body)) with
            | .next => rounds kit mode untilHolds condition body fuel (← get).status
            | .stop => pure ()
      | left =>
          match ← turnOf left with
          | .next => rounds kit mode untilHolds condition body fuel status
          | .stop => Sh.setStatus status

def announce (kit : Kit) (text : Octets) : Sh Unit := do
  if (← get).busy.isEmpty then modify fun state => { state with command := text }
  onOccasion kit "DEBUG"

def giveLoopValue (name value : Octets) : Sh Bool := do
  let state ← get
  let entry := (state.stored? name).getD {}
  if entry.reference then
    if isName value then
      modify fun state => state.putVariable name { entry with held := .text value }
    return true
  else
    match ← Sh.attempt (setText name false value) with
    | .ok () => return true
    | .error .dropped => return false
    | .error jump => throw jump

def eachRound (kit : Kit) (mode : Mode) (head name : Octets) (line : Nat) (body : Command) :
    List Octets → Sh Unit
  | [] => pure ()
  | value :: rest => do
      Sh.atLine line
      trace kit head
      announce kit head
      if !(← giveLoopValue name value) then Sh.setStatus 1
      else
        match ← turnOf (← Sh.attempt (kit.run { tested := mode.tested } body)) with
        | .next => eachRound kit mode head name line body rest
        | .stop => pure ()

def inLoop (body : Sh Unit) : Sh Unit := do
  modify fun state => { state with loops := state.loops + 1 }
  Sh.ensure body (modify fun state => { state with loops := state.loops - 1 })

def roundLimit : Nat := 1000000000

def countingPart (kit : Kit) (word : Word) (usual : Int) (line : Nat) : Sh (Option Int) := do
  let trimmed := (word.1.reverse.dropWhile fun c => c == ' ' || c == '\t').reverse
  if (trimmed.dropWhile fun c => c == ' ' || c == '\t').isEmpty then return some usual
  else
    Sh.atLine line
    announce kit ("((".toList ++ word.1 ++ "))".toList)
    let text ← expandText kit.expander word.2
    trace kit ("(( ".toList ++ text ++ " ))".toList)
    Arithmetic.evaluate "((" text

def countingRounds (kit : Kit) (mode : Mode) (condition step : Word) (body : Command) (line : Nat) :
    Nat → Sh Unit
  | 0 => pure ()
  | fuel + 1 => do
      let before := (← get).status
      match ← countingPart kit condition 1 line with
      | none => Sh.setStatus 1
      | some 0 => Sh.setStatus before
      | some _ => do
          Sh.setStatus before
          match ← turnOf (← Sh.attempt (kit.run { tested := mode.tested } body)) with
          | .stop => pure ()
          | .next =>
              let status := (← get).status
              match ← countingPart kit step 1 line with
              | none => Sh.setStatus 1
              | some _ => do
                  Sh.setStatus status
                  countingRounds kit mode condition step body line fuel

def menuText (columns : Nat) (items : List Octets) : Octets :=
  let count := items.length
  let digits := (decimal count).length
  let longest := (items.map List.length).foldl max 0
  let width := longest + digits + 4
  let across := max 1 (columns / max 1 width)
  let rows := if count = 0 then 1 else (count + across - 1) / across
  let across := if count = 0 then 1 else (count + rows - 1) / rows
  let rows := if rows = 1 then count else rows
  let across := if rows = count then 1 else across
  let entry (index : Nat) : Octets :=
    let number := decimal (index + 1)
    List.replicate (digits - number.length) ' ' ++ number ++ ") ".toList ++ (items[index]?.getD [])
  ((List.range rows).flatMap fun row =>
    let own := (List.range across).filterMap fun column =>
      let index := row + column * rows
      if index < count then some (column, entry index) else none
    let text := own.foldl (fun text (column, part) =>
      if column = 0 then part else tabbed (width * column) text ++ part) []
    text ++ ['\n'])
where
  tabbed (target : Nat) (text : Octets) : Octets :=
    go (target + 1) text.length target text
  go : Nat → Nat → Nat → Octets → Octets
    | 0, _, _, text => text
    | fuel + 1, place, target, text =>
        if target ≤ place then text
        else if place / 8 < target / 8 then
          go fuel (place + 8 - place % 8) target (text ++ ['\t'])
        else go fuel (place + 1) target (text ++ [' '])

def askMenu (kit : Kit) (items : List Octets) (shows : Bool) : Nat → Sh (Option Octets)
  | 0 => pure none
  | fuel + 1 => do
      let state ← get
      let columns := ((state.valueOf? "COLUMNS").bind Builtins.count?).getD 80
      if shows then Sh.say 2 (menuText columns items)
      let asked := (state.valueOf? "PS3").getD "#? ".toList
      Sh.say 2 asked
      let status ← Builtins.read kit {} []
      if status != 0 then
        Sh.say 1 ['\n']
        return none
      else
        let answer := (← get).valueOf "REPLY"
        if answer.isEmpty then askMenu kit items true fuel
        else
          match Builtins.integer? answer with
          | some number =>
              if 1 ≤ number && number ≤ (items.length : Int) then
                return some (items[number.toNat - 1]?.getD [])
              else return some []
          | none => return some []

def menuRounds (kit : Kit) (mode : Mode) (name : Octets) (items : List Octets) (body : Command) :
    Nat → Bool → Sh Unit
  | 0, _ => pure ()
  | fuel + 1, shows => do
      match ← askMenu kit items shows fuel with
      | none => Sh.setStatus 1
      | some value => do
          setText name false value
          match ← turnOf (← Sh.attempt (kit.run { tested := mode.tested } body)) with
          | .next =>
              let empty := ((← get).valueOf "REPLY").isEmpty
              menuRounds kit mode name items body fuel empty
          | .stop => pure ()

def anyFits (kit : Kit) (text : Octets) : List Word → Sh Bool
  | [] => pure false
  | (_, pattern) :: rest => do
      let field ← expandPattern kit.expander pattern
      if Glob.fits (patternOf (globStyle (← get) "nocasematch") field) text then return true
      else anyFits kit text rest

def branch (kit : Kit) (mode : Mode) (text : Octets) :
    Bool → List (List Word × Command × BranchEnd) → Sh Unit
  | _, [] => pure ()
  | chosen, (patterns, body, branchEnd) :: rest => do
      let fits ← if chosen then pure true else anyFits kit text patterns
      if fits then
        if isNothing body then Sh.setStatus 0 else kit.run { mode with last := false } body
        match branchEnd with
        | .leave => pure ()
        | .fall => branch kit mode text true rest
        | .goOn => branch kit mode text false rest
      else branch kit mode text false rest

def forgetOuter : Sh Unit :=
  modify fun state => { state with jobs := [], current := none, previous := none, loops := 0 }

def pipelineOf : Command → List Command
  | .pipeline parts => parts
  | command => [command]

def noteBackground (processes : List Nat) (texts : List Octets) : Sh Unit := do
  modify fun state => { state with
    latest := processes.getLast?
    children := state.children ++ processes }
  startJob (processes.zip texts)

def startBackground (kit : Kit) (command : Command) : Sh Unit := do
  let parts := pipelineOf command
  let own : Kit := { kit with run := fun mode command => do
    forgetOuter
    kit.run mode command }
  let processes ← startParts own { last := true } detachFromTerminal none parts
  let documents := (← get).documents
  noteBackground processes (parts.map (commandText documents))
  Sh.setStatus 0

def runSubshell (kit : Kit) (mode : Mode) (redirections : List Redirection) (command body : Command) :
    Sh Unit := do
  let process ← forkShell kit id do
    forgetOuter
    let opened ← withFiles kit.expander redirections (pure true) (pure ())
    if opened then kit.run { tested := mode.tested, last := true } body
    else Sh.leave (← get).status
  Sh.setStatus (← awaitChild process command)

def startPartner (kit : Kit) (name : Octets) (command body : Command) : Sh Unit := do
  let (fromSource, fromSink) ← openPipe
  let (toSource, toSink) ← openPipe
  let process ← forkShell kit
    (fun scene => reattach fromSink 1 (reattach toSource 0
      ((scene.detach fromSource).detach toSink))) do
    forgetOuter
    kit.run { last := true } body
  Chore.change (closeAll [fromSink, toSource])
  let (reading, writing) : Nat × Nat ← (Chore.act fun scene =>
    let first := channelDescriptor scene.me.files 63
    let scene := reattach fromSource first scene
    let second := channelDescriptor scene.me.files 60
    ((first, second), reattach toSink second scene) : Chore _)
  setItems name false [⟨none, false, decimal reading⟩, ⟨none, false, decimal writing⟩]
  setText (name ++ "_PID".toList) false (decimal process)
  let documents := (← get).documents
  noteBackground [process] [commandText documents command]
  Sh.setStatus 0

def runLastPart (kit : Kit) (mode : Mode) (parts : List Command) (last : Command) : Sh Unit := do
  let (source, sink) ← openPipe
  let processes ← startParts kit { mode with last := true, spared := true }
    (fun scene => reattach sink 1 (scene.detach source)) none parts
  Chore.close sink
  let kept ← keep 0
  Chore.change (reattach source 0)
  Sh.ensure (kit.run { tested := mode.tested, spared := true } last) (giveBack false kept)
  let own := (← get).status
  let endings ← awaitParts (processes.zip parts)
  finish (endings.map Ending.status ++ [own])
where
  finish (statuses : List Nat) : Sh Unit :=
    modify fun state =>
      let failed := ((statuses.filter fun status => status != 0).getLast?).getD 0
      { state with
        statuses
        status := if state.hasNamed "pipefail" then failed else statuses.getLast?.getD 0 }

def runPipeline (kit : Kit) (mode : Mode) (parts : List Command) : Sh Unit := do
  let state ← get
  match parts.getLast? with
  | none => pure ()
  | some last =>
      if state.does "lastpipe" && !state.has 'm' && 1 < parts.length then
        runLastPart kit mode parts.dropLast last
      else
        let processes ← startParts kit { mode with last := true, spared := true } id none parts
        let endings ← awaitParts (processes.zip parts)
        runLastPart.finish (endings.map Ending.status)

def spanText (time : Nat) : Octets :=
  let millis := time / 1000000
  let fraction := decimal (millis % 1000)
  decimal (millis / 60000) ++ 'm' :: decimal (millis / 1000 % 60) ++ '.' ::
    List.replicate (3 - fraction.length) '0' ++ fraction ++ ['s']

def shortSpan (time : Nat) : Octets :=
  let hundredths := time / 10000000
  let fraction := decimal (hundredths % 100)
  decimal (hundredths / 100) ++ '.' :: List.replicate (2 - fraction.length) '0' ++ fraction

def timeReport (state : State) (short : Bool) (time : Nat) : Octets :=
  match (if short then none else state.valueOf? "TIMEFORMAT") with
  | some [] => []
  | some format => formatted (format.length + 1) format ++ ['\n']
  | none =>
      if short then "real ".toList ++ shortSpan time ++ "\nuser 0.00\nsys 0.00\n".toList
      else "\nreal\t".toList ++ spanText time ++ "\nuser\t0m0.000s\nsys\t0m0.000s\n".toList
where
  formatted : Nat → Octets → Octets
    | 0, text => text
    | fuel + 1, text =>
        match text with
        | '%' :: '%' :: rest => '%' :: formatted fuel rest
        | '%' :: 'P' :: rest => "0.00".toList ++ formatted fuel rest
        | '%' :: rest => spans fuel rest
        | c :: rest => c :: formatted fuel rest
        | [] => []
  termination_by fuel => (fuel, 0)
  spans (fuel : Nat) (text : Octets) : Octets :=
    let digits := (text.takeWhile Char.isDigit).take 1
    let rest := text.drop digits.length
    let places := if digits.isEmpty then 3 else min 3 (numberOf digits)
    let (long, rest) := match rest with
      | 'l' :: rest => (true, rest)
      | rest => (false, rest)
    let shown (time : Nat) : Octets :=
      let millis := time / 1000000
      let fraction := decimal (millis % 1000)
      let fraction := (List.replicate (3 - fraction.length) '0' ++ fraction).take places
      let behind := if places = 0 then [] else '.' :: fraction
      if long then decimal (millis / 60000) ++ 'm' :: decimal (millis / 1000 % 60) ++ behind ++ ['s']
      else decimal (millis / 1000) ++ behind
    match rest with
    | 'R' :: rest => shown time ++ formatted fuel rest
    | 'U' :: rest | 'S' :: rest => shown 0 ++ formatted fuel rest
    | rest => '%' :: formatted fuel rest
  termination_by (fuel, 1)

def runTimed (kit : Kit) (mode : Mode) (short : Bool) (command : Command) : Sh Unit := do
  let start ← Sh.scene fun scene => scene.disk.clock
  Sh.ensure (if isNothing command then Sh.setStatus 0 else kit.run { mode with last := false } command)
    (do
      let now ← Sh.scene fun scene => scene.disk.clock
      let state ← get
      Sh.say 2 (timeReport state short (now - start)))

def isDecisive : Command → Bool
  | .simple _ _ _ _ | .pipeline _ | .subshell _ | .compute _ _ _ | .test _ _ => true
  | .redirected command _ => isDecisive command
  | _ => false

def hasOwnStatus : Command → Bool
  | .simple _ _ _ _ | .subshell _ | .compute _ _ _ | .test _ _ | .redirected (.subshell _) _ => true
  | _ => false

def simpleText (state : State) (command : Command) : Octets :=
  commandText state.documents command

def headText (lead : String) (name : Octets) (words : Option (List Word)) : Octets :=
  lead.toList ++ name ++ (match words with
    | some words => " in".toList ++ words.flatMap fun word => ' ' :: word.1
    | none => " in \"$@\"".toList)

def runParts (kit : Kit) (mode : Mode) (command : Command) : Sh Unit := do
  let inner : Mode := { tested := mode.tested }
  match command with
  | .nothing => pure ()
  | .simple assignments words redirections line => do
      Sh.atLine line
      announce kit (simpleText (← get) command)
      runSimple kit mode command assignments words redirections
  | .pipeline parts => runPipeline kit mode parts
  | .negated command => do
      kit.run { tested := true } command
      Sh.setStatus (if (← get).status = 0 then 1 else 0)
  | .timed short command => runTimed kit mode short command
  | .both first second => do
      kit.run { tested := true } first
      if (← get).status = 0 then kit.run { mode with shows := false } second
  | .either first second => do
      kit.run { tested := true } first
      if (← get).status != 0 then kit.run { mode with shows := false } second
  | .sequence first second => do
      kit.run inner first
      kit.run { mode with shows := false } second
  | .background command => startBackground kit command
  | .subshell body => runSubshell kit mode [] command body
  | .group body => kit.run inner body
  | .redirected (.subshell body) redirections => runSubshell kit mode redirections command body
  | .redirected command redirections => do
      let _ ← withFiles kit.expander redirections (pure false) (kit.run inner command)
  | .choice condition first second => do
      kit.run { tested := true } condition
      if (← get).status = 0 then kit.run inner first
      else if isNothing second then Sh.setStatus 0
      else kit.run inner second
  | .loop untilHolds condition body =>
      inLoop (rounds kit mode untilHolds condition body roundLimit 0)
  | .each menu name words body line => do
      let state ← get
      Sh.atLine line
      if !isName name then
        Sh.complain ("\x60" ++ String.ofList name ++ "': not a valid identifier")
        Sh.setStatus 1
      else
        let values ←
          match words with
          | some words => expandAllFields kit.expander (words.map (·.2))
          | none => pure state.args
        let channels := state.channels
        Sh.setStatus 0
        if menu then
          let head := headText "select " name words
          trace kit head
          announce kit head
          if !values.isEmpty then inLoop (menuRounds kit mode name values body roundLimit true)
        else if !values.isEmpty then
          inLoop (eachRound kit mode (headText "for " name words) name line body values)
        closeChannels channels
  | .counted first condition step body line => do
      Sh.setStatus 0
      match ← countingPart kit first 1 line with
      | none => Sh.setStatus 1
      | some _ => inLoop (countingRounds kit mode condition step body line roundLimit)
  | .match raw word branches line => do
      Sh.atLine line
      let head := "case ".toList ++ raw ++ " in".toList
      trace kit head
      announce kit (head ++ [' '])
      let text ← expandText kit.expander word
      Sh.setStatus 0
      branch kit mode text false branches
  | .define name body => do
      let state ← get
      match state.functions.lookup name with
      | some { readOnly := true, .. } => do
          Sh.complain (String.ofList name ++ ": readonly function")
          Sh.setStatus 1
      | old => do
          let source := (state.frames.head?.map (·.source)).getD state.source
          let function : Function := { body, source, exported := (old.map (·.exported)).getD false }
          modify fun state => { state with functions := Assoc.set name function state.functions }
          Sh.setStatus 0
  | .compute raw expression line => do
      Sh.atLine line
      announce kit ("((".toList ++ raw ++ "))".toList)
      let text ← expandText kit.expander expression
      trace kit ("(( ".toList ++ text ++ " ))".toList)
      match ← Arithmetic.evaluate "((" text with
      | none => Sh.setStatus 1
      | some value => Sh.setStatus (if value = 0 then 1 else 0)
  | .test condition line => do
      Sh.atLine line
      announce kit (simpleText (← get) command)
      let shown (negated : Bool) (text : Octets) : Sh Unit :=
        trace kit ("[[ ".toList ++ (if negated then ['!', ' '] else []) ++ text ++ " ]]".toList)
      Sh.setStatus (← Test.decide kit shown false condition)
  | .partner name body => startPartner kit name command body

/-- Runs a command, looks after signals, and gives up behind a failure if the shell is told to. A
shell that only reads runs nothing. -/
def runCommand (kit : Kit) (mode : Mode) (command : Command) : Sh Unit := do
  if (← get).has 'n' then pure ()
  else
    runParts kit mode command
    if hasOwnStatus command then
      modify fun state => { state with statuses := [state.status] }
    runActions kit
    let state ← get
    if isDecisive command && !mode.tested && !mode.spared && state.status != 0 then
      onOccasion kit "ERR"
      if (← get).has 'e' then throw .ended

def nestLimit : Nat := 100000

def runNested (exec : Tools.Exec) : Nat → Mode → Command → Sh Unit
  | 0, _, _ => Sh.giveUp "too deeply nested"
  | depth + 1, mode, command => runCommand { exec, run := runNested exec depth } mode command

def kitFor (exec : Tools.Exec) : Kit :=
  { exec, run := runNested exec nestLimit }

end ArtifactPipeline.RichShell
