import ArtifactPipeline.Host.Tools.Permission
import ArtifactPipeline.Host.RichShell.Builtins.Flow
import ArtifactPipeline.Host.RichShell.Builtins.InputOutput

set_option autoImplicit false

namespace ArtifactPipeline.RichShell.Builtins

open Text (Octets)

def signalTable : Octets :=
  let entries := signalNumbers.zipIdx.map fun (signal, index) =>
    let number := decimal signal
    let entry := List.replicate (2 - number.length) ' ' ++ number ++ ") SIG".toList ++
      (signalName signal).toList
    entry ++ (if index % 5 = 4 then ['\n'] else ['\t'])
  entries.flatten ++ (if signalNumbers.length % 5 = 0 then [] else ['\n'])

def nameSignals (texts : List Octets) : Sh Nat :=
  eachOf texts fun text => do
    let refuse : Sh Nat := complainOf text "invalid signal specification"
    match integer? text with
    | some number =>
        let signal := if 128 < number then number - 128 else number
        if signal < 0 || 64 < signal then refuse
        else
          match occasionNames.find? fun entry => (entry.2 : Int) = signal with
          | some (name, _) => do
              line name.toList
              return 0
          | none => return 0
    | none =>
        match occasionOf? text with
        | some (_, number) => do
            line (decimal number)
            return 0
        | none => refuse

inductive JobFound where
  | job (job : Job)
  | none
  | several

def holdsPart (part : Octets) : Octets → Bool
  | [] => part.isEmpty
  | c :: rest => part.isPrefixOf (c :: rest) || holdsPart part rest

def findJob (state : State) (text : Octets) : JobFound :=
  let bare := if text.head? = some '%' then text.drop 1 else text
  let numbered (number : Option Nat) : JobFound :=
    match state.jobs.find? fun job => some job.number == number with
    | some job => .job job
    | none => .none
  let fitting (test : Octets → Bool) : JobFound :=
    match state.jobs.filter fun job => test (job.parts.head?.map (·.2) |>.getD []) with
    | [] => .none
    | [job] => .job job
    | _ => .several
  if text.isEmpty then .none
  else if isNumber bare then numbered (some (numberOf bare))
  else
    match bare with
    | [] | ['%'] | ['+'] => numbered state.current
    | ['-'] => numbered state.previous
    | '?' :: part => fitting fun command => holdsPart part command
    | start => fitting fun command => start.isPrefixOf command

def jobFor (text : Octets) (wrong : Nat) (run : Job → Sh Nat) : Sh Nat := do
  match findJob (← get) text with
  | .job job => run job
  | .several => do
      Sh.complainAs (String.ofList text ++ ": ambiguous job spec")
      return wrong
  | .none => do
      Sh.complainAs (String.ofList text ++ ": no such job")
      return wrong

structure Sending where
  signal : Option Nat := some 15
  shown : Octets := []
  lists : Bool := false
  named : Bool := false
  targets : List Octets := []

def withSignal (sending : Sending) (text : Octets) : Sending :=
  { sending with signal := (occasionOf? text).map (·.2), shown := text }

def readSending : List Octets → Sending → Except Octets Sending
  | [], sending => .ok sending
  | ['-', 'l'] :: rest, sending | ['-', 'L'] :: rest, sending =>
      readSending rest { sending with lists := true }
  | [['-', 's']], _ => .error ['-', 's']
  | [['-', 'n']], _ => .error ['-', 'n']
  | ['-', 's'] :: text :: rest, sending | ['-', 'n'] :: text :: rest, sending =>
      readSending rest (withSignal sending text)
  | ['-', '-'] :: rest, sending => .ok { sending with targets := rest }
  | ('-' :: text) :: rest, sending =>
      match text with
      | 's' :: c :: more =>
          if c.isAlpha then readSending rest (withSignal sending (c :: more))
          else plain text rest sending
      | 'n' :: c :: more =>
          if c.isDigit then readSending rest (withSignal sending (c :: more))
          else plain text rest sending
      | text => plain text rest sending
  | targets, sending => .ok { sending with targets }
termination_by args => (args.length, 0)
where
  plain (text : Octets) (rest : List Octets) (sending : Sending) : Except Octets Sending :=
    if sending.named then .ok { sending with targets := ('-' :: text) :: rest }
    else readSending rest { withSignal sending text with named := true }
  termination_by (rest.length, 1)

def sendTo (signal : Nat) (processes : List Nat) : Sh Bool := do
  let results ← processes.mapM fun process =>
    (Chore.act fun scene => scene.signal process signal : Chore (Except HostFault Unit))
  return results.any Except.isOk

def sendAll (signal : Nat) : List Octets → Bool → Sh Bool
  | [], succeeded => pure succeeded
  | text :: rest, succeeded => do
      let own ←
        match integer? text, text with
        | some number, _ =>
            if ← sendTo signal [number.toNat] then pure true
            else do
              Sh.complainAs ("(" ++ String.ofList (integerText number) ++ ") - No such process")
              pure false
        | none, [] => do
            Sh.complainAs "\x60': not a pid or valid job spec"
            pure false
        | none, '%' :: _ => do
            let status ← jobFor text 1 fun job => do
              let _ ← sendTo signal (job.parts.map (·.1))
              return 0
            pure (status == 0)
        | none, _ => do
            Sh.complainAs (String.ofList text ++ ": arguments must be process or job IDs")
            pure false
      sendAll signal rest (succeeded || own)

def kill : Builtin := onWords fun _ _ args => do
  if args.isEmpty then tellUsage
  else
    match readSending args {} with
    | .error option => do
        Sh.complainAs (String.ofList option ++ ": option requires an argument")
        return 1
    | .ok sending =>
        if sending.lists then
          if sending.targets.isEmpty then print signalTable else nameSignals sending.targets
        else
          match sending.signal with
          | none => complainOf sending.shown "invalid signal specification"
          | some signal => do
              if sending.targets.isEmpty then tellUsage
              else return if ← sendAll signal sending.targets false then 0 else 1

/-- Sets what is done on an occasion; without an action it has its usual effect. What was ignored from
the start of the shell stays so. -/
def setAction (name : String) (signal : Nat) (action : Option Octets) : Sh Unit := do
  if (← get).deaf.contains signal then pure ()
  else
    modify fun state => { state with
      shownTraps := []
      traps := match action with
        | some action => Assoc.set name action state.traps
        | none => Assoc.erase name state.traps }
    if (occasions.lookup name).isNone then
      Chore.change fun scene =>
        let me := scene.me
        let ignored := me.ignored.filter fun other => other != signal
        let caught := me.caught.filter fun other => other != signal
        match action with
        | none => scene.setMe { me with ignored, caught }
        | some [] => scene.setMe { me with ignored := signal :: ignored, caught }
        | some _ => scene.setMe { me with ignored, caught := signal :: caught }

def actionLine (state : State) (name : String) (signal : Nat) : Octets :=
  let shown := if state.shownTraps.isEmpty then state.traps else state.shownTraps
  let text := if state.deaf.contains signal then some [] else shown.lookup name
  match text with
  | some action =>
      "trap -- ".toList ++ quotedForm action ++ ' ' :: (occasionTitle name).toList ++ ['\n']
  | none => []

def showActions (texts : List Octets) : Sh Nat := do
  let state ← get
  if texts.isEmpty then
    print (occasionNames.flatMap fun (name, signal) => actionLine state name signal)
  else
    eachOf texts fun text => do
      match occasionOf? text with
      | some (name, signal) => print (actionLine state name signal)
      | none => complainOf text "invalid signal specification"

def trap : Builtin := fun _ _ operands =>
  withOptions "lp" false operands fun options => do
    let texts := options.texts
    if options.has 'l' then print signalTable
    else if options.has 'p' then showActions texts
    else
      match texts with
      | [] => showActions []
      | first :: rest =>
          let isSignal := (occasionOf? first).isSome
          let reset := isSignal && (isNumber first || (rest.isEmpty && first != ['-']))
          if reset then change none texts
          else if rest.isEmpty then tellUsage
          else change (if first = ['-'] then none else some first) rest
where
  change (action : Option Octets) (texts : List Octets) : Sh Nat :=
    eachOf texts fun text => do
      match occasionOf? text with
      | some (name, signal) => do
          setAction name signal action
          return 0
      | none => complainOf text "invalid signal specification"

def awaitUnlessSignaled (ready : Scene → Bool) : Sh (Option Nat) := do
  Chore.await fun scene => ready scene || !scene.me.pending.isEmpty
  Sh.scene fun scene =>
    if ready scene then none else scene.me.pending.head?.map fun signal => 128 + signal

def waitOne (process : Nat) : Sh Nat := do
  match ← awaitUnlessSignaled fun scene => (scene.endingOf process).isSome with
  | some status => return status
  | none => do
      tellKilled
      let now ← Sh.scene id
      forgetJobs fun job => !job.runs now && job.parts.any fun part => part.1 == process
      return ((now.endingOf process).getD (.exited 0)).status

def waitAll : Sh Nat := do
  let state ← get
  let processes := state.children ++ state.jobs.flatMap fun job => job.parts.map (·.1)
  match ← awaitUnlessSignaled fun scene =>
      processes.all fun process => (scene.endingOf process).isSome with
  | some status => return status
  | none => do
      tellKilled
      forgetJobs fun _ => true
      return 0

def tell (name : Option Octets) (process : Nat) : Sh Unit := do
  if let some name := name then
    let _ ← give name (decimal process)

def waitAny (name : Option Octets) (jobs : List Job) : Sh Nat := do
  if jobs.isEmpty then return 127
  else
    match ← awaitUnlessSignaled fun scene => jobs.any fun job => !job.runs scene with
    | some status => return status
    | none => do
        let now ← Sh.scene id
        match jobs.find? fun job => !job.runs now with
        | none => return 127
        | some job => do
            tellKilled
            forgetJobs fun other => other.number == job.number
            tell name job.leader
            return ((job.ending? now).getD (.exited 0)).status

def jobNamed? (state : State) (text : Octets) : Option Job :=
  match (if isNumber text then some (numberOf text) else none) with
  | some process => state.jobs.find? fun job => job.parts.any fun part => part.1 == process
  | none =>
      match findJob state text with
      | .job job => some job
      | _ => none

def waitFor (name : Option Octets) (text : Octets) : Sh Nat := do
  let state ← get
  if text.head? = some '%' then
    jobFor text 127 fun job => do
      tell name job.leader
      waitOne job.leader
  else if !isNumber text then do
    Sh.complainAs ("\x60" ++ String.ofList text ++ "': not a pid or valid job spec")
    return 1
  else
    let process := numberOf text
    let known := state.children.contains process || state.jobs.any fun job =>
      job.parts.any fun part => part.1 == process
    if known then do
      tell name process
      waitOne process
    else
      Sh.complainAs ("pid " ++ String.ofList text ++ " is not a child of this shell")
      return 127

def wait : Builtin := fun _ _ operands =>
  withOptions "fnp:" false operands fun options => do
    let name := options.value? 'p'
    match name.filter fun name => (referenceOf? name).isNone with
    | some name => do
        invalidName name
        return 1
    | none => do
        if let some name := name then
          modify fun state => state.removeVariable name
        let state ← get
        if options.has 'n' then
          if options.texts.isEmpty then waitAny name state.jobs
          else
            let jobs := options.texts.filterMap (jobNamed? state)
            (options.texts.filter fun text => (jobNamed? state text).isNone).forM fun text =>
              Sh.complainAs (String.ofList text ++ ": no such job")
            waitAny name jobs
        else
          match options.texts with
          | [] => waitAll
          | texts => go name texts 0
where
  go (name : Option Octets) : List Octets → Nat → Sh Nat
    | [], status => pure status
    | text :: rest, _ => do go name rest (← waitFor name text)

def showJobs (form : JobForm) (jobs : List Job) : Sh Nat := do
  let now ← Sh.scene id
  let state ← get
  let status ← print (jobs.flatMap (jobLines state now form))
  if form != .process then forgetJobs fun job => !job.runs now && jobs.any fun shown =>
    shown.number == job.number
  return status

def jobs : Builtin := fun kit _ operands =>
  withOptions "lpnrsx" false operands fun options => do
    let form : JobForm := if options.has 'p' then .process else if options.has 'l' then .long else .short
    if options.has 'x' then
      let state ← get
      let words := options.texts.map fun text =>
        if text.head? = some '%' then
          match findJob state text with
          | .job job => decimal job.first
          | _ => text
        else text
      runText kit {} "" state.line (Text.joinWith [' '] (words.map quotedForm))
      return (← get).status
    else
      let state ← get
      let now ← Sh.scene id
      match options.texts with
      | [] =>
          if options.has 's' then return 0
          else showJobs form (state.jobs.filter fun job =>
            !options.has 'r' || job.runs now)
      | texts => eachOf texts fun text => jobFor text 1 fun job => showJobs form [job]

def disown : Builtin := fun _ _ operands =>
  withOptions "har" false operands fun options => do
    let now ← Sh.scene id
    let state ← get
    let drop (test : Job → Bool) : Sh Nat := do
      if !options.has 'h' then forgetJobs test
      return 0
    match options.texts with
    | [] =>
        if options.has 'a' then drop fun _ => true
        else if options.has 'r' then drop fun job => job.runs now
        else
          match state.current with
          | some number => drop fun job => job.number == number
          | none => complainOf "current".toList "no such job"
    | texts => eachOf texts fun text => do
        match jobNamed? state text with
        | some job => drop fun other => other.number == job.number
        | none => complainOf text "no such job"

def resume (background : Bool) : Builtin := fun _ _ operands =>
  withOptions "" false operands fun options => do
    let state ← get
    if !state.has 'm' then
      Sh.complainAs "no job control"
      return 1
    else
      let run (job : Job) : Sh Nat := do
        if background then
          Sh.complainAs ("job " ++ Nat.repr job.number ++ " already in background")
          return 0
        else
          line job.text
          waitOne job.leader
      match options.texts with
      | text :: _ => jobFor text 1 run
      | [] =>
          match state.jobs.find? fun job => some job.number == state.current with
          | some job => run job
          | none => complainOf "current".toList "no such job"

def suspend : Builtin := fun _ _ operands =>
  withOptions "f" false operands fun _ => do
    Sh.complainAs "cannot suspend: no job control"
    return 1

def maskLetters (mask : Nat) : Octets :=
  let letters := Tools.Permission.letters (0o777 - (0o777 &&& mask))
  let part (lead : Char) (index : Nat) : Octets :=
    lead :: '=' :: ((letters.drop (3 * index)).take 3).filter fun c => c != '-'
  part 'u' 0 ++ ',' :: part 'g' 1 ++ ',' :: part 'o' 2

def maskComplaint (text : Octets) : String :=
  let wrong (text : Octets) : Option String :=
    let isClass (c : Char) : Bool := c == 'u' || c == 'g' || c == 'o' || c == 'a'
    match text.dropWhile isClass with
    | [] => some "\x60 ': invalid symbolic mode operator"
    | c :: rest =>
        if !Tools.Permission.isSign c then
          some ("\x60" ++ c.toString ++ "': invalid symbolic mode operator")
        else (rest.find? fun c => !(c == 'r' || c == 'w' || c == 'x' || Tools.Permission.isSign c)).map
          fun c => "\x60" ++ c.toString ++ "': invalid symbolic mode character"
  ((Text.splitOn ',' text).findSome? wrong).getD ""

def umask : Builtin := fun _ _ operands =>
  withOptions "Sp" false operands fun options => do
    let mask ← Sh.scene fun scene => scene.me.umask
    let command := if options.has 'p' then "umask ".toList else []
    let symbolic (mask : Nat) : Octets :=
      command ++ (if options.has 'p' then "-S ".toList else []) ++ maskLetters mask ++ ['\n']
    match options.texts with
    | [] =>
        if options.has 'S' then print (symbolic mask)
        else print (command ++ Tools.padLeft '0' 4 (Nat.toDigits 8 mask) ++ ['\n'])
    | text :: _ => do
        if text.head?.any Char.isDigit then
          match Tools.Permission.octal? text with
          | some mask => set options symbolic (mask &&& 0o777)
          | none => complainOf text "octal number out of range"
        else
          let complaint := maskComplaint text
          if !complaint.isEmpty then
            Sh.complainAs complaint
            return 1
          else
            let mode := Tools.Permission.change? text false 0 (0o777 - (0o777 &&& mask))
            set options symbolic (0o777 - (0o777 &&& mode.getD 0))
where
  set (options : Options) (symbolic : Nat → Octets) (mask : Nat) : Sh Nat := do
    Chore.change fun scene => scene.setMe { scene.me with umask := mask }
    if options.has 'S' then print (symbolic mask) else return 0

def ulimit : Builtin := fun _ _ operands =>
  withOptions "SHabcdefiklmnpqrstuvxPRT" false operands fun options => do
    match options.texts with
    | [] =>
        let shown := match options.lastOf? ['c', 'n', 's', 'p'] with
          | some 'c' => "0"
          | some 'n' => "1024"
          | some 's' => "8192"
          | some 'p' => "8"
          | _ => "unlimited"
        print (shown.toList ++ ['\n'])
    | text :: _ =>
        let words := ["unlimited", "hard", "soft"]
        if isNumber text || words.contains (String.ofList text) then return 0
        else complainOf text "invalid number"

end ArtifactPipeline.RichShell.Builtins
