import ArtifactPipeline.Host.Signal
import ArtifactPipeline.Host.Tools.Command
import ArtifactPipeline.Host.Tools.Moment
import ArtifactPipeline.Text.Quantity

set_option autoImplicit false

namespace ArtifactPipeline.Tools

open Text (Octets)

def duration? (text : Octets) : Option Nat :=
  let unit := match text.getLast? with
    | some 's' => some 1
    | some 'm' => some 60
    | some 'h' => some 3600
    | some 'd' => some 86400
    | _ => none
  let seconds? (text : Octets) : Option Nat :=
    match Moment.seconds? text with
    | some time => some time
    | none =>
        match Text.Quantity.at? text with
        | some (.finite false num den, []) => some (num * Moment.second / den)
        | some (.infinite false, []) => some (Nat.pow 10 18)
        | _ => none
  match unit with
  | some scale => (seconds? text.dropLast).map fun time => time * scale
  | none => seconds? text

def sleep : Tool :=
  withOptions {} 1 fun call given =>
    if given.operands.isEmpty then misuse call.name "missing operand" 1
    else
      match given.operands.filter fun arg => (duration? arg).isNone with
      | [] => do
          Chore.pause ((given.operands.filterMap duration?).foldl (· + ·) 0)
          return 0
      | wrong => do
          Chore.forEach wrong fun arg => complain call.name ("invalid time interval " ++ inQuotes arg)
          let _ ← Chore.write 2
            ("Try '".toList ++ call.name ++ " --help' for more information.\n".toList)
          return 1

structure Limit where
  time : Nat
  signal : Nat
  grace : Option Nat := none
  alone : Bool := false
  keepStatus : Bool := false
  verbose : Bool := false

def alarm (call : Call) (limit : Limit) (owner process signal time : Nat) (word : Octets) :
    Chore Nat := do
  Chore.change fun scene => scene.setMe { scene.me with group := scene.self }
  Chore.pause time
  if limit.verbose then
    let ended ← Chore.look fun scene => (scene.endingOf process).isSome
    if !ended then
      complain call.name ("sending signal " ++ (Signal.nameOf? signal).getD (Nat.repr signal) ++
        " to command " ++ quote word)
  Chore.change fun scene =>
    let self := scene.self
    let scene := scene.finish self (.exited 0)
    let scene := (scene.signal process signal).2
    if limit.alone then scene
    else
      let spared := if signal = Scene.killSignal then [process, self] else [process, self, owner]
      scene.signalGroup owner signal spared
  return 0

def runFor (exec : Exec) (call : Call) (limit : Limit) (words : List Octets) : Chore Nat := do
  let owner ← Chore.look Scene.self
  if !limit.alone then
    Chore.change fun scene => scene.setMe { scene.me with group := owner }
  let process ← Chore.fork
    (becomeOr "failed to run command " exec call call.vars words).toRoutine
  if limit.time = 0 then return (← Chore.waitFor process).status
  else
    let start (signal time : Nat) : Chore Nat :=
      Chore.fork (alarm call limit owner process signal time (words.headD [])).toRoutine
    let timer ← start limit.signal limit.time
    let timers ←
      match limit.grace with
      | some grace => do pure [timer, ← start Scene.killSignal (limit.time + grace)]
      | none => pure [timer]
    let ending ← Chore.waitFor process
    let rang ← Chore.act fun scene =>
      ((scene.endingOf timer).isSome,
        timers.foldl (fun scene timer => (scene.signal timer Scene.killSignal).2) scene)
    match ending with
    | .signaled signal =>
        if !rang then Chore.die signal
        else if signal = Scene.killSignal || limit.keepStatus then return 128 + signal
        else return 124
    | .exited status => return if rang && !limit.keepStatus then 124 else status

def timeout (exec : Exec) : Tool :=
  withOptions {
    flags := "fPv"
    valued := "sk"
    long := [("signal", 's'), ("kill-after", 'k'), ("preserve-status", 'P'), ("foreground", 'f'),
      ("verbose", 'v')]
    strictOrder := true } 125 fun call given =>
    match (given.values 's').find? fun name => (Signal.ofText? name).isNone,
        (given.values 'k').find? fun text => (duration? text).isNone, given.operands with
    | some name, _, _ => misuse call.name (inQuotes name ++ ": invalid signal") 125
    | _, some text, _ => misuse call.name ("invalid time interval " ++ inQuotes text) 125
    | none, none, limit :: word :: words =>
        match duration? limit with
        | none => misuse call.name ("invalid time interval " ++ inQuotes limit) 125
        | some time =>
            runFor exec call {
              time
              signal := ((given.value? 's').bind Signal.ofText?).getD 15
              grace := (given.value? 'k').bind duration?
              alone := given.has 'f'
              keepStatus := given.has 'P'
              verbose := given.has 'v' } (word :: words)
    | none, none, _ => do
        let _ ← Chore.write 2
          ("Try '".toList ++ call.name ++ " --help' for more information.\n".toList)
        return 125

def signalNames : Octets :=
  Text.octets (" ".intercalate (Signal.names.take 16) ++ "\n" ++
    " ".intercalate (Signal.names.drop 16) ++ "\n")

def otherName? (text : Octets) : Option String :=
  match number? text with
  | some number => Signal.nameOf? number
  | none => (Signal.ofText? text).map Nat.repr

def kill : Tool := fun call =>
  let send (signal : Nat) (targets : List Octets) : Chore Nat :=
    eachOperand targets fun text => do
      match number? text with
      | none => refuse call.name ("failed to parse argument: " ++ quote text)
      | some process => do
          match ← Chore.act fun scene => scene.signal process signal with
          | .ok () => return 0
          | .error _ =>
              refuse call.name ("(" ++ String.ofList text ++ "): No such process")
  let named (name : Octets) (targets : List Octets) : Chore Nat :=
    match (if name = ['0'] then some 0 else Signal.ofText? name) with
    | some signal => if targets.isEmpty then return 1 else send signal targets
    | none => refuse call.name ("unknown signal name " ++ String.ofList name)
  match call.args with
  | [] => return 1
  | [['-', 'l']] | [['-', '-', 'l', 'i', 's', 't']] => finish call signalNames 0
  | [['-', 'l'], text] =>
      match otherName? text with
      | some name => finish call (Text.octets (name ++ "\n")) 0
      | none => refuse call.name ("unknown signal name " ++ String.ofList text)
  | ['-', 's'] :: name :: targets => named name targets
  | ['-', '-'] :: targets => send 15 targets
  | ('-' :: name) :: targets =>
      if "-signal=".toList.isPrefixOf name then named (name.drop 8) targets
      else if name = "-signal".toList then named (targets.headD []) (targets.drop 1)
      else named name targets
  | targets => send 15 targets

end ArtifactPipeline.Tools
