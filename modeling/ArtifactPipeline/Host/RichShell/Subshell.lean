import ArtifactPipeline.Host.RichShell.Files
import ArtifactPipeline.Host.RichShell.Jobs

set_option autoImplicit false

namespace ArtifactPipeline.RichShell

open Text (Octets)

structure Mode where
  tested : Bool := false
  spared : Bool := false
  last : Bool := false
  shows : Bool := false

structure Kit where
  exec : Tools.Exec
  run : Mode → Command → Sh Unit

def isEnding : Option Token → Bool
  | some .ending => true
  | _ => false

def isNothing : Command → Bool
  | .nothing => true
  | _ => false

def tellFault (label : String) (fault : SyntaxFault) : Sh Unit := do
  let state ← get
  let lead := state.title ++ ": ".toList ++
    (if label.isEmpty then [] else label.toList ++ ": ".toList) ++
    "line ".toList ++ decimal ((fault.line : Int) + state.lineShift).toNat ++ ": ".toList
  (Text.splitOn '\n' fault.message.toList).forM fun part => Sh.say 2 (lead ++ part ++ ['\n'])
  if let some shown := fault.shown then
    Sh.say 2 (lead ++ '\x60' :: shown ++ "'\n".toList)

def tellOpenDocuments (opened : List (Nat × Nat × Octets)) : Sh Unit :=
  opened.forM fun (start, line, delimiter) => do
    let state ← get
    Sh.say 2 (Sh.place state line ++ "warning: here-document at line ".toList ++ decimal start ++
      " delimited by end-of-file (wanted \x60".toList ++ delimiter ++ "')\n".toList)

def hasActions (state : State) : Bool :=
  state.traps.any fun entry => !entry.2.isEmpty

def becomesLast : Command → Bool
  | .simple _ _ redirections _ => redirections.isEmpty
  | .both _ second | .either _ second | .sequence _ second => becomesLast second
  | _ => false

/-- Runs the commands of a script as they are read, at most `fuel` of them. Says whether there were
any. A line that is dropped is passed over, but it ends a shell inside of another one. -/
def runSource (kit : Kit) (mode : Mode) (label : String) : Nat → Source → Sh Bool
  | 0, _ => pure false
  | fuel + 1, source => do
      let state ← get
      let source := { source with
        aliases := if state.does "expand_aliases" then state.aliases else []
        grouped := state.does "extglob" }
      match nextCommand source with
      | .fault fault => do
          tellFault label fault
          Sh.setStatus 2
          return true
      | .done rest => do
          tellOpenDocuments rest.openDocuments
          return false
      | .command command rest => do
          tellOpenDocuments rest.openDocuments
          modify fun state => { state with
            documents := state.documents ++ rest.documents
            nextDocument := rest.next }
          let last := mode.last && isEnding rest.ahead && becomesLast command
          match ← Sh.attempt (kit.run { mode with last } command) with
          | .ok () => pure ()
          | .error .dropped => do
              Sh.setStatus 1
              if 0 < (← get).depth then throw .ended
          | .error jump => throw jump
          let more ← runSource kit mode label fuel
            { rest with documents := [], openDocuments := [], next := (← get).nextDocument }
          return more || !isNothing command

def runText (kit : Kit) (mode : Mode) (label : String) (line : Nat) (text : Octets) : Sh Unit := do
  let source : Source := { text, line, next := (← get).nextDocument }
  if !(← runSource kit mode label (text.length + 2) source) then Sh.setStatus 0

def runAction (kit : Kit) (occasion : String) (fromLineOne : Bool) (action : Octets) : Sh Unit := do
  let state ← get
  modify fun state => { state with
    before := some state.status
    busy := occasion :: state.busy
    indirection := state.indirection + 1 }
  let line := if fromLineOne then 1 else state.line
  let source : Source := { text := action, line, next := state.nextDocument }
  Sh.ensure (do let _ ← runSource kit {} "trap" (action.length + 2) source)
    (modify fun after => { after with
      before := state.before
      busy := state.busy
      indirection := state.indirection
      line := state.line })
  modify fun after => { after with status := state.status, statuses := state.statuses }

def onOccasion (kit : Kit) (occasion : String) : Sh Unit := do
  let state ← get
  match state.traps.lookup occasion with
  | none | some [] => pure ()
  | some action => if !state.busy.contains occasion then runAction kit occasion false action

def runActions (kit : Kit) : Sh Unit := do
  let pending : List Nat ← (Chore.act fun scene =>
    let me := scene.me
    if me.pending.isEmpty then ([], scene)
    else (me.pending, scene.setMe { me with pending := [] }) : Chore _)
  pending.forM fun signal => do
    let name := signalName signal
    match (← get).traps.lookup name with
    | some action => if action.isEmpty then pure () else runAction kit name true action
    | none => pure ()

def conclude (kit : Kit) (body : Sh Unit) (state : State) : Chore Nat := do
  let (result, state) ← body.run.run state
  let state := match result with
    | .error .dropped => { state with status := 1 }
    | _ => state
  match state.traps.lookup "EXIT" with
  | none | some [] => return state.status % 256
  | some action => do
      let state := { state with
        traps := Assoc.erase "EXIT" state.traps
        before := some state.status
        busy := "EXIT" :: state.busy
        loops := 0
        frames := []
        scopes := state.scopes.drop (state.scopes.length - 1)
        indirection := state.indirection + 1
        lineShift := 0
        builtin := none }
      let source : Source := { text := action, next := state.nextDocument }
      let (result, after) ←
        (runSource kit {} "exit trap" (action.length + 2) source).run.run state
      match result with
      | .error .ended => return after.status % 256
      | _ => return state.status % 256

def forgetActions (traps : List (String × Octets)) (scene : Scene) : Scene :=
  let own := traps.filterMap fun (name, action) =>
    if action.isEmpty then none else (occasionOf? name.toList).map (·.2)
  let me := scene.me
  scene.setMe { me with
    caught := me.caught.filter fun signal => !own.contains signal
    pending := [] }

def innerTraps (state : State) : List (String × Octets) :=
  state.traps.filter fun (name, action) =>
    action.isEmpty || (name = "ERR" && state.has 'E') ||
      ((name = "DEBUG" || name = "RETURN") && state.has 'T')

def forkShell (kit : Kit) (prepare : Scene → Scene) (body : Sh Unit) : Sh Nat := do
  let state ← get
  let inner := { state with
    traps := innerTraps state
    shownTraps := if state.shownTraps.isEmpty then state.traps else state.shownTraps
    children := []
    depth := state.depth + 1
    before := none }
  let child : Chore Nat := do
    Chore.change fun scene => prepare (forgetActions state.traps scene)
    conclude kit body inner
  (Chore.fork child.toRoutine : Chore Nat)

def openPipe : Sh (Nat × Nat) :=
  (Chore.act fun scene =>
    let (source, sink, scene) := scene.makePipe []
    let first := Scene.freeDescriptor scene.me.files firstKept
    let scene := scene.attach first source
    let second := Scene.freeDescriptor scene.me.files firstKept
    ((first, second), scene.attach second sink) : Chore _)

def closeAll (descriptors : List Nat) (scene : Scene) : Scene :=
  descriptors.foldl Scene.detach scene

def reattach (old new : Nat) (scene : Scene) : Scene :=
  match scene.me.files.lookup old with
  | some id => (scene.detach old).attach new id
  | none => scene

def printedBy (kit : Kit) (body : Sh Unit) : Sh Octets := do
  let (source, sink) ← openPipe
  let channels := (← get).channels
  let process ← forkShell kit
    (fun scene => reattach sink 1 (closeAll channels (scene.detach source)))
    (do
      modify fun state => { state with
        options := if state.does "inherit_errexit" then state.options
          else state.options.filter fun c => c != 'e'
        channels := []
        indirection := state.indirection + 1 }
      body)
  Chore.close sink
  let text : Except HostFault Octets ← (Chore.readAll source : Chore _)
  Chore.close source
  let ending : Ending ← (Chore.waitFor process : Chore _)
  modify fun state => { state with substitution := ending.status, status := ending.status }
  let text := (text.toOption).getD []
  if text.any fun c => c.toNat = 0 then
    Sh.complain "warning: command substitution: ignored null byte in input"
  return text.filter fun c => c.toNat != 0

def capture (kit : Kit) (script : Command) (line : Nat) : Sh Octets :=
  printedBy kit do
    modify fun state => { state with lineShift := (state.line : Int) - line }
    kit.run { last := becomesLast script, shows := true } script

def captureText (kit : Kit) (text : Octets) : Sh Octets :=
  printedBy kit do
    runText kit { last := true } "command substitution" (← get).line text

def channelDescriptor (files : List (Nat × Nat)) : Nat → Nat
  | 0 => 63
  | bound + 1 => if (files.lookup (bound + 1)).isNone then bound + 1 else channelDescriptor files bound

def openChannel (kit : Kit) (forWriting : Bool) (script : Command) : Sh Octets := do
  let (source, sink) ← openPipe
  let (ours, theirs) := if forWriting then (sink, source) else (source, sink)
  let channels := (← get).channels
  let own := if forWriting then 0 else 1
  let process ← forkShell kit
    (fun scene => reattach theirs own (closeAll channels (scene.detach ours)))
    (do
      modify fun state => { state with channels := [], indirection := state.indirection + 1 }
      kit.run { last := becomesLast script } script)
  Chore.close theirs
  let descriptor : Nat ← (Chore.act fun scene =>
    let descriptor := channelDescriptor scene.me.files 63
    (descriptor, reattach ours descriptor scene) : Chore _)
  modify fun state => { state with
    channels := descriptor :: state.channels
    latest := some process
    children := state.children ++ [process] }
  return "/dev/fd/".toList ++ decimal descriptor

def Kit.expander (kit : Kit) : Expander where
  output := capture kit
  outputOfText := captureText kit
  channel := openChannel kit

def closeChannels (before : List Nat) : Sh Unit := do
  let opened := (← get).channels.filter fun descriptor => !before.contains descriptor
  if !opened.isEmpty then
    Chore.change (closeAll opened)
    modify fun state => { state with channels := before }

def startParts (kit : Kit) (mode : Mode) (prepare : Scene → Scene) :
    Option Nat → List Command → Sh (List Nat)
  | _, [] => pure []
  | input, [part] => do
      let process ← forkShell kit (fun scene => takeInput input (prepare scene)) (kit.run mode part)
      Chore.change (closeAll input.toList)
      return [process]
  | input, part :: rest => do
      let (source, sink) ← openPipe
      let process ← forkShell kit
        (fun scene => reattach sink 1 (takeInput input ((prepare scene).detach source)))
        (kit.run mode part)
      Chore.change (closeAll (sink :: input.toList))
      return process :: (← startParts kit mode prepare (some source) rest)
where
  takeInput (input : Option Nat) (scene : Scene) : Scene :=
    match input with
    | some descriptor => reattach descriptor 0 scene
    | none => scene

def detachFromTerminal (scene : Scene) : Scene :=
  let scene := scene.setMe { scene.me with ignored := 2 :: 3 :: scene.me.ignored }
  match scene.openPath .reading "/dev/null".toList with
  | .ok (id, scene) => scene.attach 0 id
  | .error _ => scene

end ArtifactPipeline.RichShell
