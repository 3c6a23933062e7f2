import ArtifactPipeline.Host.Shell.Expansion
import ArtifactPipeline.Host.Shell.State
import ArtifactPipeline.Host.Signal
import ArtifactPipeline.Host.Tools.Call

set_option autoImplicit false

namespace ArtifactPipeline.Shell

open Text (Octets)

def firstKept : Nat := 10

structure Kept where
  descriptor : Nat
  place : Option Nat

def keep (descriptor : Nat) : Sh Kept := do
  let place : Option Nat ← (Chore.act fun scene =>
    match scene.me.files.lookup descriptor with
    | none => (none, scene)
    | some id =>
        let place := Scene.freeDescriptor scene.me.files firstKept
        (some place, scene.attach place id) : Chore _)
  modify fun state => { state with kept := place.toList ++ state.kept }
  return ⟨descriptor, place⟩

def giveBack (lasting : Bool) (kept : Kept) : Sh Unit := do
  Chore.change (fun scene =>
    match kept.place with
    | none => if lasting then scene else scene.detach kept.descriptor
    | some place =>
        let scene :=
          match scene.me.files.lookup place with
          | some id => if lasting then scene else scene.attach kept.descriptor id
          | none => scene
        scene.detach place)
  modify fun state => { state with
    kept := state.kept.filter fun place => some place != kept.place }

inductive Target where
  | file (access : Scene.Access) (careful : Bool) (path : Octets)
  | copy (text : Octets)
  | document (word : HereDocument)

def targets (capture : Command → Sh Octets) : List Redirection → Sh (List (Nat × Target))
  | [] => pure []
  | .open descriptor kind word :: rest => do
      let text ← expandText capture word
      let target ←
        match kind with
        | .file access careful => pure (Target.file access careful text)
        | .copy =>
            if isDescriptor text then pure (.copy text) else Sh.fail "Syntax error: Bad fd number"
      return (descriptor, target) :: (← targets capture rest)
  | .here descriptor number :: rest => do
      let word := ((← get).documents.lookup number).getD []
      return (descriptor, .document word) :: (← targets capture rest)

def openingFault (access : Scene.Access) (path : Octets) (fault : HostFault) : String :=
  let reason :=
    match fault, access with
    | .missing, .reading | .notDirectory, .reading => "No such file"
    | .missing, _ | .notDirectory, _ => "Directory nonexistent"
    | fault, _ => fault.message
  (if access = .reading then "cannot open " else "cannot create ") ++ String.ofList path ++ ": " ++
    reason

def wouldLose (scene : Scene) (path : Octets) : Bool :=
  match scene.stat path with
  | .ok ⟨_, _, .file _ _ _⟩ => true
  | _ => false

def feed (descriptor : Nat) (text : Octets) (scene : Scene) : Scene :=
  let (source, _, scene) := scene.makePipe text
  scene.attach descriptor source

def aim (spare : Bool) (descriptor : Nat) (target : Target) (scene : Scene) :
    Except String Unit × Scene :=
  match target with
  | .file access careful path =>
      if careful && spare && wouldLose scene path then
        (.error (openingFault access path .occupied), scene)
      else
        match scene.openPath access path with
        | .ok (id, scene) => (.ok (), scene.attach descriptor id)
        | .error fault => (.error (openingFault access path fault), scene)
  | .copy ['-'] => (.ok (), scene.detach descriptor)
  | .copy text =>
      let other := ((String.ofList text).toNat?).getD 0
      match scene.me.files.lookup other with
      | some id => (.ok (), scene.attach descriptor id)
      | none =>
          (.error (String.ofList text ++ ": " ++ HostFault.badDescriptor.message), scene)
  | .document _ => (.ok (), scene)

/-- Carries a redirection out, and says whether that went well. A document is expanded only now; a
mistake in it is no worse than a file that cannot be opened. -/
def redirectOne (capture : Command → Sh Octets) (descriptor : Nat) (target : Target) : Sh Bool := do
  match target with
  | .document word =>
      match ← Sh.attempt (expandText capture word) with
      | .ok text => do
          Chore.change (feed descriptor text)
          return true
      | .error .failed => return false
      | .error jump => throw jump
  | target => do
      let spare := (← get).has 'C'
      match ← (Chore.act (aim spare descriptor target) : Chore _) with
      | .ok () => do
          Chore.awaitMeeting descriptor
          return true
      | .error message => do
          Sh.complain message
          return false

def redirect (capture : Command → Sh Octets) :
    List (Nat × Target) → List Kept → Sh (Bool × List Kept)
  | [], kept => pure (true, kept)
  | (descriptor, target) :: rest, kept => do
      let kept ←
        if kept.any fun k => k.descriptor == descriptor then pure kept
        else do pure ((← keep descriptor) :: kept)
      if ← redirectOne capture descriptor target then redirect capture rest kept
      else return (false, kept)

def withTargets (capture : Command → Sh Octets) (targets : List (Nat × Target))
    (lasting : Sh Bool) (refused : Sh Unit) (body : Sh Unit) : Sh Unit := do
  if targets.isEmpty then body
  else
    let (done, kept) ← redirect capture targets []
    let undo (stay : Bool) : Sh Unit := kept.forM (giveBack stay)
    if done then Sh.ensure body (do undo (← lasting))
    else
      undo false
      refused

def endingOf? (scene : Scene) (job : Job) : Option Ending :=
  if job.processes.all fun process => (scene.endingOf process).isSome then
    some ((job.processes.getLast?.bind scene.endingOf).getD (.exited 0))
  else none

def noticeEnds : Sh Unit := do
  let jobs := (← get).jobs
  if jobs.any fun job => job.ending.isNone then
    let noticed ← Sh.scene fun scene =>
      jobs.map fun job =>
        if job.ending.isSome then job else { job with ending := endingOf? scene job }
    modify fun state => { state with jobs := noticed }

def Job.isSpent (job : Job) : Bool :=
  job.ending.isSome && job.awaited

def freeNumber (jobs : List Job) : Nat :=
  ((List.range (jobs.length + 1)).map (· + 1)).find? (fun number =>
    jobs.all fun job => job.number != number || job.isSpent) |>.getD 1

def forgetOne : Sh Unit :=
  modify fun state =>
    let number := freeNumber state.jobs
    { state with jobs := state.jobs.filter fun job => job.number != number }

def addJob (processes : List Nat) : Sh Unit :=
  modify fun state =>
    { state with jobs := { number := freeNumber state.jobs, processes } :: state.jobs }

def jobNamed (text : Octets) : Sh Job := do
  let jobs := (← get).jobs
  let orFail (found : Option Job) (message : String) : Sh Job :=
    match found with
    | some job => return job
    | none => Sh.fail message
  match text with
  | ['%'] | ['%', '%'] | ['%', '+'] => orFail jobs.head? "No current job"
  | ['%', '-'] => orFail jobs[1]? "No previous job"
  | '%' :: rest =>
      orFail ((Tools.number? rest).bind fun number => jobs.find? fun job => job.number = number)
        ("No such job: " ++ String.ofList text)
  | _ => Sh.fail ("No such job: " ++ String.ofList text)

def tellSignal (ending : Ending) : Sh Unit := do
  match ending with
  | .signaled signal =>
      if signal != 2 && signal != 13 then
        Sh.say 2 ((Signal.description signal).toList ++ ['\n'])
  | .exited _ => pure ()

def Job.state (job : Job) : String :=
  match job.ending with
  | none => "Running"
  | some (.exited 0) => "Done"
  | some (.exited status) => "Done(" ++ Nat.repr status ++ ")"
  | some (.signaled signal) => Signal.description signal

def stateWidth : Nat := 33

def padded (text : Octets) : Octets :=
  text ++ List.replicate (max 1 (stateWidth - text.length)) ' '

def Job.shown (job : Job) (jobs : List Job) (withProcesses : Bool) : Octets :=
  let isAt (place : Nat) : Bool := jobs[place]?.any fun other => other.number = job.number
  let mark := if isAt 0 then '+' else if isAt 1 then '-' else ' '
  let number := (Nat.repr job.number).toList
  let lead := '[' :: number ++ [']', ' ', mark, ' ']
  if withProcesses then
    let lines := (job.processes.zip (List.range job.processes.length)).map fun (process, place) =>
      let text := (Nat.repr process).toList ++ [' ']
      if place = 0 then padded (lead ++ text ++ job.state.toList)
      else padded (List.replicate lead.length ' ' ++ text)
    Text.joinWith " |\n".toList lines ++ ['\n']
  else
    padded (lead ++ job.state.toList) ++
      (List.replicate (job.processes.length - 1) " | ".toList).flatten ++ ['\n']

structure Mode where
  tested : Bool := false
  last : Bool := false

structure Kit where
  exec : Tools.Exec
  run : Mode → Command → Sh Unit

def isEnding : Option Token → Bool
  | some .ending => true
  | _ => false

def isNothing : Command → Bool
  | .nothing => true
  | _ => false

def runSource (kit : Kit) (mode : Mode) : Nat → Source → Sh Bool
  | 0, _ => pure false
  | fuel + 1, source => do
      match nextCommand { source with aliases := (← get).aliases } with
      | .fault fault => do
          Sh.complainAt fault.line fault.message
          Sh.setStatus 2
          throw .failed
      | .done _ => return false
      | .command command rest => do
          modify fun state => { state with
            documents := state.documents ++ rest.documents
            nextDocument := rest.next }
          kit.run { mode with last := mode.last && isEnding rest.ahead } command
          let more ← runSource kit mode fuel
            { rest with documents := [], next := (← get).nextDocument }
          return more || !isNothing command

def runText (kit : Kit) (mode : Mode) (text : Octets) : Sh Unit := do
  if !(← runSource kit mode (text.length + 2) { text, next := (← get).nextDocument }) then
    Sh.setStatus 0

def runAction (kit : Kit) (action : Octets) : Sh Unit := do
  let state ← get
  modify fun state => { state with before := some state.status }
  let source : Source := { text := action, next := state.nextDocument }
  Sh.ensure (do let _ ← runSource kit {} (action.length + 2) source)
    (modify fun state => { state with before := none })
  Sh.setStatus state.status

def runActions (kit : Kit) : Sh Unit := do
  let pending : List Nat ← (Chore.act fun scene =>
    let me := scene.me
    if me.pending.isEmpty then ([], scene)
    else (me.pending, scene.setMe { me with pending := [] }) : Chore _)
  pending.forM fun signal => do
    match (← get).traps.lookup signal with
    | some action => if action.isEmpty then pure () else runAction kit action
    | none => pure ()

def conclude (kit : Kit) (body : Sh Unit) (state : State) : Chore Nat := do
  let (_, state) ← body.run.run state
  match state.traps.lookup 0 with
  | none | some [] => return state.status % 256
  | some action => do
      let state := { state with
        traps := Assoc.erase 0 state.traps
        before := some state.status
        loops := 0
        builtin := none }
      let source : Source := { text := action, next := state.nextDocument }
      let (result, after) ← (runSource kit {} (action.length + 2) source).run.run state
      match result with
      | .error .ended => return after.status % 256
      | _ => return state.status % 256

def forgetActions (traps : List (Nat × Octets)) (scene : Scene) : Scene :=
  let own := traps.filterMap fun (signal, action) => if action.isEmpty then none else some signal
  let me := scene.me
  scene.setMe { me with
    caught := me.caught.filter fun signal => !own.contains signal
    pending := [] }

def forkShell (kit : Kit) (prepare : Scene → Scene) (body : Sh Unit) : Sh Nat := do
  forgetOne
  let state ← get
  let inner := { state with
    traps := state.traps.filter fun entry => entry.2.isEmpty
    jobs := []
    before := none }
  let child : Chore Nat := do
    Chore.change fun scene => prepare (forgetActions state.traps scene)
    conclude kit body inner
  (Chore.fork child.toRoutine : Chore Nat)

def awaitChild (process : Nat) : Sh Nat := do
  let ending : Ending ← (Chore.waitFor process : Chore _)
  tellSignal ending
  noticeEnds
  return ending.status

def openPipe : Sh (Nat × Nat) :=
  (Chore.act fun scene =>
    let (source, sink, scene) := scene.makePipe []
    let first := Scene.freeDescriptor scene.me.files firstKept
    let scene := scene.attach first source
    let second := Scene.freeDescriptor scene.me.files firstKept
    ((first, second), scene.attach second sink) : Chore _)

def closeAll (descriptors : List Nat) (scene : Scene) : Scene :=
  descriptors.foldl Scene.detach scene

def reattach (old new : Nat) (scene : Scene) : Scene :=
  match scene.me.files.lookup old with
  | some id => (scene.detach old).attach new id
  | none => scene

def capture (kit : Kit) (script : Command) : Sh Octets := do
  let (source, sink) ← openPipe
  let process ← forkShell kit (fun scene => reattach sink 1 (scene.detach source))
    (kit.run { last := true } script)
  Chore.close sink
  let text : Except HostFault Octets ← (Chore.readAll source : Chore _)
  Chore.close source
  let status ← awaitChild process
  modify fun state => { state with substitution := status }
  return ((text.toOption).getD []).filter fun c => c.toNat != 0

def startParts (kit : Kit) (mode : Mode) (prepare : Scene → Scene) :
    Option Nat → List Command → Sh (List Nat)
  | _, [] => pure []
  | input, [part] => do
      let process ← forkShell kit (fun scene => takeInput input (prepare scene)) (kit.run mode part)
      Chore.change (closeAll input.toList)
      return [process]
  | input, part :: rest => do
      let (source, sink) ← openPipe
      let process ← forkShell kit
        (fun scene => reattach sink 1 (takeInput input ((prepare scene).detach source)))
        (kit.run mode part)
      Chore.change (closeAll (sink :: input.toList))
      return process :: (← startParts kit mode prepare (some source) rest)
where
  takeInput (input : Option Nat) (scene : Scene) : Scene :=
    match input with
    | some descriptor => reattach descriptor 0 scene
    | none => scene

def detachFromTerminal (scene : Scene) : Scene :=
  let scene := scene.setMe { scene.me with ignored := 2 :: 3 :: scene.me.ignored }
  match scene.openPath .reading "/dev/null".toList with
  | .ok (id, scene) => scene.attach 0 id
  | .error _ => scene

end ArtifactPipeline.Shell
