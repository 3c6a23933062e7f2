import ArtifactPipeline.Host.RichShell.Files
import ArtifactPipeline.Host.RichShell.Print
import ArtifactPipeline.Host.Signal

set_option autoImplicit false

namespace ArtifactPipeline.RichShell

open Text (Octets)

def firstFree : Nat := 34

def lastFree : Nat := 64

def signalName (signal : Nat) : String :=
  if signal = 29 then "IO"
  else if firstFree ≤ signal && signal ≤ lastFree then
    if signal = firstFree then "RTMIN"
    else if signal = lastFree then "RTMAX"
    else if signal < 50 then "RTMIN+" ++ Nat.repr (signal - firstFree)
    else "RTMAX-" ++ Nat.repr (lastFree - signal)
  else (Signal.nameOf? signal).getD (Nat.repr signal)

def occasions : List (String × Nat) :=
  [("EXIT", 0), ("DEBUG", 65), ("ERR", 66), ("RETURN", 67)]

def signalNumbers : List Nat :=
  (List.range (lastFree + 1)).filter fun signal =>
    0 < signal && (firstFree ≤ signal || (Signal.nameOf? signal).isSome)

def occasionNames : List (String × Nat) :=
  ("EXIT", 0) :: signalNumbers.map (fun signal => (signalName signal, signal)) ++ occasions.drop 1

def occasionOf? (text : Octets) : Option (String × Nat) :=
  if !text.isEmpty && text.all Char.isDigit then
    let number := numberOf text
    if number ≤ lastFree then occasionNames.find? fun entry => entry.2 == number else none
  else
    let upper := text.map Char.toUpper
    let bare := String.ofList (if "SIG".toList.isPrefixOf upper then upper.drop 3 else upper)
    let known := occasionNames ++ [("POLL", 29)]
    (known.find? fun entry => entry.1 == bare).map fun entry => (signalName' entry, entry.2)
where
  signalName' (entry : String × Nat) : String :=
    if entry.1 = "POLL" then "IO" else entry.1

def occasionTitle (name : String) : String :=
  if (occasions.lookup name).isSome then name else "SIG" ++ name

def Job.leader (job : Job) : Nat :=
  (job.parts.getLast?.map (·.1)).getD 0

def Job.first (job : Job) : Nat :=
  (job.parts.head?.map (·.1)).getD 0

def Job.text (job : Job) : Octets :=
  Text.joinWith " | ".toList (job.parts.map (·.2))

def Job.ending? (job : Job) (scene : Scene) : Option Ending :=
  if job.parts.all fun part => (scene.endingOf part.1).isSome then scene.endingOf job.leader else none

def Job.runs (job : Job) (scene : Scene) : Bool :=
  (job.ending? scene).isNone

namespace State

def runningUpTo (state : State) (scene : Scene) (bound : Nat) : Option Nat :=
  ((state.jobs.filter fun job => job.number ≤ bound && job.runs scene).getLast?).map (·.number)

def withCurrent (state : State) (scene : Scene) (number : Nat) : State :=
  { state with
    current := some number
    previous := (state.runningUpTo scene (number - 1)).or (some number) }

def addJob (state : State) (scene : Scene) (parts : List (Nat × Octets)) : State :=
  let number := (state.jobs.getLast?.map (·.number)).getD 0 + 1
  let job : Job := { number, parts, directory := state.directory }
  let state := { state with jobs := state.jobs ++ [job] }
  state.withCurrent scene number

def removeJobs (state : State) (scene : Scene) (test : Job → Bool) : State :=
  let gone := (state.jobs.filter test).map fun job => some job.number
  let state := { state with jobs := state.jobs.filter fun job => !test job }
  if gone.contains state.current || gone.contains state.previous then
    match state.runningUpTo scene ((state.jobs.getLast?.map (·.number)).getD 0) with
    | some number => state.withCurrent scene number
    | none => { state with current := none, previous := none }
  else state

end State

def startJob (parts : List (Nat × Octets)) : Sh Unit := do
  let now ← Sh.scene id
  modify fun state => state.addJob now parts

def forgetJobs (test : Job → Bool) : Sh Unit := do
  let now ← Sh.scene id
  modify fun state => state.removeJobs now test

def padded (text : Octets) : Octets :=
  text ++ List.replicate (24 - text.length) ' '

def pidText (process : Nat) : Octets :=
  let number := decimal process
  List.replicate (5 - number.length) ' ' ++ number

def endingText : Option Ending → Octets
  | none => "Running".toList
  | some (.exited 0) => "Done".toList
  | some (.exited status) => "Exit ".toList ++ decimal status
  | some (.signaled signal) => (Signal.description signal).toList

def longLines (scene : Scene) (job : Job) (behind : Octets) : Octets :=
  let endings := job.parts.map fun part => scene.endingOf part.1
  let runs := job.runs scene
  let text (ending : Option Ending) : Octets := endingText (if runs then none else ending)
  let lines := (job.parts.zip endings).map fun (part, ending) =>
    let isFirst := part.1 = job.first
    let shown := isFirst || ending != (endings.head?.getD none)
    (if isFirst then [] else "     ".toList) ++ pidText part.1 ++ ' ' ::
      padded (if shown then text ending else []) ++ (if isFirst then [] else "| ".toList) ++ part.2
  Text.joinWith ['\n'] lines ++ behind ++ ['\n']

inductive JobForm where
  | short
  | long
  | process
  deriving DecidableEq, Repr

def jobLines (state : State) (scene : Scene) (form : JobForm) (job : Job) : Octets :=
  let behind := (if job.runs scene then " &".toList else []) ++
    (if job.directory = state.directory then []
     else "  (wd: ".toList ++ state.politely job.directory ++ [')'])
  let mark := if state.current = some job.number then '+'
    else if state.previous = some job.number then '-' else ' '
  let lead := '[' :: decimal job.number ++ ']' :: mark :: [' ']
  match form with
  | .process => decimal job.first ++ ['\n']
  | .long => lead ++ longLines scene job behind
  | .short =>
      lead ++ ' ' :: padded (endingText (job.ending? scene)) ++ job.text ++ behind ++ ['\n']

def isKnown (state : State) (signal : Nat) : Bool :=
  (state.traps.lookup (signalName signal)).isSome

def tellKilled : Sh Unit := do
  let now ← Sh.scene id
  let state ← get
  let killed := state.jobs.filterMap fun job =>
    match job.ending? now with
    | some (.signaled signal) => some (job, signal)
    | _ => none
  killed.forM fun (job, signal) => do
    if signal != 2 && signal != 13 && signal != 15 && !isKnown state signal then
      Sh.say 2 (Sh.place state state.line ++ longLines now job [])
  if !killed.isEmpty then forgetJobs fun job => killed.any fun entry => entry.1.number == job.number

def tellEnding (parts : List (Nat × Octets)) (ending : Ending) : Sh Unit := do
  match ending with
  | .exited _ => pure ()
  | .signaled signal => do
      let state ← get
      if signal = 2 || signal = 13 then pure ()
      else if signal = 15 || isKnown state signal then
        Sh.say 2 ((Signal.description signal).toList ++ ['\n'])
      else
        let now ← Sh.scene id
        Sh.say 2 (Sh.place state state.line ++
          longLines now { number := 0, parts, directory := state.directory } [])

def decisive (failing : Bool) (endings : List Ending) : Ending :=
  let last := endings.getLast?.getD (.exited 0)
  if failing then
    ((endings.filter fun ending => ending.status != 0).getLast?).getD last
  else last

def awaitParts (parts : List (Nat × Command)) : Sh (List Ending) := do
  let endings ← go (parts.map (·.1))
  let state ← get
  tellEnding (parts.map fun (process, command) => (process, commandText state.documents command))
    (decisive (state.hasNamed "pipefail") endings)
  tellKilled
  return endings
where
  go : List Nat → Sh (List Ending)
    | [] => pure []
    | process :: rest => do
        let ending : Ending ← (Chore.waitFor process : Chore _)
        return ending :: (← go rest)

def awaitChild (process : Nat) (command : Command) : Sh Nat := do
  let endings ← awaitParts [(process, command)]
  return (endings.headD (.exited 0)).status

end ArtifactPipeline.RichShell
