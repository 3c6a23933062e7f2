import ArtifactPipeline.Host.Routine

set_option autoImplicit false

namespace ArtifactPipeline

structure Runner where
  process : Nat
  time : Nat
  routine : Routine

structure Machine where
  scene : Scene
  runners : List Runner := []

namespace Machine

def actTime : Nat := 2000

def startTime : Nat := 400000

def now (machine : Machine) : Nat :=
  machine.scene.disk.clock

def sceneOf (machine : Machine) (runner : Runner) : Scene :=
  { machine.scene with self := runner.process }

def dueTime? (machine : Machine) (runner : Runner) : Option Nat :=
  match runner.routine with
  | .await ready _ =>
      if ready (machine.sceneOf runner) then some (max runner.time machine.now) else none
  | _ => some runner.time

def firstDue (machine : Machine) : Nat → Option (Nat × Nat) → List Runner → Option (Nat × Nat)
  | _, best, [] => best
  | index, best, runner :: rest =>
      let best :=
        match machine.dueTime? runner, best with
        | none, best => best
        | some time, none => some (index, time)
        | some time, some (place, earliest) =>
            if time < earliest then some (index, time) else some (place, earliest)
      firstDue machine (index + 1) best rest

def setClock (scene : Scene) (time : Nat) : Scene :=
  { scene with disk := { scene.disk with clock := max scene.disk.clock time } }

def move (scene : Scene) (runner : Runner) : Scene × List Runner × List Runner :=
  let now := scene.disk.clock
  match runner.routine with
  | .exit status => (scene.finish runner.process (.exited status), [], [])
  | .act step =>
      let (scene, routine) := step scene
      (scene, [{ runner with time := now + actTime, routine }], [])
  | .await _ next => (scene, [{ runner with time := now, routine := next }], [])
  | .pause time next => (scene, [{ runner with time := now + time, routine := next }], [])
  | .fork child next =>
      let (process, scene) := scene.spawn
      (scene, [{ runner with time := now + actTime, routine := next process }],
        [⟨process, now + startTime, child⟩])

def step (machine : Machine) : Option Machine :=
  match machine.firstDue 0 none machine.runners with
  | none => none
  | some (index, time) =>
      match machine.runners[index]? with
      | none => none
      | some runner =>
          let scene := setClock { machine.scene with self := runner.process } time
          let (scene, self, children) := move scene runner
          let runners := machine.runners.take index ++ self ++ machine.runners.drop (index + 1)
          some {
            scene
            runners := (runners ++ children).filter fun runner =>
              (scene.endingOf runner.process).isNone
          }

def runUntil (done : Scene → Bool) : Nat → Machine → Machine
  | 0, machine => machine
  | fuel + 1, machine =>
      if done machine.scene then machine
      else
        match machine.step with
        | some machine => runUntil done fuel machine
        | none => machine

def runUpTo (time : Nat) : Nat → Machine → Machine
  | 0, machine => machine
  | fuel + 1, machine =>
      let later := { machine with scene := setClock machine.scene time }
      match machine.firstDue 0 none machine.runners with
      | none => later
      | some (_, due) =>
          if time < due then later
          else
            match machine.step with
            | some machine => runUpTo time fuel machine
            | none => later

def patience : Nat := 20000000

def noticeTime : Nat := 1000000

def linger (machine : Machine) : Machine :=
  machine.runUpTo (machine.now + noticeTime) patience

end Machine

end ArtifactPipeline
