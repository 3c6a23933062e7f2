import ArtifactPipeline.Run.Action

set_option autoImplicit false

namespace ArtifactPipeline.Run

variable {W : Type} [Disk W]

inductive Deed where
  | succeeded
  | failed (failure : Failure)
  | crashed
  | unprepared (failure : Failure)

def act (executor : Executor W) (node : Artifact) (session : Session W) : Deed × Session W :=
  match node.action with
  | .run _ =>
      match outputTime session.world node with
      | .error failure => (.unprepared failure, session)
      | .ok before =>
          let (result, events, world) := runTask executor node session.world
          let session := { session.noteAll events with world }
          match result with
          | .succeeded => (.succeeded, session)
          | .failed failure => (.failed failure, discard session node before)
          | .crashed => (.crashed, session)
  | _ =>
      let (result, events, world) := runInternal node session.world
      let session := { session.noteAll events with world }
      match result with
      | .ok () => (.succeeded, session)
      | .error failure => (.failed failure, session)

def inSequence (registry : Registry) (executor : Executor W) :
    List NodeId → Session W → Outcome × Session W
  | [], session => (.completed session.report, session.note (.finished false))
  | id :: rest, session =>
      match registry.resolve id with
      | .error failure => (.failed failure, session)
      | .ok node =>
          match session.ask registry id with
          | (.error failure, session) =>
              (.failed failure, if failure.isBreakdown then session else session.abort)
          | (.ok false, session) =>
              match session.move id .skipped with
              | .error failure => (.failed failure, session)
              | .ok session => inSequence registry executor rest (session.reportSkipped id)
          | (.ok true, session) =>
              match session.move id .executing with
              | .error failure => (.failed failure, session)
              | .ok session =>
                  match act executor node session with
                  | (.unprepared failure, session) => (.failed failure, session)
                  | (.crashed, session) => (.crashed, session)
                  | (.succeeded, session) =>
                      match session.move id .succeeded with
                      | .error failure => (.failed failure, session)
                      | .ok session =>
                          inSequence registry executor rest (session.reportExecuted id)
                  | (.failed failure, session) =>
                      match session.move id .failed with
                      | .error failure => (.failed failure, session)
                      | .ok session => (.failed failure, session.abort)

end ArtifactPipeline.Run
