import ArtifactPipeline.Config.Fault
import ArtifactPipeline.Disk.Basic
import ArtifactPipeline.Lifecycle
import ArtifactPipeline.NodeId

set_option autoImplicit false

namespace ArtifactPipeline

inductive Failure where
  | config (fault : ConfigFault)
  | io (text : String)
  | unknownTarget (id : NodeId)
  | unknownGroup (group : String)
  | duplicateRule (id : NodeId)
  | cyclicPlan (trail : List NodeId)
  | cyclicGraph (id : NodeId)
  | cyclicCheck (id : NodeId)
  | missingPrerequisite (node : NodeId) (prerequisite : String)
  | actionFailed (node : NodeId) (status : Int)
  | document (fault : DocumentFault)
  | disk (fault : DiskFault)
  | invalidGlob (pattern : String)
  | nestedGlob (pattern : String)
  | illegalTransition (id : NodeId) (current next : NodeState)
  | stalled (pending : Nat)
  | notInternal (id : NodeId)
  | actionCrashed
  | spawning (program : String) (node : NodeId)
  | openingOutput (path : Path)
  | writingHeader (path : Path)
  | readingPipelineFile (path : Path)
  | resolvingDirectory (path : Path)
  | refused (text : String)
  deriving DecidableEq, Repr

namespace Failure

def message : Failure → String
  | .config fault => "Configuration error: " ++ fault.message
  | .io text => "IO error: " ++ text
  | .unknownTarget id => "Unknown target: " ++ id
  | .unknownGroup group => "Unknown target: group '" ++ group ++ "'"
  | .duplicateRule id => "Duplicate rule for '" ++ id ++ "' with a different definition"
  | .cyclicPlan trail => "Cycle detected in rule graph: " ++ String.intercalate " -> " trail
  | .cyclicGraph id =>
      "Cycle detected in rule graph: cycle in rule graph involving '" ++ id ++ "'"
  | .cyclicCheck id =>
      "Cycle detected in rule graph: cycle reached while checking '" ++ id ++ "'"
  | .missingPrerequisite node prerequisite =>
      "Missing prerequisite '" ++ prerequisite ++ "' of '" ++ node ++ "' (no rule produces it)"
  | .actionFailed node status =>
      "Action for '" ++ node ++ "' failed with exit status " ++ toString status
  | .document fault => "TOML parsing error: " ++ fault.message
  | .disk fault => fault.message
  | .invalidGlob pattern => "invalid glob pattern: " ++ pattern
  | .nestedGlob pattern => "glob pattern nested too deep: " ++ pattern
  | .illegalTransition id current next =>
      "illegal state transition for '" ++ id ++ "': " ++ current.name ++ " -> " ++ next.name
  | .stalled pending =>
      "no runnable nodes left but " ++ Nat.repr pending ++ " still pending"
  | .notInternal id => "'" ++ id ++ "' runs commands, not an internal action"
  | .actionCrashed => "action task panicked"
  | .spawning program node => "spawning '" ++ program ++ "' for '" ++ node ++ "'"
  | .openingOutput path => "opening output file " ++ path.quoted
  | .writingHeader path => "writing header to " ++ path.quoted
  | .readingPipelineFile path => "reading pipeline file " ++ path.text
  | .resolvingDirectory path => "resolving pipeline directory " ++ path.text
  | .refused text => text

def exitStatus : Failure → Int
  | .actionFailed _ status => if 0 < status ∧ status < 256 then status else 1
  | _ => 1

/-- Failures that nothing can be done about: all work stops on the spot. -/
def isBreakdown : Failure → Bool
  | .nestedGlob _ | .config (.nestedGlob _ _) => true
  | _ => false

end Failure

end ArtifactPipeline
