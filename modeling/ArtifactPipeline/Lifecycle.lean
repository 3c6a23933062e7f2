set_option autoImplicit false

namespace ArtifactPipeline

/-- Where a node stands in one run: it is planned, found up to date or started, and then finished
one way or the other. A node whose planning is under way counts as evaluating. -/
inductive NodeState where
  | unvisited
  | evaluating
  | skipped
  | executing
  | succeeded
  | failed
  deriving DecidableEq, Repr, Inhabited

namespace NodeState

def isSatisfied : NodeState → Bool
  | .skipped | .succeeded => true
  | _ => false

def isFinal : NodeState → Bool
  | .skipped | .succeeded | .failed => true
  | _ => false

def canBecome : NodeState → NodeState → Bool
  | .unvisited, .evaluating
  | .evaluating, .skipped
  | .evaluating, .executing
  | .executing, .succeeded
  | .executing, .failed => true
  | _, _ => false

def name : NodeState → String
  | .unvisited => "Unvisited"
  | .evaluating => "Evaluating"
  | .skipped => "Skipped"
  | .executing => "Executing"
  | .succeeded => "Succeeded"
  | .failed => "Failed"

theorem not_canBecome_of_isFinal {state : NodeState} (final : state.isFinal = true)
    (next : NodeState) : state.canBecome next = false := by
  cases state <;> cases next <;> simp_all [isFinal, canBecome]

theorem isFinal_of_isSatisfied {state : NodeState} (satisfied : state.isSatisfied = true) :
    state.isFinal = true := by
  cases state <;> simp_all [isFinal, isSatisfied]

end NodeState

end ArtifactPipeline
