import ArtifactPipeline.Assoc
import ArtifactPipeline.Failure
import ArtifactPipeline.Registry

set_option autoImplicit false

namespace ArtifactPipeline

structure NodeStates where
  entries : List (NodeId × NodeState)
  deriving DecidableEq, Repr, Inhabited

namespace NodeStates

def empty : NodeStates := ⟨[]⟩

def get (states : NodeStates) (id : NodeId) : NodeState :=
  (states.entries.lookup id).getD .unvisited

def set (states : NodeStates) (id : NodeId) (state : NodeState) : NodeStates :=
  ⟨Assoc.set id state states.entries⟩

def transition (states : NodeStates) (id : NodeId) (next : NodeState) :
    Except Failure NodeStates :=
  if (states.get id).canBecome next then .ok (states.set id next)
  else .error (.illegalTransition id (states.get id) next)

def inState (states : NodeStates) (state : NodeState) : List NodeId :=
  ((states.entries.filter fun entry => entry.2 == state).map (·.1)).mergeSort
    fun a b => decide (a ≤ b)

@[simp] theorem get_empty (id : NodeId) : empty.get id = .unvisited := rfl

theorem get_set (states : NodeStates) (id other : NodeId) (state : NodeState) :
    (states.set id state).get other = if other = id then state else states.get other := by
  by_cases h : other = id <;> simp [get, set, Assoc.lookup_set, h]

end NodeStates

structure Plan where
  order : List NodeId
  deps : List (NodeId × List NodeId)
  states : NodeStates
  deriving DecidableEq, Repr

namespace Plan

def empty : Plan := ⟨[], [], .empty⟩

def readyIn (plan : Plan) (states : NodeStates) (id : NodeId) : Bool :=
  match plan.deps.lookup id with
  | some deps => deps.all fun dep => (states.get dep).isSatisfied
  | none => true

def ready (plan : Plan) (id : NodeId) : Bool :=
  plan.readyIn plan.states id

def settle (plan : Plan) (id : NodeId) (deps : List NodeId) : Plan :=
  { plan with order := plan.order ++ [id], deps := (id, deps) :: plan.deps }

/-- Plans a node after its prerequisites. `trail` leads from a target to it; a node that is met
again on its own trail closes a cycle. The trail holds no registered node twice, so `depth` need
not exceed the number of registered nodes. -/
def visit (registry : Registry) : Nat → List NodeId → Plan → NodeId → Except Failure Plan
  | depth, trail, plan, id =>
      if id ∈ plan.order then .ok plan
      else if plan.states.get id = .evaluating then .error (.cyclicPlan (trail ++ [id]))
      else
        match registry.resolve id with
        | .error failure => .error failure
        | .ok node =>
            match plan.states.transition node.id .evaluating with
            | .error failure => .error failure
            | .ok states =>
                match depth with
                | 0 => .error (.cyclicPlan (trail ++ [id]))
                | depth + 1 =>
                    let deps := node.nodePrerequisites.filter registry.contains
                    let visited := deps.foldlM
                      (visit registry depth (trail ++ [node.id])) { plan with states }
                    match visited with
                    | .error failure => .error failure
                    | .ok plan => .ok (plan.settle node.id deps)

def checkTargets (registry : Registry) : List String → Except Failure Unit
  | [] => .ok ()
  | target :: rest =>
      match registry.resolve target with
      | .ok _ => checkTargets registry rest
      | .error failure => .error failure

def make (registry : Registry) (targets : List String) : Except Failure Plan :=
  match checkTargets registry targets with
  | .error failure => .error failure
  | .ok () =>
      (targets.map NodeId.canonical).foldlM (visit registry registry.size []) empty

end Plan

end ArtifactPipeline
