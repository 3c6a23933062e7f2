import ArtifactPipeline.Registry

set_option autoImplicit false

namespace ArtifactPipeline.Graph

structure Digraph where
  vertices : List NodeId
  edges : List (NodeId × NodeId)
  deriving DecidableEq, Repr

namespace Digraph

def successors (g : Digraph) (id : NodeId) : List NodeId :=
  (g.edges.filter fun edge => edge.1 == id).map (·.2)

def predecessors (g : Digraph) (id : NodeId) : List NodeId :=
  (g.edges.filter fun edge => edge.2 == id).map (·.1)

def ofRegistry (registry : Registry) : Digraph where
  vertices := registry.ids
  edges :=
    (registry.nodes.flatMap fun node =>
      (node.nodePrerequisites.filter fun id => (registry.find? id).isSome).map
        fun id => (id, node.id)).eraseDups

end Digraph

structure Finishing where
  discovered : List NodeId
  finished : List NodeId
  deriving Repr

def undiscovered (g : Digraph) (discovered : List NodeId) : Nat :=
  (g.vertices.filter fun id => !decide (id ∈ discovered)).length

inductive Search (α : Type) where
  | done (result : α)
  | cycle (through : NodeId)

/-- Handles the top of the stack until the stack is empty. A vertex met for the first time stays
on the stack below its undiscovered successors; met again it is finished. Reports a vertex with an
edge to itself. -/
def finishAll (g : Digraph) : Nat → List NodeId → Finishing → Search Finishing
  | 0, _, state => .done state
  | _, [], state => .done state
  | fuel + 1, id :: stack, state =>
      if id ∈ state.discovered then
        let finished :=
          if id ∈ state.finished then state.finished else id :: state.finished
        finishAll g fuel stack { state with finished }
      else
        let discovered := id :: state.discovered
        let next := g.successors id
        if id ∈ next then .cycle id
        else
          let fresh := next.filter fun v => !decide (v ∈ discovered)
          finishAll g fuel (fresh.reverse ++ id :: stack) { state with discovered }

def stepLimit (g : Digraph) : Nat :=
  2 * g.vertices.length + g.edges.length + 1

def finishFrom (g : Digraph) : List NodeId → Finishing → Search Finishing
  | [], state => .done state
  | id :: rest, state =>
      if id ∈ state.discovered then finishFrom g rest state
      else
        match finishAll g (stepLimit g) [id] state with
        | .done state => finishFrom g rest state
        | .cycle through => .cycle through

def collectBack (g : Digraph) : Nat → List NodeId → List NodeId → List NodeId → List NodeId × List NodeId
  | 0, _, known, out => (known, out)
  | _, [], known, out => (known, out)
  | fuel + 1, id :: stack, known, out =>
      if id ∈ known then collectBack g fuel stack known out
      else
        let known := id :: known
        let fresh := (g.predecessors id).filter fun v => !decide (v ∈ known)
        collectBack g fuel (fresh.reverse ++ stack) known (out ++ [id])

def checkBack (g : Digraph) : List NodeId → List NodeId → Option NodeId
  | [], _ => none
  | id :: rest, known =>
      match collectBack g (stepLimit g) [id] known [] with
      | (_, _ :: second :: _) => some second
      | (known, _) => checkBack g rest known

/-- A vertex on a cycle, when there is a cycle: finishes all vertices in depth-first order, then
searches back from the last one finished to the first. -/
def cycleWitness? (g : Digraph) : Option NodeId :=
  match finishFrom g g.vertices ⟨[], []⟩ with
  | .cycle through => some through
  | .done state => checkBack g state.finished []

def validate (registry : Registry) : Except Failure Unit :=
  match cycleWitness? (.ofRegistry registry) with
  | some id => .error (.cyclicGraph id)
  | none => .ok ()

end ArtifactPipeline.Graph
