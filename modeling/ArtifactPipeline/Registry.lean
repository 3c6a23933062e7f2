import ArtifactPipeline.Artifact
import ArtifactPipeline.Failure

set_option autoImplicit false

namespace ArtifactPipeline

structure Registry where
  nodes : List Artifact
  deriving DecidableEq, Repr, Inhabited

namespace Registry

def empty : Registry := ⟨[]⟩

def find? (registry : Registry) (id : NodeId) : Option Artifact :=
  registry.nodes.find? fun node => node.id == id

def get? (registry : Registry) (id : String) : Option Artifact :=
  registry.find? (NodeId.canonical id)

def contains (registry : Registry) (id : String) : Bool :=
  (registry.get? id).isSome

def resolve (registry : Registry) (id : String) : Except Failure Artifact :=
  match registry.get? id with
  | some node => .ok node
  | none => .error (.unknownTarget (NodeId.canonical id))

def ids (registry : Registry) : List NodeId :=
  registry.nodes.map (·.id)

def size (registry : Registry) : Nat :=
  registry.nodes.length

inductive Registration where
  | added (registry : Registry)
  | repeated

def offer (registry : Registry) (node : Artifact) : Except Failure Registration :=
  match registry.find? node.id with
  | some known => if known.same node then .ok .repeated else .error (.duplicateRule node.id)
  | none => .ok (.added ⟨registry.nodes ++ [node]⟩)

def register (registry : Registry) (node : Artifact) : Except Failure Registry :=
  match registry.offer node with
  | .ok (.added registry) => .ok registry
  | .ok .repeated => .ok registry
  | .error failure => .error failure

def registerAll (registry : Registry) : List Artifact → Except Failure Registry
  | [] => .ok registry
  | node :: rest =>
      match registry.register node with
      | .ok registry => registry.registerAll rest
      | .error failure => .error failure

end Registry

end ArtifactPipeline
