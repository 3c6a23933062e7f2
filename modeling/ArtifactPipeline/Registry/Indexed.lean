import ArtifactPipeline.Assoc
import ArtifactPipeline.Registry

set_option autoImplicit false

namespace ArtifactPipeline.Registry

/-- A registry in which ids are looked up in a table of positions and not searched for. The nodes
and the table are two things, and every registration has to serve both. -/
structure Indexed where
  nodes : List Artifact
  index : List (NodeId × Nat)
  deriving DecidableEq, Repr, Inhabited

namespace Indexed

inductive Answer where
  | added
  | repeated
  | refused (failure : Failure)
  | astray
  deriving DecidableEq, Repr

def Answer.succeeds : Answer → Bool
  | .added | .repeated => true
  | .refused _ | .astray => false

def empty : Indexed := ⟨[], []⟩

def ids (registry : Indexed) : List NodeId :=
  registry.nodes.map (·.id)

def plain (registry : Indexed) : Registry := ⟨registry.nodes⟩

def position? (registry : Indexed) (id : NodeId) : Option Nat :=
  registry.index.lookup id

def find? (registry : Indexed) (id : NodeId) : Option Artifact :=
  (registry.position? id).bind fun position => registry.nodes[position]?

def add (registry : Indexed) (node : Artifact) : Indexed where
  nodes := registry.nodes ++ [node]
  index := Assoc.set node.id registry.nodes.length registry.index

def register (registry : Indexed) (node : Artifact) : Answer × Indexed :=
  match registry.position? node.id with
  | none => (.added, registry.add node)
  | some position =>
      match registry.nodes[position]? with
      | none => (.astray, registry)
      | some known =>
          if known.same node then (.repeated, registry)
          else (.refused (.duplicateRule node.id), registry)

def registerEach (registry : Indexed) : List Artifact → List Answer × Indexed
  | [] => ([], registry)
  | node :: rest =>
      let (answer, next) := registry.register node
      let (answers, last) := next.registerEach rest
      (answer :: answers, last)

end Indexed

end ArtifactPipeline.Registry
