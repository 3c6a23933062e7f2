import ArtifactPipeline.Command
import ArtifactPipeline.NodeId

set_option autoImplicit false

namespace ArtifactPipeline

inductive ArtifactKind where
  | file
  | directory
  | phony
  deriving DecidableEq, Repr, Inhabited

inductive Prerequisite where
  | node (id : NodeId)
  | glob (pattern : String)
  deriving DecidableEq, Repr

def Prerequisite.node? : Prerequisite → Option NodeId
  | .node id => some id
  | .glob _ => none

inductive Action where
  | none
  | createDir
  | symlink (target : Path)
  | run (commands : List Command)
  deriving DecidableEq, Repr

namespace Action

def isExternal : Action → Bool
  | .run commands => !commands.isEmpty
  | _ => false

def same : Action → Action → Bool
  | .none, .none => true
  | .createDir, .createDir => true
  | .symlink a, .symlink b => a.same b
  | .run as, .run bs => sameList Command.same as bs
  | _, _ => false

@[simp] theorem same_refl (action : Action) : action.same action = true := by
  cases action <;> simp [same, sameList_refl Command.same_refl]

end Action

structure Artifact where
  id : NodeId
  kind : ArtifactKind
  prerequisites : List Prerequisite
  action : Action
  description : Option String
  deriving DecidableEq, Repr

namespace Artifact

def file (id : String) (action : Action) : Artifact :=
  ⟨NodeId.canonical id, .file, [], action, none⟩

def directory (id : String) : Artifact :=
  ⟨NodeId.canonical id, .directory, [], .createDir, none⟩

def phony (id : String) (action : Action) : Artifact :=
  ⟨NodeId.canonical id, .phony, [], action, none⟩

def dependsOn (artifact : Artifact) (id : String) : Artifact :=
  let prerequisite := Prerequisite.node (NodeId.canonical id)
  if prerequisite ∈ artifact.prerequisites then artifact
  else { artifact with prerequisites := artifact.prerequisites ++ [prerequisite] }

def dependsOnAll (artifact : Artifact) (ids : List String) : Artifact :=
  ids.foldl dependsOn artifact

def dependsOnGlob (artifact : Artifact) (pattern : String) : Artifact :=
  { artifact with prerequisites := artifact.prerequisites ++ [.glob pattern] }

def described (artifact : Artifact) (description : String) : Artifact :=
  { artifact with description := some description }

def nodePrerequisites (artifact : Artifact) : List NodeId :=
  artifact.prerequisites.filterMap Prerequisite.node?

def path (artifact : Artifact) : Path :=
  ⟨artifact.id⟩

def same (a b : Artifact) : Bool :=
  a.id == b.id && a.kind == b.kind && a.prerequisites == b.prerequisites &&
    a.action.same b.action && a.description == b.description

@[simp] theorem same_refl (artifact : Artifact) : artifact.same artifact = true := by
  simp [same]

theorem id_dependsOn (artifact : Artifact) (id : String) :
    (artifact.dependsOn id).id = artifact.id := by
  unfold dependsOn
  dsimp only
  split <;> rfl

end Artifact

end ArtifactPipeline
