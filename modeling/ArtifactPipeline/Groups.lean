import ArtifactPipeline.Failure
import ArtifactPipeline.NodeId

set_option autoImplicit false

namespace ArtifactPipeline

structure Groups where
  entries : List (String × List NodeId)
  deriving DecidableEq, Repr, Inhabited

namespace Groups

def empty : Groups := ⟨[]⟩

def addMember (members : List NodeId) (id : NodeId) : List NodeId :=
  if id ∈ members then members else members ++ [id]

def insertMember (group : String) (id : NodeId) :
    List (String × List NodeId) → List (String × List NodeId)
  | [] => [(group, [id])]
  | (name, members) :: rest =>
      if group < name then (group, [id]) :: (name, members) :: rest
      else if group = name then (name, addMember members id) :: rest
      else (name, members) :: insertMember group id rest

def add (groups : Groups) (group id : String) : Groups :=
  ⟨insertMember group (NodeId.canonical id) groups.entries⟩

def addAll (groups : Groups) (group : String) (ids : List String) : Groups :=
  ids.foldl (fun groups id => groups.add group id) groups

def members? (groups : Groups) (group : String) : Option (List NodeId) :=
  groups.entries.lookup group

def contains (groups : Groups) (group : String) : Bool :=
  (groups.members? group).isSome

def members (groups : Groups) (group : String) : Except Failure (List NodeId) :=
  match groups.members? group with
  | some ids => .ok ids
  | none => .error (.unknownGroup group)

end Groups

end ArtifactPipeline
