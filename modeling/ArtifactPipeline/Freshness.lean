import ArtifactPipeline.Glob.Expand
import ArtifactPipeline.Registry

set_option autoImplicit false

namespace ArtifactPipeline

structure Verdicts where
  memo : List (NodeId × Bool)
  newerMatches : List (NodeId × Path)
  deriving DecidableEq, Repr

namespace Verdicts

def none : Verdicts := ⟨[], []⟩

def get? (verdicts : Verdicts) (id : NodeId) : Option Bool :=
  verdicts.memo.lookup id

def record (verdicts : Verdicts) (id : NodeId) (dirty : Bool) : Verdicts :=
  { verdicts with memo := verdicts.memo ++ [(id, dirty)] }

def noteNewer (verdicts : Verdicts) (id : NodeId) (path : Path) : Verdicts :=
  { verdicts with newerMatches := verdicts.newerMatches ++ [(id, path)] }

end Verdicts

namespace Freshness

variable {W : Type} [Disk W]

abbrev Ruling := Except Failure Bool × Verdicts

def newerThan : Option Nat → Option Nat → Bool
  | some prerequisite, some own => own < prerequisite
  | _, _ => false

def modified (disk : W) (path : Path) : Except Failure (Option Nat) :=
  match Disk.modified disk path with
  | .ok mtime => .ok mtime
  | .error fault => .error (.disk fault)

def sourceIsNewer (disk : W) (node : Artifact) (id : NodeId) (own : Option Nat) :
    Except Failure Bool :=
  match modified disk ⟨id⟩ with
  | .error failure => .error failure
  | .ok none => .error (.missingPrerequisite node.id (NodeId.canonical id))
  | .ok mtime => .ok (!Disk.isDir disk ⟨id⟩ && newerThan mtime own)

def prerequisiteRuling (registry : Registry) (disk : W)
    (ask : Verdicts → Artifact → Ruling) (node : Artifact) (own : Option Nat)
    (verdicts : Verdicts) (id : NodeId) : Ruling :=
  match registry.get? id with
  | none => (sourceIsNewer disk node id own, verdicts)
  | some prerequisite =>
      match ask verdicts prerequisite with
      | (.error failure, verdicts) => (.error failure, verdicts)
      | (.ok dirty, verdicts) =>
          match prerequisite.kind with
          | .directory => (.ok false, verdicts)
          | .phony => (.ok dirty, verdicts)
          | .file =>
              if dirty then (.ok true, verdicts)
              else
                match modified disk ⟨id⟩ with
                | .error failure => (.error failure, verdicts)
                | .ok mtime => (.ok (newerThan mtime own), verdicts)

def matchesRuling (disk : W) (node : Artifact) (own : Option Nat) :
    Verdicts → Bool → List Path → Ruling
  | verdicts, dirty, [] => (.ok dirty, verdicts)
  | verdicts, dirty, path :: rest =>
      match modified disk path with
      | .error failure => (.error failure, verdicts)
      | .ok mtime =>
          if newerThan mtime own then
            matchesRuling disk node own (verdicts.noteNewer node.id path) true rest
          else matchesRuling disk node own verdicts dirty rest

/-- Goes through all prerequisites, also when the node is already known to be dirty: one that
cannot be satisfied is an error. -/
def prerequisitesRuling (registry : Registry) (disk : W)
    (ask : Verdicts → Artifact → Ruling) (node : Artifact) (own : Option Nat) :
    Verdicts → Bool → List Prerequisite → Ruling
  | verdicts, dirty, [] => (.ok dirty, verdicts)
  | verdicts, dirty, .node id :: rest =>
      match prerequisiteRuling registry disk ask node own verdicts id with
      | (.error failure, verdicts) => (.error failure, verdicts)
      | (.ok now, verdicts) =>
          prerequisitesRuling registry disk ask node own verdicts (dirty || now) rest
  | verdicts, dirty, .glob pattern :: rest =>
      match Glob.expand disk pattern with
      | .error failure => (.error failure, verdicts)
      | .ok paths =>
          match matchesRuling disk node own verdicts dirty paths with
          | (.error failure, verdicts) => (.error failure, verdicts)
          | (.ok dirty, verdicts) =>
              prerequisitesRuling registry disk ask node own verdicts dirty rest

def evaluate (registry : Registry) (disk : W) (ask : Verdicts → Artifact → Ruling)
    (verdicts : Verdicts) (node : Artifact) : Ruling :=
  match node.kind with
  | .phony => (.ok true, verdicts)
  | .directory => (.ok !Disk.isDir disk node.path, verdicts)
  | .file =>
      match modified disk node.path with
      | .error failure => (.error failure, verdicts)
      | .ok own =>
          prerequisitesRuling registry disk ask node own verdicts own.isNone node.prerequisites

/-- Decides about a node once. `underway` lists the nodes whose evaluation led here; none of them
is registered twice, so `depth` need not exceed the number of registered nodes. -/
def ruling (registry : Registry) (disk : W) :
    Nat → List NodeId → Verdicts → Artifact → Ruling
  | depth, underway, verdicts, node =>
      match verdicts.get? node.id with
      | some dirty => (.ok dirty, verdicts)
      | none =>
          if node.id ∈ underway then (.error (.cyclicCheck node.id), verdicts)
          else
            match depth with
            | 0 => (.error (.cyclicCheck node.id), verdicts)
            | depth + 1 =>
                match evaluate registry disk
                    (ruling registry disk depth (node.id :: underway)) verdicts node with
                | (.error failure, verdicts) => (.error failure, verdicts)
                | (.ok dirty, verdicts) => (.ok dirty, verdicts.record node.id dirty)

def isDirty (registry : Registry) (disk : W) (verdicts : Verdicts) (id : NodeId) : Ruling :=
  match registry.resolve id with
  | .error failure => (.error failure, verdicts)
  | .ok node => ruling registry disk registry.size [] verdicts node

end Freshness

end ArtifactPipeline
