import ArtifactPipeline.Artifact
import ArtifactPipeline.Classification
import ArtifactPipeline.Feature

set_option autoImplicit false

namespace ArtifactPipeline

structure Settings where
  defaultTargets : List String := []
  expDir : String := "exp"
  jobs : Option Nat := none
  defaultQueries : Nat := 1000
  deriving DecidableEq, Repr

structure DatasetEntry where
  name : String
  path : String
  visibility : Visibility := .unrestricted
  temporal : TemporalClass := .static
  deps : List String := []
  deriving DecidableEq, Repr

structure ProgramEntry where
  args : List String
  cwd : Option String := none
  env : Environment := .empty
  deps : List String := []
  deriving DecidableEq, Repr

structure Derivation where
  group : String := "prep"
  chBuilder : Option ProgramEntry := none
  tdLowerBound : Option ProgramEntry := none
  cchOrder : Option ProgramEntry := none
  deriving DecidableEq, Repr

structure CommandEntry where
  args : List String
  cwd : Option String := none
  env : Environment := .empty
  stdout : Option String := none
  append : Bool := false
  header : Option String := none
  onlyIn : Option ModeFilter := none
  restricted : Bool := false
  category : Option String := none
  extension : Option String := none
  datasets : Option (List String) := none
  temporal : Option TemporalClass := none
  deriving DecidableEq, Repr

namespace CommandEntry

def enabled (command : CommandEntry) (publicOnly : Bool) : Bool :=
  !(command.restricted && publicOnly) &&
    (command.onlyIn.map fun mode => mode.admits publicOnly).getD true

def hasMatrixSettings (command : CommandEntry) : Bool :=
  command.category.isSome || command.extension.isSome || command.datasets.isSome ||
    command.temporal.isSome

end CommandEntry

structure RuleEntry where
  id : String
  kind : ArtifactKind := .file
  group : Option String := none
  deps : List String := []
  restrictedDeps : List String := []
  globs : List String := []
  symlink : Option String := none
  description : Option String := none
  commands : List CommandEntry := []
  deriving DecidableEq, Repr

structure ConditionalEnv where
  flags : List String
  env : Environment
  deriving DecidableEq, Repr

def ConditionalEnv.appliesTo (conditional : ConditionalEnv) (features : FeatureSet) : Bool :=
  features.containsAll conditional.flags

structure GuardEntry where
  flag : String
  requires : List String := []
  excludes : List String := []
  deriving DecidableEq, Repr

def GuardEntry.guards (entry : GuardEntry) : List Guard :=
  (if entry.requires.isEmpty then [] else [.requires entry.flag entry.requires]) ++
    (if entry.excludes.isEmpty then [] else [.excludes entry.flag entry.excludes])

structure MatrixEntry where
  name : String
  group : String := "exp"
  categoryName : Option String := none
  extension : String := "json"
  datasets : Option (List String) := none
  temporal : Option TemporalClass := none
  requires : List String := []
  restrictedRequires : List String := []
  cwd : Option String := none
  env : Environment := .empty
  envWhen : List ConditionalEnv := []
  repetitions : Nat := 1
  axes : List Axis := []
  guardEntries : List GuardEntry := []
  restrictedFeatures : List String := []
  restricted : Bool := false
  description : Option String := none
  commands : List CommandEntry := []
  deriving DecidableEq, Repr

namespace MatrixEntry

def category (entry : MatrixEntry) : String :=
  entry.categoryName.getD entry.name

def aggregateId (entry : MatrixEntry) : String :=
  entry.group ++ ":" ++ entry.name

def guards (entry : MatrixEntry) : List Guard :=
  entry.guardEntries.flatMap GuardEntry.guards

end MatrixEntry

structure PipelineFile where
  settings : Settings := {}
  datasets : List DatasetEntry := []
  derivation : Derivation := {}
  rules : List RuleEntry := []
  matrices : List MatrixEntry := []
  deriving DecidableEq, Repr

def PipelineFile.dataset? (file : PipelineFile) (name : String) : Option DatasetEntry :=
  file.datasets.find? fun dataset => dataset.name == name

end ArtifactPipeline
