import ArtifactPipeline.Failure
import ArtifactPipeline.RunSettings
import ArtifactPipeline.Template

set_option autoImplicit false

namespace ArtifactPipeline

structure Dataset where
  name : String
  path : NodeId
  visibility : Visibility
  temporal : TemporalClass
  deps : List NodeId
  deriving DecidableEq, Repr

def RunSettings.anchored (settings : RunSettings) (path : String) : String :=
  (settings.root.join ⟨path⟩).text

namespace Dataset

def graphFiles : List String := [
  "first_out", "head", "travel_time", "geo_distance", "osm_node_ids", "arc_category",
  "forbidden_turn_from_arc", "forbidden_turn_to_arc", "latitude", "longitude", "tail"
]

def hierarchyFiles : List String := [
  "order", "forward_first_out", "forward_head", "forward_weight", "backward_first_out",
  "backward_head", "backward_weight"
]

def ofEntry (entry : DatasetEntry) : Dataset where
  name := entry.name
  path := NodeId.canonical entry.path
  visibility := entry.visibility
  temporal := entry.temporal
  deps := entry.deps.map NodeId.canonical

def usable (dataset : Dataset) (settings : RunSettings) : Bool :=
  dataset.visibility == .unrestricted || !settings.publicOnly

def file (dataset : Dataset) (name : String) : NodeId :=
  NodeId.canonical (dataset.path ++ "/" ++ name)

def lowerBound (dataset : Dataset) : NodeId :=
  dataset.file "lower_bound"

def hierarchyDir (dataset : Dataset) : NodeId :=
  dataset.file "lower_bound_ch"

def hierarchyFile (dataset : Dataset) (name : String) : NodeId :=
  dataset.file ("lower_bound_ch/" ++ name)

def cchPerm (dataset : Dataset) : NodeId :=
  dataset.file "cch_perm"

def hierarchyAlias (dataset : Dataset) (group : String) : NodeId :=
  group ++ ":lower_bound_ch:" ++ dataset.name

def renderedPath (dataset : Dataset) (settings : RunSettings) : String :=
  settings.anchored dataset.path ++ "/"

end Dataset

structure Derived where
  artifacts : List Artifact
  targets : List NodeId
  deriving DecidableEq, Repr

namespace Derived

def empty : Derived := ⟨[], []⟩

def append (a b : Derived) : Derived :=
  ⟨a.artifacts ++ b.artifacts, a.targets ++ b.targets⟩

def context (dataset : Dataset) (settings : RunSettings) : Template.Context where
  dataset := some (dataset.renderedPath settings)
  queries := settings.queries
  nproc := settings.nproc
  root := settings.root.text

def programCommand (program : ProgramEntry) (dataset : Dataset) (settings : RunSettings) :
    Except Failure Command :=
  let ctx := context dataset settings
  match Template.renderArgs ctx program.args with
  | [] => .error (.config .derivationWithoutArgs)
  | name :: args =>
      .ok {
        program := name
        args
        env := Template.renderEnv ctx program.env
        cwd := program.cwd.map fun dir => settings.root.join ⟨Template.render ctx dir⟩
        stdout := none
      }

def lowerBoundBase (derivation : Derivation) (settings : RunSettings) (dataset : Dataset) :
    Except Failure Artifact :=
  match dataset.temporal with
  | .static =>
      .ok ((Artifact.file dataset.lowerBound (.symlink ⟨"travel_time"⟩)).dependsOn
        (dataset.file "travel_time"))
  | .timeDependent =>
      match derivation.tdLowerBound with
      | none => .error (.config (.missingLowerBoundProgram dataset.name))
      | some program =>
          match programCommand program dataset settings with
          | .error failure => .error failure
          | .ok command =>
              .ok ((Artifact.file dataset.lowerBound (.run [command])).dependsOnAll
                (dataset.file "first_out" :: dataset.file "head" :: program.deps))

/-- Travel times serve as their own lower bound unless they depend on the time of day. The
producers of the dataset come first, so that its files are there when they are used. -/
def lowerBound (derivation : Derivation) (settings : RunSettings) (dataset : Dataset) :
    Except Failure Derived :=
  match lowerBoundBase derivation settings dataset with
  | .error failure => .error failure
  | .ok base =>
      let artifact :=
        (({ base with prerequisites := [] } : Artifact).dependsOnAll
          (dataset.deps ++ base.nodePrerequisites)).described
            ("lower bound weights of " ++ dataset.name)
      .ok ⟨[artifact], [artifact.id]⟩

def hierarchy (derivation : Derivation) (settings : RunSettings) (dataset : Dataset) :
    Except Failure Derived :=
  match derivation.chBuilder with
  | none => .ok empty
  | some builder =>
      match programCommand builder dataset settings with
      | .error failure => .error failure
      | .ok command =>
          let files :=
            (["first_out", "head", "lower_bound"].map dataset.file ++
              Dataset.hierarchyFiles.map dataset.hierarchyFile).map settings.anchored
          let command := { command with args := command.args ++ files }
          let description := "contraction hierarchy of " ++ dataset.name
          let dir := Artifact.directory dataset.hierarchyDir
          let order :=
            ((Artifact.file (dataset.hierarchyFile "order") (.run [command])).described
              description).dependsOnAll
                (builder.deps ++
                  [dataset.file "first_out", dataset.file "head", dataset.lowerBound, dir.id])
          let whole :=
            ((Artifact.phony (dataset.hierarchyAlias derivation.group) .none).dependsOn
              order.id).described description
          .ok ⟨[dir, order, whole], [whole.id]⟩

def dissection (derivation : Derivation) (settings : RunSettings) (dataset : Dataset) :
    Except Failure Derived :=
  match derivation.cchOrder with
  | none => .ok empty
  | some program =>
      match programCommand program dataset settings with
      | .error failure => .error failure
      | .ok command =>
          let perm :=
            ((Artifact.file dataset.cchPerm (.run [command])).described
              ("nested dissection order of " ++ dataset.name)).dependsOnAll
                (program.deps ++ dataset.deps)
          .ok ⟨[perm], [perm.id]⟩

def ofDataset (derivation : Derivation) (settings : RunSettings) (dataset : Dataset) :
    Except Failure Derived :=
  match lowerBound derivation settings dataset with
  | .error failure => .error failure
  | .ok bound =>
      match hierarchy derivation settings dataset with
      | .error failure => .error failure
      | .ok levels =>
          match dissection derivation settings dataset with
          | .error failure => .error failure
          | .ok order => .ok ((bound.append levels).append order)

end Derived

end ArtifactPipeline
