import ArtifactPipeline.Dataset
import ArtifactPipeline.OutputNamer

set_option autoImplicit false

namespace ArtifactPipeline

structure Variant where
  matrixName : String
  dataset : String
  features : FeatureSet
  repetition : Nat
  category : String
  output : NodeId
  command : Command
  requires : List NodeId
  deriving DecidableEq, Repr

namespace Experiment

structure Slot where
  dataset : Dataset
  repetition : Nat
  command : CommandEntry
  features : FeatureSet
  deriving DecidableEq, Repr

def passes (names : Option (List String)) (temporal : Option TemporalClass) (dataset : Dataset) :
    Bool :=
  (names.map fun names => names.contains dataset.name).getD true &&
    (temporal.map fun temporal => temporal == dataset.temporal).getD true

def datasetApplies (entry : MatrixEntry) (settings : RunSettings) (dataset : Dataset) : Bool :=
  passes entry.datasets entry.temporal dataset && dataset.usable settings

def commandApplies (settings : RunSettings) (dataset : Dataset) (command : CommandEntry) : Bool :=
  passes command.datasets command.temporal dataset && command.enabled settings.publicOnly

def featuresApply (entry : MatrixEntry) (settings : RunSettings) (features : FeatureSet) : Bool :=
  entry.guards.all (Guard.admits features) &&
    !(settings.publicOnly && features.containsAny entry.restrictedFeatures)

def combinations (entry : MatrixEntry) (settings : RunSettings) : List FeatureSet :=
  (featureCombinations entry.axes).filter (featuresApply entry settings)

def slots (entry : MatrixEntry) (settings : RunSettings) (datasets : List Dataset) : List Slot :=
  (datasets.filter (datasetApplies entry settings)).flatMap fun dataset =>
    (List.range entry.repetitions).flatMap fun repetition =>
      (entry.commands.filter (commandApplies settings dataset)).flatMap fun command =>
        (combinations entry settings).map fun features => ⟨dataset, repetition, command, features⟩

def Slot.category (slot : Slot) (entry : MatrixEntry) : String :=
  slot.command.category.getD entry.category

def Slot.extension (slot : Slot) (entry : MatrixEntry) : String :=
  slot.command.extension.getD entry.extension

def requires (entry : MatrixEntry) (settings : RunSettings) (dataset : Dataset) : List NodeId :=
  let ctx : Template.Context := {
    dataset := some dataset.path
    queries := settings.queries
    nproc := settings.nproc
  }
  let restricted := if settings.publicOnly then [] else entry.restrictedRequires
  (entry.requires ++ restricted).map fun template => NodeId.canonical (Template.render ctx template)

def context (settings : RunSettings) (slot : Slot) (output : NodeId) : Template.Context where
  dataset := some (slot.dataset.renderedPath settings)
  features := some slot.features
  output := some (settings.anchored output)
  queries := settings.queries
  nproc := settings.nproc
  root := settings.root.text

def environment (ctx : Template.Context) (entry : MatrixEntry) (slot : Slot) : Environment :=
  let conditional := entry.envWhen.filter fun conditional => conditional.appliesTo slot.features
  let env := conditional.foldl
    (fun env conditional => env.addAll (Template.renderEnv ctx conditional.env).vars)
    (Template.renderEnv ctx entry.env)
  env.addAll (Template.renderEnv ctx slot.command.env).vars

def command (entry : MatrixEntry) (settings : RunSettings) (slot : Slot) (output : NodeId) :
    Except Failure Command :=
  let ctx := context settings slot output
  match Template.renderArgs ctx slot.command.args with
  | [] => .error (.config (.commandWithoutArgs (.matrix entry.name)))
  | program :: args =>
      let stdout :=
        match slot.command.stdout with
        | some path => settings.anchored (Template.render ctx path)
        | none => settings.anchored output
      .ok {
        program
        args
        env := environment ctx entry slot
        cwd := (slot.command.cwd.or entry.cwd).map fun dir =>
          settings.root.join ⟨Template.render ctx dir⟩
        stdout := some {
          path := ⟨stdout⟩
          append := slot.command.append
          header := slot.command.header.map (Template.render ctx)
        }
      }

def variant (entry : MatrixEntry) (settings : RunSettings) (slot : Slot) (output : NodeId) :
    Except Failure Variant :=
  match command entry settings slot output with
  | .error failure => .error failure
  | .ok command =>
      .ok {
        matrixName := entry.name
        dataset := slot.dataset.name
        features := slot.features
        repetition := slot.repetition
        category := slot.category entry
        output
        command
        requires := requires entry settings slot.dataset
      }

/-- Gives every slot an output of its own and renders it. `used` lists the outputs that are taken.
Names that were given out stay taken also when a later slot cannot be rendered. -/
def fill (entry : MatrixEntry) (settings : RunSettings) (expDir : Path) :
    List NodeId → OutputNamer → List Slot → Except Failure (List Variant) × OutputNamer
  | _, namer, [] => (.ok [], namer)
  | used, namer, slot :: rest =>
      let (path, namer) := namer.next expDir (slot.category entry) (slot.extension entry)
      let output := NodeId.ofPath path
      if output ∈ used then
        (.error (.config (.repeatedOutput (.matrix entry.name) output)), namer)
      else
        match variant entry settings slot output with
        | .error failure => (.error failure, namer)
        | .ok first =>
            match fill entry settings expDir (output :: used) namer rest with
            | (.error failure, namer) => (.error failure, namer)
            | (.ok others, namer) => (.ok (first :: others), namer)

def expand (entry : MatrixEntry) (settings : RunSettings) (datasets : List Dataset)
    (expDir : Path) (namer : OutputNamer) : Except Failure (List Variant) × OutputNamer :=
  if entry.restricted && settings.publicOnly then (.ok [], namer)
  else fill entry settings expDir [] namer (slots entry settings datasets)

end Experiment

end ArtifactPipeline
