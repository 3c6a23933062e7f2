import ArtifactPipeline.Log.Line
import ArtifactPipeline.Pipeline

set_option autoImplicit false

namespace ArtifactPipeline.Pipeline

def repeatLines (registry : Registry) : List Artifact → List LogLine
  | [] => []
  | artifact :: rest =>
      match registry.offer artifact with
      | .ok (.added registry) => repeatLines registry rest
      | .ok .repeated => .registry .debug ["node"] :: repeatLines registry rest
      | .error _ => []

def ruleLines (settings : RunSettings) (draft : Draft) (rule : RuleEntry) : List LogLine :=
  match ruleArtifact settings rule with
  | .ok artifact => repeatLines draft.registry [artifact]
  | .error _ => []

def datasetLines (derivation : Derivation) (settings : RunSettings) (draft : Draft)
    (dataset : Dataset) : List LogLine :=
  match Derived.ofDataset derivation settings dataset with
  | .ok derived => repeatLines draft.registry derived.artifacts
  | .error _ => []

def matrixLines (expDir : String) (settings : RunSettings) (datasets : List Dataset)
    (draft : Draft) (entry : MatrixEntry) : List LogLine :=
  match Experiment.expand entry settings datasets ⟨expDir⟩ draft.namer with
  | (.ok variants, _) =>
      let skipped := settings.publicOnly && entry.restricted
      .expansion .debug (if skipped then ["matrix"] else ["matrix", "variants"]) ::
        repeatLines draft.registry (Draft.matrixArtifacts expDir entry variants)
  | (.error _, _) => []

def linesAlong {α : Type} (lines : Draft → α → List LogLine)
    (step : Draft → α → Except Failure Draft) :
    Draft → List α → List LogLine × Except Failure Draft
  | draft, [] => ([], .ok draft)
  | draft, item :: rest =>
      match step draft item with
      | .error failure => (lines draft item, .error failure)
      | .ok next =>
          let (more, result) := linesAlong lines step next rest
          (lines draft item ++ more, result)

def assembled : LogLine :=
  .pipeline .info ["nodes", "datasets", "variants"]

def journal (file : PipelineFile) (settings : RunSettings) (namer : OutputNamer) :
    List LogLine :=
  let datasets := usableDatasets file settings
  let expDir := file.settings.expDir
  match linesAlong (ruleLines settings) (Draft.addRule settings) (Draft.start namer) file.rules with
  | (first, .error _) => first
  | (first, .ok draft) =>
      match linesAlong (datasetLines file.derivation settings)
          (Draft.addDataset file.derivation settings) draft datasets with
      | (second, .error _) => first ++ second
      | (second, .ok draft) =>
          match linesAlong (matrixLines expDir settings datasets)
              (Draft.addMatrix expDir settings datasets) draft file.matrices with
          | (third, .error _) => first ++ second ++ third
          | (third, .ok draft) =>
              let built := (Graph.validate draft.registry).isOk
              first ++ second ++ third ++ (if built then [assembled] else [])

end ArtifactPipeline.Pipeline
