import ArtifactPipeline.Config.Document
import ArtifactPipeline.Failure
import ArtifactPipeline.Glob.Match
import ArtifactPipeline.Template

set_option autoImplicit false

namespace ArtifactPipeline

namespace Check

def faultIf (condition : Bool) (fault : ConfigFault) : List ConfigFault :=
  if condition then [fault] else []

def templateFaults (place : Place) (allowed : List Placeholder) (templates : List String) :
    List ConfigFault :=
  templates.flatMap fun template =>
    ((Template.placeholders template).filter fun name =>
      !(allowed.map Placeholder.name).contains name).map fun name =>
        .unavailablePlaceholder place name template

def settingsFaults (settings : Settings) : List ConfigFault :=
  faultIf (settings.jobs == some 0) .fileJobsZero ++
  faultIf (Text.isBlankText settings.expDir) .emptyExpDir ++
  faultIf (settings.defaultTargets.any Text.isBlankText) .emptyDefaultTarget

def datasetFaults (earlier : List String) (dataset : DatasetEntry) : List ConfigFault :=
  faultIf (Text.isBlankText dataset.name) .unnamedDataset ++
  faultIf (Text.isBlankText dataset.path) (.datasetWithoutPath dataset.name) ++
  faultIf (earlier.contains dataset.name) (.repeatedDataset dataset.name)

def datasetsFaults : List String → List DatasetEntry → List ConfigFault
  | _, [] => []
  | earlier, dataset :: rest =>
      datasetFaults earlier dataset ++ datasetsFaults (dataset.name :: earlier) rest

def programPlaceholders : List Placeholder := [.dataset, .queries, .nproc, .root]

def programFaults (name : String) : Option ProgramEntry → List ConfigFault
  | none => []
  | some program =>
      let place := Place.program name
      faultIf program.args.isEmpty (.programWithoutArgs name) ++
      templateFaults place programPlaceholders program.args ++
      templateFaults place programPlaceholders program.env.values ++
      templateFaults place programPlaceholders program.cwd.toList

def lowerBoundFaults (file : PipelineFile) : List ConfigFault :=
  if file.derivation.tdLowerBound.isSome then []
  else
    (file.datasets.filter fun dataset => dataset.temporal == .timeDependent).map fun dataset =>
      .missingLowerBoundProgram dataset.name

def derivationFaults (file : PipelineFile) : List ConfigFault :=
  programFaults "ch_builder" file.derivation.chBuilder ++
  programFaults "td_lower_bound" file.derivation.tdLowerBound ++
  programFaults "cch_order" file.derivation.cchOrder ++
  lowerBoundFaults file

def embedsFeatures (arg : String) : Bool :=
  arg.toList != Placeholder.features.pattern &&
    Text.occursIn Placeholder.features.pattern arg.toList

def commandFaults (place : Place) (allowed : List Placeholder) (command : CommandEntry) :
    List ConfigFault :=
  faultIf command.args.isEmpty (.commandWithEmptyArgs place) ++
  templateFaults place allowed command.args ++
  templateFaults place allowed command.env.values ++
  templateFaults place allowed command.cwd.toList ++
  templateFaults place allowed command.stdout.toList ++
  templateFaults place allowed command.header.toList ++
  (command.args.filter embedsFeatures).map (.embeddedFeatures place)

def rulePlaceholders : List Placeholder := [.queries, .nproc, .root]

def ruleCommandFaults (place : Place) (command : CommandEntry) : List ConfigFault :=
  faultIf command.hasMatrixSettings (.matrixSettingsInRule place) ++
  commandFaults place rulePlaceholders command

def globFaults (place : Place) (pattern : String) : List ConfigFault :=
  match Glob.compile pattern with
  | .ok _ => []
  | .error .malformed => [.invalidGlob place pattern]
  | .error .tooDeep => [.nestedGlob place pattern]

def ruleFaults (id : NodeId) (rule : RuleEntry) : List ConfigFault :=
  let place := Place.rule id
  faultIf ((rule.deps ++ rule.restrictedDeps).any fun dep => NodeId.canonical dep == id)
    (.selfDependency place) ++
  faultIf (rule.kind == .directory && (!rule.commands.isEmpty || rule.symlink.isSome))
    (.directoryWithAction place) ++
  faultIf (rule.symlink.isSome && !rule.commands.isEmpty) (.symlinkWithCommands place) ++
  rule.globs.flatMap (globFaults place) ++
  rule.commands.flatMap (ruleCommandFaults place)

def rulesFaults : List NodeId → List RuleEntry → List Failure
  | _, [] => []
  | earlier, rule :: rest =>
      let id := NodeId.canonical rule.id
      (faultIf (Text.isBlankText rule.id) .unnamedRule).map .config ++
      (if earlier.contains id then [.duplicateRule id] else []) ++
      (ruleFaults id rule).map .config ++
      rulesFaults (id :: earlier) rest

def axisFaults (place : Place) (axes : List Axis) : List ConfigFault :=
  axes.zipIdx.flatMap fun (axis, index) => faultIf axis.isEmpty (.emptyAxis place index)

def requirePlaceholders : List Placeholder := [.dataset, .queries, .nproc]

def matrixFaults (datasets : List String) (entry : MatrixEntry) : List ConfigFault :=
  let place := Place.matrix entry.name
  let listed := entry.datasets.getD [] ++
    entry.commands.flatMap fun command => command.datasets.getD []
  let flags := entry.axes.flatten.flatten
  faultIf entry.commands.isEmpty (.matrixWithoutCommands place) ++
  faultIf (entry.repetitions == 0) (.zeroRepeat place) ++
  faultIf (Text.isBlankText entry.extension) (.emptyExtension place) ++
  faultIf datasets.isEmpty (.matrixWithoutDatasets place) ++
  (listed.filter fun name => !datasets.contains name).map (.unknownDataset place) ++
  faultIf (entry.datasets == some []) (.emptyDatasetList place) ++
  axisFaults place entry.axes ++
  ((entry.guards.flatMap Guard.flags).filter fun flag => !flags.contains flag).map
    (.unknownGuardFlag place) ++
  faultIf (entry.envWhen.any fun conditional => conditional.flags.isEmpty)
    (.conditionWithoutFlags place) ++
  templateFaults place requirePlaceholders (entry.requires ++ entry.restrictedRequires) ++
  templateFaults place Placeholder.all entry.env.values ++
  templateFaults place Placeholder.all entry.cwd.toList ++
  (entry.envWhen.flatMap fun conditional =>
    templateFaults place Placeholder.all conditional.env.values) ++
  entry.commands.flatMap (commandFaults place Placeholder.all)

def matricesFaults (datasets : List String) : List String → List MatrixEntry → List ConfigFault
  | _, [] => []
  | earlier, entry :: rest =>
      faultIf (Text.isBlankText entry.name) .unnamedMatrix ++
      faultIf (earlier.contains entry.name) (.repeatedMatrix (.matrix entry.name)) ++
      matrixFaults datasets entry ++
      matricesFaults datasets (entry.name :: earlier) rest

end Check

namespace PipelineFile

open Check

def faults (file : PipelineFile) : List Failure :=
  (settingsFaults file.settings).map .config ++
  (datasetsFaults [] file.datasets).map .config ++
  (derivationFaults file).map .config ++
  rulesFaults [] file.rules ++
  (matricesFaults (file.datasets.map (·.name)) [] file.matrices).map .config

def check (file : PipelineFile) : Except Failure PipelineFile :=
  match file.faults with
  | [] => .ok file
  | failure :: _ => .error failure

def load (text : String) : Except Failure PipelineFile :=
  match decode text with
  | .error fault => .error (.document fault)
  | .ok file => file.check

theorem check_eq_ok_iff {file checked : PipelineFile} :
    file.check = .ok checked ↔ file.faults = [] ∧ file = checked := by
  unfold check
  split <;> simp_all

end PipelineFile

end ArtifactPipeline
