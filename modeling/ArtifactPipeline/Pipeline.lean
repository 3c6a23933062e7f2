import ArtifactPipeline.Experiment
import ArtifactPipeline.Graph.Cycle
import ArtifactPipeline.Groups

set_option autoImplicit false

namespace ArtifactPipeline

structure Pipeline where
  registry : Registry
  groups : Groups
  defaults : List String
  variants : List Variant
  deriving DecidableEq, Repr

namespace Pipeline

structure Draft where
  registry : Registry
  groups : Groups
  variants : List Variant
  namer : OutputNamer
  deriving DecidableEq, Repr

def Draft.start (namer : OutputNamer) : Draft := ⟨.empty, .empty, [], namer⟩

def ruleContext (settings : RunSettings) : Template.Context where
  queries := settings.queries
  nproc := settings.nproc
  root := settings.root.text

def ruleCommand (settings : RunSettings) (id : String) (entry : CommandEntry) :
    Except Failure Command :=
  let ctx := ruleContext settings
  match Template.renderArgs ctx entry.args with
  | [] => .error (.config (.commandWithoutArgs (.rule id)))
  | program :: args =>
      .ok {
        program
        args
        env := Template.renderEnv ctx entry.env
        cwd := entry.cwd.map fun dir => settings.root.join ⟨Template.render ctx dir⟩
        stdout := entry.stdout.map fun path => {
          path := ⟨settings.anchored (Template.render ctx path)⟩
          append := entry.append
          header := entry.header.map (Template.render ctx)
        }
      }

def ruleCommands (settings : RunSettings) (id : String) :
    List CommandEntry → Except Failure (List Command)
  | [] => .ok []
  | entry :: rest =>
      match ruleCommand settings id entry with
      | .error failure => .error failure
      | .ok first =>
          match ruleCommands settings id rest with
          | .error failure => .error failure
          | .ok others => .ok (first :: others)

def ruleAction (settings : RunSettings) (rule : RuleEntry) : Except Failure Action :=
  match rule.symlink with
  | some target => .ok (.symlink ⟨target⟩)
  | none =>
      let enabled := rule.commands.filter fun entry => entry.enabled settings.publicOnly
      match ruleCommands settings rule.id enabled with
      | .error failure => .error failure
      | .ok [] => .ok .none
      | .ok commands => .ok (.run commands)

def ruleBase (settings : RunSettings) (rule : RuleEntry) : Except Failure Artifact :=
  match rule.kind with
  | .directory => .ok (Artifact.directory rule.id)
  | kind =>
      match ruleAction settings rule with
      | .error failure => .error failure
      | .ok action =>
          match kind with
          | .phony => .ok (Artifact.phony rule.id action)
          | _ => .ok (Artifact.file rule.id action)

def describe (artifact : Artifact) : Option String → Artifact
  | some description => artifact.described description
  | none => artifact

def ruleArtifact (settings : RunSettings) (rule : RuleEntry) : Except Failure Artifact :=
  match ruleBase settings rule with
  | .error failure => .error failure
  | .ok base =>
      let restricted := if settings.publicOnly then [] else rule.restrictedDeps
      let artifact := base.dependsOnAll (rule.deps ++ restricted)
      .ok (describe (rule.globs.foldl Artifact.dependsOnGlob artifact) rule.description)

namespace Draft

def join (draft : Draft) (group : String) (ids : List NodeId) : Draft :=
  { draft with groups := draft.groups.addAll group ids }

def registerAll (draft : Draft) (artifacts : List Artifact) : Except Failure Draft :=
  match draft.registry.registerAll artifacts with
  | .error failure => .error failure
  | .ok registry => .ok { draft with registry }

def addRule (settings : RunSettings) (draft : Draft) (rule : RuleEntry) : Except Failure Draft :=
  match ruleArtifact settings rule with
  | .error failure => .error failure
  | .ok artifact =>
      match rule.group with
      | some group => (draft.join group [artifact.id]).registerAll [artifact]
      | none => draft.registerAll [artifact]

def addDataset (derivation : Derivation) (settings : RunSettings) (draft : Draft)
    (dataset : Dataset) : Except Failure Draft :=
  match Derived.ofDataset derivation settings dataset with
  | .error failure => .error failure
  | .ok derived =>
      match draft.registerAll derived.artifacts with
      | .error failure => .error failure
      | .ok draft => .ok (draft.join derivation.group derived.targets)

def categoryDir (expDir : String) (variant : Variant) : NodeId :=
  NodeId.canonical (expDir ++ "/" ++ variant.category)

def outputArtifact (expDir : String) (variant : Variant) : Artifact :=
  (Artifact.file variant.output (.run [variant.command])).dependsOnAll
    (variant.requires ++ [categoryDir expDir variant])

def variantArtifacts (expDir : String) (variant : Variant) : List Artifact :=
  [Artifact.directory (categoryDir expDir variant), outputArtifact expDir variant]

def aggregate (expDir : String) (entry : MatrixEntry) (variants : List Variant) : Artifact :=
  (describe (Artifact.phony entry.aggregateId .none) entry.description).dependsOnAll
    (variants.map fun variant => (outputArtifact expDir variant).id)

def matrixArtifacts (expDir : String) (entry : MatrixEntry) (variants : List Variant) :
    List Artifact :=
  variants.flatMap (variantArtifacts expDir) ++ [aggregate expDir entry variants]

def addMatrix (expDir : String) (settings : RunSettings) (datasets : List Dataset) (draft : Draft)
    (entry : MatrixEntry) : Except Failure Draft :=
  match Experiment.expand entry settings datasets ⟨expDir⟩ draft.namer with
  | (.error failure, _) => .error failure
  | (.ok variants, namer) =>
      match draft.registerAll (matrixArtifacts expDir entry variants) with
      | .error failure => .error failure
      | .ok draft =>
          let draft := draft.join entry.group [(aggregate expDir entry variants).id]
          .ok { draft with namer, variants := draft.variants ++ variants }

end Draft

def usableDatasets (file : PipelineFile) (settings : RunSettings) : List Dataset :=
  (file.datasets.map Dataset.ofEntry).filter fun dataset => dataset.usable settings

def assemble (file : PipelineFile) (settings : RunSettings) (namer : OutputNamer) :
    Except Failure Draft :=
  let datasets := usableDatasets file settings
  match file.rules.foldlM (Draft.addRule settings) (Draft.start namer) with
  | .error failure => .error failure
  | .ok draft =>
      match datasets.foldlM (Draft.addDataset file.derivation settings) draft with
      | .error failure => .error failure
      | .ok draft =>
          file.matrices.foldlM
            (Draft.addMatrix file.settings.expDir settings datasets) draft

def build (file : PipelineFile) (settings : RunSettings) (namer : OutputNamer) :
    Except Failure (Pipeline × OutputNamer) :=
  match assemble file settings namer with
  | .error failure => .error failure
  | .ok draft =>
      match Graph.validate draft.registry with
      | .error failure => .error failure
      | .ok () =>
          .ok ({
            registry := draft.registry
            groups := draft.groups
            defaults := file.settings.defaultTargets
            variants := draft.variants
          }, draft.namer)

def select (pipeline : Pipeline) (name : String) : Except Failure (List NodeId) :=
  match pipeline.registry.get? name with
  | some node => .ok [node.id]
  | none =>
      match pipeline.groups.members? name with
      | some members => .ok members
      | none => .error (.unknownTarget (NodeId.canonical name))

def addNew (ids : List NodeId) (more : List NodeId) : List NodeId :=
  more.foldl (fun ids id => if id ∈ ids then ids else ids ++ [id]) ids

def selectAll {α : Type} (select : α → Except Failure (List NodeId)) :
    List NodeId → List α → Except Failure (List NodeId)
  | ids, [] => .ok ids
  | ids, name :: rest =>
      match select name with
      | .ok more => selectAll select (addNew ids more) rest
      | .error failure => .error failure

def resolveTargets (pipeline : Pipeline) (targets groups : List String) :
    Except Failure (List NodeId) :=
  let nothing := targets.isEmpty && groups.isEmpty
  if nothing && pipeline.defaults.isEmpty then .error (.config .nothingRequested)
  else
    let requested := if nothing then pipeline.defaults else targets
    match selectAll pipeline.select [] requested with
    | .error failure => .error failure
    | .ok ids => selectAll pipeline.groups.members ids groups

def listingWidth : Nat := 48

def listMember (pipeline : Pipeline) (id : NodeId) : String :=
  match (pipeline.registry.get? id).bind (·.description) with
  | some description => "  " ++ Text.padRight listingWidth id ++ " # " ++ description ++ "\n"
  | none => "  " ++ id ++ "\n"

def listing (pipeline : Pipeline) : String :=
  String.join (pipeline.groups.entries.map fun (group, members) =>
    group ++ ":\n" ++ String.join (members.map pipeline.listMember)) ++
  if pipeline.defaults.isEmpty then ""
  else "default: " ++ Text.join ", " pipeline.defaults ++ "\n"

end Pipeline

end ArtifactPipeline
