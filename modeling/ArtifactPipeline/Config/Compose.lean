import ArtifactPipeline.Config.Model

set_option autoImplicit false

namespace ArtifactPipeline

namespace CommandEntry

def ofArgs (args : List String) : CommandEntry := { args }

def withVar (command : CommandEntry) (key value : String) : CommandEntry :=
  { command with env := command.env.insert key value }

def inDir (command : CommandEntry) (dir : String) : CommandEntry :=
  { command with cwd := some dir }

def writingTo (command : CommandEntry) (path : String) : CommandEntry :=
  { command with stdout := some path }

def appending (command : CommandEntry) : CommandEntry :=
  { command with append := true }

def withHeader (command : CommandEntry) (header : String) : CommandEntry :=
  { command with header := some header }

def onlyFor (command : CommandEntry) (mode : ModeFilter) : CommandEntry :=
  { command with onlyIn := some mode }

def markRestricted (command : CommandEntry) : CommandEntry :=
  { command with restricted := true }

def inCategory (command : CommandEntry) (category : String) : CommandEntry :=
  { command with category := some category }

def withExtension (command : CommandEntry) (extension : String) : CommandEntry :=
  { command with extension := some extension }

def onDatasets (command : CommandEntry) (names : List String) : CommandEntry :=
  { command with datasets := some names }

end CommandEntry

namespace RuleEntry

def needing (rule : RuleEntry) (dep : String) : RuleEntry :=
  { rule with deps := rule.deps ++ [dep] }

def needingRestricted (rule : RuleEntry) (dep : String) : RuleEntry :=
  { rule with restrictedDeps := rule.restrictedDeps ++ [dep] }

def needingMatches (rule : RuleEntry) (pattern : String) : RuleEntry :=
  { rule with globs := rule.globs ++ [pattern] }

def inGroup (rule : RuleEntry) (group : String) : RuleEntry :=
  { rule with group := some group }

def linkedTo (rule : RuleEntry) (target : String) : RuleEntry :=
  { rule with symlink := some target }

def running (rule : RuleEntry) (command : CommandEntry) : RuleEntry :=
  { rule with commands := rule.commands ++ [command] }

end RuleEntry

namespace MatrixEntry

def onDatasets (entry : MatrixEntry) (names : List String) : MatrixEntry :=
  { entry with datasets := some names }

def needing (entry : MatrixEntry) (template : String) : MatrixEntry :=
  { entry with requires := entry.requires ++ [template] }

def inCategory (entry : MatrixEntry) (category : String) : MatrixEntry :=
  { entry with categoryName := some category }

def repeated (entry : MatrixEntry) (times : Nat) : MatrixEntry :=
  { entry with repetitions := times }

def withAxis (entry : MatrixEntry) (axis : Axis) : MatrixEntry :=
  { entry with axes := entry.axes ++ [axis] }

def withGuard (entry : MatrixEntry) (rule : GuardEntry) : MatrixEntry :=
  { entry with guardEntries := entry.guardEntries ++ [rule] }

def excluding (entry : MatrixEntry) (flag : String) (others : List String) : MatrixEntry :=
  entry.withGuard { flag, excludes := others }

def requiring (entry : MatrixEntry) (flag : String) (others : List String) : MatrixEntry :=
  entry.withGuard { flag, requires := others }

def withVarWhen (entry : MatrixEntry) (flags : List String) (key value : String) : MatrixEntry :=
  { entry with envWhen := entry.envWhen ++ [⟨flags, .ofList [(key, value)]⟩] }

def restrictingFeature (entry : MatrixEntry) (flag : String) : MatrixEntry :=
  { entry with restrictedFeatures := entry.restrictedFeatures ++ [flag] }

def markRestricted (entry : MatrixEntry) : MatrixEntry :=
  { entry with restricted := true }

def running (entry : MatrixEntry) (command : CommandEntry) : MatrixEntry :=
  { entry with commands := entry.commands ++ [command] }

end MatrixEntry

namespace PipelineFile

def withDefault (file : PipelineFile) (target : String) : PipelineFile :=
  { file with settings :=
    { file.settings with defaultTargets := file.settings.defaultTargets ++ [target] } }

def withExpDir (file : PipelineFile) (dir : String) : PipelineFile :=
  { file with settings := { file.settings with expDir := dir } }

def withDataset (file : PipelineFile) (dataset : DatasetEntry) : PipelineFile :=
  { file with datasets := file.datasets ++ [dataset] }

def withRule (file : PipelineFile) (rule : RuleEntry) : PipelineFile :=
  { file with rules := file.rules ++ [rule] }

def withMatrix (file : PipelineFile) (entry : MatrixEntry) : PipelineFile :=
  { file with matrices := file.matrices ++ [entry] }

def withChBuilder (file : PipelineFile) (program : String) : PipelineFile :=
  { file with derivation := { file.derivation with chBuilder := some { args := [program] } } }

def withTdLowerBound (file : PipelineFile) (args : List String) : PipelineFile :=
  { file with derivation := { file.derivation with tdLowerBound := some { args } } }

def withCchOrder (file : PipelineFile) (args : List String) : PipelineFile :=
  { file with derivation := { file.derivation with cchOrder := some { args } } }

end PipelineFile

end ArtifactPipeline
