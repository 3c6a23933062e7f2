import ArtifactPipeline.Config.Model
import ArtifactPipeline.Config.Schema
import ArtifactPipeline.Toml.Document

set_option autoImplicit false

namespace ArtifactPipeline

open Schema

def visibilityWords : List (String × Visibility) :=
  [("public", .unrestricted), ("restricted", .restricted)]

def temporalWords : List (String × TemporalClass) :=
  [("static", .static), ("time_dependent", .timeDependent)]

def modeWords : List (String × ModeFilter) :=
  [("public", .publicOnly), ("full", .full)]

def kindWords : List (String × ArtifactKind) :=
  [("file", .file), ("directory", .directory), ("phony", .phony)]

def settingsRecord : Record Settings where
  name := "ConfigSection"
  blank := {}
  fields := [
    allow "default" strings fun v r => { r with defaultTargets := v },
    allow "exp_dir" string fun v r => { r with expDir := v },
    allow "jobs" (optional (word "usize")) fun v r => { r with jobs := v },
    allow "default_queries" (word "u64") fun v r => { r with defaultQueries := v }
  ]

def datasetRecord : Record DatasetEntry where
  name := "DatasetConfig"
  blank := { name := "", path := "" }
  fields := [
    need "name" string fun v r => { r with name := v },
    need "path" string fun v r => { r with path := v },
    allow "visibility" (variant visibilityWords) fun v r => { r with visibility := v },
    allow "temporal" (variant temporalWords) fun v r => { r with temporal := v },
    allow "deps" strings fun v r => { r with deps := v }
  ]

def programRecord : Record ProgramEntry where
  name := "ProgramConfig"
  blank := { args := [] }
  fields := [
    need "args" strings fun v r => { r with args := v },
    allow "cwd" (optional string) fun v r => { r with cwd := v },
    allow "env" environment fun v r => { r with env := v },
    allow "deps" strings fun v r => { r with deps := v }
  ]

def derivationRecord : Record Derivation where
  name := "DeriveSection"
  blank := {}
  fields := [
    allow "group" string fun v r => { r with group := v },
    allow "ch_builder" (optional programRecord.read) fun v r => { r with chBuilder := v },
    allow "td_lower_bound" (optional programRecord.read) fun v r => { r with tdLowerBound := v },
    allow "cch_order" (optional programRecord.read) fun v r => { r with cchOrder := v }
  ]

def commandRecord : Record CommandEntry where
  name := "CommandConfig"
  blank := { args := [] }
  fields := [
    need "args" strings fun v r => { r with args := v },
    allow "cwd" (optional string) fun v r => { r with cwd := v },
    allow "env" environment fun v r => { r with env := v },
    allow "stdout" (optional string) fun v r => { r with stdout := v },
    allow "append" boolean fun v r => { r with append := v },
    allow "header" (optional string) fun v r => { r with header := v },
    allow "only_in" (optional (variant modeWords)) fun v r => { r with onlyIn := v },
    allow "restricted" boolean fun v r => { r with restricted := v },
    allow "category" (optional string) fun v r => { r with category := v },
    allow "extension" (optional string) fun v r => { r with extension := v },
    allow "datasets" (optional strings) fun v r => { r with datasets := v },
    allow "temporal" (optional (variant temporalWords)) fun v r => { r with temporal := v }
  ]

def ruleRecord : Record RuleEntry where
  name := "RuleConfig"
  blank := { id := "" }
  fields := [
    need "id" string fun v r => { r with id := v },
    allow "kind" (variant kindWords) fun v r => { r with kind := v },
    allow "group" (optional string) fun v r => { r with group := v },
    allow "deps" strings fun v r => { r with deps := v },
    allow "restricted_deps" strings fun v r => { r with restrictedDeps := v },
    allow "globs" strings fun v r => { r with globs := v },
    allow "symlink" (optional string) fun v r => { r with symlink := v },
    allow "desc" (optional string) fun v r => { r with description := v },
    allow "command" (listOf commandRecord.read) fun v r => { r with commands := v }
  ]

def conditionalEnvRecord : Record ConditionalEnv where
  name := "ConditionalEnv"
  blank := { flags := [], env := .empty }
  fields := [
    need "flags" strings fun v r => { r with flags := v },
    need "env" environment fun v r => { r with env := v }
  ]

def guardRecord : Record GuardEntry where
  name := "GuardConfig"
  blank := { flag := "" }
  fields := [
    need "flag" string fun v r => { r with flag := v },
    allow "requires" strings fun v r => { r with requires := v },
    allow "excludes" strings fun v r => { r with excludes := v }
  ]

def matrixRecord : Record MatrixEntry where
  name := "MatrixConfig"
  blank := { name := "" }
  fields := [
    need "name" string fun v r => { r with name := v },
    allow "group" string fun v r => { r with group := v },
    allow "category" (optional string) fun v r => { r with categoryName := v },
    allow "extension" string fun v r => { r with extension := v },
    allow "datasets" (optional strings) fun v r => { r with datasets := v },
    allow "temporal" (optional (variant temporalWords)) fun v r => { r with temporal := v },
    allow "requires" strings fun v r => { r with requires := v },
    allow "restricted_requires" strings fun v r => { r with restrictedRequires := v },
    allow "cwd" (optional string) fun v r => { r with cwd := v },
    allow "env" environment fun v r => { r with env := v },
    allow "env_when" (listOf conditionalEnvRecord.read) fun v r => { r with envWhen := v },
    allow "repeat" (word "usize") fun v r => { r with repetitions := v },
    allow "features" (listOf (listOf strings)) fun v r => { r with axes := v },
    allow "guards" (listOf guardRecord.read) fun v r => { r with guardEntries := v },
    allow "restricted_features" strings fun v r => { r with restrictedFeatures := v },
    allow "restricted" boolean fun v r => { r with restricted := v },
    allow "desc" (optional string) fun v r => { r with description := v },
    allow "command" (listOf commandRecord.read) fun v r => { r with commands := v }
  ]

def fileRecord : Record PipelineFile where
  name := "RawConfigFile"
  blank := {}
  fields := [
    allow "config" settingsRecord.read fun v r => { r with settings := v },
    allow "dataset" (listOf datasetRecord.read) fun v r => { r with datasets := v },
    allow "derive" derivationRecord.read fun v r => { r with derivation := v },
    allow "rule" (listOf ruleRecord.read) fun v r => { r with rules := v },
    allow "matrix" (listOf matrixRecord.read) fun v r => { r with matrices := v }
  ]

/-- Reads a pipeline file without checking what it says. A document that makes no sense by itself is
only refused when it does not describe a pipeline. -/
def PipelineFile.decode (text : String) : Except DocumentFault PipelineFile :=
  match Toml.document? text with
  | none => .error .malformed
  | some document =>
      match fileRecord.read document with
      | .ok file => .ok file
      | .error fault =>
          if Toml.isSoundDocument document then .error (.schema fault) else .error .malformed

end ArtifactPipeline
