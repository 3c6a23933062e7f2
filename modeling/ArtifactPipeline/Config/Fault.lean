import ArtifactPipeline.Text.Quoted

set_option autoImplicit false

namespace ArtifactPipeline

inductive Place where
  | program (name : String)
  | rule (id : String)
  | matrix (name : String)
  deriving DecidableEq, Repr

def Place.text : Place → String
  | .program name => "[derive]." ++ name
  | .rule id => "rule '" ++ id ++ "'"
  | .matrix name => "matrix '" ++ name ++ "'"

inductive ConfigFault where
  | fileJobsZero
  | emptyExpDir
  | emptyDefaultTarget
  | unnamedDataset
  | datasetWithoutPath (dataset : String)
  | repeatedDataset (dataset : String)
  | missingLowerBoundProgram (dataset : String)
  | programWithoutArgs (program : String)
  | unavailablePlaceholder (place : Place) (name value : String)
  | unnamedRule
  | selfDependency (place : Place)
  | directoryWithAction (place : Place)
  | symlinkWithCommands (place : Place)
  | invalidGlob (place : Place) (pattern : String)
  | nestedGlob (place : Place) (pattern : String)
  | matrixSettingsInRule (place : Place)
  | commandWithEmptyArgs (place : Place)
  | embeddedFeatures (place : Place) (arg : String)
  | unnamedMatrix
  | repeatedMatrix (place : Place)
  | matrixWithoutCommands (place : Place)
  | zeroRepeat (place : Place)
  | emptyExtension (place : Place)
  | matrixWithoutDatasets (place : Place)
  | unknownDataset (place : Place) (dataset : String)
  | emptyDatasetList (place : Place)
  | emptyAxis (place : Place) (index : Nat)
  | unknownGuardFlag (place : Place) (flag : String)
  | conditionWithoutFlags (place : Place)
  | commandWithoutArgs (place : Place)
  | derivationWithoutArgs
  | repeatedOutput (place : Place) (output : String)
  | nothingRequested
  | jobsZero
  | notBoolean (value : String)
  | notNumber (setting value : String)
  deriving DecidableEq, Repr

def ConfigFault.message : ConfigFault → String
  | .fileJobsZero => "[config].jobs must be >= 1 (got 0)"
  | .emptyExpDir => "[config].exp_dir must not be empty"
  | .emptyDefaultTarget => "[config].default contains an empty target"
  | .unnamedDataset => "[[dataset]] entry with an empty name"
  | .datasetWithoutPath dataset => "dataset '" ++ dataset ++ "' has an empty path"
  | .repeatedDataset dataset => "dataset '" ++ dataset ++ "' is declared more than once"
  | .missingLowerBoundProgram dataset =>
      "dataset '" ++ dataset ++ "' is time-dependent but [derive].td_lower_bound is not set"
  | .programWithoutArgs program =>
      (Place.program program).text ++ " has an empty `args` list"
  | .unavailablePlaceholder place name value =>
      place.text ++ ": placeholder `\x7b" ++ name ++ "\x7d` is not available here (in '" ++
        value ++ "')"
  | .unnamedRule => "[[rule]] entry with an empty id"
  | .selfDependency place => place.text ++ " cannot depend on itself"
  | .directoryWithAction place =>
      place.text ++ " is a directory and cannot have commands or a symlink"
  | .symlinkWithCommands place => place.text ++ " cannot have both a symlink and commands"
  | .invalidGlob place pattern => place.text ++ ": invalid glob pattern: " ++ pattern
  | .nestedGlob place pattern => place.text ++ ": glob pattern nested too deep: " ++ pattern
  | .matrixSettingsInRule place =>
      place.text ++
        ": `category`, `extension`, `datasets` and `temporal` are only valid in matrix commands"
  | .commandWithEmptyArgs place => place.text ++ " has a command with empty `args`"
  | .embeddedFeatures place arg =>
      place.text ++ ": `\x7bfeatures\x7d` must be a whole argument (got '" ++ arg ++ "')"
  | .unnamedMatrix => "[[matrix]] entry with an empty name"
  | .repeatedMatrix place => place.text ++ " is declared more than once"
  | .matrixWithoutCommands place => place.text ++ " has no [[matrix.command]] entries"
  | .zeroRepeat place => place.text ++ ": `repeat` must be >= 1"
  | .emptyExtension place => place.text ++ ": `extension` must not be empty"
  | .matrixWithoutDatasets place => place.text ++ " needs at least one [[dataset]]"
  | .unknownDataset place dataset =>
      place.text ++ " references unknown dataset '" ++ dataset ++ "'"
  | .emptyDatasetList place => place.text ++ ": `datasets` must not be empty"
  | .emptyAxis place index => place.text ++ ": feature axis " ++ Nat.repr index ++ " is empty"
  | .unknownGuardFlag place flag =>
      place.text ++ ": guard mentions '" ++ flag ++ "', which is on no feature axis"
  | .conditionWithoutFlags place => place.text ++ ": `env_when` entry without flags"
  | .commandWithoutArgs place => place.text ++ " has a command without args"
  | .derivationWithoutArgs => "derive program has an empty `args` list"
  | .repeatedOutput place output =>
      place.text ++ " generated output path '" ++ output ++ "' twice"
  | .nothingRequested => "no targets requested and [config].default is empty"
  | .jobsZero => "jobs must be >= 1 (got 0)"
  | .notBoolean value => "PIPEDAG_ONLY_PUBLIC must be a boolean (got '" ++ value ++ "')"
  | .notNumber setting value =>
      setting ++ " must be a non-negative integer (got '" ++ value ++ "')"

inductive Found where
  | integer (value : Int)
  | float (text : String)
  | boolean (value : Bool)
  | string (text : String)
  | sequence
  | map
  deriving DecidableEq, Repr

def Found.text : Found → String
  | .integer value => "integer `" ++ toString value ++ "`"
  | .float text => "floating point `" ++ text ++ "`"
  | .boolean true => "boolean `true`"
  | .boolean false => "boolean `false`"
  | .string text => "string " ++ Text.quoted text
  | .sequence => "sequence"
  | .map => "map"

inductive SchemaFault where
  | unknownField (name : String) (expected : List String)
  | missingField (name : String)
  | unknownVariant (name : String) (expected : List String)
  | invalidType (found : Found) (expected : String)
  | invalidValue (found : Found) (expected : String)
  | invalidLength (length : Nat) (record : String) (fields : Nat)
  | notAVariant
  | noVariant
  | manyVariants
  | variantWithItems
  | variantWithFields
  | variantWithValue (kind : String)
  deriving DecidableEq, Repr

def ticked (name : String) : String :=
  "`" ++ name ++ "`"

def alternatives : List String → String
  | [] => ""
  | [a] => ticked a
  | [a, b] => ticked a ++ " or " ++ ticked b
  | names => "one of " ++ String.intercalate ", " (names.map ticked)

def SchemaFault.message : SchemaFault → String
  | .unknownField name expected =>
      "unknown field " ++ ticked name ++ ", expected " ++ alternatives expected
  | .missingField name => "missing field " ++ ticked name
  | .unknownVariant name expected =>
      "unknown variant " ++ ticked name ++ ", expected " ++ alternatives expected
  | .invalidType found expected => "invalid type: " ++ found.text ++ ", expected " ++ expected
  | .invalidValue found expected => "invalid value: " ++ found.text ++ ", expected " ++ expected
  | .invalidLength length record fields =>
      "invalid length " ++ Nat.repr length ++ ", expected struct " ++ record ++ " with " ++
        Nat.repr fields ++ (if fields = 1 then " element" else " elements")
  | .notAVariant => "wanted string or table"
  | .noVariant => "wanted exactly 1 element, found 0 elements"
  | .manyVariants => "wanted exactly 1 element, more than 1 element"
  | .variantWithItems => "expected empty array"
  | .variantWithFields => "expected empty table"
  | .variantWithValue kind => "expected table, found " ++ kind

inductive DocumentFault where
  | malformed
  | schema (fault : SchemaFault)
  deriving DecidableEq, Repr

def DocumentFault.message : DocumentFault → String
  | .malformed => "TOML parse error"
  | .schema fault => fault.message

end ArtifactPipeline
