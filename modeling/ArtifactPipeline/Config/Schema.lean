import ArtifactPipeline.Config.Fault
import ArtifactPipeline.Command
import ArtifactPipeline.Text.Basic
import ArtifactPipeline.Toml.Value

set_option autoImplicit false

namespace ArtifactPipeline.Schema

open Toml (Value)

abbrev Reader (α : Type) := Value → Except SchemaFault α

def found : Value → Found
  | .string text => .string text
  | .integer value => .integer value
  | .float text => .float text
  | .excess => .float "inf"
  | .boolean value => .boolean value
  | .array _ => .sequence
  | .table _ | .datetime _ => .map

def kindName : Value → String
  | .string _ => "string"
  | .integer _ => "integer"
  | .float _ | .excess => "float"
  | .boolean _ => "boolean"
  | .datetime _ => "datetime"
  | .array _ => "array"
  | .table _ => "table"

/-- The entries of a table. A date or time is a table with one reserved key. -/
def entries? : Value → Option (List (String × Value))
  | .table items => some items
  | .datetime text => some [(Toml.datetimeKey, .string text)]
  | _ => none

def string : Reader String
  | .string text => .ok text
  | value => .error (.invalidType (found value) "a string")

def boolean : Reader Bool
  | .boolean value => .ok value
  | value => .error (.invalidType (found value) "a boolean")

def word (type : String) : Reader Nat
  | .integer (.ofNat value) =>
      if value < Text.wordLimit then .ok value
      else .error (.invalidValue (.integer value) type)
  | .integer value => .error (.invalidValue (.integer value) type)
  | value => .error (.invalidType (found value) type)

def optional {α : Type} (read : Reader α) : Reader (Option α) := fun value =>
  match read value with
  | .ok result => .ok (some result)
  | .error fault => .error fault

def readItems {α : Type} (read : Reader α) : List Value → Except SchemaFault (List α)
  | [] => .ok []
  | item :: rest =>
      match read item with
      | .error fault => .error fault
      | .ok first =>
          match readItems read rest with
          | .error fault => .error fault
          | .ok others => .ok (first :: others)

def listOf {α : Type} (read : Reader α) : Reader (List α)
  | .array items => readItems read items
  | value => .error (.invalidType (found value) "a sequence")

def strings : Reader (List String) := listOf string

def readVars : List (String × Value) → Except SchemaFault (List (String × String))
  | [] => .ok []
  | (key, item) :: rest =>
      match string item with
      | .error fault => .error fault
      | .ok value =>
          match readVars rest with
          | .error fault => .error fault
          | .ok others => .ok ((key, value) :: others)

def environment : Reader Environment := fun value =>
  match entries? value with
  | none => .error (.invalidType (found value) "a map")
  | some items =>
      match readVars items with
      | .ok vars => .ok (.ofList vars)
      | .error fault => .error fault

def variantNamed {α : Type} (variants : List (String × α)) (name : String) :
    Except SchemaFault α :=
  match variants.lookup name with
  | some result => .ok result
  | none => .error (.unknownVariant name (variants.map (·.1)))

def checkEmpty : Value → Except SchemaFault Unit
  | .array [] | .table [] => .ok ()
  | .array _ => .error .variantWithItems
  | .table _ => .error .variantWithFields
  | value => .error (.variantWithValue (kindName value))

def variant {α : Type} (variants : List (String × α)) : Reader α
  | .string name => variantNamed variants name
  | .table [] => .error .noVariant
  | .table [(name, value)] =>
      match variantNamed variants name with
      | .error fault => .error fault
      | .ok result =>
          match checkEmpty value with
          | .ok () => .ok result
          | .error fault => .error fault
  | .table _ => .error .manyVariants
  | _ => .error .notAVariant

structure Field (σ : Type) where
  name : String
  required : Bool
  put : Value → σ → Except SchemaFault σ

def Field.of {σ α : Type} (name : String) (required : Bool) (read : Reader α)
    (set : α → σ → σ) : Field σ where
  name := name
  required := required
  put value record :=
    match read value with
    | .ok result => .ok (set result record)
    | .error fault => .error fault

def need {σ α : Type} (name : String) (read : Reader α) (set : α → σ → σ) : Field σ :=
  .of name true read set

def allow {σ α : Type} (name : String) (read : Reader α) (set : α → σ → σ) : Field σ :=
  .of name false read set

structure Record (σ : Type) where
  name : String
  blank : σ
  fields : List (Field σ)

namespace Record

variable {σ : Type}

def putEntries (record : Record σ) : List (String × Value) → σ → Except SchemaFault σ
  | [], result => .ok result
  | (key, value) :: rest, result =>
      match record.fields.find? fun field => field.name == key with
      | none => .error (.unknownField key (record.fields.map (·.name)))
      | some field =>
          match field.put value result with
          | .ok result => record.putEntries rest result
          | .error fault => .error fault

def missing? (record : Record σ) (keys : List String) : Option String :=
  (record.fields.find? fun field => field.required && !keys.contains field.name).map (·.name)

def putItems (record : Record σ) (index : Nat) :
    List (Field σ) → List Value → σ → Except SchemaFault σ
  | [], _, result => .ok result
  | field :: fields, value :: values, result =>
      match field.put value result with
      | .ok result => record.putItems (index + 1) fields values result
      | .error fault => .error fault
  | field :: fields, [], result =>
      if field.required then
        .error (.invalidLength index record.name record.fields.length)
      else record.putItems (index + 1) fields [] result

/-- Reads a record from a table, or from an array of its field values. -/
def read (record : Record σ) : Reader σ := fun value =>
  match entries? value, value with
  | some items, _ =>
      match record.putEntries items record.blank with
      | .error fault => .error fault
      | .ok result =>
          match record.missing? (items.map (·.1)) with
          | some name => .error (.missingField name)
          | none => .ok result
  | none, .array items => record.putItems 0 record.fields items record.blank
  | none, _ => .error (.invalidType (found value) ("struct " ++ record.name))

end Record

end ArtifactPipeline.Schema
