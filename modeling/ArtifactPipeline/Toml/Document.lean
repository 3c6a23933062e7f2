import ArtifactPipeline.Toml.Scalar
import ArtifactPipeline.Toml.Text

set_option autoImplicit false

namespace ArtifactPipeline.Toml

def nestingLimit : Nat := 80

def keyValue? (skip : List Char → Option (List Char)) (value : List Char → Scanned Value)
    (text : List Char) : Scanned (List String × Value) :=
  match dottedKey? keyLimit text with
  | none => none
  | some (key, rest) =>
      match skip rest with
      | some ('=' :: rest) =>
          match (skip rest).bind value with
          | some (v, rest) => some ((key, v), rest)
          | none => none
      | _ => none

def addKey (table : Growing) (key : List String) (value : Value) : Option Growing :=
  match key.getLast? with
  | some last => table.add key.dropLast last value
  | none => none

def arrayItems (value : List Char → Scanned Value) :
    Nat → List Value → List Char → Scanned (List Value)
  | 0, _, _ => none
  | fuel + 1, items, text =>
      match skipLines false text with
      | none => none
      | some (']' :: rest) => some (items.reverse, rest)
      | some text =>
          match value text with
          | none => none
          | some (item, rest) =>
              match skipLines false rest with
              | some (',' :: rest) => arrayItems value fuel (item :: items) rest
              | some (']' :: rest) => some ((item :: items).reverse, rest)
              | _ => none

def inlineItems (value : List Char → Scanned Value) :
    Nat → Growing → List Char → Scanned Growing
  | 0, _, _ => none
  | fuel + 1, table, text =>
      match skipLines false text with
      | none => none
      | some ('\x7d' :: rest) => some (table, rest)
      | some text =>
          match keyValue? (skipLines false) value text with
          | none => none
          | some ((key, item), rest) =>
              match addKey table key item, skipLines false rest with
              | some table, some (',' :: rest) => inlineItems value fuel table rest
              | some table, some ('\x7d' :: rest) => some (table, rest)
              | _, _ => none

def value? : Nat → List Char → Scanned Value
  | depth, text =>
      match text with
      | '"' :: _ | '\'' :: _ =>
          match stringValue? text with
          | some (chars, rest) => some (.string (String.ofList chars), rest)
          | none => none
      | '[' :: rest =>
          match depth with
          | 0 => none
          | depth + 1 =>
              match arrayItems (value? depth) (rest.length + 1) [] rest with
              | some (items, rest) => some (.array items, rest)
              | none => none
      | '\x7b' :: rest =>
          match depth with
          | 0 => none
          | depth + 1 =>
              match inlineItems (value? depth) (rest.length + 1) .plain rest with
              | some (table, rest) => some (table.toItem.toValue, rest)
              | none => none
      | text =>
          let (scalar, rest) := scalarText text
          (scalar? scalar).map fun value => (value, rest)

structure Reading where
  root : Growing
  current : List String

def header? (text : List Char) : Scanned (List String) :=
  dottedKey? keyLimit (skipSpaces text)

def line? (reading : Reading) (text : List Char) : Scanned Reading :=
  match text with
  | '[' :: '[' :: rest =>
      match header? rest with
      | some (path, ']' :: ']' :: rest) =>
          match path.getLast?, endLine false rest with
          | some key, some rest =>
              (Growing.adjust false (Growing.openElement key) path.dropLast reading.root).map
                fun root => (⟨root, path⟩, rest)
          | _, _ => none
      | _ => none
  | '[' :: rest =>
      match header? rest with
      | some (path, ']' :: rest) =>
          match path.getLast?, endLine false rest with
          | some key, some rest =>
              (Growing.adjust false (Growing.openHere key) path.dropLast reading.root).map
                fun root => (⟨root, path⟩, rest)
          | _, _ => none
      | _ => none
  | text =>
      match keyValue? (some ∘ skipSpaces) (value? nestingLimit) text with
      | none => none
      | some ((key, value), rest) =>
          match endLine false rest with
          | none => none
          | some rest =>
              (Growing.adjust false (fun table => addKey table key value) reading.current
                reading.root).map fun root => ({ reading with root }, rest)

def lines? : Nat → Reading → List Char → Option Reading
  | 0, _, _ => none
  | fuel + 1, reading, text =>
      match skipLines false text with
      | none => none
      | some [] => some reading
      | some text =>
          match line? reading text with
          | some (reading, rest) => lines? fuel reading rest
          | none => none

def dropByteOrderMark : List Char → List Char
  | '\uFEFF' :: rest => rest
  | text => text

def document? (text : String) : Option Value :=
  let chars := dropByteOrderMark text.toList
  match lines? (chars.length + 1) ⟨.plain, []⟩ chars with
  | none => none
  | some reading => some reading.root.toItem.toValue

def signedLimit : Int := 9223372036854775808

def isSigned (value : Int) : Bool :=
  -signedLimit ≤ value && value < signedLimit

mutual

/-- Whether a value makes sense by itself: numbers are in range, and what stands under the reserved
key is a date or time, beside which nothing else counts. -/
def Value.isSound : Value → Bool
  | .integer value => isSigned value
  | .excess => false
  | .array items => areSound items
  | .table ((key, item) :: rest) =>
      if key = datetimeKey then
        match item with
        | .string text => (datetime? text.toList).isSome
        | _ => false
      else item.isSound && entriesSound rest
  | _ => true

def areSound : List Value → Bool
  | [] => true
  | item :: rest => item.isSound && areSound rest

def entriesSound : List (String × Value) → Bool
  | [] => true
  | (_, item) :: rest => item.isSound && entriesSound rest

end

def isSoundDocument : Value → Bool
  | .table items => entriesSound items
  | value => value.isSound

end ArtifactPipeline.Toml
