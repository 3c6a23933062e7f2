set_option autoImplicit false

namespace ArtifactPipeline.Toml

inductive Value where
  | string (text : String)
  | integer (value : Int)
  | float (text : String)
  | excess
  | boolean (value : Bool)
  | datetime (text : String)
  | array (items : List Value)
  | table (items : List (String × Value))

def datetimeKey : String := "$__toml_private_datetime"

/-- An entry of a table that is still growing. A table is implicit until a header names it, and
dotted when dotted keys made it. -/
inductive Item where
  | value (value : Value)
  | table (implicit dotted : Bool) (items : List (String × Item))
  | tables (elements : List (List (String × Item)))

structure Growing where
  implicit : Bool
  dotted : Bool
  items : List (String × Item)

namespace Growing

def plain : Growing := ⟨false, false, []⟩

def toItem (table : Growing) : Item :=
  .table table.implicit table.dotted table.items

def setItem (key : String) (item : Item) : List (String × Item) → List (String × Item)
  | [] => [(key, item)]
  | (other, current) :: rest =>
      if other = key then (key, item) :: rest else (other, current) :: setItem key item rest

def set (table : Growing) (key : String) (item : Item) : Growing :=
  { table with items := setItem key item table.items }

def get? (table : Growing) (key : String) : Option Item :=
  table.items.lookup key

/-- Changes the table that a path leads to, making implicit tables where nothing is. An array of
tables stands for its last element. A dotted path may not enter a table that a header defined. -/
def adjust (dotted : Bool) (change : Growing → Option Growing) :
    List String → Growing → Option Growing
  | [], table => change table
  | key :: path, table =>
      match table.get? key with
      | none =>
          match adjust dotted change path ⟨true, dotted, []⟩ with
          | some child => some (table.set key child.toItem)
          | none => none
      | some (.table implicit childDotted items) =>
          if dotted && !implicit then none
          else
            match adjust dotted change path ⟨implicit, childDotted, items⟩ with
            | some child => some (table.set key child.toItem)
            | none => none
      | some (.tables elements) =>
          match elements.getLast? with
          | none => none
          | some last =>
              match adjust dotted change path ⟨false, false, last⟩ with
              | some child =>
                  some (table.set key (.tables (elements.dropLast ++ [child.items])))
              | none => none
      | some (.value _) => none

def addHere (dotted : Bool) (key : String) (value : Value) (table : Growing) : Option Growing :=
  if table.dotted != dotted || (table.get? key).isSome then none
  else some (table.set key (.value value))

def add (table : Growing) (path : List String) (key : String) (value : Value) :
    Option Growing :=
  adjust true (addHere (!path.isEmpty) key value) path table

def openHere (key : String) (table : Growing) : Option Growing :=
  match table.get? key with
  | none => some (table.set key (.table false false []))
  | some (.table true false items) => some (table.set key (.table false false items))
  | some _ => none

def openElement (key : String) (table : Growing) : Option Growing :=
  match table.get? key with
  | none => some (table.set key (.tables [[]]))
  | some (.tables elements) => some (table.set key (.tables (elements ++ [[]])))
  | some _ => none

end Growing

def sortKeys (items : List (String × Value)) : List (String × Value) :=
  items.mergeSort fun a b => decide (a.1 ≤ b.1)

mutual

def Item.toValue : Item → Value
  | .value value => value
  | .table _ _ items => .table (sortKeys (valuesOf items))
  | .tables elements => .array (elementsOf elements)

def valuesOf : List (String × Item) → List (String × Value)
  | [] => []
  | (key, item) :: rest => (key, item.toValue) :: valuesOf rest

def elementsOf : List (List (String × Item)) → List Value
  | [] => []
  | items :: rest => .table (sortKeys (valuesOf items)) :: elementsOf rest

end

end ArtifactPipeline.Toml
