import ArtifactPipeline.Host.RichShell.Arithmetic

set_option autoImplicit false

namespace ArtifactPipeline.RichShell

open Text (Octets)

def CaseChange.apply (change : CaseChange) (c : Char) : Char :=
  match change with
  | .upper => c.toUpper
  | .lower => c.toLower
  | .other => if c.isUpper then c.toLower else c.toUpper

def Variable.recased (entry : Variable) (text : Octets) : Octets :=
  match entry.casing with
  | none => text
  | some change =>
      if entry.capital then
        match text with
        | [] => []
        | c :: rest => c.toUpper :: rest.map Char.toLower
      else text.map change.apply

def refuseReadOnly {α : Type} (name : Octets) : Sh α := do
  Sh.complain (String.ofList name ++ ": readonly variable")
  Sh.setStatus 1
  throw .dropped

def valueFor (entry : Variable) (old : Octets) (adds : Bool) (text : Octets) : Sh Octets := do
  if entry.integer then
    let value ← computed text
    if adds then
      let before ← computed old
      return integerText (Shell.Arithmetic.wrap (before + value))
    else return integerText value
  else return entry.recased (if adds then old ++ text else text)

def noteValue (name value : Octets) : Sh Unit := do
  let number : Int := ((String.ofList value).toInt?).getD 0
  match String.ofList name with
  | "RANDOM" => modify fun state => { state with
      seed := (number % 4294967296).toNat, lastChance := 0 }
  | "SECONDS" => do
      let now ← Sh.scene fun scene => scene.disk.clock
      modify fun state => { state with started := now, secondsOffset := number }
  | "OPTIND" => modify fun state => { state with optionLetters := 0 }
  | "PATH" => modify fun state => { state with hashed := [] }
  | "BASH_ARGV0" => modify fun state => { state with name := value }
  | _ => pure ()

def setText (name : Octets) (adds : Bool) (text : Octets) : Sh Unit := do
  let name := (← get).resolve name
  let old := ((← get).stored? name).getD {}
  if old.readOnly then refuseReadOnly name
  let before ← if adds then value? name else pure none
  let value ← valueFor old (before.getD []) adds text
  let exported := old.exported || (← get).has 'a'
  modify fun state => state.putVariable name
    { old with held := old.held.withText value, exported }
  noteValue name value

def Held.items : Held → List (Nat × Octets)
  | .list items _ => items
  | .text value => [(0, value)]
  | _ => []

def badSubscript {α : Type} (shown : Octets) : Sh α :=
  Sh.drop (String.ofList shown ++ ": bad array subscript")

def setElement (name raw subscript : Octets) (adds : Bool) (text : Octets) : Sh Unit := do
  let name := (← get).resolve name
  let old := ((← get).stored? name).getD {}
  let shown := name ++ '[' :: raw ++ [']']
  if old.readOnly then refuseReadOnly name
  let exported := old.exported || (← get).has 'a'
  match old.held with
  | .table items _ => do
      if subscript.isEmpty then badSubscript shown
      let value ← valueFor old ((items.lookup subscript).getD []) adds text
      modify fun state => state.putVariable name
        { old with held := .table (Assoc.set subscript value items) true, exported }
  | held => do
      let items := held.items
      if (subscript.all fun c => c == ' ' || c == '\t' || c == '\n') then badSubscript shown
      let index ← computed subscript
      match Arithmetic.indexOf? items index with
      | none => badSubscript shown
      | some index => do
          let value ← valueFor old ((items.lookup index).getD []) adds text
          modify fun state => state.putVariable name
            { old with held := .list (putItem index value items) true, exported }

/-- An element of a list in the making: its subscript as it was written and with its parts put in,
whether it is added to what is there, and its value. -/
structure Element where
  subscript : Option (Octets × Octets)
  adds : Bool
  text : Octets

def setItems (name : Octets) (adds : Bool) (elements : List Element) : Sh Unit := do
  let name := (← get).resolve name
  let old := ((← get).stored? name).getD {}
  if old.readOnly then refuseReadOnly name
  let exported := old.exported || (← get).has 'a'
  let held ←
    match old.held with
    | .table items _ => do
        let items ← fillTable old name (if adds then items else []) elements
        pure (.table items true)
    | held => do
        let items := if adds then held.items else []
        let next := (items.getLast?.map fun item => item.1 + 1).getD 0
        let items ← fillList old name items next elements
        pure (.list items true)
  modify fun state => state.putVariable name { old with held, exported }
where
  fillList (entry : Variable) (name : Octets) :
      List (Nat × Octets) → Nat → List Element → Sh (List (Nat × Octets))
    | items, _, [] => pure items
    | items, next, element :: rest => do
        let index? ←
          match element.subscript with
          | none => pure (some next)
          | some (_, subscript) =>
              if subscript.isEmpty then pure none
              else do pure (Arithmetic.indexOf? items (← computed subscript))
        match index? with
        | none => do
            let raw := (element.subscript.map (·.1)).getD []
            Sh.complain ("[" ++ String.ofList raw ++ "]=" ++ String.ofList element.text ++
              ": bad array subscript")
            Sh.setStatus 1
            fillList entry name items next rest
        | some index => do
            let value ← valueFor entry ((items.lookup index).getD []) element.adds element.text
            fillList entry name (putItem index value items) (index + 1) rest
  fillTable (entry : Variable) (name : Octets) :
      List (Octets × Octets) → List Element → Sh (List (Octets × Octets))
    | items, [] => pure items
    | items, element :: rest => do
        match element.subscript with
        | some (raw, key) => do
            if key.isEmpty then
              Sh.complain ("[" ++ String.ofList raw ++ "]=" ++ String.ofList element.text ++
                ": bad array subscript")
              fillTable entry name items rest
            else
              let value ← valueFor entry ((items.lookup key).getD []) element.adds element.text
              fillTable entry name (Assoc.set key value items) rest
        | none =>
            match rest with
            | { subscript := none, text, .. } :: rest =>
                let value ← valueFor entry [] false text
                fillTable entry name (Assoc.set element.text value items) rest
            | rest =>
                let value ← valueFor entry [] false []
                fillTable entry name (Assoc.set element.text value items) rest

end ArtifactPipeline.RichShell
