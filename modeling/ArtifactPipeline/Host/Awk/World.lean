import ArtifactPipeline.Host.Awk.Pattern
import ArtifactPipeline.Host.Awk.Token
import ArtifactPipeline.Host.Awk.Value
import ArtifactPipeline.Host.Tools.Command

set_option autoImplicit false

namespace ArtifactPipeline.Awk

open Text (Octets)

inductive FieldRule where
  | blanks
  | nothing
  | char (c : Char)
  | pattern (finder : Finder)

namespace FieldRule

def isBlank (c : Char) : Bool :=
  c == ' ' || c == '\t' || c == '\n'

def ofText {m : Type → Type} [Monad m] (compile : Octets → m Finder) (text : Octets) :
    m FieldRule :=
  match text with
  | [] => pure .nothing
  | [' '] => pure .blanks
  | [c] => pure (.char c)
  | text => do return .pattern (← compile text)

def words : Nat → Octets → List Octets
  | 0, _ => []
  | fuel + 1, text =>
      let body := text.dropWhile isBlank
      if body.isEmpty then []
      else
        let word := body.takeWhile fun c => !isBlank c
        word :: words fuel (body.drop word.length)

def parts (finder : Finder) : Nat → Octets → Regex.Spot → List Octets
  | 0, _, _ => []
  | fuel + 1, started, spot =>
      match finder.search spot with
      | none => [started ++ spot.rest]
      | some found =>
          if found.text.isEmpty then
            match found.ending.next? with
            | none => [started ++ spot.rest]
            | some (c, next) => parts finder fuel (started ++ found.before ++ [c]) next
          else (started ++ found.before) :: parts finder fuel [] found.ending

def apply (rule : FieldRule) (text : Octets) : List Octets :=
  if text.isEmpty then []
  else
    match rule with
    | .blanks => words (text.length + 1) text
    | .nothing => text.map fun c => [c]
    | .char c => Text.splitOn c text
    | .pattern finder => parts finder (text.length + 2) [] (Regex.Spot.ofText text)

end FieldRule

inductive RecordRule where
  | char (c : Char)
  | paragraph
  | pattern (finder : Finder)

namespace RecordRule

def ofText {m : Type → Type} [Monad m] (compile : Octets → m Finder) (text : Octets) :
    m RecordRule :=
  match text with
  | [] => pure .paragraph
  | [c] => pure (.char c)
  | text => do return .pattern (← compile text)

def firstAt? (c : Char) (text : Octets) : Option (Octets × Octets) :=
  let record := text.takeWhile (· != c)
  match text.drop record.length with
  | [] => none
  | _ :: rest => some (record, rest)

def emptyLine? : Nat → Octets → Option Nat
  | _, [] => none
  | place, c :: rest =>
      if c == '\n' && rest.head? == some '\n' then some place else emptyLine? (place + 1) rest

/-- The first record of what has been read, with what is behind it; none if there has to be more.
`ended` says that there is no more. -/
def first? (rule : RecordRule) (ended : Bool) (text : Octets) : Option (Octets × Octets) :=
  match rule with
  | .char c =>
      match firstAt? c text with
      | some found => some found
      | none => if ended && !text.isEmpty then some (text, []) else none
  | .paragraph =>
      let body := text.dropWhile (· == '\n')
      match emptyLine? 0 body with
      | some place =>
          let rest := (body.drop place).dropWhile (· == '\n')
          if rest.isEmpty && !ended then none else some (body.take place, rest)
      | none =>
          if ended && !body.isEmpty then
            some (if body.getLast? == some '\n' then body.dropLast else body, [])
          else none
  | .pattern finder =>
      let rec find : Nat → Octets → Regex.Spot → Option (Octets × Octets)
        | 0, _, _ => none
        | fuel + 1, started, spot =>
            match finder.search spot with
            | none => if ended && !text.isEmpty then some (text, []) else none
            | some found =>
                if found.text.isEmpty then
                  match found.ending.next? with
                  | none => if ended && !text.isEmpty then some (text, []) else none
                  | some (c, next) => find fuel (started ++ found.before ++ [c]) next
                else if found.ending.rest.isEmpty && !ended then none
                else some (started ++ found.before, found.ending.rest)
      find (text.length + 2) [] (Regex.Spot.ofText text)

end RecordRule

open Tools (Call Exec)

structure Source where
  descriptor : Nat
  pending : Octets := []
  ended : Bool := false
  process : Option Nat := none

structure Outlet where
  name : Octets
  kind : OutputKind
  descriptor : Nat
  held : List Octets := []
  size : Nat := 0
  direct : Bool := false
  process : Option Nat := none

inductive Slot where
  | unset
  | value (value : Value)
  | table (number : Nat)
  | same (place : Nat)

structure World where
  call : Call
  exec : Exec
  program : Program
  slots : Array Slot
  base : Nat := 0
  depth : Nat := 0
  tables : Array (Table Value) := #[]
  spare : List Nat := []
  record : Octets := []
  recordFields : FieldRule := .blanks
  fields : Array Value := #[]
  isSplit : Bool := true
  isStale : Bool := false
  fieldRule : FieldRule := .blanks
  recordRule : RecordRule := .char '\n'
  conversion : Octets := "%.6g".toList
  patterns : Std.HashMap Octets Finder := ∅
  active : Array Bool := #[]
  main : Option Source := none
  operand : Nat := 1
  foundFile : Bool := false
  mainEnded : Bool := false
  sources : List ((Bool × Octets) × Source) := []
  outlets : List Outlet := []
  status : Nat := 0
  effort : Nat := 0
  random : Nat := 1
  seed : Value := .number 0.0

inductive Jump where
  | break'
  | continue'
  | next
  | nextFile
  | exit
  | return' (value : Value)
  | quit

abbrev Act := ExceptT Jump (StateT World Chore)

def chore {α : Type} (task : Chore α) : Act α :=
  liftM task

def effortLimit : Nat := 100

def takeTurns : Act Unit := do
  let effort := (← get).effort + 1
  if effort < effortLimit then modify fun world => { world with effort }
  else
    modify fun world => { world with effort := 0 }
    chore (Chore.look fun _ => ())

namespace World

def shared (world : World) (place : Nat) : Value :=
  match world.slots[place]? with
  | some (.value value) => value
  | _ => .unset

def textOf (world : World) (value : Value) : Octets :=
  value.toText world.conversion

def withRecord (world : World) : World :=
  if world.isStale then
    let between := world.textOf (world.shared Special.outputSeparator)
    { world with
      record := Text.joinWith between (world.fields.toList.map world.textOf)
      isStale := false }
  else world

def withFields (world : World) : World :=
  if world.isSplit then world
  else
    { world with
      fields := ((world.recordFields.apply world.record).map Value.given).toArray
      isSplit := true }

def setRecord (world : World) (text : Octets) : World :=
  { world with
    record := text
    recordFields := world.fieldRule
    isSplit := false
    isStale := false }

def resize (world : World) (count : Nat) : World :=
  let world := world.withFields
  let missing := count - world.fields.size
  { world with
    fields := (world.fields ++ Array.replicate missing (Value.text [])).take count
    isStale := true }

def setField (world : World) (place : Nat) (value : Value) : World :=
  if place = 0 then world.setRecord (world.textOf value)
  else
    let world := world.withFields
    let world := if place ≤ world.fields.size then world else world.resize place
    { world with fields := world.fields.set! (place - 1) value, isStale := true }

end World

def complain (message : String) : Act Unit := do
  let world ← get
  chore (Tools.complain world.call.name message)

def quitWith {α : Type} (message : String) : Act α := do
  complain message
  modify fun world => { world with status := 2 }
  throw .quit

def fail {α : Type} (message : String) : Act α := do
  let world ← get
  let shown (place : Nat) : String := String.ofList (world.textOf (world.shared place))
  quitWith ("run time error: " ++ message ++ "\n\tFILENAME=\"" ++ shown Special.fileName ++
    "\" FNR=" ++ shown Special.fileRecordCount ++ " NR=" ++ shown Special.recordCount)

def finderOf (text : Octets) : Act Finder := do
  match (← get).patterns[text]? with
  | some finder => return finder
  | none =>
      match Pattern.ofText text with
      | .ok finder => do
          modify fun world => { world with patterns := world.patterns.insert text finder }
          return finder
      | .error fault => quitWith (Pattern.complaint text fault)

def textOf (value : Value) : Act Octets := do
  return (← get).textOf value

def placeOf (holder : Holder) : Act Nat := do
  match holder with
  | .shared index => return index
  | .own index => return (← get).base + index

def slotAt (place : Nat) : Act Slot := do
  return (← get).slots[place]?.getD .unset

def setSlot (place : Nat) (slot : Slot) : Act Unit :=
  modify fun world => { world with slots := world.slots.set! place slot }

def fieldCount : Act Nat := do
  modify World.withFields
  return (← get).fields.size

def valueAt (place : Nat) : Act Value := do
  if place = Special.fieldCount then return .ofNat (← fieldCount)
  else
    match ← slotAt place with
    | .value value => return value
    | .unset => return .unset
    | .table _ => fail "illegal use of an array"
    | .same place =>
        match ← slotAt place with
        | .table _ => fail "illegal use of an array"
        | _ => return .unset

def noteSpecial (place : Nat) (value : Value) : Act Unit := do
  if place = Special.fieldCount then
    let count := truncated value.toNumber
    if count < 0 then fail "negative value assigned to NF"
    else modify fun world => world.resize count.toNat
  else if place = Special.fieldSeparator then
    let rule ← FieldRule.ofText finderOf (← textOf value)
    modify fun world => { world with fieldRule := rule }
  else if place = Special.recordSeparator then
    let rule ← RecordRule.ofText finderOf (← textOf value)
    modify fun world => { world with recordRule := rule }
  else if place = Special.conversion then
    let text ← textOf value
    modify fun world => { world with conversion := text }
  else return ()

def setValueAt (place : Nat) (value : Value) : Act Unit := do
  if place < specialNames.length then
    if place = Special.outputSeparator then modify World.withRecord
    match ← slotAt place with
    | .table _ => fail "illegal use of an array"
    | _ => do
        setSlot place (.value value)
        noteSpecial place value
  else
    match ← slotAt place with
    | .table _ => fail "illegal use of an array"
    | _ => setSlot place (.value value)

def newTable : Act Nat := do
  let world ← get
  match world.spare with
  | number :: spare => do
      modify fun world => { world with spare }
      return number
  | [] => do
      modify fun world => { world with tables := world.tables.push {} }
      return world.tables.size

def dropTable (number : Nat) : Act Unit :=
  modify fun world =>
    { world with tables := world.tables.set! number {}, spare := number :: world.spare }

def tableAt (place : Nat) : Act Nat := do
  match ← slotAt place with
  | .table number => return number
  | .value _ => fail "type error: a value is used as an array"
  | .unset => do
      let number ← newTable
      setSlot place (.table number)
      return number
  | .same root => do
      let number ←
        match ← slotAt root with
        | .table number => pure number
        | .value _ => fail "type error: a value is used as an array"
        | _ => do
            let number ← newTable
            setSlot root (.table number)
            pure number
      setSlot place (.table number)
      return number

def tableOf (holder : Holder) : Act Nat := do
  tableAt (← placeOf holder)

def changeTable {α : Type} (number : Nat) (f : Table Value → α × Table Value) : Act α := do
  let table := (← get).tables[number]?.getD {}
  modify fun world => { world with tables := world.tables.set! number {} }
  let (result, table) := f table
  modify fun world => { world with tables := world.tables.set! number table }
  return result

def itemAt (number : Nat) (key : Key) : Act Value :=
  changeTable number fun table =>
    match table.find? key with
    | (some value, table) => (value, table)
    | (none, table) => (.unset, table.insert key .unset)

def setItemAt (number : Nat) (key : Key) (value : Value) : Act Unit :=
  changeTable number fun table => ((), table.insert key value)

def fieldAt (place : Nat) : Act Value := do
  if place = 0 then
    modify World.withRecord
    return .given (← get).record
  else
    modify World.withFields
    return (← get).fields[place - 1]?.getD .unset

def setFieldAt (place : Nat) (value : Value) : Act Unit :=
  modify fun world => world.setField place value

end ArtifactPipeline.Awk
