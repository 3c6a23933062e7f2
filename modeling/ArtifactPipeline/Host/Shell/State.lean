import ArtifactPipeline.Host.Routine
import ArtifactPipeline.Host.Shell.Reader

set_option autoImplicit false

namespace ArtifactPipeline.Shell

open Text (Octets)

structure Variable where
  value : Option Octets
  exported : Bool := false
  readOnly : Bool := false

structure Job where
  number : Nat
  processes : List Nat
  ending : Option Ending := none
  awaited : Bool := false

structure State where
  vars : List (Octets × Variable) := []
  functions : List (Octets × Command) := []
  aliases : List (Octets × Octets) := []
  documents : List (Nat × HereDocument) := []
  nextDocument : Nat := 0
  name : Octets
  args : List Octets := []
  status : Nat := 0
  substitution : Nat := 0
  options : List Char := []
  traps : List (Nat × Octets) := []
  latest : Option Nat := none
  jobs : List Job := []
  kept : List Nat := []
  builtin : Option Octets := none
  loops : Nat := 0
  locals : List (List (Octets × Option Variable)) := []
  process : Nat
  line : Nat := 1
  directory : Octets
  optionIndex : Nat := 1
  letters : Nat := 0
  before : Option Nat := none

inductive Jump where
  | loops (more : Nat) (resume : Bool)
  | returned
  | failed
  | ended
  deriving DecidableEq, Repr

abbrev Sh := ExceptT Jump (StateT State Chore)

namespace State

def value? (state : State) (name : Octets) : Option Octets :=
  (state.vars.lookup name).bind fun held => held.value

def valueOf (state : State) (name : String) : Octets :=
  (state.value? name.toList).getD []

def has (state : State) (option : Char) : Bool :=
  state.options.contains option

def assign (state : State) (name value : Octets) : State :=
  let old := (state.vars.lookup name).getD { value := none }
  let exported := old.exported || state.has 'a'
  { state with vars := Assoc.set name { old with value := some value, exported } state.vars }

def isReadOnly (state : State) (name : Octets) : Bool :=
  match state.vars.lookup name with
  | some { readOnly, .. } => readOnly
  | none => false

def shelves : Nat := 39

def shelfOf (name : Octets) : Nat :=
  name.foldl (fun total c => total + c.toNat) (16 * ((name.head?.map Char.toNat).getD 0)) % shelves

def byShelf (entries : List (Octets × Octets)) : List (Octets × Octets) :=
  (List.range shelves).flatMap fun shelf => entries.filter fun entry => shelfOf entry.1 == shelf

def exportedVars (state : State) : List (Octets × Octets) :=
  byShelf (state.vars.filterMap fun (name, held) =>
    if held.exported then held.value.map fun value => (name, value) else none)

def shownVars (state : State) : List (Octets × Octets) :=
  state.vars.filterMap fun (name, held) => held.value.map fun value => (name, value)

end State

namespace Sh

def say (descriptor : Nat) (text : Octets) : Sh Unit := do
  let _ ← (Chore.write descriptor text : Chore _)

def complainAt (line : Nat) (message : String) : Sh Unit := do
  let state ← get
  let source :=
    match state.builtin with
    | some name => name ++ ": ".toList
    | none => []
  say 2 (state.name ++ ": ".toList ++ (Nat.repr line).toList ++ ": ".toList ++ source ++
    message.toList ++ ['\n'])

def complain (message : String) : Sh Unit := do
  complainAt (← get).line message

def setStatus (status : Nat) : Sh Unit :=
  modify fun state => { state with status }

def leave {α : Type} (status : Nat) : Sh α := do
  setStatus status
  throw .ended

def fail {α : Type} (message : String) : Sh α := do
  complain message
  setStatus 2
  throw .failed

def assign (name value : Octets) : Sh Unit := do
  if (← get).isReadOnly name then fail (String.ofList name ++ ": is read only")
  else modify fun state => state.assign name value

def attempt {α : Type} (body : Sh α) : Sh (Except Jump α) :=
  ExceptT.mk do
    let result ← body.run
    return .ok result

def ensure {α : Type} (body : Sh α) (after : Sh Unit) : Sh α :=
  ExceptT.mk do
    let result ← body.run
    let _ ← after.run
    return result

def scene {α : Type} (view : Scene → α) : Sh α :=
  (Chore.look view : Chore α)

end Sh

end ArtifactPipeline.Shell
