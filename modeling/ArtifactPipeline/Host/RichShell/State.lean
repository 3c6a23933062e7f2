import ArtifactPipeline.Host.Routine
import ArtifactPipeline.Host.RichShell.Reader

set_option autoImplicit false

namespace ArtifactPipeline.RichShell

open Text (Octets)

inductive Held where
  | nothing
  | text (text : Octets)
  | list (items : List (Nat × Octets)) (isSet : Bool)
  | table (items : List (Octets × Octets)) (isSet : Bool)
  deriving DecidableEq, Repr

structure Variable where
  held : Held := .nothing
  exported : Bool := false
  readOnly : Bool := false
  integer : Bool := false
  casing : Option CaseChange := none
  capital : Bool := false
  reference : Bool := false
  traced : Bool := false
  deriving DecidableEq, Repr

def putItem (index : Nat) (text : Octets) : List (Nat × Octets) → List (Nat × Octets)
  | [] => [(index, text)]
  | (other, value) :: rest =>
      if index < other then (index, text) :: (other, value) :: rest
      else if index = other then (index, text) :: rest
      else (other, value) :: putItem index text rest

namespace Held

def text? : Held → Option Octets
  | .nothing => none
  | .text value => some value
  | .list items _ => items.lookup 0
  | .table items _ => items.lookup ['0']

def isList : Held → Bool
  | .list _ _ => true
  | _ => false

def isTable : Held → Bool
  | .table _ _ => true
  | _ => false

def withText (held : Held) (text : Octets) : Held :=
  match held with
  | .list items _ => .list (putItem 0 text items) true
  | .table items _ => .table (Assoc.set ['0'] text items) true
  | _ => .text text

end Held

def shelfOf (shelves : Nat) (name : Octets) : Nat :=
  name.foldl (fun total c => ((total * 16777619) % 4294967296) ^^^ c.toNat) 2166136261 % shelves

def onShelves {α : Type} (shelves : Nat) (entries : List (Octets × α)) : List (Octets × α) :=
  let placed := entries.map fun entry => (shelfOf shelves entry.1, entry)
  (placed.reverse.mergeSort fun a b => a.1 ≤ b.1).map (·.2)

def byShelf {α : Type} (entries : List (Octets × α)) : List (Octets × α) :=
  onShelves 1024 entries

structure Scope where
  vars : List (Octets × Variable) := []
  passing : Bool := false

structure Frame where
  name : Octets
  line : Nat
  source : Octets

structure Job where
  number : Nat
  parts : List (Nat × Octets)
  directory : Octets

structure Function where
  body : Command
  source : Octets
  exported : Bool := false
  readOnly : Bool := false
  traced : Bool := false

structure State where
  scopes : List Scope := [{}]
  functions : List (Octets × Function) := []
  aliases : List (Octets × Octets) := []
  documents : List (Nat × HereDocument) := []
  nextDocument : Nat := 0
  name : Octets
  title : Octets
  args : List Octets := []
  status : Nat := 0
  statuses : List Nat := [0]
  substitution : Nat := 0
  options : List Char := ['h', 'B']
  named : List String := []
  habits : List String := []
  traps : List (String × Octets) := []
  shownTraps : List (String × Octets) := []
  latest : Option Nat := none
  jobs : List Job := []
  current : Option Nat := none
  previous : Option Nat := none
  children : List Nat := []
  kept : List Nat := []
  channels : List Nat := []
  builtin : Option Octets := none
  loops : Nat := 0
  frames : List Frame := []
  source : Octets
  fromFile : Bool := true
  isScript : Bool := true
  process : Nat
  depth : Nat := 0
  indirection : Nat := 0
  line : Nat := 1
  lineShift : Int := 0
  directory : Octets
  stack : List Octets := []
  optionLetters : Nat := 0
  optionIndex : Nat := 1
  before : Option Nat := none
  lastWord : Octets := []
  command : Octets := []
  seed : Nat := 1
  lastChance : Nat := 0
  started : Nat := 0
  secondsOffset : Int := 0
  hashed : List (Octets × Octets × Nat) := []
  deaf : List Nat := []
  busy : List String := []
  disabled : List Octets := []

inductive Jump where
  | loops (more : Nat) (resume : Bool)
  | returned
  | dropped
  | ended
  deriving DecidableEq, Repr

abbrev Sh := ExceptT Jump (StateT State Chore)

namespace State

def has (state : State) (option : Char) : Bool :=
  state.options.contains option

def hasNamed (state : State) (option : String) : Bool :=
  state.named.contains option

def does (state : State) (habit : String) : Bool :=
  state.habits.contains habit

def referenceLimit : Nat := 8

def stored? (state : State) (name : Octets) : Option Variable :=
  state.scopes.findSome? fun scope => scope.vars.lookup name

def resolve (state : State) (name : Octets) : Octets :=
  go referenceLimit name
where
  go : Nat → Octets → Octets
    | 0, name => name
    | fuel + 1, name =>
        match state.stored? name with
        | some { reference := true, held := .text target, .. } =>
            if target.isEmpty || target = name then name else go fuel target
        | _ => name

def putVariable (state : State) (name : Octets) (entry : Variable) : State :=
  { state with scopes := go state.scopes }
where
  go : List Scope → List Scope
    | [] => [{ vars := [(name, entry)] }]
    | [scope] => [{ scope with vars := Assoc.set name entry scope.vars }]
    | scope :: rest =>
        if (scope.vars.lookup name).isSome then
          { scope with vars := Assoc.set name entry scope.vars } :: rest
        else scope :: go rest

def putGlobal (state : State) (name : Octets) (entry : Variable) : State :=
  match state.scopes.reverse with
  | [] => state
  | last :: others =>
      { state with scopes := others.reverse ++
          [{ last with vars := Assoc.set name entry last.vars }] }

def global? (state : State) (name : Octets) : Option Variable :=
  state.scopes.getLast?.bind fun scope => scope.vars.lookup name

def inFunction (state : State) : Bool :=
  state.scopes.dropLast.any fun scope => !scope.passing

def own? (state : State) (name : Octets) : Option Variable :=
  (state.scopes.dropLast.find? fun scope => !scope.passing).bind fun scope => scope.vars.lookup name

def putOwn (state : State) (name : Octets) (entry : Variable) : State :=
  { state with scopes := go state.scopes }
where
  go : List Scope → List Scope
    | [] => []
    | scope :: rest =>
        if scope.passing then scope :: go rest
        else { scope with vars := Assoc.set name entry scope.vars } :: rest

def removeVariable (state : State) (name : Octets) : State :=
  { state with scopes := go true state.scopes }
where
  go : Bool → List Scope → List Scope
    | _, [] => []
    | own, scope :: rest =>
        let own' := own && scope.passing
        if (scope.vars.lookup name).isSome then
          if own && !scope.passing && !rest.isEmpty then
            { scope with vars := Assoc.set name {} scope.vars } :: rest
          else { scope with vars := Assoc.erase name scope.vars } :: rest
        else scope :: go own' rest

def allVars (state : State) : List (Octets × Variable) :=
  state.scopes.reverse.foldl (fun vars scope =>
    scope.vars.foldl (fun vars (name, entry) => Assoc.set name entry vars) vars) []

def valueOf? (state : State) (name : String) : Option Octets :=
  (state.stored? (state.resolve name.toList)).bind fun entry => entry.held.text?

def valueOf (state : State) (name : String) : Octets :=
  (state.valueOf? name).getD []

def politely (state : State) (path : Octets) : Octets :=
  match state.valueOf? "HOME" with
  | some home =>
      if 1 < home.length && home.isPrefixOf path then
        let rest := path.drop home.length
        if rest.isEmpty || rest.head? = some '/' then '~' :: rest else path
      else path
  | none => path

def exportedVars (state : State) (path : Octets) : List (Octets × Octets) :=
  byShelf (state.allVars.filterMap fun (name, entry) =>
    if entry.exported && name != ['_'] then
      match entry.held with
      | .text text => some (name, text)
      | _ => none
    else none) ++ [(['_'], path)]

end State

namespace Sh

def say (descriptor : Nat) (text : Octets) : Sh Unit := do
  let _ ← (Chore.write descriptor text : Chore _)

def scene {α : Type} (view : Scene → α) : Sh α :=
  (Chore.look view : Chore α)

def place (state : State) (line : Nat) : Octets :=
  state.title ++ ": line ".toList ++ (Nat.repr line).toList ++ ": ".toList

def complain (message : String) : Sh Unit := do
  let state ← get
  say 2 (place state state.line ++ message.toList ++ ['\n'])

def complainAs (message : String) : Sh Unit := do
  let state ← get
  let source :=
    match state.builtin with
    | some name => name ++ ": ".toList
    | none => []
  say 2 (place state state.line ++ source ++ message.toList ++ ['\n'])

def usage (text : String) : Sh Nat := do
  let name := (← get).builtin.getD []
  say 2 (name ++ ": usage: ".toList ++ text.toList ++ ['\n'])
  return 2

def setStatus (status : Nat) : Sh Unit :=
  modify fun state => { state with status }

def atLine (line : Nat) : Sh Unit :=
  modify fun state => { state with line := ((line : Int) + state.lineShift).toNat }

def leave {α : Type} (status : Nat) : Sh α := do
  setStatus status
  throw .ended

def drop {α : Type} (message : String) : Sh α := do
  complain message
  setStatus 1
  throw .dropped

def giveUp {α : Type} (message : String) : Sh α := do
  complain message
  let state ← get
  leave (if state.fromFile || 0 < state.depth then 1 else 127)

def attempt {α : Type} (body : Sh α) : Sh (Except Jump α) :=
  ExceptT.mk do
    let result ← body.run
    return .ok result

def ensure {α : Type} (body : Sh α) (after : Sh Unit) : Sh α :=
  ExceptT.mk do
    let result ← body.run
    let _ ← after.run
    return result

end Sh

def decimal (number : Nat) : Octets :=
  (Nat.repr number).toList

def integerText (number : Int) : Octets :=
  if number < 0 then '-' :: decimal number.natAbs else decimal number.natAbs

def nextSeed (seed : Nat) : Nat :=
  let seed : Int := if seed = 0 then 123459876 else seed
  let high := seed / 127773
  let low := seed % 127773
  let next := 16807 * low - 2836 * high
  (if next < 0 then next + 2147483647 else next).toNat

def chance : Sh Nat := do
  let state ← get
  let (seed, number) := go 8 state.seed state.lastChance
  set { state with seed, lastChance := number }
  return number
where
  go : Nat → Nat → Nat → Nat × Nat
    | 0, seed, last => (seed, last)
    | fuel + 1, seed, last =>
        let seed := nextSeed seed
        let number := ((seed >>> 16) ^^^ (seed &&& 65535)) &&& 32767
        if number = last then go fuel seed last else (seed, number)

def listOf (texts : List Octets) : Held :=
  .list (texts.zipIdx.map fun (text, index) => (index, text)) true

def second : Nat := 1000000000

def optionList (names : List String) : Octets :=
  Text.joinWith [':'] (names.map String.toList)

def optionNames : List (String × Option Char) := [
  ("allexport", some 'a'), ("braceexpand", some 'B'), ("emacs", none), ("errexit", some 'e'),
  ("errtrace", some 'E'), ("functrace", some 'T'), ("hashall", some 'h'), ("histexpand", some 'H'),
  ("history", none), ("ignoreeof", none), ("interactive-comments", none), ("keyword", some 'k'),
  ("monitor", some 'm'), ("noclobber", some 'C'), ("noexec", some 'n'), ("noglob", some 'f'),
  ("nolog", none), ("notify", some 'b'), ("nounset", some 'u'), ("onecmd", some 't'),
  ("physical", some 'P'), ("pipefail", none), ("posix", none), ("privileged", some 'p'),
  ("verbose", some 'v'), ("vi", none), ("xtrace", some 'x')
]

def State.optionIsOn (state : State) (option : String × Option Char) : Bool :=
  match option.2 with
  | some letter => state.has letter
  | none => option.1 = "interactive-comments" || state.hasNamed option.1

def State.callNames (state : State) : List Octets :=
  if state.frames.isEmpty then []
  else state.frames.map (·.name) ++ (if state.isScript then ["main".toList] else [])

def State.callSources (state : State) : List Octets :=
  state.frames.map (·.source) ++ (if state.isScript then [state.source] else [])

def State.callLines (state : State) : List Octets :=
  state.frames.map (fun frame => decimal frame.line) ++ (if state.isScript then [['0']] else [])

def made? (name : Octets) : Sh (Option Held) := do
  let state ← get
  match String.ofList name with
  | "LINENO" => return some (.text (decimal state.line))
  | "RANDOM" => return some (.text (decimal (← chance)))
  | "SRANDOM" => do
      let high ← chance
      let low ← chance
      return some (.text (decimal (high * 32768 + low)))
  | "SECONDS" => do
      let now ← Sh.scene fun scene => scene.disk.clock
      let passed : Int := ((now - state.started) / second : Nat)
      return some (.text (integerText (passed + state.secondsOffset)))
  | "EPOCHSECONDS" => do
      let now ← Sh.scene fun scene => scene.disk.clock
      return some (.text (decimal (now / second)))
  | "EPOCHREALTIME" => do
      let now ← Sh.scene fun scene => scene.disk.clock
      let micros := decimal (now % second / 1000)
      return some (.text (decimal (now / second) ++ '.' ::
        List.replicate (6 - micros.length) '0' ++ micros))
  | "BASHPID" => return some (.text (decimal (← Sh.scene fun scene => scene.self)))
  | "BASH_SUBSHELL" => return some (.text (decimal state.depth))
  | "BASH_COMMAND" => return some (.text state.command)
  | "BASH_ARGV0" => return some (.text state.name)
  | "_" => return some (.text state.lastWord)
  | "PIPESTATUS" => return some (listOf (state.statuses.map decimal))
  | "FUNCNAME" =>
      return if state.frames.isEmpty then some (.list [] false) else some (listOf state.callNames)
  | "BASH_SOURCE" => return some (listOf state.callSources)
  | "BASH_LINENO" => return some (listOf state.callLines)
  | "DIRSTACK" => return some (listOf (state.directory :: state.stack))
  | "GROUPS" => return some (listOf [['0']])
  | "SHELLOPTS" =>
      return some (.text (optionList ((optionNames.filter state.optionIsOn).map (·.1))))
  | "BASHOPTS" => return some (.text (optionList state.habits))
  | "BASH_ALIASES" => return some (.table state.aliases true)
  | "BASH_CMDS" =>
      return some (.table (state.hashed.map fun (name, path, _) => (name, path)) true)
  | _ => return none

def seen? (name : Octets) : Sh (Option Variable) := do
  let name := (← get).resolve name
  match ← made? name with
  | some held => return some ((((← get).stored? name).getD {}) |> fun entry => { entry with held })
  | none => return (← get).stored? name

def value? (name : Octets) : Sh (Option Octets) := do
  return (← seen? name).bind fun entry => entry.held.text?

end ArtifactPipeline.RichShell
