import ArtifactPipeline.Host.RichShell.Builtins.Flow

set_option autoImplicit false

namespace ArtifactPipeline.RichShell.Builtins

open Text (Octets)

def logicalPath (base path : Octets) : Octets :=
  let start := if path.head? = some '/' then [] else HostDisk.spotOf base
  let names := (Text.splitOn '/' path).foldl (fun (names : Spot) segment =>
    if segment.isEmpty || segment = ['.'] then names
    else if segment = ['.', '.'] then names.dropLast
    else names ++ [segment]) start
  let lead : Octets := match path with
    | '/' :: '/' :: '/' :: _ => []
    | '/' :: '/' :: _ => ['/']
    | _ => []
  lead ++ HostDisk.spotText names

def enterDirectory (path : Octets) : Sh (Except HostFault Unit) :=
  (Chore.act fun scene =>
    match scene.stat path with
    | .ok ⟨spot, _, .dir _ _⟩ => (.ok (), scene.setMe { scene.me with cwd := spot })
    | .ok _ => (.error .notDirectory, scene)
    | .error fault => (.error fault, scene) : Chore _)

def starts (state : State) (target : Octets) : List Octets :=
  let first := target.takeWhile fun c => c != '/'
  if target.head? = some '/' || first = ['.'] || first = ['.', '.'] || target.isEmpty then [[]]
  else
    match state.valueOf? "CDPATH" with
    | some path => if path.isEmpty then [[]] else Text.splitOn ':' path ++ [[]]
    | none => [[]]

def note (name : String) (value : Octets) : Sh Unit :=
  modify fun state =>
    let old := (state.stored? name.toList).getD {}
    state.putVariable name.toList { old with held := .text value }

def enter (physical : Bool) (path : Octets) : Sh (Except HostFault Unit) := do
  let old := (← get).directory
  let logical := logicalPath old path
  let (result, now) ←
    if physical then do
      let result ← enterDirectory path
      pure (result, ← Sh.scene fun scene => HostDisk.spotText scene.cwd)
    else
      match ← enterDirectory logical with
      | .ok () => pure (.ok (), logical)
      | .error _ => do
          let result ← enterDirectory path
          pure (result, ← Sh.scene fun scene => HostDisk.spotText scene.cwd)
  if result.isOk then
    note "OLDPWD" old
    note "PWD" now
    modify fun state => { state with directory := now }
  return result

def enterFirst (physical : Bool) (target : Octets) :
    List Octets → HostFault → Sh (Except HostFault Octets)
  | [], fault => pure (.error fault)
  | start :: rest, _ => do
      let path := if start.isEmpty then target else start ++ '/' :: target
      match ← enter physical path with
      | .ok () => return .ok start
      | .error fault => enterFirst physical target rest fault

def changeTo (physical shown : Bool) (target : Octets) : Sh Nat := do
  if target.isEmpty then return 0
  else
    match ← enterFirst physical target (starts (← get) target) .missing with
    | .error fault => do
        Sh.complainAs (String.ofList target ++ ": " ++ fault.message)
        return 1
    | .ok start => do
        if shown || !start.isEmpty then line (← get).directory
        return 0

def cd : Builtin := fun _ _ operands =>
  withOptions "LPe@" false operands fun options => do
    let state ← get
    let physical := match options.lastOf? ['L', 'P'] with
      | some letter => letter == 'P'
      | none => state.has 'P'
    match options.texts with
    | [] =>
        match state.valueOf? "HOME" with
        | some home => changeTo physical false home
        | none => do
            Sh.complainAs "HOME not set"
            return 1
    | [['-']] =>
        match state.valueOf? "OLDPWD" with
        | some old => changeTo physical true old
        | none => do
            Sh.complainAs "OLDPWD not set"
            return 1
    | [target] => changeTo physical false target
    | _ => do
        Sh.complainAs "too many arguments"
        return 1

def pwd : Builtin := fun _ _ operands =>
  withOptions "LP" false operands fun options => do
    let state ← get
    let physical := match options.lastOf? ['L', 'P'] with
      | some letter => letter == 'P'
      | none => state.has 'P'
    if physical then print ((← Sh.scene fun scene => HostDisk.spotText scene.cwd) ++ ['\n'])
    else print (state.directory ++ ['\n'])

def tellBadIndex (text : Octets) : Sh Nat := do
  if (← get).stack.isEmpty then Sh.complainAs "directory stack empty"
  else Sh.complainAs (String.ofList text ++ ": directory stack index out of range")
  return 1

def showStack (long : Bool) (way : Nat) (index : Option (Nat × Nat)) : Sh Nat := do
  let state ← get
  let shown (path : Octets) : Octets := if long then path else state.politely path
  let numbered (number : Nat) (path : Octets) : Octets :=
    if 2 ≤ way then Tools.padLeft ' ' 2 (decimal number) ++ "  ".toList ++ shown path else shown path
  let all := state.directory :: state.stack
  match index with
  | some (place, number) => print (numbered number (all[place]?.getD []) ++ ['\n'])
  | none =>
      let separator : Octets := if way = 0 then [' '] else ['\n']
      print (Text.joinWith separator (all.zipIdx.map fun (path, number) => numbered number path) ++
        ['\n'])

structure StackQuestion where
  long : Bool := false
  clear : Bool := false
  way : Nat := 0
  index : Option (Char × Int × Octets) := none

def readQuestion : List Octets → StackQuestion → Sh (Option StackQuestion)
  | [], question => pure (some question)
  | text :: rest, question => do
      match text with
      | ['-', 'l'] => readQuestion rest { question with long := true }
      | ['-', 'c'] => readQuestion rest { question with clear := true }
      | ['-', 'v'] => readQuestion rest { question with way := max question.way 2 }
      | ['-', 'p'] => readQuestion rest { question with way := max question.way 1 }
      | ['-', '-'] => return some question
      | sign :: number =>
          if sign == '+' || sign == '-' then
            match integer? number with
            | some index => readQuestion rest { question with index := some (sign, index, number) }
            | none => do
                Sh.complainAs (String.ofList text ++ ": invalid number")
                let _ ← tellUsage
                return none
          else do
            Sh.complainAs (String.ofList text ++ ": invalid option")
            let _ ← tellUsage
            return none
      | [] => do
          Sh.complainAs ": invalid option"
          let _ ← tellUsage
          return none

def dirs : Builtin := onWords fun _ _ args => do
  match ← readQuestion args {} with
  | none => return 2
  | some question =>
      if question.clear then
        modify fun state => { state with stack := [] }
        return 0
      else
        let size : Int := (← get).stack.length
        match question.index with
        | none => showStack question.long question.way none
        | some (sign, index, text) =>
            if index < 0 || size < index then tellBadIndex text
            else
              let place := if sign == '+' then index else size - index
              showStack question.long question.way (some (place.toNat, place.toNat))

def enterTop (path : Octets) (stack : List Octets) (restore : List Octets) : Sh Nat := do
  modify fun state => { state with stack }
  let status ← changeTo false false path
  if status = 0 then showStack false 0 none
  else
    modify fun state => { state with stack := restore }
    return status

structure StackChange where
  stay : Bool := false
  index : Option (Char × Int × Octets) := none
  rest : List Octets := []

def readChange (takesPath : Bool) : List Octets → StackChange → Sh (Option StackChange)
  | [], change => pure (some change)
  | text :: rest, change => do
      match text with
      | ['-', 'n'] => readChange takesPath rest { change with stay := true }
      | ['-', '-'] => return some { change with rest }
      | sign :: number =>
          if text = ['-'] && takesPath then return some { change with rest := text :: rest }
          else if sign == '+' || sign == '-' then
            match integer? number with
            | some index =>
                readChange takesPath rest { change with index := some (sign, index, text) }
            | none => do
                Sh.complainAs (String.ofList text ++ ": invalid number")
                let _ ← tellUsage
                return none
          else if takesPath then return some { change with rest := text :: rest }
          else do
            Sh.complainAs (String.ofList text ++ ": invalid argument")
            let _ ← tellUsage
            return none
      | [] => return some { change with rest := text :: rest }

def pushd : Builtin := onWords fun _ _ args => do
  let state ← get
  if args.isEmpty then
    match state.stack with
    | [] => do
        Sh.complainAs "no other directory"
        return 1
    | top :: rest => enterTop top (state.directory :: rest) state.stack
  else
    match ← readChange true args {} with
    | none => return 2
    | some { stay, index := some (sign, index, text), .. } => do
        let size : Int := state.stack.length
        let index := if sign == '-' then size - index else index
        if index < 0 || size < index then tellBadIndex text
        else
          let all := state.directory :: state.stack
          let turned := all.drop index.toNat ++ all.take index.toNat
          match turned with
          | [] => return 0
          | top :: rest =>
              if stay then
                modify fun state => { state with stack := rest }
                return 0
              else enterTop top rest state.stack
    | some { rest := [], .. } => return 0
    | some { stay, rest := target :: more, .. } => do
        if stay then
          modify fun state => { state with stack := target :: state.stack }
          showStack false 0 none
        else if !more.isEmpty then
          Sh.complainAs "too many arguments"
          return 1
        else
          let target ←
            if target = ['-'] then pure (state.valueOf? "OLDPWD") else pure (some target)
          match target with
          | none => do
              Sh.complainAs "OLDPWD not set"
              return 1
          | some path => do
              let status ← changeTo false false path
              if status = 0 then
                modify fun after => { after with stack := state.directory :: after.stack }
                showStack false 0 none
              else return 1

def popd : Builtin := onWords fun _ _ args => do
  match ← readChange false args {} with
  | none => return 2
  | some change => do
      let state ← get
      let size : Int := state.stack.length
      let (sign, index, text) := change.index.getD ('+', 0, [])
      if size < index || index < -size || size = 0 then tellBadIndex text
      else if (sign == '+' && index = 0) || (sign == '-' && index = size) then
        match state.stack with
        | [] => tellBadIndex text
        | top :: rest =>
            if change.stay then
              modify fun state => { state with stack := rest }
              showStack false 0 none
            else do
              let status ← changeTo false false top
              if status = 0 then
                modify fun state => { state with stack := rest }
                showStack false 0 none
              else return status
      else
        let place := if sign == '+' then index else size - index
        if place < 1 || size < place then tellBadIndex text
        else
          modify fun state => { state with stack := state.stack.eraseIdx (place.toNat - 1) }
          showStack false 0 none

end ArtifactPipeline.RichShell.Builtins
