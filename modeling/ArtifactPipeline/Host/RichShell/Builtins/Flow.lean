import ArtifactPipeline.Host.RichShell.Builtins.Basic

set_option autoImplicit false

namespace ArtifactPipeline.RichShell.Builtins

open Text (Octets)

def behindHyphens : List Octets → List Octets
  | ['-', '-'] :: rest => rest
  | args => args

def leaveLoops (resume : Bool) : Builtin := onWords fun _ _ args => do
  let loops := (← get).loops
  if loops = 0 then
    Sh.complainAs "only meaningful in a \x60for', \x60while', or \x60until' loop"
    return 0
  else
    match behindHyphens args with
    | [] => throw (.loops 0 resume)
    | [text] =>
        match integer? text with
        | none => do
            Sh.complainAs (String.ofList text ++ ": numeric argument required")
            Sh.leave 128
        | some count =>
            if count ≤ 0 then do
              Sh.complainAs (String.ofList text ++ ": loop count out of range")
              Sh.setStatus 1
              throw (.loops (loops - 1) false)
            else throw (.loops (min count.toNat loops - 1) resume)
    | text :: _ =>
        if (integer? text).isNone then do
          Sh.complainAs (String.ofList text ++ ": numeric argument required")
          Sh.leave 128
        else refuseMore

def statusOf (number : Int) : Nat :=
  (number % 256).toNat

def exit : Builtin := onWords fun _ _ args => do
  match behindHyphens args with
  | [] => do
      let state ← get
      Sh.leave (state.before.getD state.status)
  | text :: rest =>
      match integer? text with
      | none => do
          Sh.complainAs (String.ofList text ++ ": numeric argument required")
          Sh.leave 2
      | some number => if rest.isEmpty then Sh.leave (statusOf number) else refuseMore

def giveBackStatus : Builtin := onWords fun _ _ args => do
  let state ← get
  let status ←
    match behindHyphens args with
    | [] => pure (state.before.getD state.status)
    | text :: rest =>
        match integer? text with
        | none => do
            Sh.complainAs (String.ofList text ++ ": numeric argument required")
            pure 2
        | some number => if rest.isEmpty then pure (statusOf number) else refuseMore
  if state.frames.isEmpty then
    Sh.complainAs "can only \x60return' from a function or sourced script"
    return 2
  else
    Sh.setStatus status
    throw .returned

def shift : Builtin := onWords fun _ _ args => do
  let state ← get
  let outOfRange (shown : Octets) : Sh Nat := do
    Sh.complainAs ((if shown.isEmpty then "" else String.ofList shown ++ ": ") ++
      "shift count out of range")
    return 1
  let shiftBy (count : Int) (shown : Octets) : Sh Nat := do
    if count < 0 then outOfRange shown
    else if state.args.length < count.toNat then
      if state.does "shift_verbose" then outOfRange shown else return 1
    else
      modify fun state => { state with args := state.args.drop count.toNat }
      return 0
  match behindHyphens args with
  | [] => shiftBy 1 []
  | text :: rest =>
      match integer? text with
      | none => do
          Sh.complainAs (String.ofList text ++ ": numeric argument required")
          return 1
      | some count => if rest.isEmpty then shiftBy count text else refuseMore

def deeper {α : Type} (body : Sh α) : Sh α := do
  modify fun state => { state with indirection := state.indirection + 1 }
  Sh.ensure body (modify fun state => { state with indirection := state.indirection - 1 })

def eval : Builtin := fun kit mode operands =>
  withOptions "" false operands fun options => do
    let text := Text.joinWith [' '] options.texts
    if text.isEmpty then return 0
    else
      let outer := (← get).builtin
      deeper do
        modify fun state => { state with builtin := none }
        runText kit { tested := mode.tested } "eval" ((← get).line - (← get).lineShift).toNat text
        modify fun state => { state with builtin := outer }
      return (← get).status

def pathsOf (name : Octets) : Sh (List Octets) := do
  match (← get).valueOf? "PATH" with
  | some path => return Tools.candidates path name
  | none => return [name]

def isProgram (scene : Scene) (path : Octets) : Bool :=
  match scene.stat path with
  | .ok ⟨_, _, .file _ _ mode⟩ => HostDisk.isExecutable mode
  | .ok ⟨_, _, .tool _⟩ => true
  | _ => false

def isFile (scene : Scene) (path : Octets) : Bool :=
  match scene.stat path with
  | .ok ⟨_, _, .dir _ _⟩ | .error _ => false
  | .ok _ => true

def programsOf (name : Octets) : Sh (List Octets) := do
  let paths ← pathsOf name
  Sh.scene fun scene => paths.filter (isProgram scene)

def source : Builtin := fun kit mode operands =>
  withOptions "" false operands fun options => do
    match options.texts with
    | [] => do
        Sh.complainAs "filename argument required"
        tellUsage
    | name :: args => do
        let path ←
          if name.contains '/' then pure name
          else do
            let state ← get
            let paths ← if state.does "sourcepath" then pathsOf name else pure []
            match ← Sh.scene fun scene => paths.find? (isFile scene) with
            | some path => pure path
            | none => pure name
        let asFile ← Sh.scene fun scene => scene.stat path
        match asFile with
        | .ok ⟨_, _, .dir _ _⟩ => do
            Sh.complainAs (String.ofList path ++ ": is a directory")
            return 1
        | .error fault => do
            plainComplaint (String.ofList path ++ ": " ++ fault.message)
            return 1
        | .ok _ =>
            match ← (Chore.readFile path : Chore _) with
            | .error fault => do
                plainComplaint (String.ofList path ++ ": " ++ fault.message)
                return 1
            | .ok text => run kit mode path args text
where
  plainComplaint (message : String) : Sh Unit := do
    let name := (← get).builtin
    modify fun state => { state with builtin := none }
    Sh.complain message
    modify fun state => { state with builtin := name }
  run (kit : Kit) (mode : Mode) (path : Octets) (args : List Octets) (text : Octets) : Sh Nat := do
    let outer ← get
    let frame : Frame := { name := "source".toList, line := outer.line, source := path }
    set { outer with
      builtin := none
      frames := frame :: outer.frames
      title := path
      args := if args.isEmpty then outer.args else args
      traps := if outer.has 'T' then outer.traps else Assoc.erase "DEBUG" outer.traps
      lineShift := 0
      line := 1 }
    let result ← Sh.attempt (deeper (runText kit { tested := mode.tested } "" 1 text))
    match result with
    | .ok () | .error .returned => onOccasion kit "RETURN"
    | .error _ => pure ()
    modify fun state => { state with
      builtin := outer.builtin
      frames := outer.frames
      title := outer.title
      args := if args.isEmpty then state.args else outer.args
      traps := if outer.has 'T' then state.traps
        else match outer.traps.lookup "DEBUG", state.traps.lookup "DEBUG" with
          | some action, none => ("DEBUG", action) :: state.traps
          | _, _ => state.traps
      lineShift := outer.lineShift
      line := outer.line }
    match result with
    | .ok () | .error .returned => return (← get).status
    | .error jump => throw jump

def caller : Builtin := fun _ _ operands =>
  withOptions "" false operands fun options => do
    let state ← get
    match options.texts with
    | [] =>
        match state.frames with
        | [] => return 1
        | frame :: _ => do
            let source := (state.callSources.drop 1).headD "NULL".toList
            line (decimal frame.line ++ ' ' :: source)
            return 0
    | text :: _ =>
        match integer? text with
        | none => do
            Sh.complainAs (String.ofList text ++ ": invalid number")
            tellUsage
        | some level =>
            let level := level.toNat
            match state.frames[level]?, state.callNames[level + 1]?, state.callSources[level + 1]? with
            | some frame, some name, some source => do
                line (decimal frame.line ++ ' ' :: name ++ ' ' :: source)
                return 0
            | _, _, _ => return 1

def compute : Builtin := onWords fun _ _ args => do
  match behindHyphens args with
  | [] => do
      Sh.complainAs "expression expected"
      return 1
  | args => go args 1
where
  go : List Octets → Nat → Sh Nat
    | [], status => pure status
    | text :: rest, _ => do
        match ← Arithmetic.evaluate "let" text with
        | none => return 1
        | some value => go rest (if value = 0 then 1 else 0)

def times : Builtin := fun _ _ operands =>
  withOptions "" false operands fun _ => do
    line "0m0.000s 0m0.000s".toList
    line "0m0.000s 0m0.000s".toList
    return 0

end ArtifactPipeline.RichShell.Builtins
