import ArtifactPipeline.Host.RichShell.Builtins

set_option autoImplicit false

namespace ArtifactPipeline.RichShell

open Text (Octets)
open Shell (fieldText)

def traceDescriptor : Sh Nat := do
  match (← get).valueOf? "BASH_XTRACEFD" with
  | some text =>
      if isNumber text && (← fileBehind (numberOf text)).isSome then return numberOf text else return 2
  | none => return 2

def tracePrompt (kit : Kit) : Sh Octets := do
  let state ← get
  let written := state.valueOf "PS4"
  modify fun state => { state with options := state.options.filter fun c => c != 'x' && c != 'u' }
  let result ← Sh.attempt (expandAtoms kit.expander
    (piecesOfText (formOf.prompt state (written.length + 1) written)))
  modify fun after => { after with
    options := state.options, status := state.status, substitution := state.substitution }
  let text := match result with
    | .ok atoms => fieldText (unsplit [' '] atoms)
    | .error _ => []
  match text with
  | [] => return []
  | c :: rest => return List.replicate (state.indirection + 1) c ++ rest

def trace (kit : Kit) (text : Octets) : Sh Unit := do
  if (← get).has 'x' then
    let lead ← tracePrompt kit
    Sh.say (← traceDescriptor) (lead ++ text ++ ['\n'])

def traceWords (kit : Kit) (words : List Octets) : Sh Unit :=
  trace kit (Text.joinWith [' '] (words.map tracedForm))

def Binding.text (binding : Binding) : Octets :=
  binding.name ++ (match binding.subscript with
    | some (raw, _) => '[' :: raw ++ [']']
    | none => []) ++ (if binding.adds then "+=".toList else ['='])

def rawValue (raw : Octets) : Octets :=
  (raw.dropWhile fun c => c != '=').drop 1

def assignWord (kit : Kit) (word : Word) : Sh Unit := do
  match binding? word.2 with
  | none => pure ()
  | some (binding, value) =>
      match value, binding.subscript with
      | [.elements items], none => do
          trace kit (binding.text ++ rawValue word.1)
          let elements ← expandElements kit.expander items
          setItems binding.name binding.adds elements
      | [.elements _], some (raw, _) =>
          Sh.drop (String.ofList (binding.name ++ '[' :: raw) ++ "]: cannot assign list to array member")
      | value, some (raw, subscript) => do
          let key ← expandText kit.expander subscript
          let text ← expandValue kit.expander value
          trace kit (binding.text ++ traced text)
          setElement binding.name raw key binding.adds text
      | value, none => do
          let text ← expandValue kit.expander value
          trace kit (binding.text ++ traced text)
          setText binding.name binding.adds text
where
  traced (text : Octets) : Octets :=
    if text.isEmpty then [] else tracedForm text

def assignWords (kit : Kit) : List Word → Sh Unit
  | [] => pure ()
  | word :: rest => do
      assignWord kit word
      assignWords kit rest

def passWord (kit : Kit) (word : Word) : Sh Unit := do
  match binding? word.2 with
  | none => pure ()
  | some (binding, value) => do
      let text ← match value with
        | [.elements _] => pure (rawValue word.1)
        | value => expandValue kit.expander value
      let state ← get
      let name := state.resolve binding.name
      let old := (state.stored? name).getD {}
      trace kit (binding.text ++ (if text.isEmpty then [] else tracedForm text))
      if old.readOnly then
        Sh.complain (String.ofList name ++ ": readonly variable")
      else if binding.subscript.isSome then
        Sh.complain ("\x60" ++ String.ofList (binding.text.dropLast) ++ "': not a valid identifier")
      else
        let text := if binding.adds then (old.held.text?.getD []) ++ text else text
        let text ← if old.integer then do pure (integerText (← computed text)) else pure text
        modify fun state => match state.scopes with
          | scope :: rest =>
              let entry : Variable := { held := .text text, exported := true, integer := old.integer }
              { state with scopes := { scope with vars := Assoc.set name entry scope.vars } :: rest }
          | [] => state

def passWords (kit : Kit) : List Word → Sh Unit
  | [] => pure ()
  | word :: rest => do
      passWord kit word
      passWords kit rest

def withPassing (kit : Kit) (assignments : List Word) (body : Sh Unit) : Sh Unit := do
  if assignments.isEmpty then body
  else
    let depth := (← get).scopes.length
    modify fun state => { state with scopes := { passing := true } :: state.scopes }
    Sh.ensure (do
      passWords kit assignments
      body)
      (modify fun state => { state with
        scopes := state.scopes.drop (state.scopes.length - depth) })

def expandOperand (kit : Kit) (word : Word) : Sh (List Operand) := do
  match binding? word.2 with
  | some (binding, [.elements items]) =>
      match binding.subscript with
      | none => do
          let elements ← expandElements kit.expander items
          return [{ text := binding.text ++ rawValue word.1, items := some elements }]
      | some _ => return [{ text := word.1 }]
  | some (binding, value) => do
      let lead ← match binding.subscript with
        | none => pure binding.text
        | some (_, subscript) => do
            let key ← expandText kit.expander subscript
            pure (binding.name ++ '[' :: key ++ ']' :: if binding.adds then ['+', '='] else ['='])
      let text ← expandValue kit.expander value
      return [{ text := lead ++ text }]
  | none => do return (← expandFields kit.expander word.2).map fun text => { text }

def expandOperands (kit : Kit) : List Word → Sh (List Operand)
  | [] => pure []
  | word :: rest => do
      let operands ← expandOperand kit word
      return operands ++ (← expandOperands kit rest)

def expandCommand (kit : Kit) : List Word → Sh (List Operand)
  | [] => pure []
  | word :: rest => do
      let plain (fields : List Octets) : List Operand := fields.map fun text => { text }
      match ← expandFields kit.expander word.2 with
      | [] => expandCommand kit rest
      | [name] =>
          if word.1 = "command".toList || word.1 = "builtin".toList then
            return { text := name } :: (← expandCommand kit rest)
          else if takesAssignments word.1 then return { text := name } :: (← expandOperands kit rest)
          else return { text := name } :: plain (← expandAllFields kit.expander (rest.map (·.2)))
      | fields => return plain (fields ++ (← expandAllFields kit.expander (rest.map (·.2))))

def traceOperands (kit : Kit) (operands : List Operand) : Sh Unit := do
  if (← get).has 'x' then
    for operand in operands do
      if let some elements := operand.items then
        let named := Builtins.Named.ofText operand.text
        let parts := elements.map fun element =>
          match element.subscript with
          | some (_, key) => '[' :: singleQuoted key ++ "]=".toList ++ singleQuoted element.text
          | none => singleQuoted element.text
        trace kit (named.name ++ (if named.adds then "+=(".toList else "=(".toList) ++
          Text.joinWith [' '] parts ++ [')'])
    traceWords kit (operands.map fun operand =>
      if operand.items.isSome then (Builtins.Named.ofText operand.text).name else operand.text)

def standardPath : Octets :=
  "/usr/local/sbin:/usr/local/bin:/usr/sbin:/usr/bin:/sbin:/bin".toList

def plainPath : Octets :=
  "/bin:/usr/bin".toList

inductive Whereabouts where
  | path (path : Octets)
  | nowhere

def locate (standard : Bool) (name : Octets) : Sh Whereabouts := do
  if name.contains '/' then return .path name
  else
    if standard then modify fun state => { state with hashed := [] }
    let state ← get
    match state.hashed.lookup name with
    | some (path, hits) => do
        Builtins.remember name path (hits + 1)
        return .path path
    | none => do
        let search := if standard then some plainPath else state.valueOf? "PATH"
        match search.filter fun path => !path.isEmpty with
        | none => return .path name
        | some search => do
            let paths := Tools.candidates search name
            match ← Sh.scene fun scene => paths.find? (Builtins.isProgram scene) with
            | some path => do
                Builtins.remember name path 1
                return .path path
            | none =>
                match ← Sh.scene fun scene => paths.find? (Builtins.isFile scene) with
                | some path => return .path path
                | none => return .nowhere

def functionLead : Octets :=
  "BASH_FUNC_".toList

def functionMark : Octets :=
  ['%', '%']

def inheritedText (state : State) (function : Function) : Octets :=
  let lines := (Text.splitOn '\n' (functionText state.documents ['f'] function.body)).drop 2
  let trimmed := lines.map fun line =>
    if line.head? = some ' ' then ' ' :: line.dropWhile (· == ' ') else line
  "() \x7b ".toList ++ Text.joinWith ['\n'] trimmed

def inherited (state : State) (path : Octets) : List (Octets × Octets) :=
  let functions := (state.functions.filter fun entry => entry.2.exported).map fun entry =>
    (functionLead ++ entry.1 ++ functionMark, inheritedText state entry.2)
  functions ++ state.exportedVars path

def lowerLevel : Sh Unit := do
  let state ← get
  if state.depth = 0 then
    if let some entry := state.stored? "SHLVL".toList then
      let level := ((entry.held.text?.bind Builtins.integer?).getD 1) - 1
      modify fun state => state.putVariable "SHLVL".toList
        { entry with held := .text (integerText level) }

def isBinary (content : Octets) : Bool :=
  ((content.take 80).takeWhile fun c => c != '\n').any fun c => c.toNat = 0

/-- Turns the process into the program at a path; only a program that cannot be run comes back, with the
reason. A file that is no program is run as a script. -/
def turnInto (kit : Kit) (path name : Octets) (args : List Octets) (bare : Bool) :
    Sh HostFault := do
  let state ← get
  let call : Tools.Call :=
    { name, args, vars := if bare then [] else inherited state (absolute state path) }
  Chore.change (closeAll state.kept)
  let shell := "/bin/bash".toList
  match ← (kit.exec path call : Chore _) with
  | .ok status => (Chore.exit status : Chore HostFault)
  | .error .badFormat => do
      let content : Except HostFault Octets ← (Chore.readFile path : Chore _)
      if isBinary (content.toOption.getD []) then return .badFormat
      else
        match ← (kit.exec shell { call with name := shell, args := path :: args } : Chore _) with
        | .ok status => (Chore.exit status : Chore HostFault)
        | .error fault => return fault
  | .error fault => return fault
where
  absolute (state : State) (path : Octets) : Octets :=
    if path.head? = some '/' || !path.contains '/' then path else path |> fun path =>
      if "./".toList.isPrefixOf path then state.directory ++ path.drop 1 else path

def refusal (path : Octets) (fault : HostFault) : Sh (String × Nat) := do
  match ← Sh.scene fun scene => scene.stat path with
  | .ok ⟨_, _, .dir _ _⟩ => return ("Is a directory", 126)
  | .ok _ =>
      if fault = .missing then return ("cannot execute: required file not found", 127)
      else if fault = .badFormat then return ("cannot execute binary file: Exec format error", 126)
      else return (fault.message, 126)
  | .error _ => return (fault.message, if fault = .missing then 127 else 126)

def becomeProgram (kit : Kit) (whereabouts : Whereabouts) (words : List Octets) : Sh Unit := do
  match words with
  | [] => pure ()
  | name :: args =>
      match whereabouts with
      | .path path => do
          let fault ← turnInto kit path name args false
          let (reason, status) ← refusal path fault
          Sh.complain (String.ofList path ++ ": " ++ reason)
          Sh.leave status
      | .nowhere => do
          let handler := "command_not_found_handle".toList
          if ((← get).functions.lookup handler).isSome then
            runText kit {} "" (← get).line (Text.joinWith [' '] ((handler :: words).map quotedForm))
            Sh.leave (← get).status
          else
            Sh.complain (String.ofList name ++ ": command not found")
            Sh.leave 127

def exec (kit : Kit) (operands : List Operand) : Sh Nat :=
  Builtins.withOptions "cla:" false operands fun options => do
    match options.texts with
    | [] => return 0
    | name :: args => do
        let shown := (options.value? 'a').getD name
        let shown := if options.has 'l' then '-' :: shown else shown
        let keeps := (← get).does "execfail"
        let fail (status : Nat) : Sh Nat := do
          if keeps then return status
          else Sh.leave status
        match ← locate false name with
        | .nowhere => do
            Sh.complainAs (String.ofList name ++ ": not found")
            fail 127
        | .path path => do
            lowerLevel
            let fault ← turnInto kit path shown args (options.has 'c')
            let (reason, status) ← refusal path fault
            if status = 127 then
              Sh.complainAs (String.ofList path ++ ": " ++
                (if name.contains '/' then "cannot execute: " ++ reason else "not found"))
            else
              Sh.complain (String.ofList path ++ ": " ++ reason)
              Sh.complainAs (String.ofList path ++ ": cannot execute: " ++ reason)
            fail status

end ArtifactPipeline.RichShell
