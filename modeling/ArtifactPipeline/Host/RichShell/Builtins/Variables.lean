import ArtifactPipeline.Host.RichShell.Builtins.Basic

set_option autoImplicit false

namespace ArtifactPipeline.RichShell.Builtins

open Text (Octets)
open Shell (isName)

structure Named where
  name : Octets
  subscript : Option Octets := none
  value : Option Octets := none
  adds : Bool := false

def Named.ofText (text : Octets) : Named :=
  let name := text.takeWhile fun c => c != '=' && c != '[' && c != '+'
  let rest := text.drop name.length
  match rest with
  | '=' :: value => { name, value := some value }
  | '+' :: '=' :: value => { name, value := some value, adds := true }
  | '[' :: inside =>
      match closing? 0 [] inside with
      | some (subscript, '=' :: value) => { name, subscript := some subscript, value := some value }
      | some (subscript, '+' :: '=' :: value) =>
          { name, subscript := some subscript, value := some value, adds := true }
      | some (subscript, []) => { name, subscript := some subscript }
      | _ => { name := text.takeWhile fun c => c != '=' }
  | [] => { name }
  | _ =>
      let name := text.takeWhile fun c => c != '='
      match text.drop name.length with
      | _ :: value => { name, value := some value }
      | [] => { name }
where
  closing? : Nat → Octets → Octets → Option (Octets × Octets)
    | _, _, [] => none
    | level, read, c :: rest =>
        if c == ']' && level = 0 then some (read.reverse, rest)
        else
          let level := if c == '[' then level + 1 else if c == ']' then level - 1 else level
          closing? level (c :: read) rest

def sortedVars (vars : List (Octets × Variable)) (test : Variable → Bool) :
    List (Octets × Variable) :=
  let vars := vars.filter fun entry => test entry.2
  (HostDisk.inOrder (vars.map (·.1))).filterMap fun name =>
    (vars.lookup name).map fun entry => (name, entry)

def madeNames : List String := [
  "BASHOPTS", "BASH_ALIASES", "BASH_CMDS", "BASH_LINENO", "BASH_SOURCE", "DIRSTACK", "GROUPS",
  "SHELLOPTS"
]

def everyVariable : Sh (List (Octets × Variable)) := do
  go madeNames ((← get).allVars.filter fun entry => isName entry.1)
where
  go : List String → List (Octets × Variable) → Sh (List (Octets × Variable))
    | [], vars => pure vars
    | name :: rest, vars => do
        let name := name.toList
        let old := (vars.lookup name).getD {}
        match ← made? name with
        | some held =>
            -- Lists that belong to the shell look empty.
            let held := if name = "DIRSTACK".toList || name = "GROUPS".toList then .list [] true else held
            go rest (Assoc.set name { old with held } vars)
        | none => go rest vars

def isFixed (name : Octets) : Bool :=
  ["BASHOPTS", "SHELLOPTS"].contains (String.ofList name)

def withFixed (vars : List (Octets × Variable)) : List (Octets × Variable) :=
  vars.map fun (name, entry) =>
    (name, if isFixed name then { entry with readOnly := true } else entry)

def showDeclarations (test : Variable → Bool) : Sh Nat := do
  let vars := sortedVars (withFixed (← everyVariable)) test
  print (vars.flatMap fun (name, entry) => declaration name entry ++ ['\n'])

def assignments : Sh Octets := do
  let vars := sortedVars (← everyVariable) fun entry =>
    match entry.held with
    | .nothing | .list _ false | .table _ false => false
    | _ => true
  return vars.flatMap fun (name, entry) =>
    name ++ '=' :: (match entry.held with
      | .text text => valueForm text
      | held => itemsForm held) ++ ['\n']

def functionLine (name : Octets) (function : Function) : Octets :=
  "declare -f".toList ++ (if function.readOnly then ['r'] else []) ++
    (if function.traced then ['t'] else []) ++ (if function.exported then ['x'] else []) ++
    ' ' :: name ++ ['\n']

def sortedFunctions (functions : List (Octets × Function)) : List (Octets × Function) :=
  (HostDisk.inOrder (functions.map (·.1))).filterMap fun name =>
    (functions.lookup name).map fun function => (name, function)

def showFunctions (short : Bool) (test : Function → Bool) : Sh Nat := do
  let state ← get
  print ((sortedFunctions state.functions).flatMap fun (name, function) =>
    if !test function then []
    else
      let marked := function.exported || function.readOnly || function.traced
      (if short then [] else functionText state.documents name function.body ++ ['\n']) ++
        (if short || marked then functionLine name function else []))

structure Marks where
  on : List Char := []
  off : List Char := []

def Marks.apply (marks : Marks) (entry : Variable) : Variable :=
  let flag (letter : Char) (old : Bool) : Bool :=
    if marks.on.contains letter then true else if marks.off.contains letter then false else old
  let change? : Option (Option CaseChange × Bool) :=
    let asked := marks.on.filter fun letter => letter == 'l' || letter == 'u' || letter == 'c'
    match asked with
    | ['l'] => some (some .lower, false)
    | ['u'] => some (some .upper, false)
    | ['c'] => some (some .upper, true)
    | [] =>
        let dropped := match entry.casing with
          | some .lower => marks.off.contains 'l'
          | some .upper => if entry.capital then marks.off.contains 'c' else marks.off.contains 'u'
          | _ => false
        if dropped then some (none, false) else none
    | _ => some (none, false)
  let (casing, capital) := change?.getD (entry.casing, entry.capital)
  { entry with
    exported := flag 'x' entry.exported
    integer := flag 'i' entry.integer
    traced := flag 't' entry.traced
    casing
    capital }

def asList : Held → Held
  | .nothing => .list [] false
  | .text text => .list [(0, text)] true
  | held => held

def asTable : Held → Held
  | .nothing => .table [] false
  | .text text => .table [(['0'], text)] true
  | held => held

def elementsOf (kit : Kit) (name value : Octets) : Sh (Option (List Element)) := do
  match nextCommand { text := name ++ '=' :: value, next := (← get).nextDocument } with
  | .command (.simple [(_, word)] [] [] _) _ =>
      match binding? word with
      | some (_, [.elements items]) => do return some (← expandElements kit.expander items)
      | _ => return none
  | _ => return none

/-- A variable of the function that is being run. It comes with the value of a variable of the command
that called the function. None if it cannot be. -/
def ownVariable (inherits : Bool) (name : Octets) : Sh (Option Variable) := do
  let state ← get
  match state.own? name with
  | some entry => return some entry
  | none => do
      let outer := state.stored? name
      let locked := match state.global? name, outer with
        | some { readOnly := true, .. }, some { readOnly := true, .. } => true
        | _, _ => false
      if locked then
        Sh.complainAs (String.ofList name ++ ": readonly variable")
        return none
      else
        let outer := outer.getD {}
        let entry : Variable := if inherits || state.does "localvar_inherit"
          then { outer with readOnly := false } else { exported := outer.exported }
        modify fun state => state.putOwn name entry
        return some entry

structure Declaring where
  marks : Marks := {}
  own : Bool := false
  everywhere : Bool := false
  inherits : Bool := false
  plain : Bool := false

def putDeclared (own everywhere : Bool) (name : Octets) (entry : Variable) : Sh Unit :=
  modify fun state =>
    if own then state.putOwn name entry
    else if everywhere then state.putGlobal name entry
    else state.putVariable name entry

def declareOne (kit : Kit) (declaring : Declaring) (operand : Operand) : Sh Nat := do
  let named := Named.ofText operand.text
  let marks := declaring.marks
  let refuse (message : String) : Sh Nat := do
    Sh.complainAs message
    return 1
  let asReference := marks.on.contains 'n'
  let shown := String.ofList named.name
  if asReference && (named.subscript.isSome || marks.on.contains 'a' || marks.on.contains 'A') then
    refuse (shown ++ ": reference variable cannot be an array")
  else if asReference && named.value = some named.name && !(← get).inFunction then
    refuse (shown ++ ": nameref variable self references not allowed")
  else if asReference && (match named.value with
      | some value => !value.isEmpty && (referenceOf? value).isNone
      | none => false) then
    refuse ("\x60" ++ String.ofList (named.value.getD []) ++
      "': invalid variable name for name reference")
  else if !isName named.name then do
    invalidName operand.text
    return 1
  else do
    if asReference && named.value = some named.name then
      Sh.complainAs ("warning: " ++ shown ++ ": circular name reference")
    let unreferenced := asReference || marks.off.contains 'n'
    let state ← get
    let own := state.inFunction && declaring.own && !declaring.everywhere
    let name := if unreferenced || own then named.name else state.resolve named.name
    let before ←
      if own then ownVariable declaring.inherits name
      else if declaring.everywhere then pure (some ((state.global? name).getD {}))
      else pure (some ((state.stored? name).getD {}))
    match before with
    | none => return 1
    | some entry =>
        let assigned := named.value.isSome || operand.items.isSome
        if entry.readOnly && (marks.off.contains 'r' || assigned) then
          if declaring.plain then Sh.complain (String.ofList name ++ ": readonly variable")
          else Sh.complainAs (String.ofList name ++ ": readonly variable")
          return 1
        else if (marks.off.contains 'a' && entry.held.isList) ||
            (marks.off.contains 'A' && entry.held.isTable) then
          refuse (String.ofList name ++ ": cannot destroy array variables in this way")
        else if marks.on.contains 'a' && entry.held.isTable then
          refuse (String.ofList name ++ ": cannot convert associative to indexed array")
        else if marks.on.contains 'A' && entry.held.isList then
          refuse (String.ofList name ++ ": cannot convert indexed to associative array")
        else do
          let held :=
            if marks.on.contains 'A' then asTable entry.held
            else if marks.on.contains 'a' || named.subscript.isSome then asList entry.held
            else entry.held
          let entry := { marks.apply entry with held }
          if asReference then
            let held := match named.value with
              | some value => Held.text value
              | none => entry.held
            putDeclared own declaring.everywhere name { entry with held, reference := true }
            return 0
          else
            let entry := if marks.off.contains 'n' then { entry with reference := false } else entry
            putDeclared own declaring.everywhere name entry
            -- What is for all is reached past the variables of functions.
            let status ← if declaring.everywhere then outside (assign name named operand.items)
              else assign name named operand.items
            if marks.on.contains 'r' then
              modify fun state =>
                let entry := (if declaring.everywhere then state.global? name else state.stored? name).getD {}
                if declaring.everywhere then state.putGlobal name { entry with readOnly := true }
                else state.putVariable name { entry with readOnly := true }
            return status
where
  outside (body : Sh Nat) : Sh Nat := do
    let inner := (← get).scopes.dropLast
    modify fun state => { state with scopes := state.scopes.drop inner.length }
    let result ← Sh.attempt body
    modify fun state => { state with scopes := inner ++ state.scopes }
    match result with
    | .ok status => return status
    | .error jump => throw jump
  assign (name : Octets) (named : Named) (items : Option (List Element)) : Sh Nat := do
    match items, named.subscript, named.value with
    | some items, _, _ => do
        setItems name named.adds items
        return 0
    | none, some subscript, some value => do
        setElement name subscript subscript named.adds value
        return 0
    | none, none, some value => do
        let held := (((← get).stored? name).map (·.held)).getD .nothing
        let compound := (held.isList || held.isTable) && value.head? = some '(' &&
          value.getLast? = some ')'
        match ← (if compound then elementsOf kit name value else pure none) with
        | some elements => setItems name named.adds elements
        | none => setText name named.adds value
        return 0
    | none, _, none => return 0

def marksOf (options : Options) : Marks :=
  let letters (sign : Char) : List Char :=
    (options.given.filter fun option => option.1 == sign).map (·.2.1)
  let among (letter : Char) : Bool := "aAilnrtuxc".toList.contains letter
  let casing (letter : Char) : Bool := "luc".toList.contains letter
  let on := ((letters '-').filter among).eraseDups
  let off := ((letters '+').filter among).eraseDups
  -- Two ways of changing letters cancel each other.
  let ways := on.filter casing
  if 1 < ways.length then
    { on := on.filter fun letter => !casing letter, off := off ++ ['l', 'u', 'c'] }
  else { on, off }

def hasMarks (marks : Marks) (entry : Variable) : Bool :=
  marks.on.all fun letter =>
    match letter with
    | 'a' => entry.held.isList
    | 'A' => entry.held.isTable
    | 'i' => entry.integer
    | 'n' => entry.reference
    | 'r' => entry.readOnly
    | 't' => entry.traced
    | 'x' => entry.exported
    | 'l' => entry.casing == some .lower
    | 'u' => entry.casing == some .upper && !entry.capital
    | _ => entry.capital

def showOne (isOwn : Bool) (name : Octets) : Sh Nat := do
  let state ← get
  let stored := if isOwn then state.own? name else state.stored? name
  let entry ←
    match ← (if isOwn then pure none else made? name) with
    | some held => pure (some { (stored.getD {}) with held, readOnly := isFixed name })
    | none => pure stored
  match entry with
  | some entry => print (declaration name entry ++ ['\n'])
  | none => do
      Sh.complainAs (String.ofList name ++ ": not found")
      return 1

def declareFunctions (short : Bool) (marks : Marks) (operands : List Operand) : Sh Nat :=
  eachOf operands fun operand => do
    let named := Named.ofText operand.text
    if named.value.isSome then
      Sh.complainAs "cannot use \x60-f' to make functions"
      return 1
    else
      let name := operand.text
      let state ← get
      match state.functions.lookup name with
      | none => return 1
      | some function =>
          if marks.on.isEmpty && marks.off.isEmpty then
            print ((if short then name else functionText state.documents name function.body) ++ ['\n'])
          else if function.readOnly && marks.off.contains 'r' then
            Sh.complainAs (String.ofList name ++ ": readonly function")
            return 1
          else
            let function := { function with
              readOnly := function.readOnly || marks.on.contains 'r'
              exported := (function.exported && !marks.off.contains 'x') || marks.on.contains 'x'
              traced := (function.traced && !marks.off.contains 't') || marks.on.contains 't' }
            modify fun state => { state with functions := Assoc.set name function state.functions }
            return 0

def declareWith (isLocal : Bool) : Builtin := fun kit _ operands => do
  if isLocal && !(← get).inFunction then
    Sh.complainAs "can only be used in a function"
    return 1
  withOptions "acfgilnprtuxAFGI" true operands fun options => do
    let marks := marksOf options
    let short := options.has 'F'
    let functions := short || options.has 'f'
    let shows := options.has 'p'
    match options.operands with
    | [] =>
        if isLocal then
          let own := (((← get).scopes.dropLast.find? fun scope => !scope.passing).map (·.vars)).getD []
          print ((sortedVars own fun _ => true).flatMap fun (name, entry) =>
            declaration name entry ++ ['\n'])
        else if functions then showFunctions short fun function =>
          (!marks.on.contains 'r' || function.readOnly) &&
            (!marks.on.contains 'x' || function.exported)
        else if shows || !marks.on.isEmpty then showDeclarations (hasMarks marks)
        else do
          let _ ← print (← assignments)
          showFunctions false fun _ => true
    | operands =>
        if functions then declareFunctions short marks operands
        else if shows then eachOf operands fun operand => showOne isLocal operand.text
        else
          eachOf operands (declareOne kit {
            marks
            own := true
            everywhere := options.has 'g'
            inherits := options.has 'I' })

def markWith (letter : Char) : Builtin := fun kit _ operands =>
  withOptions "aAfnp" false operands fun options => do
    let undo := options.has 'n' && letter == 'x'
    let functions := options.has 'f'
    match options.operands with
    | [] =>
        if functions then showFunctions false fun function =>
          if letter == 'x' then function.exported else function.readOnly
        else showDeclarations fun entry =>
          (if letter == 'x' then entry.exported else entry.readOnly) &&
            (!options.has 'a' || entry.held.isList) && (!options.has 'A' || entry.held.isTable)
    | operands =>
        eachOf operands fun operand =>
          if functions then markFunction undo operand.text
          else
            let kinds := (if options.has 'a' then ['a'] else []) ++ (if options.has 'A' then ['A'] else [])
            let named := Named.ofText operand.text
            if named.subscript.isSome && operand.items.isNone then do
              invalidName operand.text
              return 1
            else
              declareOne kit {
                marks := if undo then { on := kinds, off := [letter] } else { on := letter :: kinds }
                plain := true } operand
where
  markFunction (undo : Bool) (name : Octets) : Sh Nat := do
    match (← get).functions.lookup name with
    | none => do
        Sh.complainAs (String.ofList name ++ ": not a function")
        return 1
    | some function => do
        let function := if letter == 'x' then { function with exported := !undo }
          else { function with readOnly := true }
        modify fun state => { state with functions := Assoc.set name function state.functions }
        return 0

def unsetElement (name subscript : Octets) : Sh Nat := do
  let name := (← get).resolve name
  match (← get).stored? name with
  | none => return 0
  | some entry =>
      if entry.readOnly then
        Sh.complainAs (String.ofList name ++ ": cannot unset: readonly variable")
        return 1
      else
        let put (held : Held) : Sh Nat := do
          modify fun state => state.putVariable name { entry with held }
          return 0
        match entry.held with
        | .table items isSet => put (.table (Assoc.erase (Arithmetic.keyOf subscript) items) isSet)
        | .list items isSet =>
            if subscript = ['@'] || subscript = ['*'] then put (.list [] true)
            else do
              match Arithmetic.indexOf? items (← computed subscript) with
              | some index => put (.list (items.filter fun item => item.1 != index) isSet)
              | none => do
                  Sh.complainAs ("[" ++ String.ofList subscript ++ "]: bad array subscript")
                  return 1
        | _ => do
            if subscript = ['@'] || subscript = ['*'] || (← computed subscript) = 0 then
              modify fun state => state.removeVariable name
              return 0
            else
              Sh.complainAs (String.ofList name ++ ": not an array variable")
              return 1

def unsetVariable (reference : Bool) (name : Octets) : Sh (Option Nat) := do
  let state ← get
  let name := if reference then name else state.resolve name
  match state.stored? name with
  | none => return none
  | some entry =>
      if entry.readOnly then
        Sh.complainAs (String.ofList name ++ ": cannot unset: readonly variable")
        return some 1
      else
        set (state.removeVariable name)
        return some 0

def unsetFunction (name : Octets) : Sh Nat := do
  match (← get).functions.lookup name with
  | none => return 0
  | some function =>
      if function.readOnly then
        Sh.complainAs (String.ofList name ++ ": cannot unset: readonly function")
        return 1
      else
        modify fun state => { state with functions := Assoc.erase name state.functions }
        return 0

def unset : Builtin := fun _ _ operands =>
  withOptions "fnv" false operands fun options => do
    let functions := options.has 'f'
    let onlyVariables := options.has 'v' || options.has 'n'
    if functions && options.has 'v' then
      Sh.complainAs "cannot simultaneously unset a function and a variable"
      return 1
    else
      eachOf options.texts fun text => do
        if functions then unsetFunction text
        else
          match referenceOf? text with
          | some (name, some subscript) => unsetElement name subscript
          | some (name, none) => do
              match ← unsetVariable (options.has 'n') name with
              | some status => return status
              | none => if onlyVariables then return 0 else unsetFunction name
          | none =>
              if onlyVariables then
                invalidName text
                return 1
              else unsetFunction text

end ArtifactPipeline.RichShell.Builtins
