import ArtifactPipeline.Host.RichShell.Builtins.Processes
import ArtifactPipeline.Host.RichShell.Builtins.Settings

set_option autoImplicit false

namespace ArtifactPipeline.RichShell.Builtins

open Text (Octets)
open Shell (fieldText)

def notFound (text : Octets) : Sh Nat := do
  Sh.complainAs (String.ofList text ++ ": not found")
  return 1

def aliasLine (name text : Octets) : Octets :=
  "alias ".toList ++ (if name.head? = some '-' then "-- ".toList else []) ++
    name ++ '=' :: quotedForm text ++ ['\n']

def showAliases : Sh Nat := do
  let aliases := (← get).aliases
  print ((HostDisk.inOrder (aliases.map (·.1))).flatMap fun name =>
    aliasLine name ((aliases.lookup name).getD []))

def isAliasName (name : Octets) : Bool :=
  !name.any fun c => " \t\n;&|()<>'\"\\\x60$/".toList.contains c

def alias' : Builtin := fun _ _ operands =>
  withOptions "p" false operands fun options => do
    if options.has 'p' || options.texts.isEmpty then
      let _ ← showAliases
    eachOf options.texts fun text => do
      let name := text.takeWhile fun c => c != '='
      match name, text.drop name.length with
      | _ :: _, _ :: value => do
          if isAliasName name then
            modify fun state => { state with aliases := Assoc.set name value state.aliases }
            return 0
          else
            Sh.complainAs ("\x60" ++ String.ofList name ++ "': invalid alias name")
            return 1
      | _, _ => do
          match (← get).aliases.lookup text with
          | some value => print (aliasLine text value)
          | none => notFound text

def unalias : Builtin := fun _ _ operands =>
  withOptions "a" false operands fun options => do
    if options.has 'a' then
      modify fun state => { state with aliases := [] }
      return 0
    else if options.texts.isEmpty then tellUsage
    else
      eachOf options.texts fun text => do
        if ((← get).aliases.lookup text).isSome then
          modify fun state => { state with aliases := Assoc.erase text state.aliases }
          return 0
        else notFound text

def remember (name path : Octets) (hits : Nat) : Sh Unit :=
  modify fun state => { state with hashed := Assoc.set name (path, hits) state.hashed }

def isBuiltin (state : State) (name : Octets) : Bool :=
  (synopses.lookup (String.ofList name)).isSome && !state.disabled.contains name

def hash : Builtin := fun _ _ operands =>
  withOptions "lrp:dt" false operands fun options => do
    let texts := options.texts
    if options.has 'r' then modify fun state => { state with hashed := [] }
    let needed (letter : String) : Sh Nat := do
      Sh.complainAs ("-" ++ letter ++ ": option requires an argument")
      return 1
    if texts.isEmpty && options.has 't' then needed "t"
    else if texts.isEmpty && options.has 'd' then needed "d"
    else if texts.isEmpty then
      if options.has 'r' then return 0 else showAll (options.has 'l')
    else
      eachOf texts fun text => do
        let known := (← get).hashed.lookup text
        if options.has 't' then
          match known with
          | some (path, _) =>
              if options.has 'l' then print (command text path)
              else if texts.length = 1 then print (path ++ ['\n'])
              else print (text ++ '\t' :: path ++ ['\n'])
          | none => notFound text
        else if options.has 'd' then
          match known with
          | some _ => do
              modify fun state => { state with hashed := Assoc.erase text state.hashed }
              return 0
          | none => notFound text
        else
          match options.value? 'p' with
          | some path => do
              remember text path 0
              return 0
          | none => do
              let state ← get
              if text.contains '/' || isBuiltin state text || (state.functions.lookup text).isSome then
                return 0
              else
                match ← programsOf text with
                | path :: _ => do
                    remember text path 0
                    return 0
                | [] => notFound text
where
  command (name path : Octets) : Octets :=
    "builtin hash -p ".toList ++ path ++ ' ' :: name ++ ['\n']
  showAll (asCommands : Bool) : Sh Nat := do
    let entries := onShelves 256 (← get).hashed
    if entries.isEmpty then
      if asCommands then return 0 else print "hash: hash table empty\n".toList
    else
      print ((if asCommands then [] else "hits\tcommand\n".toList) ++
        entries.flatMap fun (name, path, hits) =>
          if asCommands then command name path
          else Tools.padLeft ' ' 4 (decimal hits) ++ '\t' :: path ++ ['\n'])

inductive Meaning where
  | shortcut (text : Octets)
  | keyword
  | function (function : Function)
  | builtin
  | hashed (path : Octets)
  | program (path : Octets)

def meaningsOf (functions : Bool) (name : Octets) : Sh (List Meaning) := do
  let state ← get
  let shortcut := if state.does "expand_aliases" then state.aliases.lookup name else none
  let function := if functions then state.functions.lookup name else none
  let programs ←
    if name.contains '/' then do
      pure (if ← Sh.scene fun scene => isProgram scene name then [name] else [])
    else programsOf name
  return shortcut.toList.map .shortcut ++ (if isKeyword name then [.keyword] else []) ++
    function.toList.map .function ++ (if isBuiltin state name then [.builtin] else []) ++
    programs.map .program

def meaningOf (functions : Bool) (name : Octets) : Sh (Option Meaning) := do
  match ← meaningsOf functions name with
  | [] => return ((← get).hashed.lookup name).map fun entry => .hashed entry.1
  | .program path :: _ =>
      match (← get).hashed.lookup name with
      | some (path, _) => return some (.hashed path)
      | none => return some (.program path)
  | meaning :: _ => return some meaning

inductive MeaningForm where
  | full
  | kind
  | path
  | reusable
  deriving DecidableEq, Repr

def meaningText (state : State) (form : MeaningForm) (name : Octets) (meaning : Meaning) : Octets :=
  let sentence (text : String) : Octets := name ++ ' ' :: text.toList ++ ['\n']
  match form, meaning with
  | .full, .shortcut text => name ++ " is aliased to \x60".toList ++ text ++ "'\n".toList
  | .full, .keyword => sentence "is a shell keyword"
  | .full, .function function =>
      sentence "is a function" ++ functionText state.documents name function.body ++ ['\n']
  | .full, .builtin =>
      sentence (if ["break", ":", ".", "continue", "eval", "exec", "exit", "export", "readonly", "return",
        "set", "shift", "source", "times", "trap", "unset"].contains (String.ofList name) &&
          state.hasNamed "posix" then "is a special shell builtin" else "is a shell builtin")
  | .full, .hashed path => name ++ " is hashed (".toList ++ path ++ ")\n".toList
  | .full, .program path => name ++ " is ".toList ++ path ++ ['\n']
  | .kind, .shortcut _ => "alias\n".toList
  | .kind, .keyword => "keyword\n".toList
  | .kind, .function _ => "function\n".toList
  | .kind, .builtin => "builtin\n".toList
  | .kind, _ => "file\n".toList
  | .path, .hashed path | .path, .program path => path ++ ['\n']
  | .path, _ => []
  | .reusable, .shortcut text => aliasLine name text
  | .reusable, .hashed path | .reusable, .program path => path ++ ['\n']
  | .reusable, _ => name ++ ['\n']

def isProgramMeaning : Meaning → Bool
  | .hashed _ | .program _ => true
  | _ => false

def type' : Builtin := fun _ _ operands =>
  withOptions "afptP" false operands fun options => do
    let form : MeaningForm := match options.lastOf? ['t', 'p', 'P'] with
      | some 't' => .kind
      | some _ => .path
      | none => .full
    let functions := !options.has 'f'
    eachOf options.texts fun name => do
      let forced := options.has 'P'
      let meanings ←
        if options.has 'a' then meaningsOf functions name
        else if forced then do
          let hashed := ((← get).hashed.lookup name).toList.map fun entry => Meaning.hashed entry.1
          let all ← meaningsOf functions name
          pure ((hashed ++ all.filter isProgramMeaning).take 1)
        else do pure (← meaningOf functions name).toList
      let meanings := if form = .path && (options.has 'a' || forced)
        then meanings.filter isProgramMeaning else meanings
      let state ← get
      let _ ← print (meanings.flatMap (meaningText state form name))
      if meanings.isEmpty then
        if form = .full then notFound name else return 1
      else return 0

def answer (long : Bool) (names : List Octets) : Sh Nat := do
  if names.isEmpty then return 0
  else go names 1
where
  go : List Octets → Nat → Sh Nat
    | [], status => pure status
    | name :: rest, status => do
        match ← meaningOf true name with
        | some meaning => do
            let state ← get
            let _ ← print (meaningText state (if long then .full else .reusable) name meaning)
            go rest 0
        | none => do
            if long then
              let _ ← notFound name
            go rest status

def specialNames : List String :=
  [".", ":", "break", "continue", "eval", "exec", "exit", "export", "readonly", "return", "set", "shift",
    "source", "times", "trap", "unset"]

def enable : Builtin := fun _ _ operands =>
  withOptions "adnpsf:" false operands fun options => do
    let state ← get
    let isOff (name : String) : Bool := state.disabled.contains name.toList
    match options.value? 'f' with
    | some path => do
        let shown := String.ofList path
        Sh.complainAs ("cannot open shared object " ++ shown ++ ": " ++ shown ++
          ": cannot open shared object file: No such file or directory")
        return 1
    | none =>
        match options.texts with
        | [] =>
            let names := (synopses.map (·.1)).filter fun name =>
              (!options.has 's' || specialNames.contains name) &&
                (options.has 'a' || isOff name == options.has 'n')
            print (names.flatMap fun name =>
              ((if isOff name then "enable -n " else "enable ") ++ name ++ "\n").toList)
        | texts => eachOf texts fun name => do
            if (synopses.lookup (String.ofList name)).isNone then
              complainOf name "not a shell builtin"
            else
              modify fun state => { state with
                disabled := (if options.has 'n' then [name] else []) ++
                  state.disabled.filter fun other => other != name }
              return 0

def startsWith (start text : Octets) : Bool :=
  start.isPrefixOf text

def filesFor (scene : Scene) (word : Octets) (dirsOnly : Bool) : List Octets :=
  let lead := ((word.reverse.dropWhile fun c => c != '/')).reverse
  let names := match scene.stat (if lead.isEmpty then ['.'] else lead) with
    | .ok ⟨spot, _, .dir _ _⟩ => scene.disk.namesIn spot
    | _ => []
  let paths := names.map fun name => lead ++ name
  paths.filter fun path =>
    startsWith word path && (!dirsOnly ||
      match scene.stat path with
      | .ok ⟨_, _, .dir _ _⟩ => true
      | _ => false)

def wordsOf (state : State) (scene : Scene) (kind : String) (word : Octets) : List Octets :=
  let ordered (names : List Octets) : List Octets :=
    (HostDisk.inOrder names).filter (startsWith word)
  let builtins := (synopses.map fun entry => entry.1.toList).filter (startsWith word)
  match kind with
  | "alias" => ordered (state.aliases.map (·.1))
  | "builtin" => builtins
  | "keyword" => (keywords.map String.toList).filter (startsWith word)
  | "function" => ordered (state.functions.map (·.1))
  | "variable" => ordered (state.allVars.map (·.1))
  | "arrayvar" => ordered ((state.allVars.filter fun entry =>
      entry.2.held.isList || entry.2.held.isTable).map (·.1))
  | "export" => ordered ((state.allVars.filter fun entry => entry.2.exported).map (·.1))
  | "file" => filesFor scene word false
  | "directory" => filesFor scene word true
  | "signal" => (occasionNames.map fun entry => (occasionTitle entry.1).toList).filter
      (startsWith word)
  | "setopt" => (optionNames.map fun entry => entry.1.toList).filter (startsWith word)
  | "shopt" => (habitNames.map String.toList).filter (startsWith word)
  | "enabled" => builtins.filter fun name => !state.disabled.contains name
  | "disabled" => builtins.filter fun name => state.disabled.contains name
  | "command" =>
      ordered (state.aliases.map (·.1)) ++ (keywords.map String.toList).filter (startsWith word) ++
        ordered (state.functions.map (·.1)) ++ builtins ++
        (candidatesIn state).flatMap fun dir =>
          (filesFor scene (dir ++ '/' :: word) false).map fun path => path.drop (dir.length + 1)
  | _ => []
where
  candidatesIn (state : State) : List Octets :=
    Text.splitOn ':' (state.valueOf "PATH")

def kindLetters : List (Char × String) := [
  ('a', "alias"), ('b', "builtin"), ('c', "command"), ('d', "directory"), ('e', "export"),
  ('f', "file"), ('k', "keyword"), ('v', "variable")]

def compgen : Builtin := fun _ _ operands =>
  withOptions "abcdefgjksuvo:A:G:W:F:C:X:P:S:" false operands fun options => do
    let state ← get
    let scene ← Sh.scene id
    let word := options.texts.headD []
    let kinds := options.given.flatMap fun (_, letter, value) =>
      if letter == 'A' then [String.ofList value] else (kindLetters.lookup letter).toList
    let separators := separators state
    let listed := match options.value? 'W' with
      | some text =>
          ((splitAtoms separators (atomsOf .inserted text)).map fieldText).filter (startsWith word)
      | none => []
    let found := kinds.flatMap (fun kind => wordsOf state scene kind word) ++ listed
    let found := match options.value? 'X' with
      | some filter =>
          let keeps := filter.head? = some '!'
          let pattern := if keeps then filter.drop 1 else filter
          let expression := patternOf (globStyle state "nocasematch") (pattern.map fun c => (c, false))
          found.filter fun text => Glob.fits expression text == keeps
      | none => found
    let before := (options.value? 'P').getD []
    let after := (options.value? 'S').getD []
    let _ ← print (found.flatMap fun text => before ++ text ++ after ++ ['\n'])
    return if found.isEmpty then 1 else 0

def help : Builtin := fun _ _ operands =>
  withOptions "dms" false operands fun options => do
    eachOf options.texts fun text => do
      let shown := String.ofList text
      match synopses.lookup shown with
      | some synopsis => print (shown ++ ": " ++ synopsis ++ "\n").toList
      | none => do
          Sh.complainAs ("no help topics match \x60" ++ shown ++ "'.  Try \x60help help' or \x60man -k " ++
            shown ++ "' or \x60info " ++ shown ++ "'.")
          return 1

def bind : Builtin := fun _ _ _ => do
  Sh.complainAs "warning: line editing not enabled"
  return 0

def history : Builtin := fun _ _ _ => pure 0

def recallLines : Builtin := fun _ _ operands =>
  withOptions "e:lnrs" false operands fun options => do
    if options.has 's' then
      Sh.complainAs "no command found"
      return 1
    else return 0

def complete : Builtin := fun _ _ operands =>
  withOptions "abcdefgjksuvprDEIo:A:G:W:F:C:X:P:S:" false operands fun options => do
    if options.has 'p' then eachOf options.texts fun text => do
      Sh.complainAs (String.ofList text ++ ": no completion specification")
      return 1
    else return 0

def compopt : Builtin := fun _ _ _ => do
  Sh.complainAs "not currently executing completion function"
  return 1

def logout : Builtin := fun _ _ _ => do
  Sh.complainAs "not login shell: use \x60exit'"
  return 1

end ArtifactPipeline.RichShell.Builtins
