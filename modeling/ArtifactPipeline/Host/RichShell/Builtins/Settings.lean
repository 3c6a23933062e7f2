import ArtifactPipeline.Host.RichShell.Builtins.Variables
import ArtifactPipeline.Host.Shell.Builtins

set_option autoImplicit false

namespace ArtifactPipeline.RichShell.Builtins

open Text (Octets)
open Shell (isName)
open Shell.Builtins (OptionFound)

def habitNames : List String := [
  "autocd", "assoc_expand_once", "cdable_vars", "cdspell", "checkhash", "checkjobs", "checkwinsize",
  "cmdhist", "compat31", "compat32", "compat40", "compat41", "compat42", "compat43", "compat44",
  "complete_fullquote", "direxpand", "dirspell", "dotglob", "execfail", "expand_aliases", "extdebug",
  "extglob", "extquote", "failglob", "force_fignore", "globasciiranges", "globskipdots", "globstar",
  "gnu_errfmt", "histappend", "histreedit", "histverify", "hostcomplete", "huponexit",
  "inherit_errexit", "interactive_comments", "lastpipe", "lithist", "localvar_inherit",
  "localvar_unset", "login_shell", "mailwarn", "no_empty_cmd_completion", "nocaseglob",
  "nocasematch", "noexpand_translation", "nullglob", "patsub_replacement", "progcomp",
  "progcomp_alias", "promptvars", "restricted_shell", "shift_verbose", "sourcepath",
  "varredir_close", "xpg_echo"
]

def onOff (value : Bool) : Octets :=
  (if value then "on" else "off").toList

def settingLine (width : Nat) (name : String) (value : Bool) : Octets :=
  Tools.padRight width name.toList ++ '\t' :: onOff value ++ ['\n']

def settingCommand (name : String) (value : Bool) : Octets :=
  ("set " ++ (if value then "-o " else "+o ") ++ name ++ "\n").toList

def showOptions (asCommands : Bool) : Sh Unit := do
  let state ← get
  let _ ← print (optionNames.flatMap fun option =>
    let value := state.optionIsOn option
    if asCommands then settingCommand option.1 value else settingLine 15 option.1 value)

def optionLetters : List Char :=
  "abefhkmnptuvxBCEHPT".toList

def switch (value : Bool) (letter : Char) : Sh Unit :=
  modify fun state => { state with
    options := optionLetters.filter fun other =>
      if other == letter then value else state.options.contains other }

def switchNamed (value : Bool) (name : Octets) : Sh Bool := do
  let name := String.ofList name
  match optionNames.lookup name with
  | none => return false
  | some (some letter) => do
      switch value letter
      return true
  | some none => do
      modify fun state => { state with
        named := if value then (if state.named.contains name then state.named else name :: state.named)
          else state.named.filter fun other => other != name }
      return true

inductive Taken where
  | nothing
  | arguments (args : List Octets)
  | wrong (status : Nat)

def setOptions : Nat → List Octets → Sh Taken
  | 0, _ => pure .nothing
  | fuel + 1, args =>
      match args with
      | [] => pure .nothing
      | ['-'] :: rest => do
          switch false 'x'
          switch false 'v'
          return if rest.isEmpty then .nothing else .arguments rest
      | ['-', '-'] :: rest => return .arguments rest
      | (sign :: c :: letters) :: rest => do
          if sign == '-' || sign == '+' then
            match ← cluster (sign == '-') (c :: letters) rest with
            | .ok rest => setOptions fuel rest
            | .error status => return .wrong status
          else return .arguments args
      | args => return .arguments args
where
  cluster (value : Bool) : Octets → List Octets → Sh (Except Nat (List Octets))
    | [], rest => pure (.ok rest)
    | 'o' :: letters, rest =>
        match rest with
        | name :: after =>
            if name.head? = some '-' || name.head? = some '+' then do
              showOptions (!value)
              cluster value letters rest
            else do
              if ← switchNamed value name then cluster value letters after
              else
                Sh.complainAs (String.ofList name ++ ": invalid option name")
                return .error 2
        | [] => do
            showOptions (!value)
            cluster value letters []
    | letter :: letters, rest => do
        if optionLetters.contains letter then
          switch value letter
          cluster value letters rest
        else
          Sh.complainAs ((if value then "-" else "+") ++ letter.toString ++ ": invalid option")
          return .error (← tellUsage)

def set' : Builtin := onWords fun _ _ args => do
  if args.isEmpty then
    let _ ← print (← assignments)
    let state ← get
    print ((sortedFunctions state.functions).flatMap fun (name, function) =>
      functionText state.documents name function.body ++ ['\n'])
  else
    match ← setOptions (args.length + 1) args with
    | .nothing => return 0
    | .arguments args => do
        modify fun state => { state with args }
        return 0
    | .wrong status => return status

def habitLine (name : String) (value : Bool) : Octets :=
  settingLine 15 name value

def habitCommand (name : String) (value : Bool) : Octets :=
  ("shopt " ++ (if value then "-s " else "-u ") ++ name ++ "\n").toList

def switchHabit (value : Bool) (name : String) : Sh Unit :=
  modify fun state => { state with
    habits := habitNames.filter fun other => if other = name then value else state.habits.contains other }

def shopt : Builtin := fun _ _ operands =>
  withOptions "psuoq" false operands fun options => do
    let on := options.has 's'
    let off := options.has 'u'
    let quiet := options.has 'q'
    let asCommands := options.has 'p'
    let names := options.texts.map String.ofList
    if on && off then
      Sh.complainAs "cannot set and unset shell options simultaneously"
      return 1
    else
      let state ← get
      let asOptions := options.has 'o'
      let all : List (String × Bool) :=
        if asOptions then optionNames.map fun option => (option.1, state.optionIsOn option)
        else habitNames.map fun name => (name, state.does name)
      let shown (name : String) (value : Bool) : Octets :=
        if asOptions then
          (if asCommands then settingCommand name value else settingLine 15 name value)
        else if asCommands then habitCommand name value else habitLine name value
      let wrong (name : String) : Sh Nat := do
        Sh.complainAs (name ++ (if asOptions then ": invalid option name"
          else ": invalid shell option name"))
        return 1
      if names.isEmpty then
        if quiet then return 0
        else
          print ((all.filter fun (_, value) => if on then value else if off then !value else true).flatMap
            fun (name, value) => shown name value)
      else if on || off then
        eachOf names fun name => do
          if asOptions then
            if ← switchNamed on name.toList then return 0 else wrong name
          else if habitNames.contains name then
            switchHabit on name
            return 0
          else wrong name
      else
        eachOf names fun name => do
          match all.lookup name with
          | none => wrong name
          | some value => do
              if !quiet then
                let _ ← print (shown name value)
              return if value then 0 else 1

def nextOption (known : Octets) (args : List Octets) (index letters : Nat) : OptionFound :=
  let quiet := known.head? = some ':'
  let known := if quiet then known.drop 1 else known
  let word := args[index - 1]?.getD []
  let begun := letters != 0 && letters < word.length
  let text := if begun then word.drop letters
    else match word with
      | '-' :: c :: rest => if c == '-' && rest.isEmpty then [] else c :: rest
      | _ => []
  match text with
  | [] => { index := if word = ['-', '-'] then index + 1 else index, ended := true }
  | letter :: rest =>
      let next := if rest.isEmpty then index + 1 else index
      let taken := if rest.isEmpty then 0 else word.length - rest.length
      match (if letter == ':' then none else optionKind? known letter) with
      | none =>
          if quiet then { value := some [letter], index := next, letters := taken }
          else
            { index := next
              letters := taken
              complaint := "illegal option -- " ++ letter.toString }
      | some false => { letter, index := next, letters := taken }
      | some true =>
          if !rest.isEmpty then { letter, value := some rest, index := index + 1 }
          else
            match args[index]? with
            | some value => { letter, value := some value, index := index + 2 }
            | none =>
                if quiet then { letter := ':', value := some [letter], index := index + 1 }
                else
                  { index := index + 1
                    complaint := "option requires an argument -- " ++ letter.toString }

def getopts : Builtin := fun _ _ operands =>
  withOptions "" false operands fun options => do
    match options.texts with
    | known :: name :: own => do
        let state ← get
        let args := if own.isEmpty then state.args else own
        let told := ((integer? (state.valueOf "OPTIND")).getD 1).toNat
        let index := if told = 0 then 1 else told
        let letters := if told = state.optionIndex then state.optionLetters else 0
        let found := nextOption known args index letters
        let silent := (state.valueOf? "OPTERR") = some ['0']
        if !found.complaint.isEmpty && !silent then
          Sh.say 2 (state.name ++ ": ".toList ++ found.complaint.toList ++ ['\n'])
        setText "OPTIND".toList false (decimal found.index)
        modify fun state => { state with optionIndex := found.index, optionLetters := found.letters }
        match found.value with
        | some value => setText "OPTARG".toList false value
        | none => modify fun state => state.removeVariable "OPTARG".toList
        if !isName name then
          invalidName name
          return 1
        else
          let result ← Sh.attempt (setText name false [found.letter])
          modify fun state => { state with optionIndex := found.index, optionLetters := found.letters }
          match result with
          | .ok () => return if found.ended then 1 else 0
          | .error .dropped => return 2
          | .error jump => throw jump
    | _ => tellUsage

end ArtifactPipeline.RichShell.Builtins
