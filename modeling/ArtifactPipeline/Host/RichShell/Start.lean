import ArtifactPipeline.Host.RichShell.Eval
import ArtifactPipeline.Host.Shell.Eval

set_option autoImplicit false

namespace ArtifactPipeline.RichShell

open Text (Octets)
open Shell (directoryFor)

def functionFrom? (next : Nat) (name value : Octets) : Option (Octets × Function × Source) :=
  let inside := (name.drop functionLead.length).take
    (name.length - functionLead.length - functionMark.length)
  if functionLead.isPrefixOf name && functionMark.reverse.isPrefixOf name.reverse &&
      "() \x7b".toList.isPrefixOf value then
    match nextCommand { text := inside ++ ' ' :: value, next } with
    | .command (.define name body) rest =>
        some (name, { body, source := "environment".toList, exported := true }, rest)
    | _ => none
  else none

def withFunctions (vars : List (Octets × Octets)) (state : State) : State :=
  vars.foldl (fun state (name, value) =>
    match functionFrom? state.nextDocument name value with
    | some (name, function, rest) =>
        { state with
          functions := Assoc.set name function state.functions
          documents := state.documents ++ rest.documents
          nextDocument := rest.next }
    | none => state) state

def isInheritedFunction (entry : Octets × Octets) : Bool :=
  functionLead.isPrefixOf entry.1 && "() \x7b".toList.isPrefixOf entry.2

def version : List String :=
  ["5", "2", "21", "1", "release", "x86_64-pc-linux-gnu"]

def levelFor (inherited : Option Octets) : Int :=
  let level := ((inherited.bind Builtins.integer?).getD 0) + 1
  if level < 0 then 0 else if 1000 ≤ level then 1 else level

def usualHabits : List String := [
  "checkwinsize", "cmdhist", "complete_fullquote", "extquote", "force_fignore", "globasciiranges",
  "globskipdots", "hostcomplete", "interactive_comments", "patsub_replacement", "progcomp",
  "promptvars", "sourcepath"]

def ownPath (scene : Scene) (call : Tools.Call) (directory : Octets) : Octets :=
  if call.name.head? = some '/' then call.name
  else if call.name.contains '/' then directory ++ '/' :: call.name
  else
    let search := (call.vars.lookup "PATH".toList).getD standardPath
    ((Tools.candidates search call.name).find? (Builtins.isProgram scene)).getD call.name

def startState (call : Tools.Call) (scene : Scene) : State :=
  let directory := directoryFor scene (call.vars.lookup "PWD".toList)
  let inherited := (call.vars.filter fun entry =>
      !isInheritedFunction entry && entry.1 != "IFS".toList && entry.1 != ['_']).map
    fun (name, value) => (name, ({ held := .text value, exported := true } : Variable))
  let put (name : String) (entry : Variable) (state : State) : State :=
    state.putVariable name.toList entry
  let preset (name value : String) (state : State) : State :=
    if (state.stored? name.toList).isSome then state
    else put name { held := .text value.toList } state
  let fixed (name value : String) : State → State :=
    put name { held := .text value.toList, readOnly := true, integer := true }
  let state : State := {
    scopes := [{ vars := inherited }]
    name := call.name
    title := call.name
    source := call.name
    process := scene.self
    directory
    habits := usualHabits
    started := scene.disk.clock
    seed := scene.disk.clock % 2147483647 + scene.self
    deaf := scene.me.ignored
    lastWord := (call.vars.lookup ['_']).getD call.name
  }
  let own := String.ofList (ownPath scene call directory)
  let level := String.ofList (integerText (levelFor (call.vars.lookup "SHLVL".toList)))
  let presets : List (String × String) := [
    ("BASH_LOADABLES_PATH",
      "/usr/local/lib/bash:/usr/lib/bash:/opt/local/lib/bash:/usr/pkg/lib/bash:/opt/pkg/lib/bash:."),
    ("BASH_VERSION", "5.2.21(1)-release"),
    ("HOSTNAME", "localhost"),
    ("HOSTTYPE", "x86_64"),
    ("MACHTYPE", "x86_64-pc-linux-gnu"),
    ("OPTERR", "1"),
    ("OSTYPE", "linux-gnu"),
    ("PATH", String.ofList standardPath),
    ("PS4", "+ "),
    ("SHELL", "/bin/bash"),
    ("TERM", "dumb")]
  let state := presets.foldl (fun state (name, value) => preset name value state) state
  let state := put "BASH" { held := .text own.toList } state
  let state := put "BASH_VERSINFO" { held := listOf (version.map String.toList), readOnly := true } state
  let state := put "IFS" { held := .text " \t\n".toList } state
  let state := put "OPTIND" { held := .text ['1'], integer := true } state
  let state := fixed "EUID" "0" (fixed "UID" "0" (fixed "PPID" "1" state))
  let state := put "SHLVL" { held := .text level.toList, exported := true } state
  let state := put "PWD" { held := .text directory, exported := true } state
  let old := (call.vars.lookup "OLDPWD".toList).filter fun path =>
    match scene.stat path with
    | .ok ⟨_, _, .dir _ _⟩ => true
    | _ => false
  let state := put "OLDPWD"
    { held := (old.map Held.text).getD .nothing, exported := true } state
  withFunctions call.vars state

structure Request where
  asText : Bool := false
  fromInput : Bool := false
  version : Bool := false
  help : Bool := false
  args : List Octets := []

def longOptions : List String := [
  "debug", "debugger", "dump-po-strings", "dump-strings", "help", "init-file", "login", "noediting",
  "noprofile", "norc", "posix", "pretty-print", "rcfile", "restricted", "verbose", "version"]

def optionHelp : Octets :=
  ("Usage:\tbash [GNU long option] [option] ...\n" ++
    "\tbash [GNU long option] [option] script-file ...\nGNU long options:\n").toList ++
    longOptions.flatMap (fun name => ("\t--" ++ name ++ "\n").toList) ++
    ("Shell options:\n\t-ilrsD or -c command or -O shopt_option\t\t(invocation only)\n" ++
      "\t-abefhkmnptuvxBCEHPT or -o option\n").toList

def refuseStart {α : Type} (message : String) : Sh α := do
  Sh.say 2 ((← get).name ++ ": ".toList ++ message.toList ++ ['\n'])
  Sh.leave 2

def refuseOption {α : Type} (text : Octets) : Sh α := do
  Sh.say 2 ((← get).name ++ ": ".toList ++ text ++ ": invalid option\n".toList ++ optionHelp)
  Sh.leave 2

def readLong : List Octets → Request → Sh Request
  | [], request => pure { request with args := [] }
  | text :: rest, request => do
      let word := if "--".toList.isPrefixOf text then text.drop 2 else text.drop 1
      let isLong := text.head? = some '-' && !word.isEmpty && text != ['-', '-'] &&
        longOptions.contains (String.ofList word)
      if !isLong then
        if "--".toList.isPrefixOf text && 2 < text.length then refuseOption text
        else return { request with args := text :: rest }
      else
        match String.ofList word with
        | "version" => readLong rest { request with version := true }
        | "help" => readLong rest { request with help := true }
        | "posix" => do
            let _ ← Builtins.switchNamed true "posix".toList
            readLong rest request
        | "verbose" => do
            Builtins.switch true 'v'
            readLong rest request
        | "rcfile" | "init-file" =>
            match rest with
            | _ :: rest => readLong rest request
            | [] => refuseStart (String.ofList text ++ ": option requires an argument")
        | _ => readLong rest request

def readShort : Nat → Request → Sh Request
  | 0, request => pure request
  | fuel + 1, request =>
      match request.args with
      | ['-'] :: rest | ['-', '-'] :: rest => pure { request with args := rest }
      | (sign :: c :: letters) :: rest => do
          if sign == '-' || sign == '+' then
            readShort fuel (← cluster (sign == '-') (sign :: c :: letters) (c :: letters)
              { request with args := rest })
          else return request
      | _ => pure request
where
  cluster (value : Bool) (text : Octets) : Octets → Request → Sh Request
    | [], request => pure request
    | 'o' :: letters, request =>
        match request.args with
        | name :: rest => do
            if ← Builtins.switchNamed value name then cluster value text letters { request with args := rest }
            else
              let state ← get
              Sh.say 2 (state.name ++ ": line 0: ".toList ++ state.name ++ ": ".toList ++ name ++
                ": invalid option name\n".toList)
              Sh.leave 2
        | [] => do
            Builtins.showOptions (!value)
            cluster value text letters request
    | 'O' :: letters, request =>
        match request.args with
        | name :: rest => do
            if Builtins.habitNames.contains (String.ofList name) then
              Builtins.switchHabit value (String.ofList name)
              cluster value text letters { request with args := rest }
            else
              let state ← get
              Sh.say 2 (state.name ++ ": line 0: ".toList ++ name ++
                ": invalid shell option name\n".toList)
              Sh.leave 2
        | [] => do
            let state ← get
            let _ ← Builtins.print (Builtins.habitNames.flatMap fun name =>
              if value then Builtins.habitLine name (state.does name)
              else Builtins.habitCommand name (state.does name))
            cluster value text letters request
    | letter :: letters, request => do
        if letter == 'c' then cluster value text letters { request with asText := true }
        else if letter == 's' then cluster value text letters { request with fromInput := true }
        else if ['i', 'l', 'r', 'D'].contains letter then cluster value text letters request
        else if Builtins.optionLetters.contains letter then
          Builtins.switch value letter
          cluster value text letters request
        else refuseOption (text.take 1 ++ [letter])

def runInput (kit : Kit) : Nat → Octets → Nat → Sh Unit
  | 0, _, _ => pure ()
  | fuel + 1, held, line => do
      let taken ← (Builtins.takeIn { raw := true } Chore.readLimit {} : Chore _)
      let text := held ++ taken.chars.reverse.map (·.1) ++ if taken.complete then ['\n'] else []
      let state ← get
      let source : Source := {
        text
        line
        next := state.nextDocument
        aliases := if state.does "expand_aliases" then state.aliases else []
        grouped := state.does "extglob" }
      let slashes := ((text.dropLast).reverse.takeWhile (· == '\\')).length
      let waits := taken.complete && (slashes % 2 == 1 ||
        match nextCommand source with
        | .fault fault => fault.unfinished
        | .command _ rest => !rest.openDocuments.isEmpty
        | .done _ => false)
      if waits then runInput kit fuel text line
      else do
        let _ ← runSource kit {} "" (text.length + 2) source
        let failed := match nextCommand source with
          | .fault _ => true
          | _ => false
        if failed then Sh.leave 2
        else if taken.complete then
          runInput kit fuel [] (line + (text.filter (· == '\n')).length)

def runPreparation (kit : Kit) : Sh Unit := do
  if let some written := (← get).valueOf? "BASH_ENV" then
    if !written.isEmpty then
      let path ← expandText kit.expander (piecesOfText written)
      if ← Sh.scene fun scene => Builtins.isFile scene path then
        match ← (Chore.readFile path : Chore _) with
        | .error _ => pure ()
        | .ok text => do
            let outer ← get
            modify fun state => { state with title := path }
            let _ ← Sh.attempt (runText kit {} "" 1 text)
            modify fun state => { state with title := outer.title, line := outer.line }

def scriptPath (name : Octets) : Sh Octets := do
  if name.contains '/' || (← Sh.scene fun scene => (scene.stat name).isOk) then return name
  else
    let paths ← Builtins.pathsOf name
    return ((← Sh.scene fun scene => paths.find? (Builtins.isFile scene)).getD name)

def runFile (kit : Kit) (path : Octets) (args : List Octets) : Sh Unit := do
  let own := (← get).name
  let refuse (message : String) (status : Nat) : Sh Unit := do
    Sh.say 2 (own ++ ": ".toList ++ path ++ ": ".toList ++ message.toList ++ ['\n'])
    Sh.leave status
  let found ← scriptPath path
  match ← Sh.scene fun scene => scene.stat found with
  | .ok ⟨_, _, .dir _ _⟩ => do
      Sh.say 2 (path ++ ": ".toList)
      refuse "Is a directory" 126
  | _ =>
      match ← (Chore.readFile found : Chore _) with
      | .error fault => refuse fault.message (if fault = .missing then 127 else 126)
      | .ok text =>
          modify fun state => { state with name := path, title := path, source := path, args }
          if isBinary text then do
            Sh.say 2 (path ++ ": ".toList)
            refuse "cannot execute binary file" 126
          else do
            runPreparation kit
            runText kit {} "" 1 text

def runRequest (kit : Kit) (args : List Octets) : Sh Unit := do
  let request ← readLong args {}
  let request ← readShort (request.args.length + 1) request
  if request.version then
    Sh.say 1 ("GNU bash, version 5.2.21(1)-release (x86_64-pc-linux-gnu)\n".toList)
    Sh.leave 0
  else if request.help then
    Sh.say 1 optionHelp
    Sh.leave 0
  else if request.asText then
    match request.args with
    | [] => refuseStart "-c: option requires an argument"
    | text :: rest => do
        modify fun state =>
          let name := rest.headD state.name
          let state := state.putVariable "BASH_EXECUTION_STRING".toList { held := .text text }
          { state with
            name
            title := name
            source := "environment".toList
            args := rest.drop 1
            fromFile := false
            isScript := false }
        runPreparation kit
        runText kit { last := true } "-c" 1 text
  else
    match request.args with
    | path :: rest =>
        if request.fromInput then do
          modify fun state => { state with args := request.args }
          readInput kit
        else runFile kit path rest
    | [] => readInput kit
where
  readInput (kit : Kit) : Sh Unit := do
    modify fun state => { state with source := "main".toList, isScript := false }
    runPreparation kit
    runInput kit Chore.readLimit [] 1

def shell (exec : Tools.Exec) : Tools.Tool := fun call => do
  let scene ← Chore.look id
  let kit := kitFor exec
  conclude kit (runRequest kit call.args) (startState call scene)

end ArtifactPipeline.RichShell
