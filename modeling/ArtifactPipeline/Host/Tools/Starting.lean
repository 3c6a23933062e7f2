import ArtifactPipeline.Host.Tools.Command
import ArtifactPipeline.Host.Tools.Printing

set_option autoImplicit false

namespace ArtifactPipeline.Tools

open Text (Octets)

def takeVars : List (Octets × Octets) → List Octets → List (Octets × Octets) × List Octets
  | vars, [] => (vars, [])
  | vars, word :: rest =>
      let name := word.takeWhile fun c => c != '='
      match word.drop name.length with
      | [] => (vars, word :: rest)
      | _ :: value => takeVars (Assoc.set name value vars) rest

namespace SplitText

structure State where
  words : List Octets := []
  word : Option Octets := none
  single : Bool := false
  double : Bool := false

def State.add (state : State) (text : Octets) : State :=
  { state with word := some (text.reverse ++ state.word.getD []) }

def State.endWord (state : State) : State :=
  match state.word with
  | none => state
  | some word => { state with words := state.words ++ [word.reverse], word := none }

def isSpace (c : Char) : Bool :=
  c == ' ' || ('\t' ≤ c && c ≤ '\r')

def reference? (text : Octets) : Option (Octets × Octets) :=
  match text with
  | '\x7b' :: rest =>
      let name := rest.takeWhile fun c => c.isAlphanum || c == '_'
      match name, rest.drop name.length with
      | c :: _, '\x7d' :: behind => if c.isDigit then none else some (name, behind)
      | _, _ => none
  | _ => none

def read (vars : List (Octets × Octets)) : Nat → State → Octets → Except String (List Octets)
  | 0, state, _ => .ok state.words
  | fuel + 1, state, text =>
      match text with
      | [] =>
          if state.single || state.double then .error "no terminating quote in -S string"
          else .ok state.endWord.words
      | c :: rest =>
          let keep (c : Char) (rest : Octets) := read vars fuel (state.add [c]) rest
          if c == '\'' && !state.double then
            read vars fuel { state.add [] with single := !state.single } rest
          else if c == '"' && !state.single then
            read vars fuel { state.add [] with double := !state.double } rest
          else if isSpace c && !state.single && !state.double then
            read vars fuel state.endWord rest
          else if c == '#' && state.word.isNone then .ok state.words
          else if c == '\\' && !(state.single &&
              rest.head? != some '\\' && rest.head? != some '\'') then
            match rest with
            | [] => .error "invalid backslash at end of string in -S"
            | d :: rest =>
                if "\"#$'\\".toList.contains d then keep d rest
                else if d == '_' then
                  if state.double then keep ' ' rest else read vars fuel state.endWord rest
                else if d == 'c' then
                  if state.double then
                    .error "'\\c' must not appear in double-quoted -S string"
                  else .ok state.endWord.words
                else
                  match simpleEscape? d with
                  | some char =>
                      if "fnrtv".toList.contains d then keep char rest
                      else .error ("invalid sequence '\\" ++ String.singleton d ++ "' in -S")
                  | none => .error ("invalid sequence '\\" ++ String.singleton d ++ "' in -S")
          else if c == '$' && !state.single then
            match reference? rest with
            | none =>
                .error ("only $\x7bVARNAME\x7d expansion is supported, error at: " ++
                  String.ofList (c :: rest))
            | some (name, rest) =>
                match vars.lookup name with
                | some value => read vars fuel (state.add value) rest
                | none => read vars fuel state rest
          else keep c rest

end SplitText

def withSplitText (vars : List (Octets × Octets)) :
    Nat → List Octets → Except String (List Octets)
  | 0, args => .ok args
  | fuel + 1, args =>
      match args with
      | [] => .ok []
      | arg :: rest =>
          let split (before : List Octets) (text : Octets) (rest : List Octets) :
              Except String (List Octets) := do
            let words ← SplitText.read vars (text.length + 1) {} text
            withSplitText vars fuel (before ++ words ++ rest)
          let goOn : Except String (List Octets) := do
            return arg :: (← withSplitText vars fuel rest)
          if "--split-string=".toList.isPrefixOf arg then split [] (arg.drop 15) rest
          else
            match arg, rest with
            | '-' :: '-' :: name, rest =>
                if name = "split-string".toList then
                  match rest with
                  | text :: rest => split [] text rest
                  | [] => goOn
                else if name.isEmpty then .ok (arg :: rest)
                else goOn
            | '-' :: letters, rest =>
                let before := letters.takeWhile fun c => "i0v".toList.contains c
                match letters.drop before.length, rest with
                | 'S' :: [], text :: rest =>
                    split (if before.isEmpty then [] else ['-' :: before]) text rest
                | 'S' :: c :: text, rest =>
                    split (if before.isEmpty then [] else ['-' :: before]) (c :: text) rest
                | ['u'], value :: rest | ['C'], value :: rest => do
                    return arg :: value :: (← withSplitText vars fuel rest)
                | _, _ => if letters.isEmpty then .ok (arg :: rest) else goOn
            | _, _ => .ok (arg :: rest)

def envOptions : OptionSet where
  flags := "i0vbdgl"
  valued := "uC"
  long := [("ignore-environment", 'i'), ("unset", 'u'), ("chdir", 'C'), ("null", '0'),
    ("debug", 'v')]
  strictOrder := true

def executing (words : List Octets) : Octets :=
  match words with
  | [] => []
  | name :: _ =>
      "executing: ".toList ++ name ++ ['\n'] ++
        (words.zip (List.range words.length)).flatMap fun (word, index) =>
          "   arg[".toList ++ decimal index ++ "]= ".toList ++ (quote word).toList ++ ['\n']

def runWithVars (exec : Exec) (call : Call) (given : Given) : Chore Nat := do
  let bare := given.has 'i' || given.operands.head? = some ['-']
  let operands := if given.operands.head? = some ['-'] then given.operands.drop 1
    else given.operands
  match (given.values 'u').find? fun name => name.isEmpty || name.contains '=' with
  | some name => do
      complain call.name ("cannot unset " ++ quote name ++ ": Invalid argument")
      return 125
  | none => do
      let start := if bare then [] else call.vars
      let kept := (given.values 'u').foldl (fun vars name => Assoc.erase name vars) start
      let (vars, words) := takeVars kept operands
      if given.has '0' && !words.isEmpty then
        misuse call.name "cannot specify --null (-0) with command" 125
      else if (given.value? 'C').isSome && words.isEmpty then
        misuse call.name "must specify command with --chdir (-C)" 125
      else
        let entered : Except HostFault Unit ←
          match given.value? 'C' with
          | none => pure (.ok ())
          | some dir => Chore.act fun scene =>
              match scene.stat dir with
              | .ok ⟨spot, _, .dir _ _⟩ => (.ok (), scene.setMe { scene.me with cwd := spot })
              | .ok _ => (.error HostFault.notDirectory, scene)
              | .error fault => (.error fault, scene)
        match entered with
        | .error fault => do
            complain call.name
              ("cannot change directory to " ++ quote ((given.value? 'C').getD []) ++ ": " ++
                fault.message)
            return 125
        | .ok () =>
            if words.isEmpty then
              let shown := varLines vars
              finish call
                (if given.has '0' then Text.exchange '\n' (Char.ofNat 0) shown else shown) 0
            else
              if given.has 'v' then
                let _ ← Chore.write 2 (executing words)
              let status ← become exec call vars words
              if (words.headD []).contains ' ' && status = 127 then
                complain call.name "use -[v]S to pass options in shebang lines"
              return status

def env (exec : Exec) : Tool := fun call =>
  match withSplitText call.vars (4 * call.args.length + 100) call.args with
  | .error message => do
      complain call.name message
      return 125
  | .ok args => withOptions envOptions 125 (runWithVars exec) { call with args }

def rankOf (rank : Int) : Int :=
  max (-20) (min 19 rank)

def rankChange : List Octets → Option Octets → Except String (Option Octets × List Octets)
  | [], change => .ok (change, [])
  | ['-', '-'] :: rest, change => .ok (change, rest)
  | arg :: rest, change =>
      let isSigned (text : Octets) : Bool :=
        match text with
        | c :: d :: _ => c.isDigit || ((c == '-' || c == '+') && d.isDigit)
        | [c] => c.isDigit
        | [] => false
      match arg, rest with
      | '-' :: '-' :: name, rest =>
          if isSigned ('-' :: name) then rankChange rest (some ('-' :: name))
          else
            let key := name.takeWhile (· != '=')
            if key.isPrefixOf "adjustment".toList then
              match name.drop key.length, rest with
              | _ :: value, rest => rankChange rest (some value)
              | [], value :: rest => rankChange rest (some value)
              | [], [] => .error ("option '--" ++ String.ofList key ++ "' requires an argument")
            else .error ("unrecognized option '--" ++ String.ofList key ++ "'")
      | ['-', 'n'], value :: rest => rankChange rest (some value)
      | ['-', 'n'], [] => .error "option requires an argument -- 'n'"
      | '-' :: 'n' :: value, rest => rankChange rest (some value)
      | '-' :: c :: text, rest =>
          if isSigned (c :: text) then rankChange rest (some (c :: text))
          else .error ("invalid option -- '" ++ String.singleton c ++ "'")
      | word, rest => .ok (change, word :: rest)

def nice (exec : Exec) : Tool := fun call =>
  match rankChange call.args none with
  | .error message => misuse call.name message 125
  | .ok (none, []) => do
      let rank ← Chore.look fun scene => scene.me.niceness
      finish call ((toString rank).toList ++ ['\n']) 0
  | .ok (change, words) =>
      match integer? (change.getD "10".toList) with
      | none => do
          complain call.name ("invalid adjustment " ++ quote (change.getD []))
          return 125
      | some change =>
          if words.isEmpty then
            misuse call.name "a command must be given with an adjustment" 125
          else do
            Chore.change fun scene =>
              scene.setMe { scene.me with niceness := rankOf (scene.me.niceness + change) }
            become exec call call.vars words

def hangUpSignal : Nat := 1

def nohup (exec : Exec) : Tool :=
  withOptions { strictOrder := true } 125 fun call given => do
    if given.operands.isEmpty then misuse call.name "missing operand" 125
    else
      Chore.change fun scene =>
        scene.setMe { scene.me with ignored := hangUpSignal :: scene.me.ignored }
      becomeOr "failed to run command " exec call call.vars given.operands

def isBufferMode (text : Octets) : Bool :=
  text = ['L'] || (match text.takeWhile Char.isDigit with
    | [] => false
    | digits => ["", "K", "M", "G", "kB", "KB", "MB"].contains
        (String.ofList (text.drop digits.length)))

def stdbuf (exec : Exec) : Tool :=
  withOptions {
    valued := "ioe"
    long := [("input", 'i'), ("output", 'o'), ("error", 'e')]
    strictOrder := true } 125 fun call given =>
    match given.options.find? fun option => !isBufferMode option.2 with
    | some (_, mode) => do
        complain call.name ("invalid mode " ++ quote mode)
        return 125
    | none =>
        if given.value? 'i' = some ['L'] then
          misuse call.name "line buffering stdin is meaningless" 125
        else if given.operands.isEmpty then misuse call.name "missing operand" 125
        else if given.options.isEmpty then
          misuse call.name "you must specify a buffering mode option" 125
        else becomeOr "failed to run command " exec call call.vars given.operands

def setsid (exec : Exec) : Tool :=
  withOptions {
    flags := "cfw"
    long := [("ctty", 'c'), ("fork", 'f'), ("wait", 'w')]
    strictOrder := true } 1 fun call given =>
    if given.operands.isEmpty then misuse call.name "no command specified" 1
    else do
      Chore.change fun scene => scene.setMe { scene.me with group := scene.self }
      becomeOr "failed to execute " exec call call.vars given.operands

end ArtifactPipeline.Tools
