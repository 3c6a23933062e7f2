import ArtifactPipeline.Host.RichShell.Quoting

set_option autoImplicit false

namespace ArtifactPipeline.RichShell

open Text (Octets)

namespace Print

structure Page where
  chars : Octets := []
  indentation : Nat := 0
  skips : Nat := 0
  functions : Nat := 0
  connections : Nat := 0
  deferred : List Octets := []
  documented : Bool := false

abbrev Printing := StateM Page

def put (text : Octets) : Printing Unit :=
  modify fun page => { page with chars := text.reverse ++ page.chars }

def puts (text : String) : Printing Unit :=
  put text.toList

def step : Nat := 4

def indent : Printing Unit := do
  put (List.replicate (← get).indentation ' ')

def newline (text : String) : Printing Unit := do
  puts "\n"
  indent
  puts text

def semicolon : Printing Unit := do
  match (← get).chars with
  | '&' :: _ | '\n' :: _ => pure ()
  | _ => puts ";"

def indented (body : Printing Unit) : Printing Unit := do
  modify fun page => { page with indentation := page.indentation + step }
  body
  modify fun page => { page with indentation := page.indentation - step }

def skip : Printing Unit :=
  modify fun page => { page with skips := page.skips + 1 }

def documents (texts : List Octets) : Printing Unit := do
  puts "\n"
  texts.forM fun text => put (text ++ ['\n'])
  modify fun page => { page with documented := true }

def deferred (sign : String) : Printing Unit := do
  let plain := sign = "" || sign = ";"
  if !plain then puts sign
  let page ← get
  if !page.deferred.isEmpty then
    documents page.deferred
    if !plain then puts " "
  modify fun page => { page with deferred := [] }

def settle : Printing Unit := do
  if !(← get).deferred.isEmpty then deferred ""

def wordsText (separator : String) (words : List Word) : Octets :=
  Text.joinWith separator.toList (words.map (·.1))

def holderText (usual : Option Nat) : Option Holder → Octets
  | some (.variable name) => '\x7b' :: name ++ ['\x7d']
  | some (.number descriptor) => if usual = some descriptor then [] else decimal descriptor
  | none => []

def fullHolder (usual : Nat) : Option Holder → Octets
  | none => decimal usual
  | holder => holderText none holder

def redirection (known : List (Nat × HereDocument)) : Redirection → Octets × Option Octets
  | .here holder number delimiter dropTabs =>
      let document := (known.lookup number).getD ⟨[], []⟩
      let quoted := match document.pieces with
        | [.text _ true] => true
        | _ => false
      (holderText (some 0) holder ++ "<<".toList ++ (if dropTabs then ['-'] else []) ++
        (if quoted then singleQuoted delimiter else delimiter),
        some (document.raw ++ delimiter))
  | .open holder kind raw _ =>
      let behind (usual : Nat) (sign : String) : Octets :=
        holderText (some usual) holder ++ sign.toList ++ ' ' :: raw
      let plain := !raw.any fun c => "$\x60<>".toList.contains c
      let text := match kind with
        | .file .reading _ => behind 0 "<"
        | .file .writing true => behind 1 ">"
        | .file .writing false => behind 1 ">|"
        | .file .appending _ => behind 1 ">>"
        | .file .both _ => fullHolder 0 holder ++ "<> ".toList ++ raw
        | .both false => "&> ".toList ++ raw
        | .both true => "&>> ".toList ++ raw
        | .text => behind 0 "<<<"
        | .copy writing =>
            let number := raw.head? = some '-' || (raw.head?.map Char.isDigit).getD false
            if writing && plain && !number && (holder.isNone || holder = some (.number 1)) then
              "&> ".toList ++ raw
            else
              fullHolder (if writing then 1 else 0) holder ++
                (if writing || raw = ['-'] then ">&" else "<&").toList ++ raw
      (text, none)

def redirections (known : List (Nat × HereDocument)) (all : List Redirection) : Printing Unit := do
  modify fun page => { page with documented := false }
  let texts := all.map (redirection known)
  put (Text.joinWith [' '] (texts.map (·.1)))
  let bodies := texts.filterMap (·.2)
  if !bodies.isEmpty then
    if 0 < (← get).connections then modify fun page => { page with deferred := bodies }
    else documents bodies

def condition : Condition → Octets
  | .filled raw _ => "-n ".toList ++ raw
  | .unary operator raw _ => operator.toList ++ ' ' :: raw
  | .binary operator left _ right _ => left ++ ' ' :: operator.toList ++ ' ' :: right
  | .not inner => "! ".toList ++ condition inner
  | .and first second => condition first ++ " && ".toList ++ condition second
  | .or first second => condition first ++ " || ".toList ++ condition second
  | .group inner => "( ".toList ++ condition inner ++ " )".toList

def endsApart : Command → Bool
  | .background _ => true
  | .sequence _ second => endsApart second
  | _ => false

def bodyParts : Command → Command × List Redirection
  | .group body => (body, [])
  | .redirected (.group body) redirections => (body, redirections)
  | body => (body, [])

def command (known : List (Nat × HereDocument)) : Nat → Command → Printing Unit
  | 0, _ => pure ()
  | depth + 1, whole => do
      let page ← get
      if 0 < page.skips then set { page with skips := page.skips - 1 } else indent
      let inner := command known depth
      let joined (sign : String) (first second : Command) : Printing Unit := do
        skip
        modify fun page => { page with connections := page.connections + 1 }
        inner first
        deferred sign
        skip
        inner second
        settle
        modify fun page => { page with connections := page.connections - 1 }
      let roundsOf (body : Command) : Printing Unit := do
        newline "do\n"
        indented do
          inner body
          settle
          semicolon
        newline "done"
      match whole with
      | .nothing => pure ()
      | .simple assignments words redirects _ => do
          put (wordsText " " (assignments ++ words))
          if !redirects.isEmpty then
            if !(assignments ++ words).isEmpty then puts " "
            redirections known redirects
      | .pipeline parts => parts' inner parts
      | .negated body => do
          puts "! "
          skip
          inner body
      | .timed short body => do
          puts (if short then "time -p " else "time ")
          skip
          inner body
      | .both first second => do joined " && " first second
      | .either first second => do joined " || " first second
      | .sequence first second => do
          skip
          modify fun page => { page with connections := page.connections + 1 }
          inner first
          if endsApart first then
            puts " "
            skip
          else
            let page ← get
            if page.deferred.isEmpty then
              if page.documented then modify fun page => { page with documented := false }
              else puts ";"
            else deferred (if 0 < page.functions then "" else ";")
            if 0 < page.functions then puts "\n"
            else
              puts " "
              skip
          inner second
          settle
          modify fun page => { page with connections := page.connections - 1 }
      | .background body => do
          skip
          modify fun page => { page with connections := page.connections + 1 }
          inner body
          deferred " &"
          modify fun page => { page with connections := page.connections - 1 }
      | .subshell body => do
          puts "( "
          skip
          inner body
          settle
          puts " )"
      | .group body => do
          puts "\x7b "
          if (← get).functions = 0 then
            skip
            inner body
            settle
            semicolon
            puts " "
          else
            puts "\n"
            indented do
              inner body
              settle
            newline ""
          puts "\x7d"
      | .redirected body redirects => do
          skip
          inner body
          puts " "
          redirections known redirects
      | .choice test first second => do
          puts "if "
          skip
          inner test
          semicolon
          puts " then\n"
          indented do
            inner first
            settle
          match second with
          | .nothing => pure ()
          | second => do
              semicolon
              newline "else\n"
              indented do
                inner second
                settle
          semicolon
          newline "fi"
      | .loop untilHolds test body => do
          puts (if untilHolds then "until " else "while ")
          skip
          inner test
          settle
          semicolon
          puts " do\n"
          indented do
            inner body
            settle
          semicolon
          newline "done"
      | .each menu name words body _ => do
          put (headOfEach menu name words)
          puts ";"
          roundsOf body
      | .counted first test step body _ => do
          put (headOfCounted first test step)
          roundsOf body
      | .match raw _ branches _ => do
          put ("case ".toList ++ raw ++ " in ".toList)
          indented (branches.forM fun (patterns, body, ending) => do
            newline ""
            put (wordsText " | " patterns)
            puts ")\n"
            indented (inner body)
            settle
            newline (match ending with
              | .leave => ";;"
              | .fall => ";&"
              | .goOn => ";;&"))
          newline "esac"
      | .define name body => do
          put ("function ".toList ++ name ++ " () \n".toList)
          indent
          puts "\x7b \n"
          let (body, redirects) := bodyParts body
          modify fun page => { page with functions := page.functions + 1 }
          indented do
            inner body
            settle
          modify fun page => { page with functions := page.functions - 1 }
          if redirects.isEmpty then
            newline "\x7d"
            modify fun page => { page with documented := false }
          else
            newline "\x7d "
            redirections known redirects
      | .compute raw _ _ => put ("((".toList ++ raw ++ "))".toList)
      | .test whole _ => put ("[[ ".toList ++ condition whole ++ " ]]".toList)
      | .partner name body => do
          put ("coproc ".toList ++ name ++ [' '])
          skip
          inner body
where
  parts' (inner : Command → Printing Unit) : List Command → Printing Unit
    | [] => pure ()
    | [part] => do
        skip
        inner part
    | part :: rest => do
        skip
        modify fun page => { page with connections := page.connections + 1 }
        inner part
        deferred " |"
        puts " "
        parts' inner rest
        settle
        modify fun page => { page with connections := page.connections - 1 }
  headOfEach (menu : Bool) (name : Octets) (words : Option (List Word)) : Octets :=
    (if menu then "select " else "for ").toList ++ name ++ " in ".toList ++
      match words with
      | some words => wordsText " " words
      | none => "\"$@\"".toList
  headOfCounted (first test step : Word) : Octets :=
    "for ((".toList ++ first.1 ++ "; ".toList ++ test.1 ++ "; ".toList ++ step.1 ++ "))".toList

def depth : Nat := 100000

def finish (body : Printing Unit) (page : Page) : Octets :=
  ((body.run page).2).chars.reverse

end Print

def commandText (documents : List (Nat × HereDocument)) (command : Command) : Octets :=
  Print.finish (Print.command documents Print.depth command) {}

def functionText (documents : List (Nat × HereDocument)) (name : Octets) (body : Command) : Octets :=
  let (inner, redirects) := Print.bodyParts body
  Print.finish (do
    if isKeyword name then Print.puts "function "
    Print.put (name ++ " () \n\x7b \n".toList)
    modify fun page => { page with functions := 1 }
    Print.indented do
      Print.command documents Print.depth inner
      Print.settle
    modify fun page => { page with functions := 0 }
    if redirects.isEmpty then Print.newline "\x7d"
    else
      Print.newline "\x7d "
      Print.redirections documents redirects) {}

end ArtifactPipeline.RichShell
