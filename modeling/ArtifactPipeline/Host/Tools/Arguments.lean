import ArtifactPipeline.Host.Tools.Naming
import ArtifactPipeline.Host.Tools.Stream
import ArtifactPipeline.Host.Tools.Command
import ArtifactPipeline.Host.Tools.Printing

set_option autoImplicit false

namespace ArtifactPipeline.Tools.Arguments

open Text (Octets)

structure Item where
  text : Octets
  endsLine : Bool

inductive Mode where
  | words
  | lines
  | between (c : Char)
  deriving DecidableEq, Repr

structure Read where
  items : List Item
  fault : Option String := none

structure State where
  started : Option Octets := none
  quoted : Option Char := none
  before : Char := '\n'

def unmatched (c : Char) : String :=
  "unmatched " ++ (if c == '"' then "double" else "single") ++
    " quote; by default quotes are special to xargs unless you use the -0 option"

def isBlank (c : Char) : Bool :=
  c == ' ' || c == '\t'

def readItems (whole : Bool) : Nat → State → List Item → Octets → Read
  | 0, _, items, _ => ⟨items.reverse, none⟩
  | fuel + 1, state, items, text =>
      let ended (endsLine : Bool) : List Item :=
        match state.started with
        | some word => ⟨word.reverse, endsLine⟩ :: items
        | none => items
      match text with
      | [] =>
          match state.quoted with
          | some c => ⟨items.reverse, some (unmatched c)⟩
          | none => ⟨(ended true).reverse, none⟩
      | c :: rest =>
          let add (c : Char) (rest : Octets) : Read :=
            readItems whole fuel
              { state with started := some (c :: state.started.getD []), before := c } items rest
          match state.quoted with
          | some mark =>
              if c == '\n' then ⟨items.reverse, some (unmatched mark)⟩
              else if c == mark then
                readItems whole fuel
                  { started := some (state.started.getD []), before := c } items rest
              else add c rest
          | none =>
              if c == '\n' then
                let items := match state.started, items with
                  | some _, _ => ended (!isBlank state.before)
                  -- A line that ends in a blank goes on; the end of an item before it is no end.
                  | none, last :: others =>
                      if isBlank state.before then last :: others
                      else { last with endsLine := true } :: others
                  | none, [] => []
                readItems whole fuel { before := '\n' } items rest
              else if isBlank c && (!whole || state.started.isNone) then
                readItems whole fuel { before := c } (ended false) rest
              else if c == '\\' then
                match rest with
                | [] => readItems whole fuel state items []
                | d :: rest => add d rest
              else if c == '\'' || c == '"' then
                readItems whole fuel
                  { state with quoted := some c, started := some (state.started.getD []) } items rest
              else add c rest

def upTo (ending : Option Octets) (items : List Item) : List Item :=
  match ending with
  | none => items
  | some text => items.takeWhile fun item => item.text != text

def read (mode : Mode) (ending : Option Octets) (text : Octets) : Read :=
  match mode with
  | .between c =>
      let parts := Text.splitOn c text
      let parts := if parts.getLast? = some [] then parts.dropLast else parts
      ⟨parts.map fun part => ⟨part, true⟩, none⟩
  | mode =>
      let found := readItems (mode == .lines) (text.length + 1) {} [] text
      { found with items := upTo ending found.items }

structure Bounds where
  count : Option Nat := none
  lines : Option Nat := none
  size : Nat

def grouped (bounds : Bounds) (room : Nat) :
    List Item → List Octets → Nat → Nat → List (List Octets)
  | [], group, _, _ => if group.isEmpty then [] else [group.reverse]
  | item :: rest, group, lines, size =>
      let own := item.text.length + 1
      let full := bounds.count.any (fun count => count ≤ group.length) ||
        bounds.lines.any (fun count => count ≤ lines) || room < size + own
      let ended := if item.endsLine then 1 else 0
      if full && !group.isEmpty then
        group.reverse :: grouped bounds room rest [item.text] ended own
      else grouped bounds room rest (item.text :: group) (lines + ended) (size + own)

def sizeOf (words : List Octets) : Nat :=
  words.foldl (fun size word => size + word.length + 1) 0

structure Plan where
  call : Call
  commands : List (List Octets)
  parallel : Nat := 1
  shown : Bool := false
  keepsInput : Bool := false

def start (exec : Exec) (plan : Plan) (words : List Octets) : Chore Nat :=
  let child : Chore Nat := do
    if !plan.keepsInput then
      Chore.change fun scene =>
        match scene.openPath .reading "/dev/null".toList with
        | .ok (id, scene) => scene.attach 0 id
        | .error _ => scene
    become exec plan.call plan.call.vars words
  Chore.fork child.toRoutine

def judge (plan : Plan) (name : Octets) (status : Nat) (ending : Ending) : Chore (Nat ⊕ Nat) := do
  match ending with
  | .exited 0 => return .inl status
  | .exited 255 => do
      complain plan.call.name (String.ofList name ++ ": exited with status 255; aborting")
      return .inr 124
  | .exited _ => return .inl 123
  | .signaled signal => do
      complain plan.call.name (String.ofList name ++ ": terminated by signal " ++ Nat.repr signal)
      return .inr 125

def awaitAny (processes : List Nat) : Chore (Nat × Ending) := do
  Chore.await fun scene => processes.any fun process => (scene.endingOf process).isSome
  Chore.look fun scene =>
    match processes.find? fun process => (scene.endingOf process).isSome with
    | some process => (process, (scene.endingOf process).getD (.exited 0))
    | none => (0, .exited 0)

def awaitAll (plan : Plan) (name : Octets) : Nat → List Nat → Nat → Chore Nat
  | 0, _, status => return status
  | fuel + 1, running, status => do
      if running.isEmpty then return status
      else
        let (process, ending) ← awaitAny running
        match ← judge plan name status ending with
        | .inl status => awaitAll plan name fuel (running.filter (· != process)) status
        | .inr status => return status

def runAll (exec : Exec) (plan : Plan) : Nat → List (List Octets) → List Nat → Nat → Chore Nat
  | 0, _, _, status => return status
  | fuel + 1, commands, running, status => do
      let name := ((plan.commands.headD []).headD [])
      match commands with
      | [] => awaitAll plan name (running.length + 1) running status
      | words :: rest =>
          if plan.parallel != 0 && plan.parallel ≤ running.length then
            let (process, ending) ← awaitAny running
            match ← judge plan name status ending with
            | .inl status =>
                runAll exec plan fuel commands (running.filter (· != process)) status
            | .inr status => return status
          else
            if plan.shown then
              let _ ← Chore.write 2
                (Text.octets (" ".intercalate (words.map quoteIfNeeded) ++ "\n"))
            let refusal ← Chore.look fun scene =>
              refusal? scene plan.call.vars (words.headD [])
            match refusal with
            | some fault => do
                complain plan.call.name
                  (String.ofList (words.headD []) ++ ": " ++ fault.message)
                return refusalStatus fault
            | none => do
                let process ← start exec plan words
                runAll exec plan fuel rest (running ++ [process]) status

structure Style where
  mode : Mode := .words
  ending : Option Octets := none
  bounds : Bounds := { size := 131072 }
  mark : Option Octets := none
  parallel : Nat := 1
  shown : Bool := false
  skipsEmpty : Bool := false
  file : Option Octets := none
  warnings : List String := []

def markText : Octets :=
  ['\x7b', '\x7d']

def count (letter : Char) (least : Nat) (text : Octets) : Except String Nat :=
  match number? text with
  | none =>
      .error ("invalid number \"" ++ String.ofList text ++ "\" for -" ++ String.singleton letter ++
        " option")
  | some n =>
      if n < least then
        .error ("value " ++ String.ofList text ++ " for -" ++ String.singleton letter ++
          " option should be >= " ++ Nat.repr least)
      else .ok n

def Style.apply (style : Style) (letter : Char) (value : Octets) : Except String Style := do
  let exclusive (first second : String) : String :=
    "warning: options " ++ first ++ " and " ++ second ++
      " are mutually exclusive, ignoring previous " ++ first.takeWhile (· != '/') ++ " value"
  match letter with
  | '0' => return { style with mode := .between (Char.ofNat 0) }
  | 'd' =>
      match (unescapeAll { hex := true } value).1 with
      | [c] => return { style with mode := .between c }
      | _ => throw ("Invalid input delimiter specification " ++ String.ofList value ++
          ": the delimiter must be either a single character or an escape sequence starting with \\.")
  | 'E' | 'e' => return { style with ending := if value.isEmpty then none else some value }
  | 'I' | 'i' =>
      let mark := if value.isEmpty then markText else value
      let warnings := if style.bounds.count.isSome then
          style.warnings ++ ["warning: options --max-args and --replace/-I/-i are mutually " ++
            "exclusive, ignoring previous --max-args value"]
        else if style.bounds.lines.isSome then
          style.warnings ++ ["warning: options --max-lines and --replace/-I/-i are mutually " ++
            "exclusive, ignoring previous --max-lines value"]
        else style.warnings
      return { style with
        mark := some mark
        warnings
        bounds := { style.bounds with count := none, lines := none } }
  | 'n' =>
      let count ← count 'n' 1 value
      let style := if style.mark.isSome && count != 1 then
          { style with
            mark := none
            warnings := style.warnings ++ [exclusive "--replace" "--max-args/-n"] }
        else style
      return { style with bounds := { style.bounds with count := some count, lines := none } }
  | 'L' | 'l' =>
      let count ← if value.isEmpty then pure 1 else count letter 1 value
      return { style with
        mark := none
        bounds := { style.bounds with lines := some count, count := none } }
  | 's' => do
      let size ← count 's' 1 value
      return { style with bounds := { style.bounds with size } }
  | 'P' => return { style with parallel := ← count 'P' 0 value }
  | 't' => return { style with shown := true }
  | 'r' => return { style with skipsEmpty := true }
  | 'a' => return { style with file := some value }
  | _ => return style

def options : OptionSet where
  flags := "0rtpxo"
  valued := "nILdPsEa"
  optional := "ile"
  long := [("null", '0'), ("no-run-if-empty", 'r'), ("max-args", 'n'), ("replace", 'i'),
    ("max-lines", 'l'), ("delimiter", 'd'), ("max-procs", 'P'), ("verbose", 't'),
    ("arg-file", 'a'), ("eof", 'e'), ("exit", 'x'), ("interactive", 'p'), ("max-chars", 's'),
    ("open-tty", 'o'), ("process-slot-var", 'V'), ("show-limits", 'S')]
  strictOrder := true

def commandsFor (style : Style) (command : List Octets) (items : List Item) :
    List (List Octets) :=
  match style.mark, command with
  | some mark, name :: args =>
      items.map fun item => name :: args.map (Text.replace mark item.text)
  | _, _ =>
      if items.isEmpty then (if style.skipsEmpty then [] else [command])
      else
        (grouped style.bounds (style.bounds.size - sizeOf command) items [] 0 0).map fun group =>
          command ++ group

end ArtifactPipeline.Tools.Arguments

namespace ArtifactPipeline.Tools

open Arguments in
def xargs (exec : Exec) : Tool :=
  withOptions options 1 fun call given => do
    let style := given.options.foldl (fun (style : Except String Style) (letter, value) =>
      style.bind fun style => style.apply letter value) (.ok {})
    match style with
    | .error message => misuse call.name message 1
    | .ok style => do
        Chore.forEach style.warnings (complain call.name)
        let style := match style.mark, style.mode with
          | some _, .words => { style with mode := Mode.lines }
          | _, _ => style
        let input ← match style.file with
          | some path => contentOf path
          | none => Chore.readAll 0
        match input with
        | .error fault =>
            refuse call.name ("Cannot open input file " ++ inQuotes (style.file.getD []) ++ ": " ++
              fault.message)
        | .ok text => do
            let found := read style.mode style.ending text
            let command := if given.operands.isEmpty then ["echo".toList] else given.operands
            let commands :=
              if found.fault.isSome && found.items.isEmpty then []
              else commandsFor style command found.items
            let plan : Arguments.Plan := {
              call
              commands
              parallel := style.parallel
              shown := style.shown
              keepsInput := style.file.isSome }
            match found.fault with
            | none => runAll exec plan (2 * commands.length + 2) commands [] 0
            | some message => do
                complain call.name message
                let _ ← runAll exec plan (2 * commands.length + 2) commands [] 0
                return 1

end ArtifactPipeline.Tools
