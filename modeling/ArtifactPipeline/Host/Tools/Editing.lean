import ArtifactPipeline.Host.Regex.Basic
import ArtifactPipeline.Host.Regex.Reader
import ArtifactPipeline.Host.Tools.Call
import ArtifactPipeline.Text.Basic

set_option autoImplicit false

namespace ArtifactPipeline.Tools.Edit

open Text (Octets)

inductive Address where
  | line (number : Nat)
  | last
  | pattern (finder : Option Finder)
  | every (first step : Nat)

inductive RangeEnd where
  | address (address : Address)
  | count (lines : Nat)
  | multiple (of : Nat)

inductive Casing where
  | upper
  | lower
  | stop
  | upperNext
  | lowerNext
  deriving DecidableEq, Repr

inductive Part where
  | text (text : Octets)
  | group (number : Nat)
  | casing (casing : Casing)

structure Substitution where
  finder : Option Finder
  parts : List Part
  all : Bool := false
  print : Bool := false
  runs : Bool := false
  nth : Nat := 0
  file : Option Octets := none

inductive Action where
  | block
  | blockEnd
  | label (name : Octets)
  | branch (name : Octets)
  | branchIf (name : Octets)
  | branchUnless (name : Octets)
  | substitute (substitution : Substitution)
  | exchange (table : List (Char × Char))
  | append (text : Octets)
  | insert (text : Octets)
  | change (text : Octets)
  | delete
  | deleteFirst
  | print
  | printFirst
  | number
  | next
  | appendNext
  | hold
  | appendHold
  | fetch
  | appendFetch
  | swap
  | quit (status : Nat) (silent : Bool)
  | list (width : Option Nat)
  | readFile (path : Octets)
  | readLine (path : Octets)
  | writeFile (path : Octets)
  | writeFirst (path : Octets)
  | fileName
  | clear
  | run (command : Octets)
  | nothing

structure Step where
  first : Option Address := none
  second : Option RangeEnd := none
  negated : Bool := false
  action : Action

structure Script where
  steps : List Step := []
  quiet : Bool := false

structure Draft where
  rest : Octets
  steps : List Step := []
  depth : Nat := 0
  extended : Bool := false
  quiet : Bool := false
  pending : Option (Octets → Action) := none
  ending : Char := '\n'

abbrev Reader := ExceptT String (StateM Draft)

namespace Reader

def fail {α : Type} (message : String) : Reader α := throw message

def take : Reader (Option Char) := do
  match (← get).rest with
  | [] => return none
  | c :: rest => do
      modify fun draft => { draft with rest }
      return some c

def putBack (c : Option Char) : Reader Unit :=
  match c with
  | some c => modify fun draft => { draft with rest := c :: draft.rest }
  | none => pure ()

def isBlank (c : Char) : Bool := c == ' ' || c == '\t'

def takeWhile (test : Char → Bool) : Reader Octets := do
  let draft ← get
  let taken := draft.rest.takeWhile test
  set { draft with rest := draft.rest.drop taken.length }
  return taken

def takeFilled : Reader (Option Char) := do
  let _ ← takeWhile isBlank
  take

def number (first : Char) : Reader Nat := do
  let digits ← takeWhile Char.isDigit
  return (number? (first :: digits)).getD 0

def endOfCommand : Reader Unit := do
  match ← takeFilled with
  | none | some '\n' | some ';' => return ()
  | some c =>
      if c == '\x7d' || c == '#' then putBack (some c)
      else fail "extra characters after command"

end Reader

open Reader

def setLength : Nat → Octets → Option Nat
  | 0, _ => none
  | fuel + 1, text =>
      match text with
      | [] => none
      | '\n' :: _ => none
      | ']' :: _ => some 1
      | '[' :: sign :: rest =>
          if sign == ':' || sign == '.' || sign == '=' then
            match closing sign rest 0 with
            | some length => (setLength fuel (rest.drop length)).map (2 + length + ·)
            | none => none
          else (setLength fuel (sign :: rest)).map (1 + ·)
      | _ :: rest => (setLength fuel rest).map (1 + ·)
where
  closing (sign : Char) : Octets → Nat → Option Nat
    | [], _ => none
    | c :: rest, length =>
        if c == sign && rest.head? == some ']' then some (length + 2)
        else closing sign rest (length + 1)

def setSize (text : Octets) : Option Nat :=
  let lead := match text with
    | '^' :: ']' :: _ => 2
    | '^' :: _ => 1
    | ']' :: _ => 1
    | _ => 0
  (setLength (text.length + 1) (text.drop lead)).map (lead + ·)

def delimited (mark : Char) (inRegex : Bool) :
    Nat → Nat → Octets → Octets → Option Octets × Octets
  | 0, _, _, text => (none, text)
  | fuel + 1, protected', read, text =>
      match text with
      | [] => (none, [])
      | '\n' :: _ => (none, text)
      | '\\' :: rest =>
          match rest with
          | [] => (none, [])
          | c :: after =>
              let left := protected' - 2
              if c == 'n' && inRegex then delimited mark inRegex fuel left ('\n' :: read) after
              else if c == '\n' || (c == mark && (inRegex || c != '&')) then
                delimited mark inRegex fuel left (c :: read) after
              else if 0 < protected' then
                delimited mark inRegex fuel (protected' - 1) ('\\' :: read) rest
              else delimited mark inRegex fuel 0 (c :: '\\' :: read) after
      | c :: rest =>
          if 0 < protected' then delimited mark inRegex fuel (protected' - 1) (c :: read) rest
          else if c == mark then (some read.reverse, rest)
          else if c == '[' && inRegex then
            match setSize rest with
            | some size => delimited mark inRegex fuel size (c :: read) rest
            | none => (none, [])
          else delimited mark inRegex fuel 0 (c :: read) rest

def takeDelimited (mark : Char) (inRegex : Bool) (message : String) : Reader Octets := do
  let draft ← get
  let (found, rest) := delimited mark inRegex (draft.rest.length + 1) 0 [] draft.rest
  set { draft with rest }
  match found with
  | some text => return text
  | none => fail message

def codeDigits (base limit : Nat) (text : Octets) : Option (Char × Octets) :=
  let value? (c : Char) : Option Nat :=
    (Text.hexValue? c).bind fun value => if value < base then some value else none
  let digits := (text.take limit).takeWhile fun c => (value? c).isSome
  if digits.isEmpty then none
  else
    let value := digits.foldl (fun value c => base * value + (value? c).getD 0) 0
    some (Char.ofNat (value % 256), text.drop digits.length)

def escaped? (text : Octets) : Option (Char × Octets) :=
  match text with
  | 'a' :: rest => some ('\x07', rest)
  | 'f' :: rest => some ('\x0c', rest)
  | 'n' :: rest => some ('\n', rest)
  | 'r' :: rest => some ('\r', rest)
  | 't' :: rest => some ('\t', rest)
  | 'v' :: rest => some ('\x0b', rest)
  | 'c' :: c :: rest => some (Char.ofNat (c.toUpper.toNat ^^^ 64), rest)
  | 'd' :: rest => codeDigits 10 3 rest
  | 'o' :: rest => codeDigits 8 3 rest
  | 'x' :: rest => codeDigits 16 2 rest
  | _ => none

def plainPattern : Nat → Octets → Octets
  | 0, text => text
  | fuel + 1, text =>
      match text with
      | [] => []
      | '\\' :: rest =>
          match escaped? rest, rest with
          | some (c, rest), _ => c :: plainPattern fuel rest
          | none, c :: rest => '\\' :: c :: plainPattern fuel rest
          | none, [] => ['\\']
      | c :: rest => c :: plainPattern fuel rest

def plainText : Nat → Octets → Octets
  | 0, text => text
  | fuel + 1, text =>
      match text with
      | [] => []
      | '\\' :: rest =>
          match escaped? rest, rest with
          | some (c, rest), _ => c :: plainText fuel rest
          | none, c :: rest => c :: plainText fuel rest
          | none, [] => []
      | c :: rest => c :: plainText fuel rest

def parts : Nat → Octets → Octets → List Part
  | 0, _, _ => []
  | fuel + 1, plain, text =>
      let flush (rest : List Part) : List Part :=
        if plain.isEmpty then rest else .text plain.reverse :: rest
      let part (part : Part) (rest : Octets) : List Part := flush (part :: parts fuel [] rest)
      match text with
      | [] => flush []
      | '&' :: rest => part (.group 0) rest
      | '\\' :: rest =>
          match escaped? rest, rest with
          | some (c, rest), _ => parts fuel (c :: plain) rest
          | none, [] => flush []
          | none, c :: rest =>
              if c.isDigit then part (.group (c.toNat - '0'.toNat)) rest
              else
                match c with
                | 'U' => part (.casing .upper) rest
                | 'L' => part (.casing .lower) rest
                | 'E' => part (.casing .stop) rest
                | 'u' => part (.casing .upperNext) rest
                | 'l' => part (.casing .lowerNext) rest
                | c => parts fuel (c :: plain) rest
      | c :: rest => parts fuel (c :: plain) rest

def pattern (text : Octets) (fold inner : Bool) : Reader (Option Finder × Nat) := do
  if text.isEmpty then
    if fold || inner then fail "cannot specify modifiers on empty regexp"
    return (none, 9)
  let extended := (← get).extended
  let dialect : Regex.Dialect :=
    { extended, strictRepeats := !extended, strictStart := extended, fold, inner }
  match Regex.read dialect (plainPattern (text.length + 1) text) with
  | .ok regex => return (some (Finder.ofRegex true regex), regex.groupCount)
  | .error fault => fail fault.message

def addressFlags : Nat → Bool → Bool → Reader (Bool × Bool)
  | 0, fold, inner => pure (fold, inner)
  | fuel + 1, fold, inner => do
      match ← takeFilled with
      | some 'I' => addressFlags fuel true inner
      | some 'M' => addressFlags fuel fold true
      | c => do
          putBack c
          return (fold, inner)

def address? (c : Option Char) : Reader (Option Address) := do
  let matching (mark : Char) : Reader (Option Address) := do
    let text ← takeDelimited mark true "unterminated address regex"
    let (fold, inner) ← addressFlags ((← get).rest.length + 1) false false
    return some (.pattern (← pattern text fold inner).1)
  match c with
  | some '/' => matching '/'
  | some '\\' =>
      match ← take with
      | some mark => matching mark
      | none => fail "unterminated address regex"
  | some '$' => return some .last
  | some c =>
      if !c.isDigit then return none
      let first ← number c
      match ← takeFilled with
      | some '~' =>
          match ← takeFilled with
          | some d =>
              if d.isDigit then
                let step ← number d
                return some (if step = 0 then .line first else .every first step)
              else do
                putBack (some d)
                return some (.line first)
          | none => return some (.line first)
      | other => do
          putBack other
          return some (.line first)
  | none => return none

def rangeEnd? (c : Option Char) : Reader (Option RangeEnd) := do
  let counted (make : Nat → RangeEnd) : Reader (Option RangeEnd) := do
    match ← takeFilled with
    | some d => if d.isDigit then return some (make (← number d)) else fail "expected number"
    | none => fail "unexpected \x60,'"
  match c with
  | some '+' => counted .count
  | some '~' => counted .multiple
  | c => return (← address? c).map .address

def label : Reader Octets := do
  let _ ← takeWhile isBlank
  let name ← takeWhile fun c => c != '\n' && c != ';' && c != '\x7d'
  endOfCommand
  return (name.reverse.dropWhile isBlank).reverse

def path : Reader Octets := do
  let _ ← takeWhile isBlank
  let name ← takeWhile fun c => c != '\n'
  if name.isEmpty then fail "missing filename in r/R/w/W commands"
  let _ ← take
  return name

def textLines : Nat → Octets → Octets → Octets × Octets × Bool
  | 0, read, text => (read.reverse, text, false)
  | fuel + 1, read, text =>
      match text with
      | [] | ['\\'] => (read.reverse, [], false)
      | '\n' :: rest => (read.reverse, rest, true)
      | '\\' :: c :: rest => textLines fuel (c :: '\\' :: read) rest
      | c :: rest => textLines fuel (c :: read) rest

def text (make : Octets → Action) : Reader Action := do
  let draft ← get
  let (body, rest, ended) := textLines (draft.rest.length + 1) [] draft.rest
  set { draft with rest }
  return make (plainText (body.length + 1) body ++ [if ended then '\n' else draft.ending])

def textCommand (make : Octets → Action) : Reader Action := do
  match ← takeFilled with
  | none => fail "expected \\ after \x60a', \x60c' or \x60i'"
  | some '\\' => do
      match ← take with
      | none => do
          modify fun draft => { draft with pending := some make }
          return make []
      | some '\n' =>
          if (← get).rest.isEmpty then
            modify fun draft => { draft with pending := some make }
            return make ['\n']
          else text make
      | some c => do
          putBack (some c)
          text make
  | some c => do
      putBack (some c)
      if c == '\n' then
        let _ ← take
        return make ['\n']
      else text make

def substituteFlags :
    Nat → Substitution → Bool → Bool → Reader (Substitution × Bool × Bool)
  | 0, s, fold, inner => pure (s, fold, inner)
  | fuel + 1, s, fold, inner => do
      match ← take with
      | none | some '\n' | some ';' => return (s, fold, inner)
      | some 'i' | some 'I' => substituteFlags fuel s true inner
      | some 'm' | some 'M' => substituteFlags fuel s fold true
      | some 'e' => substituteFlags fuel { s with runs := true } fold inner
      | some 'p' =>
          if s.print then fail "multiple \x60p' options to \x60s' command"
          else substituteFlags fuel { s with print := true } fold inner
      | some 'g' =>
          if s.all then fail "multiple \x60g' options to \x60s' command"
          else substituteFlags fuel { s with all := true } fold inner
      | some 'w' => return ({ s with file := some (← path) }, fold, inner)
      | some c => do
          if c == '\x7d' || c == '#' then
            putBack (some c)
            return (s, fold, inner)
          else if isBlank c then substituteFlags fuel s fold inner
          else if c.isDigit then
            if s.nth != 0 then fail "multiple number options to \x60s' command"
            let nth ← number c
            if nth = 0 then fail "number option to \x60s' command may not be zero"
            substituteFlags fuel { s with nth } fold inner
          else fail "unknown option to \x60s'"

def largestGroup (parts : List Part) : Nat :=
  parts.foldl (fun largest part =>
    match part with
    | .group number => max largest number
    | _ => largest) 0

def substitution : Reader Action := do
  let message := "unterminated \x60s' command"
  match ← take with
  | none => fail message
  | some mark => do
      let regexText ← takeDelimited mark true message
      let replacement ← takeDelimited mark false message
      let parts := parts (replacement.length + 1) [] replacement
      let (s, fold, inner) ←
        substituteFlags ((← get).rest.length + 1) { finder := none, parts } false false
      let (finder, groups) ← pattern regexText fold inner
      let wanted := largestGroup parts
      if groups < wanted then
        fail ("invalid reference \\" ++ Nat.repr wanted ++ " on \x60s' command's RHS")
      return .substitute { s with finder }

def exchanged : Nat → Octets → Octets
  | 0, text => text
  | fuel + 1, text =>
      match text with
      | [] => []
      | '\\' :: rest =>
          match escaped? rest, rest with
          | some (c, rest), _ => c :: exchanged fuel rest
          | none, c :: rest => c :: exchanged fuel rest
          | none, [] => ['\\']
      | c :: rest => c :: exchanged fuel rest

def exchange : Reader Action := do
  let message := "unterminated \x60y' command"
  match ← take with
  | none => fail message
  | some mark => do
      let first ← takeDelimited mark false message
      let second ← takeDelimited mark false message
      let first := exchanged (first.length + 1) first
      let second := exchanged (second.length + 1) second
      if first.length != second.length then
        fail "strings for \x60y' command are different lengths"
      endOfCommand
      return .exchange (first.zip second)

def optionalNumber : Reader (Option Nat) := do
  match ← takeFilled with
  | some c =>
      if c.isDigit then return some (← number c)
      else do
        putBack (some c)
        return none
  | none => return none

def isNewer (text : Octets) : Bool :=
  let numbers := (Text.splitOn '.' text).map fun part => (number? part).getD 0
  match numbers with
  | major :: minor :: _ => 4 < major || (major = 4 && 9 < minor)
  | [major] => 4 < major
  | [] => false

def action (first : Option Address) (second : Option RangeEnd) : Reader Action := do
  let plain (action : Action) : Reader Action := do
    endOfCommand
    return action
  match ← takeFilled with
  | none => fail "missing command"
  | some c =>
      match c with
      | '#' => fail "comments don't accept any addresses"
      | '\x7b' => do
          modify fun draft => { draft with depth := draft.depth + 1 }
          return .block
      | '\x7d' => do
          if (← get).depth = 0 then fail "unexpected \x60\x7d'"
          if first.isSome then fail "\x60\x7d' doesn't want any addresses"
          modify fun draft => { draft with depth := draft.depth - 1 }
          plain .blockEnd
      | ':' => do
          if first.isSome then fail ": doesn't want any addresses"
          let _ ← takeWhile isBlank
          let name ← takeWhile fun c => c != '\n' && c != ';' && c != '\x7d'
          if name.isEmpty then fail "\":\" lacks a label"
          endOfCommand
          return .label (name.reverse.dropWhile isBlank).reverse
      | 'b' => return .branch (← label)
      | 't' => return .branchIf (← label)
      | 'T' => return .branchUnless (← label)
      | 's' => substitution
      | 'y' => exchange
      | 'a' => textCommand .append
      | 'i' => textCommand .insert
      | 'c' => textCommand .change
      | 'd' => plain .delete
      | 'D' => plain .deleteFirst
      | 'p' => plain .print
      | 'P' => plain .printFirst
      | '=' => plain .number
      | 'n' => plain .next
      | 'N' => plain .appendNext
      | 'h' => plain .hold
      | 'H' => plain .appendHold
      | 'g' => plain .fetch
      | 'G' => plain .appendFetch
      | 'x' => plain .swap
      | 'z' => plain .clear
      | 'F' => plain .fileName
      | 'l' => do
          let width ← optionalNumber
          plain (.list width)
      | 'L' => do
          let _ ← optionalNumber
          plain .nothing
      | 'q' | 'Q' => do
          if second.isSome then fail "command only uses one address"
          let status ← optionalNumber
          plain (.quit (status.getD 0) (c == 'Q'))
      | 'r' => return .readFile (← path)
      | 'R' => return .readLine (← path)
      | 'w' => return .writeFile (← path)
      | 'W' => return .writeFirst (← path)
      | 'e' => do
          let _ ← takeWhile isBlank
          let command ← takeWhile fun c => c != '\n'
          let _ ← take
          return .run command
      | 'v' => do
          let version ← label
          if isNewer version then fail "expected newer version of sed"
          return .nothing
      | c => fail ("unknown command: \x60" ++ c.toString ++ "'")

def step (c : Char) : Reader Step := do
  match ← address? (some c) with
  | none =>
      if c == '+' || c == '~' then
        let _ ← takeWhile Char.isDigit
        fail "invalid usage of +N or ~N as first address"
      putBack (some c)
      let negated ← negation
      return { negated, action := ← action none none }
  | some first => do
      let second ←
        match ← takeFilled with
        | some ',' =>
            match ← rangeEnd? (← takeFilled) with
            | some ending => pure (some ending)
            | none => fail "unexpected \x60,'"
        | other => do
            putBack other
            pure none
      match first, second with
      | .line 0, some (.address (.pattern _)) => pure ()
      | .line 0, _ => do
          let _ ← takeWhile isBlank
          let _ ← take
          fail "invalid usage of line address 0"
      | _, _ => pure ()
      let negated ← negation
      return { first := some first, second, negated, action := ← action (some first) second }
where
  negation : Reader Bool := do
    match ← takeFilled with
    | some '!' =>
        match ← takeFilled with
        | some '!' => fail "multiple \x60!'s"
        | other => do
            putBack other
            return true
    | other => do
        putBack other
        return false

def isSpace (c : Char) : Bool :=
  c == ' ' || c == ';' || (9 ≤ c.toNat && c.toNat ≤ 13)

def steps : Nat → Reader Unit
  | 0 => pure ()
  | fuel + 1 => do
      let _ ← takeWhile isSpace
      match ← take with
      | none => return ()
      | some '#' => do
          let _ ← takeWhile fun c => c != '\n'
          steps fuel
      | some c => do
          let next ← step c
          modify fun draft => { draft with steps := next :: draft.steps }
          steps fuel

def piece (first : Bool) : Reader Unit := do
  let draft ← get
  if let some make := draft.pending then
    let (body, rest, ended) := textLines (draft.rest.length + 1) [] draft.rest
    let whole := make (plainText (body.length + 1) body ++ [if ended then '\n' else draft.ending])
    let steps := match draft.steps with
      | last :: others => { last with action := whole } :: others
      | [] => []
    set { draft with rest, steps, pending := none }
  let draft ← get
  if first && (draft.rest = ['#', 'n'] || ['#', 'n', '\n'].isPrefixOf draft.rest) then
    set { draft with quiet := true }
  steps ((← get).rest.length + 1)

structure Piece where
  text : Octets
  file : Option Octets := none

def labels (steps : List Step) : List Octets × List Octets :=
  (steps.filterMap fun step => match step.action with
    | .label name => some name
    | _ => none,
   steps.filterMap fun step => match step.action with
    | .branch name | .branchIf name | .branchUnless name =>
        if name.isEmpty then none else some name
    | _ => none)

def script (extended : Bool) (ending : Char) (pieces : List Piece) : Except String Script :=
  go true 0 { rest := [], extended, ending } pieces
where
  place (index : Nat) (piece : Piece) (left : Nat) (zero : Bool) : String :=
    match piece.file with
    | some file =>
        let read := piece.text.take (piece.text.length - left)
        -- The end of a line was read just before.
        let lines := (read.dropLast.filter (· == '\n')).length
        "file " ++ Text.ofOctets file ++ " line " ++
          Nat.repr (if zero then 0 else lines + 1) ++ ": "
    | none =>
        "-e expression #" ++ Nat.repr index ++ ", char " ++
          Nat.repr (if zero then 0 else piece.text.length - left) ++ ": "
  go (first : Bool) (index : Nat) (draft : Draft) : List Piece → Except String Script
    | [] => finish draft index none
    | next :: rest =>
        let index := if next.file.isNone then index + 1 else index
        match (Edit.piece first).run { draft with rest := next.text } with
        | (.error message, after) => .error (place index next after.rest.length false ++ message)
        | (.ok (), after) =>
            match rest with
            | [] => finish after index (some next)
            | rest => go false index after rest
  finish (draft : Draft) (index : Nat) (last : Option Piece) : Except String Script :=
    if draft.depth != 0 then
      .error ((last.map fun piece => place index piece 0 true).getD "" ++ "unmatched \x60\x7b'")
    else
      let steps := draft.steps.reverse
      let (known, wanted) := labels steps
      match wanted.find? fun name => !known.contains name with
      | some name => .error ("can't find label for jump to \x60" ++ Text.ofOctets name ++ "'")
      | none => .ok { steps, quiet := draft.quiet }

end ArtifactPipeline.Tools.Edit
