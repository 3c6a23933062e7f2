import ArtifactPipeline.Host.RichShell.Syntax
import ArtifactPipeline.Host.Shell.Reader

set_option autoImplicit false

namespace ArtifactPipeline.RichShell

open Text (Octets)
open Shell (isNameChar isName endsWord dropLeadingTabs paramName?)

structure SyntaxFault where
  message : String
  line : Nat
  shown : Option Octets := none
  mistaken : Bool := false
  unfinished : Bool := false
  deriving DecidableEq, Repr

inductive Token where
  | newline
  | ending
  | operator (sign : String)
  | redirect (holder : Option Holder) (kind : RedirectKind) (sign : String)
  | here (holder : Option Holder) (dropTabs : Bool)
  | word (raw : Octets) (pieces : Pieces)

structure AwaitedDocument where
  number : Nat
  delimiter : Octets
  dropTabs : Bool
  expanded : Bool
  line : Nat

structure Source where
  text : Octets
  size : Nat := text.length
  line : Nat := 1
  lineText : Octets := text
  ahead : Option Token := none
  tokenLine : Nat := line
  tokenText : Octets := lineText
  awaited : List AwaitedDocument := []
  documents : List (Nat × HereDocument) := []
  next : Nat := 0
  openDocuments : List (Nat × Nat × Octets) := []
  grouped : Bool := false
  aliases : List (Octets × Octets) := []
  opened : List (Octets × Nat × Bool) := []

abbrev Reading := StateT Source (Except SyntaxFault)

namespace Reading

def rest : Reading Octets := do
  return (← get).text

def effort : Reading Nat := do
  return (← get).size

def failAtEnd {α : Type} : Reading α := do
  let source ← get
  let line := source.line + if source.lineText.isEmpty then 0 else 1
  throw { message := "syntax error: unexpected end of file", line, unfinished := true }

def failOpen {α : Type} (line : Nat) (closing : String) : Reading α :=
  throw {
    message := "unexpected EOF while looking for matching \x60" ++ closing ++ "'"
    line
    unfinished := true }

def tooLong {α : Type} : Reading α := do
  throw { message := "syntax error: too long", line := (← get).line }

def pass (passed text : Octets) : Reading Unit :=
  modify fun source =>
    let lines := passed.count '\n'
    if lines = 0 then { source with text }
    else
      let tail := (passed.reverse.takeWhile fun c => c != '\n').reverse
      { source with text, line := source.line + lines, lineText := tail ++ text }

def passTo (text : Octets) : Reading Unit := do
  let whole ← rest
  pass (whole.take (whole.length - text.length)) text

def readSince (before : Octets) : Reading Octets := do
  return before.take (before.length - (← rest).length)

def skipBlanks : Nat → Reading Unit
  | 0 => pure ()
  | fuel + 1 => do
      match ← rest with
      | ' ' :: text | '\t' :: text => do
          pass [] text
          skipBlanks fuel
      | '\\' :: '\n' :: text => do
          pass ['\n'] text
          skipBlanks fuel
      | '#' :: text => do
          pass [] (text.dropWhile fun c => c != '\n')
          skipBlanks fuel
      | _ => pure ()

end Reading

inductive Nested where
  | list
  | command

abbrev Inner := Nested → Reading Command

inductive Place where
  | word (regular : Bool)
  | quotes
  | braces (quoted : Bool)
  | subscript
  | arithmetic
  | bracketed
  | document
  deriving DecidableEq

def addChar (pieces : Pieces) (c : Char) (quoted : Bool) : Pieces :=
  match pieces with
  | .text chars q :: rest =>
      if q == quoted then .text (c :: chars) q :: rest else .text [c] quoted :: pieces
  | _ => .text [c] quoted :: pieces

def addChars (pieces : Pieces) (chars : Octets) (quoted : Bool) : Pieces :=
  chars.foldl (fun pieces c => addChar pieces c quoted) pieces

def finishPieces (pieces : Pieces) : Pieces :=
  (pieces.map fun piece =>
    match piece with
    | .text chars quoted => .text chars.reverse quoted
    | piece => piece).reverse

def addMark (pieces : Pieces) : Pieces :=
  .text [] true :: pieces

def keepsList : ParamUse → Bool
  | .length | .orElse _ | .orAssign _ | .orFail _ => false
  | _ => true

def isListPiece : Piece → Bool
  | .param (.name ['@']) use _ true => keepsList use
  | .param (.all _ false) use _ true => keepsList use
  | .param (.keys _ false) _ _ true => true
  | .param (.starting _ false) _ _ true => true
  | _ => false

def dropIdleMark (pieces : Pieces) : Pieces :=
  match pieces with
  | piece :: .text [] true :: rest => if isListPiece piece then piece :: rest else pieces
  | pieces => pieces

def backquoted (quoted : Bool) : Octets → Octets → Option (Octets × Octets)
  | _, [] => none
  | read, '\x60' :: rest => some (read.reverse, rest)
  | read, '\\' :: c :: rest =>
      if c == '\\' || c == '$' || c == '\x60' || (quoted && c == '"') then
        backquoted quoted (c :: read) rest
      else backquoted quoted (c :: '\\' :: read) rest
  | read, c :: rest => backquoted quoted (c :: read) rest

def keywords : List String :=
  ["if", "then", "else", "elif", "fi", "case", "esac", "for", "select", "while", "until", "do", "done",
    "in", "function", "time", "\x7b", "\x7d", "!", "[[", "]]", "coproc"]

def isKeyword (text : Octets) : Bool :=
  keywords.contains (String.ofList text)

def Token.text : Token → String
  | .newline => "newline"
  | .ending => "newline"
  | .operator sign => sign
  | .redirect _ _ sign => sign
  | .here _ dropTabs => if dropTabs then "<<-" else "<<"
  | .word raw _ => String.ofList raw

def unexpected {α : Type} (token : Token) : Reading α := do
  match token with
  | .ending => Reading.failAtEnd
  | token => do
      let source ← get
      throw {
        message := "syntax error near unexpected token \x60" ++ token.text ++ "'"
        line := source.tokenLine
        shown := some (source.tokenText.takeWhile fun c => c != '\n') }

def escapeDigits (isDigit : Char → Bool) (base count : Nat) (text : Octets) : Option Nat × Octets :=
  let digits := (text.take count).takeWhile isDigit
  let value := digits.foldl (fun value c => base * value + (Text.hexValue? c).getD 0) 0
  (if digits.isEmpty then none else some value, text.drop digits.length)

def escapeOf (c : Char) (rest : Octets) : Octets × Octets :=
  let isHex (c : Char) : Bool := (Text.hexValue? c).isSome
  let byte (value : Nat) : Octets := [Char.ofNat (value % 256)]
  let coded (count : Nat) : Octets × Octets :=
    match escapeDigits isHex 16 count rest with
    | (some value, rest) => (Text.octets (Char.ofNat value).toString, rest)
    | (none, rest) => (['\\', c], rest)
  match c with
  | 'a' => ([Char.ofNat 7], rest)
  | 'b' => ([Char.ofNat 8], rest)
  | 'e' | 'E' => ([Char.ofNat 27], rest)
  | 'f' => ([Char.ofNat 12], rest)
  | 'n' => (['\n'], rest)
  | 'r' => (['\r'], rest)
  | 't' => (['\t'], rest)
  | 'v' => ([Char.ofNat 11], rest)
  | '\\' | '\'' | '"' | '?' => ([c], rest)
  | 'x' =>
      match rest with
      | '\x7b' :: inner =>
          match escapeDigits isHex 16 inner.length inner with
          | (some value, '\x7d' :: rest) => (byte value, rest)
          | (some value, rest) => (byte value, rest)
          | (none, _) => (['\\', 'x'], rest)
      | rest =>
          match escapeDigits isHex 16 2 rest with
          | (some value, rest) => (byte value, rest)
          | (none, rest) => (['\\', 'x'], rest)
  | 'u' => coded 4
  | 'U' => coded 8
  | 'c' =>
      match rest with
      | '\\' :: '\\' :: rest => ([Char.ofNat 28], rest)
      | d :: rest => (if d == '?' then [Char.ofNat 127] else byte (d.toUpper.toNat &&& 31), rest)
      | [] => (['\\', 'c'], [])
  | c =>
      if '0' ≤ c && c ≤ '7' then
        match escapeDigits (fun c => '0' ≤ c && c ≤ '7') 8 3 (c :: rest) with
        | (some value, rest) => (byte value, rest)
        | (none, rest) => (['\\', c], rest)
      else (['\\', c], rest)

def escapedQuotes : Nat → Octets → Octets → Option (Octets × Octets)
  | 0, _, _ => none
  | fuel + 1, read, text =>
      match text with
      | [] => none
      | '\'' :: rest => some (read.reverse.takeWhile (fun c => c.toNat != 0), rest)
      | ['\\'] => none
      | '\\' :: c :: rest =>
          let (chars, rest) := escapeOf c rest
          escapedQuotes fuel (chars.reverse ++ read) rest
      | c :: rest => escapedQuotes fuel (c :: read) rest

def paramUse? (text : Octets) : Option (ParamUse × Octets) :=
  match text with
  | ':' :: '-' :: rest => some (.orElse true, rest)
  | ':' :: '=' :: rest => some (.orAssign true, rest)
  | ':' :: '+' :: rest => some (.ifSet true, rest)
  | ':' :: '?' :: rest => some (.orFail true, rest)
  | '-' :: rest => some (.orElse false, rest)
  | '=' :: rest => some (.orAssign false, rest)
  | '+' :: rest => some (.ifSet false, rest)
  | '?' :: rest => some (.orFail false, rest)
  | '#' :: '#' :: rest => some (.dropStart true, rest)
  | '#' :: rest => some (.dropStart false, rest)
  | '%' :: '%' :: rest => some (.dropEnd true, rest)
  | '%' :: rest => some (.dropEnd false, rest)
  | '/' :: rest => some (.replace, rest)
  | ':' :: rest => some (.part, rest)
  | '^' :: '^' :: rest => some (.recase .upper true, rest)
  | '^' :: rest => some (.recase .upper false, rest)
  | ',' :: ',' :: rest => some (.recase .lower true, rest)
  | ',' :: rest => some (.recase .lower false, rest)
  | '~' :: '~' :: rest => some (.recase .other true, rest)
  | '~' :: rest => some (.recase .other false, rest)
  | '@' :: c :: '}' :: rest => some (.formed c, '}' :: rest)
  | _ => none

def standsApart : ParamUse → Bool
  | .dropStart _ | .dropEnd _ | .replace | .recase _ _ | .part => true
  | _ => false

/-- Splits pieces at the first unquoted character that is one of some, unless it stands in parentheses
or belongs to a question mark. -/
def splitPieces (sign : Char) (nested : Bool) : Nat → Nat → Nat → Pieces → Pieces →
    Option (Pieces × Pieces)
  | 0, _, _, _, _ => none
  | fuel + 1, level, questions, before, pieces =>
      match pieces with
      | [] => none
      | .text (c :: chars) false :: rest =>
          let after : Pieces := if chars.isEmpty then rest else .text chars false :: rest
          let goOn (level questions : Nat) :=
            splitPieces sign nested fuel level questions (addChar before c false) after
          if c == sign && level = 0 && questions = 0 then some (finishPieces before, after)
          else if nested && (c == '(' || c == '[') then goOn (level + 1) questions
          else if nested && (c == ')' || c == ']') then goOn (level - 1) questions
          else if nested && c == '?' then goOn level (questions + 1)
          else if nested && c == ':' && level = 0 then goOn level (questions - 1)
          else goOn level questions
      | .text [] false :: rest => splitPieces sign nested fuel level questions before rest
      | .text chars quoted :: rest =>
          splitPieces sign nested fuel level questions (.text chars.reverse quoted :: before) rest
      | piece :: rest => splitPieces sign nested fuel level questions (piece :: before) rest

def pieceCount (pieces : Pieces) : Nat :=
  pieces.foldl (fun total piece =>
    match piece with
    | .text chars _ => total + chars.length + 2
    | _ => total + 2) 2

def wordsOfUse (use : ParamUse) (pieces : Pieces) : List Pieces :=
  let split (sign : Char) (nested : Bool) (before after : Pieces) : List Pieces :=
    match splitPieces sign nested (pieceCount after) 0 0 before after with
    | some (first, second) => [first, second]
    | none => [finishPieces before ++ after]
  match use with
  | .replace =>
      -- A slash right behind the sign belongs to the pattern.
      match pieces with
      | .text ('/' :: chars) false :: rest =>
          match split '/' false [] (if chars.isEmpty then rest else .text chars false :: rest) with
          | first :: others => (.text ['/'] false :: first) :: others
          | [] => []
      | pieces => split '/' false [] pieces
  | .part => split ':' true [] pieces
  | _ => [pieces]

mutual

def pieces (inner : Inner) (place : Place) (start : Nat) :
    Nat → Nat → Pieces → Reading Pieces
  | 0, _, _ => Reading.tooLong
  | fuel + 1, level, read => do
      let quoted := place == .quotes || place == .document || place == .braces true ||
        place == .arithmetic || place == .bracketed
      match ← Reading.rest with
      | [] =>
          match place with
          | .document => return read
          | .word _ => if level = 0 then return read else Reading.failOpen start ")"
          | .quotes => Reading.failOpen start "\""
          | .braces _ => Reading.failOpen start (if 0 < level then "'" else "\x7d")
          | .subscript | .bracketed => Reading.failOpen start "]"
          | .arithmetic => Reading.failOpen start ")"
      | c :: rest =>
          if c = '\\' then
            match rest with
            | [] =>
                Reading.pass [] []
                pieces inner place start fuel level (addChar read '\\' true)
            | '\n' :: rest =>
                Reading.pass ['\n'] rest
                pieces inner place start fuel level read
            | d :: rest =>
                Reading.pass [d] rest
                let protects := !quoted || d == '\\' || d == '$' || d == '\x60' ||
                  (d == '"' && place != .document) || (d == '}' && place == .braces true)
                let read := if protects then read else addChar read '\\' true
                pieces inner place start fuel level (addChar read d true)
          else if c = '$' then
            Reading.pass [] rest
            let piece? ← dollar inner quoted fuel
            pieces inner place start fuel level (match piece? with
              | some more => more.reverse ++ read
              | none => addChar read '$' quoted)
          else if c = '\x60' then
            let line := (← get).line
            match backquoted (place == .quotes) [] rest with
            | none => Reading.failOpen line "\x60"
            | some (text, rest) =>
                Reading.passTo rest
                pieces inner place start fuel level (.outputOfText text quoted :: read)
          else if !quoted && c = '\'' then
            let line := (← get).line
            let chars := rest.takeWhile fun c => c != '\''
            match rest.drop chars.length with
            | _ :: after =>
                Reading.pass chars after
                pieces inner place start fuel level (addChars (addMark read) chars true)
            | [] => Reading.failOpen line "'"
          else if !quoted && c = '"' then
            let line := (← get).line
            Reading.pass [] rest
            let read ← pieces inner .quotes line fuel 0 (addMark read)
            pieces inner place start fuel level (dropIdleMark read)
          else
            let add (quoted : Bool) : Reading Pieces := do
              Reading.pass [c] rest
              pieces inner place start fuel level (addChar read c quoted)
            match place with
            | .word regular => do
                let grouped := (← get).grouped
                let opensGroup := (regular && c == '(') ||
                  (c == '(' && grouped && match read with
                    | .text (sign :: _) false :: _ => "@?*+!".toList.contains sign
                    | _ => false)
                if level = 0 && (c == '<' || c == '>') && rest.head? = some '(' then
                  Reading.pass [] (rest.drop 1)
                  let script ← nestedScript inner
                  pieces inner place start fuel level (.channel (c == '>') script :: read)
                else if opensGroup || (0 < level && c == '(') then
                  Reading.pass [c] rest
                  pieces inner place start fuel (level + 1) (addChar read c false)
                else if 0 < level then
                  Reading.pass [c] rest
                  pieces inner place start fuel (if c == ')' then level - 1 else level)
                    (addChar read c false)
                else if regular && c == '|' then add false
                else if endsWord c then return read
                else add false
            | .quotes =>
                if c = '"' then
                  Reading.pass [c] rest
                  return read
                else add true
            | .braces inQuotes =>
                -- Single quotes that stand for themselves still keep a closing brace from counting.
                if c = '\'' then
                  Reading.pass [c] rest
                  pieces inner place start fuel (1 - level) (addChar read c inQuotes)
                else if c = '}' && level = 0 then
                  Reading.pass [c] rest
                  return read
                else if c = '"' && 0 < level then
                  Reading.pass [c] rest
                  pieces inner place start fuel level read
                else if c = '"' then
                  let line := (← get).line
                  Reading.pass [c] rest
                  let read ← pieces inner .quotes line fuel 0 (addMark read)
                  pieces inner place start fuel level read
                else add inQuotes
            | .subscript =>
                Reading.pass [c] rest
                if c = ']' && level = 0 then return read
                else
                  let level := if c == '[' then level + 1 else if c == ']' then level - 1 else level
                  pieces inner place start fuel level (addChar read c false)
            | .bracketed =>
                Reading.pass [c] rest
                if c = ']' && level = 0 then return read
                else
                  let level := if c == '[' then level + 1 else if c == ']' then level - 1 else level
                  pieces inner place start fuel level (addChar read c true)
            | .document => add true
            | .arithmetic =>
                Reading.pass [c] rest
                if c = '"' then pieces inner place start fuel level read
                else if c = '(' then pieces inner place start fuel (level + 1) (addChar read c true)
                else if c = ')' then
                  match level, rest with
                  | level + 1, _ => pieces inner place start fuel level (addChar read c true)
                  | 0, ')' :: rest =>
                      Reading.pass [] rest
                      return read
                  | 0, [] => Reading.failOpen start ")"
                  | 0, _ => throw { message := "", line := start, mistaken := true }
                else pieces inner place start fuel level (addChar read c true)

def dollar (inner : Inner) (quoted : Bool) : Nat → Reading (Option Pieces)
  | 0 => Reading.tooLong
  | fuel + 1 => do
      let line := (← get).line
      match ← Reading.rest with
      | '(' :: '(' :: rest => do
          let before ← get
          Reading.pass [] rest
          let attempt : Reading Pieces := pieces inner .arithmetic line fuel 0 []
          match attempt.run (← get) with
          | .ok (read, after) => do
              set after
              return some [.arithmetic (finishPieces read) quoted]
          | .error fault =>
              if fault.mistaken then do
                set before
                Reading.pass [] ('(' :: rest)
                let line := (← get).line
                return some [.output (← nestedScript inner) line quoted]
              else throw fault
      | '(' :: rest => do
          Reading.pass [] rest
          let line := (← get).line
          return some [.output (← nestedScript inner) line quoted]
      | '[' :: rest => do
          Reading.pass [] rest
          let expression ← pieces inner .bracketed line fuel 0 []
          return some [.arithmetic (finishPieces expression) quoted]
      | '\x7b' :: rest => do
          Reading.pass [] rest
          return some [← braced inner quoted line fuel]
      | '\'' :: rest =>
          if quoted then return none
          else
            match escapedQuotes (rest.length + 1) [] rest with
            | some (chars, rest) => do
                Reading.passTo rest
                return some [.text [] true, .text chars.reverse true]
            | none => Reading.failOpen line "'"
      | '"' :: rest =>
          if quoted then return none
          else do
            Reading.pass [] rest
            let read ← pieces inner .quotes line fuel 0 (addMark [])
            return some (dropIdleMark read).reverse
      | text =>
          match text with
          | c :: _ =>
              if c.isDigit then
                Reading.pass [] (text.drop 1)
                return some [.param (.name [c]) .bare [] quoted]
              else
                match paramName? text with
                | some (name, rest) =>
                    Reading.pass [] rest
                    return some [.param (.name name) .bare [] quoted]
                | none => return none
          | [] => return none

def nestedScript (inner : Inner) : Reading Command := do
  let ahead := (← get).ahead
  modify fun source => { source with ahead := none }
  let script ← inner .list
  match (← get).ahead with
  | some (.operator ")") =>
      modify fun source => { source with ahead }
      return script
  | some .ending | none => do
      let source ← get
      Reading.failOpen (source.line + if source.lineText.isEmpty then 0 else 1) ")"
  | some token => unexpected token

def braced (inner : Inner) (quoted : Bool) (line : Nat) : Nat → Reading Piece
  | 0 => Reading.tooLong
  | fuel + 1 => do
      let before ← Reading.rest
      let senseless : Reading Piece := do
        modify fun source => { source with text := before }
        let _ ← pieces inner (.braces quoted) line fuel 0 []
        return .senseless ("$\x7b".toList ++ (← Reading.readSince before))
      -- A name, perhaps with a subscript.
      let target? : Reading (Option Target) := do
        match paramName? (← Reading.rest) with
        | none => return none
        | some (name, rest) => do
            Reading.pass [] rest
            match rest with
            | '[' :: rest =>
                if !isName name then return some (.name name)
                else do
                  Reading.pass [] rest
                  match rest with
                  | '@' :: ']' :: rest => do
                      Reading.pass [] rest
                      return some (.all name false)
                  | '*' :: ']' :: rest => do
                      Reading.pass [] rest
                      return some (.all name true)
                  | _ => do
                      let read ← pieces inner .subscript line fuel 0 []
                      let raw ← Reading.readSince rest
                      return some (.element name raw.dropLast (finishPieces read))
            | _ => return some (.name name)
      let useOf (target : Target) : Reading Piece := do
        match ← Reading.rest with
        | '}' :: rest => do
            Reading.pass [] rest
            return .param target .value [] quoted
        | text =>
            match paramUse? text with
            | none => senseless
            | some (use, rest) => do
                Reading.pass [] rest
                let place := Place.braces (quoted && !standsApart use)
                let word ← pieces inner place line fuel 0 []
                return .param target use (wordsOfUse use (finishPieces word)) quoted
      match before with
      | '#' :: '}' :: rest => do
          Reading.pass [] rest
          return .param (.name ['#']) .value [] quoted
      | '#' :: rest => do
          Reading.pass [] rest
          match ← target?, ← Reading.rest with
          | some target, '}' :: rest => do
              Reading.pass [] rest
              return .param target .length [] quoted
          | _, _ => do
              modify fun source => { source with text := rest }
              useOf (.name ['#'])
      | '!' :: '}' :: rest => do
          Reading.pass [] rest
          return .param (.name ['!']) .value [] quoted
      | '!' :: rest => do
          Reading.pass [] rest
          match ← target?, ← Reading.rest with
          | some (.name name), '*' :: '}' :: rest => do
              Reading.pass [] rest
              return .param (.starting name true) .value [] quoted
          | some (.name name), '@' :: '}' :: rest => do
              Reading.pass [] rest
              return .param (.starting name false) .value [] quoted
          | some (.all name star), '}' :: rest => do
              Reading.pass [] rest
              return .param (.keys name star) .value [] quoted
          | some target, _ => useOf (.named target)
          | none, _ => do
              modify fun source => { source with text := rest }
              useOf (.name ['!'])
      | _ => do
          match ← target? with
          | some target => useOf target
          | none => senseless

end

structure Binding where
  name : Octets
  subscript : Option (Octets × Pieces) := none
  adds : Bool := false

def equalsSign? (text : Octets) : Option (Bool × Octets) :=
  match text with
  | '=' :: rest => some (false, rest)
  | '+' :: '=' :: rest => some (true, rest)
  | _ => none

def markHome (ends : Char → Bool) (word : Pieces) : Pieces :=
  match word with
  | .text ('~' :: chars) false :: rest =>
      let user := chars.takeWhile fun c => c != '/' && !ends c
      let after := chars.drop user.length
      if after.isEmpty && !rest.isEmpty then word
      else .home user :: (if after.isEmpty then rest else .text after false :: rest)
  | word => word

def markHomesFrom : Nat → Bool → Pieces → Pieces
  | 0, _, word => word
  | fuel + 1, start, word =>
      match (if start then markHome (· == ':') word else word) with
      | [] => []
      | .text chars false :: rest =>
          let lead := chars.takeWhile fun c => c != ':'
          match chars.drop lead.length with
          | [] => .text chars false :: markHomesFrom fuel false rest
          | colon :: tail =>
              .text (lead ++ [colon]) false ::
                markHomesFrom fuel true (if tail.isEmpty then rest else .text tail false :: rest)
      | piece :: rest => piece :: markHomesFrom fuel false rest

def markHomes (value : Pieces) : Pieces :=
  markHomesFrom (pieceCount value) true value

/-- The lines of a document up to its delimiter, the text behind it, and whether it was there. A line
that ends in a backslash goes on, where that means something. -/
def documentLines (delimiter : Octets) (dropTabs joins : Bool) :
    Nat → Octets → Bool → Octets → Octets × Octets × Bool
  | 0, read, _, text => (read, text, false)
  | fuel + 1, read, joined, text =>
      if text.isEmpty then (read, [], false)
      else
        let line := text.takeWhile fun c => c != '\n'
        let rest := text.drop line.length
        let kept := if joined then line else dropLeadingTabs dropTabs line
        if !joined && kept = delimiter then (read, rest.drop 1, true)
        else
          let slashes := (kept.reverse.takeWhile (· == '\\')).length
          match rest with
          | [] => (read ++ kept, [], false)
          | _ :: rest =>
              documentLines delimiter dropTabs joins fuel (read ++ kept ++ ['\n'])
                (joins && slashes % 2 == 1) rest

def readDocuments (inner : Inner) : List AwaitedDocument → Reading Unit
  | [] => pure ()
  | awaited :: others => do
      let text ← Reading.rest
      let line := (← get).line
      let (body, rest, ended) :=
        documentLines awaited.delimiter awaited.dropTabs awaited.expanded (text.length + 1) [] false text
      let pieces : Pieces ←
        if awaited.expanded then do
          let outer ← get
          set ({ outer with text := body, ahead := none, awaited := [] } : Source)
          let read ← pieces inner .document line (2 * body.length + 4) 0 []
          let apart ← get
          set { outer with next := apart.next, documents := apart.documents }
          pure (finishPieces read)
        else pure [.text body true]
      Reading.passTo rest
      if !ended then
        modify fun source => { source with
          openDocuments := source.openDocuments ++
            [(awaited.line, source.line + (if source.lineText.isEmpty then 0 else 1),
              awaited.delimiter)] }
      modify fun source =>
        { source with documents := source.documents ++ [(awaited.number, ⟨body, pieces⟩)] }
      readDocuments inner others

def readAwaited (inner : Inner) : Reading Unit := do
  let awaited := (← get).awaited
  modify fun source => { source with awaited := [] }
  readDocuments inner awaited

def redirectSign? (text : Octets) : Option ((Option Holder → Token) × Octets) :=
  let file (access : Scene.Access) (careful : Bool) (sign : String) (rest : Octets) :=
    some ((fun holder => Token.redirect holder (.file access careful) sign), rest)
  match text with
  | '<' :: '<' :: '<' :: rest => some (fun holder => .redirect holder .text "<<<", rest)
  | '<' :: '<' :: '-' :: rest => some (fun holder => .here holder true, rest)
  | '<' :: '<' :: rest => some (fun holder => .here holder false, rest)
  | '<' :: '&' :: rest => some (fun holder => .redirect holder (.copy false) "<&", rest)
  | '<' :: '>' :: rest => file .both false "<>" rest
  | '<' :: rest => file .reading false "<" rest
  | '>' :: '>' :: rest => file .appending false ">>" rest
  | '>' :: '&' :: rest => some (fun holder => .redirect holder (.copy true) ">&", rest)
  | '>' :: '|' :: rest => file .writing false ">|" rest
  | '>' :: rest => file .writing true ">" rest
  | _ => none

def holder? (raw : Octets) : Option Holder :=
  match raw with
  | '\x7b' :: rest =>
      let name := rest.dropLast
      if rest.getLast? = some '\x7d' && isName name then some (.variable name) else none
  | raw =>
      if !raw.isEmpty && raw.all Char.isDigit then
        ((String.ofList raw).toNat?).map Holder.number
      else none

def readWord (inner : Inner) (assignable regular : Bool) : Reading Token := do
  let before ← Reading.rest
  let line := (← get).line
  let fuel := 2 * (← Reading.effort) + 4
  -- Brackets behind a name are read to their end.
  let name := before.takeWhile isNameChar
  let lead : Pieces ←
    match before.drop name.length with
    | '[' :: rest =>
        if assignable && isName name then do
          Reading.pass [] rest
          let inside ← pieces inner .subscript line fuel 0 []
          pure (addChar (inside ++ addChar (addChars [] name false) '[' false) ']' false)
        else pure []
    | _ => pure []
  let rest ← Reading.rest
  let sign :=
    if !assignable || !isName name then none
    else equalsSign? (if lead.isEmpty then rest.drop name.length else rest)
  let finish (read : Pieces) : Reading Token := do
    let read ← pieces inner (.word regular) line fuel 0 read
    return .word (← Reading.readSince before) (finishPieces read)
  match sign with
  | some (adds, '(' :: rest) => do
      Reading.passTo rest
      let items ← listItems inner fuel fuel []
      let lead := if lead.isEmpty then addChars [] name false else lead
      let lead := addChars lead (if adds then ['+', '='] else ['=']) false
      finish (.elements items :: lead)
  | _ => finish lead
where
  listItems (inner : Inner) (size : Nat) : Nat → List (Option Pieces × Bool × Pieces) →
      Reading (List (Option Pieces × Bool × Pieces))
    | 0, _ => Reading.tooLong
    | fuel + 1, items => do
        Reading.skipBlanks (← Reading.effort)
        let line := (← get).line
        match ← Reading.rest with
        | [] => Reading.failOpen line ")"
        | '\n' :: rest => do
            Reading.pass ['\n'] rest
            listItems inner size fuel items
        | ')' :: rest => do
            Reading.pass [] rest
            return items.reverse
        | '[' :: rest => do
            let before ← get
            Reading.pass [] rest
            let subscript ← pieces inner .subscript line size 0 []
            match equalsSign? (← Reading.rest) with
            | some (adds, rest) => do
                Reading.passTo rest
                let value ← pieces inner (.word false) line size 0 []
                let item := (some (finishPieces subscript), adds, finishPieces value)
                listItems inner size fuel (item :: items)
            | none => do
                set before
                plainItem inner size fuel items
        | c :: _ =>
            if endsWord c && c != '<' && c != '>' then do
              modify fun source => { source with tokenLine := source.line, tokenText := source.lineText }
              unexpected (.operator c.toString)
            else plainItem inner size fuel items
  termination_by fuel => (fuel, 0)
  plainItem (inner : Inner) (size : Nat) (fuel : Nat) (items : List (Option Pieces × Bool × Pieces)) :
      Reading (List (Option Pieces × Bool × Pieces)) := do
    let line := (← get).line
    let before ← Reading.rest
    let value ← pieces inner (.word false) line size 0 []
    if (← Reading.rest).length = before.length then
      modify fun source => { source with tokenLine := source.line, tokenText := source.lineText }
      unexpected (.operator (String.ofList (before.take 1)))
    listItems inner size fuel
      ((none, false, finishPieces value) :: items)
  termination_by (fuel, 1)

def nextTokenAt (inner : Inner) (assignable regular : Bool) : Reading Token := do
  match (← get).ahead with
  | some token =>
      modify fun source => { source with ahead := none }
      return token
  | none => do
      Reading.skipBlanks (← Reading.effort)
      modify fun source => { source with tokenLine := source.line, tokenText := source.lineText }
      let sign (text : String) (rest : Octets) : Reading Token := do
        Reading.pass [] rest
        return .operator text
      let redirect (token : Token) (rest : Octets) : Reading Token := do
        Reading.pass [] rest
        return token
      match ← Reading.rest with
      | [] => do
          readAwaited inner
          return .ending
      | '\n' :: rest => do
          Reading.pass ['\n'] rest
          let source ← get
          readAwaited inner
          modify fun after => { after with
            tokenLine := source.tokenLine, tokenText := source.tokenText }
          return .newline
      | '&' :: '&' :: rest => sign "&&" rest
      | '&' :: '>' :: '>' :: rest => redirect (.redirect none (.both true) "&>>") rest
      | '&' :: '>' :: rest => redirect (.redirect none (.both false) "&>") rest
      | '&' :: rest => sign "&" rest
      | '|' :: '|' :: rest => sign "||" rest
      | '|' :: '&' :: rest => sign "|&" rest
      | '|' :: rest => sign "|" rest
      | ';' :: ';' :: '&' :: rest => sign ";;&" rest
      | ';' :: ';' :: rest => sign ";;" rest
      | ';' :: '&' :: rest => sign ";&" rest
      | ';' :: rest => sign ";" rest
      | '(' :: rest => if regular then readWord inner false true else sign "(" rest
      | ')' :: rest => sign ")" rest
      | text =>
          let channel := match text with
            | '<' :: '(' :: _ | '>' :: '(' :: _ => true
            | _ => false
          match (if channel then none else redirectSign? text) with
          | some (token, rest) => redirect (token none) rest
          | none => do
              let token ← readWord inner assignable regular
              match token with
              | .word raw _ =>
                  let after ← Reading.rest
                  let starts := after.head? = some '<' || after.head? = some '>'
                  match (if starts then holder? raw else none), redirectSign? after with
                  | some holder, some (token, rest) => redirect (token (some holder)) rest
                  | _, _ => return token
              | token => return token

def nextToken (inner : Inner) : Reading Token :=
  nextTokenAt inner false false

def putBack (token : Token) : Reading Unit :=
  modify fun source => { source with ahead := some token }

def aliasOf? (source : Source) (token : Token) : Option (Octets × Octets) :=
  match token with
  | .word name _ =>
      let inUse := source.opened.any fun (other, left, _) =>
        other = name && left ≤ source.text.length
      if inUse || source.aliases.isEmpty then none
      else (source.aliases.lookup name).map fun text => (name, text)
  | _ => none

def openAlias (name text : Octets) : Reading Unit :=
  modify fun source =>
    let entry := (name, source.text.length, text.getLast? = some ' ' || text.getLast? = some '\t')
    { source with
      text := text ++ source.text
      size := source.size + text.length
      ahead := none
      opened := entry :: source.opened.filter fun (_, left, _) => left ≤ source.text.length }

def aliasLimit : Nat := 1000

def commandToken (inner : Inner) : Nat → Reading Token
  | 0 => nextToken inner
  | fuel + 1 => do
      let token ← nextTokenAt inner true false
      match token with
      | .word text _ =>
          let source ← get
          match (if isKeyword text then none else aliasOf? source token) with
          | some (name, text) => do
              openAlias name text
              commandToken inner fuel
          | none => return token
      | token => return token

def laterToken (inner : Inner) (wanted assignable : Bool) : Nat → Reading Token
  | 0 => nextToken inner
  | fuel + 1 => do
      let before ← get
      let token ← nextTokenAt inner assignable false
      let after ← get
      let behindBlank := before.ahead.isNone && before.opened.any fun (_, left, blank) =>
        blank && left < before.text.length && after.text.length < left
      match (if wanted || behindBlank then aliasOf? after token else none) with
      | some (name, text) => do
          openAlias name text
          laterToken inner true assignable fuel
      | none => return token

def skipNewlines (inner : Inner) : Nat → Reading Unit
  | 0 => pure ()
  | fuel + 1 => do
      match ← commandToken inner aliasLimit with
      | .newline => skipNewlines inner fuel
      | token => putBack token

def skipAllNewlines (inner : Inner) : Reading Unit := do
  skipNewlines inner ((← Reading.effort) + 2)

def expectWord (inner : Inner) (expected : String) : Reading Unit := do
  let token ← nextToken inner
  match token with
  | .word raw _ => if raw = expected.toList then pure () else unexpected token
  | token => unexpected token

def closingWords : List String :=
  ["then", "else", "elif", "fi", "do", "done", "esac", "\x7d", "]]"]

def isClosingWord (text : Octets) : Bool :=
  closingWords.contains (String.ofList text) && text != ['[', '['] && text != [']', ']']

/-- A word in which nothing but quotes is special: its text, whether there were quotes, and what is
behind it. None if a quote has no end. -/
def quotedWord : Nat → Octets → Bool → Octets → Option (Octets × Bool × Octets)
  | 0, _, _, _ => none
  | fuel + 1, read, quoted, text =>
      match text with
      | [] => some (read, quoted, [])
      | '\\' :: '\n' :: rest => quotedWord fuel read quoted rest
      | '\\' :: c :: rest => quotedWord fuel (read ++ [c]) true rest
      | '$' :: '\'' :: rest =>
          match escapedQuotes (rest.length + 1) [] rest with
          | some (chars, rest) => quotedWord fuel (read ++ chars) true rest
          | none => none
      | c :: rest =>
          if c == '\'' || c == '"' then
            let chars := rest.takeWhile fun other => other != c
            match rest.drop chars.length with
            | [] => none
            | _ :: rest => quotedWord fuel (read ++ chars) true rest
          else if endsWord c then some (read, quoted, text)
          else quotedWord fuel (read ++ [c]) quoted rest

def awaitDocument (inner : Inner) (dropTabs : Bool) : Reading (Nat × Octets) := do
  Reading.skipBlanks (← Reading.effort)
  let text ← Reading.rest
  if (text.head?.map endsWord).getD true then unexpected (← nextToken inner)
  match quotedWord ((← Reading.effort) + 1) [] false text with
  | none => Reading.failOpen (← get).line "'"
  | some (delimiter, quoted, rest) => do
      Reading.passTo rest
      let raw ← Reading.readSince text
      let number := (← get).next
      let line := (← get).line
      let document : AwaitedDocument := ⟨number, delimiter, dropTabs, !quoted, line⟩
      modify fun source => { source with
        next := number + 1
        awaited := source.awaited ++ [document] }
      return (number, raw)

def redirection (inner : Inner) (token : Token) : Reading Redirection := do
  match token with
  | .redirect holder kind _ => do
      match ← nextToken inner with
      | .word raw word => return .open holder kind raw word
      | token => unexpected token
  | .here holder dropTabs => do
      let (number, delimiter) ← awaitDocument inner dropTabs
      return .here holder number delimiter dropTabs
  | token => unexpected token

def redirections (inner : Inner) : Nat → List Redirection → Reading (List Redirection)
  | 0, read => return read.reverse
  | fuel + 1, read => do
      let token ← nextToken inner
      match token with
      | .redirect _ _ _ | .here _ _ =>
          redirections inner fuel ((← redirection inner token) :: read)
      | token =>
          putBack token
          return read.reverse

def binding? (word : Pieces) : Option (Binding × Pieces) :=
  match word with
  | .text chars false :: rest =>
      let name := chars.takeWhile isNameChar
      let after := chars.drop name.length
      if !isName name then none
      else
        let value (text : Octets) (rest : Pieces) : Pieces :=
          if text.isEmpty then rest else .text text false :: rest
        match equalsSign? after, after with
        | some (adds, text), _ => some ({ name, adds }, value text rest)
        | none, '[' :: inside =>
            let word := value inside rest
            match closing? (pieceCount word) 0 [] word with
            | some (subscript, .text after false :: rest) =>
                match equalsSign? after with
                | some (adds, text) =>
                    some ({ name, subscript := some (rawOf subscript, subscript), adds }, value text rest)
                | none => none
            | _ => none
        | none, _ => none
  | _ => none
where
  closing? : Nat → Nat → Pieces → Pieces → Option (Pieces × Pieces)
    | 0, _, _, _ => none
    | fuel + 1, level, before, pieces =>
        match pieces with
        | [] => none
        | .text (c :: chars) false :: rest =>
            let after : Pieces := if chars.isEmpty then rest else .text chars false :: rest
            if c == ']' && level = 0 then some (finishPieces before, after)
            else
              let level := if c == '[' then level + 1 else if c == ']' then level - 1 else level
              closing? fuel level (addChar before c false) after
        | .text [] false :: rest => closing? fuel level before rest
        | .text chars quoted :: rest =>
            closing? fuel level (.text chars.reverse quoted :: before) rest
        | piece :: rest => closing? fuel level (piece :: before) rest
  rawOf (pieces : Pieces) : Octets :=
    pieces.flatMap fun piece =>
      match piece with
      | .text chars _ => chars
      | _ => []

def takesAssignments (name : Octets) : Bool :=
  ["declare", "typeset", "local", "export", "readonly", "alias"].contains (String.ofList name)

structure Begun where
  assignments : List Word := []
  words : List Word := []
  redirections : List Redirection := []
  line : Option Nat := none

def Begun.command (begun : Begun) (line : Nat) : Command :=
  .simple begun.assignments.reverse begun.words.reverse begun.redirections.reverse
    (begun.line.getD line)

def Begun.onLine (begun : Begun) (line : Nat) : Begun :=
  { begun with line := some (begun.line.getD line) }

def Begun.declares (begun : Begun) : Bool :=
  match begun.words.reverse.dropWhile fun word =>
    word.1 = "command".toList || word.1 = "builtin".toList with
  | (name, _) :: _ => takesAssignments name
  | [] => false

def isFunctionName (raw : Octets) : Bool :=
  !raw.isEmpty && !raw.any fun c => "$\x60'\"\\<>&|;()".toList.contains c

def functionBody (inner : Inner) (name : Octets) : Reading Command := do
  skipAllNewlines inner
  let token ← commandToken inner aliasLimit
  let starts := match token with
    | .operator "(" => true
    | .word text _ =>
        ["\x7b", "if", "while", "until", "for", "case", "select", "[[", "("].contains (String.ofList text)
    | _ => false
  if !starts then unexpected token
  putBack token
  return .define name (← inner .command)

def simpleCommand (inner : Inner) (line : Nat) : Nat → Begun → Reading Command
  | 0, begun => return begun.command line
  | fuel + 1, begun => do
      let assignable := begun.words.isEmpty || begun.declares
      let token ← laterToken inner begun.words.isEmpty assignable aliasLimit
      let source ← get
      let begun := if begun.words.isEmpty then begun
        else begun.onLine (match token with
          | .newline | .ending => source.tokenLine
          | _ => source.line)
      match token with
      | .word raw word =>
          if begun.words.isEmpty && (binding? word).isSome then
            simpleCommand inner line fuel
              { begun.onLine source.line with assignments := (raw, word) :: begun.assignments }
          else
            simpleCommand inner line fuel
              { begun with words := (raw, word) :: begun.words }
      | .redirect _ _ _ | .here _ _ =>
          let redirection ← redirection inner token
          simpleCommand inner line fuel
            { begun.onLine (← get).line with redirections := redirection :: begun.redirections }
      | .operator "(" =>
          match begun.words, begun.assignments, begun.redirections with
          | [(raw, _)], [], [] => do
              if !isFunctionName raw then unexpected token
              match ← nextToken inner with
              | .operator ")" => functionBody inner raw
              | token => unexpected token
          | _, _, _ => unexpected token
      | token =>
          putBack token
          return begun.command line

def innerList (inner : Inner) : Reading Command := do
  match ← inner .list with
  | .nothing => do unexpected (← nextToken inner)
  | command => return command

def conditional (inner : Inner) : Nat → Reading Command
  | 0 => Reading.tooLong
  | fuel + 1 => do
      let condition ← innerList inner
      expectWord inner "then"
      let first ← innerList inner
      let token ← nextToken inner
      match token with
      | .word text _ =>
          match String.ofList text with
          | "elif" => return .choice condition first (← conditional inner fuel)
          | "else" =>
              let second ← innerList inner
              expectWord inner "fi"
              return .choice condition first second
          | "fi" => return .choice condition first .nothing
          | _ => unexpected token
      | token => unexpected token

def loopWords (inner : Inner) : Nat → List Word → Reading (List Word)
  | 0, read => return read.reverse
  | fuel + 1, read => do
      match ← nextToken inner with
      | .word raw word => loopWords inner fuel ((raw, word) :: read)
      | .operator ";" | .newline => return read.reverse
      | token => unexpected token

def loopBody (inner : Inner) : Reading Command := do
  let token ← commandToken inner aliasLimit
  match token with
  | .word ['d', 'o'] _ => do
      let body ← innerList inner
      expectWord inner "done"
      return body
  | .word ['\x7b'] _ => do
      let body ← innerList inner
      expectWord inner "\x7d"
      return body
  | token => unexpected token

def arithmetic? (inner : Inner) : Reading (Option Word) := do
  let before ← get
  let attempt : Reading Pieces :=
    pieces inner .arithmetic before.line (2 * before.size + 4) 0 []
  match attempt.run before with
  | .ok (read, after) => do
      set after
      let raw ← Reading.readSince before.text
      return some (raw.take (raw.length - 2), finishPieces read)
  | .error fault => if fault.mistaken then return none else throw fault

def splitCounting (word : Word) : Option (Word × Word × Word) :=
  let pieces := unquoted word.2
  match splitPieces ';' false (pieceCount pieces) 0 0 [] pieces with
  | none => none
  | some (first, rest) =>
      match splitPieces ';' false (pieceCount rest) 0 0 [] rest with
      | none => none
      | some (second, third) =>
          match Text.splitOn ';' word.1 with
          | [a, b, c] => some ((trim a, first), (trim b, second), (trim c, third))
          | _ => some (([], first), ([], second), ([], third))
where
  trim (text : Octets) : Octets :=
    text.dropWhile fun c => c == ' ' || c == '\t' || c == '\n'
  unquoted (pieces : Pieces) : Pieces :=
    pieces.map fun piece =>
      match piece with
      | .text chars _ => .text chars false
      | piece => piece

def behindHead (inner : Inner) : Reading Command := do
  match ← nextToken inner with
  | .operator ";" => pure ()
  | token => putBack token
  skipAllNewlines inner
  loopBody inner

def eachLoop (inner : Inner) (menu : Bool) (line : Nat) : Reading Command := do
  let token ← nextToken inner
  match token with
  | .operator "(" => do
      match menu, ← Reading.rest with
      | false, '(' :: rest => do
          Reading.pass [] rest
          match ← arithmetic? inner with
          | none => unexpected token
          | some word =>
              match splitCounting word with
              | some (first, condition, step) =>
                  return .counted first condition step (← behindHead inner) line
              | none => unexpected token
      | _, _ => unexpected token
  | .word name _ => do
      skipAllNewlines inner
      let token ← nextToken inner
      match token with
      | .word ['i', 'n'] _ => do
          let words ← loopWords inner ((← Reading.effort) + 1) []
          skipAllNewlines inner
          return .each menu name (some words) (← loopBody inner) line
      | .operator ";" => do
          skipAllNewlines inner
          return .each menu name none (← loopBody inner) line
      | token => do
          putBack token
          return .each menu name none (← loopBody inner) line
  | token => unexpected token

def branchPatterns (inner : Inner) : Nat → List Word → Reading (List Word)
  | 0, read => return read.reverse
  | fuel + 1, read => do
      let token ← nextToken inner
      match token with
      | .word raw word => do
          match ← nextToken inner with
          | .operator "|" => branchPatterns inner fuel ((raw, word) :: read)
          | .operator ")" => return ((raw, word) :: read).reverse
          | token => unexpected token
      | token => unexpected token

def branches (inner : Inner) :
    Nat → List (List Word × Command × BranchEnd) → Reading (List (List Word × Command × BranchEnd))
  | 0, read => return read.reverse
  | fuel + 1, read => do
      skipAllNewlines inner
      match ← nextToken inner with
      | .word ['e', 's', 'a', 'c'] _ => return read.reverse
      | token => do
          match token with
          | .operator "(" => pure ()
          | token => putBack token
          let patterns ← branchPatterns inner ((← Reading.effort) + 2) []
          let body ← inner .list
          match ← nextToken inner with
          | .operator ";;" => branches inner fuel ((patterns, body, .leave) :: read)
          | .operator ";&" => branches inner fuel ((patterns, body, .fall) :: read)
          | .operator ";;&" => branches inner fuel ((patterns, body, .goOn) :: read)
          | .word ['e', 's', 'a', 'c'] _ => return ((patterns, body, .leave) :: read).reverse
          | token => unexpected token

def caseCommand (inner : Inner) (line : Nat) : Reading Command := do
  match ← nextToken inner with
  | .word raw word => do
      skipAllNewlines inner
      expectWord inner "in"
      return .match raw word
        (← branches inner ((← Reading.effort) + 2) []) line
  | token => unexpected token

def isUnaryTest (text : Octets) : Bool :=
  match text with
  | ['-', c] => "abcdefghknoprstuvwxzGLNORS".toList.contains c
  | _ => false

def binaryTests : List String :=
  ["=", "==", "!=", "=~", "<", ">", "-eq", "-ne", "-lt", "-le", "-gt", "-ge", "-nt", "-ot", "-ef"]

def badCondition {α : Type} (token : Token) (what : String) : Reading α := do
  match token with
  | .ending => Reading.failAtEnd
  | token => do
      let source ← get
      throw {
        message := what ++ "\n" ++ "syntax error near \x60" ++ token.text ++ "'"
        line := source.tokenLine
        shown := some (source.tokenText.takeWhile fun c => c != '\n') }

def binaryOrFilled (inner : Inner) (raw : Octets) (word : Pieces) : Reading Condition := do
  let next ← nextToken inner
  let operator := match next with
    | .word text _ => String.ofList text
    | .redirect none _ sign => sign
    | _ => ""
  if !binaryTests.contains operator then
    match next with
    | .word text _ =>
        if text = "]]".toList then do
          putBack next
          return .filled raw word
        else badCondition next "conditional binary operator expected"
    | .operator "&&" | .operator "||" | .operator ")" | .newline => do
        putBack next
        return .filled raw word
    | token =>
        badCondition token ("unexpected token \x60" ++ token.text ++ "', conditional binary operator expected")
  else
    let before := (← get).grouped
    modify fun source => { source with
      grouped := before || operator = "==" || operator = "=" || operator = "!=" }
    let operand ← nextTokenAt inner false (operator = "=~")
    modify fun source => { source with grouped := before }
    match operand with
    | .word rawRight right =>
        return .binary operator raw word rawRight right
    | token =>
        badCondition token ("unexpected argument \x60" ++ token.text ++ "' to conditional binary operator")

mutual

def orCondition (inner : Inner) : Nat → Reading Condition
  | 0 => Reading.tooLong
  | fuel + 1 => do
      let first ← andCondition inner fuel
      skipAllNewlines inner
      match ← nextToken inner with
      | .operator "||" => return .or first (← orCondition inner fuel)
      | token => do
          putBack token
          return first

def andCondition (inner : Inner) : Nat → Reading Condition
  | 0 => Reading.tooLong
  | fuel + 1 => do
      let first ← oneCondition inner fuel
      skipAllNewlines inner
      match ← nextToken inner with
      | .operator "&&" => return .and first (← andCondition inner fuel)
      | token => do
          putBack token
          return first

def oneCondition (inner : Inner) : Nat → Reading Condition
  | 0 => Reading.tooLong
  | fuel + 1 => do
      skipAllNewlines inner
      let token ← nextToken inner
      match token with
      | .operator "(" => do
          let condition ← orCondition inner fuel
          skipAllNewlines inner
          match ← nextToken inner with
          | .operator ")" => return .group condition
          | token => badCondition token "expected \x60)'"
      | .word ['!'] _ => return .not (← oneCondition inner fuel)
      | .word raw word =>
          if raw = "]]".toList then
            badCondition token "syntax error in conditional expression"
          else if isUnaryTest raw then do
            let next ← nextToken inner
            match next with
            | .word rawWord word =>
                if rawWord = "]]".toList then do
                  putBack next
                  return .filled raw [.text raw false]
                else return .unary (String.ofList raw) rawWord word
            | .operator "&&" | .operator "||" | .operator ")" => do
                putBack next
                return .filled raw [.text raw false]
            | token =>
                badCondition token
                  ("unexpected argument \x60" ++ token.text ++ "' to conditional unary operator")
          else binaryOrFilled inner raw word
      | token =>
          badCondition token ("unexpected token \x60" ++ token.text ++ "' in conditional command")

end

def conditionCommand (inner : Inner) (line : Nat) : Reading Command := do
  let condition ← orCondition inner (2 * (← Reading.effort) + 4)
  skipAllNewlines inner
  let token ← nextToken inner
  match token with
  | .word [']', ']'] _ => return .test condition line
  | token => badCondition token "syntax error in conditional expression"

def compound? (inner : Inner) (line : Nat) (text : Octets) : Option (Reading Command) :=
  match String.ofList text with
  | "if" => some do conditional inner ((← Reading.effort) + 2)
  | "while" => some do
      let condition ← innerList inner
      return .loop false condition (← loopBody inner)
  | "until" => some do
      let condition ← innerList inner
      return .loop true condition (← loopBody inner)
  | "for" => some (eachLoop inner false line)
  | "select" => some (eachLoop inner true line)
  | "case" => some (caseCommand inner line)
  | "[[" => some (conditionCommand inner line)
  | "\x7b" => some do
      let body ← innerList inner
      expectWord inner "\x7d"
      return .group body
  | _ => none

def withRedirections (inner : Inner) (command : Command) : Reading Command := do
  match ← redirections inner ((← Reading.effort) + 2) [] with
  | [] => return command
  | redirections => return .redirected command redirections

def functionCommand (inner : Inner) : Reading Command := do
  match ← nextToken inner with
  | .word name _ => do
      match ← nextToken inner with
      | .operator "(" => do
          match ← nextToken inner with
          | .operator ")" => functionBody inner name
          | token => unexpected token
      | token => do
          putBack token
          functionBody inner name
  | token => unexpected token

def partnerCommand (inner : Inner) : Reading Command := do
  let usual := "COPROC".toList
  let token ← commandToken inner aliasLimit
  match token with
  | .word name _ =>
      if isKeyword name || !isName name then do
        putBack token
        return .partner usual (← inner .command)
      else do
        let next ← commandToken inner aliasLimit
        match next with
        | .operator "(" => do
            putBack next
            return .partner name (← inner .command)
        | .word text _ =>
            putBack next
            if (compound? inner 0 text).isSome then return .partner name (← inner .command)
            else
              let line := (← get).line
              return .partner usual
                (← simpleCommand inner line ((← Reading.effort) + 4) { words := [(name, [.text name false])] })
        | _ => do
            putBack next
            let line := (← get).line
            return .partner usual
              (← simpleCommand inner line ((← Reading.effort) + 4) { words := [(name, [.text name false])] })
  | token => do
      putBack token
      return .partner usual (← inner .command)

def readCommand (inner : Inner) : Reading Command := do
  let token ← commandToken inner aliasLimit
  let line := (← get).tokenLine
  match token with
  | .operator "(" => do
      let computed ←
        match ← Reading.rest with
        | '(' :: rest => do
            let before ← get
            Reading.pass [] rest
            match ← arithmetic? inner with
            | some word => pure (some word)
            | none => do
                set before
                pure none
        | _ => pure none
      match computed with
      | some (raw, expression) => withRedirections inner (.compute raw expression line)
      | none => do
          let body ← innerList inner
          match ← nextToken inner with
          | .operator ")" => withRedirections inner (.subshell body)
          | token => unexpected token
  | .word raw word =>
      match compound? inner line raw with
      | some compound => withRedirections inner (← compound)
      | none =>
          if raw = "function".toList then functionCommand inner
          else if raw = "coproc".toList then partnerCommand inner
          else if isClosingWord raw || raw = "in".toList then
            if raw = "in".toList then do
              putBack (.word raw word)
              simpleCommand inner line ((← Reading.effort) + 4) {}
            else unexpected token
          else do
            putBack (.word raw word)
            simpleCommand inner line ((← Reading.effort) + 4) {}
  | .redirect _ _ _ | .here _ _ => do
      putBack token
      simpleCommand inner line ((← Reading.effort) + 4) {}
  | token => unexpected token

def withComplaints : Command → Command :=
  let both : Redirection := .open (some (.number 2)) (.copy true) ['1'] [.text ['1'] false]
  fun command =>
    match command with
    | .simple assignments words redirections line =>
        .simple assignments words (redirections ++ [both]) line
    | .redirected command redirections => .redirected command (redirections ++ [both])
    | command => .redirected command [both]

def laterPart (inner : Inner) : Reading Command := do
  skipAllNewlines inner
  match ← commandToken inner aliasLimit with
  | .word ['!'] pieces => unexpected (.word ['!'] pieces)
  | token => do
      putBack token
      readCommand inner

def pipelineParts (inner : Inner) : Nat → List Command → Reading (List Command)
  | 0, read => return read.reverse
  | fuel + 1, read => do
      match ← nextToken inner with
      | .operator "|" => do pipelineParts inner fuel ((← laterPart inner) :: read)
      | .operator "|&" => do
          let read := match read with
            | last :: others => withComplaints last :: others
            | [] => []
          pipelineParts inner fuel ((← laterPart inner) :: read)
      | token => do
          putBack token
          return read.reverse

def readPipeline (inner : Inner) : Nat → Reading Command
  | 0 => Reading.tooLong
  | fuel + 1 => do
      let token ← commandToken inner aliasLimit
      let idle (token : Token) : Bool :=
        match token with
        | .newline | .ending | .operator ";" | .operator "&" | .operator ")" => true
        | _ => false
      match token with
      | .word ['!'] _ => do
          let next ← commandToken inner aliasLimit
          putBack next
          if idle next then return .negated (.simple [] [] [] (← get).tokenLine)
          else return .negated (← readPipeline inner fuel)
      | .word ['t', 'i', 'm', 'e'] _ => do
          let next ← commandToken inner aliasLimit
          let short := match next with
            | .word ['-', 'p'] _ => true
            | _ => false
          if !short then putBack next
          let next ← if short then commandToken inner aliasLimit else do
            modify fun source => { source with ahead := none }
            pure next
          putBack next
          if idle next then return .timed short (.simple [] [] [] (← get).tokenLine)
          else return .timed short (← readPipeline inner fuel)
      | token => do
          putBack token
          let first ← readCommand inner
          match ← pipelineParts inner ((← Reading.effort) + 2) [first] with
          | [] => return first
          | [only] => return only
          | parts => return .pipeline parts

def readOne (inner : Inner) : Reading Command := do
  readPipeline inner ((← Reading.effort) + 2)

def readChain (inner : Inner) : Nat → Command → Reading Command
  | 0, read => return read
  | fuel + 1, read => do
      match ← nextToken inner with
      | .operator "&&" =>
          skipAllNewlines inner
          readChain inner fuel (.both read (← readOne inner))
      | .operator "||" =>
          skipAllNewlines inner
          readChain inner fuel (.either read (← readOne inner))
      | token =>
          putBack token
          return read

def readLogical (inner : Inner) : Reading Command := do
  let first ← readOne inner
  readChain inner ((← Reading.effort) + 2) first

def thenCommand : Command → Command → Command
  | .nothing, second => second
  | first, second => .sequence first second

def endsList : Token → Bool
  | .ending | .operator ")" | .operator ";;" | .operator ";&" | .operator ";;&" => true
  | .word text _ => isClosingWord text
  | _ => false

def readList (inner : Inner) : Nat → Command → Reading Command
  | 0, read => return read
  | fuel + 1, read => do
      skipAllNewlines inner
      let token ← commandToken inner aliasLimit
      putBack token
      if endsList token then return read
      else
        let command ← readLogical inner
        match ← nextToken inner with
        | .operator "&" => readList inner fuel (thenCommand read (.background command))
        | .operator ";" | .newline => readList inner fuel (thenCommand read command)
        | token =>
            putBack token
            return thenCommand read command

def readLine (inner : Inner) : Nat → Command → Reading Command
  | 0, read => return read
  | fuel + 1, read => do
      let token ← commandToken inner aliasLimit
      match token with
      | .newline => return read
      | .ending =>
          putBack token
          return read
      | token =>
          putBack token
          let command ← readLogical inner
          match ← nextToken inner with
          | .operator "&" => readLine inner fuel (thenCommand read (.background command))
          | .operator ";" => readLine inner fuel (thenCommand read command)
          | .newline => return thenCommand read command
          | .ending =>
              putBack .ending
              return thenCommand read command
          | token => unexpected token

def nestedReader : Nat → Inner
  | 0, _ => Reading.tooLong
  | depth + 1, .list => do
      readList (nestedReader depth) ((← Reading.effort) + 2) .nothing
  | depth + 1, .command => readCommand (nestedReader depth)

def nestingLimit : Nat := 1000

inductive NextCommand where
  | command (command : Command) (rest : Source)
  | done (rest : Source)
  | fault (fault : SyntaxFault)

def piecesOfText (text : Octets) : Pieces :=
  let reader := pieces (nestedReader nestingLimit) .document 1 (2 * text.length + 4) 0 []
  match reader { text } with
  | .ok (read, _) => finishPieces read
  | .error _ => [.text text true]

def nextCommand (source : Source) : NextCommand :=
  let reader := readLine (nestedReader nestingLimit) (source.size + 2) .nothing
  match reader { source with ahead := none } with
  | .error fault => .fault fault
  | .ok (command, rest) =>
      match command, rest.ahead with
      | .nothing, some .ending => .done rest
      | command, _ => .command command rest

end ArtifactPipeline.RichShell
