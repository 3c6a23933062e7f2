import ArtifactPipeline.Host.Shell.Syntax

set_option autoImplicit false

namespace ArtifactPipeline.Shell

open Text (Octets)

structure SyntaxFault where
  message : String
  line : Nat
  deriving DecidableEq, Repr

inductive Token where
  | newline
  | ending
  | semicolon
  | branchEnd
  | ampersand
  | bothMark
  | eitherMark
  | pipe
  | opening
  | closing
  | redirect (descriptor : Nat) (kind : RedirectKind)
  | here (descriptor : Nat) (dropTabs : Bool)
  | word (word : Word) (plain : Option Octets)

structure AwaitedDocument where
  number : Nat
  delimiter : Octets
  dropTabs : Bool
  expanded : Bool

structure Source where
  text : Octets
  size : Nat := text.length
  line : Nat := 1
  ahead : Option Token := none
  awaited : List AwaitedDocument := []
  documents : List (Nat × HereDocument) := []
  next : Nat := 0
  aliases : List (Octets × Octets) := []
  opened : List (Octets × Nat × Bool) := []

abbrev Reading := StateT Source (Except SyntaxFault)

namespace Reading

def fail {α : Type} (message : String) : Reading α := do
  throw ⟨"Syntax error: " ++ message, (← get).line⟩

def rest : Reading Octets := do
  return (← get).text

def effort : Reading Nat := do
  return (← get).size

def pass (passed text : Octets) : Reading Unit :=
  modify fun source => { source with text, line := source.line + passed.count '\n' }

def passTo (text : Octets) : Reading Unit := do
  let whole ← rest
  pass (whole.take (whole.length - text.length)) text

def skipBlanks (folds : Nat) : Nat → Octets → Octets × Nat
  | 0, text => (text, folds)
  | fuel + 1, text =>
      match text with
      | ' ' :: rest | '\t' :: rest => skipBlanks folds fuel rest
      | '\\' :: '\n' :: rest => skipBlanks (folds + 1) fuel rest
      | '#' :: rest => skipBlanks folds fuel (rest.dropWhile fun c => c != '\n')
      | text => (text, folds)

def unfolded (test : Char → Bool) : Octets → Octets × Nat
  | '\\' :: '\n' :: rest =>
      let (text, folds) := unfolded test rest
      (text, folds + 1)
  | c :: rest =>
      if test c then
        let (text, folds) := unfolded test rest
        (c :: text, folds)
      else (c :: rest, 0)
  | [] => ([], 0)

def unfold (test : Char → Bool) : Reading Octets := do
  let (text, folds) := unfolded test (← rest)
  modify fun source => { source with text, line := source.line + folds }
  return text

end Reading

inductive Nested where
  | list
  | command

abbrev Inner := Nested → Reading Command

inductive Place where
  | word
  | quotes
  | braces (quoted : Bool)
  | arithmetic
  | document
  deriving DecidableEq

def endsWord (c : Char) : Bool :=
  c == ' ' || c == '\t' || c == '\n' || c == ';' || c == '&' || c == '|' || c == '<' || c == '>' ||
    c == '(' || c == ')'

def addChar (pieces : Word) (c : Char) (quoted : Bool) : Word :=
  match pieces with
  | .text chars q :: rest =>
      if q == quoted then .text (c :: chars) q :: rest else .text [c] quoted :: pieces
  | _ => .text [c] quoted :: pieces

def finishPieces (pieces : Word) : Word :=
  (pieces.map fun piece =>
    match piece with
    | .text chars quoted => .text chars.reverse quoted
    | piece => piece).reverse

def addMark (pieces : Word) : Word :=
  .text [] true :: pieces

def dropIdleMark (pieces : Word) : Word :=
  match pieces with
  | .param ['@'] .value [] true :: .text [] true :: rest => .param ['@'] .value [] true :: rest
  | pieces => pieces

def isSpecialParam (c : Char) : Bool :=
  c == '@' || c == '*' || c == '#' || c == '?' || c == '-' || c == '$' || c == '!'

def backquoted (quoted : Bool) : Octets → Octets → Option (Octets × Octets)
  | _, [] => none
  | read, '\x60' :: rest => some (read.reverse, rest)
  | read, '\\' :: '\n' :: rest => backquoted quoted read rest
  | read, '\\' :: c :: rest =>
      if c == '\\' || c == '$' || c == '\x60' || (quoted && c == '"') then
        backquoted quoted (c :: read) rest
      else backquoted quoted (c :: '\\' :: read) rest
  | read, c :: rest => backquoted quoted (c :: read) rest

def readApart (inner : Inner) (text : Octets) : Reading Command := do
  let outer ← get
  set ({
    text
    line := outer.line
    documents := outer.documents
    next := outer.next
    aliases := outer.aliases } : Source)
  let command ← inner .list
  let apart ← get
  set { outer with documents := apart.documents, next := apart.next }
  return command

def keywords : List String :=
  ["!", "case", "do", "done", "elif", "else", "esac", "fi", "for", "if", "in", "then", "until",
    "while", "\x7b", "\x7d"]

def isKeyword (text : Octets) : Bool :=
  keywords.contains (String.ofList text)

def Token.text : Token → String
  | .newline => "newline"
  | .ending => "end of file"
  | .semicolon => "\";\""
  | .branchEnd => "\";;\""
  | .ampersand => "\"&\""
  | .bothMark => "\"&&\""
  | .eitherMark => "\"||\""
  | .pipe => "\"|\""
  | .opening => "\"(\""
  | .closing => "\")\""
  | .redirect _ _ | .here _ _ => "redirection"
  | .word _ (some text) => if isKeyword text then "\"" ++ String.ofList text ++ "\"" else "word"
  | .word _ none => "word"

def Token.asWord : Token → Token
  | .word pieces _ => .word pieces none
  | token => token

def unexpected {α : Type} (token : Token) : Reading α :=
  Reading.fail (token.text ++ " unexpected")

def unexpectedFor {α : Type} (token : Token) (expected : String) : Reading α :=
  Reading.fail (token.text ++ " unexpected (expecting \"" ++ expected ++ "\")")

def paramUse? (text : Octets) : Option (ParamUse × Octets) :=
  match text with
  | ':' :: '-' :: rest => some (.orElse true, rest)
  | ':' :: '=' :: rest => some (.orAssign true, rest)
  | ':' :: '+' :: rest => some (.ifSet true, rest)
  | ':' :: '?' :: rest => some (.orFail true, rest)
  | '-' :: rest => some (.orElse false, rest)
  | '=' :: rest => some (.orAssign false, rest)
  | '+' :: rest => some (.ifSet false, rest)
  | '?' :: rest => some (.orFail false, rest)
  | '#' :: '#' :: rest => some (.dropStart true, rest)
  | '#' :: rest => some (.dropStart false, rest)
  | '%' :: '%' :: rest => some (.dropEnd true, rest)
  | '%' :: rest => some (.dropEnd false, rest)
  | ':' :: '}' :: rest => some (.value, rest)
  | _ => none

def paramName? (text : Octets) : Option (Octets × Octets) :=
  match text with
  | [] => none
  | c :: rest =>
      if isNameStart c then
        some (text.takeWhile isNameChar, text.dropWhile isNameChar)
      else if c.isDigit then some (text.takeWhile Char.isDigit, text.dropWhile Char.isDigit)
      else if isSpecialParam c then some ([c], rest)
      else none

def takesPattern : ParamUse → Bool
  | .dropStart _ | .dropEnd _ => true
  | _ => false

mutual

def pieces (inner : Inner) (place : Place) :
    Nat → Nat → Word → Reading Word
  | 0, _, _ => Reading.fail "too long"
  | fuel + 1, level, read => do
      let quoted := place == .quotes || place == .document || place == .braces true ||
        place == .arithmetic
      match ← Reading.rest with
      | [] =>
          match place with
          | .word | .document => return read
          | .quotes | .braces true => Reading.fail "Unterminated quoted string"
          | .braces false => Reading.fail "Missing '\x7d'"
          | .arithmetic => Reading.fail "Missing '))'"
      | c :: rest =>
          if c = '\\' then
            match rest with
            | [] =>
                Reading.pass [] []
                pieces inner place fuel level (addChar read '\\' true)
            | '\n' :: rest =>
                Reading.pass ['\n'] rest
                pieces inner place fuel level read
            | d :: rest =>
                Reading.pass [d] rest
                let protects := !quoted || d == '\\' || d == '$' || d == '\x60' ||
                  (d == '"' && place != .document) || (d == '}' && place == .braces true)
                let read := if protects then read else addChar read '\\' true
                pieces inner place fuel level (addChar read d true)
          else if c = '$' then
            Reading.pass [] rest
            let piece ← dollar inner quoted fuel
            pieces inner place fuel level (match piece with
              | some piece => piece :: read
              | none => addChar read '$' quoted)
          else if c = '\x60' then
            match backquoted quoted [] rest with
            | none =>
                Reading.pass rest []
                Reading.fail "EOF in backquote substitution"
            | some (text, rest) =>
                let script ← readApart inner text
                Reading.passTo rest
                pieces inner place fuel level (.output script quoted :: read)
          else
            match place with
            | .word | .braces false =>
                if c = '\'' then
                  let chars := rest.takeWhile fun c => c != '\''
                  match rest.drop chars.length with
                  | _ :: after =>
                      Reading.pass chars after
                      pieces inner place fuel level
                        (chars.foldl (fun read c => addChar read c true) (addMark read))
                  | [] =>
                      Reading.pass chars []
                      Reading.fail "Unterminated quoted string"
                else if c = '"' then
                  Reading.pass [] rest
                  let read ← pieces inner .quotes fuel 0 (addMark read)
                  pieces inner place fuel level (dropIdleMark read)
                else if place == .word && endsWord c then return read
                else if place != .word && c == '}' then
                  Reading.pass [] rest
                  return read
                else
                  Reading.pass [c] rest
                  pieces inner place fuel level (addChar read c false)
            | .quotes =>
                Reading.pass [c] rest
                if c = '"' then return read
                else pieces inner place fuel level (addChar read c true)
            | .braces true =>
                Reading.pass [c] rest
                if c = '}' then return read
                else if c = '"' then
                  let read ← pieces inner .quotes fuel 0 (addMark read)
                  pieces inner place fuel level read
                else pieces inner place fuel level (addChar read c true)
            | .document =>
                Reading.pass [c] rest
                pieces inner place fuel level (addChar read c true)
            | .arithmetic =>
                Reading.pass [c] rest
                if c = '(' then pieces inner place fuel (level + 1) (addChar read c true)
                else if c = ')' then
                  match level, rest with
                  | level + 1, _ => pieces inner place fuel level (addChar read c true)
                  | 0, ')' :: rest =>
                      Reading.pass [] rest
                      return read
                  | 0, _ => pieces inner place fuel 0 (addChar read c true)
                else pieces inner place fuel level (addChar read c true)

def dollar (inner : Inner) (quoted : Bool) : Nat → Reading (Option Piece)
  | 0 => Reading.fail "too long"
  | fuel + 1 => do
      match ← Reading.unfold fun c => c == '(' || isNameChar c with
      | '(' :: '(' :: rest =>
          Reading.pass [] rest
          let expression ← pieces inner .arithmetic fuel 0 []
          return some (.arithmetic (finishPieces expression) quoted)
      | '(' :: rest =>
          let ahead := (← get).ahead
          Reading.pass [] rest
          modify fun source => { source with ahead := none }
          let script ← inner .list
          match (← get).ahead with
          | some .closing =>
              modify fun source => { source with ahead }
              return some (.output script quoted)
          | some token => unexpectedFor token ")"
          | none => unexpectedFor .ending ")"
      | '\x7b' :: rest =>
          Reading.pass [] rest
          return some (← braced inner quoted fuel)
      | text =>
          match text with
          | c :: _ =>
              if c.isDigit then
                Reading.pass [] (text.drop 1)
                return some (.param [c] .value [] quoted)
              else
                match paramName? text with
                | some (name, rest) =>
                    Reading.pass [] rest
                    return some (.param name .value [] quoted)
                | none => return none
          | [] => return none

def braced (inner : Inner) (quoted : Bool) : Nat → Reading Piece
  | 0 => Reading.fail "too long"
  | fuel + 1 => do
      let senseless (rest : Octets) : Reading Piece := do
        Reading.passTo rest
        let _ ← pieces inner (.braces quoted) fuel 0 []
        return .senseless
      let text ← Reading.unfold fun c => isNameChar c || "#:-=+?%@*$!".toList.contains c
      let lengthOf? : Option (Octets × Octets) :=
        match text with
        | '#' :: rest =>
            match paramName? rest with
            | some (name, '}' :: rest) => some (name, rest)
            | _ => none
        | _ => none
      match lengthOf? with
      | some (name, rest) =>
          Reading.pass [] rest
          return .param name .length [] quoted
      | none =>
          match paramName? text with
          | none => senseless (if text.head? = some '}' then text else text.drop 1)
          | some (name, '}' :: rest) =>
              Reading.pass [] rest
              return .param name .value [] quoted
          | some (name, rest) =>
              match paramUse? rest with
              | none => senseless (rest.drop (if rest.head? = some ':' then 2 else 1))
              | some (use, rest) =>
                  Reading.pass [] rest
                  let place := Place.braces (quoted && !takesPattern use)
                  let word ← pieces inner place fuel 0 []
                  return .param name use (finishPieces word) quoted

end

def plainText? : Word → Option Octets
  | [.text chars false] => some chars
  | _ => none

def markHome (ends : Char → Bool) (word : Word) : Word :=
  match word with
  | .text ('~' :: chars) false :: rest =>
      let user := chars.takeWhile fun c => c != '/' && !ends c
      let after := chars.drop user.length
      if after.isEmpty && !rest.isEmpty then word
      else .home user :: (if after.isEmpty then rest else .text after false :: rest)
  | word => word

def readWord (inner : Inner) : Reading Word := do
  let fuel := 2 * (← Reading.effort) + 4
  return finishPieces (← pieces inner .word fuel 0 [])

def dropLeadingTabs (dropTabs : Bool) (line : Octets) : Octets :=
  if dropTabs then line.dropWhile (· == '\t') else line

def documentLines (delimiter : Octets) (dropTabs : Bool) :
    Nat → Octets → Octets → Octets × Octets
  | 0, read, text => (read, text)
  | fuel + 1, read, text =>
      if text.isEmpty then (read, [])
      else
        let line := text.takeWhile fun c => c != '\n'
        let rest := text.drop line.length
        let kept := dropLeadingTabs dropTabs line
        if kept = delimiter then (read, rest.drop 1)
        else
          match rest with
          | [] => (read ++ kept, [])
          | _ :: rest => documentLines delimiter dropTabs fuel (read ++ kept ++ ['\n']) rest

def readDocuments (inner : Inner) : List AwaitedDocument → Reading Unit
  | [] => pure ()
  | awaited :: others => do
      let text ← Reading.rest
      let (body, rest) :=
        documentLines awaited.delimiter awaited.dropTabs (text.length + 1) [] text
      let document : HereDocument ←
        if awaited.expanded then do
          let outer ← get
          set ({
            text := body
            line := outer.line
            next := outer.next
            aliases := outer.aliases } : Source)
          let read ← pieces inner .document (2 * body.length + 4) 0 []
          let apart ← get
          set { outer with next := apart.next, documents := outer.documents ++ apart.documents }
          pure (finishPieces read)
        else pure [.text body true]
      Reading.passTo rest
      modify fun source =>
        { source with documents := source.documents ++ [(awaited.number, document)] }
      readDocuments inner others

def readAwaited (inner : Inner) : Reading Unit := do
  let awaited := (← get).awaited
  modify fun source => { source with awaited := [] }
  readDocuments inner awaited

def redirectSign? (text : Octets) : Option ((Nat → Token) × Nat × Octets) :=
  match text with
  | '<' :: '<' :: '-' :: rest => some (fun n => .here n true, 0, rest)
  | '<' :: '<' :: rest => some (fun n => .here n false, 0, rest)
  | '<' :: '&' :: rest => some (fun n => .redirect n .copy, 0, rest)
  | '<' :: '>' :: rest => some (fun n => .redirect n (.file .both false), 0, rest)
  | '<' :: rest => some (fun n => .redirect n (.file .reading false), 0, rest)
  | '>' :: '>' :: rest => some (fun n => .redirect n (.file .appending false), 1, rest)
  | '>' :: '&' :: rest => some (fun n => .redirect n .copy, 1, rest)
  | '>' :: '|' :: rest => some (fun n => .redirect n (.file .writing false), 1, rest)
  | '>' :: rest => some (fun n => .redirect n (.file .writing true), 1, rest)
  | _ => none

def nextToken (inner : Inner) : Reading Token := do
  match (← get).ahead with
  | some token =>
      modify fun source => { source with ahead := none }
      return token
  | none =>
      let (text, folds) := Reading.skipBlanks 0 (← Reading.effort) (← Reading.rest)
      modify fun source => { source with text, line := source.line + folds }
      let sign (token : Token) (rest : Octets) : Reading Token := do
        Reading.pass [] rest
        return token
      let text ← Reading.unfold fun c => "&|;<>".toList.contains c
      match text with
      | [] =>
          readAwaited inner
          return .ending
      | '\n' :: rest =>
          Reading.pass ['\n'] rest
          readAwaited inner
          return .newline
      | '&' :: '&' :: rest => sign .bothMark rest
      | '&' :: rest => sign .ampersand rest
      | '|' :: '|' :: rest => sign .eitherMark rest
      | '|' :: rest => sign .pipe rest
      | ';' :: ';' :: rest => sign .branchEnd rest
      | ';' :: rest => sign .semicolon rest
      | '(' :: rest => sign .opening rest
      | ')' :: rest => sign .closing rest
      | c :: rest =>
          match redirectSign? text with
          | some (token, usual, rest) => sign (token usual) rest
          | none =>
              match (if c.isDigit then redirectSign? rest else none) with
              | some (token, _, rest) => sign (token (c.toNat - '0'.toNat)) rest
              | none =>
                  let word ← readWord inner
                  return .word word (plainText? word)

def putBack (token : Token) : Reading Unit :=
  modify fun source => { source with ahead := some token }

def aliasOf? (source : Source) (token : Token) : Option (Octets × Octets) :=
  match token with
  | .word _ (some name) =>
      let inUse := source.opened.any fun (other, left, _) =>
        other = name && left ≤ source.text.length
      if inUse then none else (source.aliases.lookup name).map fun text => (name, text)
  | _ => none

def openAlias (name text : Octets) : Reading Unit :=
  modify fun source =>
    let entry := (name, source.text.length, text.getLast? = some ' ' || text.getLast? = some '\t')
    { source with
      text := text ++ source.text
      size := source.size + text.length
      ahead := none
      opened := entry :: source.opened.filter fun (_, left, _) => left ≤ source.text.length }

def aliasLimit : Nat := 1000

def commandToken (inner : Inner) : Nat → Reading Token
  | 0 => nextToken inner
  | fuel + 1 => do
      let token ← nextToken inner
      match token with
      | .word _ (some text) =>
          let source ← get
          match (if isKeyword text then none else aliasOf? source token) with
          | some (name, text) => do
              openAlias name text
              commandToken inner fuel
          | none => return token
      | token => return token

def laterToken (inner : Inner) (wanted : Bool) : Nat → Reading Token
  | 0 => nextToken inner
  | fuel + 1 => do
      let before ← get
      let token ← nextToken inner
      let after ← get
      let behindBlank := before.ahead.isNone && before.opened.any fun (_, left, blank) =>
        blank && left < before.text.length && after.text.length < left
      match (if wanted || behindBlank then aliasOf? after token else none) with
      | some (name, text) => do
          openAlias name text
          laterToken inner true fuel
      | none => return token

def skipNewlines (inner : Inner) : Nat → Reading Unit
  | 0 => pure ()
  | fuel + 1 => do
      match ← nextToken inner with
      | .newline => skipNewlines inner fuel
      | token => putBack token

def skipAllNewlines (inner : Inner) : Reading Unit := do
  skipNewlines inner ((← Reading.effort) + 2)

def expectWord (inner : Inner) (expected : String) : Reading Unit := do
  let token ← nextToken inner
  match token with
  | .word _ (some text) =>
      if text = expected.toList then pure () else unexpectedFor token expected
  | token => unexpectedFor token expected

def closingWords : List String :=
  ["then", "else", "elif", "fi", "do", "done", "esac", "\x7d"]

def isClosingWord (text : Octets) : Bool :=
  closingWords.contains (String.ofList text)

def isDescriptor : Octets → Bool
  | [c] => c.isDigit || c == '-'
  | _ => false

/-- A word in which nothing but quotes is special: its text, whether there were quotes, and what is
behind it. None if a quote has no end. -/
def quotedWord : Nat → Octets → Bool → Octets → Option (Octets × Bool × Octets)
  | 0, _, _, _ => none
  | fuel + 1, read, quoted, text =>
      match text with
      | [] => some (read, quoted, [])
      | '\\' :: '\n' :: rest => quotedWord fuel read quoted rest
      | '\\' :: c :: rest => quotedWord fuel (read ++ [c]) true rest
      | c :: rest =>
          if c == '\'' || c == '"' then
            let chars := rest.takeWhile fun other => other != c
            match rest.drop chars.length with
            | [] => none
            | _ :: rest => quotedWord fuel (read ++ chars) true rest
          else if endsWord c then some (read, quoted, text)
          else quotedWord fuel (read ++ [c]) quoted rest

def awaitDocument (inner : Inner) (dropTabs : Bool) : Reading Nat := do
  let (text, folds) := Reading.skipBlanks 0 (← Reading.effort) (← Reading.rest)
  modify fun source => { source with text, line := source.line + folds }
  if (text.head?.map endsWord).getD true then unexpected (← nextToken inner)
  match quotedWord ((← Reading.effort) + 1) [] false text with
  | none =>
      Reading.pass text []
      Reading.fail "Unterminated quoted string"
  | some (delimiter, quoted, rest) => do
      Reading.passTo rest
      let number := (← get).next
      let document : AwaitedDocument := ⟨number, delimiter, dropTabs, !quoted⟩
      modify fun source => { source with
        next := number + 1
        awaited := source.awaited ++ [document] }
      return number

def redirection (inner : Inner) (token : Token) : Reading Redirection := do
  match token with
  | .redirect descriptor kind =>
      match ← nextToken inner with
      | .word word _ => return .open descriptor kind (markHome (fun _ => false) word)
      | token => unexpected token
  | .here descriptor dropTabs => return .here descriptor (← awaitDocument inner dropTabs)
  | token => unexpected token

def redirections (inner : Inner) : Nat → List Redirection → Reading (List Redirection)
  | 0, read => return read.reverse
  | fuel + 1, read => do
      match ← nextToken inner with
      | .redirect descriptor kind =>
          redirections inner fuel ((← redirection inner (.redirect descriptor kind)) :: read)
      | .here descriptor dropTabs =>
          redirections inner fuel ((← redirection inner (.here descriptor dropTabs)) :: read)
      | token =>
          putBack token
          return read.reverse

def assignment? (word : Word) : Option (Octets × Word) :=
  match word with
  | .text chars false :: rest =>
      let name := chars.takeWhile isNameChar
      match chars.drop name.length with
      | '=' :: value =>
          if isName name then
            let value := if value.isEmpty then rest else .text value false :: rest
            some (name, value)
          else none
      | _ => none
  | _ => none

def markHomesFrom : Nat → Bool → Word → Word
  | 0, _, word => word
  | fuel + 1, start, word =>
      match (if start then markHome (· == ':') word else word) with
      | [] => []
      | .text chars false :: rest =>
          let lead := chars.takeWhile fun c => c != ':'
          match chars.drop lead.length with
          | [] => .text chars false :: markHomesFrom fuel false rest
          | colon :: tail =>
              .text (lead ++ [colon]) false ::
                markHomesFrom fuel true (if tail.isEmpty then rest else .text tail false :: rest)
      | piece :: rest => piece :: markHomesFrom fuel false rest

def placesIn (word : Word) : Nat :=
  word.foldl (fun total piece =>
    match piece with
    | .text chars _ => total + chars.length + 2
    | _ => total + 2) 1

def markHomes (value : Word) : Word :=
  markHomesFrom (placesIn value) true value

structure Begun where
  assignments : List (Octets × Word) := []
  words : List Word := []
  redirections : List Redirection := []

def Begun.command (begun : Begun) (line : Nat) : Command :=
  .simple begun.assignments.reverse begun.words.reverse begun.redirections.reverse line

def specialBuiltins : List String :=
  [".", ":", "break", "continue", "eval", "exec", "exit", "export", "local", "readonly", "return", "set",
    "shift", "times", "trap", "unset"]

def simpleCommand (inner : Inner) (line : Nat) : Nat → Begun → Reading Command
  | 0, begun => return begun.command line
  | fuel + 1, begun => do
      let token ← laterToken inner begun.words.isEmpty aliasLimit
      match token with
      | .word word _ =>
          match (if begun.words.isEmpty then assignment? word else none) with
          | some (name, value) =>
              simpleCommand inner line fuel
                { begun with assignments := (name, markHomes value) :: begun.assignments }
          | none =>
              simpleCommand inner line fuel
                { begun with words := markHome (fun _ => false) word :: begun.words }
      | .redirect _ _ | .here _ _ =>
          let redirection ← redirection inner token
          simpleCommand inner line fuel
            { begun with redirections := redirection :: begun.redirections }
      | .opening =>
          match begun.words, begun.assignments, begun.redirections with
          | [word], [], [] =>
              match ← nextToken inner with
              | .closing =>
                  match plainText? word with
                  | some name =>
                      if !isName name || specialBuiltins.contains (String.ofList name) then
                        Reading.fail "Bad function name"
                      else
                        skipAllNewlines inner
                        return .define name (← inner .command)
                  | none => Reading.fail "Bad function name"
              | token => unexpectedFor token.asWord ")"
          | _, _, _ => unexpected token
      | token =>
          putBack token
          return begun.command line

def innerList (inner : Inner) : Reading Command := do
  match ← inner .list with
  | .nothing => do
      match ← nextToken inner with
      | .ending =>
          putBack .ending
          return .nothing
      | token => unexpected token
  | command => return command

def conditional (inner : Inner) : Nat → Reading Command
  | 0 => Reading.fail "too long"
  | fuel + 1 => do
      let condition ← innerList inner
      expectWord inner "then"
      let first ← innerList inner
      let token ← nextToken inner
      match token with
      | .word _ (some text) =>
          match String.ofList text with
          | "elif" => return .choice condition first (← conditional inner fuel)
          | "else" =>
              let second ← innerList inner
              expectWord inner "fi"
              return .choice condition first second
          | "fi" => return .choice condition first .nothing
          | _ => unexpectedFor token "fi"
      | token => unexpectedFor token "fi"

def loopWords (inner : Inner) : Nat → List Word → Reading (List Word)
  | 0, read => return read.reverse
  | fuel + 1, read => do
      match ← nextToken inner with
      | .word word _ => loopWords inner fuel (markHome (fun _ => false) word :: read)
      | .semicolon | .newline => return read.reverse
      | token => unexpected token

def loopBody (inner : Inner) : Reading Command := do
  expectWord inner "do"
  let body ← innerList inner
  expectWord inner "done"
  return body

def eachLoop (inner : Inner) : Reading Command := do
  match ← nextToken inner with
  | .word _ (some name) =>
      if !isName name then Reading.fail "Bad for loop variable"
      else
        skipAllNewlines inner
        let token ← nextToken inner
        match token with
        | .word _ (some ['i', 'n']) =>
            let words ← loopWords inner ((← Reading.effort) + 1) []
            skipAllNewlines inner
            return .each name (some words) (← loopBody inner)
        | .semicolon =>
            skipAllNewlines inner
            return .each name none (← loopBody inner)
        | token =>
            putBack token
            return .each name none (← loopBody inner)
  | _ => Reading.fail "Bad for loop variable"

def branchPatterns (inner : Inner) : Nat → List Word → Reading (List Word)
  | 0, read => return read.reverse
  | fuel + 1, read => do
      match ← nextToken inner with
      | .word word _ =>
          match ← nextToken inner with
          | .pipe => branchPatterns inner fuel (word :: read)
          | .closing => return (word :: read).reverse
          | token => unexpectedFor token.asWord ")"
      | _ => unexpectedFor (← nextToken inner).asWord ")"

def branches (inner : Inner) :
    Nat → List (List Word × Command) → Reading (List (List Word × Command))
  | 0, read => return read.reverse
  | fuel + 1, read => do
      skipAllNewlines inner
      match ← nextToken inner with
      | .word _ (some ['e', 's', 'a', 'c']) => return read.reverse
      | token =>
          match token with
          | .opening => pure ()
          | token => putBack token
          let patterns ← branchPatterns inner ((← Reading.effort) + 2) []
          let body ← inner .list
          match ← nextToken inner with
          | .branchEnd => branches inner fuel ((patterns, body) :: read)
          | .word _ (some ['e', 's', 'a', 'c']) => return ((patterns, body) :: read).reverse
          | token => unexpectedFor token ";;"

def caseCommand (inner : Inner) : Reading Command := do
  match ← nextToken inner with
  | .word word _ =>
      skipAllNewlines inner
      expectWord inner "in"
      return .match word (← branches inner ((← Reading.effort) + 2) [])
  | token => Reading.fail (token.text ++ " unexpected (expecting word)")

def compound? (inner : Inner) (text : Octets) : Option (Reading Command) :=
  match String.ofList text with
  | "if" => some do conditional inner ((← Reading.effort) + 2)
  | "while" => some do
      let condition ← innerList inner
      return .loop false condition (← loopBody inner)
  | "until" => some do
      let condition ← innerList inner
      return .loop true condition (← loopBody inner)
  | "for" => some (eachLoop inner)
  | "case" => some (caseCommand inner)
  | "\x7b" => some do
      let body ← innerList inner
      expectWord inner "\x7d"
      return body
  | _ => none

def withRedirections (inner : Inner) (command : Command) : Reading Command := do
  match ← redirections inner ((← Reading.effort) + 2) [] with
  | [] => return command
  | redirections => return .redirected command redirections

def readCommand (inner : Inner) : Reading Command := do
  let token ← commandToken inner aliasLimit
  let line := (← get).line
  match token with
  | .opening =>
      let body ← innerList inner
      match ← nextToken inner with
      | .closing => withRedirections inner (.subshell body)
      | token => unexpectedFor token ")"
  | .word word plain =>
      match plain.bind (compound? inner) with
      | some compound => withRedirections inner (← compound)
      | none =>
          if (plain.map isKeyword).getD false then unexpected token
          else
            putBack (.word word plain)
            simpleCommand inner line ((← Reading.effort) + 4) {}
  | .redirect _ _ | .here _ _ =>
      putBack token
      simpleCommand inner line ((← Reading.effort) + 4) {}
  | token => unexpected token

def pipelineParts (inner : Inner) : Nat → List Command → Reading (List Command)
  | 0, read => return read.reverse
  | fuel + 1, read => do
      match ← nextToken inner with
      | .pipe =>
          skipAllNewlines inner
          pipelineParts inner fuel ((← readCommand inner) :: read)
      | token =>
          putBack token
          return read.reverse

def readPipeline (inner : Inner) : Reading Command := do
  let token ← commandToken inner aliasLimit
  let negated :=
    match token with
    | .word _ (some ['!']) => true
    | _ => false
  if !negated then putBack token
  let first ← readCommand inner
  let command :=
    match ← pipelineParts inner ((← Reading.effort) + 2) [] with
    | [] => first
    | others => Command.pipeline (first :: others)
  return if negated then .negated command else command

def readChain (inner : Inner) : Nat → Command → Reading Command
  | 0, read => return read
  | fuel + 1, read => do
      match ← nextToken inner with
      | .bothMark =>
          skipAllNewlines inner
          readChain inner fuel (.both read (← readPipeline inner))
      | .eitherMark =>
          skipAllNewlines inner
          readChain inner fuel (.either read (← readPipeline inner))
      | token =>
          putBack token
          return read

def readLogical (inner : Inner) : Reading Command := do
  let first ← readPipeline inner
  readChain inner ((← Reading.effort) + 2) first

def thenCommand : Command → Command → Command
  | .nothing, second => second
  | first, second => .sequence first second

def endsList : Token → Bool
  | .ending | .closing | .branchEnd => true
  | .word _ (some text) => isClosingWord text
  | _ => false

def readList (inner : Inner) : Nat → Command → Reading Command
  | 0, read => return read
  | fuel + 1, read => do
      skipAllNewlines inner
      let token ← commandToken inner aliasLimit
      putBack token
      if endsList token then return read
      else
        let command ← readLogical inner
        match ← nextToken inner with
        | .ampersand => readList inner fuel (thenCommand read (.background command))
        | .semicolon | .newline => readList inner fuel (thenCommand read command)
        | token =>
            putBack token
            return thenCommand read command

def readLine (inner : Inner) : Nat → Command → Reading Command
  | 0, read => return read
  | fuel + 1, read => do
      let token ← commandToken inner aliasLimit
      match token with
      | .newline => return read
      | .ending =>
          putBack token
          return read
      | token =>
          putBack token
          let command ← readLogical inner
          match ← nextToken inner with
          | .ampersand => readLine inner fuel (thenCommand read (.background command))
          | .semicolon => readLine inner fuel (thenCommand read command)
          | .newline => return thenCommand read command
          | .ending =>
              putBack .ending
              return thenCommand read command
          | token => unexpected token

def nestedReader : Nat → Inner
  | 0, _ => Reading.fail "too deeply nested"
  | depth + 1, .list => do
      readList (nestedReader depth) ((← Reading.effort) + 2) .nothing
  | depth + 1, .command => readCommand (nestedReader depth)

def nestingLimit : Nat := 1000

inductive NextCommand where
  | command (command : Command) (rest : Source)
  | done (rest : Source)
  | fault (fault : SyntaxFault)

def nextCommand (source : Source) : NextCommand :=
  let reader := readLine (nestedReader nestingLimit) (source.size + 2) .nothing
  match reader { source with ahead := none } with
  | .error fault => .fault fault
  | .ok (command, rest) =>
      match command, rest.ahead with
      | .nothing, some .ending => .done rest
      | command, _ => .command command rest

end ArtifactPipeline.Shell
