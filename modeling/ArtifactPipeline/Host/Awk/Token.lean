import ArtifactPipeline.Host.Awk.Number
import ArtifactPipeline.Host.Awk.Pattern

set_option autoImplicit false

namespace ArtifactPipeline.Awk

open Text (Octets)

inductive Token where
  | number (x : Float)
  | text (text : Octets)
  | pattern (text : Octets)
  | name (name : String) (tight : Bool)
  | keyword (word : String)
  | sign (sign : String)
  | newline

structure Lexeme where
  token : Token
  line : Nat

structure SyntaxFault where
  line : Nat
  message : String

namespace Lexeme

def keywords : List String :=
  ["BEGIN", "END", "function", "print", "printf", "if", "else", "while", "do", "for", "in", "break",
    "continue", "next", "nextfile", "exit", "return", "delete", "getline"]

def builtinNames : List String :=
  ["length", "index", "substr", "sprintf", "sin", "cos", "atan2", "exp", "log", "int", "sqrt",
    "rand", "srand", "close", "fflush", "system", "toupper", "tolower", "split", "sub", "gsub",
    "match", "mktime", "strftime", "systime"]

def signs : List String :=
  ["&&", "||", "==", "<=", ">=", "!=", "!~", "++", "--", "+=", "-=", "*=", "/=", "%=", "^=", ">>",
    "\x7b", "\x7d", "(", ")", "[", "]", ";", ",", "+", "-", "*", "/", "%", "^", "!", ">", "<", "|",
    "?", ":", "~", "$", "="]

def isOperand : Token → Bool
  | .number _ | .text _ | .pattern _ => true
  | .name name _ => !builtinNames.contains name
  | .keyword word => word == "getline"
  | .sign sign => [")", "]", "++", "--"].contains sign
  | .newline => false

def shown (token : Token) : String :=
  match token with
  | .number x => String.ofList ((wholeText? x).getD (showWith { conversion := 'g' } x))
  | .text text => "\"" ++ String.ofList text
  | .pattern text => "/" ++ String.ofList text ++ "/"
  | .name name _ => name
  | .keyword word => word
  | .sign sign => sign
  | .newline => "end of line"

def isNameStart (c : Char) : Bool :=
  c.isAlpha || c == '_'

def number? (text : Octets) : Option (Octets × Octets) :=
  let whole := text.takeWhile Char.isDigit
  let rest := text.drop whole.length
  let (part, rest) : Octets × Octets := match rest with
    | '.' :: rest =>
        let digits := rest.takeWhile Char.isDigit
        ('.' :: digits, rest.drop digits.length)
    | rest => ([], rest)
  if whole.isEmpty && part.length < 2 then none
  else
    let plain := (whole ++ part, rest)
    match rest with
    | e :: more =>
        if e == 'e' || e == 'E' then
          let (sign, digits) : Octets × Octets := match more with
            | '+' :: digits => (['+'], digits)
            | '-' :: digits => (['-'], digits)
            | digits => ([], digits)
          let exponent := digits.takeWhile Char.isDigit
          if exponent.isEmpty then some plain
          else some (whole ++ part ++ e :: sign ++ exponent, digits.drop exponent.length)
        else some plain
    | [] => some plain

def escapeOf (text : Octets) : Octets × Octets :=
  match text with
  | [] => (['\\'], [])
  | c :: rest =>
      let known := c == '"' || c == 'x' || Tools.isOctal c ||
        (Tools.simpleEscape? c).isSome
      if known then
        let (char, rest) := Pattern.escapedChar text
        ([char], rest)
      else (['\\', c], rest)

def unescaped : Nat → Octets → Octets
  | 0, text => text
  | _ + 1, [] => []
  | fuel + 1, '\\' :: rest =>
      let (chars, rest) := escapeOf rest
      chars ++ unescaped fuel rest
  | fuel + 1, c :: rest => c :: unescaped fuel rest

def textAt : Nat → Octets → Octets → Option (Octets × Octets)
  | 0, _, _ => none
  | _ + 1, _, [] => none
  | _ + 1, _, '\n' :: _ => none
  | _ + 1, read, '"' :: rest => some (read.reverse, rest)
  | fuel + 1, read, '\\' :: '\n' :: rest => textAt fuel read rest
  | fuel + 1, read, '\\' :: c :: rest => textAt fuel (c :: '\\' :: read) rest
  | fuel + 1, read, c :: rest => textAt fuel (c :: read) rest

def patternAt : Nat → Bool → Octets → Octets → Option (Octets × Octets)
  | 0, _, _, _ => none
  | _ + 1, _, _, [] => none
  | _ + 1, _, _, '\n' :: _ => none
  | _ + 1, false, read, '/' :: rest => some (read.reverse, rest)
  | fuel + 1, set, read, '\\' :: '/' :: rest => patternAt fuel set ('/' :: read) rest
  | fuel + 1, set, read, '\\' :: c :: rest => patternAt fuel set (c :: '\\' :: read) rest
  | fuel + 1, false, read, '[' :: rest =>
      -- A bracket right behind the opening one is a member of the set.
      match rest with
      | '^' :: ']' :: rest => patternAt fuel true (']' :: '^' :: '[' :: read) rest
      | ']' :: rest => patternAt fuel true (']' :: '[' :: read) rest
      | rest => patternAt fuel true ('[' :: read) rest
  | fuel + 1, true, read, '[' :: ':' :: rest =>
      match Regex.named? ':' rest with
      | some (name, rest) =>
          patternAt fuel true (([']', ':'] ++ name.reverse ++ [':', '[']) ++ read) rest
      | none => patternAt fuel true (':' :: '[' :: read) rest
  | fuel + 1, true, read, ']' :: rest => patternAt fuel false (']' :: read) rest
  | fuel + 1, set, read, c :: rest => patternAt fuel set (c :: read) rest

def read : Nat → Nat → Option Token → Octets → Except SyntaxFault (List Lexeme)
  | 0, _, _, _ => .ok []
  | _ + 1, _, _, [] => .ok []
  | fuel + 1, line, last, c :: rest => do
      let found (token : Token) (rest : Octets) : Except SyntaxFault (List Lexeme) := do
        return ⟨token, line⟩ :: (← read fuel line (some token) rest)
      if c == '\n' then
        return ⟨.newline, line⟩ :: (← read fuel (line + 1) (some .newline) rest)
      else if c == ' ' || c == '\t' || c == '\r' then read fuel line last rest
      else if c == '#' then read fuel line last (rest.dropWhile (· != '\n'))
      else if c == '\\' then
        match rest with
        | '\n' :: rest | '\r' :: '\n' :: rest => read fuel (line + 1) last rest
        | _ => .error ⟨line, "unexpected character '\\'"⟩
      else if c == '"' then
        match textAt (rest.length + 1) [] rest with
        | some (raw, rest) => found (.text (unescaped (raw.length + 1) raw)) rest
        | none => .error ⟨line, "runaway string constant \"" ++
            String.ofList (rest.takeWhile (· != '\n')) ++ " ..."⟩
      else if c == '/' && !(last.map isOperand).getD false then
        match patternAt (rest.length + 1) false [] rest with
        | some (text, rest) => found (.pattern text) rest
        | none => .error ⟨line, "runaway regular expression /" ++
            String.ofList (rest.takeWhile (· != '\n')) ++ " ..."⟩
      else if isNameStart c then
        let name := (c :: rest).takeWhile fun c => isNameStart c || c.isDigit
        let rest := (c :: rest).drop name.length
        let word := String.ofList name
        if keywords.contains word then found (.keyword word) rest
        else found (.name word (rest.head? == some '(')) rest
      else
        match number? (c :: rest) with
        | some (digits, rest) => found (.number (numberOf digits)) rest
        | none =>
            match signs.find? fun sign => sign.toList.isPrefixOf (c :: rest) with
            | some sign => found (.sign sign) ((c :: rest).drop sign.length)
            | none => .error ⟨line, "unexpected character '" ++ String.singleton c ++ "'"⟩

def readAll (text : Octets) : Except SyntaxFault (List Lexeme) :=
  read (2 * text.length + 2) 1 none text

end Lexeme

end ArtifactPipeline.Awk
