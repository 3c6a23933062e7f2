import ArtifactPipeline.Text.Basic

set_option autoImplicit false

namespace ArtifactPipeline.Toml

abbrev Scanned (α : Type) := Option (α × List Char)

def isSpace (c : Char) : Bool :=
  c == ' ' || c == '\t'

def isPrintable (c : Char) : Bool :=
  c == '\t' || (0x20 ≤ c.toNat && c.toNat != 0x7F)

def skipSpaces (text : List Char) : List Char :=
  text.dropWhile isSpace

def skipLines (inComment : Bool) : List Char → Option (List Char)
  | [] => some []
  | '\n' :: rest => skipLines false rest
  | '\r' :: '\n' :: rest => skipLines false rest
  | c :: rest =>
      if inComment then
        if isPrintable c then skipLines true rest else none
      else if c = '#' then skipLines true rest
      else if isSpace c then skipLines false rest
      else some (c :: rest)

def endLine (inComment : Bool) : List Char → Option (List Char)
  | [] => some []
  | '\n' :: rest => some rest
  | '\r' :: '\n' :: rest => some rest
  | c :: rest =>
      if inComment then
        if isPrintable c then endLine true rest else none
      else if c = '#' then endLine true rest
      else if isSpace c then endLine false rest
      else none

def charOf? (code : Nat) : Option Char :=
  if code < 0xD800 ∨ (0xDFFF < code ∧ code < 0x110000) then some (Char.ofNat code) else none

def hexCode? (digits : List Char) : Option Nat :=
  digits.foldlM (fun code c => (Text.hexValue? c).map fun digit => 16 * code + digit) 0

def escaped? (digits : List Char) : Option Char :=
  (hexCode? digits).bind charOf?

def shortEscape? : Char → Option Char
  | 'b' => some '\x08'
  | 't' => some '\t'
  | 'n' => some '\n'
  | 'f' => some '\x0c'
  | 'r' => some '\r'
  | 'e' => some '\x1b'
  | '"' => some '"'
  | '\\' => some '\\'
  | _ => none

def endsLine (text : List Char) : Bool :=
  match skipSpaces text with
  | '\n' :: _ => true
  | '\r' :: '\n' :: _ => true
  | _ => false

/-- How a string with escapes is laid out: on one line or over several. While `skipping`, the blanks
after a line-ending backslash are passed over. -/
structure BasicLayout where
  multiline : Bool
  skipping : Bool

def basicBody (layout : BasicLayout) (read : List Char) : List Char → Scanned (List Char)
  | [] => none
  | '\\' :: 'x' :: a :: b :: rest =>
      match escaped? [a, b] with
      | some c => basicBody ⟨layout.multiline, false⟩ (c :: read) rest
      | none => none
  | '\\' :: 'u' :: a :: b :: c :: d :: rest =>
      match escaped? [a, b, c, d] with
      | some c => basicBody ⟨layout.multiline, false⟩ (c :: read) rest
      | none => none
  | '\\' :: 'U' :: a :: b :: c :: d :: e :: f :: g :: h :: rest =>
      match escaped? [a, b, c, d, e, f, g, h] with
      | some c => basicBody ⟨layout.multiline, false⟩ (c :: read) rest
      | none => none
  | '\\' :: c :: rest =>
      match shortEscape? c with
      | some c => basicBody ⟨layout.multiline, false⟩ (c :: read) rest
      | none =>
          if layout.multiline && endsLine (c :: rest) then
            basicBody ⟨true, true⟩ read (c :: rest)
          else none
  | '"' :: rest =>
      if !layout.multiline then some (read.reverse, rest)
      else
        match rest with
        | '"' :: '"' :: '"' :: '"' :: rest => some (('"' :: '"' :: read).reverse, rest)
        | '"' :: '"' :: '"' :: rest => some (('"' :: read).reverse, rest)
        | '"' :: '"' :: rest => some (read.reverse, rest)
        | rest => basicBody ⟨true, false⟩ ('"' :: read) rest
  | '\n' :: rest =>
      if !layout.multiline then none
      else if layout.skipping then basicBody layout read rest
      else basicBody layout ('\n' :: read) rest
  | '\r' :: '\n' :: rest =>
      if !layout.multiline then none
      else if layout.skipping then basicBody layout read rest
      else basicBody layout ('\n' :: '\r' :: read) rest
  | c :: rest =>
      if layout.skipping && isSpace c then basicBody layout read rest
      else if isPrintable c then basicBody ⟨layout.multiline, false⟩ (c :: read) rest
      else none

def literalBody (multiline : Bool) (read : List Char) : List Char → Scanned (List Char)
  | [] => none
  | '\'' :: rest =>
      if !multiline then some (read.reverse, rest)
      else
        match rest with
        | '\'' :: '\'' :: '\'' :: '\'' :: rest => some (('\'' :: '\'' :: read).reverse, rest)
        | '\'' :: '\'' :: '\'' :: rest => some (('\'' :: read).reverse, rest)
        | '\'' :: '\'' :: rest => some (read.reverse, rest)
        | rest => literalBody multiline ('\'' :: read) rest
  | '\n' :: rest => if multiline then literalBody multiline ('\n' :: read) rest else none
  | '\r' :: '\n' :: rest =>
      if multiline then literalBody multiline ('\n' :: '\r' :: read) rest else none
  | c :: rest => if isPrintable c then literalBody multiline (c :: read) rest else none

def dropFirstLineEnd : List Char → List Char
  | '\n' :: rest => rest
  | '\r' :: '\n' :: rest => rest
  | text => text

def stringValue? : List Char → Scanned (List Char)
  | '"' :: '"' :: '"' :: rest => basicBody ⟨true, false⟩ [] (dropFirstLineEnd rest)
  | '"' :: rest => basicBody ⟨false, false⟩ [] rest
  | '\'' :: '\'' :: '\'' :: rest => literalBody true [] (dropFirstLineEnd rest)
  | '\'' :: rest => literalBody false [] rest
  | _ => none

def isBareKeyChar (c : Char) : Bool :=
  c.isAlphanum || c == '_' || c == '-'

def keyPart? (text : List Char) : Scanned String :=
  let quoted : Scanned (List Char) → Scanned String
    | some (name, rest) => some (String.ofList name, rest)
    | none => none
  match text with
  | '"' :: rest => quoted (basicBody ⟨false, false⟩ [] rest)
  | '\'' :: rest => quoted (literalBody false [] rest)
  | text =>
      let name := text.takeWhile isBareKeyChar
      if name.isEmpty then none else some (String.ofList name, text.dropWhile isBareKeyChar)

def keyLimit : Nat := 80

def dottedKey? : Nat → List Char → Scanned (List String)
  | 0, _ => none
  | fuel + 1, text =>
      match keyPart? text with
      | none => none
      | some (part, rest) =>
          match skipSpaces rest with
          | '.' :: rest =>
              match dottedKey? fuel (skipSpaces rest) with
              | some (parts, rest) => some (part :: parts, rest)
              | none => none
          | rest => some ([part], rest)

end ArtifactPipeline.Toml
