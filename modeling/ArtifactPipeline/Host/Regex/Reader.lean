import ArtifactPipeline.Host.Regex.Basic

set_option autoImplicit false

namespace ArtifactPipeline

open Text (Octets)

inductive RegexFault where
  | malformed
  | className
  | lastBackslash
  | backReference
  | bracket
  | parenthesis
  | closing
  | brace
  | braceContent
  | range
  | repetition
  | collation
  | tooBig
  deriving DecidableEq, Repr

def RegexFault.message : RegexFault → String
  | .malformed => "Invalid regular expression"
  | .className => "Invalid character class name"
  | .lastBackslash => "Trailing backslash"
  | .backReference => "Invalid back reference"
  | .bracket => "Unmatched [, [^, [:, [., or [="
  | .parenthesis => "Unmatched ( or \\("
  | .closing => "Unmatched ) or \\)"
  | .brace => "Unmatched \\\x7b"
  | .braceContent => "Invalid content of \\\x7b\\\x7d"
  | .range => "Invalid range end"
  | .repetition => "Invalid preceding regular expression"
  | .collation => "Invalid collation character"
  | .tooBig => "Regular expression too big"

namespace Regex

structure Dialect where
  extended : Bool := false
  strictRepeats : Bool := false
  strictStart : Bool := false
  looseClosing : Bool := false
  looseBraces : Bool := false
  newlineAlternates : Bool := false
  fold : Bool := false
  inner : Bool := false
  bars : Bool := true
  bareRepeats : Bool := false

def classTest? : String → Option (Char → Bool)
  | "alpha" => some Char.isAlpha
  | "digit" => some Char.isDigit
  | "alnum" => some Char.isAlphanum
  | "upper" => some Char.isUpper
  | "lower" => some Char.isLower
  | "space" => some fun c => c == ' ' || (9 ≤ c.toNat && c.toNat ≤ 13)
  | "blank" => some fun c => c == ' ' || c == '\t'
  | "punct" => some fun c => 32 < c.toNat && c.toNat < 127 && !c.isAlphanum
  | "print" => some fun c => 32 ≤ c.toNat && c.toNat < 127
  | "graph" => some fun c => 32 < c.toNat && c.toNat < 127
  | "cntrl" => some fun c => c.toNat < 32 || c.toNat == 127
  | "xdigit" => some fun c => c.isDigit || ('a' ≤ c.toLower && c.toLower ≤ 'f')
  | _ => none

inductive Element where
  | char (c : Char)
  | named (test : Char → Bool)

def named? (sign : Char) (text : Octets) : Option (Octets × Octets) :=
  go [] text
where
  go : Octets → Octets → Option (Octets × Octets)
    | _, [] => none
    | name, c :: rest =>
        if c == sign && rest.head? == some ']' then some (name.reverse, rest.drop 1)
        else go (c :: name) rest

def element (fold : Bool) : Octets → Except RegexFault (Element × Octets)
  | [] => .error .bracket
  | '[' :: ':' :: rest =>
      match named? ':' rest with
      | none => .error .bracket
      | some (name, rest) =>
          let name := String.ofList name
          let name := if fold && (name == "upper" || name == "lower") then "alpha" else name
          match classTest? name with
          | some test => .ok (.named test, rest)
          | none => .error .className
  | '[' :: sign :: rest =>
      if sign == '.' || sign == '=' then
        match named? sign rest with
        | none => .error .bracket
        | some ([c], rest) => .ok (.char c, rest)
        | some _ => .error .collation
      else .ok (.char '[', sign :: rest)
  | c :: rest => .ok (.char c, rest)

def elements (fold : Bool) :
    Nat → Bool → List (Char → Bool) → Octets → Except RegexFault (List (Char → Bool) × Octets)
  | 0, _, _, _ => .error .bracket
  | fuel + 1, first, tests, text =>
      match text with
      | [] => .error .bracket
      | c :: after =>
          if c == ']' && !first then .ok (tests, after)
          else if c == '-' && !first && after.head? != some ']' && after.head? != some '-' then
            .error (if after.isEmpty then .bracket else .range)
          else
            match element fold text with
            | .error fault => .error fault
            | .ok (start, rest) =>
                let single := match start with
                  | .char c => fun d => d == c
                  | .named test => test
                match rest with
                | '-' :: ']' :: _ => elements fold fuel false (single :: tests) rest
                | ['-'] => .error .bracket
                | '-' :: rest =>
                    match element fold rest, start with
                    | .error fault, _ => .error fault
                    | .ok (.char last, rest), .char first =>
                        if last < first then .error .range
                        else elements fold fuel false ((fun d => first ≤ d && d ≤ last) :: tests) rest
                    | .ok _, _ => .error .range
                | rest => elements fold fuel false (single :: tests) rest

def bracketSet (dialect : Dialect) (text : Octets) : Except RegexFault (CharSet × Octets) :=
  let (negated, text) :=
    match text with
    | '^' :: rest => (true, rest)
    | text => (false, text)
  match elements dialect.fold (text.length + 1) true [] text with
  | .error fault => .error (if text.isEmpty then .malformed else fault)
  | .ok (tests, rest) =>
      let set := CharSet.ofTest fun c => tests.any fun test => test c
      let set := if dialect.fold then set.folded else set
      let set := if negated then set.complement else set
      .ok (if negated && dialect.inner then set.without '\n' else set, rest)

def wordSet : CharSet := CharSet.ofTest isWordChar

def spaceSet : CharSet := CharSet.ofTest fun c => c == ' ' || (9 ≤ c.toNat && c.toNat ≤ 13)

inductive Sign where
  | char (c : Char)
  | opening
  | closing
  | bar
  | star
  | plus
  | question
  | braceOpen
  | braceClose
  | bracket
  | any
  | back (number : Nat)
  | set (set : CharSet)
  | anchor (regex : Regex)
  | backslash
  | ending

def escapedSign (dialect : Dialect) (c : Char) : Sign :=
  let basic := !dialect.extended
  match c with
  | '|' => if basic && dialect.bars then .bar else .char '|'
  | '(' => if basic then .opening else .char c
  | ')' => if basic then .closing else .char c
  | '+' => if basic && dialect.bars && !dialect.bareRepeats then .plus else .char c
  | '?' => if basic && dialect.bars && !dialect.bareRepeats then .question else .char c
  | '\x7b' => if basic && !dialect.bareRepeats then .braceOpen else .char c
  | '\x7d' => if basic && !dialect.bareRepeats then .braceClose else .char c
  | 'w' => .set wordSet
  | 'W' => .set wordSet.complement
  | 's' => .set spaceSet
  | 'S' => .set spaceSet.complement
  | 'b' => .anchor (.edge true true)
  | 'B' => .anchor (.edge false false)
  | '<' => .anchor (.edge true false)
  | '>' => .anchor (.edge false true)
  | '\x60' => .anchor (.lineStart false)
  | '\'' => .anchor (.lineEnd false)
  | c => if '1' ≤ c && c ≤ '9' then .back (c.toNat - '0'.toNat) else .char c

def sign (dialect : Dialect) (front : Bool) (text : Octets) : Sign × Octets :=
  match text with
  | [] => (.ending, [])
  | ['\\'] => (.backslash, [])
  | '\\' :: c :: rest => (escapedSign dialect c, rest)
  | c :: rest =>
      let extended := dialect.extended
      let sign : Sign :=
        match c with
        | '\n' => if dialect.newlineAlternates then .bar else .char c
        | '|' => if extended then .bar else .char c
        | '*' => .star
        | '+' => if extended || dialect.bareRepeats then .plus else .char c
        | '?' => if extended || dialect.bareRepeats then .question else .char c
        | '\x7b' => if extended then .braceOpen else .char c
        | '\x7d' => if extended then .braceClose else .char c
        | '(' => if extended then .opening else .char c
        | ')' => if extended then .closing else .char c
        | '[' => .bracket
        | '.' => .any
        | '^' => if extended || front then .anchor (.lineStart dialect.inner) else .char c
        | '$' =>
            let last := match rest with
              | [] => true
              | '\\' :: d :: _ => d == ')' || (d == '|' && dialect.bars)
              | d :: _ => d == '\n' && dialect.newlineAlternates
            if extended || last then .anchor (.lineEnd dialect.inner) else .char c
        | c => .char c
      (sign, rest)

structure Reading where
  sign : Sign
  rest : Octets
  opened : Nat := 0
  complete : List Nat := []
  stray : List String := []

namespace Reading

def advance (dialect : Dialect) (front : Bool) (reading : Reading) : Reading :=
  let (sign, rest) := Regex.sign dialect front reading.rest
  { reading with sign, rest }

def atEnd (reading : Reading) : Bool :=
  match reading.sign with
  | .ending => true
  | _ => false

def atBar (reading : Reading) : Bool :=
  match reading.sign with
  | .bar => true
  | _ => false

def atClosing (reading : Reading) : Bool :=
  match reading.sign with
  | .closing => true
  | _ => false

end Reading

def countLimit : Nat := 32767

inductive Count where
  | none
  | value (count : Nat)
  | wrong

def readCount (dialect : Dialect) : Nat → Count → Reading → Count × Reading
  | 0, _, reading => (.wrong, reading)
  | fuel + 1, count, reading =>
      let reading := reading.advance dialect false
      match reading.sign with
      | .ending => (.wrong, reading)
      | .braceClose | .char ',' => (count, reading)
      | .char c =>
          let count := match count with
            | .wrong => .wrong
            | .none => if c.isDigit then .value (c.toNat - '0'.toNat) else .wrong
            | .value n =>
                if c.isDigit then .value (min (countLimit + 1) (10 * n + (c.toNat - '0'.toNat)))
                else .wrong
          readCount dialect fuel count reading
      | _ => readCount dialect fuel .wrong reading

def readBraces (dialect : Dialect) (reading : Reading) :
    Except RegexFault (Option (Nat × Option Nat × Reading)) :=
  let fuel := reading.rest.length + 1
  let (start, after) := readCount dialect fuel .none reading
  let atComma := match after.sign with
    | .char ',' => true
    | _ => false
  let wrong (reading : Reading) : Except RegexFault (Option (Nat × Option Nat × Reading)) :=
    if dialect.looseBraces then .ok none
    else .error (if reading.atEnd then .brace else .braceContent)
  let finish (least : Nat) (most : Option Nat) (reading : Reading) :
      Except RegexFault (Option (Nat × Option Nat × Reading)) :=
    match reading.sign with
    | .braceClose =>
        if (most.map fun most => decide (most < least)).getD false then .error .braceContent
        else if countLimit < most.getD least then .error .tooBig
        else .ok (some (least, most, reading.advance dialect false))
    | _ => .error .braceContent
  let second (least : Nat) : Except RegexFault (Option (Nat × Option Nat × Reading)) :=
    match readCount dialect fuel .none after with
    | (.wrong, last) => wrong last
    | (.none, last) => finish least none last
    | (.value most, last) => finish least (some most) last
  match start with
  | .wrong => wrong after
  | .none => if atComma then second 0 else .error .braceContent
  | .value least => if atComma then second least else finish least (some least) after

/-- Reads a pattern up to its end, or up to the end of a group. Each part takes at least one sign, so
the length of the text bounds how deep reading goes. -/
def readPart (dialect : Dialect) : Nat → Nat → Reading → Except RegexFault (Regex × Reading)
  | 0, _, _ => .error .tooBig
  | fuel + 1, depth, reading => branches fuel depth (fuel + 1) none reading
termination_by fuel => (fuel, 0, 0)
where
  branches (fuel depth : Nat) (rounds : Nat) (earlier : Option Regex) (reading : Reading) :
      Except RegexFault (Regex × Reading) :=
    match rounds with
    | 0 => .error .tooBig
    | rounds + 1 =>
        match items fuel depth (fuel + 1) [] reading with
        | .error fault => .error fault
        | .ok (parts, reading) =>
            let branch := chain parts.reverse
            let whole := match earlier with
              | some earlier => .either earlier branch
              | none => branch
            if reading.atBar then
              branches fuel depth rounds (some whole) (reading.advance dialect true)
            else .ok (whole, reading)
  termination_by (fuel, 3, rounds)
  items (fuel depth : Nat) (rounds : Nat) (parts : List Regex) (reading : Reading) :
      Except RegexFault (List Regex × Reading) :=
    match rounds with
    | 0 => .error .tooBig
    | rounds + 1 =>
        if reading.atEnd || reading.atBar || (depth != 0 && reading.atClosing) then
          .ok (parts, reading)
        else
          match item fuel depth reading with
          | .error fault => .error fault
          | .ok (part, anchored, reading) =>
              if anchored then items fuel depth rounds (part :: parts) reading
              else
                match repeats (fuel + 1) part reading with
                | .error fault => .error fault
                | .ok (part, reading) => items fuel depth rounds (part :: parts) reading
  termination_by (fuel, 2, rounds)
  item (fuel depth : Nat) (reading : Reading) : Except RegexFault (Regex × Bool × Reading) :=
    let next := reading.advance dialect false
    let literal (c : Char) : Except RegexFault (Regex × Bool × Reading) :=
      .ok (if dialect.fold then folded c else .char c, false, next)
    let note (sign : String) (reading : Reading) : Reading :=
      { reading with stray := sign :: reading.stray }
    -- A sign that would repeat something, though there is nothing before it.
    let stray (c : Char) : Except RegexFault (Regex × Bool × Reading) :=
      if dialect.strictStart then .error .repetition
      else if dialect.extended then .ok (.empty, false, note c.toString next)
      else literal c
    match reading.sign with
    | .char c => literal c
    | .any =>
        let all := CharSet.ofTest fun c => !(dialect.inner && c == '\n')
        .ok (.oneOf all, false, next)
    | .set set => .ok (.oneOf set, false, next)
    | .bracket =>
        match bracketSet dialect reading.rest with
        | .error fault => .error fault
        | .ok (set, rest) =>
            .ok (.oneOf set, false, { reading with rest }.advance dialect false)
    | .back number =>
        if reading.complete.contains number then .ok (.same number dialect.fold, false, next)
        else .error .backReference
    | .anchor regex => .ok (regex, true, reading.advance dialect true)
    | .opening =>
        let number := reading.opened + 1
        let inside := { reading with opened := number }.advance dialect true
        match readPart dialect fuel (depth + 1) inside with
        | .error fault => .error fault
        | .ok (body, after) =>
            if after.atClosing then
              let after := { after with complete := number :: after.complete }
              .ok (.group number body, false, after.advance dialect false)
            else .error .parenthesis
    | .closing => if dialect.looseClosing then literal ')' else .error .closing
    | .star => stray '*'
    | .plus => stray '+'
    | .question => stray '?'
    | .braceOpen =>
        if dialect.strictRepeats || dialect.strictStart then .error .repetition
        else if dialect.extended then
          match readBraces dialect reading with
          | .error fault => .error fault
          | .ok (some (_, _, after)) => .ok (.empty, false, note "\x7b...\x7d" after)
          | .ok none => literal '\x7b'
        else literal '\x7b'
    | .braceClose => literal '\x7d'
    | .backslash => .error .lastBackslash
    | .bar | .ending => .ok (.empty, true, reading)
  termination_by (fuel, 1, 0)
  repeats (rounds : Nat) (part : Regex) (reading : Reading) :
      Except RegexFault (Regex × Reading) :=
    match rounds with
    | 0 => .error .tooBig
    | rounds + 1 =>
        let goOn (least : Nat) (most : Option Nat) (reading : Reading) :
            Except RegexFault (Regex × Reading) :=
          let again := match reading.sign with
            | .star | .braceOpen => true
            | _ => false
          if dialect.strictRepeats && again then .error .repetition
          else repeats rounds (.times least most .most part) reading
        let next := reading.advance dialect false
        match reading.sign with
        | .star => goOn 0 none next
        | .plus => goOn 1 none next
        | .question => goOn 0 (some 1) next
        | .braceOpen =>
            match readBraces dialect reading with
            | .error fault => .error fault
            | .ok (some (least, most, reading)) => goOn least most reading
            | .ok none => .ok (part, { reading with sign := .char '\x7b' })
        | _ => .ok (part, reading)

def readNoting (dialect : Dialect) (text : Octets) : Except RegexFault (Regex × List String) :=
  let start := Reading.advance dialect true { sign := .ending, rest := text }
  match readPart dialect (2 * text.length + 2) 0 start with
  | .error fault => .error fault
  | .ok (regex, reading) => .ok (regex, reading.stray.reverse)

def read (dialect : Dialect) (text : Octets) : Except RegexFault Regex :=
  (readNoting dialect text).map (·.1)

end Regex

def Finder.read (dialect : Regex.Dialect) (text : Octets) : Except RegexFault Finder :=
  (Regex.read dialect text).map (Finder.ofRegex true)

end ArtifactPipeline
