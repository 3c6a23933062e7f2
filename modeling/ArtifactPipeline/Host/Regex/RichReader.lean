import ArtifactPipeline.Host.Regex.Reader
import ArtifactPipeline.Text.Basic

set_option autoImplicit false

namespace ArtifactPipeline

open Text (Octets)

namespace Regex

structure Switches where
  fold : Bool := false
  dotAll : Bool := false
  inner : Bool := false
  spaced : Bool := false
  uncounted : Bool := false

structure RichReading where
  rest : Octets
  switches : Switches
  groups : Nat := 0
  names : List (Octets × Nat) := []
  wanted : List Nat := []
  wantedNames : List Octets := []

namespace RichReading

def fail {α : Type} (message : String) : Except String α := .error message

def horizontal (c : Char) : Bool :=
  c == ' ' || c == '\t' || c.toNat == 160

def vertical (c : Char) : Bool :=
  (10 ≤ c.toNat && c.toNat ≤ 13) || c.toNat == 133

def letterClass? (c : Char) : Option CharSet :=
  match c with
  | 'd' => some (CharSet.ofTest Char.isDigit)
  | 'D' => some (CharSet.ofTest Char.isDigit).complement
  | 'w' => some wordSet
  | 'W' => some wordSet.complement
  | 's' => some spaceSet
  | 'S' => some spaceSet.complement
  | 'h' => some (CharSet.ofTest horizontal)
  | 'H' => some (CharSet.ofTest horizontal).complement
  | 'v' => some (CharSet.ofTest vertical)
  | 'V' => some (CharSet.ofTest vertical).complement
  | _ => none

def isOctalDigit (c : Char) : Bool := '0' ≤ c && c ≤ '7'

def octalOf (digits : Octets) : Nat :=
  digits.foldl (fun value c => 8 * value + (c.toNat - '0'.toNat)) 0

def escapedChar (text : Octets) : Except String (Option (Char × Octets)) :=
  match text with
  | [] => fail "\\ at end of pattern"
  | c :: rest =>
      let plain (c : Char) : Except String (Option (Char × Octets)) := .ok (some (c, rest))
      match c with
      | 'a' => plain '\x07'
      | 'e' => plain '\x1b'
      | 'f' => plain '\x0c'
      | 'n' => plain '\n'
      | 'r' => plain '\r'
      | 't' => plain '\t'
      | '0' =>
          let digits := (rest.take 2).takeWhile isOctalDigit
          .ok (some (Char.ofNat (octalOf digits), rest.drop digits.length))
      | 'o' =>
          match rest with
          | '\x7b' :: rest =>
              let digits := rest.takeWhile isOctalDigit
              match rest.drop digits.length with
              | '\x7d' :: tail => .ok (some (Char.ofNat (octalOf digits % 256), tail))
              | _ => fail "non-octal character in \\o\x7b\x7d (closing brace missing?)"
          | _ => fail "missing opening brace after \\o"
      | 'x' =>
          let isHex (c : Char) : Bool := (Text.hexValue? c).isSome
          let value (digits : Octets) : Nat :=
            digits.foldl (fun value c => 16 * value + (Text.hexValue? c).getD 0) 0
          match rest with
          | '\x7b' :: rest =>
              let digits := rest.takeWhile isHex
              match rest.drop digits.length with
              | '\x7d' :: tail =>
                  if 255 < value digits then fail "character code point value in \\x\x7b\x7d or \\o\x7b\x7d is too large"
                  else .ok (some (Char.ofNat (value digits), tail))
              | _ => fail "non-hex character in \\x\x7b\x7d (closing brace missing?)"
          | rest =>
              let digits := (rest.take 2).takeWhile isHex
              .ok (some (Char.ofNat (value digits), rest.drop digits.length))
      | 'c' =>
          match rest with
          | [] => fail "\\c at end of pattern"
          | d :: tail => .ok (some (Char.ofNat (d.toUpper.toNat ^^^ 64), tail))
      | c => if c.isAlphanum then .ok none else plain c

def posixClass? (text : Octets) : Except String (Option (CharSet × Octets)) :=
  match text with
  | '[' :: ':' :: rest =>
      match named? ':' rest with
      | none => .ok none
      | some (name, tail) =>
          if !(name.all fun c => c.isLower || c == '^') then .ok none
          else
            let (negated, name) := match name with
              | '^' :: name => (true, name)
              | name => (false, name)
            let set := match String.ofList name with
              | "word" => some wordSet
              | "ascii" => some (CharSet.ofTest fun c => c.toNat < 128)
              | name => (classTest? name).map CharSet.ofTest
            match set with
            | some set => .ok (some (if negated then set.complement else set, tail))
            | none => fail "unknown POSIX class name"
  | _ => .ok none

def classItem (text : Octets) : Except String ((Char ⊕ CharSet) × Octets) :=
  match text with
  | [] => fail "missing terminating ] for character class"
  | '\\' :: rest =>
      match rest with
      | 'b' :: rest => .ok (.inl '\x08', rest)
      | c :: tail =>
          match letterClass? c with
          | some set => .ok (.inr set, tail)
          | none =>
              match escapedChar rest with
              | .error message => .error message
              | .ok (some (c, rest)) => .ok (.inl c, rest)
              | .ok none =>
                  if isOctalDigit c then
                    let digits := (rest.take 3).takeWhile isOctalDigit
                    .ok (.inl (Char.ofNat (octalOf digits % 256)), rest.drop digits.length)
                  else if c == 'N' || c == 'B' || c == 'R' || c == 'X' then
                    fail "escape sequence is invalid in character class"
                  else fail "unrecognized character follows \\"
      | [] => fail "\\ at end of pattern"
  | c :: rest =>
      match posixClass? text with
      | .error message => .error message
      | .ok (some (set, tail)) => .ok (.inr set, tail)
      | .ok none => .ok (.inl c, rest)

def classSet : Nat → Bool → CharSet → Octets → Except String (CharSet × Octets)
  | 0, _, _, _ => fail "missing terminating ] for character class"
  | fuel + 1, first, set, text =>
      match text with
      | [] => fail "missing terminating ] for character class"
      | '\\' :: 'E' :: rest => classSet fuel first set rest
      | ']' :: rest => if first then classSet fuel false (set.union (CharSet.ofChars [']'])) rest
          else .ok (set, rest)
      | text =>
          match classItem text with
          | .error message => .error message
          | .ok (.inr other, rest) => classSet fuel false (set.union other) rest
          | .ok (.inl c, '-' :: rest) =>
              let alone := set.union (CharSet.ofChars [c])
              if rest.head? == some ']' then classSet fuel false alone ('-' :: rest)
              else
                match classItem rest with
                | .error message => .error message
                | .ok (.inr other, rest) =>
                    classSet fuel false ((alone.union (CharSet.ofChars ['-'])).union other) rest
                | .ok (.inl d, rest) =>
                    if d < c then fail "range out of order in character class"
                    else classSet fuel false (set.union (CharSet.ofTest fun e => c ≤ e && e ≤ d)) rest
          | .ok (.inl c, rest) => classSet fuel false (set.union (CharSet.ofChars [c])) rest

def skipBlank (reading : RichReading) : RichReading :=
  { reading with rest := go (reading.rest.length + 1) reading.rest }
where
  go : Nat → Octets → Octets
    | 0, text => text
    | fuel + 1, text =>
        match text with
        | '(' :: '?' :: '#' :: rest =>
            let body := rest.takeWhile fun c => c != ')'
            go fuel (rest.drop (body.length + 1))
        | '\\' :: 'E' :: rest => go fuel rest
        | c :: rest =>
            if reading.switches.spaced then
              if c == '#' then go fuel ((rest.dropWhile fun c => c != '\n').drop 1)
              else if c == ' ' || (9 ≤ c.toNat && c.toNat ≤ 13) then go fuel rest
              else text
            else text
        | [] => []

def literal (reading : RichReading) (c : Char) : Regex :=
  if reading.switches.fold then Regex.folded c else .char c

def counts? (text : Octets) : Option ((Nat × Option Nat) × Octets) :=
  let least := text.takeWhile Char.isDigit
  if least.isEmpty then none
  else
    let value (digits : Octets) : Nat :=
      digits.foldl (fun value c => 10 * value + (c.toNat - '0'.toNat)) 0
    match text.drop least.length with
    | '\x7d' :: rest => some ((value least, some (value least)), rest)
    | ',' :: rest =>
        let most := rest.takeWhile Char.isDigit
        match rest.drop most.length with
        | '\x7d' :: tail =>
            some ((value least, if most.isEmpty then none else some (value most)), tail)
        | _ => none
    | _ => none

def quantifier? (text : Octets) : Except String (Option ((Nat × Option Nat) × Octets)) :=
  match text with
  | '*' :: rest => .ok (some ((0, none), rest))
  | '+' :: rest => .ok (some ((1, none), rest))
  | '?' :: rest => .ok (some ((0, some 1), rest))
  | '\x7b' :: rest =>
      match counts? rest with
      | some ((least, most), tail) =>
          if (most.map fun most => decide (most < least)).getD false then
            fail "numbers out of order in \x7b\x7d quantifier"
          else if 65535 < most.getD least then fail "number too big in \x7b\x7d quantifier"
          else .ok (some ((least, most), tail))
      | none => .ok none
  | _ => .ok none

def nameUpTo (closing : Char) (text : Octets) : Except String (Octets × Octets) :=
  let name := text.takeWhile isWordChar
  match text.drop name.length with
  | c :: rest =>
      if name.isEmpty then fail "subpattern name expected"
      else if c == closing then .ok (name, rest)
      else fail "syntax error in subpattern name (missing terminator?)"
  | [] => fail "syntax error in subpattern name (missing terminator?)"

def byName (reading : RichReading) (name rest : Octets) : Regex × RichReading :=
  let number := (reading.names.lookup name).getD 0
  (.same number reading.switches.fold,
    { reading with rest, wantedNames := name :: reading.wantedNames })

def byNumber (reading : RichReading) (number : Nat) (rest : Octets) : Regex × RichReading :=
  (.same number reading.switches.fold, { reading with rest, wanted := number :: reading.wanted })

def escape (reading : RichReading) (text : Octets) : Except String (Regex × Bool × RichReading) :=
  match text with
  | [] => fail "\\ at end of pattern"
  | c :: rest =>
      let goOn (regex : Regex) (repeatable : Bool) : Except String (Regex × Bool × RichReading) :=
        .ok (regex, repeatable, { reading with rest })
      match letterClass? c with
      | some set => goOn (.oneOf set) true
      | none =>
          match c with
          | 'b' => goOn (.edge true true) false
          | 'B' => goOn (.edge false false) false
          | 'A' | 'G' => goOn (.lineStart false) false
          | 'z' => goOn (.lineEnd false) false
          | 'Z' => goOn .lastLineEnd false
          | 'K' => goOn .mark false
          | 'N' => goOn (.oneOf (CharSet.ofTest fun c => c != '\n')) true
          | 'X' => goOn (.oneOf (CharSet.ofTest fun _ => true)) true
          | 'R' =>
              goOn (.preferred (.either (Regex.ofText ['\r', '\n']) (.oneOf (CharSet.ofTest vertical))))
                true
          | 'p' | 'P' =>
              let (name, tail) := match rest with
                | '\x7b' :: rest =>
                    let name := rest.takeWhile fun c => c != '\x7d'
                    (name, rest.drop (name.length + 1))
                | c :: rest => ([c], rest)
                | [] => ([], [])
              let (negated, name) := match name with
                | '^' :: name => (c == 'p', name)
                | name => (c == 'P', name)
              let test? : Option (Char → Bool) := match String.ofList name with
                | "L" | "L&" => some Char.isAlpha
                | "Lu" => some Char.isUpper
                | "Ll" => some Char.isLower
                | "N" | "Nd" => some Char.isDigit
                | "P" => some fun c => 32 < c.toNat && c.toNat < 127 && !c.isAlphanum &&
                    !"$+<=>^\x60|~".toList.contains c
                | "Z" | "Zs" => some fun c => c == ' '
                | "Any" => some fun _ => true
                | _ => none
              match test? with
              | some test =>
                  let set := CharSet.ofTest test
                  .ok (.oneOf (if negated then set.complement else set), true,
                    { reading with rest := tail })
              | none => fail "unknown property after \\P or \\p"
          | 'k' =>
              let closing? := match rest with
                | '<' :: _ => some '>'
                | '\'' :: _ => some '\''
                | '\x7b' :: _ => some '\x7d'
                | _ => none
              match closing? with
              | none => fail "\\k is not followed by a braced, angle-bracketed, or quoted name"
              | some closing =>
                  (nameUpTo closing (rest.drop 1)).map fun (name, rest) =>
                    let (regex, reading) := byName reading name rest
                    (regex, true, reading)
          | 'g' =>
              let (body, tail) : Octets × Octets := match rest with
                | '\x7b' :: rest =>
                    let body := rest.takeWhile fun c => c != '\x7d'
                    (body, rest.drop (body.length + 1))
                | rest =>
                    let sign := rest.takeWhile fun c => c == '-' || c == '+'
                    let digits := (rest.drop sign.length).takeWhile Char.isDigit
                    (sign ++ digits, rest.drop (sign.length + digits.length))
              let value (digits : Octets) : Nat :=
                digits.foldl (fun value c => 10 * value + (c.toNat - '0'.toNat)) 0
              match body with
              | '-' :: digits =>
                  let (regex, reading) :=
                    byNumber reading (reading.groups + 1 - value digits) tail
                  .ok (regex, true, reading)
              | body =>
                  if !body.isEmpty && body.all Char.isDigit then
                    let (regex, reading) := byNumber reading (value body) tail
                    .ok (regex, true, reading)
                  else if body.isEmpty then
                    fail "a numbered reference must not be zero"
                  else
                    let (regex, reading) := byName reading body tail
                    .ok (regex, true, reading)
          | c =>
              if '1' ≤ c && c ≤ '9' then
                let digits := text.takeWhile Char.isDigit
                let number := digits.foldl (fun value c => 10 * value + (c.toNat - '0'.toNat)) 0
                if number < 10 || number ≤ reading.groups then
                  let (regex, reading) := byNumber reading number (text.drop digits.length)
                  .ok (regex, true, reading)
                else
                  let digits := (text.take 3).takeWhile isOctalDigit
                  if digits.isEmpty then
                    let (regex, reading) := byNumber reading number text
                    .ok (regex, true, reading)
                  else
                    .ok (literal reading (Char.ofNat (octalOf digits % 256)), true,
                      { reading with rest := text.drop digits.length })
              else
                match escapedChar text with
                | .error message => .error message
                | .ok (some (c, rest)) => .ok (literal reading c, true, { reading with rest })
                | .ok none => fail "unrecognized character follows \\"

inductive Opening where
  | plain
  | counted (name : Option Octets)
  | ahead (negated : Bool)
  | behind (negated : Bool)
  | preferred
  | switched (switches : Switches) (closed : Bool)
  | reference (name : Octets)

def readSwitches : Nat → Bool → Switches → Octets → Except String (Switches × Bool × Octets)
  | 0, _, _, _ => fail "missing closing parenthesis"
  | fuel + 1, on, switches, text =>
      match text with
      | [] => fail "missing closing parenthesis"
      | c :: rest =>
          let goOn (switches : Switches) := readSwitches fuel on switches rest
          match c with
          | ')' => .ok (switches, true, rest)
          | ':' => .ok (switches, false, rest)
          | '-' => readSwitches fuel false switches rest
          | '^' => readSwitches fuel on {} rest
          | 'i' => goOn { switches with fold := on }
          | 's' => goOn { switches with dotAll := on }
          | 'm' => goOn { switches with inner := on }
          | 'x' => goOn { switches with spaced := on }
          | 'n' => goOn { switches with uncounted := on }
          | 'J' | 'U' => goOn switches
          | _ => fail "unrecognized character after (? or (?-"

def opening (reading : RichReading) (text : Octets) : Except String (Opening × Octets) :=
  match text with
  | '?' :: ':' :: rest => .ok (.plain, rest)
  | '?' :: '|' :: rest => .ok (.plain, rest)
  | '?' :: '=' :: rest => .ok (.ahead false, rest)
  | '?' :: '!' :: rest => .ok (.ahead true, rest)
  | '?' :: '>' :: rest => .ok (.preferred, rest)
  | '?' :: '<' :: '=' :: rest => .ok (.behind false, rest)
  | '?' :: '<' :: '!' :: rest => .ok (.behind true, rest)
  | '?' :: '<' :: rest | '?' :: 'P' :: '<' :: rest =>
      (nameUpTo '>' rest).map fun (name, rest) => (.counted (some name), rest)
  | '?' :: '\'' :: rest => (nameUpTo '\'' rest).map fun (name, rest) => (.counted (some name), rest)
  | '?' :: 'P' :: '=' :: rest =>
      (nameUpTo ')' rest).map fun (name, rest) => (.reference name, rest)
  | '?' :: rest =>
      match readSwitches (rest.length + 1) true reading.switches rest with
      | .error message => .error message
      | .ok (switches, closed, rest) => .ok (.switched switches closed, rest)
  | '*' :: _ => fail "(*VERB) not recognized or malformed"
  | rest => .ok (if reading.switches.uncounted then .plain else .counted none, rest)

def width? : Regex → Option Nat
  | .char _ | .oneOf _ => some 1
  | .group _ body | .preferred body => width? body
  | .seq first second => (width? first).bind fun a => (width? second).map (a + ·)
  | .either first second =>
      (width? first).bind fun a => (width? second).bind fun b => if a = b then some a else none
  | .times least most _ body =>
      if most = some least then (width? body).map (least * ·) else none
  | .same _ _ => none
  | _ => some 0

def fixedWidths : Regex → Bool
  | .either first second => fixedWidths first && fixedWidths second
  | .group _ body => fixedWidths body
  | regex => (width? regex).isSome

def readRich : Nat → Bool → RichReading → Except String (Regex × RichReading)
  | 0, _, _ => fail "parentheses are too deeply nested"
  | fuel + 1, grouped, reading => branches fuel grouped none reading
where
  branches (fuel : Nat) (grouped : Bool) (earlier : Option (Regex → Regex))
      (reading : RichReading) : Except String (Regex × RichReading) :=
    match fuel with
    | 0 => fail "regular expression is too large"
    | fuel + 1 =>
        match items fuel grouped [] reading with
        | .error message => .error message
        | .ok (parts, reading) =>
            let branch := chain parts.reverse
            match reading.rest with
            | '|' :: rest =>
                let build := match earlier with
                  | some build => fun last => build (.either branch last)
                  | none => fun last => .either branch last
                branches fuel grouped (some build) { reading with rest }
            | _ => .ok ((earlier.getD id) branch, reading)
  items (fuel : Nat) (grouped : Bool) (parts : List Regex) (reading : RichReading) :
      Except String (List Regex × RichReading) :=
    match fuel with
    | 0 => fail "regular expression is too large"
    | fuel + 1 =>
        let reading := reading.skipBlank
        match reading.rest with
        | [] => .ok (parts, reading)
        | '|' :: _ => .ok (parts, reading)
        | ')' :: _ => if grouped then .ok (parts, reading) else fail "unmatched closing parenthesis"
        | '\\' :: 'Q' :: rest =>
            let body := quoted rest
            let reading := { reading with rest := rest.drop (body.length + 2) }
            match body.reverse with
            | [] => items fuel grouped parts reading
            | last :: others =>
                let parts := others.reverse.foldl (fun parts c => literal reading c :: parts) parts
                finish fuel grouped parts (literal reading last) reading
        | text =>
            match item fuel reading text with
            | .error message => .error message
            | .ok (none, _, reading) => items fuel grouped parts reading
            | .ok (some part, true, reading) => finish fuel grouped parts part reading
            | .ok (some part, false, reading) =>
                let reading := reading.skipBlank
                match quantifier? reading.rest with
                | .error message => .error message
                | .ok (some _) => fail "quantifier does not follow a repeatable item"
                | .ok none => items fuel grouped (part :: parts) reading
  quoted : Octets → Octets
    | [] => []
    | '\\' :: 'E' :: _ => []
    | c :: rest => c :: quoted rest
  finish (fuel : Nat) (grouped : Bool) (parts : List Regex) (part : Regex)
      (reading : RichReading) : Except String (List Regex × RichReading) :=
    match fuel with
    | 0 => fail "regular expression is too large"
    | fuel + 1 =>
    let reading := reading.skipBlank
    match quantifier? reading.rest with
    | .error message => .error message
    | .ok none => items fuel grouped (part :: parts) reading
    | .ok (some ((least, most), rest)) =>
        let (way, rest) : Repetition × Octets := match rest with
          | '?' :: rest => (.fewest, rest)
          | '+' :: rest => (.allOrNothing, rest)
          | rest => (.most, rest)
        let reading := { reading with rest }.skipBlank
        match quantifier? reading.rest with
        | .error message => .error message
        | .ok (some _) => fail "quantifier does not follow a repeatable item"
        | .ok none => items fuel grouped (.times least most way part :: parts) reading
  item (fuel : Nat) (reading : RichReading) (text : Octets) :
      Except String (Option Regex × Bool × RichReading) :=
    match fuel with
    | 0 => fail "parentheses are too deeply nested"
    | fuel + 1 =>
    match text with
    | [] => .ok (none, false, reading)
    | '\\' :: rest =>
        (escape reading rest).map fun (regex, repeatable, reading) =>
          (some regex, repeatable, reading)
    | '^' :: rest => .ok (some (.lineStart reading.switches.inner), false, { reading with rest })
    | '$' :: rest =>
        .ok (some (if reading.switches.inner then .lineEnd true else .lineEnd false), false,
          { reading with rest })
    | '.' :: rest =>
        let set := CharSet.ofTest fun c => reading.switches.dotAll || c != '\n'
        .ok (some (.oneOf set), true, { reading with rest })
    | '[' :: rest =>
        match posixClass? text with
        | .ok (some _) => fail "POSIX named classes are supported only within a class"
        | _ =>
            let (negated, rest) := match rest with
              | '^' :: rest => (true, rest)
              | rest => (false, rest)
            match classSet (rest.length + 1) true CharSet.empty rest with
            | .error message => .error message
            | .ok (set, rest) =>
                let set := if reading.switches.fold then set.folded else set
                .ok (some (.oneOf (if negated then set.complement else set)), true,
                  { reading with rest })
    | '(' :: rest =>
        match opening reading rest with
        | .error message => .error message
        | .ok (.switched switches true, rest) =>
            .ok (none, false, { reading with rest, switches })
        | .ok (.reference name, rest) =>
            let (regex, reading) := byName reading name rest
            .ok (some regex, true, reading)
        | .ok (kind, rest) =>
            let inside := { reading with rest }
            let (inside, number) : RichReading × Nat := match kind with
              | .counted name =>
                  let number := reading.groups + 1
                  ({ inside with
                    groups := number
                    names := (name.map fun name => (name, number)).toList ++ inside.names }, number)
              | .switched switches _ => ({ inside with switches }, 0)
              | _ => (inside, 0)
            match readRich fuel true inside with
            | .error message => .error message
            | .ok (body, after) =>
                match after.rest with
                | ')' :: rest =>
                    let after := { after with rest, switches := reading.switches }
                    match kind with
                    | .counted _ => .ok (some (.group number body), true, after)
                    | .ahead negated => .ok (some (.ahead negated body), true, after)
                    | .behind negated =>
                        if fixedWidths body then .ok (some (.behind negated body), true, after)
                        else fail "lookbehind assertion is not fixed length"
                    | .preferred => .ok (some (.preferred body), true, after)
                    | _ => .ok (some body, true, after)
                | _ => fail "missing closing parenthesis"
    | '*' :: _ | '+' :: _ | '?' :: _ => fail "quantifier does not follow a repeatable item"
    | c :: rest =>
        match quantifier? text with
        | .ok (some _) => fail "quantifier does not follow a repeatable item"
        | _ => .ok (some (literal reading c), true, { reading with rest })

end RichReading

def readRich (switches : Switches) (text : Octets) : Except String Regex :=
  match RichReading.readRich (8 * text.length + 16) false { rest := text, switches } with
  | .error message => .error message
  | .ok (regex, reading) =>
      if (reading.wanted.any fun number => number = 0 || reading.groups < number) ||
          (reading.wantedNames.any fun name => (reading.names.lookup name).isNone) then
        .error "reference to non-existent subpattern"
      else .ok regex

end Regex

end ArtifactPipeline
