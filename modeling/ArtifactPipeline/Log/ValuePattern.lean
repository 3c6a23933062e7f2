import ArtifactPipeline.Text.Alphanumeric
import ArtifactPipeline.Text.Basic

set_option autoImplicit false

namespace ArtifactPipeline.ValuePattern

open Text (Nesting)

def isMantissa (text : List Char) : Bool :=
  let whole := text.takeWhile Char.isDigit
  match text.dropWhile Char.isDigit with
  | [] => !whole.isEmpty
  | '.' :: rest => rest.all Char.isDigit && !(whole.isEmpty && rest.isEmpty)
  | _ => false

def dropSign : List Char → List Char
  | '+' :: rest => rest
  | '-' :: rest => rest
  | text => text

def isExponent (text : List Char) : Bool :=
  let digits := dropSign text
  !digits.isEmpty && digits.all Char.isDigit

def isNumber (text : List Char) : Bool :=
  let body := (dropSign text).map Char.toLower
  if ["inf".toList, "infinity".toList, "nan".toList].contains body then true
  else
    match body.dropWhile fun c => c != 'e' with
    | [] => isMantissa body
    | _ :: exponent => isMantissa (body.takeWhile fun c => c != 'e') && isExponent exponent

structure Flags where
  unicode : Bool := true
  ignoreCase : Bool := false
  spaced : Bool := false

def skipBlanks (spaced inComment : Bool) : List Char → List Char
  | [] => []
  | c :: rest =>
      if !spaced then c :: rest
      else if inComment then skipBlanks spaced (c != '\n') rest
      else if Text.isBlank c then skipBlanks spaced false rest
      else if c = '#' then skipBlanks spaced true rest
      else c :: rest

inductive Escape where
  | single (c : Char) (coded : Bool)
  | kind (negated : Bool)
  | edge
  | wordEdge

def coded? (spaced : Bool) : Nat → Nat → List Char → Option (Char × List Char)
  | 0, code, text =>
      if code < 0xD800 ∨ (0xDFFF < code ∧ code < 0x110000) then some (Char.ofNat code, text)
      else none
  | _ + 1, _, [] => none
  | count + 1, code, c :: rest =>
      match Text.hexValue? c with
      | some digit => coded? spaced count (16 * code + digit) (skipBlanks spaced false rest)
      | none => none

def isEscapeable (c : Char) : Bool :=
  c.toNat < 128 && !c.isAlphanum && c != '<' && c != '>'

def escape? (spaced : Bool) (text : List Char) : Option (Escape × List Char) :=
  let code (count : Nat) (short : Bool) (rest : List Char) : Option (Escape × List Char) :=
    (coded? spaced count 0 (skipBlanks spaced false rest)).map fun (c, rest) =>
      (.single c short, rest)
  match text with
  | [] => none
  | c :: rest =>
      match c with
      | 'd' | 's' | 'w' => some (.kind false, rest)
      | 'D' | 'S' | 'W' => some (.kind true, rest)
      | 'a' => some (.single '\x07' false, rest)
      | 'f' => some (.single '\x0c' false, rest)
      | 't' => some (.single '\t' false, rest)
      | 'n' => some (.single '\n' false, rest)
      | 'r' => some (.single '\r' false, rest)
      | 'v' => some (.single '\x0b' false, rest)
      | 'x' => code 2 true rest
      | 'u' => code 4 false rest
      | 'U' => code 8 false rest
      | 'A' | 'z' => some (.edge, rest)
      | 'b' | 'B' | '<' | '>' => some (.wordEdge, rest)
      | c => if isEscapeable c then some (.single c false, rest) else none

def Flags.allowsSingle (flags : Flags) (c : Char) (coded : Bool) : Bool :=
  if flags.unicode then !flags.ignoreCase else !coded || c.toNat < 128

def Flags.allowsKind (flags : Flags) (negated : Bool) : Bool :=
  !flags.unicode && !negated

structure ClassRow where
  negated : Bool
  operands : Option Nat := none
  members : Nesting := .none
  used : Bool := false

namespace ClassRow

def add (row : ClassRow) (depth : Nat) : ClassRow :=
  { row with members := row.members.add (.one depth), used := true }

def depth (row : ClassRow) : Nat :=
  match row.operands with
  | some operands => max operands row.members.total + 1
  | none => row.members.total

def operator (row : ClassRow) : ClassRow :=
  { row with operands := some row.depth, members := .none }

end ClassRow

def classNames : List String :=
  ["alnum", "alpha", "ascii", "blank", "cntrl", "digit", "graph", "lower", "print", "punct",
    "space", "upper", "word", "xdigit"]

def namedClass? (text : List Char) : Option (Bool × List Char) :=
  match text with
  | ':' :: rest =>
      let (negated, rest) := match rest with
        | '^' :: rest => (true, rest)
        | rest => (false, rest)
      let name := rest.takeWhile fun c => c != ':'
      match rest.drop name.length with
      | ':' :: ']' :: rest =>
          if String.ofList name ∈ classNames then some (negated, rest) else none
      | _ => none
  | _ => none

def firstHyphens (spaced : Bool) : Nat → ClassRow → List Char → ClassRow × List Char
  | 0, row, text => (row, text)
  | fuel + 1, row, text =>
      match text with
      | '-' :: rest => firstHyphens spaced fuel (row.add 0) (skipBlanks spaced false rest)
      | text => (row, text)

def openClass (spaced : Bool) (text : List Char) : ClassRow × List Char :=
  let text := skipBlanks spaced false text
  let (negated, text) := match text with
    | '^' :: rest => (true, skipBlanks spaced false rest)
    | text => (false, text)
  let (row, text) := firstHyphens spaced text.length { negated } text
  match row.members.pieces, text with
  | 0, ']' :: rest => (row.add 0, skipBlanks spaced false rest)
  | _, text => (row, text)

def member? (flags : Flags) (text : List Char) : Option (Option Char × List Char) :=
  match text with
  | [] => none
  | '\\' :: rest =>
      match escape? flags.spaced rest with
      | some (.single c coded, rest) =>
          if flags.allowsSingle c coded && (flags.unicode || c.toNat < 128) then
            some (some c, rest)
          else none
      | some (.kind negated, rest) => if flags.allowsKind negated then some (none, rest) else none
      | _ => none
  | c :: rest =>
      if flags.allowsSingle c false && (flags.unicode || c.toNat < 128) then some (some c, rest)
      else none

def members? (flags : Flags) (text : List Char) : Option (List Char) :=
  match member? flags text with
  | none => none
  | some (first, rest) =>
      let rest := skipBlanks flags.spaced false rest
      match rest with
      | '-' :: behind =>
          let behind := skipBlanks flags.spaced false behind
          if behind.head? = some ']' || behind.head? = some '-' then some rest
          else
            match first, member? flags behind with
            | some low, some (some high, rest) => if low ≤ high then some rest else none
            | _, _ => none
      | rest => some rest

/-- The depth of a class and the text behind it. `row` is the innermost class that is open, and
`outer` are those around it. A class that excludes characters may match any byte. -/
def class? (flags : Flags) : Nat → ClassRow → List ClassRow → List Char → Option (Nat × List Char)
  | 0, _, _, _ => none
  | fuel + 1, row, outer, text =>
      match skipBlanks flags.spaced false text with
      | [] => none
      | ']' :: rest =>
          if if flags.unicode then flags.ignoreCase && row.used else row.negated then none
          else
            match outer with
            | [] => some (row.depth + 1, rest)
            | around :: outer => class? flags fuel (around.add (row.depth + 1)) outer rest
      | '[' :: rest =>
          match namedClass? rest with
          | some (negated, rest) =>
              if if flags.unicode then flags.ignoreCase else negated then none
              else class? flags fuel (row.add 0) outer rest
          | none =>
              let (inner, rest) := openClass flags.spaced rest
              class? flags fuel inner (row :: outer) rest
      | '&' :: '&' :: rest => class? flags fuel row.operator outer rest
      | '-' :: '-' :: rest => class? flags fuel row.operator outer rest
      | '~' :: '~' :: rest => class? flags fuel row.operator outer rest
      | text =>
          match members? flags text with
          | some rest => class? flags fuel (row.add 0) outer rest
          | none => none

def areFlags (text : List Char) : Bool :=
  let letters := text.filter fun c => c != '-'
  letters.all (· ∈ "imsUuxR".toList) && decide letters.Nodup &&
    (text.length ≤ letters.length + 1) && text.getLast? != some '-'

def Flags.apply (flags : Flags) (text : List Char) : Flags :=
  (text.foldl (fun (flags, on) c =>
    match c with
    | '-' => (flags, false)
    | 'u' => ({ flags with unicode := on }, on)
    | 'i' => ({ flags with ignoreCase := on }, on)
    | 'x' => ({ flags with spaced := on }, on)
    | _ => (flags, on)) (flags, true)).1

def isLetter (c : Char) : Bool :=
  Text.inRanges Text.alphanumericRanges c.toNat && !Text.inRanges Text.numericRanges c.toNat

def isGroupName : List Char → Bool
  | [] => false
  | c :: rest =>
      (c == '_' || isLetter c) && rest.all fun c =>
        "_.[]".toList.contains c || Text.inRanges Text.alphanumericRanges c.toNat

inductive Opening where
  | group (flags : List Char)
  | named (name : List Char)
  | settings (flags : List Char)

def opening? (text : List Char) : Option (Opening × List Char) :=
  let named (rest : List Char) : Option (Opening × List Char) :=
    let name := rest.takeWhile fun c => c != '>'
    match rest.drop name.length with
    | '>' :: rest => if isGroupName name then some (.named name, rest) else none
    | _ => none
  match text with
  | '?' :: 'P' :: '<' :: rest => named rest
  | '?' :: '<' :: rest => named rest
  | '?' :: rest =>
      let flags := rest.takeWhile fun c => c != ':' && c != ')'
      match rest.drop flags.length with
      | ':' :: rest => if areFlags flags then some (.group flags, rest) else none
      | ')' :: rest => if areFlags flags && !flags.isEmpty then some (.settings flags, rest) else none
      | _ => none
  | rest => some (.group [], rest)

structure Level where
  flags : Flags
  branches : Nesting := .none
  row : Nesting := .none
  last : Option Nat := none

namespace Level

def add (level : Level) (depth : Nat) : Level :=
  { level with row := level.row.add (.one depth), last := some depth }

def nextBranch (level : Level) : Level :=
  { level with
    branches := level.branches.add (.one level.row.total), row := .none, last := none }

def set (level : Level) (flags : Flags) : Level :=
  { level with flags, row := level.row.add (.one 0), last := none }

def repeat? (level : Level) : Option Level :=
  level.last.map fun depth =>
    { level with
      row := ⟨level.row.pieces, max level.row.deepest (depth + 1)⟩, last := some (depth + 1) }

def depth (level : Level) : Nat :=
  (level.branches.add (.one level.row.total)).total

end Level

def makesSense : Nat → Level → List Level → List (List Char) → List Char → Bool
  | 0, _, _, _, _ => false
  | fuel + 1, level, outer, names, text =>
      let flags := level.flags
      let lazily (rest : List Char) : List Char :=
        match rest with
        | '?' :: rest => rest
        | rest => rest
      let again (rest : List Char) : Bool :=
        match level.repeat? with
        | some level => makesSense fuel level outer names (lazily rest)
        | none => false
      match skipBlanks flags.spaced false text with
      | [] => outer.isEmpty && level.depth ≤ Nesting.limit
      | '|' :: rest => makesSense fuel level.nextBranch outer names rest
      | '(' :: rest =>
          match opening? (skipBlanks flags.spaced false rest) with
          | some (.settings letters, rest) =>
              makesSense fuel (level.set (flags.apply letters)) outer names rest
          | some (.named name, rest) =>
              !names.contains name && makesSense fuel { flags } (level :: outer) (name :: names) rest
          | some (.group letters, rest) =>
              makesSense fuel { flags := flags.apply letters } (level :: outer) names rest
          | none => false
      | ')' :: rest =>
          match outer with
          | around :: outer => makesSense fuel (around.add (level.depth + 1)) outer names rest
          | [] => false
      | '*' :: rest => again rest
      | '+' :: rest => again rest
      | '?' :: rest => again rest
      | '\x7b' :: _ => false
      | '[' :: rest =>
          let (row, rest) := openClass flags.spaced rest
          match class? flags (rest.length + 1) row [] rest with
          | some (depth, rest) => makesSense fuel (level.add depth) outer names rest
          | none => false
      | '\\' :: rest =>
          match escape? flags.spaced rest with
          | some (.single c coded, rest) =>
              flags.allowsSingle c coded && makesSense fuel (level.add 0) outer names rest
          | some (.kind negated, rest) =>
              flags.allowsKind negated && makesSense fuel (level.add 0) outer names rest
          | some (.edge, rest) => makesSense fuel (level.add 0) outer names rest
          | some (.wordEdge, rest) => !flags.unicode && makesSense fuel (level.add 0) outer names rest
          | none => false
      | '.' :: rest => flags.unicode && makesSense fuel (level.add 0) outer names rest
      | '^' :: rest => makesSense fuel (level.add 0) outer names rest
      | '$' :: rest => makesSense fuel (level.add 0) outer names rest
      | c :: rest => flags.allowsSingle c false && makesSense fuel (level.add 0) outer names rest

def isValid (text : List Char) : Bool :=
  isNumber text || makesSense (text.length + 1) { flags := {} } [] [] text

end ArtifactPipeline.ValuePattern
