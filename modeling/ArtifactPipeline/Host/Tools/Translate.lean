import ArtifactPipeline.Host.Tools.Printing

set_option autoImplicit false

namespace ArtifactPipeline.Tools

open Text (Octets)

abbrev MarkedChar := Char × Bool

inductive SetItem where
  | char (c : Char)
  | range (first last : Char)
  | named (name : String)
  | same (c : Char)
  | repeated (c : Char) (count : Option Nat)
  deriving DecidableEq, Repr

def charRange (first last : Nat) : Octets :=
  (List.range (last + 1 - first)).map fun index => Char.ofNat (first + index)

def everyChar : Octets :=
  charRange 0 255

def classMembers? (name : String) : Option Octets :=
  match name with
  | "alpha" => some (everyChar.filter Char.isAlpha)
  | "digit" => some (everyChar.filter Char.isDigit)
  | "alnum" => some (everyChar.filter Char.isAlphanum)
  | "upper" => some (everyChar.filter Char.isUpper)
  | "lower" => some (everyChar.filter Char.isLower)
  | "space" => some (everyChar.filter fun c => c == ' ' || (9 ≤ c.toNat && c.toNat ≤ 13))
  | "blank" => some ['\t', ' ']
  | "punct" => some (everyChar.filter fun c => 33 ≤ c.toNat && c.toNat ≤ 126 && !c.isAlphanum)
  | "cntrl" => some (everyChar.filter fun c => c.toNat < 32 || c.toNat = 127)
  | "print" => some (charRange 32 126)
  | "graph" => some (charRange 33 126)
  | "xdigit" => some (everyChar.filter fun c => (Text.hexValue? c).isSome)
  | _ => none

namespace SetItem

def members : SetItem → Octets
  | .char c | .same c => [c]
  | .range first last => charRange first.toNat last.toNat
  | .named name => (classMembers? name).getD []
  | .repeated c count => List.replicate (count.getD 0) c

def isCase (item : SetItem) : Bool :=
  item = .named "upper" || item = .named "lower"

def isClass : SetItem → Bool
  | .named _ => true
  | _ => false

end SetItem

def markedChars : Nat → Octets → List MarkedChar × List String
  | 0, _ => ([], [])
  | _ + 1, [] => ([], [])
  | _ + 1, ['\\'] =>
      ([('\\', false)], ["warning: an unescaped backslash at end of string is not portable"])
  | fuel + 1, '\\' :: c :: rest =>
      if isOctal c then
        let digits := ((c :: rest).take 3).takeWhile isOctal
        let value := octalValue digits
        if value < 256 then cons (Char.ofNat value) [] fuel ((c :: rest).drop digits.length)
        else
          let short := digits.take 2
          let shown := String.ofList digits
          let message := "warning: the ambiguous octal escape \\" ++ shown ++
            " is being\n\tinterpreted as the 2-byte sequence \\0" ++ String.ofList short ++ ", " ++
            String.ofList (digits.drop 2)
          cons (Char.ofNat (octalValue short)) [message] fuel ((c :: rest).drop 2)
      else cons ((simpleEscape? c).getD c) [] fuel rest
  | fuel + 1, c :: rest =>
      let (chars, said) := markedChars fuel rest
      ((c, false) :: chars, said)
termination_by fuel => (fuel, 0)
where
  cons (c : Char) (said : List String) (fuel : Nat) (rest : Octets) :
      List MarkedChar × List String :=
    let (chars, more) := markedChars fuel rest
    ((c, true) :: chars, said ++ more)
  termination_by (fuel, 1)

def upToDelimiter (delimiter : Char) :
    List MarkedChar → List MarkedChar → Option (Octets × List MarkedChar)
  | read, (c, false) :: (']', false) :: rest =>
      if c == delimiter then some (read.reverse.map (·.1), rest)
      else upToDelimiter delimiter ((c, false) :: read) ((']', false) :: rest)
  | read, c :: rest => upToDelimiter delimiter (c :: read) rest
  | _, [] => none

def repetition? (text : List MarkedChar) :
    Except String (Option (SetItem × List MarkedChar)) :=
  match text with
  | (c, _) :: ('*', false) :: rest =>
      let inner := rest.takeWhile fun item => item.1 != ']' && !item.2
      match rest.drop inner.length with
      | (']', false) :: after =>
          let digits := inner.map (·.1)
          if digits.isEmpty then .ok (some (.repeated c none, after))
          else
            let octal := digits.head? = some '0'
            if digits.all fun c => if octal then isOctal c else c.isDigit then
              let count := if octal then octalValue digits else (number? digits).getD 0
              .ok (some (.repeated c (if count = 0 then none else some count), after))
            else
              .error ("invalid repeat count " ++ inQuotes digits ++ " in [c*n] construct")
      | _ => .ok none
  | _ => .ok none

def looksRepeated (text : List MarkedChar) : Bool :=
  match text with
  | ('*', false) :: rest =>
      match rest.dropWhile fun item => item.1.isDigit && !item.2 with
      | (']', false) :: _ => true
      | _ => false
  | _ => false

def bracketed? (delimiter : Char) (text : List MarkedChar) :
    Except String (Option (SetItem × List MarkedChar)) :=
  match upToDelimiter delimiter [] text with
  | none => .ok none
  | some (name, rest) =>
      let shown := String.ofList name
      if name.isEmpty then
        .error (if delimiter == ':' then "missing character class name '[::]'"
          else "missing equivalence class character '[==]'")
      else if delimiter == ':' then
        if (classMembers? shown).isSome then .ok (some (.named shown, rest))
        else if looksRepeated text then .ok none
        else .error ("invalid character class " ++ inQuotes name)
      else
        match name with
        | [c] => .ok (some (.same c, rest))
        | _ =>
            if looksRepeated text then .ok none
            else .error (shown ++ ": equivalence class operand must be a single character")

def setItems : Nat → List MarkedChar → Except String (List SetItem)
  | 0, _ => .ok []
  | fuel + 1, text =>
      match text with
      | [] => .ok []
      | [(c, _)] => .ok [.char c]
      | [(c, _), (d, _)] => .ok [.char c, .char d]
      | (c, escaped) :: rest => do
          let inBrackets ←
            if c == '[' && !escaped then
              match rest with
              | (':', false) :: more | ('=', false) :: more => do
                  match ← bracketed? ((rest.headD (':', false)).1) more with
                  | some found => pure (some found)
                  | none => repetition? rest
              | _ => repetition? rest
            else pure none
          match inBrackets with
          | some (item, rest) => return item :: (← setItems fuel rest)
          | none =>
              match rest with
              | ('-', false) :: (last, _) :: rest =>
                  if last < c then
                    .error ("range-endpoints of '" ++ showChar c ++ "-" ++ showChar last ++
                      "' are in reverse collating sequence order")
                  else return .range c last :: (← setItems fuel rest)
              | rest => return .char c :: (← setItems fuel rest)
where
  showChar (c : Char) : String :=
    if isShown c then c.toString else String.ofList (codeOf c)

def lengthOf (items : List SetItem) : Nat :=
  (items.map fun item => item.members.length).foldl (· + ·) 0

structure TrStyle where
  complement : Bool := false
  truncates : Bool := false

def fillUp (length : Nat) (items : List SetItem) : List SetItem :=
  let missing := length - lengthOf items
  items.map fun item =>
    match item with
    | .repeated c none => .repeated c (some missing)
    | item => item

def openRepetitions (items : List SetItem) : Nat :=
  (items.filter fun item => match item with
    | .repeated _ none => true
    | _ => false).length

structure Walk where
  items : List SetItem
  left : Octets := []
  started : Bool := false

namespace Walk

def next : Nat → Walk → Option (Char × SetItem × Bool × Walk)
  | 0, _ => none
  | fuel + 1, walk =>
      match walk.items, walk.started, walk.left with
      | [], _, _ => none
      | item :: _, true, c :: left => some (c, item, false, { walk with left })
      | _ :: rest, true, [] => next fuel ⟨rest, [], false⟩
      | item :: rest, false, _ =>
          match item.members with
          | c :: left => some (c, item, true, { walk with left, started := true })
          | [] => next fuel ⟨rest, [], false⟩

def skip (walk : Walk) : Walk :=
  ⟨walk.items.drop 1, [], false⟩

end Walk

/-- Whether each class of letters in the second list stands opposite one in the first. Gives the
lengths of the lists in which such a pair counts as one. -/
def alignCases : Nat → Walk → Walk → Nat × Nat → Option (Nat × Nat)
  | 0, _, _, lengths => some lengths
  | fuel + 1, first, second, lengths =>
      match first.next (first.items.length + 1), second.next (second.items.length + 1) with
      | some (_, a, aStarts, first), some (_, b, bStarts, second) =>
          if b.isCase then
            if bStarts && !(aStarts && a.isCase) then none
            else alignCases fuel first.skip second.skip (lengths.1 - 25, lengths.2 - 25)
          else alignCases fuel first second lengths
      | none, some (_, b, bStarts, _) => if b.isCase && bStarts then none else some lengths
      | _, _ => some lengths

def extend (missing : Nat) (items : List SetItem) : Except String (List SetItem) :=
  let last : Option Char :=
    match items.getLast? with
    | some (.char c) | some (.same c) | some (.repeated c _) => some c
    | some (.range _ last) => some last
    | _ => none
  match last with
  | some c => .ok (items ++ [.repeated c (some missing)])
  | none => .error ("when translating with string1 longer than string2,\n" ++
      "the latter string must not end with a character class")

def complementOf (items : List SetItem) : Octets :=
  let members := items.flatMap SetItem.members
  everyChar.filter fun c => !members.contains c

def prepare (style : TrStyle) (first second : List SetItem) : Except String (List SetItem) := do
  let length := if style.complement then (complementOf first).length else lengthOf first
  if 0 < openRepetitions first then
    throw "the [c*] repeat construct may not appear in string1"
  if 1 < openRepetitions second then
    throw "only one [c*] repeat construct may appear in string2"
  let second := fillUp length second
  if second.any fun item => match item with
    | .same _ => true
    | _ => false then
    throw "[=c=] expressions may not appear in string2 when translating"
  if second.any fun item => item.isClass && !item.isCase then
    throw ("when translating, the only character classes that may appear in\n" ++
      "string2 are 'upper' and 'lower'")
  let (firstLength, secondLength) ←
    if style.complement || !second.any SetItem.isClass then pure (length, lengthOf second)
    else
      match alignCases (length + lengthOf second + 2) { items := first } { items := second }
        (length, lengthOf second) with
      | some lengths => pure lengths
      | none => throw "misaligned [:upper:] and/or [:lower:] construct"
  let second ←
    if secondLength < firstLength && !style.truncates then
      if secondLength = 0 then throw "when not truncating set1, string2 must be non-empty"
      else extend (firstLength - secondLength) second
    else pure second
  let chars := second.flatMap SetItem.members
  let uniform := chars.all fun c => some c == chars.head?
  if style.complement && first.any SetItem.isClass && !(chars.length = length && uniform) then
    throw ("when translating with complemented character classes,\n" ++
      "string2 must map all characters in the domain to one")
  return second

def exchanges : Nat → Walk → Walk → List (Char × Char)
  | 0, _, _ => []
  | fuel + 1, first, second =>
      match first.next (first.items.length + 1), second.next (second.items.length + 1) with
      | some (a, item, _, first), some (b, other, _, second) =>
          if other.isCase then
            let pairs : List (Char × Char) :=
              if item = .named "lower" && other = .named "upper" then
                (everyChar.filter Char.isLower).map fun c => (c, c.toUpper)
              else if item = .named "upper" && other = .named "lower" then
                (everyChar.filter Char.isUpper).map fun c => (c, c.toLower)
              else [(a, b)]
            pairs ++ exchanges fuel first.skip second.skip
          else (a, b) :: exchanges fuel first second
      | _, _ => []

def squeeze (set : Octets) (text : Octets) : Octets :=
  (text.foldl (fun (shown : Octets) c =>
    if shown.head? == some c && set.contains c then shown else c :: shown) []).reverse

structure TrTask where
  deleted : Octets := []
  exchanged : List (Char × Char) := []
  squeezed : Octets := []

def TrTask.apply (task : TrTask) (text : Octets) : Octets :=
  let table := (everyChar.map fun c => (task.exchanged.lookup c).getD c).toArray
  let text := if task.deleted.isEmpty then text
    else text.filter fun c => !task.deleted.contains c
  let text := if task.exchanged.isEmpty then text else text.map fun c => table.getD c.toNat c
  if task.squeezed.isEmpty then text else squeeze task.squeezed text

def trTask (style : TrStyle) (deletes squeezes : Bool) (first : List SetItem)
    (second : Option (List SetItem)) : Except String TrTask := do
  let chosen (items : List SetItem) : Octets :=
    if style.complement then complementOf items else items.flatMap SetItem.members
  match second with
  | none =>
      if 0 < openRepetitions first then
        throw "the [c*] repeat construct may not appear in string1"
      return if deletes then { deleted := chosen first } else { squeezed := chosen first }
  | some second =>
      if deletes then
        if 0 < openRepetitions first then
          throw "the [c*] repeat construct may not appear in string1"
        if 0 < openRepetitions second then
          throw "the [c*] construct may appear in string2 only when translating"
        return { deleted := chosen first, squeezed := second.flatMap SetItem.members }
      else
        let second ← prepare style first second
        let chars := second.flatMap SetItem.members
        let exchanged :=
          if style.complement then (complementOf first).zip chars
          else (exchanges (lengthOf first + lengthOf second + 2) { items := first }
            { items := second }).reverse
        return { exchanged, squeezed := if squeezes then chars else [] }

def trMistake? (operands : List Octets) (deletes squeezes : Bool) : Option String :=
  let least := if deletes = squeezes then 2 else 1
  let most := if deletes && !squeezes then 1 else 2
  if operands.length < least then
    match operands with
    | [] => some "missing operand"
    | last =>
        some ("missing operand after " ++ inQuotes (last.getLastD []) ++
          (if squeezes then "\nTwo strings must be given when both deleting and squeezing repeats."
          else "\nTwo strings must be given when translating."))
  else if most < operands.length then
    some ("extra operand " ++ inQuotes (operands[most]?.getD []) ++
      (if operands.length = 2 then
        "\nOnly one string may be given when deleting without squeezing repeats." else ""))
  else none

def tr : Tool :=
  withOptions {
    flags := "cCdst"
    long := [("complement", 'c'), ("delete", 'd'), ("squeeze-repeats", 's'), ("truncate-set1", 't')]
    strictOrder := true } 1 fun call given => do
    let deletes := given.has 'd'
    let squeezes := given.has 's'
    let style : TrStyle :=
      { complement := given.has 'c' || given.has 'C', truncates := given.has 't' }
    match trMistake? given.operands deletes squeezes with
    | some message => misuse call.name message 1
    | none =>
        let read := given.operands.map fun operand => markedChars (operand.length + 1) operand
        (read.flatMap (·.2)).forM fun message => complain call.name message
        let items := read.mapM fun (chars, _) => setItems (chars.length + 1) chars
        let task := items.bind fun items =>
          trTask style deletes squeezes (items.headD []) (items.drop 1).head?
        match task with
        | .error message => refuse call.name message
        | .ok task =>
            match ← Chore.readAll 0 with
            | .error fault => refuse call.name ("read error: " ++ fault.message)
            | .ok text => finish call (task.apply text) 0

end ArtifactPipeline.Tools
