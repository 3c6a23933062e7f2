import ArtifactPipeline.Host.RichShell.Reader

set_option autoImplicit false

namespace ArtifactPipeline.RichShell

open Text (Octets)

namespace Braces

inductive Item where
  | char (c : Char)
  | other (piece : Piece)

def itemsOf (word : Pieces) : List Item :=
  word.flatMap fun piece =>
    match piece with
    | .text chars false => chars.map Item.char
    | piece => [.other piece]

def piecesOf (items : List Item) : Pieces :=
  finishPieces (items.foldl (fun pieces item =>
    match item with
    | .char c => addChar pieces c false
    | .other (.text chars quoted) => .text chars.reverse quoted :: pieces
    | .other piece => piece :: pieces) [])

def isChar (c : Char) : Item → Bool
  | .char d => c == d
  | .other _ => false

def closing? : Nat → Bool → List Item → List Item → Option (List Item × List Item)
  | _, _, _, [] => none
  | level, parted, read, item :: rest =>
      match item with
      | .char '\x7d' =>
          if level = 0 then
            if parted then some (read.reverse, rest) else closing? 0 parted (item :: read) rest
          else closing? (level - 1) parted (item :: read) rest
      | .char '\x7b' => closing? (level + 1) parted (item :: read) rest
      | .char ',' => closing? level (parted || level = 0) (item :: read) rest
      | .char '.' =>
          let series := level = 0 && (rest.head?.map (isChar '.')).getD false &&
            !(((rest.drop 1).head?.map (isChar '\x7d')).getD false) && 1 < rest.length
          closing? level (parted || series) (item :: read) rest
      | item => closing? level parted (item :: read) rest

def find? : List Item → List Item → Option (List Item × List Item × List Item)
  | _, [] => none
  | before, item :: rest =>
      match (if isChar '\x7b' item then closing? 0 false [] rest else none) with
      | some (inside, behind) =>
          if before.isEmpty && (rest.head?.map (isChar '\x7d')).getD false then
            find? (item :: before) rest
          else some (before.reverse, inside, behind)
      | none => find? (item :: before) rest

def alternatives : Nat → List Item → List Item → List (List Item)
  | _, read, [] => [read.reverse]
  | level, read, item :: rest =>
      if isChar ',' item && level = 0 then read.reverse :: alternatives 0 [] rest
      else
        let level := if isChar '\x7b' item then level + 1
          else if isChar '\x7d' item then level - 1 else level
        alternatives level (item :: read) rest

def integer? (text : Octets) : Option (Int × Octets) :=
  let (negative, rest) := match text with
    | '-' :: rest => (true, rest)
    | '+' :: rest => (false, rest)
    | rest => (false, rest)
  let digits := rest.takeWhile Char.isDigit
  if digits.isEmpty then none
  else
    let value : Int := digits.foldl (fun value c => 10 * value + (c.toNat - '0'.toNat : Nat)) 0
    if value < 9223372036854775808 then some (if negative then -value else value, rest.drop digits.length)
    else none

def seriesLimit : Nat := 1000000

def series (first last step : Int) : List Int :=
  let step := if step = 0 then 1 else step
  let step : Int := if last < first then -step.natAbs else step.natAbs
  let count := ((last - first) / step).toNat + 1
  (List.range (min count seriesLimit)).map fun (index : Nat) => first + step * (index : Int)

def padded (width : Nat) (value : Int) : Octets :=
  let digits := (Nat.repr value.natAbs).toList
  let sign : Octets := if value < 0 then ['-'] else []
  sign ++ List.replicate (width - digits.length - sign.length) '0' ++ digits

def hasZeros (text : Octets) : Bool :=
  match text with
  | '0' :: _ :: _ => true
  | '-' :: '0' :: _ :: _ => true
  | _ => false

def series? (inside : List Item) : Option (List Octets) := do
  let text ← inside.mapM fun item =>
    match item with
    | .char c => some c
    | .other _ => none
  let lead := before text
  let rest := text.drop (lead.length + 2)
  if text.length < lead.length + 2 then none
  let step? (text : Octets) : Option Int :=
    match text with
    | [] => some 1
    | '.' :: '.' :: rest =>
        match integer? rest with
        | some (step, []) => some step
        | _ => none
    | _ => none
  match lead, rest with
  | [a], b :: after =>
      if a.isAlpha then
        if !b.isAlpha then none
        else
          let step ← step? after
          return (series a.toNat b.toNat step).map fun code => [Char.ofNat code.toNat]
      else numbers step? lead rest
  | lead, rest => numbers step? lead rest
where
  before : Octets → Octets
    | '.' :: '.' :: _ => []
    | c :: rest => c :: before rest
    | [] => []
  numbers (step? : Octets → Option Int) (lead rest : Octets) : Option (List Octets) := do
    let (first, after) ← integer? lead
    if !after.isEmpty then none
    let (last, after) ← integer? rest
    let step ← step? after
    let lastText := rest.take (rest.length - after.length)
    let width := if hasZeros lead || hasZeros lastText then max lead.length lastText.length else 0
    return (series first last step).map (padded width)

def expandItems : Nat → List Item → List (List Item)
  | 0, items => [items]
  | fuel + 1, items =>
      match find? [] items with
      | none => [items]
      | some (before, inside, behind) =>
          let choices :=
            if inside.any (isChar ',') then
              some ((alternatives 0 [] inside).flatMap (expandItems fuel))
            else
              match series? inside with
              | some texts => some (texts.map fun text => text.map Item.char)
              | none =>
                  if behind.isEmpty then none
                  else some [.char '\x7b' :: inside ++ [.char '\x7d']]
          match choices with
          | none => [items]
          | some choices =>
              let tails := if behind.isEmpty then [[]] else expandItems fuel behind
              choices.flatMap fun choice => tails.map fun tail => before ++ choice ++ tail

end Braces

def braceWords (word : Pieces) : List Pieces :=
  let plain := word.all fun piece =>
    match piece with
    | .text chars false => !chars.contains '\x7b'
    | _ => true
  if plain then [word]
  else
    let items := Braces.itemsOf word
    (Braces.expandItems (items.length + 1) items).map Braces.piecesOf

end ArtifactPipeline.RichShell
