import ArtifactPipeline.Host.Tools.Call

set_option autoImplicit false

namespace ArtifactPipeline.Tools

open Text (Octets)

def scaleLetters : List (Char × Nat) :=
  [('K', 1), ('k', 1), ('M', 2), ('m', 2), ('G', 3), ('g', 3), ('T', 4), ('t', 4), ('P', 5),
    ('E', 6), ('Z', 7), ('Y', 8), ('R', 9), ('Q', 10)]

def scale? (unit : Octets) : Option Nat :=
  match unit with
  | [] => some 1
  | ['b'] => some 512
  | ['c'] | ['B'] => some 1
  | ['w'] => some 2
  | letter :: rest =>
      (scaleLetters.lookup letter).bind fun power =>
        match String.ofList rest with
        | "" | "iB" => some (Nat.pow 1024 power)
        | "B" => some (Nat.pow 1000 power)
        | _ => none

def byteCount? (text : Octets) : Option Nat :=
  let digits := text.takeWhile Char.isDigit
  let unit := text.drop digits.length
  if text.isEmpty then none
  else
    match number? digits, scale? unit with
    | some n, some scale => some (n * scale)
    | none, some scale => if digits.isEmpty && unit.head? != some '-' then some scale else none
    | _, none => none

structure SizeStyle where
  scaled : Bool := false
  base : Nat := 1024
  unit : Nat := 1
  lettered : Bool := false
  spelled : Bool := false
  deriving DecidableEq, Repr

namespace SizeStyle

def readable : SizeStyle := { scaled := true, lettered := true }

def decimal : SizeStyle := { scaled := true, base := 1000, lettered := true }

def ofText? (text : Octets) : Option SizeStyle :=
  let text := if text.head? = some '\'' then text.drop 1 else text
  if text = "human-readable".toList then some readable
  else if text = "si".toList then some decimal
  else
    match byteCount? text with
    | none | some 0 => none
    | some unit =>
        if (text.head?.map Char.isDigit).getD false then some { unit }
        else
          let spelled := text.getLast? == some 'B'
          let base := if spelled && !text.contains 'i' then 1000 else 1024
          some { unit, base, lettered := true, spelled }

def powerIn (base num den : Nat) : Nat :=
  ((List.range 11).reverse.find? fun power => den * Nat.pow base power ≤ num).getD 0

def powerOf (base unit : Nat) : Nat :=
  ((List.range 11).find? fun power => unit ≤ Nat.pow base power).getD 10

def ceilDiv (num den : Nat) : Nat :=
  (num + den - 1) / den

def letters (style : SizeStyle) (power : Nat) : Octets :=
  if !style.lettered then []
  else
    let letter : Octets :=
      if power = 0 then []
      else if power = 1 && style.base = 1000 then ['k']
      else ("KMGTPEZYRQ".toList.drop (power - 1)).take 1
    letter ++ (if style.spelled then (if style.base = 1024 && power != 0 then ['i', 'B'] else ['B'])
      else [])

def apply (style : SizeStyle) (amount block : Nat) : Octets :=
  let num := amount * block
  let den := style.unit
  let digits (n : Nat) : Octets := (Nat.repr n).toList
  if !style.scaled then
    digits (ceilDiv num den) ++ style.letters (powerOf style.base style.unit)
  else
    let power := powerIn style.base num den
    let den := den * Nat.pow style.base power
    let tenths := ceilDiv (10 * num) den
    if 0 < power && num < 10 * den && tenths < 100 then
      digits (tenths / 10) ++ '.' :: digits (tenths % 10) ++ style.letters power
    else
      let whole := ceilDiv num den
      if whole = style.base && power < 10 then "1.0".toList ++ style.letters (power + 1)
      else digits whole ++ style.letters power

end SizeStyle

end ArtifactPipeline.Tools
