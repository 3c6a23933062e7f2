import ArtifactPipeline.Host.Tools.Format

set_option autoImplicit false

namespace ArtifactPipeline.Awk

open Text (Octets Quantity BinaryFormat)
open Tools (Directive)

def quantityOf (x : Float) : Quantity :=
  let bits := x.toBits.toNat
  let negative := Nat.pow 2 63 ≤ bits
  let exponent := bits / Nat.pow 2 52 % 2048
  let fraction := bits % Nat.pow 2 52
  if exponent = 2047 then
    if fraction = 0 then .infinite negative else .undefined true
  else
    let significand := if exponent = 0 then fraction else fraction + Nat.pow 2 52
    let power : Int := (max exponent 1 : Nat) - (1075 : Int)
    if 0 ≤ power then .finite negative (significand * Nat.pow 2 power.toNat) 1
    else .finite negative significand (Nat.pow 2 (-power).toNat)

def ofQuantity (quantity : Quantity) : Float :=
  let signed (negative : Bool) (x : Float) : Float := if negative then -x else x
  match quantity with
  | .infinite negative => signed negative (1.0 / 0.0)
  | .undefined _ => 0.0 / 0.0
  | .finite negative num den =>
      match BinaryFormat.double.nearest? num den with
      | none => signed negative (1.0 / 0.0)
      | some (significand, exponent) =>
          signed negative ((Float.ofNat significand).scaleB exponent)

def ofInt (n : Int) : Float :=
  if n < 0 then -(Float.ofNat n.natAbs) else Float.ofNat n.natAbs

def truncated (x : Float) : Int :=
  match quantityOf x with
  | .finite negative num den => if negative then -(num / den : Nat) else (num / den : Nat)
  | _ => 0

def remainder (x y : Float) : Float :=
  match quantityOf x, quantityOf y with
  | .finite negative num den, .finite _ other scale =>
      if other = 0 then 0.0 / 0.0
      else ofQuantity (.finite negative (num * scale % (other * den)) (den * scale))
  | .finite _ _ _, .infinite _ => x
  | _, _ => 0.0 / 0.0

def safeDigits : Nat := 15

def numberAt? (text : Octets) : Option (Float × Octets) :=
  let start := text.dropWhile Quantity.isSpace
  let (negative, body) : Bool × Octets := match start with
    | '-' :: rest => (true, rest)
    | '+' :: rest => (false, rest)
    | rest => (false, rest)
  let digits := body.takeWhile Char.isDigit
  let rest := body.drop digits.length
  let plain := !digits.isEmpty && digits.length ≤ safeDigits && (match rest with
    | c :: _ => !(c == '.' || c.isAlpha)
    | [] => true)
  if plain then
    let n := digits.foldl (fun value c => 10 * value + (c.toNat - '0'.toNat)) 0
    let x := Float.ofNat n
    some (if negative then -x else x, rest)
  else (Quantity.at? text).map fun (quantity, rest) => (ofQuantity quantity, rest)

def numberOf (text : Octets) : Float :=
  match numberAt? text with
  | some (x, _) => x
  | none => 0.0

def isBlank (c : Char) : Bool :=
  c == ' ' || c == '\t' || c == '\n'

def looksLike? (text : Octets) : Option Float :=
  let body := text.dropWhile isBlank
  let body := (body.reverse.dropWhile isBlank).reverse
  match body.head?, body.getLast? with
  | some first, some last =>
      let starts := first.isDigit || first == '.' || first == '+' || first == '-'
      if starts && (last.isDigit || last == '.') then
        match numberAt? body with
        | some (x, []) => some x
        | _ => none
      else none
  | _, _ => none

def wholeText? (x : Float) : Option Octets :=
  match quantityOf x with
  | .finite negative num den =>
      if num % den != 0 then none
      else
        let n := num / den
        if n = 0 then some ['0']
        else if negative then (if n ≤ Nat.pow 2 63 then some ('-' :: Tools.decimal n) else none)
        else if n ≤ Nat.pow 2 64 then some (Tools.decimal n)
        else none
  | .infinite negative => some (if negative then "-inf".toList else "inf".toList)
  | .undefined _ => some "-nan".toList

def clampWhole (x : Float) : Int :=
  match quantityOf x with
  | .finite _ _ _ =>
      let n := truncated x
      if n < -(Nat.pow 2 63 : Int) then -(Nat.pow 2 63 : Int) + 1
      else if (Nat.pow 2 64 : Int) ≤ n then (Nat.pow 2 64 : Int) - 1
      else n
  | .infinite negative =>
      if negative then -(Nat.pow 2 63 : Int) + 1 else (Nat.pow 2 64 : Int) - 1
  | .undefined _ => -(Nat.pow 2 63 : Int)

def showWith (directive : Directive) (x : Float) : Octets :=
  if "diouxX".toList.contains directive.conversion then directive.showInteger (clampWhole x)
  else directive.showQuantity BinaryFormat.double (quantityOf x)

end ArtifactPipeline.Awk
