import ArtifactPipeline.Text.Binary64
import ArtifactPipeline.Text.Utf8

set_option autoImplicit false

namespace ArtifactPipeline.Text

inductive Quantity where
  | finite (negative : Bool) (num den : Nat)
  | infinite (negative : Bool)
  | undefined (negative : Bool)
  deriving DecidableEq, Repr

structure BinaryFormat where
  bits : Nat
  least : Int
  most : Int

namespace BinaryFormat

def double : BinaryFormat := ⟨53, -1074, 971⟩

def extended : BinaryFormat := ⟨64, -16445, 16320⟩

def nearest? (format : BinaryFormat) (num den : Nat) : Option (Nat × Int) :=
  if num = 0 then some (0, 0)
  else
    let hidden := Nat.pow 2 (format.bits - 1)
    let guess : Int := (Nat.log2 num : Int) - (Nat.log2 den : Int) - (format.bits - 1 : Nat)
    let (n, d) := scaleDown num den guess
    let exponent := if n < d * hidden then guess - 1 else guess
    let exponent := max exponent format.least
    let (n, d) := scaleDown num den exponent
    let significand := roundQuotient n d
    let (significand, exponent) :=
      if significand = 2 * hidden then (hidden, exponent + 1) else (significand, exponent)
    if format.most < exponent then none else some (significand, exponent)

end BinaryFormat

namespace Quantity

def isNegative : Quantity → Bool
  | .finite negative _ _ | .infinite negative | .undefined negative => negative

def zero : Quantity := .finite false 0 1

def rounded (format : BinaryFormat) : Quantity → Quantity
  | .finite negative num den =>
      match format.nearest? num den with
      | some (significand, exponent) =>
          let (num, den) := Binary64.scaled significand exponent
          .finite negative num den
      | none => .infinite negative
  | quantity => quantity

def farthest : Int := 20000

def scaledBy (negative : Bool) (digits base : Nat) (exponent : Int) : Quantity :=
  let size : Int := (Nat.log2 digits : Int) + exponent
  if digits = 0 then .finite negative 0 1
  else if farthest < size then .infinite negative
  else if size < -(4 * farthest) then .finite negative 0 1
  else if 0 ≤ exponent then .finite negative (digits * Nat.pow base exponent.toNat) 1
  else .finite negative digits (Nat.pow base (-exponent).toNat)

def exponentAt (mark : Char) (text : Octets) : Int × Octets :=
  match text with
  | c :: rest =>
      if c.toLower == mark then
        let sign := if rest.head? = some '-' || rest.head? = some '+' then rest.take 1 else []
        let digits := (rest.drop sign.length).takeWhile Char.isDigit
        if digits.isEmpty then (0, text)
        else
          let value : Int := (digitsValue digits : Nat)
          (if sign = ['-'] then -value else value, rest.drop (sign.length + digits.length))
      else (0, text)
  | [] => (0, [])

def pointed (isDigit : Char → Bool) (text : Octets) : Octets × Octets × Octets :=
  let whole := text.takeWhile isDigit
  match text.drop whole.length with
  | '.' :: rest =>
      let part := rest.takeWhile isDigit
      if whole.isEmpty && part.isEmpty then ([], [], text) else (whole, part, rest.drop part.length)
  | rest => (whole, [], rest)

def lowerPrefix (word : String) (text : Octets) : Bool :=
  word.toList.isPrefixOf (text.map Char.toLower)

def isHexDigit (c : Char) : Bool :=
  (hexValue? c).isSome

def unsignedAt? (negative : Bool) (text : Octets) : Option (Quantity × Octets) :=
  if lowerPrefix "infinity" text then some (.infinite negative, text.drop 8)
  else if lowerPrefix "inf" text then some (.infinite negative, text.drop 3)
  else if lowerPrefix "nan" text then
    let rest := text.drop 3
    let inner := (rest.drop 1).takeWhile fun c => c.isAlphanum || c == '_'
    if rest.head? = some '(' && (rest.drop (1 + inner.length)).head? = some ')' then
      some (.undefined negative, rest.drop (2 + inner.length))
    else some (.undefined negative, rest)
  else
    let hex := if lowerPrefix "0x" text then pointed isHexDigit (text.drop 2) else ([], [], [])
    match hex with
    | ([], [], _) =>
        match pointed Char.isDigit text with
        | ([], [], _) => none
        | (whole, part, rest) =>
            let (exponent, rest) := exponentAt 'e' rest
            some (scaledBy negative (digitsValue (whole ++ part)) 10 (exponent - part.length), rest)
    | (whole, part, rest) =>
        let digits := (whole ++ part).foldl (fun value c => 16 * value + (hexValue? c).getD 0) 0
        let (exponent, rest) := exponentAt 'p' rest
        some (scaledBy negative digits 2 (exponent - 4 * part.length), rest)

def isSpace (c : Char) : Bool :=
  c == ' ' || (9 ≤ c.toNat && c.toNat ≤ 13)

def at? (text : Octets) : Option (Quantity × Octets) :=
  match text.dropWhile isSpace with
  | '-' :: rest => unsignedAt? true rest
  | '+' :: rest => unsignedAt? false rest
  | rest => unsignedAt? false rest

end Quantity

end ArtifactPipeline.Text
