import ArtifactPipeline.Text.Basic

set_option autoImplicit false

namespace ArtifactPipeline.Text

structure Binary64 where
  significand : Nat
  exponent : Int
  deriving DecidableEq, Repr

def fraction (digits : Nat) (exponent : Int) : Nat × Nat :=
  if 0 ≤ exponent then (digits * Nat.pow 10 exponent.toNat, 1)
  else (digits, Nat.pow 10 (-exponent).toNat)

def roundQuotient (num den : Nat) : Nat :=
  let low := num / den
  let twice := 2 * (num % den)
  if twice < den then low
  else if den < twice then low + 1
  else if low % 2 = 0 then low
  else low + 1

def scaleDown (num den : Nat) (exponent : Int) : Nat × Nat :=
  if 0 ≤ exponent then (num, den * Nat.pow 2 exponent.toNat)
  else (num * Nat.pow 2 (-exponent).toNat, den)

namespace Binary64

def hidden : Nat := 4503599627370496

def ofFraction? (num den : Nat) : Option Binary64 :=
  let guess : Int := (Nat.log2 num : Int) - (Nat.log2 den : Int) - 52
  let (n, d) := scaleDown num den guess
  let exponent := if n < d * hidden then guess - 1 else guess
  let exponent := if exponent < -1074 then -1074 else exponent
  let (n, d) := scaleDown num den exponent
  let significand := roundQuotient n d
  let value : Binary64 :=
    if significand = 2 * hidden then ⟨hidden, exponent + 1⟩ else ⟨significand, exponent⟩
  if 971 < value.exponent then none else some value

def scaled (significand : Nat) (exponent : Int) : Nat × Nat :=
  if 0 ≤ exponent then (significand * Nat.pow 2 exponent.toNat, 1)
  else (significand, Nat.pow 2 (-exponent).toNat)

def rounds (value : Binary64) (digits : Nat) (exponent : Int) : Bool :=
  let m := value.significand
  let below :=
    if m = hidden ∧ -1074 < value.exponent then scaled (4 * m - 1) (value.exponent - 2)
    else scaled (2 * m - 1) (value.exponent - 1)
  let above := scaled (2 * m + 1) (value.exponent - 1)
  let (n, d) := fraction digits exponent
  let low := below.1 * d
  let mid := n * below.2
  let high := above.1 * d
  let midHigh := n * above.2
  if m % 2 = 0 then low ≤ mid && midHigh ≤ high else low < mid && midHigh < high

def neighbours (value : Binary64) (exponent : Int) : List Nat :=
  let (n, d) := scaled value.significand value.exponent
  let (num, den) :=
    if 0 ≤ exponent then (n, d * Nat.pow 10 exponent.toNat)
    else (n * Nat.pow 10 (-exponent).toNat, d)
  let low := num / den
  if 2 * (num % den) ≤ den then [low, low + 1] else [low + 1, low]

def shortestFrom (value : Binary64) : Nat → Int → Nat × Int
  | 0, exponent => ((neighbours value exponent).headD 0, exponent)
  | fuel + 1, exponent =>
      match (neighbours value exponent).find? fun digits => rounds value digits exponent with
      | some digits => (digits, exponent)
      | none => shortestFrom value fuel (exponent - 1)

def shortest (value : Binary64) : Nat × Int :=
  let (n, d) := scaled value.significand value.exponent
  let magnitude : Int :=
    if d ≤ n then ((Nat.repr (n / d)).length : Int) else -((Nat.repr (d / n)).length : Int) + 1
  shortestFrom value 340 magnitude

end Binary64

def positional (digits : Nat) (exponent : Int) : String :=
  let text := (Nat.repr digits).toList
  if 0 ≤ exponent then
    String.ofList (text ++ List.replicate exponent.toNat '0') ++ ".0"
  else
    let places := (-exponent).toNat
    let padded := List.replicate (places + 1 - text.length) '0' ++ text
    let whole := padded.length - places
    String.ofList (padded.take whole ++ '.' :: padded.drop whole)

def trimZeros (digits : Nat) (exponent : Int) : Nat → Nat × Int
  | 0 => (digits, exponent)
  | fuel + 1 =>
      if digits % 10 = 0 ∧ digits ≠ 0 then trimZeros (digits / 10) (exponent + 1) fuel
      else (digits, exponent)

/-- The shortest positional text of the binary64 value nearest to a decimal number. Numbers of more
than 310 digits are too large, and those below the 330th decimal place vanish. -/
def floatText? (negative : Bool) (digits : Nat) (exponent : Int) : Option String :=
  let sign := if negative then "-" else ""
  let magnitude := exponent + ((Nat.repr digits).length : Int)
  if digits = 0 ∨ magnitude < -330 then some (sign ++ "0.0")
  else if 310 < magnitude then none
  else
    let (num, den) := fraction digits exponent
    match Binary64.ofFraction? num den with
    | none => none
    | some value =>
        if value.significand = 0 then some (sign ++ "0.0")
        else
          let (digits, exponent) := value.shortest
          let (digits, exponent) := trimZeros digits exponent 400
          some (sign ++ positional digits exponent)

end ArtifactPipeline.Text
