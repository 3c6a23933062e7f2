import ArtifactPipeline.Text.Binary64
import ArtifactPipeline.Toml.Value

set_option autoImplicit false

namespace ArtifactPipeline.Toml

-- `needDigit` holds at the start and after an underscore.
def ungroupFrom (isDigit : Char → Bool) (needDigit : Bool) : List Char → Option (List Char)
  | [] => if needDigit then none else some []
  | c :: rest =>
      if c = '_' then
        if needDigit then none else ungroupFrom isDigit true rest
      else if isDigit c then (ungroupFrom isDigit false rest).map (c :: ·)
      else none

def ungroup? (isDigit : Char → Bool) (text : List Char) : Option (List Char) :=
  ungroupFrom isDigit true text

def radixValue (radix : Nat) (digits : List Char) : Nat :=
  digits.foldl (fun value c => radix * value + (Text.hexValue? c).getD 0) 0

def isOctal (c : Char) : Bool :=
  '0' ≤ c && c ≤ '7'

def isBinary (c : Char) : Bool :=
  c == '0' || c == '1'

def isHex (c : Char) : Bool :=
  (Text.hexValue? c).isSome

def wholeDigits? (text : List Char) : Option (List Char) :=
  match ungroup? Char.isDigit text with
  | some ('0' :: _ :: _) => none
  | digits => digits

def splitSign : List Char → Bool × List Char
  | '-' :: rest => (true, rest)
  | '+' :: rest => (false, rest)
  | text => (false, text)

def integer? (text : List Char) : Option Int :=
  match text with
  | '0' :: 'x' :: rest => (ungroup? isHex rest).map fun ds => (radixValue 16 ds : Int)
  | '0' :: 'o' :: rest => (ungroup? isOctal rest).map fun ds => (radixValue 8 ds : Int)
  | '0' :: 'b' :: rest => (ungroup? isBinary rest).map fun ds => (radixValue 2 ds : Int)
  | text =>
      let (negative, rest) := splitSign text
      (wholeDigits? rest).map fun ds =>
        let value : Int := Text.digitsValue ds
        if negative then -value else value

def isExponentMark (c : Char) : Bool :=
  c == 'e' || c == 'E'

def float? (text : List Char) : Option Value :=
  let (negative, rest) := splitSign text
  if rest = ['i', 'n', 'f'] then some (.float (if negative then "-inf" else "inf"))
  else if rest = ['n', 'a', 'n'] then some (.float "NaN")
  else
    let mantissa := rest.takeWhile fun c => !isExponentMark c
    let exponentPart := rest.dropWhile fun c => !isExponentMark c
    let whole := mantissa.takeWhile fun c => c != '.'
    let fractionPart := mantissa.dropWhile fun c => c != '.'
    if fractionPart.isEmpty && exponentPart.isEmpty then none
    else
      let fraction? :=
        match fractionPart with
        | [] => some []
        | _ :: digits => ungroup? Char.isDigit digits
      let exponent? : Option Int :=
        match exponentPart with
        | [] => some 0
        | _ :: digits =>
            let (down, digits) := splitSign digits
            (ungroup? Char.isDigit digits).map fun ds =>
              let value : Int := Text.digitsValue ds
              if down then -value else value
      match wholeDigits? whole, fraction?, exponent? with
      | some whole, some fraction, some exponent =>
          match Text.floatText? negative (Text.digitsValue (whole ++ fraction))
              (exponent - fraction.length) with
          | some text => some (.float text)
          | none => some .excess
      | _, _, _ => none

def twoDigits? (text : List Char) : Option (Nat × List Char) :=
  match text with
  | a :: b :: rest =>
      if a.isDigit && b.isDigit then some (Text.digitsValue [a, b], rest) else none
  | _ => none

def isLeap (year : Nat) : Bool :=
  year % 4 == 0 && (year % 100 != 0 || year % 400 == 0)

def daysIn (year month : Nat) : Nat :=
  if month = 2 then (if isLeap year then 29 else 28)
  else if month = 4 ∨ month = 6 ∨ month = 9 ∨ month = 11 then 30
  else 31

def date? (text : List Char) : Option (String × List Char) :=
  match text with
  | a :: b :: c :: d :: '-' :: rest =>
      if !([a, b, c, d].all Char.isDigit) then none
      else
        let year := Text.digitsValue [a, b, c, d]
        match twoDigits? rest with
        | some (month, '-' :: rest) =>
            match twoDigits? rest with
            | some (day, rest) =>
                if 1 ≤ month ∧ month ≤ 12 ∧ 1 ≤ day ∧ day ≤ daysIn year month then
                  some (Text.padZeros 4 year ++ "-" ++ Text.padZeros 2 month ++ "-" ++
                    Text.padZeros 2 day, rest)
                else none
            | none => none
        | _ => none
  | _ => none

def fractionText (digits : List Char) : String :=
  match ((digits.take 9).reverse.dropWhile (· == '0')).reverse with
  | [] => ""
  | digits => String.ofList ('.' :: digits)

def secondsFraction? (text : List Char) : Option (String × List Char) :=
  match text with
  | '.' :: rest =>
      let digits := rest.takeWhile Char.isDigit
      if digits.isEmpty then none
      else some (fractionText digits, rest.dropWhile Char.isDigit)
  | text => some ("", text)

def time? (text : List Char) : Option (String × List Char) :=
  match twoDigits? text with
  | some (hour, ':' :: rest) =>
      match twoDigits? rest with
      | some (minute, rest) =>
          if 23 < hour ∨ 59 < minute then none
          else
            let short := Text.padZeros 2 hour ++ ":" ++ Text.padZeros 2 minute
            match rest with
            | ':' :: rest =>
                match twoDigits? rest with
                | some (second, rest) =>
                    if 60 < second then none
                    else
                      match secondsFraction? rest with
                      | some (fraction, rest) =>
                          some (short ++ ":" ++ Text.padZeros 2 second ++ fraction, rest)
                      | none => none
                | none => none
            | rest => some (short ++ ":00", rest)
      | none => none
  | _ => none

def offset? (text : List Char) : Option String :=
  match text with
  | [] => some ""
  | ['Z'] | ['z'] => some "Z"
  | sign :: rest =>
      if sign != '+' && sign != '-' then none
      else
        match twoDigits? rest with
        | some (hour, ':' :: rest) =>
            match twoDigits? rest with
            | some (minute, []) =>
                if 23 < hour ∨ 59 < minute then none
                else
                  let sign := if hour = 0 ∧ minute = 0 then '+' else sign
                  some (sign.toString ++ Text.padZeros 2 hour ++ ":" ++ Text.padZeros 2 minute)
            | _ => none
        | _ => none

def isDateTimeMark (c : Char) : Bool :=
  c == 'T' || c == 't' || c == ' '

def datetime? (text : List Char) : Option String :=
  match date? text with
  | some (date, []) => some date
  | some (date, mark :: rest) =>
      if !isDateTimeMark mark then none
      else
        match time? rest with
        | some (time, rest) => (offset? rest).map fun offset => date ++ "T" ++ time ++ offset
        | none => none
  | none =>
      match time? text with
      | some (time, []) => some time
      | _ => none

def scalar? (text : List Char) : Option Value :=
  if text = ['t', 'r', 'u', 'e'] then some (.boolean true)
  else if text = ['f', 'a', 'l', 's', 'e'] then some (.boolean false)
  else
    match integer? text with
    | some value => some (.integer value)
    | none =>
        match float? text with
        | some float => some float
        | none => (datetime? text).map Value.datetime

def isScalarChar (c : Char) : Bool :=
  c.isAlphanum || c == '+' || c == '-' || c == '_' || c == '.' || c == ':'

def scalarText (text : List Char) : List Char × List Char :=
  let first := text.takeWhile isScalarChar
  let rest := text.dropWhile isScalarChar
  match date? first, rest with
  | some (_, []), ' ' :: c :: more =>
      if c.isDigit then
        (first ++ ' ' :: (c :: more).takeWhile isScalarChar, (c :: more).dropWhile isScalarChar)
      else (first, rest)
  | _, _ => (first, rest)

end ArtifactPipeline.Toml
