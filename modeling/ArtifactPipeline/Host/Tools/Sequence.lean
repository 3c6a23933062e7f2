import ArtifactPipeline.Host.Tools.Format

set_option autoImplicit false

namespace ArtifactPipeline.Tools

open Text (Octets Quantity)

/-- An operand: its value, how many characters it takes to write it, and how many places it has behind
the point; none when it is not written in decimal digits. -/
structure Term where
  value : Quantity
  width : Nat := 0
  places : Option Nat := none

def placeOf (wanted : Octets) (text : Octets) : Option Nat :=
  text.findIdx? wanted.contains

def term? (text : Octets) : Option Term :=
  match Quantity.at? text with
  | some (value, []) =>
      let text := text.dropWhile fun c => Quantity.isSpace c || c == '+'
      let point := placeOf ['.'] text
      let whole := point.isNone && !text.contains 'p'
      let isFinite := match value with
        | .finite _ _ _ => true
        | _ => false
      if (placeOf ['x', 'X'] text).isSome || !isFinite then
        some { value, places := if whole then some 0 else none }
      else
        let mark := placeOf ['e', 'E'] text
        let part := match point with
          | some place => ((text.drop (place + 1)).takeWhile fun c => c != 'e' && c != 'E').length
          | none => 0
        let bare := match point with
          | some place => place = 0 || !((text[place - 1]?).map Char.isDigit).getD false
          | none => false
        let width : Int := text.length
        let width := if point.isNone then width else if part = 0 then width - 1
          else if bare then width + 1 else width
        match mark with
        | none => some { value, width := width.toNat, places := some part }
        | some place =>
            let exponent := (Quantity.exponentAt 'e' (text.drop place)).1
            let places := if exponent < 0 then part + exponent.natAbs
              else part - min part exponent.toNat
            let width := width - (text.length - place : Nat)
            let undone := exponent < 0 && (point.isNone || point.map (· + 1) = some place)
            let width := (if undone then width + 1 else width) + exponent.natAbs
            some { value, width := width.toNat, places := some places }
  | _ => none

structure Progression where
  first : Int
  step : Int
  last : Option Int
  unit : Nat

def Progression.isPast (row : Progression) (value : Int) : Bool :=
  match row.last with
  | some last => if row.step < 0 then value < last else last < value
  | none => false

def Progression.take (row : Progression) : Nat → Int → List Int × Option Int
  | 0, value => ([], some value)
  | count + 1, value =>
      if row.isPast value then ([], none)
      else
        let (values, next) := row.take count (value + row.step)
        (value :: values, next)

def inUnits (unit : Nat) : Quantity → Option Int
  | .finite negative num den =>
      let value : Int := num * (unit / den)
      some (if negative then -value else value)
  | _ => none

def denominator : Quantity → Nat
  | .finite _ _ den => den
  | _ => 1

def commonUnit (terms : List Term) : Nat :=
  terms.foldl (fun unit term => Nat.lcm unit (denominator term.value)) 1

structure NumberFormat where
  lead : Octets := []
  directive : Directive := {}
  tail : Octets := []

def NumberFormat.show (format : NumberFormat) (value : Int) (unit : Nat) : Octets :=
  format.lead ++ format.directive.showQuantity .extended
    (.finite (value < 0) value.natAbs unit) ++ format.tail

def plainPart : Octets → Octets × Option Octets
  | [] => ([], none)
  | '%' :: '%' :: rest =>
      let (text, more) := plainPart rest
      ('%' :: text, more)
  | '%' :: rest => ([], some rest)
  | c :: rest =>
      let (text, more) := plainPart rest
      (c :: text, more)

def numberFormat (text : Octets) : Except String NumberFormat :=
  let shown := "format " ++ inQuotes text
  match plainPart text with
  | (_, none) => .error (shown ++ " has no % directive")
  | (lead, some rest) =>
      let (directive, rest) := readFlags {} rest
      let digits := rest.takeWhile Char.isDigit
      let rest := rest.drop digits.length
      let directive := { directive with width := (number? digits).getD 0 }
      let (directive, rest) := match rest with
        | '.' :: after =>
            let digits := after.takeWhile Char.isDigit
            ({ directive with precision := some ((number? digits).getD 0) },
              after.drop digits.length)
        | rest => (directive, rest)
      let rest := if rest.head? = some 'L' then rest.drop 1 else rest
      match rest with
      | [] => .error (shown ++ " ends in %")
      | c :: rest =>
          if !"efgaEFGA".toList.contains c then
            .error (shown ++ " has unknown %" ++ c.toString ++ " directive")
          else
            match plainPart rest with
            | (tail, none) => .ok ⟨lead, { directive with conversion := c }, tail⟩
            | (_, some _) => .error (shown ++ " has too many % directives")

def usualFormat (first step last : Term) (equalWidth : Bool) : NumberFormat :=
  match first.places, step.places, last.places with
  | some a, some b, some c =>
      let places := max a b
      let firstWidth := first.width + (places - a) + (if a = 0 && places != 0 then 1 else 0)
      let lastWidth := last.width + places - c
      let lastWidth := if c != 0 && places = 0 then lastWidth - 1
        else if c = 0 && places != 0 then lastWidth + 1 else lastWidth
      { directive := {
          conversion := 'f'
          precision := some places
          zero := equalWidth
          width := if equalWidth then max firstWidth lastWidth else 0 } }
  | _, _, _ => { directive := { conversion := 'g' } }

def printRow (call : Call) (row : Progression) (format : NumberFormat) (separator : Octets) :
    Nat → Bool → Int → Chore Nat
  | 0, _, _ => pure 0
  | rounds + 1, started, value => do
      let (values, next) := row.take 1000 value
      let texts := values.map fun value => format.show value row.unit
      let block := Text.joinWith separator texts
      let block := if started && !values.isEmpty then separator ++ block else block
      let started := started || !values.isEmpty
      let block := if next.isNone && started then block ++ ['\n'] else block
      match ← (if block.isEmpty then pure (.ok ()) else Chore.write 1 block), next with
      | .error fault, _ => refuse call.name ("write error: " ++ fault.message)
      | .ok (), none => return 0
      | .ok (), some value => printRow call row format separator rounds started value

def seq : Tool := fun call =>
  let options : OptionSet := {
    flags := "w"
    valued := "sf"
    long := [("equal-width", 'w'), ("separator", 's'), ("format", 'f')]
    strictOrder := true }
  -- A negative number is no option.
  let isNumber (arg : Octets) : Bool :=
    arg.head? = some '-' && ((arg.drop 1).head?.map fun c => c.isDigit || c == '.').getD false
  let leading := call.args.takeWhile fun arg => !isNumber arg
  let numbers := call.args.drop leading.length
  match options.read (leading ++ (if numbers.isEmpty then [] else ['-', '-'] :: numbers)) with
  | .error message => misuse call.name message 1
  | .ok given =>
      let operands := given.operands.filter fun operand => operand != ['-', '-']
      let format? := (given.value? 'f').map numberFormat
      match operands, format? with
      | [], _ => misuse call.name "missing operand" 1
      | _ :: _ :: _ :: extra :: _, _ => misuse call.name ("extra operand " ++ inQuotes extra) 1
      | _, some (.error message) => refuse call.name message
      | operands, _ =>
          if format?.isSome && given.has 'w' then
            misuse call.name
              "format string may not be specified when printing equal width strings" 1
          else
            match operands.find? fun operand => !isTerm operand with
            | some operand =>
                misuse call.name (match term? operand with
                  | some _ => "invalid 'not-a-number' argument: " ++ inQuotes operand
                  | none => "invalid floating point argument: " ++ inQuotes operand) 1
            | none =>
                let one : Term := { value := .finite false 1 1, width := 1, places := some 0 }
                let terms := operands.filterMap term?
                let (first, step, last) : Term × Term × Term :=
                  match terms with
                  | [last] => (one, one, last)
                  | [first, last] => (first, one, last)
                  | [first, step, last] => (first, step, last)
                  | _ => (one, one, one)
                let unit := commonUnit [first, step, last]
                let row : Progression := {
                  first := (inUnits unit first.value).getD 0
                  step := (inUnits unit step.value).getD 0
                  last := inUnits unit last.value
                  unit }
                let beyond (value : Quantity) : Bool := value.isNegative != decide (row.step < 0)
                let backwards := (row.last.isNone && beyond last.value) ||
                  ((inUnits unit first.value).isNone && !beyond first.value)
                let format := match format? with
                  | some (.ok format) => format
                  | _ => usualFormat first step last (given.has 'w')
                if row.step = 0 then
                  misuse call.name
                    ("invalid Zero increment value: " ++ inQuotes (operands[1]?.getD [])) 1
                else if backwards then pure 0
                else
                  printRow call row format ((given.value? 's').getD ['\n']) Chore.readLimit false
                    row.first
where
  isTerm (operand : Octets) : Bool :=
    match term? operand with
    | some { value := .undefined _, .. } | none => false
    | some _ => true

end ArtifactPipeline.Tools
