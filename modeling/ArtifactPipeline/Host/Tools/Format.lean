import ArtifactPipeline.Host.Tools.Printing
import ArtifactPipeline.Text.Quantity

set_option autoImplicit false

namespace ArtifactPipeline.Tools

open Text (Octets Quantity BinaryFormat)

structure Directive where
  leftAlign : Bool := false
  zero : Bool := false
  plus : Bool := false
  blank : Bool := false
  alternate : Bool := false
  width : Nat := 0
  precision : Option Nat := none
  conversion : Char := 's'

def Directive.fill (directive : Directive) (text : Octets) : Octets :=
  if directive.leftAlign then padRight directive.width text else padLeft ' ' directive.width text

def Directive.fillBehind (directive : Directive) (zeros : Bool) (sign digits : Octets) : Octets :=
  if directive.zero && zeros && !directive.leftAlign then
    sign ++ padLeft '0' (directive.width - sign.length) digits
  else directive.fill (sign ++ digits)

def Directive.fillNumber (directive : Directive) (sign digits : Octets) : Octets :=
  match directive.precision with
  | some precision =>
      let digits := if precision = 0 && digits = ['0'] then [] else padLeft '0' precision digits
      directive.fillBehind false sign digits
  | none => directive.fillBehind true sign digits

def Directive.signOf (directive : Directive) (negative : Bool) : Octets :=
  if negative then ['-'] else if directive.plus then ['+'] else if directive.blank then [' '] else []

def upperCase (text : Octets) : Octets :=
  text.map Char.toUpper

def Directive.showInteger (directive : Directive) (value : Int) : Octets :=
  let word := (value % 18446744073709551616).toNat
  match directive.conversion with
  | 'o' =>
      let digits := Nat.toDigits 8 word
      directive.fillNumber [] (if directive.alternate && word != 0 then '0' :: digits else digits)
  | 'x' =>
      directive.fillNumber (if directive.alternate && word != 0 then ['0', 'x'] else [])
        (Nat.toDigits 16 word)
  | 'X' =>
      directive.fillNumber (if directive.alternate && word != 0 then ['0', 'X'] else [])
        (upperCase (Nat.toDigits 16 word))
  | 'u' => directive.fillNumber [] (Nat.toDigits 10 word)
  | _ => directive.fillNumber (directive.signOf (value < 0)) (Nat.toDigits 10 value.natAbs)

def fixedText (num den places : Nat) (alternate : Bool) : Octets :=
  let scaled := Text.roundQuotient (num * Nat.pow 10 places) den
  let digits := padLeft '0' (places + 1) (Nat.toDigits 10 scaled)
  let whole := digits.take (digits.length - places)
  if places = 0 then (if alternate then whole ++ ['.'] else whole)
  else whole ++ '.' :: digits.drop (digits.length - places)

def exponentOf (num den : Nat) : Int :=
  let guess : Int := (Nat.repr num).length - (Nat.repr den).length
  let (n, d) := if 0 ≤ guess then (num, den * Nat.pow 10 guess.toNat)
    else (num * Nat.pow 10 (-guess).toNat, den)
  if n < d then guess - 1 else guess

def scientific (num den places : Nat) : Nat × Int :=
  if num = 0 then (0, 0)
  else
    let exponent := exponentOf num den
    let shift : Int := places - exponent
    let (n, d) := if 0 ≤ shift then (num * Nat.pow 10 shift.toNat, den)
      else (num, den * Nat.pow 10 (-shift).toNat)
    let digits := Text.roundQuotient n d
    if Nat.pow 10 (places + 1) ≤ digits then (digits / 10, exponent + 1) else (digits, exponent)

def exponentText (exponent : Int) : Octets :=
  'e' :: (if exponent < 0 then '-' else '+') :: padLeft '0' 2 (Nat.toDigits 10 exponent.natAbs)

def dropTrailingZeros (text : Octets) : Octets :=
  if text.contains '.' then
    let short := (text.reverse.dropWhile (· == '0')).reverse
    if short.getLast? = some '.' then short.dropLast else short
  else text

def scientificText (num den places : Nat) (alternate : Bool) : Octets :=
  let (digits, exponent) := scientific num den places
  let text := padLeft '0' (places + 1) (Nat.toDigits 10 digits)
  let point : Octets := if places = 0 && !alternate then [] else ['.']
  text.take 1 ++ point ++ text.drop 1 ++ exponentText exponent

def generalText (num den precision : Nat) (alternate : Bool) : Octets :=
  let precision := max precision 1
  let (_, exponent) := scientific num den (precision - 1)
  if exponent < -4 || (precision : Int) ≤ exponent then
    let text := scientificText num den (precision - 1) alternate
    let mantissa := text.takeWhile fun c => c != 'e'
    (if alternate then mantissa else dropTrailingZeros mantissa) ++ text.drop mantissa.length
  else
    let text := fixedText num den ((precision : Int) - 1 - exponent).toNat alternate
    if alternate then text else dropTrailingZeros text

/-- Hexadecimal digits of a fraction that is exact in a format, with one digit before the point. In
the wide format this digit has four bits, in the narrow one a single bit. -/
def hexFractionText (format : BinaryFormat) (num den : Nat) (precision : Option Nat)
    (alternate : Bool) : Octets :=
  let shown (digits : Octets) (exponent : Int) : Octets :=
    let rest := digits.drop 1
    let point : Octets := if rest.isEmpty && !alternate then [] else ['.']
    digits.take 1 ++ point ++ rest ++ 'p' :: (if exponent < 0 then '-' else '+') ::
      Nat.toDigits 10 exponent.natAbs
  match format.nearest? num den with
  | some (0, _) | none => shown (List.replicate (precision.getD 0 + 1) '0') 0
  | some (significand, exponent) =>
      -- Digits behind the first one.
      let places := if format.bits = 64 then 15 else 13
      let lacking := format.bits - 1 - Nat.log2 significand
      let significand := significand * Nat.pow 2 lacking
      let exponent := exponent - lacking + (4 * places : Nat)
      match precision with
      | some precision =>
          if precision < places then
            let unit := Nat.pow 16 (places - precision)
            let rounded := Text.roundQuotient significand unit
            let whole := Nat.pow 16 precision
            if format.bits = 64 && 16 * whole ≤ rounded then
              shown (padLeft '0' (precision + 1) (Nat.toDigits 16 (rounded / 16))) (exponent + 4)
            else shown (padLeft '0' (precision + 1) (Nat.toDigits 16 rounded)) exponent
          else
            shown (Nat.toDigits 16 significand ++ List.replicate (precision - places) '0') exponent
      | none =>
          let digits := Nat.toDigits 16 significand
          let short := (digits.reverse.dropWhile (· == '0')).reverse
          shown (if short.isEmpty then ['0'] else short) exponent

def Directive.showQuantity (directive : Directive) (format : BinaryFormat) (quantity : Quantity) :
    Octets :=
  let upper := directive.conversion.isUpper
  let cased (text : Octets) : Octets := if upper then upperCase text else text
  let sign := directive.signOf quantity.isNegative
  match quantity with
  | .infinite _ => directive.fillBehind false sign (cased "inf".toList)
  | .undefined _ => directive.fillBehind false sign (cased "nan".toList)
  | .finite _ num den =>
      let precision := directive.precision.getD 6
      match directive.conversion.toLower with
      | 'e' =>
          directive.fillBehind true sign (cased (scientificText num den precision directive.alternate))
      | 'g' =>
          directive.fillBehind true sign (cased (generalText num den precision directive.alternate))
      | 'a' =>
          directive.fillBehind true (sign ++ cased "0x".toList)
            (cased (hexFractionText format num den directive.precision directive.alternate))
      | _ => directive.fillBehind true sign (fixedText num den precision directive.alternate)

inductive Extent where
  | whole
  | start
  | nothing
  | tooLarge
  deriving DecidableEq, Repr

def clamp (signed negative : Bool) (value : Nat) : Int × Bool :=
  let half : Nat := 9223372036854775808
  if signed then
    if negative then (if half < value then (-(half : Int), true) else (-(value : Int), false))
    else if half ≤ value then ((half : Int) - 1, true) else ((value : Int), false)
  else if 2 * half ≤ value then (2 * (half : Int) - 1, true)
  else ((if negative then -(value : Int) else value), false)

def numberOf (signed : Bool) (text : Octets) : Int × Extent :=
  match text with
  | '\'' :: c :: _ | '"' :: c :: _ => ((c.toNat : Int), .whole)
  | text =>
      let trimmed := text.dropWhile fun c => c == ' ' || (9 ≤ c.toNat && c.toNat ≤ 13)
      let (negative, body) :=
        match trimmed with
        | '-' :: rest => (true, rest)
        | '+' :: rest => (false, rest)
        | rest => (false, rest)
      let isHex (c : Char) : Bool := (Text.hexValue? c).isSome
      let (value, rest) : Nat × Octets :=
        match body with
        | '0' :: x :: rest =>
            let digits := rest.takeWhile isHex
            if (x == 'x' || x == 'X') && !digits.isEmpty then
              (digits.foldl (fun v c => 16 * v + (Text.hexValue? c).getD 0) 0,
                rest.drop digits.length)
            else
              let digits := (x :: rest).takeWhile isOctal
              (octalValue digits, (x :: rest).drop digits.length)
        | body =>
            let digits := body.takeWhile Char.isDigit
            ((number? digits).getD 0, body.drop digits.length)
      let (value, large) := clamp signed negative value
      if rest.length = body.length then (0, if text.isEmpty then .whole else .nothing)
      else if large then (value, .tooLarge)
      else (value, if rest.isEmpty then .whole else .start)

def quantityOf (format : BinaryFormat) (text : Octets) : Quantity × Extent :=
  match text with
  | '\'' :: c :: _ | '"' :: c :: _ => (.finite false c.toNat 1, .whole)
  | [] => (.zero, .whole)
  | text =>
      match Quantity.at? text with
      | none => (.zero, .nothing)
      | some (exact, rest) =>
          let value := exact.rounded format
          let lost :=
            match exact, value with
            | .finite _ num _, .finite _ 0 _ => num != 0
            | .finite _ _ _, .infinite _ => true
            | _, _ => false
          let huge :=
            match exact with
            | .infinite _ => text.any Char.isDigit
            | _ => false
          (value, if lost || huge then .tooLarge else if rest.isEmpty then .whole else .start)

inductive Printer where
  | shell
  | richShell
  | program
  deriving DecidableEq, Repr

namespace Printer

def escapes : Printer → EscapeRules
  | .shell => {}
  | .richShell => { hex := true, unicode := true, quotes := true, capital := true }
  | .program => { hex := true, unicode := true, stop := true, quotes := true }

def argumentEscapes : Printer → EscapeRules
  | .shell => { zeroFirst := true, stop := true }
  | .richShell => { zeroFirst := true, stop := true, hex := true, unicode := true, capital := true }
  | .program => { zeroFirst := true, stop := true, hex := true, unicode := true, quotes := true }

def format : Printer → BinaryFormat
  | .shell => .double
  | _ => .extended

def complaint? (printer : Printer) (arg : Octets) (extent : Extent) : Option (String × Bool) :=
  let plain := Text.ofOctets arg
  let range := ": Numerical result out of range"
  match printer, extent with
  | _, .whole => none
  | .shell, .start => some (plain ++ ": not completely converted", false)
  | .shell, .nothing => some (plain ++ ": expected numeric value", false)
  | .shell, .tooLarge => some (plain ++ range, false)
  | .richShell, .tooLarge => some ("warning: " ++ plain ++ range, true)
  | .richShell, _ =>
      let kind := match arg with
        | '0' :: c :: _ => if c == 'x' || c == 'X' then "hex " else if c.isDigit then "octal " else ""
        | _ => ""
      some (plain ++ ": invalid " ++ kind ++ "number", false)
  | .program, .start => some (inQuotes arg ++ ": value not completely converted", false)
  | .program, .nothing => some (inQuotes arg ++ ": expected a numeric value", false)
  | .program, .tooLarge => some (inQuotes arg ++ range, false)

end Printer

inductive Printed where
  | text (text : Octets)
  | complaint (message : String)

structure Formatting where
  events : List Printed := []
  args : List Octets
  moment : Octets → Option Int → Octets := fun _ _ => []
  used : Bool := false
  status : Nat := 0
  stopped : Bool := false

namespace Formatting

def put (formatting : Formatting) (text : Octets) : Formatting :=
  { formatting with events := .text text :: formatting.events }

def take (formatting : Formatting) : Octets × Formatting :=
  match formatting.args with
  | [] => ([], { formatting with used := true })
  | arg :: args => (arg, { formatting with args, used := true })

def complain (formatting : Formatting) (message : String) : Formatting :=
  { formatting with events := .complaint message :: formatting.events }

def remark (formatting : Formatting) (printer : Printer) (arg : Octets) (extent : Extent) :
    Formatting :=
  match printer.complaint? arg extent with
  | some (text, true) => formatting.complain text
  | some (text, false) => { formatting.complain text with status := 1 }
  | none => formatting

def refuse (formatting : Formatting) (printer : Printer) (directive : Octets) : Formatting :=
  let text := Text.ofOctets ('%' :: directive)
  let complaint :=
    match printer with
    | .shell => text ++ ": invalid directive"
    | .richShell => "\x60" ++ (directive.getLastD '%').toString ++ "': invalid format character"
    | .program => text ++ ": invalid conversion specification"
  { formatting.complain complaint with
    status := if printer == .shell then 2 else 1
    stopped := true }

def takeNumber (formatting : Formatting) (printer : Printer) (signed : Bool) : Int × Formatting :=
  let (arg, formatting) := formatting.take
  let (value, extent) := numberOf signed arg
  (value, formatting.remark printer arg extent)

def output (formatting : Formatting) : Octets :=
  formatting.events.reverse.flatMap fun event =>
    match event with
    | .text text => text
    | .complaint _ => []

end Formatting

def readFlags : Directive → Octets → Directive × Octets
  | directive, '-' :: rest => readFlags { directive with leftAlign := true } rest
  | directive, '0' :: rest => readFlags { directive with zero := true } rest
  | directive, '+' :: rest => readFlags { directive with plus := true } rest
  | directive, ' ' :: rest => readFlags { directive with blank := true } rest
  | directive, '#' :: rest => readFlags { directive with alternate := true } rest
  | directive, rest => (directive, rest)

def allows (directive : Directive) (grouped pointed : Bool) (c : Char) : Bool :=
  let among (letters : String) : Bool := letters.toList.contains c
  among "aAcdeEfFgGiosuxX" && !(directive.alternate && among "cdisu") &&
    !(directive.zero && among "cs") && !(grouped && among "aAceEosxX") && !(pointed && c == 'c')

def readCount (printer : Printer) (formatting : Formatting) (what : String) (text : Octets) :
    Int × Formatting × Octets :=
  match text with
  | '*' :: rest =>
      let (arg, _) := formatting.take
      let (value, formatting) := formatting.takeNumber printer true
      let short := Int.bmod value 4294967296
      if printer == .program && value != short then
        (0, { formatting.complain ("invalid " ++ what ++ ": " ++ inQuotes arg) with
          status := 1
          stopped := true }, rest)
      else (short, formatting, rest)
  | text =>
      let digits := text.takeWhile Char.isDigit
      (((number? digits).getD 0 : Nat), formatting, text.drop digits.length)

def backslashed (text : Octets) : Octets :=
  if text.isEmpty then ['\'', '\'']
  else if text.any fun c => !isShown c then
    "$'".toList ++ (text.flatMap fun c =>
      if c == '\'' || c == '\\' then ['\\', c] else if c == '\x1b' then ['\\', 'E']
      else if isShown c then [c] else codeOf c) ++ ['\'']
  else
    (text.zip (none :: text.map some)).flatMap fun (c, before) =>
      if " !\"$&'()*,;<>?[\\]^\x60|".toList.contains c || c == '\x7b' || c == '\x7d' ||
        (c == '#' && before.isNone) ||
        (c == '~' && (before.isNone || before = some ':' || before = some '=')) then ['\\', c]
      else [c]

def enclosed : Nat → Octets → Octets → Octets × Octets
  | _, read, [] => (read.reverse, [])
  | level, read, c :: rest =>
      if c == ')' && level = 0 then (read.reverse, rest)
      else
        let level := if c == '(' then level + 1 else if c == ')' then level - 1 else level
        enclosed level (c :: read) rest

def momentDirective (formatting : Formatting) (directive : Directive) (cut : Octets → Octets)
    (whole rest : Octets) : Formatting × Octets :=
  let (words, behind) := enclosed 0 [] rest
  match behind with
  | 'T' :: behind =>
      let words := if words.isEmpty then ['%', 'X'] else words
      let (time, formatting) :=
        if formatting.args.isEmpty then (none, { formatting with used := true })
        else
          let (value, formatting) := formatting.takeNumber .richShell true
          (if value = -1 || value = -2 then none else some value, formatting)
      (formatting.put (directive.fill (cut (formatting.moment words time))), behind)
  | behind =>
      let shown := match behind with
        | c :: _ => c.toString
        | [] => ""
      ((formatting.complain ("warning: \x60" ++ shown ++ "': invalid time format specification")).put
        ['%'], whole)

def directive (printer : Printer) (formatting : Formatting) (whole : Octets) :
    Formatting × Octets :=
  let (directive, text) := readFlags {} whole
  let marks := text.takeWhile fun c => printer == .program && (c == '\'' || c == 'I')
  let (directive, text) := readFlags directive (text.drop marks.length)
  let pointed := (text.dropWhile fun c => c.isDigit || c == '*').head? = some '.'
  let (width, formatting, text) := readCount printer formatting "field width" text
  let directive :=
    { directive with width := width.natAbs, leftAlign := directive.leftAlign || width < 0 }
  let (directive, formatting, text) :=
    match text with
    | '.' :: rest =>
        let (precision, formatting, rest) := readCount printer formatting "precision" rest
        ({ directive with precision := if precision < 0 then none else some precision.toNat },
          formatting, rest)
    | text => (directive, formatting, text)
  let text := if printer == .shell then text
    else text.dropWhile fun c => "lhLjtz".toList.contains c
  if formatting.stopped then (formatting, [])
  else match text with
  | [] =>
      match printer with
      | .shell =>
          ({ formatting.complain "missing format character" with status := 2, stopped := true }, [])
      | .richShell =>
          ({ formatting.complain ("\x60" ++ Text.ofOctets ('%' :: whole) ++
            "': missing format character") with status := 1, stopped := true }, [])
      | .program => (formatting.refuse printer whole, [])
  | c :: rest =>
      let directive := { directive with conversion := c }
      let cut (text : Octets) : Octets :=
        match directive.precision with
        | some precision => text.take precision
        | none => text
      let alone := whole.length = rest.length + 1
      if c == '%' && alone then (formatting.put ['%'], rest)
      else if c == '(' && printer == .richShell then
        momentDirective formatting directive cut whole rest
      else if printer == .program && !((c == 'b' || c == 'q') && alone) &&
          !allows directive (!marks.isEmpty) pointed c then
        (formatting.refuse printer (whole.take (whole.length - rest.length)), [])
      else if c == 's' then
        let (arg, formatting) := formatting.take
        (formatting.put (directive.fill (cut arg)), rest)
      else if c == 'c' then
        let (arg, formatting) := formatting.take
        (formatting.put (directive.fill [arg.headD (Char.ofNat 0)]), rest)
      else if c == 'q' && printer == .program then
        let (arg, formatting) := formatting.take
        (formatting.put (quoteIfNeeded arg).toList, rest)
      else if (c == 'q' || c == 'Q') && printer == .richShell then
        let (arg, formatting) := formatting.take
        (formatting.put (directive.fill (if c == 'q' then cut (backslashed arg)
          else backslashed (cut arg))), rest)
      else if c == 'b' then
        let (arg, formatting) := formatting.take
        let (text, stopped) := unescapeAll printer.argumentEscapes arg
        ({ formatting.put (directive.fill (cut text)) with stopped }, rest)
      else if "diouxX".toList.contains c then
        let (value, formatting) := formatting.takeNumber printer (c == 'd' || c == 'i')
        (formatting.put (directive.showInteger value), rest)
      else if "aAeEfFgG".toList.contains c then
        let (arg, formatting) := formatting.take
        let (value, extent) := quantityOf printer.format arg
        let text := directive.showQuantity printer.format value
        ((formatting.remark printer arg extent).put text, rest)
      else (formatting.refuse printer (whole.take (whole.length - rest.length)), [])

def formatOnce (printer : Printer) : Nat → Formatting → Octets → Formatting
  | 0, formatting, _ => formatting
  | fuel + 1, formatting, text =>
      if formatting.stopped then formatting
      else
        match text with
        | [] => formatting
        | '\\' :: rest =>
            match escaped printer.escapes rest with
            | .stopped => { formatting with stopped := true, status := 0 }
            | .text chars rest => formatOnce printer fuel (formatting.put chars) rest
        | '%' :: rest =>
            let (formatting, rest) := directive printer formatting rest
            formatOnce printer fuel formatting rest
        | c :: rest => formatOnce printer fuel (formatting.put [c]) rest

def formatAll (printer : Printer) (format : Octets) : Nat → Formatting → Formatting
  | 0, formatting => formatting
  | rounds + 1, formatting =>
      let formatting := formatOnce printer (format.length + 1) formatting format
      if formatting.stopped || formatting.args.isEmpty || !formatting.used then formatting
      else formatAll printer format rounds formatting

def emit (call : Call) : List Printed → Octets → Chore (Except HostFault Unit)
  | [], held => Chore.write 1 held
  | .text text :: rest, held => emit call rest (held ++ text)
  | .complaint message :: rest, held => do
      match ← Chore.write 1 held with
      | .ok () => do
          complain call.name message
          emit call rest []
      | .error fault => return .error fault

def emitLines (call : Call) : List Printed → Octets → Chore (Except HostFault Unit)
  | [], held => Chore.write 1 held
  | .text text :: rest, held => emitLines call rest (held ++ text)
  | .complaint message :: rest, held => do
      let last := (held.reverse.takeWhile fun c => c != '\n').reverse
      match ← Chore.write 1 (held.take (held.length - last.length)) with
      | .ok () => do
          complain call.name message
          emitLines call rest last
      | .error fault => return .error fault

def emitLate (call : Call) (events : List Printed) : Chore (Except HostFault Unit) := do
  events.forM fun event =>
    match event with
    | .complaint message => complain call.name message
    | .text _ => pure ()
  Chore.write 1 (events.flatMap fun event =>
    match event with
    | .text text => text
    | .complaint _ => [])

def printWith (printer : Printer) : Tool := fun call =>
  let args := match call.args with
    | ['-', '-'] :: rest => rest
    | args => args
  match args with
  | [] =>
      match printer with
      | .shell => do
          complain call.name "usage: printf format [arg ...]"
          return 2
      | .richShell => do
          let _ ← Chore.write 2 "printf: usage: printf [-v var] format [arguments]\n".toList
          return 2
      | .program => misuse call.name "missing operand" 1
  | format :: args => do
      let formatting := formatAll printer format (args.length + 1) { args }
      let events := formatting.events.reverse
      let written ←
        match printer with
        | .shell => emitLate call events
        | .richShell => emitLines call events []
        | .program => emit call events []
      if printer == .program && !formatting.used && !formatting.stopped then
        if let excess :: _ := args then
          complain call.name
            ("warning: ignoring excess arguments, starting with " ++ inQuotes excess)
      match written with
      | .ok () => return formatting.status
      | .error fault => do
          complain call.name ("write error: " ++ fault.message)
          return 1

def shellPrintf : Tool := printWith .shell

def printf : Tool := printWith .program

end ArtifactPipeline.Tools
