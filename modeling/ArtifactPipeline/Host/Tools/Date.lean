import ArtifactPipeline.Host.Tools.Moment

set_option autoImplicit false

namespace ArtifactPipeline.Tools

open Text (Octets)

structure Zone where
  name : Octets := "UTC".toList
  ahead : Int := 0

namespace Zone

def clock? (text : Octets) : Option Nat :=
  match (Text.splitOn ':' text).mapM number? with
  | some [hours] => some (3600 * hours)
  | some [hours, minutes] => some (3600 * hours + 60 * minutes)
  | some [hours, minutes, seconds] => some (3600 * hours + 60 * minutes + seconds)
  | _ => none

def ofText (text : Octets) : Zone :=
  let name := text.takeWhile Char.isAlpha
  let behind := text.drop name.length
  let (negative, digits) :=
    match behind with
    | '-' :: rest => (true, rest)
    | '+' :: rest => (false, rest)
    | rest => (false, rest)
  let digits := digits.takeWhile fun c => c.isDigit || c == ':'
  if name.length < 3 then {}
  else
    match clock? digits with
    | some seconds => ⟨name, if negative then seconds else -seconds⟩
    | none => { name }

def ofVars (vars : List (Octets × Octets)) : Zone :=
  match vars.lookup "TZ".toList with
  | some text => if text.isEmpty then {} else ofText text
  | none => {}

end Zone

namespace Date

structure Style where
  pad : Option Char := none
  width : Option Nat := none
  upper : Bool := false
  swapped : Bool := false

def Style.number (style : Style) (usual : Char) (digits : Nat) (value : Int) : Octets :=
  let text := decimal value.natAbs
  let sign : Octets := if value < 0 then ['-'] else []
  match style.pad.getD usual with
  | '-' => sign ++ text
  | '_' | ' ' => padLeft ' ' (style.width.getD digits) (sign ++ text)
  | pad => sign ++ padLeft (if pad == '+' then '0' else pad) (style.width.getD digits - sign.length) text

def Style.text (style : Style) (text : Octets) : Octets :=
  let text := if style.upper then text.map Char.toUpper else text
  let pad := match style.pad with
    | some '0' | some '+' => '0'
    | _ => ' '
  match style.pad, style.width with
  | some '-', _ | _, none => text
  | _, some width => padLeft pad width text

def offsetText (colons : Nat) (ahead : Int) : Octets :=
  let total := ahead.natAbs
  let two (n : Nat) : Octets := padLeft '0' 2 (decimal n)
  let hours := two (total / 3600)
  let minutes := two (total / 60 % 60)
  let seconds := two (total % 60)
  (if ahead < 0 then '-' else '+') :: (match colons with
    | 0 => hours ++ minutes
    | 1 => hours ++ ':' :: minutes
    | 2 => hours ++ ':' :: minutes ++ ':' :: seconds
    | _ =>
        if total % 60 != 0 then hours ++ ':' :: minutes ++ ':' :: seconds
        else if total / 60 % 60 != 0 then hours ++ ':' :: minutes
        else hours)

def weekOf (days : Int) : Int × Nat :=
  let thursday := days + 3 - ((Moment.weekdayOf days + 6) % 7 : Nat)
  let (year, _, _) := Moment.dateOf thursday
  (year, ((thursday - Moment.daysFrom year 1 1) / 7).toNat + 1)

def fractionText (style : Style) (nanoseconds : Nat) : Octets :=
  let width := match style.width with
    | some width => if width = 0 then 9 else width
    | none => 9
  let digits := (padLeft '0' 9 (decimal nanoseconds)).take width
  let kept := (digits.reverse.dropWhile (· == '0')).reverse
  let kept := if kept.isEmpty then ['0'] else kept
  if style.pad = some '_' then padRight width kept
  else digits ++ List.replicate (width - digits.length) '0'

def longForm? : Char → Option String
  | 'c' => some "%a %b %e %H:%M:%S %Y"
  | 'D' | 'x' => some "%m/%d/%y"
  | 'F' => some "%Y-%m-%d"
  | 'r' => some "%I:%M:%S %p"
  | 'R' => some "%H:%M"
  | 'T' | 'X' => some "%H:%M:%S"
  | _ => none

def field? (zone : Zone) (time : Int) (style : Style) (colons : Nat) (c : Char) : Option Octets :=
  let local' := time + zone.ahead * Moment.second
  let total := Int.fdiv local' Moment.second
  let days := Int.fdiv total 86400
  let (year, month, day) := Moment.dateOf days
  let secondOfDay := (total - days * 86400).toNat
  let hour := secondOfDay / 3600
  let dayOfYear := (days - Moment.daysFrom year 1 1).toNat
  let weekday := Moment.weekdayOf days
  let dayName := (Moment.weekdays[weekday]?.getD "").toList
  let monthName := (Moment.months[month - 1]?.getD "").toList
  let halfHour := if hour % 12 = 0 then 12 else hour % 12
  let half := if hour < 12 then "AM".toList else "PM".toList
  let swapUp (text : Octets) : Octets := if style.swapped then text.map Char.toUpper else text
  let swapDown (text : Octets) : Octets := if style.swapped then text.map Char.toLower else text
  let zeros (digits : Nat) (value : Int) : Option Octets := some (style.number '0' digits value)
  let blanks (digits : Nat) (value : Int) : Option Octets := some (style.number '_' digits value)
  let text (text : Octets) : Option Octets := some (style.text text)
  match c with
  | 'Y' => zeros 4 year
  | 'y' => zeros 2 (Int.fmod year 100)
  | 'C' => zeros 2 (Int.fdiv year 100)
  | 'G' => zeros 4 (weekOf days).1
  | 'g' => zeros 2 (Int.fmod (weekOf days).1 100)
  | 'V' => zeros 2 (weekOf days).2
  | 'U' => zeros 2 ((dayOfYear + 7 - weekday) / 7 : Nat)
  | 'W' => zeros 2 ((dayOfYear + 7 - (weekday + 6) % 7) / 7 : Nat)
  | 'q' => zeros 1 ((month - 1) / 3 + 1 : Nat)
  | 'm' => zeros 2 month
  | 'd' => zeros 2 day
  | 'e' => blanks 2 day
  | 'j' => zeros 3 (dayOfYear + 1 : Nat)
  | 'H' => zeros 2 hour
  | 'I' => zeros 2 halfHour
  | 'k' => blanks 2 hour
  | 'l' => blanks 2 halfHour
  | 'M' => zeros 2 (secondOfDay / 60 % 60 : Nat)
  | 'S' => zeros 2 (secondOfDay % 60 : Nat)
  | 's' => zeros 1 (Int.fdiv time Moment.second)
  | 'N' => some (fractionText style (Int.fmod time Moment.second).toNat)
  | 'u' => zeros 1 ((weekday + 6) % 7 + 1 : Nat)
  | 'w' => zeros 1 weekday
  | 'a' => text (swapUp (dayName.take 3))
  | 'A' => text (swapUp dayName)
  | 'b' | 'h' => text (swapUp (monthName.take 3))
  | 'B' => text (swapUp monthName)
  | 'p' => text (swapDown half)
  | 'P' => text (half.map Char.toLower)
  | 'Z' => text (swapDown zone.name)
  | 'z' => some (offsetText colons zone.ahead)
  | 'n' => text ['\n']
  | 't' => text ['\t']
  | '%' => text ['%']
  | _ => none

def flags : Style → Octets → Style × Octets
  | style, '^' :: rest => flags { style with upper := true } rest
  | style, '#' :: rest => flags { style with swapped := true } rest
  | style, c :: rest =>
      if c == '_' || c == '-' || c == '0' || c == '+' then flags { style with pad := some c } rest
      else (style, c :: rest)
  | style, [] => (style, [])

def directive? (text : Octets) : Option (Style × Nat × Char × Octets) :=
  let (style, rest) := flags {} text
  let digits := rest.takeWhile Char.isDigit
  let style := { style with width := number? digits }
  let rest := rest.drop digits.length
  let colons := rest.takeWhile (· == ':')
  let rest := rest.drop colons.length
  let rest := match rest with
    | 'E' :: c :: rest | 'O' :: c :: rest => c :: rest
    | rest => rest
  match rest with
  | [] => none
  | c :: rest => if !colons.isEmpty && c != 'z' then none else some (style, colons.length, c, rest)

def plainFormat (zone : Zone) (time : Int) : Octets → Octets
  | '%' :: c :: rest => (field? zone time {} 0 c).getD ['%', c] ++ plainFormat zone time rest
  | c :: rest => c :: plainFormat zone time rest
  | [] => []

def format (zone : Zone) (time : Int) : Nat → Octets → Octets
  | 0, text => text
  | _ + 1, [] => []
  | fuel + 1, '%' :: rest =>
      match directive? rest with
      | none => '%' :: format zone time fuel rest
      | some (style, colons, c, behind) =>
          match longForm? c, field? zone time style colons c with
          | some longForm, _ =>
              style.text (plainFormat zone time longForm.toList) ++ format zone time fuel behind
          | none, some text => text ++ format zone time fuel behind
          | none, none => '%' :: format zone time fuel rest
  | fuel + 1, c :: rest => c :: format zone time fuel rest

end Date

def formatDate (zone : Zone) (time : Int) (format : Octets) : Octets :=
  Date.format zone time (format.length + 1) format

def isoFormat? (text : Octets) : Option String :=
  let named := [("date", "%Y-%m-%d"), ("hours", "%Y-%m-%dT%H%:z"),
    ("minutes", "%Y-%m-%dT%H:%M%:z"), ("seconds", "%Y-%m-%dT%H:%M:%S%:z"),
    ("ns", "%Y-%m-%dT%H:%M:%S,%N%:z")]
  if text.isEmpty then some "%Y-%m-%d"
  else (named.find? fun entry => text.isPrefixOf entry.1.toList).map (·.2)

def spacedFormat? (text : Octets) : Option String :=
  let named := [("date", "%Y-%m-%d"), ("seconds", "%Y-%m-%d %H:%M:%S%:z"),
    ("ns", "%Y-%m-%d %H:%M:%S.%N%:z")]
  if text.isEmpty then none
  else (named.find? fun entry => text.isPrefixOf entry.1.toList).map (·.2)

def dateFormat (given : Given) : Except String Octets :=
  let operand : List (Except String Octets) :=
    match given.operands with
    | ('+' :: format) :: _ => [.ok format]
    | _ => []
  let invalid (name : String) (text : Octets) : Except String Octets :=
    .error ("invalid argument " ++ inQuotes text ++ " for '" ++ name ++ "'")
  let asked : List (Except String Octets) := given.options.filterMap fun (letter, value) =>
    match letter with
    | 'R' => some (.ok "%a, %d %b %Y %H:%M:%S %z".toList)
    | 'I' =>
        match isoFormat? value with
        | some format => some (.ok format.toList)
        | none => some (invalid "--iso-8601" value)
    | 'ρ' =>
        match spacedFormat? value with
        | some format => some (.ok format.toList)
        | none => some (invalid "--rfc-3339" value)
    | _ => none
  match asked ++ operand with
  | [] => .ok "%a %b %e %H:%M:%S %Z %Y".toList
  | [format] => format
  | _ => .error "multiple output formats specified"

def dateMoments (zone : Zone) (given : Given) : Chore (List (Except String Int)) := do
  let now ← Chore.look fun scene => scene.disk.clock
  let read (text : Octets) : Except String Int :=
    match Moment.ofText? now zone.ahead text with
    | some time => .ok time
    | none => .error ("invalid date " ++ inQuotes text)
  match given.value? 'f', given.value? 'r', given.value? 'd' with
  | some path, _, _ => do
      match ← contentOf path with
      | .ok text => return (linesOf text).1.map read
      | .error fault => return [.error (quoteIfNeeded path ++ ": " ++ fault.message)]
  | none, some path, _ => do
      match ← Chore.stat path with
      | .ok entry => return [.ok (HostDisk.mtimeOf entry.node)]
      | .error fault => return [.error (quoteIfNeeded path ++ ": " ++ fault.message)]
  | none, none, some text => return [read text]
  | none, none, none => return [.ok now]

def date : Tool :=
  withOptions {
    flags := "uR"
    valued := "dfrsρ"
    optional := "I"
    long := [("date", 'd'), ("file", 'f'), ("iso-8601", 'I'), ("reference", 'r'), ("rfc-email", 'R'),
      ("rfc-822", 'R'), ("rfc-2822", 'R'), ("rfc-3339", 'ρ'), ("set", 's'), ("utc", 'u'),
      ("uct", 'u'), ("universal", 'u')] } 1
    fun call given => do
      let zone := if given.has 'u' then {} else Zone.ofVars call.vars
      match given.operands with
      | _ :: extra :: _ => misuse call.name ("extra operand " ++ inQuotes extra) 1
      | operands =>
          match (operands.head?).filter fun text => text.head? != some '+', dateFormat given with
          | some text, _ =>
              if ["d", "f", "r"].any fun letter => given.has (letter.toList.headD ' ') then
                misuse call.name ("the argument " ++ inQuotes text ++ " lacks a leading '+';\n" ++
                  "when using an option to specify date(s), any non-option\n" ++
                  "argument must be a format string beginning with '+'") 1
              else refuse call.name ("invalid date " ++ inQuotes text)
          | none, .error message => misuse call.name message 1
          | none, .ok format => do
              let moments ← dateMoments zone given
              moments.foldlM (fun status moment => do
                match moment with
                | .ok time => do
                    let own ← finish call (formatDate zone time format ++ ['\n']) 0
                    return max status own
                | .error message => do
                    complain call.name message
                    return 1) 0

end ArtifactPipeline.Tools
