import ArtifactPipeline.Host.Tools.Call

set_option autoImplicit false

namespace ArtifactPipeline.Tools.Moment

open Text (Octets)

def second : Nat := 1000000000

def daysFrom (year month day : Int) : Int :=
  let year := year + Int.fdiv (month - 1) 12
  let month := Int.fmod (month - 1) 12 + 1
  let shifted := if month ≤ 2 then year - 1 else year
  let era := Int.fdiv shifted 400
  let yearOfEra := shifted - era * 400
  let monthIndex := if month ≤ 2 then month + 9 else month - 3
  let dayOfYear := (153 * monthIndex + 2) / 5 + day - 1
  era * 146097 + (yearOfEra * 365 + yearOfEra / 4 - yearOfEra / 100) + dayOfYear - 719468

def dateOf (days : Int) : Int × Nat × Nat :=
  let z := days + 719468
  let era := Int.fdiv z 146097
  let dayOfEra := (z - era * 146097).toNat
  let yearOfEra := (dayOfEra - dayOfEra / 1460 + dayOfEra / 36524 - dayOfEra / 146096) / 365
  let dayOfYear := dayOfEra - (365 * yearOfEra + yearOfEra / 4 - yearOfEra / 100)
  let index := (5 * dayOfYear + 2) / 153
  let day := dayOfYear - (153 * index + 2) / 5 + 1
  let month := if index < 10 then index + 3 else index - 9
  ((yearOfEra : Int) + era * 400 + (if month ≤ 2 then 1 else 0), month, day)

def weekdayOf (days : Int) : Nat :=
  (Int.fmod (days + 4) 7).toNat

def isLeap (year : Int) : Bool :=
  (year % 4 == 0 && year % 100 != 0) || year % 400 == 0

def daysIn (year : Int) (month : Nat) : Nat :=
  match month with
  | 2 => if isLeap year then 29 else 28
  | 4 | 6 | 9 | 11 => 30
  | _ => 31

def isDate (year : Int) (month day : Nat) : Bool :=
  1 ≤ month && month ≤ 12 && 1 ≤ day && day ≤ daysIn year month

def ofParts? (year : Int) (month day hour minute secs : Nat) : Option Int :=
  if isDate year month day && hour < 24 && minute < 60 && secs < 61 then
    some ((daysFrom year month day * 86400 + hour * 3600 + minute * 60 + secs) * second)
  else none

def pairs : Octets → Option (List Nat)
  | [] => some []
  | a :: b :: rest =>
      if a.isDigit && b.isDigit then
        (pairs rest).map fun more => (10 * (a.toNat - 48) + (b.toNat - 48)) :: more
      else none
  | [_] => none

def fullYear (year : Nat) : Nat :=
  if year < 69 then 2000 + year else 1900 + year

/-- A moment from digits without signs between them, perhaps with seconds behind a point: month, day,
hour and minute, with a year or a century and a year in front. -/
def ofDigits? (now : Int) (text : Octets) : Option Int :=
  let body := text.takeWhile fun c => c != '.'
  let secs? :=
    match text.drop body.length with
    | [] => some 0
    | _ :: rest => if rest.length = 2 then number? rest else none
  match secs?, pairs body with
  | some secs, some [century, year, month, day, hour, minute] =>
      ofParts? (100 * century + year) month day hour minute secs
  | some secs, some [year, month, day, hour, minute] =>
      ofParts? (fullYear year) month day hour minute secs
  | some secs, some [month, day, hour, minute] =>
      ofParts? (dateOf (Int.fdiv now (86400 * second))).1 month day hour minute secs
  | _, _ => none

def fraction (digits : Octets) : Nat :=
  ((number? ((digits ++ List.replicate 9 '0').take 9)).getD 0)

def seconds? (text : Octets) : Option Nat :=
  let whole := text.takeWhile Char.isDigit
  match number? whole, text.drop whole.length with
  | some n, [] => some (n * second)
  | some n, c :: digits =>
      if (c == '.' || c == ',') && digits.all Char.isDigit then some (n * second + fraction digits)
      else none
  | none, c :: digits =>
      if (c == '.' || c == ',') && !digits.isEmpty && digits.all Char.isDigit then
        some (fraction digits)
      else none
  | none, [] => none

def months : List String :=
  ["January", "February", "March", "April", "May", "June", "July", "August", "September", "October",
    "November", "December"]

def weekdays : List String :=
  ["Sunday", "Monday", "Tuesday", "Wednesday", "Thursday", "Friday", "Saturday"]

def otherDays : List (String × Nat) :=
  [("TUES", 2), ("WEDNES", 3), ("THUR", 4), ("THURS", 4)]

def zones : List (String × Int) := [
  ("GMT", 0), ("UT", 0), ("UTC", 0), ("WET", 0), ("WEST", 60), ("BST", 60), ("ART", -180),
  ("BRT", -180), ("BRST", -120), ("NST", -210), ("NDT", -150), ("AST", -240), ("ADT", -180),
  ("CLT", -240), ("CLST", -180), ("EST", -300), ("EDT", -240), ("CST", -360), ("CDT", -300),
  ("MST", -420), ("MDT", -360), ("PST", -480), ("PDT", -420), ("AKST", -540), ("AKDT", -480),
  ("HST", -600), ("HAST", -600), ("HADT", -540), ("SST", -720), ("WAT", 60), ("CET", 60),
  ("CEST", 120), ("MET", 60), ("MEZ", 60), ("MEST", 120), ("MESZ", 120), ("EET", 120), ("EEST", 180),
  ("CAT", 120), ("SAST", 120), ("EAT", 180), ("MSK", 180), ("MSD", 240), ("IST", 330), ("SGT", 480),
  ("KST", 540), ("JST", 540), ("GST", 600), ("NZST", 720), ("NZDT", 780)
]

def letterZone? (c : Char) : Option Int :=
  if 'A' ≤ c && c ≤ 'I' then some (60 * ((c.toNat : Int) - 64))
  else if 'K' ≤ c && c ≤ 'M' then some (60 * ((c.toNat : Int) - 65))
  else if 'N' ≤ c && c ≤ 'Y' && c != 'T' then some (-60 * ((c.toNat : Int) - 77))
  else if c = 'Z' then some 0
  else none

inductive Measure where
  | year
  | month
  | day (count : Int)
  | second (count : Int)
  deriving DecidableEq, Repr

def measures : List (String × Measure) := [
  ("YEAR", .year), ("MONTH", .month), ("FORTNIGHT", .day 14), ("WEEK", .day 7), ("DAY", .day 1),
  ("HOUR", .second 3600), ("MINUTE", .second 60), ("MIN", .second 60), ("SECOND", .second 1),
  ("SEC", .second 1)
]

def ordinals : List (String × Int) := [
  ("LAST", -1), ("THIS", 0), ("NEXT", 1), ("FIRST", 1), ("THIRD", 3), ("FOURTH", 4), ("FIFTH", 5),
  ("SIXTH", 6), ("SEVENTH", 7), ("EIGHTH", 8), ("NINTH", 9), ("TENTH", 10), ("ELEVENTH", 11),
  ("TWELFTH", 12)
]

inductive Token where
  | number (sign : Option Bool) (value : Nat) (digits : Nat)
  | decimal (sign : Option Bool) (value : Nat)
  | month (number : Nat)
  | weekday (number : Nat)
  | noon (after : Bool)
  | zone (minutes : Int)
  | summer
  | measure (measure : Measure)
  | ordinal (value : Int)
  | away (days : Int)
  | ago
  | hence
  | timeMark
  | sign (c : Char)
  deriving DecidableEq, Repr

def wordToken? (word : Octets) : Option Token :=
  let upper := String.ofList (word.map Char.toUpper)
  let bare := String.ofList ((word.map Char.toUpper).filter fun c => c != '.')
  let short := word.length = 3 || (word.length = 4 && word.getLast? = some '.')
  let among (names : List String) : Option Nat :=
    names.findIdx? fun name =>
      let name := name.map Char.toUpper
      if short then name.toList.take 3 = upper.toList.take 3 else name = upper
  let stem := if upper.toList.getLast? = some 'S' then String.ofList upper.toList.dropLast else upper
  if upper = "AM" || upper = "A.M." then some (.noon false)
  else if upper = "PM" || upper = "P.M." then some (.noon true)
  else
    match among months, among weekdays, otherDays.lookup upper with
    | some index, _, _ => some (.month (index + 1))
    | none, some index, _ => some (.weekday index)
    | none, none, some index => some (.weekday index)
    | none, none, none =>
        if upper = "SEPT" then some (.month 9)
        else
          match zones.lookup upper, measures.lookup upper, measures.lookup stem,
              ordinals.lookup upper with
          | some minutes, _, _, _ => some (.zone minutes)
          | none, some measure, _, _ => some (.measure measure)
          | none, none, some measure, _ => some (.measure measure)
          | none, none, none, some value => some (.ordinal value)
          | none, none, none, none =>
              match upper with
              | "DST" => some .summer
              | "TOMORROW" => some (.away 1)
              | "YESTERDAY" => some (.away (-1))
              | "TODAY" | "NOW" => some (.away 0)
              | "AGO" => some .ago
              | "HENCE" => some .hence
              | "T" => some .timeMark
              | _ =>
                  match bare.toList with
                  | [c] => (letterZone? c).map .zone
                  | _ => (zones.lookup bare).map .zone

def isBlank (c : Char) : Bool :=
  c == ' ' || (9 ≤ c.toNat && c.toNat ≤ 13)

def behindComment : Nat → Octets → Octets
  | _, [] => []
  | level, '(' :: rest => behindComment (level + 1) rest
  | level, ')' :: rest => if level ≤ 1 then rest else behindComment (level - 1) rest
  | level, _ :: rest => behindComment level rest

def tokens? : Nat → Octets → Option (List Token)
  | 0, _ => some []
  | _ + 1, [] => some []
  | fuel + 1, c :: rest =>
      if isBlank c then tokens? fuel rest
      else if c == '+' || c == '-' then
        let behind := rest.dropWhile isBlank
        if (behind.head?.map Char.isDigit).getD false then numeric fuel (some (c == '-')) behind
        else tokens? fuel rest
      else if c.isDigit then numeric fuel none (c :: rest)
      else if c.isAlpha then
        let word := (c :: rest).takeWhile fun d => d.isAlpha || d == '.'
        (wordToken? word).bind fun token =>
          (tokens? fuel ((c :: rest).drop word.length)).map (token :: ·)
      else if c == '(' then tokens? fuel (behindComment 1 rest)
      else (tokens? fuel rest).map (.sign c :: ·)
termination_by fuel => (fuel, 0)
where
  numeric (fuel : Nat) (sign : Option Bool) (text : Octets) : Option (List Token) :=
    let digits := text.takeWhile Char.isDigit
    let value := (number? digits).getD 0
    match text.drop digits.length with
    | mark :: d :: rest =>
        if (mark == '.' || mark == ',') && d.isDigit then
          let places := (d :: rest).takeWhile Char.isDigit
          (tokens? fuel ((d :: rest).drop places.length)).map
            (.decimal sign (value * second + fraction places) :: ·)
        else
          (tokens? fuel (text.drop digits.length)).map (.number sign value digits.length :: ·)
    | rest => (tokens? fuel rest).map (.number sign value digits.length :: ·)
  termination_by (fuel, 1)

structure Shift where
  years : Int := 0
  months : Int := 0
  days : Int := 0
  time : Int := 0

namespace Shift

def add (a b : Shift) : Shift :=
  ⟨a.years + b.years, a.months + b.months, a.days + b.days, a.time + b.time⟩

def back (shift : Shift) : Shift :=
  ⟨-shift.years, -shift.months, -shift.days, -shift.time⟩

def of (count : Int) : Measure → Shift
  | .year => { years := count }
  | .month => { months := count }
  | .day days => { days := count * days }
  | .second secs => { time := count * secs * second }

end Shift

structure Reading where
  date : Option (Option Int × Nat × Nat) := none
  clock : Option Nat := none
  zone : Option Int := none
  weekday : Option (Int × Nat) := none
  shift : Option Shift := none

namespace Reading

def withDate (reading : Reading) (year : Option Int) (month day : Nat) : Option Reading :=
  if reading.date.isSome then none else some { reading with date := some (year, month, day) }

def withClock (reading : Reading) (nanoseconds : Nat) : Option Reading :=
  if reading.clock.isSome then none else some { reading with clock := some nanoseconds }

def withZone (reading : Reading) (minutes : Int) : Option Reading :=
  if reading.zone.isSome then none else some { reading with zone := some minutes }

def shifted (reading : Reading) (shift : Shift) : Reading :=
  { reading with shift := some ((reading.shift.getD {}).add shift) }

end Reading

def yearOf (value digits : Nat) : Int :=
  if digits ≤ 2 then fullYear value else value

def signed (negative : Bool) (value : Nat) : Int :=
  if negative then -value else value

def hourOf (hour : Nat) : Option Bool → Option Nat
  | none => if hour < 24 then some hour else none
  | some after =>
      if 1 ≤ hour && hour ≤ 12 then some (hour % 12 + if after then 12 else 0) else none

def offset (negative : Bool) (value digits : Nat) (minutes : Option Nat) : Int :=
  let total :=
    match minutes with
    | some minutes => 60 * value + minutes
    | none => if digits ≤ 2 then 60 * value else 60 * (value / 100) + value % 100
  signed negative total

def zoneBehind (reading : Reading) : List Token → Option (Reading × List Token)
  | .number (some negative) value _ :: .sign ':' :: .number none minutes _ :: rest =>
      (reading.withZone (offset negative value 2 (some minutes))).map fun r => (r, rest)
  | .number (some negative) value digits :: rest =>
      (reading.withZone (offset negative value digits none)).map fun r => (r, rest)
  | rest => some (reading, rest)

def clockBehind (reading : Reading) (hour minute nanoseconds : Nat) (tokens : List Token) :
    Option (Reading × List Token) :=
  let (half, rest) :=
    match tokens with
    | .noon after :: rest => (some after, rest)
    | rest => (none, rest)
  if 60 ≤ minute || 60 * second ≤ nanoseconds then none
  else
    (hourOf hour half).bind fun hour =>
      (reading.withClock ((hour * 3600 + minute * 60) * second + nanoseconds)).bind fun reading =>
        if half.isSome then some (reading, rest) else zoneBehind reading rest

def clock? (reading : Reading) : List Token → Option (Reading × List Token)
  | .number none hour _ :: .sign ':' :: .number none minute _ :: .sign ':' ::
      .number none secs _ :: rest => clockBehind reading hour minute (secs * second) rest
  | .number none hour _ :: .sign ':' :: .number none minute _ :: .sign ':' ::
      .decimal none nanoseconds :: rest => clockBehind reading hour minute nanoseconds rest
  | .number none hour _ :: .sign ':' :: .number none minute _ :: rest =>
      clockBehind reading hour minute 0 rest
  | .number none hour _ :: .noon after :: rest =>
      clockBehind reading hour 0 0 (.noon after :: rest)
  | _ => none

def date? (reading : Reading) : List Token → Option (Reading × List Token)
  | .number none year digits :: .number (some true) month _ :: .number (some true) day _ :: rest =>
      (reading.withDate (some (yearOf year digits)) month day).map fun r => (r, rest)
  | .number none a digits :: .sign '/' :: .number none b _ :: .sign '/' ::
      .number none c more :: rest =>
      if 4 ≤ digits then (reading.withDate (some a) b c).map fun r => (r, rest)
      else (reading.withDate (some (yearOf c more)) a b).map fun r => (r, rest)
  | .number none month _ :: .sign '/' :: .number none day _ :: rest =>
      (reading.withDate none month day).map fun r => (r, rest)
  | .number none day _ :: .month month :: .number (some true) year digits :: rest =>
      (reading.withDate (some (yearOf year digits)) month day).map fun r => (r, rest)
  | .number none day _ :: .month month :: .number none hour d :: .sign ':' :: rest =>
      (reading.withDate none month day).map fun r => (r, .number none hour d :: .sign ':' :: rest)
  | .number none day _ :: .month month :: .number none year digits :: rest =>
      (reading.withDate (some (yearOf year digits)) month day).map fun r => (r, rest)
  | .number none day _ :: .month month :: rest =>
      (reading.withDate none month day).map fun r => (r, rest)
  | .month month :: .number (some true) day _ :: .number (some true) year digits :: rest =>
      (reading.withDate (some (yearOf year digits)) month day).map fun r => (r, rest)
  | .month month :: .number none day _ :: .sign ',' :: .number none year digits :: rest =>
      (reading.withDate (some (yearOf year digits)) month day).map fun r => (r, rest)
  | .month month :: .number none day _ :: rest =>
      (reading.withDate none month day).map fun r => (r, rest)
  | _ => none

def shift? (reading : Reading) (tokens : List Token) : Option (Reading × List Token) :=
  let found : Option (Shift × List Token) :=
    match tokens with
    | .number sign count _ :: .measure measure :: rest =>
        some (.of (signed (sign.getD false) count) measure, rest)
    | .decimal sign count :: .measure (.second 1) :: rest =>
        some ({ time := signed (sign.getD false) count }, rest)
    | .ordinal count :: .measure measure :: rest => some (.of count measure, rest)
    | .measure measure :: rest => some (.of 1 measure, rest)
    | .away days :: rest => some ({ days }, rest)
    | _ => none
  found.map fun (shift, rest) =>
    match rest with
    | .ago :: rest =>
        ({ reading with shift := some (((reading.shift.getD {}).add shift).back) }, rest)
    | .hence :: rest => (reading.shifted shift, rest)
    | rest => (reading.shifted shift, rest)

def bare? (reading : Reading) (value digits : Nat) : Option Reading :=
  match reading.date with
  | some (none, month, day) =>
      if reading.shift.isNone && (reading.clock.isSome || 2 < digits) then
        some { reading with date := some (some (yearOf value digits), month, day) }
      else clock
  | _ => clock
where
  clock : Option Reading :=
    if 4 < digits then
      reading.withDate (some (yearOf (value / 10000) (digits - 4))) (value / 100 % 100) (value % 100)
    else
      let (hour, minute) := if digits ≤ 2 then (value, 0) else (value / 100, value % 100)
      if hour < 24 && minute < 60 then reading.withClock ((hour * 3600 + minute * 60) * second)
      else none

def items? : Nat → Reading → List Token → Option Reading
  | 0, _, _ => none
  | _ + 1, reading, [] => some reading
  | fuel + 1, reading, tokens =>
      match clock? reading tokens, shift? reading tokens, date? reading tokens with
      | some (reading, rest), _, _ => items? fuel reading rest
      | none, some (reading, rest), _ => items? fuel reading rest
      | none, none, some (reading, rest) => items? fuel reading rest
      | none, none, none =>
          match tokens with
          | .timeMark :: .number none hour digits :: rest =>
              match clock? reading (.number none hour digits :: rest) with
              | some (reading, rest) => items? fuel reading rest
              | none =>
                  match rest with
                  | .number (some _) _ _ :: _ =>
                      (clockBehind reading hour 0 0 rest).bind fun (reading, rest) =>
                        items? fuel reading rest
                  | _ => none
          | .zone minutes :: .summer :: rest =>
              (reading.withZone (minutes + 60)).bind fun reading => items? fuel reading rest
          | .zone minutes :: .number (some negative) value digits :: .measure measure :: rest =>
              (reading.withZone minutes).bind fun reading =>
                items? fuel reading (.number (some negative) value digits :: .measure measure :: rest)
          | .zone minutes :: .number (some negative) value digits :: rest =>
              (reading.withZone (minutes + offset negative value digits none)).bind fun reading =>
                items? fuel reading rest
          | .zone minutes :: rest =>
              (reading.withZone minutes).bind fun reading => items? fuel reading rest
          | .ordinal count :: .weekday day :: rest => weekday fuel reading count day rest
          | .number none count _ :: .weekday day :: rest => weekday fuel reading count day rest
          | .weekday day :: .sign ',' :: rest => weekday fuel reading 0 day rest
          | .weekday day :: rest => weekday fuel reading 0 day rest
          | .number none value digits :: rest =>
              (bare? reading value digits).bind fun reading => items? fuel reading rest
          | _ => none
termination_by fuel => (fuel, 0)
where
  weekday (fuel : Nat) (reading : Reading) (count : Int) (day : Nat) (rest : List Token) :
      Option Reading :=
    if reading.weekday.isSome then none
    else items? fuel { reading with weekday := some (count, day) } rest
  termination_by (fuel, 1)

def Reading.moment? (reading : Reading) (now : Int) (ahead : Int) : Option Int :=
  let day : Int := 86400 * second
  let here := now + ahead * second
  let today := Int.fdiv here day
  let (year, month, dayOfMonth) := dateOf today
  let clock : Int :=
    match reading.clock with
    | some clock => clock
    | none =>
        if reading.shift.isSome && reading.date.isNone && reading.weekday.isNone then
          here - today * day
        else 0
  let (year, month, dayOfMonth) :=
    match reading.date with
    | some (told, month, dayOfMonth) => (told.getD year, month, dayOfMonth)
    | none => (year, month, dayOfMonth)
  if !isDate year month dayOfMonth then none
  else
    let start := daysFrom year month dayOfMonth
    let (year, month, dayOfMonth) :=
      match reading.weekday, reading.date with
      | some (count, wanted), none =>
          let current := weekdayOf start
          let skipped := count - (if 0 < count && current != wanted then 1 else 0)
          dateOf (start + ((wanted + 7 - current) % 7 : Nat) + 7 * skipped)
      | _, _ => (year, month, dayOfMonth)
    let shift := reading.shift.getD {}
    let days := daysFrom (year + shift.years) ((month : Int) + shift.months)
      ((dayOfMonth : Int) + shift.days)
    let zone := (reading.zone.map (· * 60)).getD ahead
    some (days * day + clock + shift.time - zone * second)

def ofText? (now ahead : Int) (text : Octets) : Option Int :=
  match text.dropWhile isBlank with
  | '@' :: rest =>
      match rest with
      | '-' :: rest => (seconds? rest).map fun time => -(time : Int)
      | rest => (seconds? rest).map fun time => (time : Int)
  | text =>
      (tokens? (text.length + 1) text).bind fun tokens =>
        (items? (tokens.length + 1) {} tokens).bind fun reading => reading.moment? now ahead

end ArtifactPipeline.Tools.Moment
