import ArtifactPipeline.Host.Tools.Date
import ArtifactPipeline.Host.Tools.Printing
import ArtifactPipeline.Text.Version

set_option autoImplicit false

namespace ArtifactPipeline.Tools

open Text (Octets)

def isBefore : Octets → Octets → Ordering
  | [], [] => .eq
  | [], _ :: _ => .lt
  | _ :: _, [] => .gt
  | a :: as, b :: bs => if a < b then .lt else if b < a then .gt else isBefore as bs

def linesBy (mark : Char) (text : Octets) : List Octets :=
  match text with
  | [] => []
  | text =>
      let parts := Text.splitOn mark text
      if parts.getLast? = some [] then parts.dropLast else parts

def unlinesBy (mark : Char) (lines : List Octets) : Octets :=
  lines.flatMap fun line => line ++ [mark]

namespace LineOrder

structure Key where
  startField : Nat := 0
  startChar : Nat := 0
  stop : Option (Nat × Nat) := none
  skipsStartBlanks : Bool := false
  skipsStopBlanks : Bool := false
  options : List Char := []

def keyLetters : List Char :=
  "bdfgiMhnRrV".toList

def count (text : Octets) : Option (Nat × Octets) :=
  let digits := text.takeWhile Char.isDigit
  (number? digits).map fun n => (n, text.drop digits.length)

def letters (text : Octets) : List Char × Octets :=
  let found := text.takeWhile fun c => keyLetters.contains c
  (found, text.drop found.length)

def key (text : Octets) : Except String Key :=
  let invalid (what : String) : Except String Key :=
    .error (what ++ ": invalid field specification " ++ inQuotes text)
  let badCount (rest : Octets) : Except String Key :=
    .error ("invalid number at field start: invalid count at start of " ++ inQuotes rest)
  match count text with
  | none => badCount text
  | some (0, _) => invalid "field number is zero"
  | some (field + 1, rest) =>
      let char? : Except String (Nat × Octets) :=
        match rest with
        | '.' :: digits =>
            match count digits with
            | none => .error ("invalid number after '.': invalid count at start of " ++ inQuotes digits)
            | some (0, _) =>
                .error ("character offset is zero: invalid field specification " ++ inQuotes text)
            | some (char + 1, rest) => .ok (char, rest)
        | rest => .ok (0, rest)
      match char? with
      | .error message => .error message
      | .ok (char, rest) =>
          let (start, rest) := letters rest
          match rest with
          | [] =>
              .ok { startField := field, startChar := char, options := start,
                    skipsStartBlanks := start.contains 'b' }
          | ',' :: rest =>
              match count rest with
              | none =>
                  .error ("invalid number after ',': invalid count at start of " ++ inQuotes rest)
              | some (0, _) => invalid "field number is zero"
              | some (stop + 1, rest) =>
                  let size? : Except String (Nat × Octets) :=
                    match rest with
                    | '.' :: digits =>
                        match count digits with
                        | none =>
                            .error ("invalid number after '.': invalid count at start of " ++
                              inQuotes digits)
                        | some (size, rest) => .ok (size, rest)
                    | rest => .ok (0, rest)
                  match size? with
                  | .error message => .error message
                  | .ok (size, rest) =>
                      let (ending, rest) := letters rest
                      if rest.isEmpty then
                        .ok { startField := field, startChar := char, stop := some (stop, size),
                              options := start ++ ending, skipsStartBlanks := start.contains 'b',
                              skipsStopBlanks := ending.contains 'b' }
                      else invalid "stray character in field spec"
          | _ => invalid "stray character in field spec"

def isBlank (c : Char) : Bool :=
  c == ' ' || c == '\t' || c == '\n'

def behindFields (separator : Option Char) : Nat → Octets → Octets
  | 0, text => text
  | fields + 1, text =>
      match separator with
      | some mark => behindFields separator fields ((text.dropWhile fun c => c != mark).drop 1)
      | none =>
          behindFields separator fields
            ((text.dropWhile isBlank).dropWhile fun c => !isBlank c)

def Key.text (separator : Option Char) (key : Key) (line : Octets) : Octets :=
  let skip (blanks : Bool) (text : Octets) : Octets :=
    if blanks then text.dropWhile isBlank else text
  let start := (skip key.skipsStartBlanks (behindFields separator key.startField line)).drop
    key.startChar
  let rest :=
    match key.stop with
    | none => []
    | some (field, 0) =>
        let before := behindFields separator field line
        match separator with
        | some mark => before.dropWhile fun c => c != mark
        | none => (before.dropWhile isBlank).dropWhile fun c => !isBlank c
    | some (field, size) =>
        (skip key.skipsStopBlanks (behindFields separator field line)).drop size
  start.take (start.length - rest.length)

def plainNumber (text : Octets) : Bool × Octets × Octets × Octets :=
  let body := text.dropWhile isBlank
  let (negative, body) :=
    match body with
    | '-' :: rest => (true, rest)
    | rest => (false, rest)
  let whole := body.takeWhile Char.isDigit
  let (places, rest) :=
    match body.drop whole.length with
    | '.' :: rest =>
        let places := rest.takeWhile Char.isDigit
        (places, rest.drop places.length)
    | rest => ([], rest)
  let whole := whole.dropWhile (· == '0')
  let places := (places.reverse.dropWhile (· == '0')).reverse
  (negative && !(whole.isEmpty && places.isEmpty), whole, places, rest)

def compareMagnitudes (a b : Octets × Octets) : Ordering :=
  match compare a.1.length b.1.length with
  | .eq =>
      match isBefore a.1 b.1 with
      | .eq => isBefore a.2 b.2
      | order => order
  | order => order

def comparePlain (a b : Octets) : Ordering :=
  let (minusA, wholeA, placesA, _) := plainNumber a
  let (minusB, wholeB, placesB, _) := plainNumber b
  match minusA, minusB with
  | true, false => .lt
  | false, true => .gt
  | false, false => compareMagnitudes (wholeA, placesA) (wholeB, placesB)
  | true, true => compareMagnitudes (wholeB, placesB) (wholeA, placesA)

def letterPower (text : Octets) : Int :=
  let (negative, whole, places, rest) := plainNumber text
  let power : Int :=
    match rest with
    | c :: _ => (("KMGTPEZYRQ".toList.findIdx? (· == c)).map fun n => (n : Int) + 1).getD
        (if c == 'k' then 1 else 0)
    | [] => 0
  if whole.isEmpty && places.isEmpty then 0 else if negative then -power else power

def compareScaled (a b : Octets) : Ordering :=
  match compare (letterPower a) (letterPower b) with
  | .eq => comparePlain a b
  | order => order

inductive General where
  | none
  | undefined
  | infinite (negative : Bool)
  | finite (digits : Int) (exponent : Int)

def exponentBound : Int := 6000

def general (text : Octets) : General :=
  let body := text.dropWhile isBlank
  let (negative, body) :=
    match body with
    | '-' :: rest => (true, rest)
    | '+' :: rest => (false, rest)
    | rest => (false, rest)
  let lower := body.map Char.toLower
  if "inf".toList.isPrefixOf lower then .infinite negative
  else if "nan".toList.isPrefixOf lower then .undefined
  else if "0x".toList.isPrefixOf lower && ((lower.drop 2).head?.bind Text.hexValue?).isSome then
    let digits := (lower.drop 2).takeWhile fun c => (Text.hexValue? c).isSome
    let value := digits.foldl (fun (n : Int) c => 16 * n + ((Text.hexValue? c).getD 0 : Nat)) 0
    .finite (if negative then -value else value) 0
  else
    let whole := body.takeWhile Char.isDigit
    let (places, rest) :=
      match body.drop whole.length with
      | '.' :: rest =>
          let places := rest.takeWhile Char.isDigit
          (places, rest.drop places.length)
      | rest => ([], rest)
    match number? (whole ++ places) with
    | Option.none => .none
    | some value =>
        let exponent : Int :=
          match rest with
          | e :: rest =>
              if e == 'e' || e == 'E' then
                let (minus, digits) :=
                  match rest with
                  | '-' :: rest => (true, rest)
                  | '+' :: rest => (false, rest)
                  | rest => (false, rest)
                let power : Int := ((number? (digits.takeWhile Char.isDigit)).getD 0 : Nat)
                min exponentBound (max (-exponentBound) (if minus then -power else power))
              else 0
          | [] => 0
        .finite (if negative then -value else value) (exponent - places.length)

def General.order : General → Nat
  | .none => 0
  | .undefined => 1
  | .infinite true => 2
  | .finite _ _ => 3
  | .infinite false => 4

def compareGeneral (a b : Octets) : Ordering :=
  match general a, general b with
  | .finite m e, .finite n f =>
      let least := min e f
      let scaled (value exponent : Int) : Int := value * (Nat.pow 10 (exponent - least).toNat : Nat)
      compare (scaled m e) (scaled n f)
  | x, y => compare x.order y.order

def monthOf (text : Octets) : Nat :=
  let lead := ((text.dropWhile isBlank).take 3).map Char.toLower
  ((Moment.months.findIdx? fun name => (name.toList.take 3).map Char.toLower = lead).map (· + 1)).getD 0

def isDictionary (c : Char) : Bool :=
  c.isAlphanum || isBlank c

def prepared (options : List Char) (text : Octets) : Octets :=
  let text := if options.contains 'd' then text.filter isDictionary else text
  let text := if options.contains 'i' then
    text.filter fun c => 32 ≤ c.toNat && c.toNat < 127 else text
  if options.contains 'f' then text.map Char.toUpper else text

def compareBy (options : List Char) (a b : Octets) : Ordering :=
  let order :=
    if options.contains 'n' then comparePlain a b
    else if options.contains 'g' then compareGeneral a b
    else if options.contains 'h' then compareScaled a b
    else if options.contains 'M' then compare (monthOf a) (monthOf b)
    else if options.contains 'V' then
      Text.Version.compareNames (prepared options a) (prepared options b)
    else isBefore (prepared options a) (prepared options b)
  if options.contains 'r' then order.swap else order

def compareKeys (separator : Option Char) : List Key → Octets → Octets → Ordering
  | [], _, _ => .eq
  | key :: rest, a, b =>
      match compareBy key.options (key.text separator a) (key.text separator b) with
      | .eq => compareKeys separator rest a b
      | order => order

structure Plan where
  keys : List Key := []
  separator : Option Char := none
  reverse : Bool := false
  stable : Bool := false
  unique : Bool := false
  mark : Char := '\n'

def Plan.compare (plan : Plan) (a b : Octets) : Ordering :=
  match compareKeys plan.separator plan.keys a b with
  | .eq =>
      if (plan.stable || plan.unique) && !plan.keys.isEmpty then .eq
      else
        let order := isBefore a b
        if plan.reverse then order.swap else order
  | order => order

def distinct (same : Octets → Octets → Bool) : List Octets → List Octets
  | [] => []
  | first :: rest => first :: go first rest
where
  go (last : Octets) : List Octets → List Octets
    | [] => []
    | line :: rest => if same last line then go last rest else line :: go line rest

def firstDisorder (ordered : Octets → Octets → Bool) : Nat → List Octets → Option (Nat × Octets)
  | place, first :: second :: rest =>
      if ordered first second then firstDisorder ordered (place + 1) (second :: rest)
      else some (place + 1, second)
  | _, _ => none

def mergeAll (before : Octets → Octets → Bool) : Nat → List (List Octets) → List Octets
  | 0, _ => []
  | fuel + 1, lists =>
      let heads := (lists.zipIdx).filterMap fun (lines, index) =>
        lines.head?.map fun line => (line, index)
      match heads with
      | [] => []
      | first :: others =>
          let (line, index) := others.foldl (fun best candidate =>
            if before candidate.1 best.1 then candidate else best) first
          line :: mergeAll before fuel
            ((lists.zipIdx).map fun (lines, i) => if i = index then lines.drop 1 else lines)

def conflict (options : List Char) : Option (List Char) :=
  let ways := "ghMn".toList.filter options.contains
  let other := options.any fun c => c == 'V' || c == 'R' || c == 'd' || c == 'i'
  if 1 < ways.length + (if other then 1 else 0) then
    some ("dghiMnRV".toList.filter options.contains)
  else none

def separator? (text : Octets) : Except String Char :=
  match text with
  | [] => .error "empty tab"
  | [c] => .ok c
  | ['\\', '0'] => .ok (Char.ofNat 0)
  | text => .error ("multi-character tab " ++ inQuotes text)

def sortWords : List (String × Char) :=
  [("general-numeric", 'g'), ("human-numeric", 'h'), ("month", 'M'), ("numeric", 'n'),
    ("random", 'R'), ("version", 'V')]

def plan (given : Given) : Except String Plan := do
  let named ← (given.values 'ω').mapM fun text =>
    match sortWords.find? fun entry => text.isPrefixOf entry.1.toList with
    | some (_, letter) => .ok letter
    | none => .error ("invalid argument " ++ inQuotes text ++ " for '--sort'")
  let common := (keyLetters.filter given.has) ++ named
  let keys ← (given.values 'k').mapM key
  let inherit (key : Key) : Key :=
    if key.options.isEmpty then
      { key with options := common, skipsStartBlanks := common.contains 'b',
                 skipsStopBlanks := common.contains 'b' }
    else key
  let keys := keys.map inherit
  let whole := common.filter fun c => c != 'r'
  let keys := if keys.isEmpty && !whole.isEmpty then [inherit {}] else keys
  let separator ← (given.value? 't').mapM separator?
  match (keys.filterMap fun key => conflict key.options).head? with
  | some letters => .error ("options '-" ++ String.ofList letters ++ "' are incompatible")
  | none =>
      return { keys, separator, reverse := common.contains 'r', stable := given.has 's',
               unique := given.has 'u', mark := if given.has 'z' then Char.ofNat 0 else '\n' }

end LineOrder

open LineOrder in
def sortInputs (call : Call) : List Octets → List Octets → Chore (Option (List Octets))
  | [], read => pure (some read.reverse)
  | path :: rest, read => do
      match ← contentOf path with
      | .ok text => sortInputs call rest (text :: read)
      | .error fault => do
          let action := if fault = .isDirectory then "read failed: " else "cannot read: "
          complain call.name (action ++ quoteIfNeeded path ++ ": " ++ fault.message)
          return none

open LineOrder in
def sort : Tool :=
  withOptions {
    flags := "bcCdfghiMmnrRsuVzδ"
    valued := "koStTωπβφ"
    optional := "κ"
    long := [("numeric-sort", 'n'), ("reverse", 'r'), ("unique", 'u'), ("key", 'k'),
      ("field-separator", 't'), ("output", 'o'), ("check", 'κ'), ("stable", 's'),
      ("ignore-case", 'f'), ("ignore-leading-blanks", 'b'), ("merge", 'm'),
      ("dictionary-order", 'd'), ("general-numeric-sort", 'g'), ("human-numeric-sort", 'h'),
      ("ignore-nonprinting", 'i'), ("month-sort", 'M'), ("random-sort", 'R'), ("version-sort", 'V'),
      ("sort", 'ω'), ("zero-terminated", 'z'), ("buffer-size", 'S'), ("temporary-directory", 'T'),
      ("parallel", 'π'), ("batch-size", 'β'), ("files0-from", 'φ'), ("debug", 'δ')] } 2
    fun call given => do
      let quietCheck := given.has 'C' || (given.values 'κ').any fun text =>
        !text.isEmpty && (text.isPrefixOf "quiet".toList || text.isPrefixOf "silent".toList)
      let checks := given.has 'c' || given.has 'C' || given.has 'κ'
      let paths := if given.operands.isEmpty then [['-']] else given.operands
      match plan given with
      | .error message => do
          complain call.name message
          return 2
      | .ok plan =>
          if checks && 1 < paths.length then
            complain call.name
              ("extra operand " ++ inQuotes (paths[1]?.getD []) ++ " not allowed with -c")
            return 2
          else
            match ← sortInputs call paths [] with
            | none => return 2
            | some texts => do
                let lists := texts.map (linesBy plan.mark)
                let lines := lists.flatten
                if checks then
                  let ordered (a b : Octets) : Bool :=
                    if plan.unique then plan.compare a b == .lt else plan.compare a b != .gt
                  match firstDisorder ordered 1 lines with
                  | none => return 0
                  | some (place, line) => do
                      if !quietCheck then
                        complain call.name (Text.ofOctets (paths.headD []) ++ ":" ++
                          Nat.repr place ++ ": disorder: " ++ Text.ofOctets line)
                      return 1
                else
                  let sorted :=
                    if given.has 'm' then
                      mergeAll (fun a b => plan.compare a b == .lt) (lines.length + 1) lists
                    else lines.mergeSort fun a b => plan.compare a b != .gt
                  let sorted :=
                    if plan.unique then distinct (fun a b => plan.compare a b == .eq) sorted
                    else sorted
                  let output := unlinesBy plan.mark sorted
                  match given.value? 'o' with
                  | none => finish call output 0
                  | some path =>
                      match ← Chore.writeFile .writing path output with
                      | .ok () => return 0
                      | .error fault => do
                          complain call.name
                            ("open failed: " ++ quoteIfNeeded path ++ ": " ++ fault.message)
                          return 2

end ArtifactPipeline.Tools
