import ArtifactPipeline.Host.Tools.Files

set_option autoImplicit false

namespace ArtifactPipeline.Tools

open Text (Octets)

structure RangeReading where
  value : Nat := 0
  first : Nat := 1
  dash : Bool := false
  left : Bool := false
  right : Bool := false
  digits : Octets := []

inductive RangeKind where
  | fields
  | positions
  deriving DecidableEq, Repr

namespace RangeKind

def fromOne : RangeKind → String
  | .fields => "fields are numbered from 1"
  | .positions => "byte/character positions are numbered from 1"

def twoDashes : RangeKind → String
  | .fields => "invalid field range"
  | .positions => "invalid byte or character range"

def tooLarge (kind : RangeKind) (digits : Octets) : String :=
  match kind with
  | .fields => "field number " ++ inQuotes digits ++ " is too large"
  | .positions => "byte/character offset " ++ inQuotes digits ++ " is too large"

def stray (kind : RangeKind) (text : Octets) : String :=
  match kind with
  | .fields => "invalid field value " ++ inQuotes text
  | .positions => "invalid byte/character position " ++ inQuotes text

end RangeKind

def RangeReading.range (reading : RangeReading) (kind : RangeKind) :
    Except String (Nat × Option Nat) :=
  if reading.dash then
    if !reading.left && !reading.right then .error "invalid range with no endpoint: -"
    else if !reading.right then .ok (reading.first, none)
    else if reading.value < reading.first then .error "invalid decreasing range"
    else .ok (reading.first, some reading.value)
  else if reading.value = 0 then .error kind.fromOne
  else .ok (reading.value, some reading.value)

def rangesFrom (kind : RangeKind) :
    RangeReading → Octets → Except String (List (Nat × Option Nat))
  | reading, [] => (reading.range kind).map fun range => [range]
  | reading, c :: rest =>
      if c == '-' then
        if reading.dash then .error kind.twoDashes
        else if reading.left && reading.value = 0 then .error kind.fromOne
        else rangesFrom kind { reading with
          dash := true
          first := if reading.left then reading.value else 1
          value := 0
          digits := [] } rest
      else if c == ',' || c == ' ' || c == '\t' then
        match reading.range kind, rangesFrom kind {} rest with
        | .ok range, .ok ranges => .ok (range :: ranges)
        | .error message, _ => .error message
        | _, .error message => .error message
      else if c.isDigit then
        let value := 10 * reading.value + (c.toNat - '0'.toNat)
        let digits := reading.digits ++ [c]
        if 18446744073709551615 ≤ value then
          .error (kind.tooLarge (digits ++ rest.takeWhile Char.isDigit))
        else if reading.dash then rangesFrom kind { reading with value, digits, right := true } rest
        else rangesFrom kind { reading with value, digits, left := true } rest
      else .error (kind.stray (c :: rest))

def joinedRanges (ranges : List (Nat × Option Nat)) : List (Nat × Option Nat) :=
  ((ranges.mergeSort fun a b => a.1 ≤ b.1).foldl (fun joined range =>
    match joined with
    | (first, none) :: _ => if range.1 < first then range :: joined else joined
    | (first, some last) :: rest =>
        if range.1 ≤ last then (first, range.2.map fun other => max other last) :: rest
        else range :: joined
    | [] => [range]) []).reverse

def otherRanges (from' : Nat) : List (Nat × Option Nat) → List (Nat × Option Nat)
  | [] => [(from', none)]
  | (first, last) :: rest =>
      let before := if from' < first then [(from', some (first - 1))] else []
      match last with
      | some last => before ++ otherRanges (max from' (last + 1)) rest
      | none => before

def inRange (position : Nat) (range : Nat × Option Nat) : Bool :=
  range.1 ≤ position && (match range.2 with
    | some last => position ≤ last
    | none => true)

def cutBytes (ranges : List (Nat × Option Nat)) (joint : Octets) (line : Octets) : Octets :=
  (ranges.foldl (fun (shown, started) range =>
    let part := (line.zipIdx 1).filterMap fun (c, position) =>
      if inRange position range then some c else none
    if part.isEmpty then (shown, started)
    else (shown ++ (if started then joint else []) ++ part, true)) (([] : Octets), false)).1

def cutFields (ranges : List (Nat × Option Nat)) (mark : Char) (joint : Octets) (line : Octets) :
    Octets :=
  Text.joinWith joint (((Text.splitOn mark line).zipIdx 1).filterMap fun (field, position) =>
    if ranges.any (inRange position) then some field else none)

def cut : Tool :=
  withOptions {
    flags := "nszκ"
    valued := "bcdfο"
    long := [("bytes", 'b'), ("characters", 'c'), ("delimiter", 'd'), ("fields", 'f'),
      ("only-delimited", 's'), ("complement", 'κ'), ("output-delimiter", 'ο'),
      ("zero-terminated", 'z')] } 1
    fun call given => do
      let lists := given.options.filter fun option =>
        option.1 == 'b' || option.1 == 'c' || option.1 == 'f'
      let delimiter := (given.value? 'd').getD ['\t']
      match lists with
      | [] => misuse call.name "you must specify a list of bytes, characters, or fields" 1
      | _ :: _ :: _ => misuse call.name "only one list may be specified" 1
      | [(letter, text)] =>
          let byFields := letter == 'f'
          if (given.values 'd').any fun delimiter => 1 < delimiter.length then
            misuse call.name "the delimiter must be a single character" 1
          else if !byFields && (given.value? 'd').isSome then
            misuse call.name
              "an input delimiter may be specified only when operating on fields" 1
          else if !byFields && given.has 's' then
            misuse call.name
              "suppressing non-delimited lines makes sense\n\tonly when operating on fields" 1
          else
            match rangesFrom (if byFields then .fields else .positions) {} text with
            | .error message => misuse call.name message 1
            | .ok ranges =>
                let ranges := joinedRanges ranges
                let ranges := if given.has 'κ' then otherRanges 1 ranges else ranges
                let mark := delimiter.headD (Char.ofNat 0)
                let ending := if given.has 'z' then Char.ofNat 0 else '\n'
                let one (line : Octets) : Option Octets :=
                  if byFields then
                    if line.contains mark then
                      some (cutFields ranges mark ((given.value? 'ο').getD [mark]) line)
                    else if given.has 's' then none
                    else some line
                  else some (cutBytes ranges ((given.value? 'ο').getD []) line)
                eachFile call given.operands fun content =>
                  let lines := Text.splitOn ending content
                  let lines := if lines.getLast? = some [] then lines.dropLast else lines
                  (lines.filterMap one).flatMap fun line => line ++ [ending]

def separatorList? : Octets → Option (List Octets)
  | [] => some []
  | ['\\'] => none
  | '\\' :: c :: rest =>
      let shown : Octets := match c with
        | '0' => []
        | 'b' => ['\x08']
        | 'f' => ['\x0c']
        | 'n' => ['\n']
        | 'r' => ['\r']
        | 't' => ['\t']
        | 'v' => ['\x0b']
        | c => [c]
      (separatorList? rest).map (shown :: ·)
  | c :: rest => (separatorList? rest).map ([c] :: ·)

def joinInTurn (separators : List Octets) : Nat → List Octets → Octets
  | _, [] => []
  | _, [item] => item
  | turn, item :: rest =>
      item ++ (separators[turn % max separators.length 1]?).getD [] ++
        joinInTurn separators (turn + 1) rest

def rows (columns : List (List Octets)) : List (List Octets) :=
  let height := (columns.map List.length).foldl max 0
  (List.range height).map fun index => columns.map fun column => column[index]?.getD []

def everyNth (count turn : Nat) (items : List Octets) : List Octets :=
  (items.zipIdx).filterMap fun (item, index) => if index % count = turn then some item else none

def paste : Tool :=
  withOptions {
    flags := "sz"
    valued := "d"
    long := [("delimiters", 'd'), ("serial", 's'), ("zero-terminated", 'z')] } 1
    fun call given => do
      let written := (given.value? 'd').getD ['\t']
      let ending := if given.has 'z' then Char.ofNat 0 else '\n'
      let linesIn (content : Octets) : List Octets :=
        let lines := Text.splitOn ending content
        if lines.getLast? = some [] then lines.dropLast else lines
      match separatorList? written with
      | none =>
          refuse call.name ("delimiter list ends with an unescaped backslash: " ++
            String.ofList written)
      | some separators =>
          let paths := if given.operands.isEmpty then [['-']] else given.operands
          if given.has 's' then
            eachOperand paths fun path => do
              match ← contentOf path with
              | .ok content =>
                  finish call (joinInTurn separators 0 (linesIn content) ++ [ending]) 0
              | .error fault => do
                  complainAbout call path fault
                  finish call (if fault = .isDirectory then [ending] else []) 1
          else do
            let dashes := paths.count ['-']
            let input ← if dashes = 0 then pure [] else do
              pure (linesIn ((← Chore.readAll 0).toOption.getD []))
            columns call paths linesIn input dashes 0 [] fun columns => do
              let table := rows (columns.map (·.1))
              let shown := table.flatMap fun row => joinInTurn separators 0 row ++ [ending]
              -- A directory is found out to be none of a file in the first row.
              let faults := columns.zipIdx.filterMap fun ((_, fault), index) =>
                fault.map fun (path, fault) =>
                  ((joinInTurn separators 0 (((table.headD []).take (index + 1)))).length,
                    path, fault)
              report call shown 0 0 faults
where
  report (call : Call) (text : Octets) (start status : Nat) :
      List (Nat × Octets × HostFault) → Chore Nat
    | [] => finish call (text.drop start) status
    | (place, path, fault) :: rest => do
        let _ ← finish call ((text.take place).drop start) 0
        complainAbout call path fault
        report call text place 1 rest
  columns (call : Call) (paths : List Octets) (linesIn : Octets → List Octets) (input : List Octets)
      (dashes turn : Nat) (read : List (List Octets × Option (Octets × HostFault)))
      (next : List (List Octets × Option (Octets × HostFault)) → Chore Nat) : Chore Nat :=
    match paths with
    | [] => next read.reverse
    | path :: rest => do
        if path = ['-'] then
          columns call rest linesIn input dashes (turn + 1)
            ((everyNth dashes turn input, none) :: read) next
        else
          match ← Chore.readFile path with
          | .error .isDirectory =>
              columns call rest linesIn input dashes turn
                (([], some (path, .isDirectory)) :: read) next
          | .error fault => do
              complainAbout call path fault
              return 1
          | .ok content =>
              columns call rest linesIn input dashes turn ((linesIn content, none) :: read) next

def columnAfter (bytes : Bool) (column : Nat) (c : Char) : Nat :=
  if bytes then column + 1
  else if c == '\x08' then column - 1
  else if c == '\r' then 0
  else if c == '\t' then column + (8 - column % 8)
  else column + 1

structure Folding where
  width : Nat
  bytes : Bool := false
  atBlanks : Bool := false

def Folding.columnOf (folding : Folding) (text : Octets) : Nat :=
  text.foldl (columnAfter folding.bytes) 0

def Folding.add (folding : Folding) : Nat → Octets → Char → Octets × Octets
  | 0, held, c => ([], c :: held)
  | fuel + 1, held, c =>
      if columnAfter folding.bytes (folding.columnOf held.reverse) c ≤ folding.width then
        ([], c :: held)
      else
        let after := held.takeWhile fun c => c != ' ' && c != '\t'
        if folding.atBlanks && after.length < held.length then
          let (more, held') := folding.add fuel after c
          ((held.drop after.length).reverse ++ '\n' :: more, held')
        else if held.isEmpty then ([], [c])
        else
          let (more, held') := folding.add fuel [] c
          (held.reverse ++ '\n' :: more, held')

def Folding.apply (folding : Folding) (text : Octets) : Octets :=
  let (shown, held) := text.foldl (fun (shown, held) c =>
    if c == '\n' then ('\n' :: held ++ shown, [])
    else
      let (more, held) := folding.add (held.length + 2) held c
      (more.reverse ++ shown, held)) (([] : Octets), ([] : Octets))
  (held ++ shown).reverse

def withOldWidth (letter : Char) (args : List Octets) : List Octets :=
  args.map fun arg =>
    match arg with
    | '-' :: c :: rest =>
        if c.isDigit && rest.all fun c => c.isDigit || c == ',' then '-' :: letter :: c :: rest
        else arg
    | arg => arg

def fold : Tool := fun call =>
  withOptions {
    flags := "bs"
    valued := "w"
    long := [("bytes", 'b'), ("spaces", 's'), ("width", 'w')] } 1
    (fun call given =>
      match (given.values 'w').mapM width with
      | .error message => refuse call.name ("invalid number of columns: " ++ message)
      | .ok widths =>
          let folding : Folding :=
            { width := widths.getLastD 80, bytes := given.has 'b', atBlanks := given.has 's' }
          eachFile call given.operands folding.apply)
    { call with args := withOldWidth 'w' call.args }
where
  width (text : Octets) : Except String Nat :=
    match number? text with
    | some 0 => .error (inQuotes text ++ ": Numerical result out of range")
    | some width => .ok width
    | none => .error (inQuotes text)

/-- Where tabs lead to: the stops of a list, and behind them every few columns, counted from the
start of the line or from the last stop. -/
structure TabStops where
  stops : List Nat := []
  every : Nat := 0
  fromLast : Bool := false

namespace TabStops

def next? (tabs : TabStops) (column : Nat) : Option Nat :=
  match tabs.stops.find? fun stop => column < stop with
  | some stop => some stop
  | none =>
      if tabs.every = 0 then none
      else
        let base := if tabs.fromLast then tabs.stops.getLastD 0 else 0
        some (column + (tabs.every - (column - base) % tabs.every))

/-- Lists of sizes that are being read: the stops, and the distances behind them that were asked
for with a slash or with a plus sign. -/
structure Reading where
  stops : List Nat := []
  slash : Option Nat := none
  plus : Option Nat := none

def Reading.add (reading : Reading) (sign : Option Char) (size : Nat) : Except String Reading :=
  match sign with
  | some '/' =>
      if (reading.slash.getD 0) != 0 then .error "'/' specifier only allowed with the last value"
      else .ok { reading with slash := some size }
  | some _ =>
      if (reading.plus.getD 0) != 0 then .error "'+' specifier only allowed with the last value"
      else .ok { reading with plus := some size }
  | none => .ok { reading with stops := reading.stops ++ [size] }

def Reading.read (reading : Reading) (sign : Option Char) (size : Option Nat) :
    Octets → Except String Reading
  | [] =>
      match size with
      | some size => reading.add sign size
      | none => .ok reading
  | c :: rest =>
      if c == ',' || c == ' ' || c == '\t' then
        match size with
        | some size => (reading.add sign size).bind fun reading => reading.read sign none rest
        | none => reading.read sign none rest
      else if c == '/' || c == '+' then
        if size.isSome then
          .error ("'" ++ c.toString ++ "' specifier not at start of number: " ++
            inQuotes (c :: rest))
        else reading.read (some c) none rest
      else if c.isDigit then
        reading.read sign (some (10 * size.getD 0 + (c.toNat - '0'.toNat))) rest
      else .error ("tab size contains invalid character(s): " ++ inQuotes (c :: rest))

def Reading.tabs (reading : Reading) : Except String TabStops :=
  let stops := reading.stops
  if stops.contains 0 then .error "tab size cannot be 0"
  else if (stops.zip (stops.drop 1)).any fun (a, b) => b ≤ a then
    .error "tab sizes must be ascending"
  else
    match reading.slash.getD 0, reading.plus.getD 0, stops with
    | 0, 0, [] => .ok { every := 8 }
    | 0, 0, [size] => .ok { every := size }
    | 0, every, _ => .ok { stops, every, fromLast := true }
    | every, 0, _ => .ok { stops, every }
    | _, _, _ => .error "'/' specifier is mutually exclusive with '+'"

def ofTexts (texts : List Octets) : Except String TabStops := do
  let reading ← texts.foldlM (fun reading text => Reading.read reading none none text) {}
  reading.tabs

end TabStops

structure Tabbing where
  column : Nat := 0
  active : Bool := true
  shown : Octets := []

def Tabbing.expandChar (tabs : TabStops) (leadingOnly : Bool) (tabbing : Tabbing) (c : Char) :
    Tabbing :=
  if c == '\n' then { shown := '\n' :: tabbing.shown }
  else if !tabbing.active then { tabbing with shown := c :: tabbing.shown }
  else
    let active := !leadingOnly || c == ' ' || c == '\t'
    if c == '\t' then
      let next := (tabs.next? tabbing.column).getD (tabbing.column + 1)
      { column := next, active,
        shown := List.replicate (next - tabbing.column) ' ' ++ tabbing.shown }
    else if c == '\x08' then
      { column := tabbing.column - 1, active, shown := c :: tabbing.shown }
    else { column := tabbing.column + 1, active, shown := c :: tabbing.shown }

def tabTool (flags : String) (long : List (String × Char)) (oldLast : Bool)
    (run : Call → Given → TabStops → Chore Nat) : Tool := fun call =>
  withOptions { flags, valued := "tω", long := ("tabs", 't') :: long } 1
    (fun call given =>
      let lists := given.options.filter fun option => option.1 == 't' || option.1 == 'ω'
      let early := lists.flatMap fun (letter, list) =>
        if letter == 'ω' && oldLast then (Text.splitOn ',' list).dropLast else [list]
      let late := if oldLast then (given.values 'ω').filterMap fun list =>
          (Text.splitOn ',' list).getLast?
        else []
      match TabStops.ofTexts (early ++ late) with
      | .error message => refuse call.name message
      | .ok tabs => run call given tabs)
    { call with args := withOldWidth 'ω' call.args }

def expand : Tool :=
  tabTool "i" [("initial", 'i')] false fun call given tabs =>
    streamFiles call given.operands ({} : Tabbing) (fun tabbing _ content =>
      let tabbing := content.foldl (Tabbing.expandChar tabs (given.has 'i')) tabbing
      ({ tabbing with shown := [] }, tabbing.shown.reverse)) fun _ => []

structure Unexpanding where
  column : Nat := 0
  active : Bool := true
  pending : Octets := []
  beforeStop : Bool := false
  afterBlank : Bool := true
  shown : Octets := []

namespace Unexpanding

def flush (state : Unexpanding) : Unexpanding :=
  if state.pending.isEmpty then state
  else
    let blanks := state.pending.reverse
    let blanks := if 1 < blanks.length && state.beforeStop then '\t' :: blanks.drop 1 else blanks
    { state with shown := blanks.reverse ++ state.shown, pending := [], beforeStop := false }

def put (state : Unexpanding) (c : Char) : Unexpanding :=
  if c == '\n' then { shown := c :: state.shown } else { state with shown := c :: state.shown }

def settle (state : Unexpanding) (whole blank : Bool) (c : Char) : Unexpanding :=
  let state := state.flush
  { state with afterBlank := blank, active := state.active && (whole || blank) }.put c

def step (tabs : TabStops) (whole : Bool) (state : Unexpanding) (c : Char) : Unexpanding :=
  if !state.active then state.put c
  else if c == ' ' || c == '\t' then
    match tabs.next? state.column with
    | none => { state with active := false }.settle whole true c
    | some next =>
        let keep := fun (pending : Octets) =>
          if state.beforeStop then pending.drop (pending.length - 1) else []
        if c == '\t' then
          let pending := if state.pending.isEmpty then [] else state.pending.dropLast ++ ['\t']
          { state with column := next, pending := keep pending }.settle whole true '\t'
        else
          let column := state.column + 1
          if state.afterBlank && column = next then
            let pending := if state.pending.isEmpty then [] else state.pending.dropLast ++ ['\t']
            { state with column, pending := keep pending }.settle whole true '\t'
          else
            { state with
              column
              beforeStop := state.beforeStop || column = next
              pending := c :: state.pending
              afterBlank := true }
  else if c == '\x08' then { state with column := state.column - 1 }.settle whole false c
  else { state with column := state.column + 1 }.settle whole false c

end Unexpanding

def unexpand : Tool :=
  tabTool "aφ" [("all", 'a'), ("first-only", 'φ')] true fun call given tabs =>
    let whole := (given.has 'a' || given.has 't' || given.has 'ω') && !given.has 'φ'
    streamFiles call given.operands ({} : Unexpanding) (fun state _ content =>
      let state := content.foldl (Unexpanding.step tabs whole) state
      ({ state with shown := [] }, state.shown.reverse)) fun state => state.flush.shown.reverse

end ArtifactPipeline.Tools
