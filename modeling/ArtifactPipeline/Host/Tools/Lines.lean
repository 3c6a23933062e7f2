import ArtifactPipeline.Host.Regex.Reader
import ArtifactPipeline.Host.Tools.Files
import ArtifactPipeline.Host.Tools.Order
import ArtifactPipeline.Host.Tools.Sizes

set_option autoImplicit false

namespace ArtifactPipeline.Tools

open Text (Octets)

structure Portion where
  count : Nat
  bytes : Bool
  sign : Option Char
  mark : Char := '\n'

def portionCount? (text : Octets) : Option (Nat × Option Char) :=
  let sign := text.head?.filter fun c => c == '-' || c == '+'
  let body := if sign.isSome then text.drop 1 else text
  if (body.head?.map Char.isDigit).getD false then (byteCount? body).map fun n => (n, sign) else none

def portionOf (given : Given) (usual : Nat) : Except String Portion :=
  let chosen := given.options.filter fun option => option.1 == 'n' || option.1 == 'c'
  let mark := if given.has 'z' then Char.ofNat 0 else '\n'
  match chosen.getLast? with
  | none => .ok ⟨usual, false, none, mark⟩
  | some (letter, text) =>
      match portionCount? text with
      | some (count, sign) => .ok ⟨count, letter == 'c', sign, mark⟩
      | none =>
          .error ("invalid number of " ++ (if letter == 'c' then "bytes" else "lines") ++ ": " ++
            inQuotes text)

def splitLines (mark : Char) : Nat → Octets → Octets × Octets
  | 0, text => ([], text)
  | count + 1, text =>
      let line := text.takeWhile fun c => c != mark
      match text.drop line.length with
      | [] => (line, [])
      | c :: rest =>
          let (more, behind) := splitLines mark count rest
          (line ++ c :: more, behind)

def readLines (mark : Char) (descriptor : Nat) (count : Nat) : Nat → Octets → Chore Octets
  | 0, read => pure read
  | rounds + 1, read => do
      if count ≤ read.count mark then return read
      else
        match ← Chore.readUpTo descriptor 1024 with
        | .error _ | .ok [] => return read
        | .ok bytes => readLines mark descriptor count rounds (read ++ bytes)

def headOf (portion : Portion) (descriptor : Nat) : Chore (Except HostFault Octets) := do
  match portion.sign with
  | some '-' =>
      match ← Chore.readAll descriptor with
      | .error fault => return .error fault
      | .ok text =>
          if portion.bytes then return .ok (text.take (text.length - portion.count))
          else
            let lines := wholeLines portion.mark text
            return .ok (lines.take (lines.length - portion.count)).flatten
  | _ =>
      if portion.bytes then
        match ← takeBytes descriptor portion.count Chore.readLimit [] with
        | .ok text => return .ok text
        | .error fault => return .error fault
      else
        let start ← Chore.look fun scene => scene.place? descriptor
        match ← Chore.readUpTo descriptor 0 with
        | .error fault => return .error fault
        | .ok _ => do
            if portion.count = 0 then return .ok []
            else
              let text ← readLines portion.mark descriptor portion.count Chore.readLimit []
              let (taken, _) := splitLines portion.mark portion.count text
              if let some start := start then
                Chore.change fun scene => scene.seek descriptor (start + taken.length)
              return .ok taken
where
  takeBytes (descriptor : Nat) (count : Nat) :
      Nat → List Octets → Chore (Except HostFault Octets)
    | 0, read => pure (.ok read.reverse.flatten)
    | rounds + 1, read => do
        let had := (read.map List.length).foldl (· + ·) 0
        if count ≤ had then return .ok read.reverse.flatten
        else
          match ← Chore.readUpTo descriptor (count - had) with
          | .error fault => return .error fault
          | .ok [] => return .ok read.reverse.flatten
          | .ok bytes => takeBytes descriptor count rounds (bytes :: read)

def tailOf (portion : Portion) (descriptor : Nat) : Chore (Except HostFault Octets) := do
  match ← Chore.readAll descriptor with
  | .error fault => return .error fault
  | .ok text =>
      let fromStart := portion.sign == some '+'
      if portion.bytes then
        return .ok (text.drop (if fromStart then portion.count - 1 else text.length - portion.count))
      else
        let lines := wholeLines portion.mark text
        let skipped := if fromStart then portion.count - 1 else lines.length - portion.count
        return .ok (lines.drop skipped).flatten

def heading (first : Bool) (path : Octets) : Octets :=
  (if first then [] else ['\n']) ++ "==> ".toList ++
    (if path = ['-'] then "standard input".toList else path) ++ " <==\n".toList

def eachPart (call : Call) (given : Given) (part : Nat → Chore (Except HostFault Octets)) :
    Chore Nat :=
  let paths := if given.operands.isEmpty then [['-']] else given.operands
  let headed := given.has 'v' || (1 < paths.length && !given.has 'q')
  go headed paths true 0
where
  go (headed : Bool) : List Octets → Bool → Nat → Chore Nat
    | [], _, status => pure status
    | path :: rest, first, status => do
        let opened ← if path = ['-'] then pure (.ok 0) else Chore.openFile .reading path
        match opened with
        | .error fault => do
            complain call.name
              ("cannot open " ++ quote path ++ " for reading: " ++ fault.message)
            go headed rest first 1
        | .ok descriptor => do
            if headed then
              let _ ← Chore.write 1 (heading first path)
            let result ← part descriptor
            if descriptor != 0 then Chore.close descriptor
            match result with
            | .ok text => do
                let own ← finish call text 0
                go headed rest false (max status own)
            | .error fault => do
                complain call.name ("error reading " ++ quote path ++ ": " ++ fault.message)
                go headed rest false 1

def oldLetters (digits : Octets) (letters : Octets) : Except Char (List Octets) :=
  go digits false [] letters
where
  go (count : Octets) (bytes : Bool) (others : List Octets) : Octets → Except Char (List Octets)
    | [] => .ok ((if bytes then ['-', 'c'] else ['-', 'n']) :: count :: others)
    | 'c' :: rest => go count true others rest
    | 'l' :: rest => go count false others rest
    | c :: rest =>
        if c == 'b' || c == 'k' || c == 'm' then go (digits ++ [c]) true others rest
        else if c == 'q' || c == 'v' || c == 'z' then go count bytes (['-', c] :: others) rest
        else .error c

def withOldCount (args : List Octets) : Except String (List Octets) :=
  match args with
  | ('-' :: d :: text) :: rest =>
      if d.isDigit then
        let digits := (d :: text).takeWhile Char.isDigit
        match oldLetters digits ((d :: text).drop digits.length) with
        | .ok options => .ok (options ++ rest)
        | .error c => .error ("invalid trailing option -- " ++ c.toString)
      else .ok args
  | args => .ok args

def head : Tool := fun call =>
  match withOldCount call.args with
  | .error message => misuse call.name message 1
  | .ok args =>
      let options : OptionSet := {
        flags := "qvz"
        valued := "nc"
        long := [("lines", 'n'), ("bytes", 'c'), ("quiet", 'q'), ("silent", 'q'), ("verbose", 'v'),
          ("zero-terminated", 'z')] }
      match options.read args with
      | .error message =>
          -- A count in the middle of other arguments is no option.
          match args.find? fun arg => arg.head? = some '-' &&
              ((arg.drop 1).any Char.isDigit) && !(arg.contains 'n' || arg.contains 'c') with
          | some arg =>
              let c := ((arg.drop 1).find? Char.isDigit).getD ' '
              if message = "invalid option -- '" ++ c.toString ++ "'" then
                misuse call.name ("invalid trailing option -- " ++ c.toString) 1
              else misuse call.name message 1
          | none => misuse call.name message 1
      | .ok given =>
          match portionOf given 10 with
          | .error message => refuse call.name message
          | .ok portion => eachPart call given (headOf portion)

def withOldTail (args : List Octets) : List Octets :=
  match args with
  | (sign :: text) :: rest =>
      let digits := text.takeWhile Char.isDigit
      let letters := text.drop digits.length
      let unit := letters.takeWhile fun c => c == 'b' || c == 'c' || c == 'l'
      let tail := letters.drop unit.length
      let files := match rest with
        | ['-', '-'] :: rest => rest
        | rest => rest
      let alone := files.length ≤ 1 && (files.all fun file =>
        !(file.head? = some '-' && 1 < file.length) || rest.head? = some ['-', '-'])
      let counted := !digits.isEmpty || (sign == '+' && !letters.isEmpty)
      if (sign == '-' || sign == '+') && counted && alone && unit.length ≤ 1 &&
          (tail.isEmpty || tail = ['f']) then
        let digits := if digits.isEmpty then ['1', '0'] else digits
        let count := if sign == '+' then '+' :: digits else digits
        let option := if unit = ['c'] || unit = ['b'] then ['-', 'c'] else ['-', 'n']
        option :: (count ++ if unit = ['b'] then ['b'] else []) :: rest
      else args
  | args => args

def tail : Tool := fun call =>
  withOptions {
    flags := "fFqvzα"
    valued := "ncsβ"
    optional := "γ"
    long := [("lines", 'n'), ("bytes", 'c'), ("quiet", 'q'), ("silent", 'q'), ("verbose", 'v'),
      ("follow", 'γ'), ("zero-terminated", 'z'), ("sleep-interval", 's'), ("retry", 'α'),
      ("pid", 'β'), ("max-unchanged-stats", 'β')] } 1
    (fun call given =>
      match portionOf given 10 with
      | .error message => refuse call.name message
      | .ok portion =>
          if portion.count = 0 && portion.sign != some '+' then pure 0
          else eachPart call given (tailOf portion))
    { call with args := withOldTail call.args }

def pieces (separator : Octets) (before : Bool) (text : Octets) : List Octets :=
  go (text.length + 1) [] text
where
  go : Nat → Octets → Octets → List Octets
    | 0, _, _ => []
    | fuel + 1, read, text =>
        match text with
        | [] => if read.isEmpty then [] else [read.reverse]
        | c :: rest =>
            if separator.isPrefixOf text then
              let behind := text.drop separator.length
              if before then
                (if read.isEmpty then [] else [read.reverse]) ++ go fuel separator.reverse behind
              else (read.reverse ++ separator) :: go fuel [] behind
            else go fuel (c :: read) rest

def tac : Tool :=
  withOptions {
    flags := "br"
    valued := "s"
    long := [("before", 'b'), ("regex", 'r'), ("separator", 's')] } 1 fun call given => do
    let separator := (given.value? 's').getD ['\n']
    let separator := if separator.isEmpty then [Char.ofNat 0] else separator
    let (read, status) ← contentsOf call given.operands
    finish call (read.flatMap fun (_, text) =>
      (pieces separator (given.has 'b') text).reverse.flatten) status

def rev : Tool :=
  withOptions { flags := "0", long := [("zero", '0')] } 1 fun call given => do
    let (read, status) ← contentsOf call given.operands
    let reversed (text : Octets) : Octets :=
      (wholeLines '\n' text).flatMap fun line =>
        let body := line.takeWhile fun c => c != '\n'
        body.reverse ++ line.drop body.length
    finish call (read.flatMap fun (_, text) => reversed text) status

def isWordSpace (c : Char) : Bool :=
  c == ' ' || (9 ≤ c.toNat && c.toNat ≤ 13)

def words (text : Octets) : Nat :=
  (text.foldl (fun (count, inside) c =>
    if isWordSpace c then (count, false)
    else (if inside then count else count + 1, true)) (0, false)).1

def widest (text : Octets) : Nat :=
  let (best, column) := text.foldl (fun (best, column) c =>
    if c == '\n' || c == '\r' || c == '\x0c' then (max best column, 0)
    else if c == '\t' then (best, column + 8 - column % 8)
    else if 32 ≤ c.toNat && c.toNat < 127 then (best, column + 1)
    else (best, column)) (0, 0)
  max best column

structure Counts where
  lines : Nat := 0
  words : Nat := 0
  bytes : Nat := 0
  longest : Nat := 0

def countsOf (text : Octets) : Counts :=
  { lines := text.count '\n'
    words := words text
    bytes := text.length
    longest := widest text }

def countInputs (call : Call) : List Octets → List (Octets × Counts) → Nat →
    Chore (List (Octets × Counts) × Nat)
  | [], read, status => pure (read.reverse, status)
  | path :: rest, read, status => do
      match ← contentOf path with
      | .ok text => countInputs call rest ((path, countsOf text) :: read) status
      | .error fault => do
          complainAbout call path fault
          countInputs call rest (if fault = .isDirectory then (path, {}) :: read else read) 1

def wc : Tool :=
  withOptions {
    flags := "clmLw"
    valued := "τφ"
    long := [("bytes", 'c'), ("chars", 'm'), ("lines", 'l'), ("words", 'w'),
      ("max-line-length", 'L'), ("total", 'τ'), ("files0-from", 'φ')] } 1 fun call given => do
    let wanted := ['l', 'w', 'm', 'c', 'L'].filter given.has
    let wanted := if wanted.isEmpty then ['l', 'w', 'c'] else wanted
    let paths := if given.operands.isEmpty then [['-']] else given.operands
    let totals := ((given.value? 'τ').map String.ofList).getD "auto"
    let (regular, sizes) ← Chore.look fun scene =>
      let of (path : Octets) : Option Nat :=
        if path = ['-'] then
          match scene.fileOf? 0 with
          | some (_, { channel := .inode id, .. }) => some (scene.disk.sizeOf id)
          | _ => none
        else
          match scene.stat path with
          | .ok ⟨_, id, .file _ _ _⟩ => some (scene.disk.sizeOf id)
          | .ok _ => none
          | .error _ => some 0
      (paths.all fun path => (of path).isSome, (paths.filterMap of).foldl (· + ·) 0)
    let (all, status) ← countInputs call paths [] 0
    let width :=
      if totals = "only" || (paths.length = 1 && wanted.length = 1) then 1
      else max (decimal sizes).length (if regular then 1 else 7)
    let show' (counts : Counts) (name : Octets) : Octets :=
      let number (letter : Char) : Octets :=
        padLeft ' ' width (decimal (match letter with
          | 'l' => counts.lines
          | 'w' => counts.words
          | 'L' => counts.longest
          | _ => counts.bytes))
      joinWords (wanted.map number) ++ (if name.isEmpty then [] else ' ' :: name) ++ ['\n']
    let total := all.foldl (fun (sum : Counts) (_, c) =>
      ⟨sum.lines + c.lines, sum.words + c.words, sum.bytes + c.bytes, max sum.longest c.longest⟩) {}
    let rows := if totals = "only" then [] else all.flatMap fun (path, counts) =>
      show' counts (if given.operands.isEmpty then [] else path)
    let showsTotal := totals = "always" || totals = "only" || (totals != "never" && 1 < paths.length)
    finish call (rows ++ (if showsTotal then
      show' total (if totals = "only" then [] else "total".toList) else [])) status

inductive Numbering where
  | all
  | filled
  | none
  | matching (finder : Finder)

def numbering? (text : Octets) : Option (Except String Numbering) :=
  match text with
  | ['a'] => some (.ok .all)
  | ['t'] => some (.ok .filled)
  | ['n'] => some (.ok .none)
  | 'p' :: pattern =>
      some (match Finder.read {} pattern with
        | .ok finder => .ok (.matching finder)
        | .error fault => .error fault.message)
  | _ => Option.none

structure NumberStyle where
  header : Numbering := .none
  body : Numbering := .filled
  footer : Numbering := .none
  start : Int := 1
  step : Int := 1
  width : Nat := 6
  separator : Octets := ['\t']
  format : String := "rn"
  delimiter : Octets := ['\\', ':']
  continues : Bool := false
  blanks : Nat := 1

def NumberStyle.number (style : NumberStyle) (value : Int) : Octets :=
  let digits := decimal value.natAbs
  let sign : Octets := if value < 0 then ['-'] else []
  match style.format with
  | "ln" => padRight style.width (sign ++ digits)
  | "rz" => sign ++ padLeft '0' (style.width - sign.length) digits
  | _ => padLeft ' ' style.width (sign ++ digits)

def NumberStyle.section? (style : NumberStyle) (line : Octets) : Option Numbering :=
  let mark := style.delimiter
  if mark.isEmpty then none
  else if line = mark ++ mark ++ mark then some style.header
  else if line = mark ++ mark then some style.body
  else if line = mark then some style.footer
  else none

def numberLines (style : NumberStyle) : Numbering → Int → Nat → List Octets → List Octets
  | _, _, _, [] => []
  | numbering, value, blanks, line :: rest =>
      match style.section? line with
      | some section' =>
          [] :: numberLines style section' (if style.continues then value else style.start) 0 rest
      | none =>
          let blanks := if line.isEmpty then blanks + 1 else 0
          let numbered :=
            match numbering with
            | .all => !line.isEmpty || blanks % style.blanks == 0
            | .filled => !line.isEmpty
            | .none => false
            | .matching finder => finder.accepts line
          if numbered then
            (style.number value ++ style.separator ++ line) ::
              numberLines style numbering (value + style.step)
                (if blanks = style.blanks then 0 else blanks) rest
          else
            (List.replicate (style.width + style.separator.length) ' ' ++ line) ::
              numberLines style numbering value blanks rest

structure NumberMistake where
  message : String
  goesOn : Bool := false

def numberWithin (name : String) (low high : Int) (text : Octets) : Except NumberMistake Int :=
  let mistake (reason : String) : Except NumberMistake Int :=
    .error { message := "invalid " ++ name ++ ": " ++ inQuotes text ++ reason }
  match integer? text with
  | none => mistake ""
  | some n =>
      if n < low then mistake ": Numerical result out of range"
      else if high < n then mistake ": Value too large for defined data type"
      else .ok n

def NumberStyle.withOption (style : NumberStyle) (letter : Char) (text : Octets) :
    Except NumberMistake NumberStyle := do
  let part (name : String) : Except NumberMistake Numbering :=
    match numbering? text with
    | some (.ok numbering) => .ok numbering
    | some (.error message) => .error { message }
    | none => .error
        { message := "invalid " ++ name ++ " numbering style: " ++ inQuotes text, goesOn := true }
  let largest : Int := 9223372036854775807
  match letter with
  | 'h' => return { style with header := ← part "header" }
  | 'b' => return { style with body := ← part "body" }
  | 'f' => return { style with footer := ← part "footer" }
  | 'v' => return { style with
      start := ← numberWithin "starting line number" (-largest - 1) largest text }
  | 'i' => return { style with
      step := ← numberWithin "line number increment" (-largest - 1) largest text }
  | 'w' => return { style with
      width := (← numberWithin "line number field width" 1 2147483647 text).toNat }
  | 'l' => return { style with
      blanks := (← numberWithin "line number of blank lines" 1 largest text).toNat }
  | 's' => return { style with separator := text }
  | 'n' =>
      if ["ln", "rn", "rz"].contains (String.ofList text) then
        return { style with format := String.ofList text }
      else throw { message := "invalid line numbering format: " ++ inQuotes text, goesOn := true }
  | 'd' => return { style with delimiter := match text with
      | [c] => [c, ':']
      | text => text }
  | 'p' => return { style with continues := true }
  | _ => return style

def numberStyle (style : NumberStyle) :
    List (Char × Octets) → NumberStyle × List NumberMistake
  | [] => (style, [])
  | (letter, text) :: rest =>
      match style.withOption letter text with
      | .ok style => numberStyle style rest
      | .error mistake =>
          if mistake.goesOn then
            let (style, mistakes) := numberStyle style rest
            (style, mistake :: mistakes)
          else (style, [mistake])

def nl : Tool :=
  withOptions {
    flags := "p"
    valued := "bdfhilnsvw"
    long := [("body-numbering", 'b'), ("section-delimiter", 'd'), ("footer-numbering", 'f'),
      ("header-numbering", 'h'), ("line-increment", 'i'), ("join-blank-lines", 'l'),
      ("number-format", 'n'), ("no-renumber", 'p'), ("number-separator", 's'),
      ("starting-line-number", 'v'), ("number-width", 'w')] } 1 fun call given => do
    let (style, mistakes) := numberStyle {} given.options
    match mistakes.reverse with
    | last :: others => do
        Chore.forEach others.reverse fun mistake => complain call.name mistake.message
        if last.goesOn then misuse call.name last.message 1
        else do
          complain call.name last.message
          return 1
    | [] => do
        let (read, status) ← contentsOf call given.operands
        let lines := read.flatMap fun (_, text) => (linesOf text).1
        finish call (unlines (numberLines style style.body style.start 0 lines)) status

def groupLines (key : Octets → Octets) : List (List Octets) → List Octets → List (List Octets)
  | groups, [] => groups
  | (last :: others) :: groups, line :: rest =>
      if key last = key line then groupLines key ((line :: last :: others) :: groups) rest
      else groupLines key ([line] :: (last :: others) :: groups) rest
  | groups, line :: rest => groupLines key ([line] :: groups) rest

inductive GroupGap where
  | none
  | before
  | between
  | behind
  | around
  deriving DecidableEq, Repr

def gapped (mark : Char) (gap : GroupGap) (groups : List (List Octets)) : Octets :=
  let texts := groups.map (unlinesBy mark)
  let blank := [mark]
  match gap with
  | .none => texts.flatten
  | .before => texts.flatMap fun text => blank ++ text
  | .between => Text.joinWith blank texts
  | .behind => texts.flatMap fun text => text ++ blank
  | .around => if texts.isEmpty then [] else blank ++ texts.flatMap fun text => text ++ blank

def gapNamed (option : String) (names : List (String × GroupGap)) (usual : GroupGap) (text : Octets) :
    Except String GroupGap :=
  if text.isEmpty then .ok usual
  else
    match names.find? fun entry => text.isPrefixOf entry.1.toList with
    | some (_, gap) => .ok gap
    | Option.none => .error ("invalid argument " ++ inQuotes text ++ " for '--" ++ option ++
        "'\nValid arguments are:" ++ String.join (names.map fun entry => "\n  - '" ++ entry.1 ++ "'"))

def comparedPart (given : Given) (line : Octets) : Octets :=
  let count (letter : Char) : Nat := ((given.value? letter).bind number?).getD 0
  let skipField (text : Octets) : Octets :=
    (text.dropWhile LineOrder.isBlank).dropWhile fun c => !LineOrder.isBlank c
  let text := (List.range (count 'f')).foldl (fun text _ => skipField text) line
  let text := text.drop (count 's')
  let text := match (given.value? 'w').bind number? with
    | some width => text.take width
    | none => text
  if given.has 'i' then text.map Char.toLower else text

def withOldSkips (args : List Octets) : List Octets :=
  args.flatMap fun arg =>
    match arg with
    | '-' :: d :: rest => if (d :: rest).all Char.isDigit then [['-', 'f'], d :: rest] else [arg]
    | '+' :: d :: rest => if (d :: rest).all Char.isDigit then [['-', 's'], d :: rest] else [arg]
    | arg => [arg]

def uniq : Tool := fun call =>
  withOptions {
    flags := "cdDiuz"
    valued := "fsw"
    optional := "αγ"
    long := [("count", 'c'), ("repeated", 'd'), ("all-repeated", 'α'), ("group", 'γ'),
      ("unique", 'u'), ("ignore-case", 'i'), ("skip-fields", 'f'), ("skip-chars", 's'),
      ("check-chars", 'w'), ("zero-terminated", 'z')] } 1 (fun call given => do
    let repeats := gapNamed "all-repeated" [("none", .none), ("prepend", .before),
      ("separate", .between)] .none ((given.value? 'α').getD [])
    let groups := gapNamed "group" [("prepend", .before), ("append", .behind),
      ("separate", .between), ("both", .around)] .between ((given.value? 'γ').getD [])
    let all := given.has 'D' || given.has 'α'
    let badCount := [('f', "fields to skip"), ('s', "bytes to skip"), ('w', "bytes to compare")].find?
      fun (letter, _) => (given.value? letter).any fun text => (number? text).isNone
    match badCount, repeats, groups, given.operands with
    | some (letter, what), _, _, _ =>
        refuse call.name (Text.ofOctets ((given.value? letter).getD []) ++
          ": invalid number of " ++ what)
    | none, .error message, _, _ => misuse call.name message 1
    | none, _, .error message, _ => misuse call.name message 1
    | none, _, _, _ :: _ :: extra :: _ => misuse call.name ("extra operand " ++ inQuotes extra) 1
    | none, .ok repeats, .ok gap, operands =>
        if given.has 'γ' && (given.has 'c' || given.has 'd' || all || given.has 'u') then
          misuse call.name "--group is mutually exclusive with -c/-d/-D/-u" 1
        else if all && given.has 'c' then
          misuse call.name "printing all duplicated lines and repeat counts is meaningless" 1
        else
          let path := operands.headD ['-']
          match ← contentOf path with
          | .error fault => do
              if fault = .isDirectory then
                complain call.name ("error reading " ++ quote path ++ ": " ++ fault.message)
              else complainAbout call path fault
              return 1
          | .ok text =>
              let mark := if given.has 'z' then Char.ofNat 0 else '\n'
              let found := ((groupLines (comparedPart given) [] (linesBy mark text)).map
                List.reverse).reverse
              let chosen := found.filter fun group =>
                (!(given.has 'd' || all) || 1 < group.length) &&
                  (!given.has 'u' || group.length == 1)
              let output :=
                if given.has 'γ' then gapped mark gap found
                else if all then gapped mark repeats chosen
                else unlinesBy mark (chosen.map fun group =>
                  let line := group.headD []
                  if given.has 'c' then padLeft ' ' 7 (decimal group.length) ++ ' ' :: line
                  else line)
              match operands with
              | [_, target] =>
                  if target = ['-'] then finish call output 0
                  else
                    match ← Chore.writeFile .writing target output with
                    | .ok () => return 0
                    | .error fault => do
                        complainAbout call target fault
                        return 1
              | _ => finish call output 0)
    { call with args := withOldSkips call.args }

inductive CommEvent where
  | row (column : Nat) (line : Octets)
  | disorder (file : Nat)

structure CommSide where
  lines : List Octets
  last : Option Octets := none
  noted : Bool := false

def CommSide.step (side : CommSide) (checked : Bool) : CommSide × Bool :=
  let taken := side.lines.head?
  let rest := side.lines.drop 1
  let wrong := checked && !side.noted &&
    (match taken, rest.head? with
    | some a, some b => isBefore a b == .gt
    | some a, none => (side.last.map fun before => isBefore before a == .gt).getD false
    | _, _ => false)
  (⟨rest, taken, side.noted || wrong⟩, wrong)

def commEvents (always never : Bool) : Nat → Bool → CommSide → CommSide → List CommEvent
  | 0, _, _, _ => []
  | fuel + 1, lonely, first, second =>
      let step (column : Nat) (line : Octets) (lonely : Bool) : List CommEvent :=
        let checked := !never && (always || lonely)
        let (first, wrongFirst) := if column != 2 then first.step checked else (first, false)
        let (second, wrongSecond) := if column != 1 then second.step checked else (second, false)
        .row column line :: (if wrongFirst then [.disorder 1] else []) ++
          (if wrongSecond then [.disorder 2] else []) ++
          commEvents always never fuel lonely first second
      match first.lines, second.lines with
      | [], [] => []
      | a :: _, [] => step 1 a true
      | [], b :: _ => step 2 b true
      | a :: _, b :: _ =>
          match isBefore a b with
          | .lt => step 1 a true
          | .gt => step 2 b true
          | .eq => step 3 a lonely

def comm : Tool :=
  withOptions {
    flags := "123zγντ"
    valued := "ο"
    long := [("check-order", 'γ'), ("nocheck-order", 'ν'), ("output-delimiter", 'ο'), ("total", 'τ'),
      ("zero-terminated", 'z')] } 1 fun call given => do
    match given.operands with
    | [first, second] => do
        match ← contentOf first, ← contentOf second with
        | .ok a, .ok b =>
            let mark := if given.has 'z' then Char.ofNat 0 else '\n'
            let (linesOfA, linesOfB) := (linesBy mark a, linesBy mark b)
            let events := commEvents (given.has 'γ') (given.has 'ν')
              (linesOfA.length + linesOfB.length + 2) false ⟨linesOfA, none, false⟩
              ⟨linesOfB, none, false⟩
            let delimiter := (given.value? 'ο').getD ['\t']
            let hides (column : Nat) : Bool := given.has (Char.ofNat ('0'.toNat + column))
            let indent (column : Nat) : Octets :=
              ((List.range (column - 1)).filter fun other => !hides (other + 1)).flatMap fun _ =>
                delimiter
            let status ← tell call given events fun column line =>
              if hides column then [] else indent column ++ line ++ [mark]
            if given.has 'τ' && status != 2 then
              let counted (column : Nat) : Octets := decimal (events.filter fun event =>
                match event with
                | .row other _ => other == column
                | .disorder _ => false).length
              let _ ← finish call (Text.joinWith delimiter
                [counted 1, counted 2, counted 3, "total".toList] ++ [mark]) 0
            if status = 1 then complain call.name "input is not in sorted order"
            return min status 1
        | .error fault, _ => do
            complainAbout call first fault
            return 1
        | _, .error fault => do
            complainAbout call second fault
            return 1
    | [] => misuse call.name "missing operand" 1
    | [first] => misuse call.name ("missing operand after " ++ inQuotes first) 1
    | _ :: _ :: extra :: _ => misuse call.name ("extra operand " ++ inQuotes extra) 1
where
  tell (call : Call) (given : Given) (events : List CommEvent) (row : Nat → Octets → Octets) :
      Chore Nat :=
    events.foldlM (fun status event => do
      if status = 2 then return 2
      else
        match event with
        | .row column line => do
            let _ ← finish call (row column line) 0
            return status
        | .disorder file => do
            complain call.name ("file " ++ Nat.repr file ++ " is not in sorted order")
            return if given.has 'γ' then 2 else 1) 0

end ArtifactPipeline.Tools
