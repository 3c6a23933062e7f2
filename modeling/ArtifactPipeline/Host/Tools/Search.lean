import ArtifactPipeline.Host.Regex.Glob
import ArtifactPipeline.Host.Regex.RichReader
import ArtifactPipeline.Host.Tools.Files
import ArtifactPipeline.Host.Tools.Stream

set_option autoImplicit false

namespace ArtifactPipeline.Tools

open Text (Octets)

structure Query where
  finder : Finder
  inverted : Bool := false
  all : Bool := false

namespace Query

def framed (line word : Bool) (regex : Regex) : Regex :=
  if line then Regex.chain [.lineStart false, regex, .lineEnd false]
  else if word then
    Regex.chain [.behind true (.oneOf Regex.wordSet), regex, .ahead true (.oneOf Regex.wordSet)]
  else regex

def nothing : Regex := .oneOf CharSet.empty

def anyOf (regexes : List Regex) : Regex :=
  match regexes with
  | [] => nothing
  | first :: others => others.foldl Regex.either first

def accepts (query : Query) (line : Octets) : Bool :=
  query.finder.accepts line != query.inverted

def parts (query : Query) : Nat → Octets → Regex.Spot → List (Octets × Octets) × Octets
  | 0, skipped, spot => ([], skipped ++ spot.rest)
  | fuel + 1, skipped, spot =>
      match query.finder.search spot with
      | none => ([], skipped ++ spot.rest)
      | some found =>
          let skipped := skipped ++ found.before
          match found.text with
          | [] =>
              match found.ending.next? with
              | none => ([], skipped)
              | some (c, next) => query.parts fuel (skipped ++ [c]) next
          | text =>
              let (others, tail) := query.parts fuel [] found.ending
              ((skipped, text) :: others, tail)

def partsOf (query : Query) (line : Octets) : List (Octets × Octets) × Octets :=
  query.parts (line.length + 1) [] (Regex.Spot.ofText line)

end Query

inductive Shown where
  | lines
  | parts
  | count
  | names
  | otherNames
  | nothing
  deriving DecidableEq, Repr

structure GrepStyle where
  shown : Shown := .lines
  withName : Bool := false
  nameEnd : Option Char := none
  numbers : Bool := false
  offsets : Bool := false
  aligned : Bool := false
  colored : Bool := false
  ending : Char := '\n'
  most : Option Nat := none
  before : Nat := 0
  after : Nat := 0
  gap : Option Octets := none
  asText : Bool := false
  skipBinary : Bool := false

namespace GrepStyle

def paint (style : GrepStyle) (colour : String) (text : Octets) : Octets :=
  if style.colored then
    "\x1b[".toList ++ colour.toList ++ "m\x1b[K".toList ++ text ++ "\x1b[m\x1b[K".toList
  else text

def mark (style : GrepStyle) (c : Char) : Octets :=
  style.paint "36" [c]

def shownName (style : GrepStyle) (name : Octets) (sign : Char) : Octets :=
  style.paint "35" name ++ (match style.nameEnd with
    | some c => [c]
    | none => style.mark sign)

def lead (style : GrepStyle) (name : Octets) (sign : Char) (number offset : Nat) : Octets :=
  let count (value : Nat) : Octets :=
    style.paint "32" (padLeft ' ' (if style.aligned then 2 else 0) (decimal value)) ++
      style.mark sign
  let body := (if style.withName then style.shownName name sign else []) ++
    (if style.numbers then count number else []) ++ (if style.offsets then count offset else [])
  if style.aligned && !body.isEmpty then body ++ ['\t'] else body

def line (style : GrepStyle) (query : Query) (name : Octets) (sign : Char) (number offset : Nat)
    (text : Octets) : Octets :=
  let matching := (sign == ':') != query.inverted
  if style.shown == .parts then
    if matching then
      ((query.partsOf text).1.foldl (fun (shown, place) (skipped, part) =>
        let start := place + skipped.length
        (shown ++ style.lead name sign number start ++ style.paint "01;31" part ++ [style.ending],
          start + part.length)) (([] : Octets), offset)).1
    else []
  else
    let body := if style.colored && matching then
        let (parts, tail) := query.partsOf text
        (parts.flatMap fun (skipped, part) => skipped ++ style.paint "01;31" part) ++ tail
      else text
    style.lead name sign number offset ++ body ++ [style.ending]

end GrepStyle

structure Scan where
  number : Nat := 0
  offset : Nat := 0
  hits : Nat := 0
  behindHit : Nat := 0
  before : List (Nat × Nat × Octets) := []
  after : Nat := 0
  lastShown : Nat := 0
  output : List Octets := []
  stopped : Bool := false
  binary : Bool := false
  later : Bool := false

namespace Scan

def put (scan : Scan) (style : GrepStyle) (query : Query) (name : Octets) (sign : Char)
    (line : Nat × Nat × Octets) : Scan :=
  { scan with
    output := style.line query name sign line.1 line.2.1 line.2.2 :: scan.output
    lastShown := line.1 }

def step (style : GrepStyle) (query : Query) (name : Octets) (scan : Scan) (text : Octets) : Scan :=
  if scan.stopped then scan
  else
    let line := (scan.number + 1, scan.offset, text)
    let next := { scan with number := scan.number + 1, offset := scan.offset + text.length + 1 }
    let full := (style.most.map fun most => decide (most ≤ scan.hits)).getD false
    if !full && query.accepts text then
      let next := { next with hits := scan.hits + 1, behindHit := next.offset }
      let full := (style.most.map fun most => decide (most ≤ next.hits)).getD false
      let once := style.shown == .names || style.shown == .otherNames || style.shown == .nothing
      if once || (scan.binary && style.shown != .count) then { next with stopped := true }
      else if style.shown == .count then { next with stopped := full }
      else
        let firstNumber := (scan.before.getLast?.map (·.1)).getD line.1
        let gap := match style.gap with
          | some gap =>
              let apart := if scan.lastShown = 0 then scan.later || scan.hits != 0
                else scan.lastShown + 1 != firstNumber
              if apart then
                [style.paint "36" gap ++ ['\n']]
              else []
          | none => []
        let next := { next with output := gap ++ next.output, before := [] }
        let next := scan.before.reverse.foldl (fun next line => next.put style query name '-' line)
          next
        let next := next.put style query name ':' line
        { next with after := style.after, stopped := full && style.after = 0 }
    else if 0 < scan.after then
      let next := next.put style query name '-' line
      { next with after := scan.after - 1, stopped := full && scan.after = 1 }
    else if full then { scan with stopped := true }
    else { next with before := (line :: scan.before).take style.before }

end Scan

structure SearchResult where
  found : Bool := false
  failed : Bool := false
  finished : Bool := false

def searchStream (style : GrepStyle) (query : Query) (later : Bool) (descriptor : Nat)
    (name : Octets) : Chore (Bool × Option HostFault) := do
  let start? ← Chore.look fun scene => scene.place? descriptor
  let source : LineSource := { descriptor, ending := style.ending }
  let first ← source.fill
  let binary := style.ending == '\n' && !style.asText &&
    (first.ready.any (·.contains (Char.ofNat 0)) || first.started.contains (Char.ofNat 0))
  if binary && style.skipBinary then
    if style.shown == .count then
      let _ ← Chore.write 1 ((if style.withName then style.shownName name ':' else []) ++ ['0', '\n'])
    return (false, first.fault)
  else do
    let (scan, source) ← loop (fun (scan, source) => do
        let scan := source.ready.foldl (fun scan line => scan.step style query name line) scan
        let scan := if source.ended && !source.started.isEmpty then
            scan.step style query name source.started
          else scan
        let output := scan.output.reverse.flatten
        let _ ← (if output.isEmpty then pure (.ok ()) else Chore.write 1 output)
        let scan := { scan with output := [] }
        if scan.stopped || source.ended then return .inr (scan, source)
        else return .inl (scan, ← { source with ready := [] }.fill)) id Chore.readLimit
      ({ binary, later, stopped := style.most = some 0 : Scan }, first)
    if let (some most, some start) := (style.most, start?) then
      -- What is behind the last match is left to others.
      if most ≤ scan.hits then
        Chore.change fun scene => scene.seek descriptor (start + scan.behindHit)
    let lead := if style.withName then style.shownName name ':' else []
    match style.shown with
    | .count => do
        let _ ← Chore.write 1 (lead ++ decimal scan.hits ++ ['\n'])
    | .names => do
        if scan.hits != 0 then
          let _ ← Chore.write 1 (style.paint "35" name ++ [style.nameEnd.getD '\n'])
    | .otherNames => do
        if scan.hits = 0 then
          let _ ← Chore.write 1 (style.paint "35" name ++ [style.nameEnd.getD '\n'])
    | .nothing => pure ()
    | _ => do
        if binary && scan.hits != 0 then
          complain "grep".toList (Text.ofOctets name ++ ": binary file matches")
    return (scan.hits != 0, source.fault)

structure FileChoice where
  globs : List (Bool × Octets) := []
  dirGlobs : List Octets := []
  tree : Bool := false
  follow : Bool := false
  skipDirs : Bool := false
  skipDevices : Bool := false

namespace FileChoice

def tails (path : Octets) : List Octets :=
  let parts := Text.splitOn '/' path
  (List.range parts.length).map fun count => Text.joinWith ['/'] (parts.drop count)

def excludes (choice : FileChoice) (named : Bool) (path : Octets) : Bool :=
  let names := if named then tails path else [(path.reverse.takeWhile fun c => c != '/').reverse]
  match choice.globs with
  | [] => false
  | (first, _) :: _ =>
      match choice.globs.reverse.find? fun (_, glob) => names.any (Glob.textFits {} glob) with
      | some (letsIn, _) => !letsIn
      | none => first

def excludesDir (choice : FileChoice) (named : Bool) (path : Octets) : Bool :=
  let path := HostDisk.withoutSlashes path
  let names := if named then tails path else [(path.reverse.takeWhile fun c => c != '/').reverse]
  choice.dirGlobs.any fun glob => names.any (Glob.textFits {} (HostDisk.withoutSlashes glob))

end FileChoice

structure Search where
  style : GrepStyle
  query : Query
  choice : FileChoice := {}
  silent : Bool := false
  namesInTrees : Bool := false
  label : Octets := "(standard input)".toList
  guarded : Bool := false

namespace Search

def file (search : Search) (inTree : Bool) (path shown : Octets)
    (result : SearchResult) : Chore SearchResult := do
  let style := if inTree && search.namesInTrees then { search.style with withName := true }
    else search.style
  let opened : Except HostFault Nat ←
    if path = ['-'] && !inTree then pure (.ok 0) else Chore.openFile .reading path
  let complainOf (fault : HostFault) : Chore SearchResult := do
    if !search.silent then
      complain "grep".toList (Text.ofOctets shown ++ ": " ++ fault.message)
    return { result with failed := true }
  match opened with
  | .error fault => complainOf fault
  | .ok descriptor => do
      let same ← Chore.look fun scene =>
        match scene.fileOf? descriptor, scene.fileOf? 1 with
        | some (_, { channel := .inode a, .. }), some (_, { channel := .inode b, .. }) => a == b
        | _, _ => false
      let close : Chore Unit := if descriptor = 0 then pure () else Chore.close descriptor
      if same && search.guarded then
        close
        if !search.silent then
          complain "grep".toList (Text.ofOctets shown ++ ": input file is also the output")
        return { result with failed := true }
      else do
        let (found, fault?) ← searchStream style search.query result.found descriptor shown
        close
        let result := { result with found := result.found || found }
        let result := { result with finished := found && style.shown == .nothing }
        match fault? with
        | some fault => do
            if !search.silent then
              complain "grep".toList (Text.ofOctets shown ++ ": " ++ fault.message)
            return { result with failed := true }
        | none => return result

def files (search : Search) :
    Nat → Bool → Nat → List Octets → SearchResult → Chore SearchResult
  | 0, _, _, _, result => pure result
  | _ + 1, _, _, [], result => pure result
  | fuel + 1, inTree, hidden, path :: rest, result => do
      if result.finished then return result
      let entry ← (if inTree && !search.choice.follow then Chore.lstat path else Chore.stat path)
      let shown := if path = ['-'] && !inTree then search.label else path.drop hidden
      let next (result : SearchResult) := files search fuel inTree hidden rest result
      match entry with
      | .ok ⟨spot, _, .dir _ _⟩ =>
          if search.choice.tree && (path != ['-'] || inTree) then
            if search.choice.excludesDir (!inTree) path then next result
            else do
              let names ← Chore.look fun scene => scene.disk.namesIn spot
              next (← files search fuel true hidden (names.map (inDirectory path)) result)
          else if search.choice.skipDirs then next result
          else next (← search.file inTree path shown result)
      | .ok ⟨_, _, .link _ _⟩ => next result
      | .ok ⟨_, _, .device _⟩ | .ok ⟨_, _, .fifo _ _⟩ =>
          if search.choice.skipDevices || inTree then next result
          else next (← search.file inTree path shown result)
      | _ =>
          if search.choice.excludes (!inTree) path && path != ['-'] then next result
          else next (← search.file inTree path shown result)

end Search

def grepOptions : OptionSet := {
  flags := "EFGPivwxclLqsnoHhrRazbUyITZνγ"
  valued := "efmABCdDίεδβλςξ"
  optional := "κ"
  long := [("extended-regexp", 'E'), ("fixed-strings", 'F'), ("basic-regexp", 'G'),
    ("fixed-regexp", 'F'), ("perl-regexp", 'P'), ("regexp", 'e'), ("file", 'f'),
    ("ignore-case", 'i'), ("no-ignore-case", 'ν'), ("invert-match", 'v'), ("word-regexp", 'w'),
    ("line-regexp", 'x'), ("count", 'c'), ("files-with-matches", 'l'),
    ("files-without-match", 'L'), ("quiet", 'q'), ("silent", 'q'), ("no-messages", 's'),
    ("line-number", 'n'), ("byte-offset", 'b'), ("only-matching", 'o'), ("with-filename", 'H'),
    ("no-filename", 'h'), ("recursive", 'r'), ("dereference-recursive", 'R'), ("max-count", 'm'),
    ("after-context", 'A'), ("before-context", 'B'), ("context", 'C'), ("text", 'a'),
    ("null", 'Z'), ("null-data", 'z'), ("initial-tab", 'T'), ("line-buffered", 'U'),
    ("binary", 'U'), ("directories", 'd'), ("devices", 'D'), ("include", 'ί'), ("exclude", 'ε'),
    ("exclude-dir", 'δ'), ("exclude-from", 'ξ'), ("binary-files", 'β'), ("label", 'λ'),
    ("group-separator", 'ς'), ("no-group-separator", 'γ'), ("color", 'κ'), ("colour", 'κ')]
}

def grepUsage : Octets :=
  ("Usage: grep [OPTION]... PATTERNS [FILE]...\n" ++
    "Try 'grep --help' for more information.\n").toList

def withContextDigits (args : List Octets) : List Octets :=
  args.map fun arg =>
    match arg with
    | '-' :: c :: rest => if c.isDigit && rest.all Char.isDigit then '-' :: 'C' :: c :: rest else arg
    | arg => arg

def grepMistake? (given : Given) : Option String :=
  given.options.findSome? fun (letter, value) =>
    if "ABC".toList.contains letter && (number? value).isNone then
      some (Text.ofOctets value ++ ": invalid context length argument")
    else if letter == 'm' && (integer? value).isNone then some "invalid max count"
    else if letter == 'D' && value != "read".toList && value != "skip".toList then
      some "unknown devices method"
    else if letter == 'β' && !(["binary", "text", "without-match"].contains (String.ofList value)) then
      some "unknown binary-files type"
    else none

def grepQuery (form : Char) (given : Given) (texts : List Octets) :
    Except String (Query × List String) :=
  let fold := (given.options.map (·.1)).foldl (fun fold letter =>
    if letter == 'i' || letter == 'y' then true else if letter == 'ν' then false else fold) false
  let framed := Query.framed (given.has 'x') (given.has 'w')
  let ready (longest : Bool) (regexes : List Regex) : Query :=
    { finder := Finder.ofRegex longest (framed (Query.anyOf regexes))
      inverted := given.has 'v'
      all := texts.eraseDups = [[]] }
  match form with
  | 'F' =>
      let literal (text : Octets) : Regex :=
        Regex.chain (text.map fun c => if fold then Regex.folded c else .char c)
      .ok (ready true (texts.map literal), [])
  | 'P' =>
      match texts with
      | [text] => (Regex.readRich { fold } text).map fun regex => (ready false [regex], [])
      | [] => .ok (ready false [], [])
      | _ => .error "the -P option only supports a single pattern"
  | form =>
      let dialect : Regex.Dialect := {
        extended := form == 'E'
        looseClosing := form == 'E'
        looseBraces := form == 'E'
        newlineAlternates := true
        fold }
      let confused (text : Octets) : Bool :=
        text.head? == some '[' && (text.drop 1).head? == some ':' && text.getLast? == some ']' &&
          text.dropLast.getLast? == some ':' && 4 ≤ text.length
      if texts.any confused then
        .error "character class syntax is [[:space:]], not [:space:]"
      else
        match texts.mapM (Regex.readNoting dialect) with
        | .error fault => .error fault.message
        | .ok read => .ok (ready true (read.map (·.1)), read.flatMap (·.2))

def grepWith (form : Char) : Tool := fun call => do
  let usage (message : String) : Chore Nat := do
    complain "grep".toList message
    let _ ← Chore.write 2 grepUsage
    return 2
  match grepOptions.read (withContextDigits call.args) with
  | .error message => usage message
  | .ok given => do
      if let some message := grepMistake? given then
        complain "grep".toList message
        return 2
      let forms := (form :: given.options.map (·.1)).filter fun c => "EFGP".toList.contains c
      let chosen := forms.drop 1
      if chosen.any fun form => some form != chosen.head? then
        complain "grep".toList "conflicting matchers specified"
        return 2
      let form := forms.getLastD form
      let explicit := given.has 'e' || given.has 'f'
      if !explicit && given.operands.isEmpty then
        let _ ← Chore.write 2 grepUsage
        return 2
      let paths := if explicit then given.operands else given.operands.drop 1
      match ← patterns given with
      | .error message => do
          complain "grep".toList message
          return 2
      | .ok texts =>
          match grepQuery form given texts with
          | .error message => do
              complain "grep".toList message
              return 2
          | .ok (query, strays) => do
              Chore.forEach strays fun stray =>
                complain "grep".toList ("warning: " ++ stray ++ " at start of expression")
              if texts.isEmpty && !query.inverted && !given.has 'L' then return 1
              run given query paths
where
  patterns (given : Given) : Chore (Except String (List Octets)) := do
    let sources := given.options.filter fun option => option.1 == 'e' || option.1 == 'f'
    if sources.isEmpty then
      return .ok ((given.operands.take 1).flatMap (Text.splitOn '\n'))
    else
      sources.foldlM (fun texts (letter, value) => do
        match texts with
        | .error message => return .error message
        | .ok texts =>
            if letter == 'e' then return .ok (texts ++ Text.splitOn '\n' value)
            else
              match ← contentOf value with
              | .ok text => return .ok (texts ++ (linesOf text).1)
              | .error fault => return .error (Text.ofOctets value ++ ": " ++ fault.message))
        (.ok [])
  run (given : Given) (query : Query) (paths : List Octets) : Chore Nat := do
    let last (letters : String) : Option Char :=
      ((given.options.map (·.1)).filter letters.toList.contains).getLast?
    let action := (given.value? 'd').map String.ofList
    let tree := given.has 'r' || given.has 'R' || action = some "recurse"
    let most := (given.value? 'm').bind integer?
    let most := match most with
      | some (.ofNat n) => some n
      | _ => none
    let count (letter : Char) : Option Nat :=
      ((given.value? letter).bind number?).or ((given.value? 'C').bind number?)
    let context := (count 'A').isSome || (count 'B').isSome
    let binaryFiles := ((given.options.filter fun option => "aIβ".toList.contains option.1).getLast?)
    let binaryText (letter : Char) (word : String) : Bool :=
      match binaryFiles with
      | some (c, value) => c == letter || (c == 'β' && String.ofList value == word)
      | none => false
    let shown : Shown :=
      if given.has 'q' then .nothing
      else if given.has 'l' || given.has 'L' then
        (if last "lL" = some 'L' then .otherNames else .names)
      else if given.has 'c' then .count
      else if given.has 'o' then .parts
      else .lines
    let zero := Char.ofNat 0
    let gap := match (given.options.filter fun o => o.1 == 'ς' || o.1 == 'γ').getLast? with
      | some ('ς', value) => some value
      | some _ => none
      | none => some ['-', '-']
    let style : GrepStyle := {
      shown
      withName := (1 < paths.length || last "hH" = some 'H') && last "hH" != some 'h'
      nameEnd := if given.has 'Z' then some zero else none
      numbers := given.has 'n'
      offsets := given.has 'b'
      aligned := given.has 'T'
      colored := ((given.value? 'κ').map fun value =>
        value = "always".toList || value = "yes".toList || value = "force".toList).getD false
      ending := if given.has 'z' then zero else '\n'
      most
      before := (count 'B').getD 0
      after := (count 'A').getD 0
      gap := if context then gap else none
      asText := binaryText 'a' "text"
      skipBinary := binaryText 'I' "without-match" }
    let excludedFrom ← (given.values 'ξ').flatMapM fun path => do
      match ← contentOf path with
      | .ok text => return (linesOf text).1
      | .error _ => return []
    let choice : FileChoice := {
      globs := (given.options.filterMap fun (letter, value) =>
        if letter == 'ί' then some (true, value)
        else if letter == 'ε' then some (false, value) else none) ++
          excludedFrom.map fun glob => (false, glob)
      dirGlobs := given.values 'δ'
      tree
      follow := given.has 'R'
      skipDirs := action = some "skip"
      skipDevices := given.value? 'D' = some "skip".toList }
    let search : Search := {
      style, query, choice
      silent := given.has 's'
      namesInTrees := last "hH" != some 'h'
      label := (given.value? 'λ').getD "(standard input)".toList
      guarded := shown != .nothing && shown != .names && shown != .otherNames &&
        (most.map fun most => decide (1 < most)).getD true }
    -- Nothing is left of what an empty pattern does not select.
    if most = some 0 || (query.inverted && query.all && !(given.has 'x' || given.has 'w')) then
      if shown != .otherNames then return 1
    let fuel := treeDepth * treeDepth
    let result ←
      if paths.isEmpty && tree then search.files fuel false 2 [['.']] {}
      else search.files fuel false 0 (if paths.isEmpty then [['-']] else paths) {}
    return if result.failed && !(shown == .nothing && result.found) then 2
      else if result.found then 0 else 1

def grep : Tool := grepWith 'G'

def egrep : Tool := grepWith 'E'

def fgrep : Tool := grepWith 'F'

end ArtifactPipeline.Tools
