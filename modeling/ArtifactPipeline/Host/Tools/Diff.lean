import Std.Data.HashMap
import ArtifactPipeline.Host.Regex.Reader
import ArtifactPipeline.Host.Shell.Pattern
import ArtifactPipeline.Host.Tools.Date
import ArtifactPipeline.Host.Tools.Files
import ArtifactPipeline.Text.EditScript

set_option autoImplicit false

namespace ArtifactPipeline.Tools

open Text (Octets)
open Text.EditScript (Hunk)

namespace Diff

inductive Form where
  | normal
  | context (lines : Nat)
  | unified (lines : Nat)
  | editor
  | forward
  | counted
  | merged (name : Octets)
  | columns
  deriving DecidableEq, Repr

structure Style where
  form : Form := .normal
  foldCase : Bool := false
  allBlanks : Bool := false
  blankAmounts : Bool := false
  trailingBlanks : Bool := false
  blankLines : Bool := false
  carriageReturns : Bool := false
  ignored : Option Finder := none
  labels : List Octets := []
  brief : Bool := false
  reportSame : Bool := false
  asText : Bool := false
  newFiles : Bool := false
  tree : Bool := false
  excluded : List Octets := []
  width : Nat := 130
  changesOnly : Bool := false
  spacesForTabs : Bool := false
  options : Octets := []

def Style.contextLines (style : Style) : Nat :=
  match style.form with
  | .context lines | .unified lines => lines
  | _ => 0

def Style.isStrict (style : Style) : Bool :=
  style.form != .editor && style.form != .forward

def lines (text : Octets) : List Octets :=
  let (lines, complete) := linesOf text
  match lines.getLast?, complete with
  | some last, false => lines.dropLast.map (· ++ ['\n']) ++ [last]
  | _, _ => lines.map (· ++ ['\n'])

def isBlank (c : Char) : Bool :=
  c == ' ' || (9 ≤ c.toNat && c.toNat ≤ 13)

def dropTrailing (text : Octets) : Octets :=
  (text.reverse.dropWhile isBlank).reverse

def squeezeBlanks : Octets → Octets
  | [] => []
  | [c] => if isBlank c then [' '] else [c]
  | c :: d :: rest =>
      if isBlank c then
        if isBlank d then squeezeBlanks (d :: rest) else ' ' :: squeezeBlanks (d :: rest)
      else c :: squeezeBlanks (d :: rest)

def Style.key (style : Style) (line : Octets) : Octets :=
  let line := if style.carriageReturns && ['\r', '\n'].isSuffixOf line then
    line.dropLast.dropLast ++ ['\n'] else line
  let line := if style.foldCase then line.map Char.toLower else line
  if style.allBlanks then line.filter fun c => !isBlank c
  else if style.blankAmounts then dropTrailing (squeezeBlanks line)
  else if style.trailingBlanks then dropTrailing line
  else if !style.isStrict && line.getLast? != some '\n' then line ++ ['\n']
  else line

def number (keys : List Octets) (known : Std.HashMap Octets Nat) :
    List Nat × Std.HashMap Octets Nat :=
  let (numbers, known) := keys.foldl (fun (numbers, known) key =>
    match known[key]? with
    | some n => (n :: numbers, known)
    | none => ((known.size + 1) :: numbers, known.insert key (known.size + 1)))
    (([] : List Nat), known)
  (numbers.reverse, known)

def commonLead : List Octets → List Octets → Nat
  | a :: as, b :: bs => if a = b then commonLead as bs + 1 else 0
  | _, _ => 0

def hunksOf (style : Style) (first second : List Octets) : List Hunk :=
  let around := style.contextLines
  let lead := commonLead first second - around
  let (a, b) := (first.drop lead, second.drop lead)
  let tail := commonLead a.reverse b.reverse - around
  let (a, b) := (a.take (a.length - tail), b.take (b.length - tail))
  let (kindsOfFirst, known) := number (a.map style.key) {}
  let (kindsOfSecond, _) := number (b.map style.key) known
  (Text.EditScript.hunks kindsOfFirst kindsOfSecond).map fun hunk =>
    { hunk with first := hunk.first + lead, second := hunk.second + lead }

def slice (lines : List Octets) (start count : Nat) : List Octets :=
  (lines.drop start).take count

def isTrivial (style : Style) (first second : List Octets) (hunk : Hunk) : Bool :=
  let changed := slice first hunk.first hunk.dropped ++ slice second hunk.second hunk.added
  let blank (line : Octets) : Bool :=
    style.blankLines &&
      (line = ['\n'] || ((style.allBlanks || style.blankAmounts) && line.all isBlank))
  let matched (line : Octets) : Bool :=
    style.ignored.any fun finder => finder.accepts (line.takeWhile fun c => c != '\n')
  (style.blankLines || style.ignored.isSome) &&
    changed.all fun line => blank line || matched line

def shown (lead : String) (line : Octets) : Octets :=
  lead.toList ++ line ++
    (if line.getLast? = some '\n' then [] else "\n\\ No newline at end of file\n".toList)

def span (start count : Nat) : Octets :=
  if count ≤ 1 then decimal (start + count)
  else decimal (start + 1) ++ ',' :: decimal (start + count)

def letterOf (hunk : Hunk) : Char :=
  if hunk.dropped = 0 then 'a' else if hunk.added = 0 then 'd' else 'c'

def normalText (first second : List Octets) (hunk : Hunk) : Octets :=
  span hunk.first hunk.dropped ++ letterOf hunk :: span hunk.second hunk.added ++ ['\n'] ++
    (slice first hunk.first hunk.dropped).flatMap (shown "< ") ++
    (if letterOf hunk == 'c' then "---\n".toList else []) ++
    (slice second hunk.second hunk.added).flatMap (shown "> ")

def grouped (around : Nat) : List Hunk → List (List Hunk)
  | [] => []
  | hunk :: rest =>
      match grouped around rest with
      | (next :: more) :: groups =>
          if next.first - (hunk.first + hunk.dropped) ≤ 2 * around then
            (hunk :: next :: more) :: groups
          else [hunk] :: (next :: more) :: groups
      | groups => [hunk] :: groups

def extent (around : Nat) (first second : List Octets) (group : List Hunk) :
    (Nat × Nat) × (Nat × Nat) :=
  match group.head?, group.getLast? with
  | some head, some last =>
      let before := min around (min head.first head.second)
      let stopFirst := min first.length (last.first + last.dropped + around)
      let stopSecond := min second.length (last.second + last.added + around)
      ((head.first - before, stopFirst - (head.first - before)),
        (head.second - before, stopSecond - (head.second - before)))
  | _, _ => ((0, 0), (0, 0))

def unifiedSpan (start count : Nat) : Octets :=
  if count = 0 then decimal start ++ ",0".toList
  else if count = 1 then decimal (start + 1)
  else decimal (start + 1) ++ ',' :: decimal count

def unifiedLines (first second : List Octets) : Nat → Nat → List Hunk → Octets
  | place, stop, [] => (slice first place (stop - place)).flatMap (shown " ")
  | place, stop, hunk :: rest =>
      (slice first place (hunk.first - place)).flatMap (shown " ") ++
        (slice first hunk.first hunk.dropped).flatMap (shown "-") ++
        (slice second hunk.second hunk.added).flatMap (shown "+") ++
        unifiedLines first second (hunk.first + hunk.dropped) stop rest

def unifiedText (around : Nat) (first second : List Octets) (group : List Hunk) : Octets :=
  let ((start, count), (otherStart, otherCount)) := extent around first second group
  "@@ -".toList ++ unifiedSpan start count ++ " +".toList ++ unifiedSpan otherStart otherCount ++
    " @@\n".toList ++ unifiedLines first second start (start + count) group

def contextLines (side : List Octets) (lone : String) (placeOf countOf otherOf : Hunk → Nat) :
    Nat → Nat → List Hunk → Octets
  | place, stop, [] => (slice side place (stop - place)).flatMap (shown "  ")
  | place, stop, hunk :: rest =>
      let mark := if otherOf hunk = 0 then lone else "! "
      (slice side place (placeOf hunk - place)).flatMap (shown "  ") ++
        (slice side (placeOf hunk) (countOf hunk)).flatMap (shown mark) ++
        contextLines side lone placeOf countOf otherOf (placeOf hunk + countOf hunk) stop rest

def contextText (around : Nat) (first second : List Octets) (group : List Hunk) : Octets :=
  let ((start, count), (otherStart, otherCount)) := extent around first second group
  let range (start count : Nat) : Octets :=
    if count ≤ 1 then decimal (start + count)
    else decimal (start + 1) ++ ',' :: decimal (start + count)
  "***************\n*** ".toList ++ range start count ++ " ****\n".toList ++
    (if group.any fun hunk => hunk.dropped != 0 then
      contextLines first "- " Hunk.first Hunk.dropped Hunk.added start (start + count) group
    else []) ++
    "--- ".toList ++ range otherStart otherCount ++ " ----\n".toList ++
    (if group.any fun hunk => hunk.added != 0 then
      contextLines second "+ " Hunk.second Hunk.added Hunk.dropped otherStart
        (otherStart + otherCount) group
    else [])

def completed (line : Octets) : Octets :=
  if line.getLast? = some '\n' then line else line ++ ['\n']

def editorText (forward : Bool) (first second : List Octets) (hunk : Hunk) : Octets :=
  let _ := first
  let place := span hunk.first hunk.dropped
  let command :=
    if forward then letterOf hunk :: Text.exchange ',' ' ' place else place ++ [letterOf hunk]
  command ++ ['\n'] ++
    (if hunk.added = 0 then []
    else (slice second hunk.second hunk.added).flatMap completed ++ ".\n".toList)

def countedText (second : List Octets) (hunk : Hunk) : Octets :=
  (if hunk.dropped = 0 then []
    else 'd' :: decimal (hunk.first + 1) ++ ' ' :: decimal hunk.dropped ++ ['\n']) ++
    (if hunk.added = 0 then []
    else 'a' :: decimal (hunk.first + hunk.dropped) ++ ' ' :: decimal hunk.added ++ ['\n'] ++
      (slice second hunk.second hunk.added).flatten)

def mergedText (name : Octets) (first second : List Octets) : Nat → List Hunk → Octets
  | place, [] => (first.drop place).flatten
  | place, hunk :: rest =>
      let old := (slice first hunk.first hunk.dropped).flatMap completed
      let new := (slice second hunk.second hunk.added).flatMap completed
      let note (lead : String) : Octets := lead.toList ++ name ++ " */\n".toList
      (slice first place (hunk.first - place)).flatten ++
        (match letterOf hunk with
        | 'a' => "#ifdef ".toList ++ name ++ ['\n'] ++ new ++ note "#endif /* "
        | 'd' => "#ifndef ".toList ++ name ++ ['\n'] ++ old ++ note "#endif /* ! "
        | _ =>
            "#ifndef ".toList ++ name ++ ['\n'] ++ old ++ note "#else /* " ++ new ++
              note "#endif /* ") ++
        mergedText name first second (hunk.first + hunk.dropped) rest

def fillTo (spaces : Bool) (start stop : Nat) : Octets :=
  if spaces then List.replicate (stop - start) ' '
  else
    let tabs := stop / 8 - start / 8
    if tabs = 0 then List.replicate (stop - start) ' '
    else List.replicate tabs '\t' ++ List.replicate (stop % 8) ' '

def halfLine (spaces : Bool) (start bound : Nat) (line : Octets) : Octets × Nat :=
  let (text, _, out) := (line.takeWhile fun c => c != '\n').foldl
    (fun (text, column, out) c =>
      if c == '\t' then
        let size := 8 - column % 8
        if column == out && out + size < bound then
          ((if spaces then List.replicate size ' ' else ['\t']) ++ text, column + size, out + size)
        else (text, column + size, out)
      else if column < bound then (c :: text, column + 1, column + 1)
      else (text, column + 1, out)) (([] : Octets), 0, 0)
  (text.reverse, start + out)

def sideBySide (style : Style) (left : Option Octets) (sign : Char) (right : Option Octets) :
    Octets :=
  let tab := if style.spacesForTabs then 1 else 8
  let both := tab + 3
  let unaligned := style.width / 2 + both / 2 + style.width % 2 * (both % 2)
  let second := unaligned - unaligned % tab
  let half := min (second - 3) (style.width - second)
  let ended (line : Option Octets) : Bool := (line.bind List.getLast?) == some '\n'
  let (text, column) := match left with
    | some line => halfLine style.spacesForTabs 0 half line
    | none => ([], 0)
  let sign :=
    if sign == '|' && ended left != ended right then (if ended left then '/' else '\\') else sign
  let (middle, column) :=
    if sign == ' ' then ([], column)
    else
      let place := (half + second - 1) / 2
      (fillTo style.spacesForTabs column place ++ [sign], place + 1)
  let rest := match right with
    | some line =>
        if line.head? = some '\n' then []
        else
          fillTo style.spacesForTabs column second ++
            (halfLine style.spacesForTabs second half line).1
    | none => []
  text ++ middle ++ rest ++ (if ended left || ended right then ['\n'] else [])

def pairLines (style : Style) (sign : Char) : List Octets → List Octets → Octets
  | a :: as, b :: bs => sideBySide style (some a) sign (some b) ++ pairLines style sign as bs
  | as, bs =>
      as.flatMap (fun line => sideBySide style (some line) '<' none) ++
        bs.flatMap (fun line => sideBySide style none '>' (some line))

def columnsText (style : Style) (first second : List Octets) : Nat → Nat → List Hunk → Octets
  | i, j, [] => same style (first.drop i) (second.drop j)
  | i, j, hunk :: rest =>
      same style (slice first i (hunk.first - i)) (slice second j (hunk.second - j)) ++
        pairLines style '|' (slice first hunk.first hunk.dropped)
          (slice second hunk.second hunk.added) ++
        columnsText style first second (hunk.first + hunk.dropped) (hunk.second + hunk.added) rest
where
  same (style : Style) (a b : List Octets) : Octets :=
    if style.changesOnly then [] else pairLines style ' ' a b

structure Side where
  name : Octets
  content : Octets
  time : Nat

def heading (style : Style) (marks : String × String) (first second : Side) : Octets :=
  let format := match style.form with
    | .context _ => "%a %b %e %H:%M:%S %Y"
    | _ => "%Y-%m-%d %H:%M:%S.%N %z"
  let named (index : Nat) (side : Side) : Octets :=
    match style.labels[index]? with
    | some label => label
    | none => side.name ++ '\t' :: formatDate {} side.time format.toList
  marks.1.toList ++ ' ' :: named 0 first ++ '\n' :: marks.2.toList ++ ' ' :: named 1 second ++ ['\n']

def compareTexts (style : Style) (first second : Side) : Octets × Bool :=
  let (a, b) := (lines first.content, lines second.content)
  let all := hunksOf style a b
  let counted := all.any fun hunk => !isTrivial style a b hunk
  let groups := (grouped style.contextLines all).filter fun group =>
    group.any fun hunk => !isTrivial style a b hunk
  let single := all.filter fun hunk => !isTrivial style a b hunk
  let text :=
    match style.form with
    | .columns => columnsText style a b 0 0 single
    | .merged name => mergedText name a b 0 single
    | form =>
        if !counted then []
        else
          match form with
          | .unified around =>
              heading style ("---", "+++") first second ++ groups.flatMap (unifiedText around a b)
          | .context around =>
              heading style ("***", "---") first second ++ groups.flatMap (contextText around a b)
          | .editor => single.reverse.flatMap (editorText false a b)
          | .forward => single.flatMap (editorText true a b)
          | .counted => single.flatMap (countedText b)
          | _ => single.flatMap (normalText a b)
  (text, counted)

def isBinary (content : Octets) : Bool :=
  (content.take 32768).any fun c => c.toNat = 0

def compareSides (style : Style) (below : Bool) (first second : Side) : Octets × Nat :=
  let label (index : Nat) (side : Side) : Octets := (style.labels[index]?).getD side.name
  let report (lead tail : String) : Octets :=
    lead.toList ++ label 0 first ++ " and ".toList ++ label 1 second ++ tail.toList ++ ['\n']
  if first.content = second.content then
    match style.form with
    | .columns | .merged _ => ((compareTexts style first second).1, 0)
    | _ => (if style.reportSame then report "Files " " are identical" else [], 0)
  else if !style.asText && (isBinary first.content || isBinary second.content) then
    (report (if style.brief then "Files " else "Binary files ") " differ", 1)
  else
    let (text, differs) := compareTexts style first second
    if !differs then (if style.reportSame then report "Files " " are identical" else text, 0)
    else if style.brief then (report "Files " " differ", 1)
    else
      let lead := if below then
          "diff".toList ++ style.options ++ ' ' :: first.name ++ ' ' :: second.name ++ ['\n']
        else []
      (lead ++ text, 1)

inductive Found where
  | file (side : Side) (id : Nat)
  | dir (spot : Spot) (id : Nat)
  | other (kind : String)
  | absent (fault : HostFault)

def look (path : Octets) : Chore Found := do
  if path = ['-'] then
    let now ← Chore.look fun scene => scene.disk.clock
    match ← Chore.readAll 0 with
    | .ok content => return .file ⟨path, content, now⟩ 0
    | .error fault => return .absent fault
  else
    match ← Chore.stat path with
    | .ok ⟨spot, id, .dir _ _⟩ => return .dir spot id
    | _ =>
        let time ← Chore.look fun scene =>
          match scene.stat path with
          | .ok ⟨_, _, .file _ mtime _⟩ => mtime
          | _ => scene.disk.clock
        match ← Chore.stat path, ← Chore.readFile path with
        | .ok entry, .ok content => return .file ⟨path, content, time⟩ entry.id
        | .error _, .ok content => return .file ⟨path, content, time⟩ 0
        | _, .error fault => return .absent fault

def kindOf : Found → String
  | .file { content := [], .. } _ => "regular empty file"
  | .file _ _ => "regular file"
  | .dir _ _ => "directory"
  | .other kind => kind
  | .absent _ => "nonexistent file"

def merged (a b : List Octets) : List Octets :=
  HostDisk.inOrder (a ++ b.filter fun name => !a.contains name)

def comparePaths (call : Call) (style : Style) : Nat → Bool → Octets → Octets → Chore Nat
  | 0, _, _, _ => pure 2
  | depth + 1, below, first, second => do
      let report (text : Octets) (status : Nat) : Chore Nat := finish call text status
      match ← look first, ← look second with
      | .dir a idOfA, .dir b idOfB =>
          if below && !style.tree then
            report ("Common subdirectories: ".toList ++ first ++ " and ".toList ++ second ++
              ['\n']) 0
          else if idOfA = idOfB then return 0
          else
            let (inA, inB) ← Chore.look fun scene => (scene.disk.namesIn a, scene.disk.namesIn b)
            let names := (merged inA inB).filter fun name =>
              !(style.excluded.any fun pattern => Shell.fits (pattern.map fun c => (c, false)) name)
            eachOperand names fun name => do
              let (one, other) := (inDirectory first name, inDirectory second name)
              if inA.contains name && inB.contains name || style.newFiles then
                comparePaths call style depth true one other
              else
                let dir := if inA.contains name then first else second
                report ("Only in ".toList ++ dir ++ ": ".toList ++ name ++ ['\n']) 1
      | .dir _ _, found =>
          match below, found with
          | false, .absent fault => do
              if style.newFiles then emptyTree call style depth first second true
              else
                complainAbout call second fault
                return 2
          | false, _ =>
              comparePaths call { style with newFiles := false } depth false
                (inDirectory first (baseName second)) second
          | true, .absent _ => do
              if style.tree then emptyTree call style depth first second true
              else
                report ("Common subdirectories: ".toList ++ first ++ " and ".toList ++ second ++
                  ['\n']) 0
          | true, found => mismatch call first second "directory" (kindOf found)
      | found, .dir _ _ =>
          match below, found with
          | false, .absent fault => do
              if style.newFiles then emptyTree call style depth first second false
              else
                complainAbout call first fault
                return 2
          | false, _ =>
              comparePaths call { style with newFiles := false } depth false first
                (inDirectory second (baseName first))
          | true, .absent _ => do
              if style.tree then emptyTree call style depth first second false
              else
                report ("Common subdirectories: ".toList ++ first ++ " and ".toList ++ second ++
                  ['\n']) 0
          | true, found => mismatch call first second (kindOf found) "directory"
      | .file a idOfA, .file b idOfB =>
          if idOfA = idOfB && idOfA != 0 && !style.reportSame && style.form != .columns then return 0
          else
            let (text, status) := compareSides style below a b
            report text status
      | .absent _, .file b _ =>
          if style.newFiles then
            let (text, status) := compareSides style below ⟨first, [], 0⟩ b
            report text status
          else do
            complainAbout call first .missing
            return 2
      | .file a _, .absent fault =>
          if style.newFiles then
            let (text, status) := compareSides style below a ⟨second, [], 0⟩
            report text status
          else do
            complainAbout call second fault
            return 2
      | .absent fault, .absent other => do
          complainAbout call first fault
          complainAbout call second other
          return 2
      | _, _ => return 2
where
  mismatch (call : Call) (first second : Octets) (kind other : String) : Chore Nat :=
    finish call ("File ".toList ++ first ++ " is a ".toList ++ kind.toList ++ " while file ".toList ++
      second ++ " is a ".toList ++ other.toList ++ ['\n']) 1
  emptyTree (call : Call) (style : Style) (depth : Nat) (first second : Octets)
      (ofFirst : Bool) : Chore Nat := do
    match depth with
    | 0 => return 2
    | depth + 1 =>
        let names ← Chore.look fun scene =>
          match scene.stat (if ofFirst then first else second) with
          | .ok entry => scene.disk.namesIn entry.spot
          | .error _ => []
        eachOperand names fun name =>
          comparePaths call style depth true (inDirectory first name) (inDirectory second name)

def formLetters : List (List Char) :=
  [['u', 'U', 'υ'], ['c', 'C', 'κ'], ['e'], ['f'], ['n'], ['y'], ['ν'], ['D']]

def hasConflict (given : Given) : Bool :=
  1 < (formLetters.filter fun letters => letters.any given.has).length

def otherMark? : List Octets → Option Octets
  | [] => none
  | first :: others => others.find? fun other => other != first

def formOf (given : Given) : Except String Form :=
  if hasConflict given then .error "conflicting output style options"
  else if let some other := otherMark? (given.values 'D') then
    let mark := Text.ofOctets other
    .error ("conflicting -D option value '#ifndef " ++ mark ++ "\n%<#endif /* ! " ++ mark ++ " */\n'")
  else given.options.foldl (fun form (letter, value) =>
    let count : Except String Nat :=
      match value with
      | [] => .ok 3
      | value =>
          match number? value with
          | some n => .ok n
          | none => .error ("invalid context length " ++ inQuotes value)
    match letter with
    | 'u' => form.bind fun form => .ok (match form with
        | .unified n => .unified n
        | _ => .unified 3)
    | 'c' => form.bind fun form => .ok (match form with
        | .context n => .context n
        | _ => .context 3)
    | 'U' | 'υ' => count.map .unified
    | 'C' | 'κ' => count.map .context
    | 'e' => .ok .editor
    | 'f' => .ok .forward
    | 'n' => .ok .counted
    | 'y' => .ok .columns
    | 'D' => .ok (.merged value)
    | _ => form) (.ok .normal)

def optionText (args : List Octets) : Octets :=
  (args.filter fun arg => arg.length > 1 && arg.head? = some '-').flatMap fun arg =>
    ' ' :: Text.octets (quoteIfNeeded arg)

def ignoredOf (given : Given) : Except String (Option Finder) := do
  let regexes ← (given.values 'I').mapM fun text =>
    match Regex.read { newlineAlternates := true } text with
    | .ok regex => .ok regex
    | .error fault => .error (Text.ofOctets text ++ ": " ++ fault.message)
  match regexes with
  | [] => return none
  | first :: others => return some (Finder.ofRegex true (others.foldl Regex.either first))

end Diff

open Diff in
def diff : Tool :=
  withOptions {
    flags := "abBcdeEfHilnNpPqrstTuvwyZσλτν"
    valued := "CDFILSUWxXθη"
    optional := "χυκ"
    long := [("brief", 'q'), ("recursive", 'r'), ("report-identical-files", 's'), ("unified", 'υ'),
      ("context", 'κ'), ("ed", 'e'), ("rcs", 'n'), ("side-by-side", 'y'), ("width", 'W'),
      ("suppress-common-lines", 'σ'), ("left-column", 'λ'), ("label", 'L'), ("ignore-case", 'i'),
      ("ignore-all-space", 'w'), ("ignore-space-change", 'b'), ("ignore-blank-lines", 'B'),
      ("ignore-trailing-space", 'Z'), ("ignore-tab-expansion", 'E'),
      ("ignore-matching-lines", 'I'), ("text", 'a'), ("strip-trailing-cr", 'τ'), ("normal", 'ν'),
      ("new-file", 'N'), ("exclude", 'x'), ("minimal", 'd'), ("expand-tabs", 't'), ("ifdef", 'D'),
      ("initial-tab", 'T'), ("show-c-function", 'p'), ("speed-large-files", 'H'), ("color", 'χ'),
      ("tabsize", 'θ'), ("horizon-lines", 'η'), ("no-dereference", 'P')] } 2
    fun call given => do
      match formOf given, ignoredOf given with
      | .error message, _ => misuse call.name message 2
      | _, .error message => do
          complain call.name message
          return 2
      | .ok form, .ok ignored =>
          let style : Style := {
            form
            foldCase := given.has 'i'
            allBlanks := given.has 'w'
            blankAmounts := given.has 'b'
            trailingBlanks := given.has 'Z'
            blankLines := given.has 'B'
            carriageReturns := given.has 'τ'
            ignored
            labels := given.values 'L'
            brief := given.has 'q'
            reportSame := given.has 's'
            asText := given.has 'a'
            newFiles := given.has 'N'
            tree := given.has 'r'
            excluded := given.values 'x'
            width := ((given.value? 'W').bind number?).getD 130
            changesOnly := given.has 'σ'
            spacesForTabs := given.has 't'
            options := optionText call.args }
          match given.operands with
          | [first, second] => comparePaths call style treeDepth false first second
          | _ :: _ :: extra :: _ => misuse call.name ("extra operand " ++ inQuotes extra) 2
          | operands =>
              misuse call.name ("missing operand after " ++ inQuotes (operands.getLastD call.name)) 2

end ArtifactPipeline.Tools
