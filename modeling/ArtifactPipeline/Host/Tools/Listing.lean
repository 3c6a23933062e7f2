import ArtifactPipeline.Host.Regex.Glob
import ArtifactPipeline.Host.Tools.Arrangement
import ArtifactPipeline.Host.Tools.Entries
import ArtifactPipeline.Host.Tools.Files
import ArtifactPipeline.Host.Tools.Naming
import ArtifactPipeline.Host.Tools.Sizes
import ArtifactPipeline.Text.Version

set_option autoImplicit false

namespace ArtifactPipeline.Tools

open Text (Octets)

namespace Listing

inductive Form where
  | long
  | single
  | columns
  | across
  | commas
  deriving DecidableEq, Repr

inductive SortKey where
  | none
  | name
  | ending
  | size
  | time
  | version
  | width
  deriving DecidableEq, Repr

inductive Marks where
  | none
  | slash
  | kind
  | all
  deriving DecidableEq, Repr

inductive Following where
  | never
  | givenDirs
  | given
  | always
  deriving DecidableEq, Repr

inductive Hidden where
  | none
  | almost
  | all
  deriving DecidableEq, Repr

structure TimeForm where
  far : Octets := "%b %e  %Y".toList
  recent : Octets := "%b %e %H:%M".toList

structure Style where
  form : Option Form := none
  key : Option SortKey := none
  reverse : Bool := false
  dirsFirst : Bool := false
  marks : Marks := .none
  following : Option Following := none
  hidden : Hidden := .none
  immediate : Bool := false
  recursive : Bool := false
  ignored : List Octets := []
  hides : List Octets := []
  naming : NameStyle := .literal
  masked : Bool := false
  inode : Bool := false
  blocks : Bool := false
  context : Bool := false
  owner : Bool := true
  group : Bool := true
  author : Bool := false
  numeric : Bool := false
  otherTime : Bool := false
  times : Option Octets := none
  fileSizes : SizeStyle := {}
  blockSizes : Option SizeStyle := none
  kibi : Bool := false
  width : Option Nat := none
  tab : Nat := 8
  ending : Char := '\n'

def formNames : List (String × Form) := [
  ("verbose", .long), ("long", .long), ("commas", .commas), ("horizontal", .across),
  ("across", .across), ("vertical", .columns), ("single-column", .single)]

def keyNames : List (String × SortKey) := [
  ("none", .none), ("time", .time), ("size", .size), ("extension", .ending),
  ("version", .version), ("width", .width)]

def timeNames : List (String × Nat) := [
  ("atime", 0), ("access", 0), ("use", 0), ("ctime", 1), ("status", 1), ("mtime", 2),
  ("modification", 2), ("birth", 3), ("creation", 3)]

def markNames : List (String × Marks) := [
  ("none", .none), ("slash", .slash), ("file-type", .kind), ("classify", .all)]

inductive Occasion where
  | always
  | never
  | watched
  deriving DecidableEq, Repr

def occasions : List (String × Occasion) := [
  ("always", .always), ("yes", .always), ("force", .always), ("never", .never), ("no", .never),
  ("none", .never), ("auto", .watched), ("tty", .watched), ("if-tty", .watched)]

def isAsked (name : String) (value : Octets) : Except String Bool :=
  if value.isEmpty then .ok true
  else (chooseFor name occasions value).map fun occasion => occasion == .always

def timeForm (text : Octets) : Except String TimeForm :=
  let posix := "posix-".toList.isPrefixOf text
  if posix then .ok {}
  else
    match text with
    | '+' :: format =>
        match Text.splitOn '\n' format with
        | [far, recent] => .ok { far, recent }
        | [format] => .ok { far := format, recent := format }
        | _ => .error ("invalid time style format " ++ quote text)
    | text =>
        let named : List (String × Nat) :=
          [("full-iso", 0), ("long-iso", 1), ("iso", 2), ("locale", 3)]
        let both (format : String) : TimeForm := ⟨format.toList, format.toList⟩
        match choose named text with
        | .ok 0 => .ok (both "%Y-%m-%d %H:%M:%S.%N %z")
        | .ok 1 => .ok (both "%Y-%m-%d %H:%M")
        | .ok 2 => .ok ⟨"%Y-%m-%d ".toList, "%m-%d %H:%M".toList⟩
        | .ok _ => .ok {}
        | .error several =>
            .error ((if several then "ambiguous" else "invalid") ++ " argument " ++
              inQuotes text ++ " for 'time style'\nValid arguments are:\n" ++
              "  - [posix-]full-iso\n  - [posix-]long-iso\n  - [posix-]iso\n  - [posix-]locale\n" ++
              "  - +FORMAT (e.g., +%H:%M) for a 'date'-style format")

def Style.withForm (style : Style) (form : Form) : Style :=
  { style with form := some form }

def Style.single (style : Style) : Style :=
  if style.form = some .long then style else style.withForm .single

def Style.withKey (style : Style) (key : SortKey) : Style :=
  { style with key := some key }

def Style.take (style : Style) (letter : Char) (value : Octets) :
    Except (String × Bool) Style :=
  let usage {α : Type} (result : Except String α) : Except (String × Bool) α :=
    result.mapError fun message => (message, true)
  let named {α : Type} [DecidableEq α] (name : String) (table : List (String × α)) :
      Except (String × Bool) α :=
    usage (chooseFor name table value)
  match letter with
  | 'a' => .ok { style with hidden := .all }
  | 'A' => .ok { style with hidden := .almost }
  | 'b' => .ok { style with naming := .escape }
  | 'B' => .ok { style with ignored := style.ignored ++ ["*~".toList, ".*~".toList] }
  | 'c' | 'u' => .ok { style with otherTime := true }
  | 'C' => .ok (style.withForm .columns)
  | 'd' => .ok { style with immediate := true }
  | 'f' =>
      let style := { style with hidden := .all, blocks := false }
      .ok ((if style.form = some .long then style.withForm .single else style).withKey .none)
  | 'F' => .ok { style with marks := .all }
  | 'ξ' => do
      let on ← usage (isAsked "--classify" value)
      return { style with marks := if on then .all else style.marks }
  | 'g' => .ok { style.withForm .long with owner := false }
  | 'G' => .ok { style with group := false }
  | 'h' => .ok { style with fileSizes := .readable, blockSizes := some .readable }
  | 'H' => .ok { style with following := some .given }
  | 'i' => .ok { style with inode := true }
  | 'I' => .ok { style with ignored := style.ignored ++ [value] }
  | 'k' => .ok { style with kibi := true }
  | 'l' => .ok (style.withForm .long)
  | 'L' => .ok { style with following := some .always }
  | 'm' => .ok (style.withForm .commas)
  | 'n' => .ok { style.withForm .long with numeric := true }
  | 'N' => .ok { style with naming := .literal }
  | 'o' => .ok { style.withForm .long with group := false }
  | 'p' => .ok { style with marks := .slash }
  | 'q' => .ok { style with masked := true }
  | 'Q' => .ok { style with naming := .doubled }
  | 'r' => .ok { style with reverse := true }
  | 'R' => .ok { style with recursive := true }
  | 's' => .ok { style with blocks := true }
  | 'S' => .ok (style.withKey .size)
  | 't' => .ok (style.withKey .time)
  | 'T' =>
      match byteCount? value with
      | some tab => .ok { style with tab }
      | none => .error ("invalid tab size: " ++ inQuotes value, false)
  | 'U' => .ok (style.withKey .none)
  | 'v' => .ok (style.withKey .version)
  | 'w' =>
      match number? value with
      | some width => .ok { style with width := some width }
      | none => .error ("invalid line width: " ++ inQuotes value, false)
  | 'x' => .ok (style.withForm .across)
  | 'X' => .ok (style.withKey .ending)
  | 'Z' => .ok { style with context := true }
  | '1' => .ok style.single
  | 'φ' => return style.withForm (← named "--format" formNames)
  | 'σ' => return style.withKey (← named "--sort" keyNames)
  | 'τ' => do
      let time ← named "--time" timeNames
      return { style with otherTime := time != 2 }
  | 'χ' => .ok { style with times := some value }
  | 'ι' => return { style with marks := ← named "--indicator-style" markNames }
  | 'γ' => .ok { style with dirsFirst := true }
  | 'η' => .ok { style with hides := style.hides ++ [value] }
  | 'θ' => .ok { style.withForm .long with times := some "full-iso".toList }
  | 'α' => .ok { style with author := true }
  | 'κ' => do
      let _ ← usage (isAsked "--color" value)
      return style
  | 'υ' => do
      let _ ← usage (isAsked "--hyperlink" value)
      return style
  | 'ζ' =>
      .ok { style.single with ending := Char.ofNat 0, masked := false, naming := .literal }
  | 'β' =>
      match SizeStyle.ofText? value with
      | some sizes => .ok { style with fileSizes := sizes, blockSizes := some sizes }
      | none => .error ("invalid --block-size argument " ++ inQuotes value, false)
  | 'ς' => .ok { style with fileSizes := .decimal, blockSizes := some .decimal }
  | 'δ' => .ok { style with following := some .givenDirs }
  | 'ω' => .ok { style with masked := false }
  | 'ψ' => return { style with naming := ← named "--quoting-style" NameStyle.named }
  | 'ε' => .ok { style with marks := .kind }
  | _ => .ok style

def options : OptionSet where
  flags := "aAbBcCdDfFgGhHiklLmnNopqQrRsStuUvxXZ1θγαζςδωε"
  valued := "ITwφστχιηβψ"
  optional := "κυξ"
  long := [("all", 'a'), ("almost-all", 'A'), ("author", 'α'), ("block-size", 'β'),
    ("classify", 'ξ'), ("color", 'κ'), ("context", 'Z'), ("dereference", 'L'),
    ("dereference-command-line", 'H'),
    ("dereference-command-line-symlink-to-dir", 'δ'), ("directory", 'd'), ("dired", 'D'),
    ("escape", 'b'), ("file-type", 'ε'), ("format", 'φ'), ("full-time", 'θ'),
    ("group-directories-first", 'γ'), ("hide", 'η'), ("hide-control-chars", 'q'),
    ("human-readable", 'h'), ("hyperlink", 'υ'), ("ignore", 'I'), ("ignore-backups", 'B'),
    ("indicator-style", 'ι'), ("inode", 'i'), ("kibibytes", 'k'), ("literal", 'N'),
    ("no-group", 'G'), ("numeric-uid-gid", 'n'), ("quote-name", 'Q'), ("quoting-style", 'ψ'),
    ("recursive", 'R'), ("reverse", 'r'), ("show-control-chars", 'ω'), ("si", 'ς'), ("size", 's'),
    ("sort", 'σ'), ("tabsize", 'T'), ("time", 'τ'), ("time-style", 'χ'), ("width", 'w'),
    ("zero", 'ζ')]

def Style.ofVars (vars : List (Octets × Octets)) : Style :=
  let value? (name : String) : Option Octets := vars.lookup name.toList
  let style : Style := { times := value? "TIME_STYLE" }
  let style := match (value? "QUOTING_STYLE").bind fun text =>
      (choose NameStyle.named text).toOption with
    | some naming => { style with naming }
    | none => style
  let style := match (value? "TABSIZE").bind number? with
    | some tab => { style with tab }
    | none => style
  let style := match (value? "COLUMNS").bind number? with
    | some width => { style with width := some width }
    | none => style
  match ((value? "LS_BLOCK_SIZE").or (value? "BLOCK_SIZE")).bind SizeStyle.ofText? with
  | some sizes => { style with fileSizes := sizes, blockSizes := some sizes }
  | none => style

structure Row where
  name : Octets
  entry : Option HostEntry
  goal : Option Inode := none
  opened : Bool := false

def Row.isDir (row : Row) : Bool :=
  match row.entry with
  | some ⟨_, _, .dir _ _⟩ => true
  | _ => false

def Row.isLinkedDir (row : Row) : Bool :=
  row.isDir || (match row.goal with
    | some (.dir _ _) => true
    | _ => false)

def Marks.of (marks : Marks) : Inode → Octets
  | .dir _ _ => if marks = .none then [] else ['/']
  | .link _ _ => if marks = .kind || marks = .all then ['@'] else []
  | .fifo _ _ => if marks = .kind || marks = .all then ['|'] else []
  | node =>
      let runnable := HostDisk.isExecutable (HostDisk.modeOf node) && kindLetter node == '-'
      if marks = .all && runnable then ['*'] else []

def endingOf (name : Octets) : Octets :=
  if name.contains '.' then '.' :: (name.reverse.takeWhile fun c => c != '.').reverse else []

def widthOf (text : Octets) : Nat :=
  (text.filter fun c => 32 ≤ c.toNat && c.toNat != 127).length

namespace Style

def special (style : Style) (c : Char) : Bool :=
  (style.naming == .escape && c == ' ') ||
    (match style.marks with
    | .all => "*=>@|".toList.contains c
    | .kind => "=>@|".toList.contains c
    | _ => false)

def maskedName (style : Style) (name : Octets) : Octets :=
  let asIs := style.naming == .literal || style.naming == .shell || style.naming == .shellAlways
  if style.masked && asIs then NameStyle.masked name else name

def showName (style : Style) (name : Octets) : Octets :=
  style.maskedName (style.naming.apply style.special name)

def showHeading (style : Style) (name : Octets) : Octets :=
  style.maskedName (style.naming.apply (· == ':') name)

def orderOf (style : Style) (disk : HostDisk) (a b : Row) : Ordering :=
  let size (row : Row) : Nat := (row.entry.map (sizeOf disk)).getD 0
  let time (row : Row) : Nat := (row.entry.map fun entry => HostDisk.mtimeOf entry.node).getD 0
  let byName := compare (String.ofList a.name) (String.ofList b.name)
  match style.key.getD .name with
  | .none => .eq
  | .name => byName
  | .ending =>
      (compare (String.ofList (endingOf a.name)) (String.ofList (endingOf b.name))).then byName
  | .size => (compare (size b) (size a)).then byName
  | .time => (compare (time b) (time a)).then byName
  | .version => (Text.Version.compareNames a.name b.name).then byName
  | .width => (compare (widthOf a.name) (widthOf b.name)).then byName

def inOrder (style : Style) (disk : HostDisk) (rows : List Row) : List Row :=
  if style.key = some .none then rows
  else
    let before (a b : Row) : Bool :=
      if style.reverse then style.orderOf disk b a != .gt else style.orderOf disk a b != .gt
    let rows := rows.mergeSort before
    if style.dirsFirst then
      rows.filter Row.isLinkedDir ++ rows.filter fun row => !row.isLinkedDir
    else rows

def blockStyle (style : Style) : SizeStyle :=
  style.blockSizes.getD { unit := 1024 }

def blocksOf (style : Style) (disk : HostDisk) (row : Row) : Octets :=
  match row.entry with
  | some entry => style.blockStyle.apply (roomOf disk entry) 1
  | none => ['?']

end Style

def widest (texts : List Octets) : Nat :=
  texts.foldl (fun width text => max width text.length) 0

def halfYear : Nat := 31556952 / 2 * Moment.second

structure View where
  style : Style
  disk : HostDisk
  zone : Zone
  times : TimeForm

namespace View

def size (view : View) (entry : HostEntry) : Octets :=
  match entry.node with
  | .device device =>
      let (major, minor) := deviceNumbers device
      decimal major ++ [',', ' '] ++ decimal minor
  | _ => view.style.fileSizes.apply (sizeOf view.disk entry) 1

def moment (view : View) (entry : HostEntry) : Octets :=
  let time := HostDisk.mtimeOf entry.node
  let now := view.disk.clock
  let format :=
    if now < time + halfYear && time ≤ now then view.times.recent else view.times.far
  formatDate view.zone time format

def inode (row : Row) : Octets :=
  match row.entry with
  | some entry => decimal entry.id
  | none => ['?']

def links (view : View) (row : Row) : Octets :=
  match row.entry with
  | some entry => decimal (nameCount view.disk entry)
  | none => ['?']

def person (view : View) (row : Row) : Octets :=
  if row.entry.isNone then ['?'] else if view.style.numeric then ['0'] else "root".toList

def sizeOrNone (view : View) (row : Row) : Octets :=
  match row.entry with
  | some entry => view.size entry
  | none => ['?']

def mark (view : View) (row : Row) : Octets :=
  match row.entry with
  | some entry => view.style.marks.of entry.node
  | none => if view.style.marks = .kind || view.style.marks = .all then ['@'] else []

def name (view : View) (quoted : Bool) (row : Row) : Octets :=
  let shown := view.style.showName row.name
  if quoted && shown = row.name then ' ' :: shown else shown

def front (view : View) (all : List Row) (row : Row) : Octets :=
  let style := view.style
  let field (text : Row → Octets) : Octets :=
    let width := if style.form = some .commas then 0 else widest (all.map text)
    padLeft ' ' width (text row) ++ [' ']
  (if style.inode then field inode else []) ++
    (if style.blocks then field (style.blocksOf view.disk) else []) ++
    (if style.context && style.form != some .long then ['?', ' '] else [])

def longRow (view : View) (all : List Row) (quoted : Bool) (row : Row) : Octets :=
  let style := view.style
  let padded (text : Row → Octets) : Octets :=
    padLeft ' ' (widest (all.map text)) (text row) ++ [' ']
  let person : Octets :=
    if style.numeric then padded view.person
    else padRight (widest (all.map view.person)) (view.person row) ++ [' ']
  let mode := match row.entry with
    | some entry => modeText entry.node
    | none => "l?????????".toList
  let moment := match row.entry with
    | some entry => view.moment entry
    | none => "           ?".toList
  let target := match row.entry with
    | some ⟨_, _, .link target _⟩ =>
        let mark := match row.goal with
          | some node => if style.marks = .slash then [] else style.marks.of node
          | none => []
        " -> ".toList ++ style.showName target ++ mark
    | _ => view.mark row
  view.front all row ++ mode ++ [' '] ++ padded view.links ++
    (if style.owner then person else []) ++ (if style.group then person else []) ++
    (if style.context then ['?', ' '] else []) ++ (if style.author then person else []) ++
    padded view.sizeOrNone ++ moment ++ [' '] ++ view.name quoted row ++ target ++ [style.ending]

def show' (view : View) (all rows : List Row) : Octets :=
  let style := view.style
  let form := style.form.getD .single
  let width := style.width.getD 80
  let aligned := style.naming.isOptional && (form = .long ||
    (width != 0 && (form = .columns || form = .across)))
  let quoted := aligned && all.any fun row => style.showName row.name != row.name
  if form = .long then rows.flatMap (view.longRow all quoted)
  else
    let text (row : Row) : Octets :=
      view.front all row ++ view.name quoted row ++ view.mark row
    let cells := rows.map fun row =>
      let text := text row
      (⟨text, widthOf text⟩ : Arrangement.Cell)
    let page : Arrangement.Page := { width, tab := style.tab, ending := style.ending }
    match form with
    | .columns | .across =>
        if rows.isEmpty then []
        else if width = 0 then Arrangement.inRow page ' ' cells
        else Arrangement.inColumns page (form = .columns) cells
    | .commas => if rows.isEmpty then [] else Arrangement.inRow page ',' cells
    | _ => cells.flatMap fun cell => cell.text ++ [style.ending]

end View

structure Report where
  blocks : List Octets := []
  complaints : List (String × Nat) := []

def Report.add (report more : Report) : Report :=
  ⟨report.blocks ++ more.blocks, report.complaints ++ more.complaints⟩

def isLeftOut (style : Style) (name : Octets) : Bool :=
  let fits (patterns : List Octets) : Bool := patterns.any fun pattern =>
    (name.head? != some '.' || pattern.head? = some '.') && Glob.textFits {} pattern name
  (name.head? = some '.' && style.hidden = .none) ||
    (style.hidden = .almost && (name = ['.'] || name = ['.', '.'])) ||
    (style.hidden = .none && fits style.hides) || fits style.ignored

def Style.needsEntry (style : Style) : Bool :=
  style.form = some .long || style.blocks || style.context || style.key = some .time ||
    style.key = some .size || style.inode || style.recursive || style.marks != .none ||
    style.dirsFirst

def rowOf (scene : Scene) (style : Style) (path name : Octets) (entry : HostEntry) :
    Row × Report :=
  let full := inDirectory path name
  match entry.node with
  | .link _ _ =>
      let goal := scene.disk.stat [] (HostDisk.spotText entry.spot)
      if style.following = some .always && style.needsEntry then
        match goal with
        | .ok entry => (⟨name, some entry, none, false⟩, {})
        | .error fault =>
            (⟨name, none, none, false⟩,
              { complaints := [("cannot access " ++ quote full ++ ": " ++ fault.message, 1)] })
      else (⟨name, some entry, goal.toOption.map HostEntry.node, false⟩, {})
  | _ => (⟨name, some entry, none, false⟩, {})

def rowsIn (scene : Scene) (style : Style) (path : Octets) (dir : HostEntry) :
    List Row × Report :=
  let disk := scene.disk
  let own := (disk.namesIn dir.spot).filterMap fun name =>
    (disk.get? (dir.spot ++ [name])).map fun entry => (name, entry)
  let up := (disk.get? dir.spot.dropLast).getD dir
  let found := (['.'], dir) :: (['.', '.'], up) :: own
  let rows := (found.filter fun (name, _) => !isLeftOut style name).map fun (name, entry) =>
    rowOf scene style path name entry
  (rows.map (·.1), rows.foldl (fun report row => report.add row.2) {})

def listDirectory (scene : Scene) (view : View) (headed : Bool) :
    Nat → List Spot → Octets → HostEntry → Report
  | 0, _, _, _ => {}
  | depth + 1, above, path, dir =>
      let style := view.style
      if style.recursive && above.contains dir.spot then
        { complaints := [(quoteIfNeeded path ++ ": not listing already-listed directory", 2)] }
      else
        let (rows, report) := rowsIn scene style path dir
        let rows := style.inOrder scene.disk rows
        let heading := if headed then style.showHeading path ++ ":\n".toList else []
        let room := rows.foldl (fun sum row =>
          sum + (row.entry.map (roomOf scene.disk)).getD 0) 0
        let total :=
          if style.form = some .long || style.blocks then
            "total ".toList ++ style.blockStyle.apply room 1 ++ [style.ending]
          else []
        let report := { report with blocks := [heading ++ total ++ view.show' rows rows] }
        if !style.recursive then report
        else
          rows.foldl (fun report row =>
            match row.entry with
            | some entry =>
                if row.isDir && row.name != ['.'] && row.name != ['.', '.'] then
                  report.add (listDirectory scene view headed depth (dir.spot :: above)
                    (inDirectory path row.name) entry)
                else report
            | none => report) report

def operandOf (scene : Scene) (style : Style) (following : Following) (path : Octets) :
    Except String Row :=
  let own := scene.lstat path
  let followed := scene.stat path
  let chosen : Except HostFault HostEntry :=
    match following with
    | .always => followed
    | .given =>
        match followed with
        | .ok entry => .ok entry
        | .error .missing => own
        | .error fault => .error fault
    | .givenDirs =>
        match followed with
        | .ok ⟨spot, id, .dir mtime mode⟩ => .ok ⟨spot, id, .dir mtime mode⟩
        | _ => own
    | .never => own
  match chosen with
  | .error fault => .error ("cannot access " ++ quote path ++ ": " ++ fault.message)
  | .ok entry =>
      let goal := match entry.node with
        | .link _ _ => followed.toOption.map HostEntry.node
        | _ => none
      let row : Row := ⟨path, some entry, goal, false⟩
      .ok { row with opened := row.isDir && !style.immediate }

def report (scene : Scene) (view : View) (operands : List Octets) : Report :=
  let style := view.style
  let following := style.following.getD
    (if style.immediate || style.marks = .all || style.form = some .long then .never
    else .givenDirs)
  let here : Except String Row :=
    match scene.disk.get? scene.cwd with
    | some entry => .ok ⟨['.'], some entry, none, true⟩
    | none => .ok ⟨['.'], some ⟨scene.cwd, 0, .dir 0 0⟩, none, true⟩
  let found :=
    if operands.isEmpty && !style.immediate then [here]
    else
      (if operands.isEmpty then [['.']] else operands).map (operandOf scene style following)
  let complaints := found.filterMap fun result =>
    match result with
    | .error message => some (message, 2)
    | .ok _ => none
  let rows := style.inOrder scene.disk (found.filterMap Except.toOption)
  let plain := rows.filter fun row => !row.opened
  let dirs := rows.filter Row.opened
  let headed := style.recursive || 1 < operands.length
  let start : Report :=
    { blocks := if plain.isEmpty then [] else [view.show' rows plain], complaints }
  dirs.foldl (fun report row =>
    match row.entry with
    | some entry =>
        report.add (listDirectory scene view headed treeDepth [] row.name entry)
    | none => report) start

end Listing

def ls : Tool := fun call =>
  match Listing.options.read call.args with
  | .error message => misuse call.name message 2
  | .ok given => do
      let chosen := given.options.foldlM (fun (style : Listing.Style) (letter, value) =>
        style.take letter value) (Listing.Style.ofVars call.vars)
      match chosen with
      | .error (message, meaningless) =>
          if meaningless then misuse call.name message 1
          else do
            complain call.name message
            return 2
      | .ok style =>
          let style := if style.otherTime && style.form != some .long && style.key.isNone then
            style.withKey .time else style
          let style := if style.kibi && style.blockSizes.isNone then
            { style with blockSizes := some { unit := 1024 } } else style
          match Listing.timeForm (style.times.getD "locale".toList) with
          | .error message => misuse call.name message 2
          | .ok times => do
              let zone := Zone.ofVars call.vars
              let report ← Chore.look fun scene =>
                Listing.report scene { style, disk := scene.disk, zone, times } given.operands
              Chore.forEach report.complaints fun (message, _) => complain call.name message
              let status := report.complaints.foldl (fun worst (_, status) => max worst status) 0
              finish call (Text.joinWith ['\n'] report.blocks) status

end ArtifactPipeline.Tools
