import ArtifactPipeline.Host.Regex.Glob
import ArtifactPipeline.Host.RichShell.Assign
import ArtifactPipeline.Host.RichShell.Braces
import ArtifactPipeline.Host.RichShell.Quoting
import ArtifactPipeline.Host.Shell.Expansion

set_option autoImplicit false

namespace ArtifactPipeline.RichShell

open Text (Octets)
open Shell (isNameStart isNameChar isName Origin Field Fields fieldText isSpaceSeparator splitField dropNewlines)

inductive Atom where
  | char (c : Char) (origin : Origin)
  | anchor
  | cut (star : Bool)
  deriving DecidableEq, Repr

def atomsOf (origin : Origin) (text : Octets) : List Atom :=
  text.map fun c => .char c origin

def originOf (quoted : Bool) : Origin :=
  if quoted then .quoted else .inserted

def separators (state : State) : Octets :=
  match state.stored? "IFS".toList with
  | some { held, .. } => held.text?.getD [' ', '\t', '\n']
  | none => [' ', '\t', '\n']

def joint (state : State) : Octets :=
  (separators state).take 1

namespace Fields

def step (separators : Octets) (fields : Fields) : Atom → Fields
  | .char c .inserted =>
      if separators.contains c then fields.separate c else fields.add c false
  | .char c origin => fields.add c (origin == .quoted)
  | .anchor => fields.start
  | .cut _ =>
      -- The separator that would join the items divides them as well.
      match separators.head?.filter fun c => !isSpaceSeparator c with
      | some c => fields.separate c
      | none => { fields.close false with absorbing := false }

end Fields

def splitAtoms (separators : Octets) (atoms : List Atom) : List Field :=
  ((atoms.foldl (Fields.step separators) {}).close false).done.reverse

def unsplit (joint : Octets) (atoms : List Atom) : Field :=
  atoms.flatMap fun atom =>
    match atom with
    | .char c origin => [(c, origin == .quoted)]
    | .anchor => []
    | .cut star => (if star then joint else [' ']).map fun c => (c, true)

def asInserted (atoms : List Atom) : List Atom :=
  atoms.map fun atom =>
    match atom with
    | .char c .plain => .char c .inserted
    | atom => atom

def globStyle (state : State) (habit : String) : GlobStyle :=
  { extended := state.does "extglob", fold := state.does habit }

def patternOf (style : GlobStyle) (field : Field) : Regex :=
  Glob.regex style (Glob.protect field)

def startsFitting (pattern : Regex) (text : Octets) : List Nat :=
  let size := text.length
  (pattern.places { longest := false, exact := false } (Regex.Spot.ofText text)).map fun spot =>
    size - spot.rest.length

def dropStart (longest : Bool) (pattern : Regex) (text : Octets) : Octets :=
  match startsFitting pattern text with
  | [] => text
  | size :: sizes => text.drop (sizes.foldl (if longest then max else min) size)

def dropEnd (longest : Bool) (pattern : Regex) (text : Octets) : Octets :=
  let sizes := List.range (text.length + 1)
  let sizes := if longest then sizes else sizes.reverse
  match sizes.find? fun size => Glob.fits pattern (text.drop size) with
  | some size => text.take size
  | none => text

inductive Anchoring where
  | anywhere
  | everywhere
  | atStart
  | atEnd
  deriving DecidableEq, Repr

def replaceParts (all : Bool) (pattern : Regex) (make : Octets → Octets) : Nat → Octets → Octets
  | 0, text => text
  | fuel + 1, text =>
      match text with
      | [] => []
      | c :: rest =>
          let size := (startsFitting pattern text).foldl max 0
          if size = 0 then c :: replaceParts all pattern make fuel rest
          else
            let made := make (text.take size)
            let rest := text.drop size
            made ++ if all then replaceParts all pattern make fuel rest else rest

def replaceIn (anchoring : Anchoring) (pattern : Regex) (make : Octets → Octets) (text : Octets) :
    Octets :=
  match anchoring with
  | .anywhere =>
      if text.isEmpty then if Glob.fits pattern [] then make [] else []
      else replaceParts false pattern make (text.length + 1) text
  | .everywhere =>
      if text.isEmpty then if Glob.fits pattern [] then make [] else []
      else replaceParts true pattern make (text.length + 1) text
  | .atStart =>
      match startsFitting pattern text with
      | [] => text
      | size :: sizes =>
          let size := sizes.foldl max size
          make (text.take size) ++ text.drop size
  | .atEnd =>
      match (List.range (text.length + 1)).find? fun size => Glob.fits pattern (text.drop size) with
      | some size => text.take size ++ make (text.drop size)
      | none => text

def filledIn (replacement : Field) (part : Octets) : Octets :=
  match replacement with
  | ('&', false) :: rest => part ++ filledIn rest part
  | ('\\', false) :: ('&', false) :: rest => '&' :: filledIn rest part
  | ('\\', false) :: ('\\', false) :: rest => '\\' :: filledIn rest part
  | (c, _) :: rest => c :: filledIn rest part
  | [] => []

def recase (change : CaseChange) (all : Bool) (pattern : Option Regex) (text : Octets) : Octets :=
  let changed (c : Char) : Char :=
    match pattern with
    | some pattern => if Glob.fits pattern [c] then change.apply c else c
    | none => change.apply c
  match text with
  | [] => []
  | c :: rest => changed c :: if all then rest.map changed else rest

def isMagic (style : GlobStyle) (field : Field) : Bool :=
  go false field
where
  go : Bool → Field → Bool
    | _, [] => false
    | opened, ('\\', false) :: _ :: rest => go opened rest
    | opened, (c, quoted) :: rest =>
        if quoted then go opened rest
        else if c == '*' || c == '?' then true
        else if c == '[' then go true rest
        else if c == ']' && opened then true
        else if style.extended && "+@!".toList.contains c && rest.head? = some ('(', false) then true
        else go opened rest

structure FileStyle where
  glob : GlobStyle := {}
  hidden : Bool := false
  deep : Bool := false

def namesFor (style : FileStyle) (scene : Scene) (lead : Octets) (part : Field) : List Octets :=
  if isMagic style.glob part then
    match scene.stat (if lead.isEmpty then ['.'] else lead) with
    | .ok ⟨spot, _, .dir _ _⟩ =>
        let asked := (part.head?.map (·.1)) == some '.'
        let pattern := patternOf style.glob part
        (scene.disk.namesIn spot).filter fun name =>
          (asked || style.hidden || name.head? != some '.') && Glob.fits pattern name
    | _ => []
  else [fieldText (Glob.protect part)]

def treeDepth : Nat := 64

def treeBelow (style : FileStyle) (scene : Scene) (files : Bool) : Nat → Octets → List Octets
  | 0, _ => []
  | depth + 1, lead =>
      match scene.lstat (if lead.isEmpty then ['.'] else lead) with
      | .ok ⟨spot, _, .dir _ _⟩ =>
          ((scene.disk.namesIn spot).filter fun name =>
              style.hidden || name.head? != some '.').flatMap fun name =>
            let path := lead ++ name
            match scene.lstat path with
            | .ok ⟨_, _, .dir _ _⟩ => path :: treeBelow style scene files depth (path ++ ['/'])
            | _ => if files then [path] else []
      | _ => []

def isDeep (style : FileStyle) (part : Field) : Bool :=
  style.deep && part == [('*', false), ('*', false)]

def pathsFrom (style : FileStyle) (scene : Scene) : List Octets → List Field → List Octets
  | leads, [] => leads
  | leads, [part] =>
      leads.flatMap fun lead =>
        if isDeep style part then
          (if lead.isEmpty then [] else [lead]) ++ treeBelow style scene true treeDepth lead
        else (namesFor style scene lead part).map (lead ++ ·)
  | leads, part :: rest =>
      let leads := leads.flatMap fun lead =>
        if isDeep style part then
          lead :: (treeBelow style scene false treeDepth lead).map fun path => path ++ ['/']
        else (namesFor style scene lead part).map fun name => lead ++ name ++ ['/']
      pathsFrom style scene leads rest

def pathsFor (style : FileStyle) (scene : Scene) (field : Field) : List Octets :=
  HostDisk.inOrder ((pathsFrom style scene [[]] (splitField field)).filter fun path =>
    (scene.lstat path).isOk)

inductive Content where
  | unset
  | one (text : Octets)
  | many (texts : List Octets) (star : Bool)

structure Found where
  content : Content
  shown : Octets
  name : Option Octets := none
  subscript : Option (Octets × Octets) := none
  places : List Nat := []

structure Expander where
  output : Command → Nat → Sh Octets
  outputOfText : Octets → Sh Octets
  channel : Bool → Command → Sh Octets

def specialValue? (state : State) (name : Octets) : Option Content :=
  let one (text : Octets) : Option Content := some (.one text)
  match name with
  | ['?'] => one (decimal state.status)
  | ['#'] => one (decimal state.args.length)
  | ['$'] => one (decimal state.process)
  | ['!'] => some (match state.latest with
      | some process => .one (decimal process)
      | none => .unset)
  | ['-'] =>
      let letters := "abefhkmnptuvxBCEHPT".toList.filter state.has
      one (letters ++ if !state.fromFile then ['c'] else if state.isScript then [] else ['s'])
  | ['@'] => some (.many state.args false)
  | ['*'] => some (.many state.args true)
  | name =>
      if !name.isEmpty && name.all Char.isDigit then
        some (match (String.ofList name).toNat? with
          | some 0 => .one state.name
          | some (index + 1) =>
              match state.args[index]? with
              | some arg => .one arg
              | none => .unset
          | none => .unset)
      else none

def Held.texts : Held → List Octets
  | .nothing => []
  | .text value => [value]
  | .list items _ => items.map (·.2)
  | .table items _ => (byShelf items).map (·.2)

def Held.keys : Held → List Octets
  | .nothing => []
  | .text _ => [['0']]
  | .list items _ => items.map fun item => decimal item.1
  | .table items _ => (byShelf items).map (·.1)

def elementOf (name : Octets) (held : Held) (subscript : Octets) : Sh Content := do
  let content (text? : Option Octets) : Content :=
    match text? with
    | some text => .one text
    | none => .unset
  match held with
  | .table items _ => return content (items.lookup subscript)
  | held => do
      let items := held.items
      let index ← computed subscript
      match Arithmetic.indexOf? items index with
      | some index => return content (items.lookup index)
      | none => do
          if held != .nothing || index < 0 then
            Sh.complain (String.ofList name ++ ": bad array subscript")
          return .unset

def referenceOf? (text : Octets) : Option (Octets × Option Octets) :=
  let name := text.takeWhile isNameChar
  match text.drop name.length with
  | [] => if isName name then some (name, none) else none
  | '[' :: rest =>
      if isName name && rest.getLast? = some ']' && 1 < rest.length then
        some (name, some rest.dropLast)
      else none
  | _ => none

def requireSet (bare : Bool) (found : Found) : Sh Unit := do
  match found.content with
  | .unset =>
      if (← get).has 'u' then
        let mark := bare && !(found.shown.head?.map isNameStart).getD false
        Sh.giveUp ((if mark then "$" else "") ++ String.ofList found.shown ++ ": unbound variable")
  | _ => pure ()

def Content.joined (joint : Octets) : Content → Option Octets
  | .unset => none
  | .one text => some text
  | .many texts star => some (Text.joinWith (if star then joint else [' ']) texts)

def Content.map (f : Octets → Octets) : Content → Content
  | .unset => .unset
  | .one text => .one (f text)
  | .many texts star => .many (texts.map f) star

def Content.atoms (joint : Octets) (quoted : Bool) : Content → List Atom
  | .unset => []
  | .one text => atomsOf (originOf quoted) text
  | .many texts star =>
      if quoted && star then atomsOf .quoted (Text.joinWith joint texts)
      else
        let origin := originOf quoted
        let each := texts.map fun text =>
          if quoted then .anchor :: atomsOf origin text else atomsOf origin text
        match each with
        | [] => []
        | first :: others => first ++ others.flatMap fun atoms => .cut star :: atoms

def homeOf (state : State) (user : Octets) : Option Octets :=
  match String.ofList user with
  | "" => some ((state.valueOf? "HOME").getD "/root".toList)
  | "+" => state.valueOf? "PWD"
  | "-" => state.valueOf? "OLDPWD"
  | "root" => some "/root".toList
  | text =>
      match text.toNat? with
      | some index => (state.directory :: state.stack)[index]?
      | none => none

def formOf (state : State) (letter : Char) (text : Octets) : Octets :=
  match letter with
  | 'Q' => quotedForm text
  | 'U' => text.map Char.toUpper
  | 'L' => text.map Char.toLower
  | 'u' =>
      match text with
      | [] => []
      | c :: rest => c.toUpper :: rest
  | 'E' => (unescaped (text.length + 1) text)
  | 'P' => prompt (text.length + 1) text
  | 'K' | 'k' => quotedForm text
  | _ => text
where
  unescaped : Nat → Octets → Octets
    | 0, text => text
    | fuel + 1, text =>
        match text with
        | '\\' :: c :: rest =>
            let (chars, rest) := escapeOf c rest
            chars ++ unescaped fuel rest
        | c :: rest => c :: unescaped fuel rest
        | [] => []
  prompt : Nat → Octets → Octets
    | 0, text => text
    | fuel + 1, text =>
        match text with
        | '\\' :: c :: rest =>
            let host := state.valueOf "HOSTNAME"
            let shown : Octets := match c with
              | 'u' => "root".toList
              | 'h' => host.takeWhile fun c => c != '.'
              | 'H' => host
              | 'w' => state.directory
              | 'W' => (state.directory.reverse.takeWhile fun c => c != '/').reverse
              | '$' => ['#']
              | 's' => (state.name.reverse.takeWhile fun c => c != '/').reverse
              | 'v' => "5.2".toList
              | 'V' => "5.2.21".toList
              | 'j' => decimal state.jobs.length
              | 'n' => ['\n']
              | 'r' => ['\r']
              | 'a' => ['\x07']
              | 'e' => ['\x1b']
              | '\\' => ['\\']
              | '[' | ']' => []
              | c => ['\\', c]
            shown ++ prompt fuel rest
        | c :: rest => c :: prompt fuel rest
        | [] => []

def bounds? (size : Nat) (start : Int) (length : Option Int) : Except Int (Option (Nat × Nat)) :=
  let start := if start < 0 then (size : Int) + start else start
  if start < 0 || (size : Int) < start then .ok none
  else
    match length with
    | none => .ok (some (start.toNat, size - start.toNat))
    | some length =>
        if 0 ≤ length then .ok (some (start.toNat, length.toNat))
        else
          let ending := (size : Int) + length
          if ending < start then .error length else .ok (some (start.toNat, (ending - start).toNat))

def itemsFrom (texts : List Octets) (places : List Nat) (first : Int) (count : Option Nat) :
    List Octets :=
  if first < 0 then []
  else
    let behind := ((places.zip texts).dropWhile fun item => (item.1 : Int) < first).map (·.2)
    match count with
    | some count => behind.take count
    | none => behind

def expandForm (found : Found) (letter : Char) (quoted : Bool) : Sh (List Atom) := do
  let joint' := joint (← get)
  let entry ←
    match found.name with
    | some name => seen? name
    | none => pure none
  let held := (entry.map (·.held)).getD .nothing
  let one (text : Octets) : Sh (List Atom) := return atomsOf (originOf quoted) text
  let letters := (entry.map Variable.letters).getD []
  let isWhole := match found.content with
    | .many _ _ => true
    | _ => false
  let name := found.name.getD []
  match letter, found.content with
  | 'a', .many texts star => return (Content.many (texts.map fun _ => letters) star).atoms joint' quoted
  | 'a', .unset => if entry.isSome then one letters else return []
  | 'a', _ => one letters
  | 'A', content =>
      match entry with
      | none =>
          match content with
          | .many texts _ =>
              one ("set -- ".toList ++ Text.joinWith [' '] (texts.map quotedForm))
          | _ => return []
      | some entry =>
          if isWhole && (held.isList || held.isTable) then one (declaration name entry)
          else
            match held.text? with
            | none => if letters.isEmpty then return [] else one ("declare -".toList ++ letters ++ ' ' :: name)
            | some text =>
                let body := name ++ '=' :: quotedForm text
                one (if letters.isEmpty then body else "declare -".toList ++ letters ++ ' ' :: body)
  | 'K', .many _ _ =>
      match held with
      | .list items _ =>
          one (Text.joinWith [' '] (items.map fun (index, text) =>
            decimal index ++ ' ' :: declaredForm text))
      | .table items _ =>
          one ((byShelf items).flatMap fun (key, text) =>
            keyForm key ++ ' ' :: declaredForm text ++ [' '])
      | _ => return ((found.content.map (formOf (← get) letter)).atoms joint' quoted)
  | 'k', .many _ star =>
      match held with
      | .list _ _ | .table _ _ =>
          let pairs := (held.keys.zip held.texts).flatMap fun (key, text) => [key, text]
          return (Content.many pairs star).atoms joint' quoted
      | _ => return ((found.content.map (formOf (← get) letter)).atoms joint' quoted)
  | letter, content => return (content.map (formOf (← get) letter)).atoms joint' quoted

mutual

def expandPieces (expander : Expander) : Nat → Pieces → Sh (List Atom)
  | 0, _ => Sh.drop "word too deeply nested"
  | _ + 1, [] => pure []
  | depth + 1, piece :: rest => do
      let atoms ← expandPiece expander depth piece
      return atoms ++ (← expandPieces expander depth rest)

def expandPiece (expander : Expander) : Nat → Piece → Sh (List Atom)
  | 0, _ => Sh.drop "word too deeply nested"
  | depth + 1, piece => do
      match piece with
      | .text chars quoted =>
          return if quoted then .anchor :: atomsOf .quoted chars else atomsOf .plain chars
      | .home user =>
          match homeOf (← get) user with
          | some home => return .anchor :: atomsOf .quoted home
          | none => return atomsOf .plain ('~' :: user)
      | .output script line quoted => do
          return atomsOf (originOf quoted) (dropNewlines (← expander.output script line))
      | .outputOfText script quoted => do
          return atomsOf (originOf quoted) (dropNewlines (← expander.outputOfText script))
      | .arithmetic expression quoted => do
          let text ← expandJoined expander depth expression
          return atomsOf (originOf quoted) (integerText (← computed text))
      | .channel forWriting script => do
          return .anchor :: atomsOf .quoted (← expander.channel forWriting script)
      | .senseless text => Sh.drop (String.ofList text ++ ": bad substitution")
      | .elements _ => return []
      | .param target use words quoted => expandParam expander depth target use words quoted

def expandJoined (expander : Expander) : Nat → Pieces → Sh Octets
  | 0, _ => Sh.drop "word too deeply nested"
  | depth + 1, pieces => do
      let atoms ← expandPieces expander depth pieces
      return fieldText (unsplit (joint (← get)) atoms)

def find (expander : Expander) : Nat → Target → Sh Found
  | 0, _ => Sh.drop "word too deeply nested"
  | depth + 1, target => do
      match target with
      | .name name => do
          match specialValue? (← get) name with
          | some content =>
              return { content, shown := name, places := (List.range (← get).args.length).map (· + 1) }
          | none => do
              let content := match ← value? name with
                | some text => Content.one text
                | none => .unset
              return { content, shown := name, name := some name }
      | .element name raw subscript => do
          let subscript ← expandJoined expander depth subscript
          let held := ((← seen? name).map (·.held)).getD .nothing
          let content ← elementOf name held subscript
          return {
            content
            shown := name ++ '[' :: raw ++ [']']
            name := some name
            subscript := some (raw, subscript) }
      | .all name star => do
          let held := ((← seen? name).map (·.held)).getD .nothing
          let places := match held with
            | .list items _ => items.map (·.1)
            | held => List.range held.texts.length
          return {
            content := .many held.texts star
            shown := name ++ (if star then "[*]" else "[@]").toList
            name := some name
            places }
      | .keys name star => do
          let held := ((← seen? name).map (·.held)).getD .nothing
          return { content := .many held.keys star, shown := name }
      | .starting start star => do
          let names := ((← get).allVars.filterMap fun (name, entry) =>
            if start.isPrefixOf name && entry.held != .nothing then some name else none)
          return { content := .many (HostDisk.inOrder names) star, shown := start }
      | .named target => do
          let isReference ←
            match target with
            | .name name => do
                pure ((((← get).stored? name).map (·.reference)).getD false)
            | _ => pure false
          if isReference then
            match target with
            | .name name => return { content := .one ((← get).resolve name), shown := name }
            | _ => return { content := .unset, shown := [] }
          else do
            let found ← find expander depth target
            match found.content with
            | .unset => Sh.drop (String.ofList found.shown ++ ": invalid indirect expansion")
            | content => do
                let text := (content.joined (joint (← get))).getD []
                match specialValue? (← get) text with
                | some _ => find expander depth (.name text)
                | none =>
                    match referenceOf? text with
                    | some (name, none) => find expander depth (.name name)
                    | some (name, some ['@']) => find expander depth (.all name false)
                    | some (name, some ['*']) => find expander depth (.all name true)
                    | some (name, some subscript) =>
                        find expander depth (.element name subscript [.text subscript true])
                    | none => Sh.drop (String.ofList text ++ ": invalid variable name")

def expandParam (expander : Expander) :
    Nat → Target → ParamUse → List Pieces → Bool → Sh (List Atom)
  | 0, _, _, _, _ => Sh.drop "word too deeply nested"
  | depth + 1, target, use, words, quoted => do
      let found ← find expander depth target
      let content := found.content
      let joint' := joint (← get)
      let origin := originOf quoted
      let word := words.headD []
      let absent (colon : Bool) : Bool :=
        match content with
        | .unset => true
        | .one text => colon && text.isEmpty
        | .many texts _ => texts.isEmpty || (colon && texts.all List.isEmpty && texts.length < 2)
      let insert : Sh (List Atom) := do
        let atoms ← expandPieces expander depth (markHome (fun _ => false) word)
        return if quoted then atoms else asInserted atoms
      let asIs : List Atom := content.atoms joint' quoted
      let field (pieces : Pieces) : Sh Field := do
        return unsplit (joint (← get)) (← expandPieces expander depth pieces)
      match use with
      | .value | .bare => do
          requireSet (use == .bare) found
          return asIs
      | .length => do
          requireSet false found
          match content with
          | .many texts _ => do
              if texts.isEmpty && (← get).has 'u' && found.name.isSome then
                if (← seen? (found.name.getD [])).isNone then
                  Sh.giveUp (String.ofList (found.name.getD []) ++ ": unbound variable")
              return atomsOf origin (decimal texts.length)
          | content => return atomsOf origin (decimal ((content.joined joint').getD []).length)
      | .orElse colon => if absent colon then insert else return asIs
      | .ifSet colon => if absent colon then return [] else insert
      | .orAssign colon =>
          if absent colon then do
            let text ← expandJoined expander depth (markHomes word)
            match found.name, found.subscript, content with
            | _, _, .many _ _ | none, _, _ =>
                Sh.drop ("$" ++ String.ofList found.shown ++ ": cannot assign in this way")
            | some name, some (raw, subscript), _ => setElement name raw subscript false text
            | some name, none, _ => setText name false text
            let again ← find expander depth target
            return again.content.atoms joint' quoted
          else return asIs
      | .orFail colon =>
          if absent colon then do
            let text ← expandJoined expander depth word
            let usual := if colon then "parameter null or not set" else "parameter not set"
            Sh.giveUp (String.ofList found.shown ++ ": " ++
              (if word.isEmpty then usual else String.ofList text))
          else return asIs
      | .dropStart longest => do
          requireSet false found
          let pattern := patternOf (globStyle (← get) "") (← field word)
          return (content.map (dropStart longest pattern)).atoms joint' quoted
      | .dropEnd longest => do
          requireSet false found
          let pattern := patternOf (globStyle (← get) "") (← field word)
          return (content.map (dropEnd longest pattern)).atoms joint' quoted
      | .replace => do
          requireSet false found
          let (anchoring, pattern) := match ← field word with
            | ('/', false) :: rest => (Anchoring.everywhere, rest)
            | ('#', false) :: rest => (.atStart, rest)
            | ('%', false) :: rest => (.atEnd, rest)
            | whole => (.anywhere, whole)
          let replacement ← field ((words.drop 1).headD [])
          let state ← get
          let make (part : Octets) : Octets :=
            if state.does "patsub_replacement" then filledIn replacement part
            else fieldText replacement
          if pattern.isEmpty && (anchoring == .anywhere || anchoring == .everywhere) then return asIs
          else
            let pattern := patternOf (globStyle state "nocasematch") pattern
            return (content.map (replaceIn anchoring pattern make)).atoms joint' quoted
      | .recase change all => do
          requireSet false found
          let whole ← field word
          let style := globStyle (← get) ""
          let pattern := if whole.isEmpty then none else some (patternOf style whole)
          return (content.map (recase change all pattern)).atoms joint' quoted
      | .part => do
          requireSet false found
          let start ← computed (← expandJoined expander depth word)
          let length ←
            match (words.drop 1).head? with
            | none => pure none
            | some word => do pure (some (← computed (← expandJoined expander depth word)))
          let refuse {α : Type} (place : Int) : Sh α :=
            Sh.drop (String.ofList (integerText place) ++ ": substring expression < 0")
          match content with
          | .many texts star => do
              let self := (← get).name
              let argument := match target with
                | .name _ => true
                | _ => false
              let isTable ← do
                match found.name with
                | some name => do
                    pure (((← seen? name).map fun entry => entry.held.isTable).getD false)
                | none => pure false
              let (texts, places) :=
                if argument then (self :: texts, 0 :: found.places)
                else (texts, if isTable then (List.range texts.length).map (· + 1) else found.places)
              let size : Int := (places.getLast?.map fun place => (place : Int) + 1).getD 0
              let first := if start < 0 then size + start else start
              let inserted (count : Option Nat) : List Atom :=
                (Content.many (itemsFrom texts places first count) star).atoms joint' quoted
              match length with
              | some length =>
                  if length < 0 then refuse length else return inserted (some length.toNat)
              | none => return inserted none
          | content => do
              let text := (content.joined joint').getD []
              match bounds? text.length start length with
              | .error place => refuse place
              | .ok none => return []
              | .ok (some (first, count)) => return atomsOf origin ((text.drop first).take count)
      | .formed letter => do
          requireSet false found
          expandForm found letter quoted

end

def wordLimit : Nat := 1000000

def expandAtoms (expander : Expander) (word : Pieces) : Sh (List Atom) :=
  expandPieces expander wordLimit word

def withPaths (fields : List Field) : Sh (List Octets) := do
  let state ← get
  let style : FileStyle := {
    glob := globStyle state "nocaseglob"
    hidden := state.does "dotglob"
    deep := state.does "globstar" }
  if state.has 'f' || !fields.any (isMagic style.glob) then return fields.map fieldText
  else go style state fields
where
  go (style : FileStyle) (state : State) : List Field → Sh (List Octets)
    | [] => pure []
    | field :: rest => do
        let found ←
          if isMagic style.glob field then Sh.scene fun scene => pathsFor style scene field
          else pure [fieldText field]
        let found ←
          if !found.isEmpty then pure found
          else if state.does "failglob" then
            Sh.drop ("no match: " ++ String.ofList (fieldText field))
          else if state.does "nullglob" then pure []
          else pure [fieldText field]
        return found ++ (← go style state rest)

def expandBraceless (expander : Expander) (word : Pieces) : Sh (List Octets) := do
  let word := match binding? word with
    | some (_, value) =>
        let size := pieceCount word - pieceCount value
        markAfter size word value
    | none => markHome (fun _ => false) word
  let atoms ← expandAtoms expander word
  let state ← get
  withPaths (splitAtoms (separators state) atoms)
where
  markAfter (_ : Nat) (word value : Pieces) : Pieces :=
    let lead := word.take (word.length - value.length)
    match word.drop lead.length, value with
    | .text whole false :: _, .text part false :: rest =>
        let start := whole.take (whole.length - part.length)
        lead ++ .text start false :: markHomes (.text part false :: rest)
    | _, _ => word

def expandFields (expander : Expander) (word : Pieces) : Sh (List Octets) := do
  let words := if (← get).has 'B' then braceWords word else [word]
  go words
where
  go : List Pieces → Sh (List Octets)
    | [] => pure []
    | word :: rest => do
        let fields ← expandBraceless expander word
        return fields ++ (← go rest)

def expandAllFields (expander : Expander) : List Pieces → Sh (List Octets)
  | [] => pure []
  | word :: rest => do
      let fields ← expandFields expander word
      return fields ++ (← expandAllFields expander rest)

def expandText (expander : Expander) (word : Pieces) : Sh Octets := do
  let atoms ← expandAtoms expander (markHome (fun _ => false) word)
  return fieldText (unsplit (joint (← get)) atoms)

def expandValue (expander : Expander) (word : Pieces) : Sh Octets := do
  let atoms ← expandAtoms expander (markHomes word)
  return fieldText (unsplit (joint (← get)) atoms)

def expandPattern (expander : Expander) (word : Pieces) : Sh Field := do
  let atoms ← expandAtoms expander (markHome (fun _ => false) word)
  return unsplit (joint (← get)) atoms

def expandElements (expander : Expander) :
    List (Option Pieces × Bool × Pieces) → Sh (List Element)
  | [] => pure []
  | (subscript, adds, word) :: rest => do
      let elements ←
        match subscript with
        | some subscript => do
            let key ← expandText expander subscript
            let text ← expandValue expander word
            pure [{ subscript := some (key, key), adds, text : Element }]
        | none => do
            let fields ← expandFields expander word
            pure (fields.map fun text => { subscript := none, adds := false, text : Element })
      return elements ++ (← expandElements expander rest)

end ArtifactPipeline.RichShell
