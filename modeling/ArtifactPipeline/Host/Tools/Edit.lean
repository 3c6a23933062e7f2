import ArtifactPipeline.Host.Tools.Command
import ArtifactPipeline.Host.Tools.Editing
import ArtifactPipeline.Host.Tools.Files
import ArtifactPipeline.Host.Tools.Stream

set_option autoImplicit false

namespace ArtifactPipeline.Tools

open Text (Octets)

namespace Edit

structure Line where
  text : Octets := []
  ended : Bool := true

inductive Queued where
  | text (text : Octets)
  | file (path : Octets)
  | line (text : Octets)

inductive Inside where
  | upTo (line : Nat)
  | searching

structure Style where
  quiet : Bool := false
  separate : Bool := false
  inPlace : Option Octets := none
  ending : Char := '\n'
  width : Nat := 70
  follow : Bool := false
  vars : List (Octets × Octets) := []
  name : Octets := []

structure Sink where
  unended : Bool := false
  descriptor : Option Nat := none
  out : Outflow := {}

structure Editor where
  paths : List Octets
  source : Option LineSource := none
  path : Octets := ['-']
  line : Nat := 0
  space : Line := {}
  held : Line := {}
  inside : List (Nat × Inside) := []
  queue : List Queued := []
  replaced : Bool := false
  last : Option Finder := none
  main : Sink := {}
  changed : Option Sink := none
  files : List (Octets × Sink) := []
  readers : List (Octets × LineSource) := []
  spareEnded : Bool := true
  status : Nat := 0
  halted : Option Nat := none

abbrev Work := StateT Editor Chore

namespace Work

def chore {α : Type} (chore : Chore α) : Work α := StateT.lift chore

def putTo (ending : Char) (sink : Sink) (text : Octets) (ended : Bool) : Chore Sink := do
  let lead := if sink.unended then [ending] else []
  let whole := lead ++ text ++ if ended then [ending] else []
  match sink.descriptor with
  | some descriptor => do
      let _ ← Chore.write descriptor whole
      return { sink with unended := !ended }
  | none => return { sink with out := ← sink.out.put whole, unended := !ended }

def holdIn (ending : Char) (sink : Sink) (text : Octets) (ended : Bool) : Sink :=
  let lead := if sink.unended then [ending] else []
  let whole := lead ++ text ++ if ended then [ending] else []
  { sink with
    out := { sink.out with pieces := whole :: sink.out.pieces }
    unended := !ended }

def put (style : Style) (text : Octets) (ended : Bool) : Work Unit := do
  let editor ← get
  match editor.changed with
  | some sink => set { editor with changed := some (holdIn style.ending sink text ended) }
  | none => do
      let main ← chore (putTo style.ending editor.main text ended)
      set { editor with main }

def putLine (style : Style) (line : Line) : Work Unit :=
  put style line.text line.ended

def putRaw (style : Style) (text : Octets) : Work Unit := do
  put style text false
  modify fun editor =>
    match editor.changed with
    | some sink => { editor with changed := some { sink with unended := false } }
    | none => { editor with main := { editor.main with unended := false } }

def putFile (style : Style) (path : Octets) (line : Line) : Work Unit := do
  let editor ← get
  match String.ofList path with
  | "/dev/stdout" =>
      if editor.changed.isSome then
        let main ← chore (putTo style.ending editor.main line.text line.ended)
        set { editor with main }
      else putLine style line
  | "/dev/stderr" => do
      let _ ← chore (Chore.write 2 (line.text ++ [style.ending]))
  | _ =>
      match editor.files.lookup path with
      | none => pure ()
      | some sink => do
          let sink ← chore (putTo style.ending sink line.text line.ended)
          modify fun editor => { editor with files := Assoc.set path sink editor.files }

def complainOf (style : Style) (message : String) : Work Unit :=
  chore (complain style.name message)

def halt (style : Style) (path : Octets) (fault : HostFault) : Work Unit := do
  complainOf style ("read error on " ++ Text.ofOctets path ++ ": " ++ fault.message)
  modify fun editor => { editor with halted := some 4 }

def flushQueue (style : Style) : Work Unit := do
  let editor ← get
  if editor.queue.isEmpty then return ()
  set { editor with queue := [] }
  editor.queue.forM fun queued =>
    match queued with
    | .text text => putRaw style text
    | .line text => put style text true
    | .file path => do
        let content ← chore
          (if path = "/dev/stdin".toList then Chore.readAll 0 else Chore.readFile path)
        match content with
        | .ok content => if content.isEmpty then pure () else putRaw style content
        | .error .isDirectory => halt style path .isDirectory
        | .error _ => pure ()

def closeChanged (style : Style) : Work Unit := do
  let editor ← get
  match editor.changed, style.inPlace with
  | some sink, some suffix => do
      set { editor with changed := none }
      let path := editor.path
      let mode ← chore do
        match ← Chore.stat path with
        | .ok ⟨_, _, .file _ _ mode⟩ => return mode
        | _ => return 0o644
      if !suffix.isEmpty then
        let base := (path.reverse.takeWhile fun c => c != '/').reverse
        let lead := path.take (path.length - base.length)
        let copy := if suffix.contains '*' then
            suffix.flatMap fun c => if c == '*' then base else [c]
          else base ++ suffix
        let copy := if copy.contains '/' then copy else lead ++ copy
        let _ ← chore (Chore.onDisk fun disk cwd => disk.rename cwd path copy)
      else if !style.follow then
        let _ ← chore (Chore.onDisk fun disk cwd => disk.unlink cwd path)
      let _ ← chore (Chore.writeFile .writing path sink.out.pieces.reverse.flatten)
      let _ ← chore (Chore.onDisk fun disk cwd =>
        (disk.stat cwd path).map fun entry => disk.setMode entry mode)
  | _, _ => pure ()

/-- Opens the next file that can be read, if there is one. One that cannot be read after it was opened
ends all work, unless the editor only looks ahead. -/
def openNext (style : Style) (ahead : Bool) : Nat → Work Bool
  | 0 => pure false
  | fuel + 1 => do
      let editor ← get
      match editor.paths with
      | [] => return false
      | path :: paths => do
          set { editor with paths }
          if path = ['-'] && style.inPlace.isNone then
            start path 0
            return true
          let entry ← chore (Chore.stat path)
          match entry with
          | .error fault => do
              complainOf style ("can't read " ++ Text.ofOctets path ++ ": " ++ fault.message)
              modify fun editor => { editor with status := 2 }
              openNext style ahead fuel
          | .ok ⟨_, _, .dir _ _⟩ => do
              if style.inPlace.isSome then
                complainOf style ("couldn't edit " ++ Text.ofOctets path ++ ": not a regular file")
                modify fun editor => { editor with halted := some 4 }
                return false
              else if ahead then openNext style ahead fuel
              else do
                halt style path .isDirectory
                return false
          | .ok _ =>
              match ← chore (Chore.openFile .reading path) with
              | .error fault => do
                  complainOf style ("can't read " ++ Text.ofOctets path ++ ": " ++ fault.message)
                  modify fun editor => { editor with status := 2 }
                  openNext style ahead fuel
              | .ok descriptor => do
                  start path descriptor
                  return true
where
  start (path : Octets) (descriptor : Nat) : Work Unit := do
    if style.separate then
      (← get).readers.forM fun (_, source) => chore (Chore.close source.descriptor)
      modify fun editor => { editor with line := 0, held := {}, inside := [], readers := [] }
    modify fun editor => { editor with
      source := some { descriptor, ending := style.ending }
      path
      changed := style.inPlace.map fun _ => {} }

def closeSource (style : Style) : Work Unit := do
  match (← get).source with
  | none => pure ()
  | some source => do
      if source.descriptor != 0 then
        chore (Chore.close source.descriptor)
      modify fun editor => { editor with source := none }
      closeChanged style

/-- Makes sure that there is a line to be read, in the files that are left if need be. Files that are
changed have to be gone through one by one. -/
def ready (style : Style) (further ahead : Bool) : Nat → Work Bool
  | 0 => pure false
  | fuel + 1 => do
      match (← get).source with
      | some source => do
          let (ended, source) ← chore source.atEnd
          modify fun editor => { editor with source := some source }
          if !ended then return true
          else if !further then return false
          else
            match source.fault, ahead with
            | some fault, false => do
                halt style (← get).path fault
                return false
            | _, _ => do
                closeSource style
                ready style further ahead fuel
      | none =>
          if !further then return false
          else if ← openNext style ahead ((← get).paths.length + 1) then
            ready style further ahead fuel
          else return false

def atLast (style : Style) : Work Bool := do
  let fuel := 2 * (← get).paths.length + 3
  if style.separate then return !(← ready style false true fuel)
  else return !(← ready style true true fuel)

def nextLine (style : Style) : Work (Option Line) := do
  flushQueue style
  modify fun editor => { editor with replaced := false }
  if (← get).halted.isSome then return none
  if ← ready style true false (2 * (← get).paths.length + 3) then
    match (← get).source with
    | none => return none
    | some source => do
        let (line, source) ← chore source.next
        modify fun editor => { editor with source := some source }
        match line with
        | none => return none
        | some (text, ended) => do
            modify fun editor => { editor with line := editor.line + 1 }
            return some ⟨text, ended⟩
  else return none

def finderOf (style : Style) (finder : Option Finder) : Work (Option Finder) := do
  match finder.or (← get).last with
  | some finder => do
      modify fun editor => { editor with last := some finder }
      return some finder
  | none => do
      complainOf style "-e expression #1, char 0: no previous regular expression"
      return none

def isAt (style : Style) (address : Address) : Work (Option Bool) := do
  let editor ← get
  match address with
  | .line number => return some (editor.line == number)
  | .last => return some (← atLast style)
  | .every first step => return some (first ≤ editor.line && (editor.line - first) % step == 0)
  | .pattern finder =>
      return (← finderOf style finder).map fun finder => finder.accepts editor.space.text

def setInside (index : Nat) (inside : Option Inside) : Work Unit :=
  modify fun editor => { editor with inside := match inside with
    | some inside => Assoc.set index inside editor.inside
    | none => Assoc.erase index editor.inside }

def enterRange (style : Style) (index : Nat) : RangeEnd → Work Unit
  | .address (.line number) => do
      if (← get).line < number then setInside index (some (.upTo number))
  | .address .last => do
      if !(← atLast style) then setInside index (some .searching)
  | .address _ => setInside index (some .searching)
  | .count lines => do
      if lines != 0 then setInside index (some (.upTo ((← get).line + lines)))
  | .multiple of => do
      let line := (← get).line
      if of != 0 && line % of != 0 then setInside index (some (.upTo ((line / of + 1) * of)))

def selects (style : Style) (index : Nat) (step : Step) : Work (Option Bool) := do
  match step.first, step.second with
  | none, _ => return some true
  | some address, none => isAt style address
  | some address, some ending => do
      let line := (← get).line
      match (← get).inside.lookup index with
      | some (.upTo last) =>
          if last ≤ line then
            setInside index none
            return some (line == last)
          else return some true
      | some .searching =>
          match ending with
          | .address stop =>
              match ← isAt style stop with
              | none => return none
              | some found => do
                  if found then setInside index none
                  return some true
          | _ => do
              setInside index none
              return some true
      | none =>
          match address, ending with
          | .line 0, .address stop =>
              if line = 1 then
                match ← isAt style stop with
                | none => return none
                | some found => do
                    if !found then setInside index (some .searching)
                    return some true
              else return some false
          | address, ending =>
              match ← isAt style address with
              | none => return none
              | some found => do
                  if found then enterRange style index ending
                  return some found

end Work

structure CasingState where
  mode : Option Casing := none
  once : Option Casing := none

def CasingState.apply (state : CasingState) (text : Octets) : Octets × CasingState :=
  let whole (c : Char) : Char :=
    match state.mode with
    | some .upper => c.toUpper
    | some .lower => c.toLower
    | _ => c
  match text, state.once with
  | [], _ => ([], state)
  | c :: rest, some .upperNext => (c.toUpper :: rest.map whole, { state with once := none })
  | c :: rest, some _ => (c.toLower :: rest.map whole, { state with once := none })
  | text, none => (text.map whole, state)

def CasingState.change (state : CasingState) : Casing → CasingState
  | .stop => {}
  | .upperNext => { state with once := some .upperNext }
  | .lowerNext => { state with once := some .lowerNext }
  | mode => { state with mode := some mode }

def replacement (parts : List Part) (found : Finder.Match) : Octets :=
  (parts.foldl (fun (shown, state) part =>
    let put (text : Octets) : Octets × CasingState :=
      let (text, state) := CasingState.apply state text
      (shown ++ text, state)
    match part with
    | .text text => put text
    | .group 0 => put found.text
    | .group number => put ((found.groups.lookup number).getD [])
    | .casing casing => (shown, state.change casing)) (([] : Octets), ({} : CasingState))).1

def replaceFrom (s : Substitution) (finder : Finder) :
    Nat → Nat → Bool → Regex.Spot → Octets × Bool
  | 0, _, _, spot => (spot.rest, false)
  | fuel + 1, count, afterMatch, spot =>
      match finder.search spot with
      | none => (spot.rest, false)
      | some found =>
          let stepOver (lead : Octets) (count : Nat) (changed : Bool) : Octets × Bool :=
            match found.ending.next? with
            | none => (lead, changed)
            | some (c, next) =>
                let (tail, again) := replaceFrom s finder fuel count false next
                (lead ++ c :: tail, changed || again)
          if found.text.isEmpty && found.before.isEmpty && afterMatch then stepOver [] count false
          else
            let here := count + 1
            let wanted := here == max s.nth 1 || (s.all && max s.nth 1 ≤ here)
            let shown := if wanted then replacement s.parts found else found.text
            let lead := found.before ++ shown
            if wanted && !s.all then (lead ++ found.ending.rest, true)
            else if found.text.isEmpty then stepOver lead here wanted
            else
              let (tail, again) := replaceFrom s finder fuel here true found.ending
              (lead ++ tail, wanted || again)

def listed (ending : Char) (width : Nat) (text : Octets) : Octets :=
  let shown := (text.foldl (fun (shown, used) c =>
    let item : Octets :=
      if c == '\\' then ['\\', '\\'] else if isShown c then [c] else codeOf c
    if 0 < width && width - 1 < used + item.length then
      (item.reverse ++ [ending, '\\'] ++ shown, item.length)
    else (item.reverse ++ shown, used + item.length)) (([] : Octets), 0)).1
  shown.reverse ++ ['$', ending]

inductive Flow where
  | next
  | jump (name : Octets)
  | endCycle (shown : Bool)
  | restart
  | quit (status : Nat)

def withoutEnd (style : Style) (output : Octets) : Octets :=
  if output.getLast? = some style.ending then output.dropLast else output

open Work in
def substitute (exec : Exec) (style : Style) (s : Substitution) : Work Flow := do
  match ← finderOf style s.finder with
  | none => return .quit 1
  | some finder => do
      let text := (← get).space.text
      let (text, changed) :=
        replaceFrom s finder (2 * text.length + 2) 0 false (Regex.Spot.ofText text)
      if changed then
        let text ←
          if s.runs then do
            let editor ← get
            let main := { editor.main with out := ← chore editor.main.out.flush }
            set { editor with main }
            let output ← chore (outputOf exec style.vars text)
            pure (withoutEnd style output)
          else pure text
        modify fun editor => { editor with
          space := { editor.space with text }
          spareEnded := editor.space.ended
          replaced := true }
        if s.print then putLine style (← get).space
        if let some path := s.file then
          putFile style path (← get).space
      return .next

open Work in
def act (exec : Exec) (style : Style) (index : Nat) (step : Step) : Work Flow := do
  let editor ← get
  let text := editor.space.text
  let firstLine := text.takeWhile fun c => c != style.ending
  let setText (text : Octets) : Work Flow := do
    modify fun editor => { editor with space := { editor.space with text } }
    return .next
  match step.action with
  | .block | .blockEnd | .label _ | .nothing => return .next
  | .branch name => return .jump name
  | .branchIf name =>
      if editor.replaced then
        set { editor with replaced := false }
        return .jump name
      else return .next
  | .branchUnless name =>
      if editor.replaced then
        set { editor with replaced := false }
        return .next
      else return .jump name
  | .substitute s => substitute exec style s
  | .exchange table => setText (text.map fun c => (table.lookup c).getD c)
  | .append text => do
      if !text.isEmpty then
        set { editor with queue := editor.queue ++ [Queued.text text] }
      return .next
  | .insert text => do
      if !text.isEmpty then putRaw style text
      return .next
  | .change text => do
      let isEnd := step.second.isNone || step.negated || (editor.inside.lookup index).isNone
      if isEnd && !text.isEmpty then putRaw style text
      return .endCycle false
  | .delete => return .endCycle false
  | .deleteFirst =>
      if firstLine.length = text.length then return .endCycle false
      else do
        let _ ← setText (text.drop (firstLine.length + 1))
        return .restart
  | .print => do
      putLine style editor.space
      return .next
  | .printFirst => do
      put style firstLine true
      return .next
  | .number => do
      putRaw style (decimal editor.line ++ [style.ending])
      return .next
  | .next => do
      if ← atLast style then return .endCycle true
      else advance
  | .appendNext => do
      if ← atLast style then return .endCycle true
      else
        match ← nextLine style with
        | none => return .endCycle true
        | some line => do
            modify fun editor => { editor with
              space := { text := editor.space.text ++ style.ending :: line.text
                         ended := line.ended } }
            return .next
  | .hold => do
      set { editor with held := editor.space }
      return .next
  | .appendHold => do
      set { editor with
        held := { editor.held with text := editor.held.text ++ style.ending :: text } }
      return .next
  | .fetch => setText editor.held.text
  | .appendFetch => setText (text ++ style.ending :: editor.held.text)
  | .swap => do
      set { editor with space := editor.held, held := editor.space }
      return .next
  | .quit status silent => do
      if !silent then
        if !style.quiet then putLine style editor.space
        flushQueue style
        putRaw style []
      return .quit status
  | .list width => do
      putRaw style (listed style.ending (width.getD style.width) text)
      return .next
  | .readFile path => do
      set { editor with queue := editor.queue ++ [Queued.file path] }
      return .next
  | .readLine path => do
      let source? ←
        match editor.readers.lookup path with
        | some source => pure (some source)
        | none => do
            match ← chore (Chore.openFile .reading path) with
            | .ok descriptor =>
                pure (some { descriptor, ending := style.ending : LineSource })
            | .error _ => pure none
      match source? with
      | none => return .next
      | some source => do
          let (line, source) ← chore source.next
          if let some fault := source.fault then halt style path fault
          modify fun editor => { editor with
            readers := Assoc.set path source editor.readers
            queue := editor.queue ++ (line.map fun (text, _) => Queued.line text).toList }
          return .next
  | .writeFile path => do
      putFile style path editor.space
      return .next
  | .writeFirst path => do
      putFile style path ⟨firstLine, true⟩
      return .next
  | .fileName => do
      putRaw style (editor.path ++ [style.ending])
      return .next
  | .clear => setText []
  | .run command => do
      let main := { editor.main with out := ← chore editor.main.out.flush }
      set { editor with main }
      if command.isEmpty then
        let output ← chore (outputOf exec style.vars text)
        modify fun editor => { editor with
          space := ⟨withoutEnd style output, editor.spareEnded⟩
          spareEnded := editor.space.ended }
        return .next
      else do
        putRaw style (← chore (outputOf exec style.vars command))
        return .next
where
  advance : Work Flow := do
    if !style.quiet then putLine style (← get).space
    match ← nextLine style with
    | some line => do
        modify fun editor => { editor with space := line }
        return .next
    | none => return .endCycle false

def behindBlock : Nat → List (Nat × Step) → List (Nat × Step)
  | _, [] => []
  | depth, (_, { action := .block, .. }) :: rest => behindBlock (depth + 1) rest
  | depth, (_, { action := .blockEnd, .. }) :: rest =>
      match depth with
      | 0 => rest
      | depth + 1 => behindBlock depth rest
  | depth, _ :: rest => behindBlock depth rest

def behindLabel (name : Octets) (steps : List (Nat × Step)) : List (Nat × Step) :=
  if name.isEmpty then []
  else
    (steps.dropWhile fun (_, step) =>
      match step.action with
      | .label other => other != name
      | _ => true).drop 1

def effort : Nat := 10000000

def runSteps (exec : Exec) (style : Style) (all : List (Nat × Step)) :
    Nat → List (Nat × Step) → Work Flow
  | 0, _ => return .endCycle true
  | _ + 1, [] => return .endCycle true
  | fuel + 1, (index, step) :: rest => do
      match ← Work.selects style index step with
      | none => return .quit 1
      | some selected =>
          if selected == step.negated then
            match step.action with
            | .block => runSteps exec style all fuel (behindBlock 0 rest)
            | _ => runSteps exec style all fuel rest
          else do
            let flow ← act exec style index step
            if let some status := (← get).halted then return .quit status
            match flow with
            | .next => runSteps exec style all fuel rest
            | .jump name => runSteps exec style all fuel (behindLabel name all)
            | flow => return flow

def cycles (exec : Exec) (style : Style) (steps : List (Nat × Step)) : Nat → Bool → Work Nat
  | 0, _ => return 0
  | fuel + 1, keep => do
      let started ←
        if keep then do
          Work.flushQueue style
          modify fun editor => { editor with replaced := false }
          pure true
        else do
          match ← Work.nextLine style with
          | some line => do
              modify fun editor => { editor with space := line }
              pure true
          | none => pure false
      if let some status := (← get).halted then return status
      if !started then return (← get).status
      if (← get).line % 64 = 0 then
        Work.chore (Chore.look fun _ => ())
      match ← runSteps exec style steps effort steps with
      | .restart => cycles exec style steps fuel true
      | .quit status => return max status (← get).status
      | .endCycle shown => do
          if shown && !style.quiet then Work.putLine style (← get).space
          cycles exec style steps fuel false
      | _ => cycles exec style steps fuel false

def targets (steps : List Step) : List Octets :=
  steps.filterMap fun step =>
    match step.action with
    | .writeFile path | .writeFirst path => some path
    | .substitute s => s.file
    | _ => none

def openTargets : List Octets → List (Octets × Sink) →
    Chore (Except (Octets × HostFault) (List (Octets × Sink)))
  | [], files => pure (.ok files)
  | path :: rest, files => do
      if path = "/dev/stdout".toList || path = "/dev/stderr".toList ||
          (files.lookup path).isSome then openTargets rest files
      else
        match ← Chore.openFile .writing path with
        | .error fault => return .error (path, fault)
        | .ok descriptor =>
            openTargets rest (Assoc.set path { descriptor := some descriptor : Sink } files)

end Edit

def sedUsage : String :=
  "Usage: sed [OPTION]... \x7bscript-only-if-no-other-script\x7d [input-file]...\n\n"

def sedOptions : OptionSet := {
  flags := "nErsuzπδφσ"
  valued := "efl"
  optional := "i"
  long := [("quiet", 'n'), ("silent", 'n'), ("expression", 'e'), ("file", 'f'),
    ("regexp-extended", 'E'), ("separate", 's'), ("unbuffered", 'u'), ("null-data", 'z'),
    ("zero-terminated", 'z'), ("line-length", 'l'), ("in-place", 'i'), ("posix", 'π'),
    ("debug", 'δ'), ("follow-symlinks", 'φ'), ("sandbox", 'σ')]
}

def sed (exec : Exec) : Tool := fun call => do
  let usage (status : Nat) : Chore Nat := do
    let _ ← Chore.write 2 sedUsage.toList
    return status
  match sedOptions.read call.args with
  | .error message => do
      complain call.name message
      usage 1
  | .ok given => do
      let sources := given.options.filter fun option => option.1 == 'e' || option.1 == 'f'
      if sources.isEmpty && given.operands.isEmpty then usage 1
      else
        let paths := if sources.isEmpty then given.operands.drop 1 else given.operands
        match ← pieces sources given.operands with
        | .error message => refuse call.name message
        | .ok pieces =>
            let ending := if given.has 'z' then Char.ofNat 0 else '\n'
            match Edit.script (given.has 'E' || given.has 'r') ending pieces with
            | .error message => refuse call.name message
            | .ok script => run call given script paths
where
  pieces (sources : List (Char × Octets)) (operands : List Octets) :
      Chore (Except String (List Edit.Piece)) := do
    if sources.isEmpty then return .ok ((operands.take 1).map fun text => { text })
    else
      sources.foldlM (fun pieces (letter, value) => do
        match pieces with
        | .error message => return .error message
        | .ok pieces =>
            if letter == 'e' then return .ok (pieces ++ [{ text := value : Edit.Piece }])
            else
              match ← contentOf value with
              | .ok text =>
                  let text := if text.getLast? = some '\n' then text.dropLast else text
                  return .ok (pieces ++ [{ text, file := some value : Edit.Piece }])
              | .error fault =>
                  let path := Text.ofOctets value
                  return .error ("couldn't open file " ++ path ++ ": " ++ fault.message))
        (.ok [])
  run (call : Call) (given : Given) (script : Edit.Script) (paths : List Octets) : Chore Nat := do
    let inPlace := given.value? 'i'
    if inPlace.isSome && paths.isEmpty then
      return ← refuse call.name "no input files"
    let style : Edit.Style := {
      quiet := given.has 'n' || script.quiet
      separate := given.has 's' || inPlace.isSome
      inPlace
      ending := if given.has 'z' then Char.ofNat 0 else '\n'
      width := ((given.value? 'l').bind number?).getD (if given.has 'l' then 0 else 70)
      follow := given.has 'φ'
      vars := call.vars
      name := call.name }
    match ← Edit.openTargets (Edit.targets script.steps) [] with
    | .error (path, fault) => do
        complain call.name ("couldn't open file " ++ Text.ofOctets path ++ ": " ++ fault.message)
        return 4
    | .ok files => do
        let steps := script.steps.zipIdx.map fun (step, index) => (index, step)
        let editor : Edit.Editor := { paths := if paths.isEmpty then [['-']] else paths, files }
        let (status, editor) ← (Edit.cycles exec style steps patience false).run editor
        let ((), editor) ← (Edit.Work.closeSource style).run editor
        editor.main.out.finish call status 4

end ArtifactPipeline.Tools
