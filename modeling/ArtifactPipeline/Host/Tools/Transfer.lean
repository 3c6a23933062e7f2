import ArtifactPipeline.Host.Tools.Call
import ArtifactPipeline.Host.Tools.Files

set_option autoImplicit false

namespace ArtifactPipeline.Tools

open Text (Octets)

def literalSpot (cwd : Spot) (path : Octets) : Spot :=
  let start := if path.head? = some '/' then [] else cwd
  (Text.splitOn '/' path).foldl (fun (names : Spot) segment =>
    if segment.isEmpty || segment = ['.'] then names
    else if segment = ['.', '.'] then names.dropLast
    else names ++ [segment]) start

def imaginedSpot (disk : HostDisk) (cwd : Spot) (path : Octets) : Spot :=
  let start := if path.head? = some '/' then [] else cwd
  (Text.splitOn '/' path).foldl (fun (names : Spot) segment =>
    if segment.isEmpty || segment = ['.'] then names
    else if segment = ['.', '.'] then names.dropLast
    else
      match disk.find true [] (HostDisk.spotText (names ++ [segment])) with
      | .ok (.entry entry) => entry.spot
      | .ok (.free spot) => spot
      | .error _ => names ++ [segment]) start

inductive Existence where
  | all
  | allButLast
  | none
  deriving DecidableEq, Repr

def resolve (scene : Scene) (existence : Existence) (path : Octets) : Except HostFault Spot :=
  match scene.disk.find true scene.cwd path, existence with
  | .ok (.entry entry), _ => .ok entry.spot
  | .ok (.free _), .all => .error .missing
  | .ok (.free spot), _ => .ok spot
  | .error fault, .none =>
      if path.isEmpty then .error fault else .ok (imaginedSpot scene.disk scene.cwd path)
  | .error .missing, .allButLast =>
      -- A slash behind a name that is free does no harm.
      match scene.disk.find true scene.cwd (HostDisk.withoutSlashes path) with
      | .ok (.free spot) => .ok spot
      | _ => .error .missing
  | .error fault, _ => .error fault

def sharedDepth : Spot → Spot → Nat
  | a :: as, b :: bs => if a = b then sharedDepth as bs + 1 else 0
  | _, _ => 0

def relativePath (base target : Spot) : Octets :=
  let shared := sharedDepth base target
  match List.replicate (base.length - shared) ['.', '.'] ++ target.drop shared with
  | [] => ['.']
  | names => Text.joinWith ['/'] names

def existenceOf (given : Given) : Option Existence :=
  given.options.foldl (fun found (letter, _) =>
    match letter with
    | 'e' => some .all
    | 'f' | 'E' => some .allButLast
    | 'm' => some .none
    | _ => found) none

def readlink : Tool :=
  withOptions {
    flags := "efmnqsvz"
    long := [("canonicalize", 'f'), ("canonicalize-existing", 'e'), ("canonicalize-missing", 'm'),
      ("no-newline", 'n'), ("quiet", 'q'), ("silent", 's'), ("verbose", 'v'), ("zero", 'z')] } 1
    fun call given =>
      if given.operands.isEmpty then misuse call.name "missing operand" 1
      else
        eachOperand given.operands fun path => do
          let shown : Except HostFault Octets ← Chore.look fun scene =>
            match existenceOf given with
            | some existence => (resolve scene existence path).map HostDisk.spotText
            | none =>
                match scene.lstat path with
                | .ok ⟨_, _, .link target _⟩ => .ok target
                | .ok _ => .error .invalid
                | .error fault => .error fault
          match shown with
          | .ok text =>
              finish call (text ++ (if given.has 'n' && given.operands.length = 1 then []
                else if given.has 'z' then [Char.ofNat 0] else ['\n'])) 0
          | .error fault => do
              if given.has 'v' then complainAbout call path fault
              return 1

def realpath : Tool :=
  withOptions {
    flags := "eEmLPqsz"
    valued := "τβ"
    long := [("canonicalize-existing", 'e'), ("canonicalize", 'E'), ("canonicalize-missing", 'm'),
      ("logical", 'L'), ("physical", 'P'), ("quiet", 'q'), ("relative-to", 'τ'),
      ("relative-base", 'β'), ("strip", 's'), ("no-symlinks", 's'), ("zero", 'z')] } 1
    fun call given => do
      let existence := (existenceOf given).getD .allButLast
      let find (scene : Scene) (path : Octets) : Except HostFault Spot :=
        if given.has 's' then
          let spot := literalSpot scene.cwd path
          match resolve scene existence path with
          | .ok _ => .ok spot
          | .error fault => .error fault
        else resolve scene existence path
      let directory (letter : Char) : Chore (Option Spot) :=
        match given.value? letter with
        | none => pure none
        | some path => Chore.look fun scene => (find scene path).toOption
      let start ← directory 'τ'
      let limit ← directory 'β'
      if given.operands.isEmpty then misuse call.name "missing operand" 1
      else
        eachOperand given.operands fun path => do
          match ← Chore.look fun scene => find scene path with
          | .error fault => do
              if !given.has 'q' then complainAbout call path fault
              return 1
          | .ok spot =>
              let text :=
                match start, limit with
                | none, none => HostDisk.spotText spot
                | some start, none => relativePath start spot
                | start, some limit =>
                    let start := start.getD limit
                    if limit.isPrefixOf spot && limit.isPrefixOf start then relativePath start spot
                    else HostDisk.spotText spot
              finish call (text ++ (if given.has 'z' then [Char.ofNat 0] else ['\n'])) 0

def pairUp (given : Given) (noFollow : Bool) : Chore (Except String (List (Octets × Octets))) := do
  let into (dir : Octets) (sources : List Octets) : List (Octets × Octets) :=
    sources.map fun source => (source, inDirectory dir (baseName source))
  match given.value? 't' with
  | some dir =>
      if given.has 'T' then
        return .error "cannot combine --target-directory and --no-target-directory"
      else if given.operands.isEmpty then return .error "missing file operand"
      else
        match ← Chore.stat dir with
        | .ok ⟨_, _, .dir _ _⟩ => return .ok (into dir given.operands)
        | .ok _ =>
            return .error ("target directory " ++ quote dir ++ ": " ++ HostFault.notDirectory.message)
        | .error fault =>
            return .error ("target directory " ++ quote dir ++ ": " ++ fault.message)
  | none =>
      match given.operands with
      | [] => return .error "missing file operand"
      | [source] =>
          return .error ("missing destination file operand after " ++ quote source)
      | [source, target] =>
          if given.has 'T' then return .ok [(source, target)]
          else
            let isLink ← Chore.look fun scene =>
              match scene.lstat target with
              | .ok ⟨_, _, .link _ _⟩ => true
              | _ => false
            if (← isDirectory target) && !(noFollow && isLink) then
              return .ok (into target [source])
            else return .ok [(source, target)]
      | operands =>
          let target := operands.getLastD []
          if given.has 'T' then
            return .error ("extra operand " ++ quote (operands[2]?.getD []))
          else
            match ← Chore.stat target with
            | .ok ⟨_, _, .dir _ _⟩ => return .ok (into target operands.dropLast)
            | .ok _ =>
                return .error ("target " ++ quote target ++ ": " ++ HostFault.notDirectory.message)
            | .error fault => return .error ("target " ++ quote target ++ ": " ++ fault.message)

def isMisuse (message : String) : Bool :=
  "missing".toList.isPrefixOf message.toList || "extra".toList.isPrefixOf message.toList ||
    "with".toList.isPrefixOf message.toList

def eachPair (call : Call) (pairs : Except String (List (Octets × Octets)))
    (run : Octets → Octets → Chore Nat) : Chore Nat :=
  match pairs with
  | .error message =>
      if isMisuse message then misuse call.name message 1 else refuse call.name message
  | .ok pairs => go pairs 0
where
  go : List (Octets × Octets) → Nat → Chore Nat
    | [], status => pure status
    | (source, target) :: rest, status => do
        let own ← run source target
        go rest (max status own)

def toward (source target : Octets) : String :=
  quote source ++ " -> " ++ quote target

def announce (wanted : Bool) (text : String) : Chore Unit := do
  if wanted then
    let _ ← Chore.write 1 (Text.octets text ++ ['\n'])

inductive BackupKind where
  | simple
  | numbered
  | existing
  deriving DecidableEq, Repr

def backupKind? (text : Octets) : Option (Option BackupKind) :=
  match String.ofList text with
  | "none" | "off" => some none
  | "simple" | "never" => some (some .simple)
  | "existing" | "nil" => some (some .existing)
  | "numbered" | "t" => some (some .numbered)
  | _ => none

def backupOf (call : Call) (given : Given) : Option BackupKind :=
  let wanted := given.options.filter fun option => option.1 == 'b' || option.1 == 'β'
  if wanted.isEmpty && !given.has 'S' then none
  else
    let text := (wanted.map (·.2)).getLastD []
    let text := if text.isEmpty then (call.vars.lookup "VERSION_CONTROL".toList).getD [] else text
    (backupKind? text).getD (some .existing)

def backupNumbers (scene : Scene) (target : Octets) : List Nat :=
  let lead := baseName target ++ ".~".toList
  match scene.stat (dirName target) with
  | .ok entry => (scene.disk.namesIn entry.spot).filterMap fun name =>
      if lead.isPrefixOf name && name.getLast? = some '~' then
        number? ((name.drop lead.length).dropLast)
      else none
  | .error _ => []

def backupName (scene : Scene) (given : Given) (vars : List (Octets × Octets)) (kind : BackupKind)
    (target : Octets) : Octets :=
  let numbers := backupNumbers scene target
  let suffix := (given.value? 'S').getD
    ((vars.lookup "SIMPLE_BACKUP_SUFFIX".toList).getD ['~'])
  if kind = .numbered || (kind = .existing && !numbers.isEmpty) then
    target ++ ".~".toList ++ decimal (numbers.foldl max 0 + 1) ++ ['~']
  else target ++ suffix

def backUp (call : Call) (given : Given) (target : Octets) : Chore (Option Octets) := do
  match backupOf call given, ← Chore.lstat target with
  | some _, .ok ⟨_, _, .dir _ _⟩ => return none
  | some kind, .ok _ => do
      let name ← Chore.look fun scene => backupName scene given call.vars kind target
      let _ ← Chore.onDisk fun disk cwd => disk.rename cwd target name
      return some name
  | _, _ => return none

def backupNote (backup : Option Octets) : String :=
  match backup with
  | some name => " (backup: " ++ quote name ++ ")"
  | none => ""

def transferOptions : List (String × Char) :=
  [("backup", 'β'), ("force", 'f'), ("interactive", 'i'), ("no-target-directory", 'T'),
    ("suffix", 'S'), ("target-directory", 't'), ("verbose", 'v')]

def relativeTarget (scene : Scene) (source link : Octets) : Octets :=
  relativePath (imaginedSpot scene.disk scene.cwd (dirName link))
    (imaginedSpot scene.disk scene.cwd source)

def ln : Tool :=
  withOptions {
    flags := "bdfFinLPrsTv"
    valued := "tS"
    optional := "β"
    long := [("symbolic", 's'), ("no-dereference", 'n'), ("relative", 'r'), ("logical", 'L'),
      ("physical", 'P'), ("directory", 'd')] ++ transferOptions } 1 fun call given => do
    let given := match given.operands, given.value? 't' with
      | [source], none =>
          if given.has 'T' then given else { given with operands := [source, ['.']] }
      | _, _ => given
    let soft := given.has 's'
    let kind := if soft then "symbolic" else "hard"
    if given.has 'r' && !soft then
      refuse call.name "cannot do --relative without --symbolic"
    else
      eachPair call (← pairUp given (given.has 'n')) fun source target => do
        let failed := "failed to create " ++ kind ++ " link " ++ quote target ++
          (if soft then "" else " => " ++ quote source)
        let (same, present) ← Chore.look fun scene =>
          (match scene.lstat source, scene.lstat target with
            | .ok a, .ok b => a.spot == b.spot
            | _, _ => false, (scene.lstat target).isOk)
        let reachable : Except String Unit ←
          if soft then pure (.ok ())
          else
            match ← (if given.has 'L' then Chore.stat source else Chore.lstat source) with
            | .error fault =>
                pure (.error ("failed to access " ++ quote source ++ ": " ++ fault.message))
            | .ok ⟨_, _, .dir _ _⟩ =>
                pure (.error (quoteIfNeeded source ++ ": hard link not allowed for directory"))
            | .ok _ => pure (.ok ())
        let question := if present && given.has 'i' then some ("replace " ++ quote target) else none
        match reachable with
        | .error message => refuse call.name message
        | .ok () =>
            if same && (given.has 'f' || given.has 'i') && !soft then
              refuse call.name (quote source ++ " and " ++ quote target ++ " are the same file")
            else if !(← (question.map (ask call)).getD (pure true)) then return 1
            else
              let backup ← backUp call given target
              if (given.has 'f' || given.has 'i') && present then
                let _ ← Chore.onDisk fun disk cwd => disk.unlink cwd target
              let text ←
                if given.has 'r' then Chore.look fun scene => relativeTarget scene source target
                else pure source
              let status ←
                if soft then attempt call failed fun disk cwd => disk.makeLink cwd text target
                else attempt call failed fun disk cwd => disk.addName cwd source target
              if status = 0 then
                announce (given.has 'v') ((match backup with
                    | some name => quote name ++ " ~ "
                    | none => "") ++
                  quote target ++ (if soft then " -> " else " => ") ++ quote text)
              return status

inductive UpdateRule where
  | all
  | older
  | none
  deriving DecidableEq, Repr

structure CopyStyle where
  tree : Bool := false
  links : Bool := false
  times : Bool := false
  modes : Bool := false
  force : Bool := false
  removes : Bool := false
  asks : Bool := false
  update : UpdateRule := .all
  verbose : Bool := false
  hard : Bool := false
  symbolic : Bool := false
  bare : Bool := false
  given : Given := {}
  root : Option (Spot × Octets × Octets) := none

def likeOld (style : CopyStyle) (old : Inode) (target : Octets) : Chore Unit := do
  let _ ← Chore.onDisk fun disk cwd =>
    (disk.stat cwd target).map fun entry =>
      let disk := if style.modes then disk.setMode entry (HostDisk.modeOf old) else disk
      match disk.stat cwd target with
      | .ok entry => if style.times then disk.setTime entry (HostDisk.mtimeOf old) else disk
      | .error _ => disk

def copyContent (call : Call) (style : CopyStyle) (source target : Octets) (old : Inode) :
    Chore Nat := do
  match ← (if style.bare then pure (.ok []) else Chore.readFile source) with
  | .error fault =>
      refuse call.name ("cannot open " ++ quote source ++ " for reading: " ++ fault.message)
  | .ok content => do
      if style.force && (← Chore.stat target).isOk.not then
        let _ ← Chore.onDisk fun disk cwd => disk.unlink cwd target
      let isNew := !(← Chore.stat target).isOk
      let dangling := isNew && (← Chore.lstat target).isOk
      if dangling then
        refuse call.name ("not writing through dangling symlink " ++ quote target)
      else
        let written ←
          if style.bare && !isNew then pure (.ok ()) else Chore.writeFile .writing target content
        match written with
        | .error fault =>
            refuse call.name ("cannot create regular file " ++ quote target ++ ": " ++ fault.message)
        | .ok () => do
            if isNew then
              let _ ← Chore.act fun scene =>
                let mode := HostDisk.modeOf old
                let mode := mode - (mode &&& scene.me.umask)
                scene.attempt ((scene.stat target).map fun entry => scene.disk.setMode entry mode)
            likeOld style old target
            return 0

def copyNode (call : Call) (style : CopyStyle) (source target : Octets) (node : Inode) :
    Chore Nat := do
  match node with
  | .link text mtime => do
      let _ ← Chore.onDisk fun disk cwd => disk.unlink cwd target
      attempt call ("cannot create symbolic link " ++ quote target) fun disk cwd => do
        let disk ← disk.makeLink cwd text target
        if style.times then return disk.setTime (← disk.lstat cwd target) mtime else return disk
  | node =>
      let again := match node with
        | .fifo _ mode => if style.tree then some mode else none
        | _ => none
      if style.symbolic && source.head? != some '/' && dirName target != ['.'] then
        refuse call.name (quoteIfNeeded target ++
          ": can make relative symbolic links only in current directory")
      else if style.hard || style.symbolic then do
        if style.force then
          let _ ← Chore.onDisk fun disk cwd => disk.unlink cwd target
        attempt call ("cannot create " ++ (if style.hard then "hard" else "symbolic") ++ " link " ++
            quote target ++ " to " ++ quote source) fun disk cwd =>
          if style.hard then disk.addName cwd source target
          else disk.makeLink cwd source target
      else if let some mode := again then
        attempt call ("cannot create fifo " ++ quote target) fun disk cwd =>
          disk.makeFifo mode cwd target
      else copyContent call style source target node

def UpdateRule.spares (rule : UpdateRule) (entry : HostEntry)
    (present reached : Except HostFault HostEntry) : Bool :=
  match rule, reached with
  | .none, _ => present.isOk
  | .older, .ok other => HostDisk.mtimeOf entry.node ≤ HostDisk.mtimeOf other.node
  | _, _ => false

def isDir : Except HostFault HostEntry → Bool
  | .ok ⟨_, _, .dir _ _⟩ => true
  | _ => false

def sameFile (entry : HostEntry) : Except HostFault HostEntry → Bool
  | .ok other => other.id == entry.id && other.id != 0
  | .error _ => false

def sameSpot (entry : HostEntry) : Except HostFault HostEntry → Bool
  | .ok other => other.spot == entry.spot
  | .error _ => false

def mayReplace (call : Call) (asks : Bool) (target : Octets) : Chore Bool :=
  if asks then ask call ("overwrite " ++ quote target) else pure true

def copyEntry (call : Call) (style : CopyStyle) : Nat → Octets → Octets → Chore Nat
  | 0, _, _ => pure 1
  | depth + 1, source, target => do
      let found ← if style.links then Chore.lstat source else Chore.stat source
      match found with
      | .error fault => refuse call.name ("cannot stat " ++ quote source ++ ": " ++ fault.message)
      | .ok entry => do
          let present ← Chore.lstat target
          let reached ← Chore.stat target
          match entry.node with
          | .dir mtime mode =>
              if !style.tree then
                refuse call.name ("-r not specified; omitting directory " ++ quote source)
              else if (style.root.map (·.1)) = some entry.spot then
                let (_, top, copy) := style.root.getD ([], [], [])
                refuse call.name ("cannot copy a directory, " ++ quote top ++
                  ", into itself, " ++ quote copy)
              else if reached.isOk && !isDir reached then
                refuse call.name ("cannot overwrite non-directory " ++ quote target ++
                  " with directory " ++ quote source)
              else do
                let made ←
                  if isDir reached then pure (.ok ())
                  else Chore.act fun scene =>
                    let mode := mode - (mode &&& scene.me.umask)
                    scene.attempt (scene.disk.mkdir mode scene.cwd target)
                match made with
                | .error fault =>
                    refuse call.name
                      ("cannot create directory " ++ quote target ++ ": " ++ fault.message)
                | .ok () => do
                    announce (style.verbose && !isDir reached) (toward source target)
                    let (names, spot) ← Chore.look fun scene =>
                      (scene.disk.namesIn entry.spot, (scene.stat target).toOption.map (·.spot))
                    let inner := { style with
                      root := style.root <|> spot.map fun spot => (spot, source, target) }
                    let status ← eachOperand names fun name =>
                      copyEntry call inner depth (inDirectory source name) (inDirectory target name)
                    likeOld style (.dir mtime mode) target
                    return status
          | node =>
              if style.update.spares entry present reached then return 0
              else if isDir reached then
                refuse call.name ("cannot overwrite directory " ++ quote target ++
                  " with non-directory")
              else if sameFile entry reached && !(style.hard && !sameSpot entry present) then
                refuse call.name (quote source ++ " and " ++ quote target ++ " are the same file")
              else if !(← mayReplace call (style.asks && present.isOk) target) then return 1
              else do
                let backup ← backUp call style.given target
                if style.removes && present.isOk && backup.isNone then
                  let _ ← Chore.onDisk fun disk cwd => disk.unlink cwd target
                  announce style.verbose ("removed " ++ quote target)
                announce style.verbose (toward source target ++ backupNote backup)
                copyNode call style source target node

def updateRule (given : Given) : Except String UpdateRule :=
  given.options.foldl (fun rule (letter, value) =>
    match letter with
    | 'n' => .ok .none
    | 'u' => .ok .older
    | 'υ' =>
        match String.ofList value with
        | "" | "older" => .ok .older
        | "all" => .ok .all
        | "none" | "none-fail" => .ok .none
        | _ => .error ("invalid argument " ++ quote value ++ " for '--update'\n" ++
            "Valid arguments are:\n  - 'all'\n  - 'none'\n  - 'older'")
    | _ => rule) (.ok .all)

def asksBefore (given : Given) : Bool :=
  ((given.options.map (·.1)).filter fun c => c == 'i' || c == 'n' || c == 'f').getLast? == some 'i'

def preserved (given : Given) (wanted : String) : Bool :=
  given.options.foldl (fun kept (letter, value) =>
    let names := Text.splitOn ',' value
    let named := names.any fun name => name = wanted.toList || name = "all".toList
    match letter with
    | 'a' | 'p' => true
    | 'κ' => kept || value.isEmpty || named
    | 'ν' => kept && !named
    | _ => kept) false

def cp : Tool :=
  withOptions {
    flags := "abdfHiLlnpPrRsTuvxπαδσ"
    valued := "tSν"
    optional := "βυκρζ"
    long := [("archive", 'a'), ("no-clobber", 'n'), ("no-dereference", 'P'), ("dereference", 'L'),
      ("recursive", 'r'), ("update", 'υ'), ("link", 'l'), ("symbolic-link", 's'), ("preserve", 'κ'),
      ("no-preserve", 'ν'), ("parents", 'π'), ("attributes-only", 'α'), ("remove-destination", 'δ'),
      ("reflink", 'ρ'), ("sparse", 'ζ'), ("one-file-system", 'x'),
      ("strip-trailing-slashes", 'σ')] ++ transferOptions } 1 fun call given => do
    match updateRule given with
    | .error message => misuse call.name message 1
    | .ok update => do
        let archive := given.has 'a'
        let tree := archive || given.has 'r' || given.has 'R'
        let style : CopyStyle := {
          tree
          links := !given.has 'L' && (archive || given.has 'P' || given.has 'd' || tree)
          times := preserved given "timestamps" || (given.has 'κ' && given.value? 'κ' = some [])
          modes := preserved given "mode"
          force := given.has 'f'
          removes := given.has 'δ'
          asks := asksBefore given
          update
          verbose := given.has 'v'
          hard := given.has 'l'
          symbolic := given.has 's'
          bare := given.has 'α'
          given }
        if given.has 'π' then parents call given style
        else eachPair call (← pairUp given false) (copyEntry call style treeDepth)
where
  parents (call : Call) (given : Given) (style : CopyStyle) : Chore Nat := do
    let (dir, sources) :=
      match given.value? 't' with
      | some dir => (dir, given.operands)
      | none => (given.operands.getLastD [], given.operands.dropLast)
    if sources.isEmpty || !(← isDirectory dir) then
      misuse call.name "with --parents, the destination must be a directory" 1
    else
      eachOperand sources fun source => do
        let path := source.dropWhile (· == '/')
        let say (made : Octets) : Chore Unit :=
          announce (given.has 'v') (Text.ofOctets (made.drop (dir.length + 1)) ++ " -> " ++
            Text.ofOctets made)
        let above := (wayTo (inDirectory dir path)).dropLast.drop (wayTo dir).length
        let status ← mkdirAlong call say id above
        if status = 0 then copyEntry call style treeDepth source (inDirectory dir path)
        else return status

def mv : Tool :=
  withOptions {
    flags := "bfinTuvσ"
    valued := "tS"
    optional := "βυ"
    long := [("no-clobber", 'n'), ("update", 'υ'), ("strip-trailing-slashes", 'σ')] ++
      transferOptions } 1 fun call given => do
    match updateRule given with
    | .error message => misuse call.name message 1
    | .ok update => do
        eachPair call (← pairUp given false) fun source target => do
          match ← Chore.lstat source with
          | .error fault =>
              refuse call.name ("cannot stat " ++ quote source ++ ": " ++ fault.message)
          | .ok entry => do
              let present ← Chore.lstat target
              match (if sameSpot entry present then UpdateRule.all else update), present with
              | .none, .ok _ =>
                  if (given.options.any fun option => option.1 == 'n') then
                    refuse call.name ("not replacing " ++ quote target)
                  else return 0
              | .older, .ok other =>
                  if HostDisk.mtimeOf entry.node ≤ HostDisk.mtimeOf other.node then return 0
                  else move call given source target entry present
              | _, _ => move call given source target entry present
where
  move (call : Call) (given : Given) (source target : Octets) (entry : HostEntry)
      (present : Except HostFault HostEntry) : Chore Nat := do
    if sameSpot entry present then
      refuse call.name (quote source ++ " and " ++ quote target ++ " are the same file")
    else if !(← mayReplace call (asksBefore given && present.isOk) target) then return 1
    else
      let backup ← backUp call given target
      let isTree := match entry.node with
        | .dir _ _ => true
        | _ => false
      let renamed ←
        if !isTree && !present.isOk && target.getLast? = some '/' then
          pure (.error HostFault.notDirectory)
        else Chore.onDisk fun disk cwd => disk.rename cwd source target
      match renamed with
      | .ok () => do
          announce (given.has 'v') ("renamed " ++ toward source target ++ backupNote backup)
          return 0
      | .error .invalid =>
          refuse call.name ("cannot move " ++ quote source ++
            " to a subdirectory of itself, " ++ quote target)
      | .error .notDirectory =>
          match present with
          | .ok _ =>
              refuse call.name ("cannot overwrite non-directory " ++ quote target ++
                " with directory " ++ quote source)
          | .error _ =>
              refuse call.name ("cannot move " ++ quote source ++ " to " ++ quote target ++
                ": " ++ HostFault.notDirectory.message)
      | .error .isDirectory =>
          refuse call.name ("cannot overwrite directory " ++ quote target ++
            " with non-directory")
      | .error .notEmpty =>
          refuse call.name ("cannot overwrite " ++ quote target ++ ": " ++ HostFault.notEmpty.message)
      | .error fault =>
          refuse call.name ("cannot move " ++ quote source ++ " to " ++ quote target ++ ": " ++
            fault.message)

def install : Tool :=
  withOptions {
    flags := "bcCdDpsTv"
    valued := "mtogS"
    optional := "β"
    long := [("directory", 'd'), ("mode", 'm'), ("preserve-timestamps", 'p'), ("compare", 'C'),
      ("owner", 'o'), ("group", 'g'), ("strip", 's')] ++ transferOptions } 1 fun call given => do
    let mode? := (given.value? 'm').map fun text => Permission.change? text false 0 0
    let mode := (mode?.getD (some 0o755)).getD 0o755
    let say (dir : Octets) : Chore Unit := announce (given.has 'v')
      (String.ofList call.name ++ ": creating directory " ++ quote dir)
    if mode? = some none then
      refuse call.name ("invalid mode " ++ quote ((given.value? 'm').getD []))
    else if given.has 'd' then
      if given.operands.isEmpty then misuse call.name "missing file operand" 1
      else eachOperand given.operands fun path => mkdirAlong call say (fun _ => mode) (wayTo path)
    else
      if given.has 'D' then
        match given.value? 't', given.operands with
        | some dir, _ => let _ ← mkdirAlong call say id (wayTo dir)
        | none, [_, target] =>
            let _ ← mkdirAlong call say id ((wayTo target).dropLast)
        | _, _ => pure ()
      eachPair call (← pairUp given false) fun source target => do
        match ← Chore.stat source with
        | .ok ⟨_, _, .dir _ _⟩ =>
            refuse call.name ("omitting directory " ++ quote source)
        | .error fault =>
            refuse call.name ("cannot stat " ++ quote source ++ ": " ++ fault.message)
        | .ok _ => do
            let backup ← backUp call given target
            let removed := (← Chore.onDisk fun disk cwd => disk.unlink cwd target).isOk
            announce (given.has 'v' && removed) ("removed " ++ quote target)
            announce (given.has 'v') (toward source target ++ backupNote backup)
            let status ← copyEntry call { times := given.has 'p' } treeDepth source target
            if status = 0 then
              attempt call ("cannot change permissions of " ++ quote target) fun disk cwd =>
                (disk.stat cwd target).map fun entry => disk.setMode entry mode
            else return status

end ArtifactPipeline.Tools
