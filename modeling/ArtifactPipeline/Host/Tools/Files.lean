import ArtifactPipeline.Host.Tools.Date
import ArtifactPipeline.Host.Tools.Permission
import ArtifactPipeline.Host.Tools.Printing

set_option autoImplicit false

namespace ArtifactPipeline.Tools

open Text (Octets)

def inDirectory (dir name : Octets) : Octets :=
  if dir.getLast? = some '/' then dir ++ name else dir ++ '/' :: name

def isDirectory (path : Octets) : Chore Bool :=
  Chore.look fun scene => scene.disk.isDirAt scene.cwd path

def attempt (call : Call) (failed : String) (step : HostDisk → Spot → Except HostFault HostDisk) :
    Chore Nat := do
  match ← Chore.onDisk step with
  | .ok () => return 0
  | .error fault => refuse call.name (failed ++ ": " ++ fault.message)

inductive NewTime where
  | now
  | told (time : Nat)
  deriving DecidableEq, Repr

def touchOne (call : Call) (given : Given) (time : NewTime) (path : Octets) : Chore Nat := do
  let failed := "cannot touch " ++ quote path
  let words := (given.value? 'ω').getD []
  let keepsTime := (given.has 'a' || (!words.isEmpty && words.head? != some 'm')) &&
    !given.has 'm' && words.head? != some 'm'
  let stamp (disk : HostDisk) : Nat :=
    match time with
    | .now => disk.clock
    | .told time => time
  match ← (if given.has 'h' then Chore.lstat path else Chore.stat path) with
  | .ok entry => do
      if keepsTime then return 0
      else attempt call failed fun disk _ => .ok (disk.setTime entry (stamp disk))
  | .error .missing =>
      if given.has 'c' then return 0
      else if given.has 'h' then
        refuse call.name ("setting times of " ++ quote path ++ ": " ++ HostFault.missing.message)
      else
        match ← Chore.openFile .both path with
        | .error fault => refuse call.name (failed ++ ": " ++ fault.message)
        | .ok descriptor => do
            Chore.close descriptor
            if time = .now || keepsTime then return 0
            else
              attempt call failed fun disk cwd =>
                (disk.stat cwd path).map fun entry => disk.setTime entry (stamp disk)
  | .error fault =>
      if given.has 'c' && fault = .notDirectory then return 0
      else refuse call.name (failed ++ ": " ++ fault.message)

def toldTime (call : Call) (given : Given) : Chore (Except String NewTime) := do
  let now ← Chore.look fun scene => scene.disk.clock
  let invalid (text : Octets) : Except String NewTime :=
    .error ("invalid date format " ++ inQuotes text)
  let read (base : Nat) (text : Octets) : Except String NewTime :=
    match Moment.ofText? base (Zone.ofVars call.vars).ahead text with
    | some time => .ok (.told time.toNat)
    | none => invalid text
  match given.value? 't', given.value? 'r', given.value? 'd' with
  | some text, none, none =>
      match Moment.ofDigits? now text with
      | some time => return .ok (.told time.toNat)
      | none => return invalid text
  | some _, _, _ => return .error "cannot specify times from more than one source"
  | none, some path, date => do
      match ← (if given.has 'h' then Chore.lstat path else Chore.stat path) with
      | .error fault =>
          return .error ("failed to get attributes of " ++ quote path ++ ": " ++ fault.message)
      | .ok entry =>
          let base := HostDisk.mtimeOf entry.node
          match date with
          | none => return .ok (.told base)
          | some text => return read base text
  | none, none, some text => return read now text
  | none, none, none => return .ok .now

def touch : Tool :=
  withOptions {
    flags := "acfhm"
    valued := "drtω"
    long := [("no-create", 'c'), ("date", 'd'), ("reference", 'r'), ("time", 'ω'),
      ("no-dereference", 'h')] } 1 fun call given => do
    match ← toldTime call given with
    | .error message => refuse call.name message
    | .ok time =>
        if given.operands.isEmpty then misuse call.name "missing file operand" 1
        else eachOperand given.operands (touchOne call given time)

def wayTo (path : Octets) : List Octets :=
  let parts := Text.splitOn '/' (HostDisk.withoutSlashes path)
  ((List.range parts.length).map fun depth => Text.joinWith ['/'] (parts.take (depth + 1))).filter
    fun dir => !dir.isEmpty && dir.getLast? != some '/'

def mkdirAlong (call : Call) (say : Octets → Chore Unit) (last : Nat → Nat) :
    List Octets → Chore Nat
  | [] => pure 0
  | dir :: rest => do
      let mask ← Chore.look fun scene => scene.me.umask
      let usual := 0o777 - (0o777 &&& mask)
      let mode := if rest.isEmpty then last usual else usual
      match ← Chore.onDisk fun disk cwd => disk.mkdir mode cwd dir with
      | .ok () => do
          say dir
          mkdirAlong call say last rest
      | .error fault => do
          if ← isDirectory dir then mkdirAlong call say last rest
          else refuse call.name ("cannot create directory " ++ quote dir ++ ": " ++ fault.message)

def mkdir : Tool :=
  withOptions {
    flags := "pvZ"
    valued := "m"
    long := [("parents", 'p'), ("mode", 'm'), ("verbose", 'v')] } 1 fun call given => do
    let say (dir : Octets) : Chore Unit := do
      if given.has 'v' then
        let _ ← Chore.write 1 (call.name ++ ": created directory ".toList ++
          (quote dir).toList ++ ['\n'])
    let mode (usual : Nat) : Option Nat :=
      match given.value? 'm' with
      | some text => Permission.change? text true 0 0o777
      | none => some usual
    if given.operands.isEmpty then misuse call.name "missing operand" 1
    else if (mode 0).isNone then
      refuse call.name ("invalid mode " ++ inQuotes ((given.value? 'm').getD []))
    else
      eachOperand given.operands fun path => do
        if given.has 'p' then mkdirAlong call say (fun usual => (mode usual).getD usual) (wayTo path)
        else
          let mask ← Chore.look fun scene => scene.me.umask
          let usual := 0o777 - (0o777 &&& mask)
          let status ← attempt call ("cannot create directory " ++ quote path) fun disk cwd =>
            disk.mkdir ((mode usual).getD usual) cwd path
          if status = 0 then say path
          return status

/-- The permissions that a new pipe with a name is to have, when they differ from the usual ones:
`none` in the inner place for a mode that cannot be read. -/
def pipeMode? (given : Given) : Except String (Option Nat) :=
  match given.value? 'm' with
  | none => .ok none
  | some text =>
      match Permission.change? text false 0 0o666 with
      | none => .error "invalid mode"
      | some mode =>
          if mode ≤ 0o777 then .ok (some mode)
          else .error "mode must specify only file permission bits"

def makePipe (failure : Octets → String) (call : Call) (mode : Option Nat) (path : Octets) :
    Chore Nat := do
  let mask ← Chore.look fun scene => scene.me.umask
  let usual := 0o666 - (0o666 &&& mask)
  match ← Chore.onDisk fun disk cwd => disk.makeFifo (mode.getD usual) cwd path with
  | .ok () => return 0
  | .error fault => refuse call.name (failure path ++ ": " ++ fault.message)

def mkfifo : Tool :=
  withOptions { flags := "Z", valued := "m", long := [("mode", 'm')] } 1 fun call given => do
    match given.operands, pipeMode? given with
    | [], _ => misuse call.name "missing operand" 1
    | _, .error message => refuse call.name message
    | paths, .ok mode =>
        eachOperand paths
          (makePipe (fun path => "cannot create fifo " ++ inQuotes path) call mode)

def mknod : Tool :=
  withOptions { flags := "Z", valued := "m", long := [("mode", 'm')] } 1 fun call given => do
    match given.operands, pipeMode? given with
    | [], _ => misuse call.name "missing operand" 1
    | [path], _ => misuse call.name ("missing operand after " ++ inQuotes path) 1
    | _, .error message => refuse call.name message
    | [path, ['p']], .ok mode => makePipe quote call mode path
    | [_, 'p' :: _, more], _ | _ :: _ :: _ :: _ :: more :: _, _ =>
        misuse call.name ("extra operand " ++ inQuotes more) 1
    | [path, _, _, _], .ok _ => refuse call.name (quote path ++ ": Operation not permitted")
    | _ :: kind :: rest, _ =>
        misuse call.name ("missing operand after " ++ inQuotes (rest.getLast?.getD kind) ++
          "\nSpecial files require major and minor device numbers.") 1

def rmdir : Tool :=
  withOptions {
    flags := "pvι"
    long := [("parents", 'p'), ("verbose", 'v'), ("ignore-fail-on-non-empty", 'ι')] } 1
    fun call given =>
      let one (above : Bool) (path : Octets) : Chore Nat := do
        if given.has 'v' then
          let _ ← Chore.write 1 (call.name ++ ": removing directory, ".toList ++
            Text.octets (quote path) ++ ['\n'])
        match ← Chore.onDisk fun disk cwd => disk.rmdir cwd path with
        | .ok () => return 0
        | .error fault =>
            if fault = .notEmpty && given.has 'ι' then return 2
            else
              complain call.name ("failed to remove " ++ (if above then "directory " else "") ++
                quote path ++ ": " ++ fault.message)
              return 1
      if given.operands.isEmpty then misuse call.name "missing operand" 1
      else eachOperand given.operands fun path => do
        let status ←
          if given.has 'p' then upwards one false (wayTo path).reverse else one false path
        return status % 2
where
  upwards (one : Bool → Octets → Chore Nat) (above : Bool) : List Octets → Chore Nat
    | [] => pure 0
    | dir :: rest => do
        let status ← one above dir
        if status = 0 then upwards one true rest else return status

def readAnswer : Nat → Octets → Chore Bool
  | 0, _ => pure false
  | rounds + 1, read => do
      match ← Chore.readUpTo 0 1 with
      | .error _ | .ok [] => return isYes read.reverse
      | .ok bytes =>
          if bytes.contains '\n' then return isYes read.reverse
          else readAnswer rounds (bytes ++ read)
where
  isYes (answer : Octets) : Bool :=
    answer.head? == some 'y' || answer.head? == some 'Y'

def ask (call : Call) (question : String) : Chore Bool := do
  let _ ← Chore.write 2 (call.name ++ ": ".toList ++ Text.octets question ++ "? ".toList)
  readAnswer Chore.readLimit []

def kindWords (node : Inode) : String :=
  match node with
  | .file [] _ _ => "regular empty file"
  | .file _ _ _ | .tool _ => "regular file"
  | .dir _ _ => "directory"
  | .link _ _ => "symbolic link"
  | .device _ => "character special file"
  | .fifo _ _ => "fifo"

inductive Caution where
  | never
  | usual
  | once
  | always
  deriving DecidableEq, Repr

def cautionOf (given : Given) : Caution :=
  given.options.foldl (fun caution (letter, value) =>
    match letter with
    | 'f' => .never
    | 'I' => .once
    | 'i' => .always
    | 'ι' =>
        match String.ofList value with
        | "never" | "no" | "none" => .never
        | "once" => .once
        | _ => .always
    | _ => caution) .usual

def ignoresMissing (given : Given) : Bool :=
  ((given.options.map (·.1)).filter fun c => c == 'f' || c == 'i' || c == 'I').getLast? == some 'f'

def removeEntry (call : Call) (given : Given) (caution : Caution) : Nat → Octets → Chore Nat
  | 0, _ => pure 1
  | depth + 1, path => do
      let failed := "cannot remove " ++ quote path
      let tree := given.has 'r' || given.has 'R'
      let asked (question : String) : Chore Bool :=
        if caution = .always then ask call (question ++ " " ++ quote path) else pure true
      match ← Chore.lstat path with
      | .error fault =>
          if ignoresMissing given && (fault = .missing || fault = .notDirectory) then return 0
          else refuse call.name (failed ++ ": " ++ fault.message)
      | .ok ⟨spot, _, .dir _ _⟩ => do
          let names ← Chore.look fun scene => scene.disk.namesIn spot
          if !tree && !given.has 'd' then
            refuse call.name (failed ++ ": " ++ HostFault.isDirectory.message)
          else if !tree && !names.isEmpty then
            refuse call.name (failed ++ ": " ++ HostFault.notEmpty.message)
          else if !(← if names.isEmpty then pure true else asked "descend into directory") then
            return 0
          else
            let status ← eachOperand names fun name =>
              removeEntry call given caution depth (inDirectory path name)
            let left ← Chore.look fun scene => scene.disk.namesIn spot
            if !left.isEmpty then return status
            else if !(← asked "remove directory") then return status
            else
              let own ← attempt call failed fun disk _ => .ok (disk.take spot)
              if own = 0 && given.has 'v' then
                let _ ← Chore.write 1
                  ("removed directory ".toList ++ Text.octets (quote path) ++ ['\n'])
              return max status own
      | .ok entry => do
          if !(← asked ("remove " ++ kindWords entry.node)) then return 0
          else
            let status ← attempt call failed fun disk cwd => disk.unlink cwd path
            if status = 0 && given.has 'v' then
              let _ ← Chore.write 1 ("removed ".toList ++ Text.octets (quote path) ++ ['\n'])
            return status

def treeDepth : Nat := 4096

def rmOne (call : Call) (given : Given) (caution : Caution) (path : Octets) : Chore Nat :=
  let name := HostDisk.lastName path
  let tree := given.has 'r' || given.has 'R'
  if tree && (name = ['.'] || name = ['.', '.']) then
    refuse call.name
      ("refusing to remove '.' or '..' directory: skipping " ++ quote path)
  else removeEntry call given caution treeDepth path

def rm : Tool :=
  withOptions {
    flags := "dfiIrRvξ"
    optional := "ι"
    long := [("force", 'f'), ("recursive", 'r'), ("dir", 'd'), ("verbose", 'v'),
      ("interactive", 'ι'), ("one-file-system", 'ξ'), ("no-preserve-root", 'ξ'),
      ("preserve-root", 'ξ')] } 1
    fun call given => do
      let caution := cautionOf given
      let tree := given.has 'r' || given.has 'R'
      let count := given.operands.length
      if given.operands.isEmpty then
        if given.has 'f' then return 0 else misuse call.name "missing operand" 1
      else if caution = .once && (tree || 3 < count) then
        let question := "remove " ++ Nat.repr count ++ " argument" ++ (if count = 1 then "" else "s") ++
          (if tree then " recursively" else "")
        if ← ask call question then eachOperand given.operands (rmOne call given .usual)
        else return 0
      else eachOperand given.operands (rmOne call given caution)

def below (disk : HostDisk) : Nat → HostEntry → List HostEntry
  | 0, _ => []
  | depth + 1, entry =>
      entry ::
        match entry.node with
        | .dir _ _ =>
            (disk.namesIn entry.spot).flatMap fun name =>
              match disk.get? (entry.spot ++ [name]) with
              | some inner => below disk depth inner
              | none => []
        | _ => []

def chmod : Tool := fun call =>
  -- A mode may start with a hyphen, and is then no option.
  let isMode (arg : Octets) : Bool :=
    arg.length > 1 && arg.head? = some '-' &&
      (arg.drop 1).all fun c => "rwxXstugo+-=,0123456789".toList.contains c
  let before := call.args.takeWhile fun arg => !isMode arg
  let after := call.args.drop before.length
  let (mode, args) :=
    match after with
    | mode :: rest => if before.any fun arg => arg.head? != some '-' then (none, call.args)
        else (some mode, before ++ rest)
    | [] => (none, call.args)
  withOptions {
    flags := "cfRv"
    valued := "r"
    long := [("recursive", 'R'), ("verbose", 'v'), ("silent", 'f'), ("reference", 'r')] } 1
    (fun call given => do
      let (mode, paths) : Option Octets × List Octets :=
        match mode, given.operands with
        | some mode, operands => (some mode, operands)
        | none, first :: rest => (some first, rest)
        | none, [] => (none, [])
      match mode with
      | none => misuse call.name "missing operand" 1
      | some text => do
          let mask ← Chore.look fun scene => scene.me.umask
          if (Permission.change? text false mask 0).isNone then
            misuse call.name ("invalid mode: " ++ inQuotes text) 1
          else if paths.isEmpty then
            misuse call.name ("missing operand after " ++ inQuotes text) 1
          else
            eachOperand paths fun path => do
              match ← Chore.stat path with
              | .error fault =>
                  refuse call.name ("cannot access " ++ quote path ++ ": " ++ fault.message)
              | .ok entry =>
                  attempt call ("changing permissions of " ++ quote path) fun disk _ =>
                    let entries := if given.has 'R' then below disk treeDepth entry else [entry]
                    .ok (entries.foldl (fun disk entry =>
                      let isDir := match entry.node with
                        | .dir _ _ => true
                        | _ => false
                      match Permission.change? text isDir mask (HostDisk.modeOf entry.node) with
                      | some mode => disk.setMode entry mode
                      | none => disk) disk))
    { call with args }

def sizeFrom? (old : Nat) (text : Octets) : Option Nat :=
  let sign := text.take 1
  let signed := ['+', '-', '<', '>', '/', '%'].any fun c => sign = [c]
  let body := if signed then text.drop 1 else text
  let digits := body.takeWhile Char.isDigit
  let scale := match String.ofList (body.drop digits.length) with
    | "" => some 1
    | "K" | "k" | "KiB" => some 1024
    | "KB" | "kB" => some 1000
    | "M" | "MiB" => some 1048576
    | "MB" => some 1000000
    | _ => none
  match number? digits, scale with
  | some n, some scale =>
      let n := n * scale
      match sign with
      | ['+'] => some (old + n)
      | ['-'] => some (old - n)
      | ['<'] => some (min old n)
      | ['>'] => some (max old n)
      | ['/'] => some (if n = 0 then old else old / n * n)
      | ['%'] => some (if n = 0 then old else (old + n - 1) / n * n)
      | _ => some n
  | _, _ => none

def truncate : Tool :=
  withOptions {
    flags := "co"
    valued := "sr"
    long := [("size", 's'), ("no-create", 'c'), ("reference", 'r')] } 1 fun call given =>
    match given.value? 's' with
    | none => misuse call.name "you must specify either '--size' or '--reference'" 1
    | some text =>
        if (sizeFrom? 0 text).isNone then refuse call.name ("Invalid number: " ++ inQuotes text)
        else if given.operands.isEmpty then misuse call.name "missing file operand" 1
        else
          eachOperand given.operands fun path => do
            if given.has 'c' && !(← Chore.stat path).isOk then return 0
            else
              match ← Chore.openFile .both path with
              | .error fault =>
                  refuse call.name
                    ("cannot open " ++ quote path ++ " for writing: " ++ fault.message)
              | .ok descriptor => do
                  Chore.close descriptor
                  attempt call ("cannot truncate " ++ quote path) fun disk cwd =>
                    (disk.stat cwd path).map fun entry =>
                      disk.resize entry.id ((sizeFrom? (disk.sizeOf entry.id) text).getD 0)

def freshName (seed : Nat) (template : Octets) : Octets :=
  let back := template.reverse
  let tail := back.takeWhile fun c => c != 'X'
  let marks := (back.drop tail.length).takeWhile (· == 'X')
  let lead := back.drop (tail.length + marks.length)
  let letters := (List.range marks.length).map fun index =>
    Char.ofNat ('a'.toNat + (seed / Nat.pow 26 index) % 26)
  (tail ++ letters ++ lead).reverse

def mktemp : Tool :=
  withOptions {
    flags := "dqtu"
    valued := "p"
    long := [("directory", 'd'), ("tmpdir", 'p'), ("dry-run", 'u'), ("quiet", 'q')] } 1
    fun call given => do
      let dir := (given.value? 'p').getD ((call.vars.lookup "TMPDIR".toList).getD "/tmp".toList)
      let template :=
        match given.operands with
        | [] => inDirectory dir "tmp.XXXXXXXXXX".toList
        | text :: _ => if given.has 't' || given.has 'p' then inDirectory dir text else text
      if !Text.occursIn "XXX".toList template then
        refuse call.name ("too few X's in template " ++ quote template)
      else
        let path ← Chore.look fun scene => freshName (scene.disk.clock / 1000) template
        let status ←
          if given.has 'u' then pure 0
          else if given.has 'd' then
            attempt call ("failed to create directory via template " ++ quote template)
              fun disk cwd => disk.mkdir 0o700 cwd path
          else
            attempt call ("failed to create file via template " ++ quote template)
              fun disk cwd => (disk.create false 0o600 cwd path).map (·.2)
        if status = 0 then finish call (path ++ ['\n']) 0 else return status

def link : Tool := fun call =>
  match call.args with
  | [source, target] =>
      attempt call ("cannot create link " ++ quote target ++ " to " ++ quote source)
        fun disk cwd => disk.addName cwd source target
  | _ => misuse call.name "missing operand" 1

def unlink : Tool := fun call =>
  match call.args with
  | [path] =>
      attempt call ("cannot unlink " ++ quote path) fun disk cwd => disk.unlink cwd path
  | _ => misuse call.name "missing operand" 1

end ArtifactPipeline.Tools
