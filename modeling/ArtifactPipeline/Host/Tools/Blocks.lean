import ArtifactPipeline.Host.Tools.Sizes

set_option autoImplicit false

namespace ArtifactPipeline.Tools

open Text (Octets)

def blockCount? (text : Octets) : Option Nat :=
  let count? (part : Octets) : Option Nat :=
    if (part.head?.map Char.isDigit).getD false then byteCount? part else none
  ((Text.splitOn 'x' text).mapM count?).map fun counts => counts.foldl (· * ·) 1

structure BlockCopy where
  input : Option Octets := none
  output : Option Octets := none
  inSize : Nat := 512
  outSize : Nat := 512
  both : Option Nat := none
  skip : Nat × Bool := (0, false)
  seek : Nat × Bool := (0, false)
  count : Option (Nat × Bool) := none
  recordSize : Nat := 0
  conversions : List String := []
  inFlags : List String := []
  outFlags : List String := []
  status : String := ""

namespace BlockCopy

def converts (copy : BlockCopy) (name : String) : Bool :=
  copy.conversions.contains name

def conversionNames : List String :=
  ["block", "unblock", "lcase", "ucase", "sparse", "swab", "sync", "excl", "nocreat", "notrunc",
    "noerror", "fdatasync", "fsync"]

def flagNames : List String :=
  ["append", "binary", "cio", "direct", "directory", "dsync", "fullblock", "noatime", "nocache",
    "noctty", "nofollow", "nolinks", "nonblock", "sync", "text", "count_bytes", "skip_bytes",
    "seek_bytes"]

def named (what : String) (known : List String) (value : Octets) : Except String (List String) :=
  (Text.splitOn ',' value).mapM fun name =>
    if known.contains (String.ofList name) then .ok (String.ofList name)
    else .error ("invalid " ++ what ++ ": " ++ inQuotes name)

def amount (value : Octets) : Except String (Nat × Bool) :=
  match blockCount? value with
  | some n => .ok (n, value.getLast? = some 'B')
  | none => .error ("invalid number: " ++ inQuotes value)

def size (value : Octets) : Except String Nat :=
  match blockCount? value with
  | some (n + 1) => .ok (n + 1)
  | _ => .error ("invalid number: " ++ inQuotes value)

def add (copy : BlockCopy) (operand : Octets) : Except String BlockCopy := do
  let key := operand.takeWhile fun c => c != '='
  let value := operand.drop (key.length + 1)
  if !operand.contains '=' then .error ("unrecognized operand " ++ inQuotes operand)
  else
    match String.ofList key with
    | "if" => return { copy with input := some value }
    | "of" => return { copy with output := some value }
    | "bs" =>
        let n ← size value
        return { copy with both := some n }
    | "ibs" => return { copy with inSize := ← size value }
    | "obs" => return { copy with outSize := ← size value }
    | "cbs" => return { copy with recordSize := ← size value }
    | "skip" | "iseek" => return { copy with skip := ← amount value }
    | "seek" | "oseek" => return { copy with seek := ← amount value }
    | "count" => return { copy with count := some (← amount value) }
    | "conv" => return { copy with
        conversions := copy.conversions ++ (← named "conversion" conversionNames value) }
    | "iflag" =>
        return { copy with inFlags := copy.inFlags ++ (← named "input flag" flagNames value) }
    | "oflag" =>
        return { copy with outFlags := copy.outFlags ++ (← named "output flag" flagNames value) }
    | "status" =>
        if ["none", "noxfer", "progress"].contains (String.ofList value) then
          return { copy with status := String.ofList value }
        else .error ("invalid status level: " ++ inQuotes value)
    | _ => .error ("unrecognized operand " ++ inQuotes operand)

def settled (copy : BlockCopy) : BlockCopy :=
  match copy.both with
  | some size => { copy with inSize := size, outSize := size }
  | none => copy

def clash? (copy : BlockCopy) : Option String :=
  ([("block", "unblock"), ("lcase", "ucase"), ("excl", "nocreat")].find? fun (a, b) =>
    copy.converts a && copy.converts b).map fun (a, b) => "cannot combine " ++ a ++ " and " ++ b

def inBytes (amount : Nat × Bool) (flagged : Bool) (size : Nat) : Nat :=
  if amount.2 || flagged then amount.1 else amount.1 * size

def skipped (copy : BlockCopy) : Nat :=
  inBytes copy.skip (copy.inFlags.contains "skip_bytes") copy.inSize

def sought (copy : BlockCopy) : Nat :=
  inBytes copy.seek (copy.outFlags.contains "seek_bytes") copy.outSize

end BlockCopy

def swapPairs : Octets → Octets
  | a :: b :: rest => b :: a :: swapPairs rest
  | rest => rest

structure BlocksRead where
  blocks : List Octets := []
  full : Nat := 0
  partly : Nat := 0

def readBlocks (descriptor : Nat) (copy : BlockCopy) :
    Nat → Nat → Octets → BlocksRead → Chore (Except HostFault BlocksRead)
  | 0, _, _, read => pure (.ok read)
  | rounds + 1, bytes, held, read => do
      let byBytes := match copy.count with
        | some (_, marked) => marked || copy.inFlags.contains "count_bytes"
        | none => false
      let limit := (copy.count.map (·.1))
      let done : Bool := match limit with
        | some limit => if byBytes then limit ≤ bytes else limit ≤ read.full + read.partly
        | none => false
      if done then return .ok { read with blocks := read.blocks.reverse }
      else
        let wanted := match limit with
          | some limit => if byBytes then min copy.inSize (limit - bytes) else copy.inSize
          | none => copy.inSize
        match ← Chore.readUpTo descriptor (wanted - held.length) with
        | .error fault => return .error fault
        | .ok more =>
            let block := held ++ more
            if block.isEmpty then return .ok { read with blocks := read.blocks.reverse }
            else if copy.inFlags.contains "fullblock" && block.length < wanted && !more.isEmpty then
              readBlocks descriptor copy rounds bytes block read
            else
              let bytes := bytes + more.length
              let read := if block.length = copy.inSize then { read with full := read.full + 1 }
                else { read with partly := read.partly + 1 }
              readBlocks descriptor copy rounds bytes []
                { read with blocks := block :: read.blocks }

def toRecords (size : Nat) (text : Octets) : Octets :=
  let lines := (linesOf text).1
  lines.flatMap fun line => padRight size (line.take size)

def fromRecords (size : Nat) : Nat → Octets → Octets
  | 0, _ => []
  | fuel + 1, text =>
      if text.isEmpty then []
      else
        let record := text.take size
        (record.reverse.dropWhile (· == ' ')).reverse ++ '\n' :: fromRecords size fuel (text.drop size)

def BlockCopy.convert (copy : BlockCopy) (blocks : List Octets) : List Octets :=
  let cased := blocks.map fun block =>
    let block := if copy.converts "sync" then
        block ++ List.replicate (copy.inSize - block.length)
          (if copy.converts "block" || copy.converts "unblock" then ' ' else Char.ofNat 0)
      else block
    let block := if copy.converts "swab" then swapPairs block else block
    let block := if copy.converts "ucase" then block.map Char.toUpper else block
    if copy.converts "lcase" then block.map Char.toLower else block
  if copy.recordSize = 0 then cased
  else if copy.converts "block" then [toRecords copy.recordSize cased.flatten]
  else if copy.converts "unblock" then
    [fromRecords copy.recordSize (cased.flatten.length + 1) cased.flatten]
  else cased

def BlockCopy.written (copy : BlockCopy) (blocks : List Octets) : Nat × Nat :=
  if copy.both.isSome then
    (blocks.countP fun block => block.length = copy.outSize,
      blocks.countP fun block => block.length != copy.outSize)
  else
    let total := blocks.flatten.length
    (total / copy.outSize, if total % copy.outSize = 0 then 0 else 1)

def scaledBytes (base : Nat) (units : List String) (bytes : Nat) : String :=
  let power := ((List.range units.length).filter fun power => Nat.pow base power ≤ bytes).getLastD 0
  let unit := units[power]?.getD ""
  let tenths := (10 * bytes + Nat.pow base power / 2) / Nat.pow base power
  if tenths < 100 then Nat.repr (tenths / 10) ++ "." ++ Nat.repr (tenths % 10) ++ " " ++ unit
  else Nat.repr ((tenths + 5) / 10) ++ " " ++ unit

def copiedText (bytes : Nat) : String :=
  let known := if bytes < 1000 then ""
    else
      let decimal := scaledBytes 1000 ["B", "kB", "MB", "GB", "TB"] bytes
      let binary := scaledBytes 1024 ["B", "KiB", "MiB", "GiB", "TiB"] bytes
      if bytes < 1024 then " (" ++ decimal ++ ")" else " (" ++ decimal ++ ", " ++ binary ++ ")"
  Nat.repr bytes ++ (if bytes = 1 then " byte" else " bytes") ++ known ++ " copied, 0.0001 s, " ++
    (if bytes = 0 then "0.0 kB"
      else scaledBytes 1000 ["B", "kB", "MB", "GB", "TB"] (10000 * bytes)) ++ "/s"

def BlockCopy.openOutput (copy : BlockCopy) (path : Octets) : Chore (Except HostFault Unit) := do
  let present := (← Chore.stat path).isOk
  if copy.converts "excl" && present then return .error .occupied
  else if copy.converts "nocreat" && !present then return .error .missing
  else
    let append := copy.outFlags.contains "append"
    let access : Scene.Access := if append then .appending else .both
    match ← Chore.openFile access path with
    | .error fault => return .error fault
    | .ok descriptor => do
        Chore.change fun scene =>
          let scene := match scene.me.files.lookup descriptor with
            | some id => (scene.detach descriptor).attach 1 id
            | none => scene
          scene.seek 1 copy.sought
        if !copy.converts "notrunc" then
          let _ ← Chore.onDisk fun disk cwd =>
            (disk.stat cwd path).map fun entry => disk.resize entry.id copy.sought
        return .ok ()

def dd : Tool := fun call => do
  let operands := call.args.filter fun arg => arg != ['-', '-']
  match (operands.foldlM BlockCopy.add {}).map BlockCopy.settled with
  | .error message =>
      if "invalid number".toList.isPrefixOf message.toList then refuse call.name message
      else misuse call.name message 1
  | .ok copy => do
      if let some message := copy.clash? then
        return ← refuse call.name message
      let opened : Except HostFault Nat ←
        match copy.input with
        | some path => Chore.openFile .reading path
        | none => pure (.ok 0)
      match opened with
      | .error fault =>
          refuse call.name
            ("failed to open " ++ quote (copy.input.getD []) ++ ": " ++ fault.message)
      | .ok descriptor => do
          let output : Except HostFault Unit ←
            match copy.output with
            | some path => copy.openOutput path
            | none => pure (.ok ())
          match output with
          | .error fault =>
              refuse call.name
                ("failed to open " ++ quote (copy.output.getD []) ++ ": " ++ fault.message)
          | .ok () => run call copy descriptor
where
  run (call : Call) (copy : BlockCopy) (descriptor : Nat) : Chore Nat := do
    let skipped ←
      if copy.skipped = 0 then pure (.ok 0)
      else do
        let place ← Chore.look fun scene => scene.place? descriptor
        match place with
        | some place => Chore.act fun scene =>
            let size := match scene.fileOf? descriptor with
              | some (_, { channel := .inode id, .. }) => scene.disk.sizeOf id
              | _ => 0
            let target := min size (place + copy.skipped)
            (.ok (target - place), scene.seek descriptor target)
        | none => pass descriptor copy.skipped Chore.readLimit 0
    match skipped with
    | .error fault => refuse call.name ("error reading: " ++ fault.message)
    | .ok passed => do
        if passed < copy.skipped then
          complain call.name (quoteIfNeeded (copy.input.getD "standard input".toList) ++
            ": cannot skip to specified offset")
        match ← readBlocks descriptor copy Chore.readLimit 0 [] {} with
        | .error fault =>
            refuse call.name ("error reading " ++
              quote (copy.input.getD "standard input".toList) ++ ": " ++ fault.message)
        | .ok read => do
            let blocks := copy.convert read.blocks
            let bytes := blocks.flatten
            match ← Chore.write 1 bytes with
            | .error fault =>
                refuse call.name ("error writing " ++
                  quote (copy.output.getD "standard output".toList) ++ ": " ++ fault.message)
            | .ok () => do
                if copy.status != "none" then
                  let (whole, part) := copy.written blocks
                  let line (text : String) : Octets := text.toList ++ ['\n']
                  let _ ← Chore.write 2 (line (Nat.repr read.full ++ "+" ++
                    Nat.repr read.partly ++ " records in") ++
                    line (Nat.repr whole ++ "+" ++ Nat.repr part ++ " records out") ++
                    (if copy.status = "noxfer" then [] else line (copiedText bytes.length)))
                return 0
  pass (descriptor wanted : Nat) : Nat → Nat → Chore (Except HostFault Nat)
    | 0, passed => pure (.ok passed)
    | rounds + 1, passed => do
        if wanted ≤ passed then return .ok passed
        else
          match ← Chore.readUpTo descriptor (wanted - passed) with
          | .error fault => return .error fault
          | .ok [] => return .ok passed
          | .ok bytes => pass descriptor wanted rounds (passed + bytes.length)

end ArtifactPipeline.Tools
