import ArtifactPipeline.Host.Tools.Encoding
import ArtifactPipeline.Text.Digest

set_option autoImplicit false

namespace ArtifactPipeline.Tools

open Text (Octets)

structure DigestKind where
  name : String
  size : Nat
  digest : Octets → Octets

namespace DigestKind

def md5 : DigestKind := ⟨"MD5", 16, Text.Digest.md5⟩
def sha1 : DigestKind := ⟨"SHA1", 20, Text.Digest.sha1⟩
def sha224 : DigestKind := ⟨"SHA224", 28, Text.Digest.sha224⟩
def sha256 : DigestKind := ⟨"SHA256", 32, Text.Digest.sha256⟩
def sha384 : DigestKind := ⟨"SHA384", 48, Text.Digest.sha384⟩
def sha512 : DigestKind := ⟨"SHA512", 64, Text.Digest.sha512⟩

def blake2b (size : Nat) : DigestKind :=
  ⟨if size = 64 then "BLAKE2b" else "BLAKE2b-" ++ Nat.repr (8 * size), size,
    Text.Digest.blake2b size⟩

def named : List (String × DigestKind) :=
  [("md5", md5), ("sha1", sha1), ("sha224", sha224), ("sha256", sha256), ("sha384", sha384),
    ("sha512", sha512), ("blake2b", blake2b 64)]

end DigestKind

def oneLine (name : Octets) : Octets × Bool :=
  if name.any fun c => c == '\\' || c == '\n' || c == '\r' then
    (name.flatMap fun c =>
      if c == '\\' then ['\\', '\\'] else if c == '\n' then ['\\', 'n']
      else if c == '\r' then ['\\', 'r'] else [c], true)
  else (name, false)

def fromOneLine : Octets → Option Octets
  | [] => some []
  | '\\' :: 'n' :: rest => (fromOneLine rest).map ('\n' :: ·)
  | '\\' :: 'r' :: rest => (fromOneLine rest).map ('\r' :: ·)
  | '\\' :: '\\' :: rest => (fromOneLine rest).map ('\\' :: ·)
  | '\\' :: _ => none
  | c :: rest => (fromOneLine rest).map (c :: ·)

structure DigestStyle where
  tagged : Bool := false
  binary : Bool := false
  zero : Bool := false
  base64 : Bool := false

def digestLine (style : DigestStyle) (kind : DigestKind) (digest name : Octets) : Octets :=
  let shown := if style.base64 then Radix.base64.encode digest else Text.Digest.hexText digest
  let (name, changed) := if style.zero then (name, false) else oneLine name
  let mark : Octets := if changed then ['\\'] else []
  let ending := if style.zero then Char.ofNat 0 else '\n'
  if style.tagged then
    mark ++ kind.name.toList ++ " (".toList ++ name ++ ") = ".toList ++ shown ++ [ending]
  else mark ++ shown ++ ' ' :: (if style.binary then '*' else ' ') :: name ++ [ending]

structure Checked where
  kind : DigestKind
  digest : Octets
  name : Octets

def isHex (text : Octets) : Bool :=
  text.all fun c => (Text.hexValue? c).isSome

def digestOf? (kind : DigestKind) (text : Octets) : Option Octets :=
  if text.length = 2 * kind.size && isHex text then some (text.map Char.toLower)
  else if text.length = (kind.size + 2) / 3 * 4 then
    match Radix.base64.decode text with
    | (bytes, true) => if bytes.length = kind.size then some (Text.Digest.hexText bytes) else none
    | _ => none
  else none

def taggedKind? (kinds : List DigestKind) (text : Octets) : Option (DigestKind × Octets) :=
  let candidates := kinds.flatMap fun kind =>
    let stem := (kind.name.takeWhile (· != '-')).toString
    if stem = "BLAKE2b" then
      let size := (text.drop 8).takeWhile Char.isDigit
      match text[7]?, number? size with
      | some '-', some bits => [DigestKind.blake2b (bits / 8)]
      | _, _ => [DigestKind.blake2b 64]
    else [kind]
  (candidates.find? fun kind => (kind.name.toList ++ " (".toList).isPrefixOf text ||
      (kind.name.toList ++ "(".toList).isPrefixOf text).map fun kind =>
    (kind, (text.drop kind.name.length).dropWhile (· == ' '))

def taggedLine? (kind : DigestKind) (text : Octets) : Option (Octets × Octets) :=
  match text with
  | '(' :: rest =>
      let back := rest.reverse
      let digest := (back.takeWhile fun c => c != '=' && c != ' ').reverse
      -- A digest may itself end with equals signs.
      let pads := (back.takeWhile (· == '=')).length
      let digest := if pads = 0 then digest
        else ((back.drop pads).takeWhile fun c => c != '=' && c != ' ').reverse ++
          List.replicate pads '='
      let front := (back.drop digest.length).dropWhile (· == ' ')
      match front with
      | '=' :: front =>
          match front.dropWhile (· == ' ') with
          | ')' :: name => (digestOf? kind digest).map fun digest => (digest, name.reverse)
          | _ => none
      | _ => none
  | _ => none

def checkedLine? (kinds : List DigestKind) (plain : Option DigestKind) (line : Octets) :
    Option Checked :=
  let line := line.dropWhile fun c => c == ' ' || c == '\t'
  let changed := line.head? = some '\\'
  let line := if changed then line.drop 1 else line
  let named (kind : DigestKind) (digest name : Octets) : Option Checked :=
    (if changed then fromOneLine name else some name).map fun name => ⟨kind, digest, name⟩
  match taggedKind? kinds line with
  | some (kind, rest) => (taggedLine? kind rest).bind fun (digest, name) => named kind digest name
  | none =>
      plain.bind fun kind =>
        let digits := line.takeWhile fun c => c != ' ' && c != '\t'
        let kind := if kind.name.startsWith "BLAKE2b" && digits.length % 2 = 0 && isHex digits &&
            digits.length ≤ 128 then DigestKind.blake2b (digits.length / 2) else kind
        match digestOf? kind digits, line.drop digits.length with
        | some digest, _ :: c :: name =>
            if c == ' ' || c == '*' then named kind digest name else named kind digest (c :: name)
        | _, _ => none

structure CheckStyle where
  quiet : Bool := false
  silent : Bool := false
  warns : Bool := false
  strict : Bool := false
  ignoresMissing : Bool := false

structure Tally where
  proper : Nat := 0
  improper : Nat := 0
  unread : Nat := 0
  mismatched : Nat := 0
  matched : Nat := 0

def checkLines (call : Call) (style : CheckStyle) (path : Octets) (kinds : List DigestKind)
    (plain : Option DigestKind) : List (Octets × Nat) → Tally → Chore Tally
  | [], tally => pure tally
  | (line, number) :: rest, tally => do
      let next (tally : Tally) : Chore Tally := checkLines call style path kinds plain rest tally
      if line.head? = some '#' then next tally
      else
        match checkedLine? kinds plain line with
        | none => do
            if style.warns then
              let kind := (plain.map DigestKind.name).getD "CRC"
              complain call.name (Text.ofOctets path ++ ": " ++ Nat.repr number ++
                ": improperly formatted " ++ kind ++ " checksum line")
            next { tally with improper := tally.improper + 1 }
        | some checked => do
            let tally := { tally with proper := tally.proper + 1 }
            let (name, changed) := oneLine checked.name
            let say (text : String) : Chore Unit := do
              let _ ← Chore.write 1
                ((if changed then ['\\'] else []) ++ name ++ ": ".toList ++ text.toList ++ ['\n'])
            match ← contentOf checked.name with
            | .error fault =>
                if style.ignoresMissing && fault = .missing then next tally
                else do
                  complainAbout call checked.name fault
                  if !style.silent then say "FAILED open or read"
                  next { tally with unread := tally.unread + 1 }
            | .ok content =>
                if Text.Digest.hexText (checked.kind.digest content) = checked.digest then do
                  if !style.silent && !style.quiet then say "OK"
                  next { tally with matched := tally.matched + 1 }
                else do
                  if !style.silent then say "FAILED"
                  next { tally with mismatched := tally.mismatched + 1 }

def checkFile (call : Call) (style : CheckStyle) (kinds : List DigestKind)
    (plain : Option DigestKind) (path : Octets) : Chore Nat := do
  match ← contentOf path with
  | .error .isDirectory => do
      complain call.name (quoteIfNeeded path ++ ": read error")
      return 1
  | .error fault => do
      complainAbout call path fault
      return 1
  | .ok content => do
      let name := if path = ['-'] then "'standard input'".toList else path
      let tally ← checkLines call style name kinds plain ((linesOf content).1.zipIdx 1) {}
      if tally.proper = 0 then
        complain call.name (Text.ofOctets name ++ ": no properly formatted checksum lines found")
      else if !style.silent then
        warn tally.improper "line is improperly formatted" "lines are improperly formatted"
        warn tally.unread "listed file could not be read" "listed files could not be read"
        warn tally.mismatched "computed checksum did NOT match" "computed checksums did NOT match"
        if style.ignoresMissing && tally.matched = 0 then
          complain call.name (Text.ofOctets name ++ ": no file was verified")
      let good := tally.proper != 0 && tally.matched != 0 && tally.mismatched = 0 &&
        tally.unread = 0 && (!style.strict || tally.improper = 0)
      return if good then 0 else 1
where
  warn (count : Nat) (one many : String) : Chore Unit := do
    if count != 0 then
      complain call.name ("WARNING: " ++ Nat.repr count ++ " " ++ if count = 1 then one else many)

def checkFiles (call : Call) (style : CheckStyle) (kinds : List DigestKind)
    (plain : Option DigestKind) (paths : List Octets) : Chore Nat :=
  eachOperand (if paths.isEmpty then [['-']] else paths) (checkFile call style kinds plain)

def showDigests (call : Call) (style : DigestStyle) (kind : DigestKind) (paths : List Octets) :
    Chore Nat :=
  streamFiles call paths () (fun _ name text => ((), digestLine style kind (kind.digest text) name))
    fun _ => []

def checkOnly : List (Char × String) :=
  [('ι', "ignore-missing"), ('σ', "status"), ('w', "warn"), ('κ', "quiet"), ('ρ', "strict")]

def digestOptions : List (String × Char) :=
  [("binary", 'b'), ("check", 'c'), ("ignore-missing", 'ι'), ("quiet", 'κ'), ("status", 'σ'),
    ("strict", 'ρ'), ("tag", 'τ'), ("text", 't'), ("warn", 'w'), ("zero", 'z')]

def lastOf (given : Given) (letters : String) : Option Char :=
  ((given.options.map (·.1)).filter letters.toList.contains).getLast?

def checkStyle (given : Given) : CheckStyle :=
  let volume := lastOf given "κσw"
  { quiet := volume = some 'κ', silent := volume = some 'σ', warns := volume = some 'w',
    strict := given.has 'ρ', ignoresMissing := given.has 'ι' }

def digestMistake? (given : Given) : Option String :=
  if given.has 'c' then
    if given.has 'τ' then some "the --tag option is meaningless when verifying checksums"
    else if given.has 'z' then some "the --zero option is not supported when verifying checksums"
    else if given.has 'b' || given.has 't' then
      some "the --binary and --text options are meaningless when verifying checksums"
    else none
  else if given.has 'τ' && lastOf given "bt" = some 't' then
    some "--tag does not support --text mode"
  else (checkOnly.find? fun entry => given.has entry.1).map fun entry =>
    "the --" ++ entry.2 ++ " option is meaningful only when verifying checksums"

def digestTool (kind : DigestKind) : Tool :=
  withOptions { flags := "bctwzικσρτ", long := digestOptions } 1 fun call given =>
    match digestMistake? given with
    | some message => misuse call.name message 1
    | none =>
        if given.has 'c' then checkFiles call (checkStyle given) [kind] (some kind) given.operands
        else
          let binary := lastOf given "bt" = some 'b'
          showDigests call { tagged := given.has 'τ', binary, zero := given.has 'z' } kind
            given.operands

def digestSize? (text : Octets) : Except String Nat :=
  match number? text with
  | none => .error "invalid length"
  | some bits =>
      if 512 < bits then .error "maximum digest length for 'BLAKE2b' is 512 bits"
      else if bits % 8 != 0 then .error "length is not a multiple of 8"
      else .ok (if bits = 0 then 64 else bits / 8)

def b2sum : Tool :=
  withOptions {
    flags := "bctwzικσρτ"
    valued := "l"
    long := ("length", 'l') :: digestOptions } 1 fun call given => do
    match (given.value? 'l').map digestSize?, digestMistake? given with
    | some (.error message), _ => do
        complain call.name ("invalid length: " ++ inQuotes ((given.value? 'l').getD []))
        refuse call.name message
    | _, some message => misuse call.name message 1
    | size, none =>
        let kind := DigestKind.blake2b <| match size with
          | some (.ok size) => size
          | _ => 64
        if given.has 'c' then checkFiles call (checkStyle given) [kind] (some kind) given.operands
        else
          let binary := lastOf given "bt" = some 'b'
          showDigests call { tagged := given.has 'τ', binary, zero := given.has 'z' } kind
            given.operands

def showSums (call : Call) (paths : List Octets) (ending : Char) (shown : Octets → Octets) :
    Chore Nat :=
  streamFiles call paths () (fun _ name text =>
    ((), shown text ++ (if paths.isEmpty then [] else ' ' :: name) ++ [ending])) fun _ => []

def blocks (size : Nat) (text : Octets) : Nat :=
  (text.length + size - 1) / size

def turnedSumText (text : Octets) : Octets :=
  padLeft '0' 5 (decimal (Text.Digest.turnedSum text)) ++ ' ' ::
    padLeft ' ' 5 (decimal (blocks 1024 text))

def foldedSumText (text : Octets) : Octets :=
  decimal (Text.Digest.foldedSum text) ++ ' ' :: decimal (blocks 512 text)

def crcText (text : Octets) : Octets :=
  decimal (Text.Digest.crc text) ++ ' ' :: decimal text.length

def sum : Tool :=
  withOptions { flags := "rs", long := [("sysv", 's')] } 1 fun call given =>
    let folded := (given.options.getLast?.map (·.1)) == some 's'
    showSums call given.operands '\n' (if folded then foldedSumText else turnedSumText)

def cksum : Tool :=
  withOptions {
    flags := "ctbwzικσρτυβ"
    valued := "al"
    long := [("algorithm", 'a'), ("base64", 'β'), ("length", 'l'), ("untagged", 'υ'), ("raw", 'r')] ++
      digestOptions } 1 fun call given => do
    let name := String.ofList ((given.value? 'a').getD "crc".toList)
    let ending := if given.has 'z' then Char.ofNat 0 else '\n'
    let tagged := lastOf given "τυ" != some 'υ'
    let style : DigestStyle := { tagged, zero := given.has 'z', base64 := given.has 'β' }
    let kind? := DigestKind.named.lookup name
    if (given.value? 'l').isSome && name != "blake2b" then
      refuse call.name "--length is only supported with --algorithm=blake2b"
    else if !given.has 'c' && tagged && lastOf given "bt" = some 't' then
      misuse call.name "--text mode is only supported with --untagged" 1
    else if given.has 'c' then
      if (given.value? 'a').isSome && kind?.isNone then
        misuse call.name "--check is not supported with --algorithm=\x7bbsd,sysv,crc\x7d" 1
      else
        checkFiles call (checkStyle given)
          ((kind?.map fun kind => [kind]).getD (DigestKind.named.map (·.2))) kind? given.operands
    else
      match name, kind? with
      | "crc", _ => showSums call given.operands ending crcText
      | "bsd", _ => showSums call given.operands ending turnedSumText
      | "sysv", _ => showSums call given.operands ending foldedSumText
      | _, some kind =>
          match (given.value? 'l').map digestSize? with
          | some (.error message) => do
              complain call.name ("invalid length: " ++ inQuotes ((given.value? 'l').getD []))
              refuse call.name message
          | some (.ok size) => showDigests call style (DigestKind.blake2b size) given.operands
          | none => showDigests call style kind given.operands
      | _, none =>
          misuse call.name ("invalid argument " ++ inQuotes ((given.value? 'a').getD []) ++
            " for '--algorithm'\nValid arguments are:\n  - 'bsd'\n  - 'sysv'\n  - 'crc'\n  - 'md5'\n" ++
            "  - 'sha1'\n  - 'sha224'\n  - 'sha256'\n  - 'sha384'\n  - 'sha512'\n  - 'blake2b'\n" ++
            "  - 'sm3'") 1

end ArtifactPipeline.Tools
