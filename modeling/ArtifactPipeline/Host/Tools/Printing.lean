import ArtifactPipeline.Host.Tools.Call

set_option autoImplicit false

namespace ArtifactPipeline.Tools

open Text (Octets)

def isOctal (c : Char) : Bool :=
  '0' ≤ c && c ≤ '7'

def octalValue (digits : Octets) : Nat :=
  digits.foldl (fun value c => 8 * value + (c.toNat - '0'.toNat)) 0

def charOf (code : Nat) : Char :=
  Char.ofNat (code % 256)

structure EscapeRules where
  zeroFirst : Bool := false
  zeroOnly : Bool := false
  hex : Bool := false
  unicode : Bool := false
  stop : Bool := false
  quotes : Bool := false
  capital : Bool := false

def simpleEscape? : Char → Option Char
  | '\\' => some '\\'
  | 'a' => some '\x07'
  | 'b' => some '\x08'
  | 'f' => some '\x0c'
  | 'n' => some '\n'
  | 'r' => some '\r'
  | 't' => some '\t'
  | 'v' => some '\x0b'
  | _ => none

inductive Escaped where
  | text (chars : Octets) (rest : Octets)
  | stopped

def codedChar (mark : Char) (width : Nat) (text : Octets) : Octets × Octets :=
  let digits := (text.take width).takeWhile fun c => (Text.hexValue? c).isSome
  let code := digits.foldl (fun code c => 16 * code + (Text.hexValue? c).getD 0) 0
  if digits.isEmpty then (['\\', mark], text)
  else if code < 128 then ([Char.ofNat code], text.drop digits.length)
  else
    let long := 65536 ≤ code
    let shown := (Nat.toDigits 16 code).map Char.toUpper
    ('\\' :: (if long then 'U' else 'u') :: padLeft '0' (if long then 8 else 4) shown,
      text.drop digits.length)

def escaped (rules : EscapeRules) (text : Octets) : Escaped :=
  match text with
  | [] => .text ['\\'] []
  | c :: rest =>
      match simpleEscape? c with
      | some char => .text [char] rest
      | none =>
          if c == 'c' && rules.stop then .stopped
          else if c == 'e' || (c == 'E' && rules.capital) then .text ['\x1b'] rest
          else if rules.quotes && (c == '\'' || c == '"' || c == '?') then .text [c] rest
          else if c == 'x' && rules.hex then
            let digits := (rest.take 2).takeWhile fun c => (Text.hexValue? c).isSome
            if digits.isEmpty then .text ['\\', 'x'] rest
            else
              let code := digits.foldl (fun code c => 16 * code + (Text.hexValue? c).getD 0) 0
              .text [charOf code] (rest.drop digits.length)
          else if (c == 'u' || c == 'U') && rules.unicode then
            let (shown, rest) := codedChar c (if c == 'u' then 4 else 8) rest
            .text shown rest
          else if isOctal c && (c == '0' || !rules.zeroOnly) then
            let text := if (rules.zeroFirst || rules.zeroOnly) && c == '0' &&
              (rest.head?.map isOctal).getD false then rest else text
            let digits := (text.take 3).takeWhile isOctal
            .text [charOf (octalValue digits)] (text.drop digits.length)
          else .text ['\\'] text

def unescape (rules : EscapeRules) : Nat → Octets → Octets × Bool
  | 0, _ => ([], false)
  | _ + 1, [] => ([], false)
  | fuel + 1, '\\' :: rest =>
      match escaped rules rest with
      | .stopped => ([], true)
      | .text chars rest =>
          let (more, stopped) := unescape rules fuel rest
          (chars ++ more, stopped)
  | fuel + 1, c :: rest =>
      let (more, stopped) := unescape rules fuel rest
      (c :: more, stopped)

def unescapeAll (rules : EscapeRules) (text : Octets) : Octets × Bool :=
  unescape rules (text.length + 1) text

def joinWords (words : List Octets) : Octets :=
  Text.joinWith [' '] words

def shellEcho (call : Call) : Chore Nat :=
  let (quiet, words) :=
    match call.args with
    | ['-', 'n'] :: rest => (true, rest)
    | words => (false, words)
  let (text, stopped) := unescapeAll { zeroFirst := true, stop := true } (joinWords words)
  finish call (if quiet || stopped then text else text ++ ['\n']) 0

def isEchoOption : Octets → Bool
  | '-' :: c :: letters => (c :: letters).all fun c => c == 'n' || c == 'e' || c == 'E'
  | _ => false

def echo : Tool := fun call =>
  let options := (call.args.takeWhile isEchoOption).flatten
  let words := call.args.dropWhile isEchoOption
  let escapes := ((options.filter fun c => c == 'e' || c == 'E').getLast?).getD 'E' == 'e'
  let (text, stopped) :=
    if escapes then unescapeAll { zeroFirst := true, hex := true, stop := true } (joinWords words)
    else (joinWords words, false)
  finish call (if options.contains 'n' || stopped then text else text ++ ['\n']) 0

def baseName (path : Octets) : Octets :=
  if path.isEmpty then []
  else
    let trimmed := (path.reverse.dropWhile (· == '/')).reverse
    if trimmed.isEmpty then ['/']
    else (trimmed.reverse.takeWhile fun c => c != '/').reverse

def dirName (path : Octets) : Octets :=
  let trimmed := (path.reverse.dropWhile (· == '/')).reverse
  if trimmed.isEmpty then (if path.isEmpty then ['.'] else ['/'])
  else
    let lead := trimmed.reverse.dropWhile fun c => c != '/'
    if lead.isEmpty then ['.']
    else
      let dir := (lead.dropWhile (· == '/')).reverse
      if dir.isEmpty then ['/'] else dir

def dropSuffix (suffix name : Octets) : Octets :=
  if suffix != name && suffix.isSuffixOf name then name.take (name.length - suffix.length) else name

def basename : Tool :=
  withOptions {
    flags := "az"
    valued := "s"
    long := [("multiple", 'a'), ("suffix", 's'), ("zero", 'z')]
    strictOrder := true } 1 fun call given =>
    let ending := if given.has 'z' then [Char.ofNat 0] else ['\n']
    match given.operands with
    | [] => do
        complain call.name "missing operand"
        return 1
    | path :: rest =>
        if given.has 'a' || given.has 's' then
          let suffix := (given.value? 's').getD []
          finish call ((path :: rest).flatMap fun path =>
            dropSuffix suffix (baseName path) ++ ending) 0
        else
          match rest with
          | [] => finish call (baseName path ++ ending) 0
          | [suffix] => finish call (dropSuffix suffix (baseName path) ++ ending) 0
          | _ => do
              complain call.name "extra operand"
              return 1

def dirname : Tool :=
  withOptions { flags := "z", long := [("zero", 'z')] } 1 fun call given =>
    if given.operands.isEmpty then do
      complain call.name "missing operand"
      return 1
    else
      finish call (given.operands.flatMap fun path =>
        dirName path ++ (if given.has 'z' then [Char.ofNat 0] else ['\n'])) 0

def pwd : Tool := fun call => do
  let spot ← Chore.look Scene.cwd
  finish call (HostDisk.spotText spot ++ ['\n']) 0

def varLines (vars : List (Octets × Octets)) : Octets :=
  vars.flatMap fun (name, value) => name ++ '=' :: value ++ ['\n']

def printenv : Tool :=
  withOptions { flags := "0", long := [("null", '0')], strictOrder := true } 2 fun call given =>
    let ended (text : Octets) : Octets :=
      if given.has '0' then Text.exchange '\n' (Char.ofNat 0) text else text
    match given.operands with
    | [] => finish call (ended (varLines call.vars)) 0
    | names =>
        let found := names.map fun name => call.vars.lookup name
        let text := found.flatMap fun value =>
          match value with
          | some value => value ++ ended ['\n']
          | none => []
        finish call text (if found.all Option.isSome then 0 else 1)

end ArtifactPipeline.Tools
