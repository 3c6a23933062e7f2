import ArtifactPipeline.Host.Tools.Call

set_option autoImplicit false

namespace ArtifactPipeline.Tools

open Text (Octets)

structure Radix where
  bits : Nat
  group : Nat
  alphabet : String
  filled : Bool := true
  lenient : Bool := false

namespace Radix

def base64 : Radix where
  bits := 6
  group := 4
  alphabet := "ABCDEFGHIJKLMNOPQRSTUVWXYZabcdefghijklmnopqrstuvwxyz0123456789+/"
  lenient := true

def base64url : Radix where
  bits := 6
  group := 4
  alphabet := "ABCDEFGHIJKLMNOPQRSTUVWXYZabcdefghijklmnopqrstuvwxyz0123456789-_"
  lenient := true

def base32 : Radix where
  bits := 5
  group := 8
  alphabet := "ABCDEFGHIJKLMNOPQRSTUVWXYZ234567"

def base32hex : Radix where
  bits := 5
  group := 8
  alphabet := "0123456789ABCDEFGHIJKLMNOPQRSTUV"

def base16 : Radix where
  bits := 4
  group := 2
  alphabet := "0123456789ABCDEF"
  filled := false

def base2 : Radix where
  bits := 1
  group := 8
  alphabet := "01"
  filled := false

def letters (radix : Radix) : Octets → Nat → Nat → Octets
  | [], held, count =>
      if count = 0 then []
      else letter radix (held * Nat.pow 2 (radix.bits - count)) :: []
  | byte :: rest, held, count =>
      let value := 256 * held + byte.toNat
      let size := count + 8
      let whole := size / radix.bits
      let left := size % radix.bits
      let row := (List.range whole).map fun index =>
        letter radix (value / Nat.pow 2 (size - radix.bits * (index + 1)))
      row ++ letters radix rest (value % Nat.pow 2 left) left
where
  letter (radix : Radix) (value : Nat) : Char :=
    (radix.alphabet.toList[value % Nat.pow 2 radix.bits]?).getD '?'

def encode (radix : Radix) (bytes : Octets) : Octets :=
  let shown := letters radix bytes 0 0
  let left := shown.length % radix.group
  if radix.filled && left != 0 then shown ++ List.replicate (radix.group - left) '=' else shown

def value? (radix : Radix) (c : Char) : Option Nat :=
  radix.alphabet.toList.findIdx? (· == c)

/-- The bytes of one group, as far as it makes sense, and whether all of it does. Equals signs may fill
it up where fewer bits are left than a letter has. -/
def groupBytes (radix : Radix) : Octets → Nat → Nat → Nat → Octets × Bool
  | [], _, _, place => ([], place = radix.group)
  | c :: rest, held, count, place =>
      if c == '=' && radix.filled && 1 < place && count < radix.bits then
        ([], rest.all (· == '=') && place + 1 + rest.length = radix.group)
      else
        match radix.value? c with
        | none => ([], false)
        | some value =>
            let held := held * Nat.pow 2 radix.bits + value
            let count := count + radix.bits
            if 8 ≤ count then
              let left := count - 8
              let (bytes, good) := groupBytes radix rest (held % Nat.pow 2 left) left (place + 1)
              (Char.ofNat (held / Nat.pow 2 left) :: bytes, good)
            else groupBytes radix rest held count (place + 1)

def decodeGroups (radix : Radix) : Nat → Octets → Octets × Bool
  | 0, _ => ([], false)
  | fuel + 1, text =>
      if text.isEmpty then ([], true)
      else
        let group := text.take radix.group
        if group.length < radix.group && !radix.lenient then ([], false)
        else
          match groupBytes radix group 0 0 0 with
          | (bytes, true) =>
              let (more, good) := decodeGroups radix fuel (text.drop radix.group)
              (bytes ++ more, good)
          | (bytes, false) => (bytes, false)

def decode (radix : Radix) (text : Octets) : Octets × Bool :=
  decodeGroups radix (text.length + 1) text

end Radix

/-- A code: what bytes are written as unless there is a reason against it, what a text stands for, as
far as it makes sense, and the characters that belong to it. -/
structure Code where
  encode : Octets → Except String Octets
  decode : Octets → Octets × Bool
  hasLetter : Char → Bool

def Radix.code (radix : Radix) : Code where
  encode bytes := .ok (radix.encode bytes)
  decode := radix.decode
  hasLetter c := (radix.value? c).isSome || (radix.filled && c == '=')

def mirrored (c : Char) : Char :=
  Char.ofNat ((List.range 8).foldl (fun value bit => 2 * value + c.toNat / Nat.pow 2 bit % 2) 0)

def Code.mirrored (code : Code) : Code :=
  { code with
    encode := fun bytes => code.encode (bytes.map Tools.mirrored)
    decode := fun text =>
      let (bytes, good) := code.decode text
      (bytes.map Tools.mirrored, good) }

namespace FiveLetters

def alphabet : Octets :=
  "0123456789abcdefghijklmnopqrstuvwxyzABCDEFGHIJKLMNOPQRSTUVWXYZ.-:+=^!/*?&<>()[]\x7b\x7d@%$#".toList

def encode : Octets → Except String Octets
  | a :: b :: c :: d :: rest =>
      let value := [a, b, c, d].foldl (fun value byte => 256 * value + byte.toNat) 0
      let letters := [4, 3, 2, 1, 0].map fun place =>
        (alphabet[value / Nat.pow 85 place % 85]?).getD '?'
      (encode rest).map (letters ++ ·)
  | [] => .ok []
  | _ => .error "invalid input (length must be multiple of 4 characters)"

def decode : Octets → Octets × Bool
  | a :: b :: c :: d :: e :: rest =>
      match [a, b, c, d, e].mapM fun c => alphabet.findIdx? (· == c) with
      | none => ([], false)
      | some digits =>
          let value := digits.foldl (fun value digit => 85 * value + digit) 0
          if Nat.pow 2 32 ≤ value then ([], false)
          else
            let bytes := [3, 2, 1, 0].map fun place =>
              Char.ofNat (value / Nat.pow 256 place % 256)
            let (more, good) := decode rest
            (bytes ++ more, good)
  | [] => ([], true)
  | _ => ([], false)

def code : Code where
  encode := encode
  decode := decode
  hasLetter := alphabet.contains

end FiveLetters

def wrapAt (width : Nat) (text : Octets) : Octets :=
  if width = 0 then text else go (text.length + 1) text
where
  go : Nat → Octets → Octets
    | 0, _ => []
    | fuel + 1, text =>
        if text.isEmpty then [] else text.take width ++ '\n' :: go fuel (text.drop width)

def radixOptions : List (String × Char) :=
  [("decode", 'd'), ("ignore-garbage", 'i'), ("wrap", 'w')]

def transcode (call : Call) (given : Given) (code : Code) : Chore Nat := do
  let wrong? := (given.values 'w').find? fun text => (number? text).isNone
  match given.operands, wrong?, (given.value? 'w').bind number? with
  | _, some text, _ => refuse call.name ("invalid wrap size: " ++ inQuotes text)
  | _ :: extra :: _, _, _ => misuse call.name ("extra operand " ++ inQuotes extra) 1
  | operands, none, width => do
      let path := operands.headD ['-']
      match ← contentOf path with
      | .error .isDirectory =>
          refuse call.name ("read error: " ++ HostFault.isDirectory.message)
      | .error fault => do
          complainAbout call path fault
          return 1
      | .ok content =>
          if given.has 'd' then
            let text := content.filter fun c => c != '\n'
            let text := if given.has 'i' then text.filter code.hasLetter else text
            let (bytes, good) := code.decode text
            let status ← finish call bytes 0
            if good then return status else refuse call.name "invalid input"
          else
            match code.encode content with
            | .ok text => finish call (wrapAt (width.getD 76) text) 0
            | .error message => refuse call.name message

def radixTool (radix : Radix) : Tool :=
  withOptions { flags := "diD", valued := "w", long := radixOptions } 1 fun call given =>
    transcode call given radix.code

def basenc : Tool :=
  withOptions {
    flags := "diDαβγδεζηθ"
    valued := "w"
    long := [("base64", 'α'), ("base64url", 'β'), ("base32", 'γ'), ("base32hex", 'δ'),
      ("base16", 'ε'), ("base2msbf", 'ζ'), ("base2lsbf", 'η'), ("z85", 'θ')] ++ radixOptions } 1
    fun call given =>
    match ((given.options.map (·.1)).filter fun c => 'α' ≤ c).getLast? with
    | some 'α' => transcode call given Radix.base64.code
    | some 'β' => transcode call given Radix.base64url.code
    | some 'γ' => transcode call given Radix.base32.code
    | some 'δ' => transcode call given Radix.base32hex.code
    | some 'ε' => transcode call given Radix.base16.code
    | some 'ζ' => transcode call given Radix.base2.code
    | some 'η' => transcode call given Radix.base2.code.mirrored
    | some 'θ' => transcode call given FiveLetters.code
    | _ => misuse call.name "missing encoding type" 1

end ArtifactPipeline.Tools
