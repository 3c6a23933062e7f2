import ArtifactPipeline.Host.Tools.Sizes

set_option autoImplicit false

namespace ArtifactPipeline.Tools

open Text (Octets)

inductive DumpForm where
  | named
  | char
  | signed
  | unsigned
  | octal
  | hex
  deriving DecidableEq, Repr

structure DumpType where
  form : DumpForm
  size : Nat
  trailer : Bool := false

namespace DumpType

def width (type : DumpType) : Nat :=
  match type.form, type.size with
  | .named, _ | .char, _ => 3
  | .signed, 1 => 4
  | .signed, 2 => 6
  | .signed, 4 => 11
  | .signed, _ => 20
  | .unsigned, 1 => 3
  | .unsigned, 2 => 5
  | .unsigned, 4 => 10
  | .unsigned, _ => 20
  | .octal, 1 => 3
  | .octal, 2 => 6
  | .octal, 4 => 11
  | .octal, _ => 22
  | .hex, size => 2 * size

def controlNames : List String :=
  ["nul", "soh", "stx", "etx", "eot", "enq", "ack", "bel", "bs", "ht", "nl", "vt", "ff", "cr", "so",
    "si", "dle", "dc1", "dc2", "dc3", "dc4", "nak", "syn", "etb", "can", "em", "sub", "esc", "fs",
    "gs", "rs", "us", "sp"]

def nameOf (c : Char) : Octets :=
  let code := c.toNat % 128
  match controlNames[code]? with
  | some name => name.toList
  | none => if code = 127 then "del".toList else [Char.ofNat code]

def charText (c : Char) : Octets :=
  if c.toNat = 0 then ['\\', '0']
  else if isShown c then [c]
  else
    match codeOf c with
    | ['\\', letter] => ['\\', letter]
    | code => code.drop 1

def text (type : DumpType) (bigEndian : Bool) (bytes : Octets) : Octets :=
  let bytes := if bigEndian then bytes else bytes.reverse
  let value := bytes.foldl (fun value c => 256 * value + c.toNat) 0
  let digits (radix : Nat) : Octets := padLeft '0' type.width (Nat.toDigits radix value)
  match type.form with
  | .named => nameOf (bytes.headD ' ')
  | .char => charText (bytes.headD ' ')
  | .octal => digits 8
  | .hex => digits 16
  | .unsigned => decimal value
  | .signed =>
      let whole := Nat.pow 256 type.size
      if 2 * value < whole then decimal value else '-' :: decimal (whole - value)

end DumpType

def dumpSize? (letter : Char) : Option Nat :=
  match letter with
  | 'C' => some 1
  | 'S' => some 2
  | 'I' => some 4
  | 'L' => some 8
  | _ => none

def dumpForm? (letter : Char) : Option DumpForm :=
  match letter with
  | 'a' => some .named
  | 'c' => some .char
  | 'd' => some .signed
  | 'u' => some .unsigned
  | 'o' => some .octal
  | 'x' => some .hex
  | _ => none

def dumpType (whole text : Octets) : Except String (DumpType × Octets) :=
  let shown := "'" ++ String.ofList whole ++ "'"
  match text with
  | [] => .error ("invalid type string " ++ shown)
  | letter :: rest =>
      match dumpForm? letter with
      | none =>
          .error ("invalid character '" ++ letter.toString ++ "' in type string " ++ shown)
      | some form =>
          let digits := rest.takeWhile Char.isDigit
          let (size, rest) : Nat × Octets :=
            if form = .named || form = .char then (1, rest)
            else
              match number? digits, rest.head?.bind dumpSize? with
              | some n, _ => (n, rest.drop digits.length)
              | none, some n => (n, rest.drop 1)
              | none, none => (4, rest)
          if !([1, 2, 4, 8].contains size) then
            .error ("invalid type string " ++ shown ++ ";\nthis system doesn't provide a " ++
              Nat.repr size ++ "-byte integral type")
          else if rest.head? = some 'z' then .ok (⟨form, size, true⟩, rest.drop 1)
          else .ok (⟨form, size, false⟩, rest)

def dumpTypes (whole : Octets) : Nat → Octets → Except String (List DumpType)
  | 0, _ => .ok []
  | fuel + 1, text =>
      if text.isEmpty && !whole.isEmpty then .ok []
      else do
        let (type, rest) ← dumpType whole text
        return type :: (← dumpTypes whole fuel rest)

def oldType? (letter : Char) : Option String :=
  match letter with
  | 'a' => some "a"
  | 'b' => some "o1"
  | 'B' | 'o' => some "o2"
  | 'c' => some "c"
  | 'd' => some "u2"
  | 'D' => some "u4"
  | 'h' | 'x' => some "x2"
  | 'H' | 'X' => some "x4"
  | 'i' => some "dI"
  | 'I' | 'l' | 'L' => some "dL"
  | 'O' => some "o4"
  | 's' => some "d2"
  | _ => none

inductive DumpPlace where
  | none
  | radix (base width : Nat)

def DumpPlace.text : DumpPlace → Nat → Octets
  | .none, _ => []
  | .radix base width, place => padLeft '0' width (Nat.toDigits base place)

def DumpPlace.width : DumpPlace → Nat
  | .none => 0
  | .radix _ width => width

structure DumpStyle where
  types : List DumpType
  place : DumpPlace := .radix 8 7
  block : Nat := 16
  bigEndian : Bool := false
  all : Bool := false

def DumpStyle.lineWidth (style : DumpStyle) : Nat :=
  (style.types.map fun type => (type.width + 1) * (style.block / type.size)).foldl max 0

def spreadFields (fields padding width : Nat) : List Octets → Nat → Nat → Octets
  | [], _, _ => []
  | text :: rest, index, left =>
      let next := padding * (index - 1) / fields
      padLeft ' ' (left - next + width) text ++ spreadFields fields padding width rest (index - 1) next

def itemsOf (size : Nat) (bytes : Octets) : List Octets :=
  let count := (bytes.length + size - 1) / size
  (List.range count).map fun index =>
    let part := (bytes.drop (index * size)).take size
    part ++ List.replicate (size - part.length) (Char.ofNat 0)

def DumpStyle.blockLines (style : DumpStyle) (place : Nat) (bytes : Octets) : Octets :=
  (style.types.zipIdx).flatMap fun (type, index) =>
    let fields := style.block / type.size
    let padding := style.lineWidth - type.width * fields
    let texts := (itemsOf type.size bytes).map (type.text style.bigEndian)
    let lead := if index = 0 then style.place.text place
      else List.replicate style.place.width ' '
    let blank := (style.block - bytes.length) / type.size
    let trailer := if type.trailer then
        List.replicate (blank * type.width + padding * blank / fields) ' ' ++ "  >".toList ++
          bytes.map (fun c => if isShown c then c else '.') ++ ['<']
      else []
    lead ++ spreadFields fields padding type.width texts fields padding ++ trailer ++ ['\n']

def DumpStyle.blocks (style : DumpStyle) :
    Nat → Nat → Option Octets → Bool → Octets → List Octets
  | 0, _, _, _, _ => []
  | fuel + 1, place, before, starred, bytes =>
      if bytes.isEmpty then []
      else
        let block := bytes.take style.block
        let rest := bytes.drop style.block
        if !style.all && block.length = style.block && before = some block then
          (if starred then [] else ['*', '\n']) ::
            style.blocks fuel (place + block.length) (some block) true rest
        else
          style.blockLines place block ::
            style.blocks fuel (place + block.length) (some block) false rest

def shownStrings (least : Nat) (place : DumpPlace) : Nat → Nat → Octets → List Octets
  | 0, _, _ => []
  | fuel + 1, start, bytes =>
      if bytes.isEmpty then []
      else
        let row := bytes.takeWhile fun c => isShown c || (8 ≤ c.toNat && c.toNat ≤ 13)
        let rest := bytes.drop row.length
        if row.isEmpty then shownStrings least place fuel (start + 1) (bytes.drop 1)
        else
          let more := shownStrings least place fuel (start + row.length + 1) (rest.drop 1)
          if rest.head?.map Char.toNat = some 0 && least ≤ row.length then
            let shown := row.flatMap fun c => if isShown c then [c] else codeOf c
            let lead := match place with
              | .none => []
              | place => place.text start ++ [' ']
            (lead ++ shown ++ ['\n']) :: more
          else more

def dumpCount? (text : Octets) : Option Nat :=
  match text with
  | '0' :: x :: rest =>
      if x == 'x' || x == 'X' then
        if rest.isEmpty || rest.any fun c => (Text.hexValue? c).isNone then none
        else some (rest.foldl (fun value c => 16 * value + (Text.hexValue? c).getD 0) 0)
      else
        let digits := (x :: rest).takeWhile fun c => '0' ≤ c && c ≤ '7'
        let value := digits.foldl (fun value c => 8 * value + (c.toNat - '0'.toNat)) 0
        (scale? ((x :: rest).drop digits.length)).map (value * ·)
  | text => if (text.head?.map Char.isDigit).getD false then byteCount? text else none

def typesOf (given : Given) : Except String (List DumpType) := do
  let texts := given.options.filterMap fun (letter, value) =>
    if letter == 't' then some value else (oldType? letter).map String.toList
  let types ← texts.mapM fun text => dumpTypes text (text.length + 1) text
  return if types.flatten.isEmpty then [⟨.octal, 2, false⟩] else types.flatten

def od : Tool :=
  withOptions {
    flags := "abBcdDhHiIlLoOsvxX"
    valued := "AjNtε"
    optional := "Sw"
    long := [("skip-bytes", 'j'), ("address-radix", 'A'), ("read-bytes", 'N'), ("format", 't'),
      ("output-duplicates", 'v'), ("strings", 'S'), ("width", 'w'), ("endian", 'ε')] } 1
    fun call given => do
      let place? : Option DumpPlace :=
        match given.value? 'A' with
        | none => some (.radix 8 7)
        | some ('o' :: _) => some (.radix 8 7)
        | some ('d' :: _) => some (.radix 10 7)
        | some ('x' :: _) => some (.radix 16 6)
        | some ('n' :: _) => some .none
        | some _ => none
      let count (letter : Char) : Option (Option Nat) := (given.value? letter).map dumpCount?
      match place?, typesOf given with
      | none, _ =>
          refuse call.name ("invalid output address radix '" ++
            ((given.value? 'A').getD []).head?.elim "" Char.toString ++
            "'; it must be one character from [doxn]")
      | _, .error message => refuse call.name message
      | some place, .ok types =>
          match count 'j', count 'N' with
          | some none, _ =>
              refuse call.name ("invalid -j argument " ++ inQuotes ((given.value? 'j').getD []))
          | _, some none =>
              refuse call.name ("invalid -N argument " ++ inQuotes ((given.value? 'N').getD []))
          | skip, limit => do
              let skip := (skip.bind id).getD 0
              let typed := given.options.any fun (letter, _) =>
                letter == 't' || (oldType? letter).isSome
              if given.has 'S' && typed then
                return ← refuse call.name "no type may be specified when dumping strings"
              let (read, status) ← contentsOf call given.operands
              let content := read.flatMap (·.2)
              let opened ← Chore.look fun scene =>
                given.operands.any (HostDisk.isDirAt scene.disk scene.cwd)
              if read.isEmpty && !opened then return status
              else if content.length < skip then
                refuse call.name "cannot skip past end of combined input"
              else
                let bytes := content.drop skip
                let bytes := match limit with
                  | some (some limit) => bytes.take limit
                  | _ => bytes
                let unit := (types.map DumpType.size).foldl Nat.lcm 1
                let wanted : Option Nat := match given.value? 'w' with
                  | none => none
                  | some [] => some 32
                  | some text => some ((dumpCount? text).getD 0)
                let wrong := match wanted with
                  | some width => width = 0 || width % unit != 0
                  | none => false
                if wrong then
                  complain call.name ("warning: invalid width " ++
                    Nat.repr (wanted.getD 0) ++ "; using " ++ Nat.repr unit ++ " instead")
                let block := match wanted with
                  | some width => if wrong then unit else width
                  | none => unit * max 1 (16 / unit)
                if given.has 'S' then
                  let least := match given.value? 'S' with
                    | some [] | none => 3
                    | some text => (dumpCount? text).getD 3
                  finish call (shownStrings least place (bytes.length + 1) skip bytes).flatten status
                else
                  let style : DumpStyle := {
                    types, place, block, all := given.has 'v'
                    bigEndian := given.value? 'ε' = some "big".toList }
                  let shown := (style.blocks (bytes.length + 1) skip none false bytes).flatten
                  let final := match place with
                    | .none => []
                    | place => place.text (skip + bytes.length) ++ ['\n']
                  finish call (shown ++ final) status

end ArtifactPipeline.Tools
