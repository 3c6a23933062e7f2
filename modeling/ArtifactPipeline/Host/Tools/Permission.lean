import ArtifactPipeline.Host.Tools.Call

set_option autoImplicit false

namespace ArtifactPipeline.Tools.Permission

open Text (Octets)

def classBits (c : Char) : Nat :=
  match c with
  | 'u' => 0o4700
  | 'g' => 0o2070
  | 'o' => 0o1007
  | _ => 0o7777

def octal? (text : Octets) : Option Nat :=
  if text.isEmpty || !text.all (fun c => '0' ≤ c && c ≤ '7') then none
  else
    let value := text.foldl (fun value c => 8 * value + (c.toNat - '0'.toNat)) 0
    if value ≤ 0o7777 then some value else none

def letterBits (isDir : Bool) (mode : Nat) (letter : Char) : Option Nat :=
  match letter with
  | 'r' => some 0o444
  | 'w' => some 0o222
  | 'x' => some 0o111
  | 'X' => some (if isDir || mode &&& 0o111 != 0 then 0o111 else 0)
  | 's' => some 0o6000
  | 't' => some 0o1000
  | 'u' => some ((mode / 64 % 8) * 0o111)
  | 'g' => some ((mode / 8 % 8) * 0o111)
  | 'o' => some ((mode % 8) * 0o111)
  | _ => none

def operate (sign : Char) (scope bits mode : Nat) : Nat :=
  let bits := bits &&& scope
  match sign with
  | '+' => mode ||| bits
  | '-' => mode - (mode &&& bits)
  | _ => (mode - (mode &&& scope)) ||| bits

def isSign (c : Char) : Bool :=
  c == '+' || c == '-' || c == '='

def operations (isDir : Bool) (mask scope : Nat) (everyone : Bool) :
    Nat → Octets → Nat → Option Nat
  | 0, _, _ => none
  | _ + 1, [], mode => some mode
  | fuel + 1, sign :: rest, mode =>
      if !isSign sign then none
      else
        let letters := rest.takeWhile fun c => !isSign c
        match letters.mapM (letterBits isDir mode) with
        | none => none
        | some bits =>
            let wanted := bits.foldl (· ||| ·) 0
            let wanted := if everyone then wanted - (wanted &&& mask) else wanted
            operations isDir mask scope everyone fuel (rest.drop letters.length)
              (operate sign scope wanted mode)

def clause (isDir : Bool) (mask : Nat) (mode : Nat) (text : Octets) : Option Nat :=
  let classes := text.takeWhile fun c => c == 'u' || c == 'g' || c == 'o' || c == 'a'
  let scope := if classes.isEmpty then 0o7777 else (classes.map classBits).foldl (· ||| ·) 0
  let operators := text.drop classes.length
  if operators.isEmpty then none
  else operations isDir mask scope classes.isEmpty (operators.length + 1) operators mode

def change? (text : Octets) (isDir : Bool) (mask mode : Nat) : Option Nat :=
  match octal? text with
  | some value => some value
  | none => (Text.splitOn ',' text).foldlM (clause isDir mask) mode

def letters (mode : Nat) : Octets :=
  let triple (bits : Nat) (special : Bool) (mark : Char) : Octets :=
    let run := bits % 2 == 1
    [if bits / 4 % 2 == 1 then 'r' else '-', if bits / 2 % 2 == 1 then 'w' else '-',
      if special then (if run then mark else mark.toUpper) else if run then 'x' else '-']
  triple (mode / 64 % 8) (mode / 2048 % 2 == 1) 's' ++
    triple (mode / 8 % 8) (mode / 1024 % 2 == 1) 's' ++ triple (mode % 8) (mode / 512 % 2 == 1) 't'

end ArtifactPipeline.Tools.Permission
