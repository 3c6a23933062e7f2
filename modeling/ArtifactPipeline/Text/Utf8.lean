set_option autoImplicit false

namespace ArtifactPipeline.Text

def utf8 (text : String) : List UInt8 :=
  text.toUTF8.toList

structure Utf8Fault where
  index : Nat
  length : Option Nat
  deriving DecidableEq, Repr

def continuationsAfter (lead : UInt8) : Option (Nat × UInt8 × UInt8) :=
  if lead ≤ 0x7F then some (0, 0x80, 0xBF)
  else if 0xC2 ≤ lead && lead ≤ 0xDF then some (1, 0x80, 0xBF)
  else if lead == 0xE0 then some (2, 0xA0, 0xBF)
  else if lead == 0xED then some (2, 0x80, 0x9F)
  else if 0xE1 ≤ lead && lead ≤ 0xEF then some (2, 0x80, 0xBF)
  else if lead == 0xF0 then some (3, 0x90, 0xBF)
  else if 0xF1 ≤ lead && lead ≤ 0xF3 then some (3, 0x80, 0xBF)
  else if lead == 0xF4 then some (3, 0x80, 0x8F)
  else none

inductive Reading where
  | complete
  | broken (length : Option Nat)

def readContinuations (seen owed : Nat) (low high : UInt8) : List UInt8 → Reading
  | [] => if owed = 0 then .complete else .broken none
  | b :: rest =>
      match owed with
      | 0 => .complete
      | owed + 1 =>
          if low ≤ b && b ≤ high then readContinuations (seen + 1) owed 0x80 0xBF rest
          else .broken (some seen)

-- `skip` counts continuation bytes that were checked with their leading byte.
def utf8FaultFrom (index skip : Nat) : List UInt8 → Option Utf8Fault
  | [] => none
  | b :: rest =>
      match skip with
      | skip + 1 => utf8FaultFrom (index + 1) skip rest
      | 0 =>
          match continuationsAfter b with
          | none => some ⟨index, some 1⟩
          | some (owed, low, high) =>
              match readContinuations 1 owed low high rest with
              | .complete => utf8FaultFrom (index + 1) owed rest
              | .broken length => some ⟨index, length⟩

def utf8Fault? (bytes : List UInt8) : Option Utf8Fault :=
  utf8FaultFrom 0 0 bytes

def Utf8Fault.message (fault : Utf8Fault) : String :=
  match fault.length with
  | some length =>
      "invalid utf-8 sequence of " ++ Nat.repr length ++ " bytes from index " ++
        Nat.repr fault.index
  | none => "incomplete utf-8 byte sequence from index " ++ Nat.repr fault.index

def decodeUtf8 (bytes : List UInt8) : Except Utf8Fault String :=
  match utf8Fault? bytes with
  | some fault => .error fault
  | none =>
      match String.fromUTF8? ⟨bytes.toArray⟩ with
      | some text => .ok text
      | none => .error ⟨0, none⟩

def decodeLossyFrom : Nat → List UInt8 → String
  | 0, _ => ""
  | fuel + 1, bytes =>
      match utf8Fault? bytes with
      | none => (decodeUtf8 bytes).toOption.getD ""
      | some fault =>
          let sound := (decodeUtf8 (bytes.take fault.index)).toOption.getD ""
          let wrong := fault.length.getD (bytes.length - fault.index)
          sound ++ "\uFFFD" ++ decodeLossyFrom fuel (bytes.drop (fault.index + wrong))

def decodeLossy (bytes : List UInt8) : String :=
  decodeLossyFrom (bytes.length + 1) bytes

abbrev Octets := List Char

instance : Hashable Octets := @instHashableList Char instHashableChar

def octets (text : String) : Octets :=
  (utf8 text).map fun byte => Char.ofNat byte.toNat

def octetsOfBytes (bytes : List UInt8) : Octets :=
  bytes.map fun byte => Char.ofNat byte.toNat

def bytesOf (text : Octets) : List UInt8 :=
  text.map fun c => UInt8.ofNat c.toNat

def ofOctets? (text : Octets) : Option String :=
  match decodeUtf8 (bytesOf text) with
  | .ok text => some text
  | .error _ => none

def ofOctets (text : Octets) : String :=
  decodeLossy (bytesOf text)

end ArtifactPipeline.Text
