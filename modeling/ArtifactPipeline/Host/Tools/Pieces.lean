import ArtifactPipeline.Host.Tools.Command
import ArtifactPipeline.Host.Tools.Sizes

set_option autoImplicit false

namespace ArtifactPipeline.Tools

open Text (Octets)

def inDigits (alphabet : Octets) : Nat → Nat → Octets
  | 0, _ => []
  | width + 1, n =>
      inDigits alphabet width (n / alphabet.length) ++
        [alphabet.getD (n % alphabet.length) 'a']

def growingEnding (alphabet : Octets) : Nat → Nat → Nat → Octets
  | 0, width, n => inDigits alphabet width n
  | fuel + 1, width, n =>
      let room := (alphabet.length - 1) * Nat.pow alphabet.length (width - 1)
      if n < room then inDigits alphabet width n
      else alphabet.getLastD 'z' :: growingEnding alphabet fuel (width + 1) (n - room)

structure PieceNames where
  lead : Octets := ['x']
  alphabet : Octets := ("abcdefghijklmnopqrstuvwxyz").toList
  width : Nat := 2
  grows : Bool := true
  first : Nat := 0
  tail : Octets := []

def PieceNames.name? (names : PieceNames) (index : Nat) : Option Octets :=
  let n := names.first + index
  if names.grows then
    some (names.lead ++ growingEnding names.alphabet (n + 1) names.width n ++ names.tail)
  else if n < Nat.pow names.alphabet.length names.width then
    some (names.lead ++ inDigits names.alphabet names.width n ++ names.tail)
  else none

inductive Cutting where
  | lines (count : Nat)
  | bytes (count : Nat)
  | lineBytes (count : Nat)
  | pieces (count : Nat) (only : Option Nat)
  | linePieces (count : Nat) (only : Option Nat)
  | turns (count : Nat) (only : Option Nat)
  deriving DecidableEq, Repr

def inGroups {α : Type} (size : Nat) : Nat → List α → List (List α)
  | 0, _ => []
  | fuel + 1, items =>
      if items.isEmpty then [] else items.take size :: inGroups size fuel (items.drop size)

def fitting (size : Nat) : Nat → Octets → List Octets → List Octets
  | 0, held, _ => [held]
  | _ + 1, held, [] => if held.isEmpty then [] else [held]
  | fuel + 1, held, line :: rest =>
      if held.length + line.length ≤ size then fitting size fuel (held ++ line) rest
      else if held.isEmpty then line.take size :: fitting size fuel [] (line.drop size :: rest)
      else held :: fitting size fuel [] (line :: rest)

def evenLengths (count total : Nat) : List Nat :=
  (List.range count).map fun index => total / count + (if index < total % count then 1 else 0)

def cutAt : List Nat → Octets → List Octets
  | [], _ => []
  | length :: rest, text => text.take length :: cutAt rest (text.drop length)

def endsOf (lengths : List Nat) : List Nat :=
  (lengths.foldl (fun (ends, total) length => ((total + length) :: ends, total + length))
    (([] : List Nat), 0)).1.reverse

def linesAt (ends : List Nat) (lines : List Octets) : List Octets :=
  let (placed, _) := lines.foldl (fun (placed, place) line =>
    let index := (ends.findIdx? fun last => place < last).getD (ends.length - 1)
    ((index, line) :: placed, place + line.length)) (([] : List (Nat × Octets)), 0)
  let placed := placed.reverse
  (List.range ends.length).map fun index =>
    (placed.filterMap fun (own, line) => if own = index then some line else none).flatten

def Cutting.apply (cutting : Cutting) (ending : Char) (text : Octets) : List Octets :=
  let lines := wholeLines ending text
  match cutting with
  | .lines count => (inGroups count (lines.length + 1) lines).map List.flatten
  | .bytes count => inGroups count (text.length + 1) text
  | .lineBytes count => fitting count (text.length + lines.length + 2) [] lines
  | .pieces count _ => cutAt (evenLengths count text.length) text
  | .linePieces count _ => linesAt (endsOf (evenLengths count text.length)) lines
  | .turns count _ =>
      (List.range count).map fun turn =>
        (lines.zipIdx.filterMap fun (line, index) =>
          if index % count = turn then some line else none).flatten

def Cutting.only? : Cutting → Option Nat
  | .pieces _ only | .linePieces _ only | .turns _ only => only
  | _ => none

def pieceCount (text : Octets) : Except String Cutting :=
  let (make, body) : (Nat → Option Nat → Cutting) × Octets :=
    match text with
    | 'l' :: '/' :: rest => (.linePieces, rest)
    | 'r' :: '/' :: rest => (.turns, rest)
    | rest => (.pieces, rest)
  let positive (text : Octets) : Option Nat := (number? text).filter (0 < ·)
  match Text.splitOn '/' body with
  | [count] =>
      match positive count with
      | some count => .ok (make count none)
      | none => .error ("invalid number of chunks: " ++ inQuotes count)
  | [one, count] =>
      match positive one, positive count with
      | _, none => .error ("invalid number of chunks: " ++ inQuotes count)
      | none, _ => .error ("invalid chunk number: " ++ inQuotes one)
      | some one, some count =>
          if count < one then .error ("invalid chunk number: " ++ inQuotes (decimal one))
          else .ok (make count (some one))
  | _ => .error ("invalid number of chunks: " ++ inQuotes body)

def cuttingOf (letter : Char) (value : Octets) : Except String Cutting :=
  let count (what : String) (read : Octets → Option Nat) : Except String Nat :=
    match (read value).filter (0 < ·) with
    | some n => .ok n
    | none => .error ("invalid number of " ++ what ++ ": " ++ inQuotes value)
  let digitsFirst (text : Octets) : Option Nat :=
    if (text.head?.map Char.isDigit).getD false then byteCount? text else none
  match letter with
  | 'b' => (count "bytes" digitsFirst).map .bytes
  | 'C' => (count "lines" digitsFirst).map .lineBytes
  | 'n' => pieceCount value
  | _ => (count "lines" number?).map .lines

def pieceNames (given : Given) : Except String PieceNames := do
  let style := (given.options.filter fun option => "dxδξ".toList.contains option.1).getLast?
  let lead := (given.operands[1]?).getD ['x']
  let alphabet : Octets := match style.map (·.1) with
    | some 'd' | some 'δ' => "0123456789".toList
    | some 'x' | some 'ξ' => "0123456789abcdef".toList
    | _ => "abcdefghijklmnopqrstuvwxyz".toList
  let start := (style.map (·.2)).getD []
  let first := start.foldl (fun value c => alphabet.length * value + (Text.hexValue? c).getD 0) 0
  let width? ← match given.value? 'a' with
    | none => pure none
    | some text =>
        match number? text with
        | some n => pure (if n = 0 then none else some n)
        | none => throw ("invalid suffix length: " ++ inQuotes text)
  return {
    lead, alphabet, first
    width := width?.getD (max 2 start.length)
    grows := width?.isNone && start.isEmpty
    tail := (given.value? 'α').getD [] }

def withOldLines (args : List Octets) : List Octets :=
  args.map fun arg =>
    match arg with
    | '-' :: c :: rest => if c.isDigit && rest.all Char.isDigit then '-' :: 'l' :: c :: rest else arg
    | arg => arg

def filterPiece (exec : Exec) (call : Call) (command name piece : Octets) : Chore Nat := do
  let vars := Assoc.set "FILE".toList name call.vars
  let child : Chore Nat := do
    Chore.change fun scene =>
      let (source, _, scene) := scene.makePipe piece
      scene.attach 0 source
    becomeShell exec vars shellName command
  let process ← Chore.fork child.toRoutine
  return (← Chore.waitFor process).status

def split (exec : Exec) : Tool := fun call =>
  withOptions {
    flags := "deuxν"
    valued := "abClntαφ"
    optional := "δξ"
    long := [("suffix-length", 'a'), ("additional-suffix", 'α'), ("bytes", 'b'),
      ("line-bytes", 'C'), ("numeric-suffixes", 'δ'), ("hex-suffixes", 'ξ'),
      ("elide-empty-files", 'e'), ("filter", 'φ'), ("lines", 'l'), ("number", 'n'),
      ("separator", 't'), ("unbuffered", 'u'), ("verbose", 'ν')] } 1
    (fun call given => do
      let ways := given.options.filter fun option => "bCln".toList.contains option.1
      let cutting := match ways with
        | (letter, value) :: _ => cuttingOf letter value
        | [] => .ok (.lines 1000)
      match given.operands, ways, cutting, pieceNames given with
      | _, _, .error message, _ | _, _, _, .error message => refuse call.name message
      | _, _ :: _ :: _, _, _ => misuse call.name "cannot split in more than one way" 1
      | _ :: _ :: extra :: _, _, _, _ => misuse call.name ("extra operand " ++ inQuotes extra) 1
      | operands, _, .ok cutting, .ok names => do
          let path := operands.headD ['-']
          match ← contentOf path with
          | .error .isDirectory =>
              refuse call.name (quoteIfNeeded path ++
                (if given.has 'n' then ": cannot determine file size: " else ": ") ++
                HostFault.isDirectory.message)
          | .error fault =>
              refuse call.name ("cannot open " ++ quote path ++ " for reading: " ++ fault.message)
          | .ok text =>
              let ending := match given.value? 't' with
                | some ['\\', '0'] => Char.ofNat 0
                | some (c :: _) => c
                | _ => '\n'
              let pieces := cutting.apply ending text
              match cutting.only? with
              | some only => finish call ((pieces[only - 1]?).getD []) 0
              | none =>
                  let pieces := if given.has 'e' then pieces.filter fun piece => !piece.isEmpty
                    else pieces
                  put call given names 0 pieces)
    { call with args := withOldLines call.args }
where
  put (call : Call) (given : Given) (names : PieceNames) (index : Nat) :
      List Octets → Chore Nat
    | [] => pure 0
    | piece :: rest => do
        match names.name? index with
        | none => refuse call.name "output file suffixes exhausted"
        | some name => do
            if given.has 'ν' then
              let _ ← Chore.write 1 ((if (given.value? 'φ').isSome then "executing with FILE="
                else "creating file ").toList ++ Text.octets (quote name) ++ ['\n'])
            match given.value? 'φ' with
            | some command => do
                let status ← filterPiece exec call command name piece
                if status = 0 then put call given names (index + 1) rest
                else
                  refuse call.name ("with FILE=" ++ Text.ofOctets name ++ ", exit " ++
                    Nat.repr status ++ " from command: " ++ Text.ofOctets command)
            | none =>
                match ← Chore.writeFile .writing name piece with
                | .error fault => refuse call.name (quoteIfNeeded name ++ ": " ++ fault.message)
                | .ok () => put call given names (index + 1) rest

end ArtifactPipeline.Tools
