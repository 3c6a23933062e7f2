import ArtifactPipeline.Host.Tools.Printing
import ArtifactPipeline.Host.Tools.Sizes

set_option autoImplicit false

namespace ArtifactPipeline.Tools

open Text (Octets)

structure Passage where
  unread : Option HostFault := none
  unwritten : List (Nat × HostFault) := []

def writeEach (bytes : Octets) : List Nat → Chore (List (Nat × HostFault))
  | [] => pure []
  | output :: rest => do
      let result ← Chore.write output bytes
      let others ← writeEach bytes rest
      match result with
      | .ok () => return others
      | .error fault => return (output, fault) :: others

def passOn (input : Nat) : List Nat → Nat → List (Nat × HostFault) → Chore Passage
  | _, 0, unwritten => pure { unwritten }
  | outputs, rounds + 1, unwritten => do
      match ← Chore.readSome input with
      | .error fault => return ⟨some fault, unwritten⟩
      | .ok [] => return { unwritten }
      | .ok bytes => do
          let failed ← writeEach bytes outputs
          let left := outputs.filter fun output => !(failed.any fun entry => entry.1 == output)
          if left.isEmpty then return { unwritten := unwritten ++ failed }
          else passOn input left rounds (unwritten ++ failed)

def feedsItself (input output : Nat) (scene : Scene) : Bool :=
  match scene.fileOf? input, scene.fileOf? output with
  | some (_, { channel := .inode source, offset, .. }), some (_, { channel := .inode sink, .. }) =>
      source == sink && offset < scene.disk.sizeOf source
  | _, _ => false

def catOne (call : Call) (path : Octets) : Chore Nat := do
  let opened ← if path = ['-'] then pure (.ok 0) else Chore.openFile .reading path
  match opened with
  | .error fault => do
      complainAbout call path fault
      return 1
  | .ok descriptor => do
      if ← Chore.look (feedsItself descriptor 1) then
        complain call.name (Text.ofOctets path ++ ": input file is output file")
        return 1
      else
        let passage ← passOn descriptor [1] Chore.readLimit []
        if descriptor != 0 then Chore.close descriptor
        match passage.unread, passage.unwritten with
        | some fault, _ => do
            complainAbout call path fault
            return 1
        | none, (_, fault) :: _ => do
            complain call.name ("write error: " ++ fault.message)
            Chore.exit 1
        | none, [] => return 0

structure LineStyle where
  number : Bool := false
  numberNonBlank : Bool := false
  squeeze : Bool := false
  ends : Bool := false
  tabs : Bool := false
  visible : Bool := false

def visibleChar (style : LineStyle) (c : Char) : Octets :=
  let caret (n : Nat) : Octets :=
    if n < 32 then ['^', Char.ofNat (n + 64)] else if n = 127 then ['^', '?'] else [Char.ofNat n]
  if c == '\t' then (if style.tabs then ['^', 'I'] else ['\t'])
  else if !style.visible then [c]
  else if c.toNat < 128 then caret c.toNat
  else 'M' :: '-' :: caret (c.toNat - 128)

def styleLines (style : LineStyle) : Nat → Bool → List Octets → List Octets
  | _, _, [] => []
  | count, afterBlank, line :: rest =>
      if style.squeeze && afterBlank && line.isEmpty then styleLines style count true rest
      else
        let numbered := if style.numberNonBlank then !line.isEmpty else style.number
        let lead := if numbered then padLeft ' ' 6 (decimal (count + 1)) ++ ['\t'] else []
        (lead ++ line.flatMap (visibleChar style) ++ (if style.ends then ['$'] else [])) ::
          styleLines style (if numbered then count + 1 else count) line.isEmpty rest

def cat : Tool :=
  withOptions {
    flags := "AbeEnstTuv"
    long := [("number", 'n'), ("number-nonblank", 'b'), ("squeeze-blank", 's'), ("show-ends", 'E'),
      ("show-tabs", 'T'), ("show-all", 'A'), ("show-nonprinting", 'v')] } 1 fun call given => do
    let all := given.has 'A'
    let style : LineStyle := {
      number := given.has 'n'
      numberNonBlank := given.has 'b'
      squeeze := given.has 's'
      ends := all || given.has 'E' || given.has 'e'
      tabs := all || given.has 'T' || given.has 't'
      visible := all || given.has 'v' || given.has 'e' || given.has 't' }
    if given.options.all fun option => option.1 == 'u' then
      eachOperand (if given.operands.isEmpty then [['-']] else given.operands) (catOne call)
    else
      let (read, status) ← contentsOf call given.operands
      let (lines, complete) := linesOf (read.flatMap (·.2))
      let shown := unlinesLike complete (styleLines style 0 false lines)
      finish call (if !complete && style.ends then shown.dropLast else shown) status

def tee : Tool :=
  withOptions {
    flags := "aip"
    optional := "o"
    long := [("append", 'a'), ("ignore-interrupts", 'i'), ("output-error", 'o')] } 1
    fun call given => do
      let access := if given.has 'a' then Scene.Access.appending else .writing
      let (outputs, status) ← openAll call access given.operands [(1, "standard output".toList)] 0
      let passage ← passOn 0 (outputs.map (·.1)) Chore.readLimit []
      passage.unwritten.foldlM (fun _ (output, fault) => do
        complainAbout call ((outputs.lookup output).getD []) fault
        return 1) status
where
  openAll (call : Call) (access : Scene.Access) :
      List Octets → List (Nat × Octets) → Nat → Chore (List (Nat × Octets) × Nat)
    | [], outputs, status => pure (outputs, status)
    | path :: rest, outputs, status => do
        match ← Chore.openFile access path with
        | .ok descriptor => openAll call access rest (outputs ++ [(descriptor, path)]) status
        | .error fault => do
            complainAbout call path fault
            openAll call access rest outputs 1

/-- The place of the first difference, with the number of lines before it; the end of a text that
the other one goes on behind counts apart. -/
inductive Difference where
  | byte (place line : Nat) (first second : Char)
  | ending (first : Bool) (place line : Nat) (atLineStart : Bool)

def firstDifference : Nat → Nat → Bool → Octets → Octets → Option Difference
  | _, _, _, [], [] => none
  | place, line, fresh, [], _ :: _ => some (.ending true place line fresh)
  | place, line, fresh, _ :: _, [] => some (.ending false place line fresh)
  | place, line, _, a :: as, b :: bs =>
      if a == b then
        firstDifference (place + 1) (if a == '\n' then line + 1 else line) (a == '\n') as bs
      else some (.byte (place + 1) (line + 1) a b)

def allDifferences : Nat → Octets → Octets → List (Nat × Char × Char)
  | place, a :: as, b :: bs =>
      let rest := allDifferences (place + 1) as bs
      if a == b then rest else (place, a, b) :: rest
  | _, _, _ => []

def octalByte (c : Char) : Octets :=
  padLeft ' ' 3 (Nat.toDigits 8 c.toNat)

def shownByte (c : Char) : Octets :=
  visibleChar { visible := true, tabs := true } c

def knownSizes (scene : Scene) (paths : List Octets) : List Nat :=
  paths.filterMap fun path =>
    if path = ['-'] then
      match scene.fileOf? 0 with
      | some (_, { channel := .inode id, .. }) => some (scene.disk.sizeOf id)
      | _ => none
    else
      match scene.stat path with
      | .ok ⟨_, id, .file _ _ _⟩ => some (scene.disk.sizeOf id)
      | _ => none

def skips? (text : Octets) : Option (Nat × Nat) :=
  match Text.splitOn ':' text with
  | [both] => (byteCount? both).map fun n => (n, n)
  | [first, second] =>
      match byteCount? first, byteCount? second with
      | some a, some b => some (a, b)
      | _, _ => none
  | _ => none

structure Comparison where
  first : Octets
  second : Octets
  skips : Nat × Nat
  limit : Option Nat

def comparison (given : Given) : Except String Comparison :=
  let limit? := (given.value? 'n').map byteCount?
  let skipped := (given.value? 'i').map skips?
  match given.operands with
  | [] => .error "missing operand after 'cmp'"
  | _ :: _ :: _ :: _ :: extra :: _ => .error ("extra operand " ++ inQuotes extra)
  | first :: rest =>
      let second := rest.headD ['-']
      match limit?, skipped, (rest.drop 1).mapM byteCount? with
      | some none, _, _ => .error ("invalid --bytes value " ++ inQuotes ((given.value? 'n').getD []))
      | _, some none, _ =>
          .error ("invalid --ignore-initial value " ++ quote ((given.value? 'i').getD []))
      | _, _, none =>
          .error ("invalid --ignore-initial value " ++ quote ((rest.drop 1).getLastD []))
      | limit, skipped, some operands =>
          let (a, b) := (skipped.getD (some (0, 0))).getD (0, 0)
          if given.has 'l' && given.has 's' then .error "options -l and -s are incompatible"
          else
            .ok ⟨first, second, (operands[0]?.getD a, operands[1]?.getD b), limit.bind id⟩

def tellEnding (call : Call) (given : Given) (name : Octets) (place line : Nat)
    (atLineStart : Bool) : Chore Unit :=
  complain call.name ("EOF on " ++ Text.ofOctets name ++
    (if place = 0 then " which is empty"
      else " after byte " ++ Nat.repr place ++
        (if given.has 'l' then ""
          else if atLineStart then ", line " ++ Nat.repr line
          else ", in line " ++ Nat.repr (line + 1))))

def differenceLines (given : Given) (sizes : List Nat) (a b : Octets) : Octets :=
  let least := sizes.foldl min (9223372036854775807)
  let width := (decimal least).length
  unlines ((allDifferences 1 a b).map fun (place, x, y) =>
    padLeft ' ' width (decimal place) ++ ' ' ::
      (if given.has 'b' then
        octalByte x ++ ' ' :: padRight 4 (shownByte x) ++ ' ' :: octalByte y ++ ' ' :: shownByte y
      else octalByte x ++ ' ' :: octalByte y))

def cmp : Tool :=
  withOptions {
    flags := "bcls"
    valued := "in"
    long := [("silent", 's'), ("quiet", 's'), ("verbose", 'l'), ("bytes", 'n'), ("print-bytes", 'b'),
      ("ignore-initial", 'i')] } 2
    fun call given => do
      match comparison given with
      | .error message => misuse call.name message 2
      | .ok { first, second, skips, limit } => do
          let sizes ← Chore.look fun scene => knownSizes scene [first, second]
          match ← contentOf first, ← contentOf second with
          | .ok a, .ok b =>
              let (a, b) := (a.drop skips.1, b.drop skips.2)
              let (a, b) := match limit with
                | some count => (a.take count, b.take count)
                | none => (a, b)
              let sizes := sizes ++ limit.toList
              match firstDifference 0 0 true a b with
              | none => return 0
              | some difference => do
                  if given.has 's' then return 1
                  else if given.has 'l' then
                    let _ ← finish call (differenceLines given sizes a b) 1
                    match firstDifference 0 0 true (a.map fun _ => 'x') (b.map fun _ => 'x') with
                    | some (.ending ofFirst place line fresh) =>
                        tellEnding call given (if ofFirst then first else second) place line fresh
                    | _ => pure ()
                    return 1
                  else
                    match difference with
                    | .byte place line x y =>
                        let bytes := if given.has 'b' then
                            " is ".toList ++ octalByte x ++ ' ' :: shownByte x ++ ' ' ::
                              octalByte y ++ ' ' :: shownByte y
                          else []
                        finish call (first ++ ' ' :: second ++
                          (if given.has 'b' then " differ: byte " else " differ: char ").toList ++
                          decimal place ++ ", line ".toList ++ decimal line ++ bytes ++ ['\n']) 1
                    | .ending ofFirst place line fresh => do
                        tellEnding call given (if ofFirst then first else second) place line fresh
                        return 1
          | .error fault, _ => do
              if !given.has 's' then complainAbout call first fault
              return 2
          | _, .error fault => do
              if !given.has 's' then complainAbout call second fault
              return 2

end ArtifactPipeline.Tools
