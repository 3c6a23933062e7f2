import ArtifactPipeline.Host.LineFields
import ArtifactPipeline.Host.RichShell.Builtins.Basic
import ArtifactPipeline.Host.RichShell.Builtins.Flow
import ArtifactPipeline.Host.RichShell.Builtins.Variables
import ArtifactPipeline.Host.Tools.Date
import ArtifactPipeline.Host.Tools.Format

set_option autoImplicit false

namespace ArtifactPipeline.RichShell.Builtins

open Text (Octets)
open Shell (isName fieldText)

def echoEscapes : Tools.EscapeRules :=
  { zeroFirst := true, zeroOnly := true, hex := true, unicode := true, stop := true, capital := true }

def echo : Builtin := onWords fun _ _ args => do
  let options := (args.takeWhile Tools.isEchoOption).flatten
  let words := args.dropWhile Tools.isEchoOption
  let expands := (← get).does "xpg_echo"
  let last := (options.filter fun c => c == 'e' || c == 'E').getLast?
  let escapes := (last.map (· == 'e')).getD expands
  let text := Tools.joinWords words
  let (text, stopped) := if escapes then Tools.unescapeAll echoEscapes text else (text, false)
  print (if options.contains 'n' || stopped then text else text ++ ['\n'])

def setReference (reference value : Octets) : Sh Bool := do
  match referenceOf? reference with
  | some (name, none) => do
      setText name false value
      return true
  | some (name, some subscript) => do
      setElement name subscript subscript false value
      return true
  | none => return false

/-- Gives a variable a value, for a builtin that goes on if it cannot be changed. False if it cannot,
or if there is no such name, which is told. -/
def give (reference value : Octets) : Sh Bool := do
  match ← Sh.attempt (setReference reference value) with
  | .ok true => return true
  | .ok false => do
      invalidName reference
      return false
  | .error .dropped => return false
  | .error jump => throw jump

def printf : Builtin := fun _ _ operands =>
  withOptions "v:" false operands fun options => do
    let target := options.value? 'v'
    match target.filter fun name => (referenceOf? name).isNone, options.texts with
    | some name, _ => do
        invalidName name
        return 2
    | none, [] => tellUsage
    | none, format :: args => do
        let state ← get
        let now ← Sh.scene fun scene => scene.disk.clock
        let zone := Tools.Zone.ofVars (("TZ".toList, state.valueOf "TZ") :: [])
        let moment (words : Octets) (time : Option Int) : Octets :=
          Tools.formatDate zone ((time.getD ((now / second : Nat) : Int)) * (second : Nat)) words
        let formatting := Tools.formatAll .richShell format (args.length + 1) { args, moment }
        let call : Tools.Call := { name := Sh.place state state.line ++ "printf".toList }
        let events := formatting.events.reverse
        match target with
        | some name => do
            (Tools.emitLate call (events.filter fun event =>
              match event with
              | .complaint _ => true
              | .text _ => false) : Chore _) >>= fun _ => pure ()
            let given ← give name formatting.output
            return if given then formatting.status else 1
        | none => do
            match (← (Tools.emitLines call events [] : Chore _) : Except HostFault Unit) with
            | .ok () => return formatting.status
            | .error fault => do
                Sh.complainAs ("write error: " ++ fault.message)
                return 1

structure Intake where
  descriptor : Nat := 0
  delimiter : Char := '\n'
  heedsNothing : Bool := false
  raw : Bool := false
  count : Option Nat := none
  deadline : Option Nat := none

structure Received where
  chars : List (Char × Bool) := []
  escaped : Bool := false
  complete : Bool := false
  late : Bool := false
  fault : Option HostFault := none

def feed (intake : Intake) : Received → Octets → Received × Octets
  | taken, [] => (taken, [])
  | taken, c :: rest =>
      if taken.escaped then
        if c == '\n' then feed intake { taken with escaped := false } rest
        else add { taken with escaped := false } c true rest
      else if c == '\\' && !intake.raw then feed intake { taken with escaped := true } rest
      else if c == intake.delimiter && !intake.heedsNothing then
        ({ taken with complete := true }, rest)
      else if c.toNat = 0 && intake.delimiter.toNat != 0 then feed intake taken rest
      else add taken c false rest
termination_by _ text => (text.length, 0)
where
  add (taken : Received) (c : Char) (quoted : Bool) (rest : Octets) : Received × Octets :=
    let taken := { taken with chars := (c, quoted) :: taken.chars }
    if intake.count.any fun count => count ≤ taken.chars.length then
      ({ taken with complete := true }, rest)
    else feed intake taken rest
  termination_by (rest.length, 1)

def lookTime : Nat := 5000000

def awaitInput (descriptor deadline : Nat) : Nat → Chore Bool
  | 0 => pure false
  | rounds + 1 => do
      if ← Chore.look fun scene => scene.canRead descriptor then return true
      else if deadline ≤ (← Chore.look fun scene => scene.disk.clock) then return false
      else
        Chore.pause lookTime
        awaitInput descriptor deadline rounds

def chunk : Nat := 1024

def takeIn (intake : Intake) : Nat → Received → Chore Received
  | 0, taken => pure taken
  | rounds + 1, taken => do
      let inTime ← match intake.deadline with
        | some deadline => awaitInput intake.descriptor deadline Chore.readLimit
        | none => pure true
      if !inTime then return { taken with late := true }
      else
        let place ← Chore.look fun scene => scene.place? intake.descriptor
        match ← Chore.readUpTo intake.descriptor (if place.isSome then chunk else 1) with
        | .error fault => return { taken with fault := some fault }
        | .ok [] => return taken
        | .ok bytes => do
            let (taken, rest) := feed intake taken bytes
            if let some place := place then
              Chore.change fun scene =>
                scene.seek intake.descriptor (place + bytes.length - rest.length)
            if taken.complete then return taken else takeIn intake rounds taken

def complainOf (text : Octets) (message : String) : Sh Nat := do
  Sh.complainAs (String.ofList text ++ ": " ++ message)
  return 1

def duration? (text : Octets) : Option Nat :=
  let whole := text.takeWhile Char.isDigit
  let behind := text.drop whole.length
  let nanoseconds (fraction : Octets) : Nat :=
    numberOf whole * second + numberOf ((fraction ++ List.replicate 9 '0').take 9)
  match behind with
  | [] => if whole.isEmpty then none else some (nanoseconds [])
  | '.' :: fraction => if fraction.all Char.isDigit then some (nanoseconds fraction) else none
  | _ => none

def count? (text : Octets) : Option Nat :=
  (integer? text).bind fun number => if 0 ≤ number then some number.toNat else none

def inputFrom (given : Option Octets) : Sh (Option Nat) := do
  match given with
  | none => return some 0
  | some text =>
      match count? text with
      | none => do
          let _ ← complainOf text "invalid file descriptor specification"
          return none
      | some descriptor =>
          match ← fileBehind descriptor with
          | some _ => return some descriptor
          | none => do
              let _ ← complainOf text "invalid file descriptor: Bad file descriptor"
              return none

def giveFields (separators : Octets) : List Octets → List (Char × Bool) → Sh Bool
  | [], _ => pure true
  | [name], line => give name (LineFields.lastField separators line)
  | name :: names, line => do
      let (field, rest) := LineFields.firstField separators line
      if ← give name (field.map (·.1)) then giveFields separators names rest else return false

def giveList (name : Octets) (texts : List Octets) : Sh Bool := do
  match ← Sh.attempt (setItems name false (texts.map fun text => ⟨none, false, text⟩)) with
  | .ok () => return true
  | .error .dropped => return false
  | .error jump => throw jump

def isTableName (name : Octets) : Sh Bool := do
  return ((← seen? name).map fun entry => entry.held.isTable).getD false

def fieldsOf (separators : Octets) (line : List (Char × Bool)) : List Octets :=
  (splitAtoms separators (line.map fun (c, quoted) =>
    .char c (if quoted then .quoted else .inserted))).map fieldText

def giveTaken (options : Options) (names : List Octets) (line : List (Char × Bool)) : Sh Bool := do
  let separators := separators (← get)
  match options.value? 'a', names with
  | some name, _ => do
      if !isName name then
        invalidName name
        return false
      else if ← isTableName name then
        Sh.complainAs (String.ofList name ++ ": not an indexed array")
        return false
      else giveList name (fieldsOf separators line)
  | none, [] => give "REPLY".toList (line.map (·.1))
  | none, first :: rest =>
      if options.has 'N' then do
        if ← give first (line.map (·.1)) then giveFields separators rest [] else return false
      else giveFields separators names (line.dropWhile (LineFields.isGap separators))

def deadlineFor (descriptor : Nat) (given : Option Nat) : Sh (Option Nat) := do
  let state ← get
  let time := match given with
    | some time => some time
    | none => ((state.valueOf? "TMOUT").bind count?).bind fun seconds =>
        if seconds = 0 then none else some (seconds * second)
  match time with
  | none => return none
  | some time =>
      Sh.scene fun scene =>
        if (scene.place? descriptor).isSome then none else some (scene.disk.clock + time)

def lateStatus : Nat := 142

def read : Builtin := fun _ _ operands =>
  withOptions "ersa:d:i:n:N:p:t:u:" false operands fun options => do
    let names := options.texts
    let limit := (options.value? 'N').or (options.value? 'n')
    match options.value? 't', limit with
    | some text, _ =>
        if (duration? text).isNone then complainOf text "invalid timeout specification"
        else checkCount options names limit
    | none, limit => checkCount options names limit
where
  checkCount (options : Options) (names : List Octets) (limit : Option Octets) : Sh Nat := do
    match limit.filter fun text => (count? text).isNone with
    | some text => complainOf text "invalid number"
    | none => do
        match ← inputFrom (options.value? 'u') with
        | none => return 1
        | some descriptor =>
            match names.head?.filter fun name => (referenceOf? name).isNone with
            | some name => do
                invalidName name
                return 1
            | none => take options names limit descriptor
  take (options : Options) (names : List Octets) (limit : Option Octets) (descriptor : Nat) :
      Sh Nat := do
    let time := (options.value? 't').bind duration?
    if time = some 0 then
      return if ← Sh.scene fun scene => scene.canRead descriptor then 0 else 1
    else
      let count := limit.bind count?
      let intake : Intake := {
        descriptor
        delimiter := match options.value? 'd' with
          | some text => text.headD (Char.ofNat 0)
          | none => '\n'
        heedsNothing := options.has 'N'
        raw := options.has 'r'
        count
        deadline := ← deadlineFor descriptor time }
      let taken ← if count = some 0 then pure { complete := true }
        else (takeIn intake Chore.readLimit {} : Chore _)
      if let some fault := taken.fault then
        complainOf "read error".toList (Nat.repr descriptor ++ ": " ++ fault.message)
      else
        let given ← giveTaken options names taken.chars.reverse
        return if taken.late then lateStatus else if given && taken.complete then 0 else 1

structure Lines where
  descriptor : Nat
  delimiter : Char
  trims : Bool
  call : Option Octets
  every : Nat

def nextLine (lines : Lines) : Sh (Option (Octets × Bool)) := do
  let intake : Intake :=
    { descriptor := lines.descriptor, delimiter := lines.delimiter, raw := true }
  let taken ← (takeIn intake Chore.readLimit {} : Chore _)
  let text := taken.chars.reverse.map (·.1)
  return if text.isEmpty && !taken.complete then none else some (text, taken.complete)

def skipLines (lines : Lines) : Nat → Sh Unit
  | 0 => pure ()
  | count + 1 => do
      match ← nextLine lines with
      | some _ => skipLines lines count
      | none => pure ()

def storeLines (kit : Kit) (lines : Lines) (name : Octets) : Nat → Nat → Nat → Sh Unit
  | 0, _, _ => pure ()
  | fuel + 1, index, read => do
      match ← nextLine lines with
      | none => pure ()
      | some (text, complete) => do
          let ends := complete && !lines.trims && lines.delimiter.toNat != 0
          let text := if ends then text ++ [lines.delimiter] else text
          if let some call := lines.call then
            if (read + 1) % lines.every = 0 then
              let outer := (← get).builtin
              modify fun state => { state with builtin := none }
              deeper (runText kit {} "" (← get).line
                (call ++ ' ' :: decimal index ++ ' ' :: quotedForm text))
              modify fun state => { state with builtin := outer }
          let place := decimal index
          setElement name place place false text
          storeLines kit lines name fuel (index + 1) (read + 1)

def usualQuantum : Nat := 5000

def mapfile : Builtin := fun kit _ operands =>
  withOptions "d:u:n:O:tC:c:s:" false operands fun options => do
    let wrong (letter : Char) (isRight : Nat → Bool) : Option Octets :=
      (options.value? letter).filter fun text => !((count? text).map isRight).getD false
    match wrong 'n' (fun _ => true) |>.or (wrong 's' fun _ => true) with
    | some text => complainOf text "invalid line count"
    | none =>
    match wrong 'O' fun _ => true with
    | some text => complainOf text "invalid array origin"
    | none =>
    match wrong 'c' fun every => 0 < every with
    | some text => complainOf text "invalid callback quantum"
    | none => do
        match ← inputFrom (options.value? 'u') with
        | none => return 1
        | some descriptor => fill kit options descriptor
where
  fill (kit : Kit) (options : Options) (descriptor : Nat) : Sh Nat := do
    let name := options.texts.headD "MAPFILE".toList
    if name.isEmpty then
      Sh.complainAs "empty array variable name"
      return 2
    else if !isName name then
      invalidName name
      return 1
    else if ← isTableName name then
      Sh.complainAs (String.ofList name ++ ": not an indexed array")
      return 1
    else
      let number (letter : Char) : Option Nat := (options.value? letter).bind count?
      let lines : Lines := {
        descriptor
        delimiter := match options.value? 'd' with
          | some text => text.headD (Char.ofNat 0)
          | none => '\n'
        trims := options.has 't'
        call := options.value? 'C'
        every := (number 'c').getD usualQuantum }
      let prepare : Sh Unit := do
        if (options.value? 'O').isNone then setItems name false []
        else
          let held := (((← get).stored? ((← get).resolve name)).map (·.held)).getD .nothing
          if !held.isList then setItems name true []
      let limit := match number 'n' with
        | some (count + 1) => count + 1
        | _ => Chore.readLimit
      let result ← Sh.attempt do
        prepare
        skipLines lines ((number 's').getD 0)
        storeLines kit lines name limit ((number 'O').getD 0) 0
      match result with
      | .ok () => return 0
      | .error .dropped => return 1
      | .error jump => throw jump

end ArtifactPipeline.RichShell.Builtins
