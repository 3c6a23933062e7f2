import ArtifactPipeline.Log.Line
import ArtifactPipeline.Log.ValuePattern
import ArtifactPipeline.Text.Alphanumeric
import ArtifactPipeline.Text.Basic

set_option autoImplicit false

namespace ArtifactPipeline

structure LogDirective where
  source : Option String := none
  fields : List String := []
  rank : Nat
  inSpan : Bool := false
  deriving DecidableEq, Repr

abbrev LogFilter := List LogDirective

/-- Why a filter cannot be read: it is not well formed, or a cut falls inside a character, on which
the whole program gives up. -/
inductive LogFilterFault where
  | malformed
  | splitCharacter
  deriving DecidableEq, Repr

namespace LogDirective

def fullRank : Nat := LogLevel.trace.rank

def rank? (text : List Char) : Option Nat :=
  match Text.readWord (String.ofList text) with
  | some rank => if rank ≤ fullRank then some rank else none
  | none =>
      let name := String.ofList (text.map Char.toLower)
      if name = "off" then some 0 else (LogLevel.named? name).map LogLevel.rank

def isStart (c : Char) : Bool :=
  c == '-' || c == ':' || c == '_' || Text.inRanges Text.alphanumericRanges c.toNat

def dropBytes? : Nat → List Char → Option (List Char)
  | 0, text => some text
  | _ + 1, [] => none
  | count, c :: rest =>
      if c.utf8Size ≤ count then dropBytes? (count - c.utf8Size) rest else none

def takeBytes? : Nat → List Char → Option (List Char)
  | 0, _ => some []
  | _ + 1, [] => none
  | count, c :: rest =>
      if c.utf8Size ≤ count then (takeBytes? (count - c.utf8Size) rest).map (c :: ·) else none

inductive Stage where
  | start
  | word (first : Nat)
  | span (first : Nat)
  | field (first : Nat)
  | fieldsEnd
  | spanEnd
  | level (first : Nat)

structure Reading where
  directive : LogDirective
  stage : Stage

def cut (text : List Char) (first last : Nat) : Except LogFilterFault (List Char) :=
  match (dropBytes? first text).bind (takeBytes? (last - first)) with
  | some part => .ok part
  | none => .error .splitCharacter

def cutRest (text : List Char) (first : Nat) : Except LogFilterFault (List Char) :=
  match dropBytes? first text with
  | some part => .ok part
  | none => .error .splitCharacter

def addField (directive : LogDirective) (text : List Char) :
    Except LogFilterFault LogDirective :=
  let name := text.takeWhile fun c => c != '='
  if text.isEmpty then .error .malformed
  else
    match text.drop name.length with
    | [] => .ok { directive with fields := directive.fields ++ [String.ofList name] }
    | _ :: rest =>
        if ValuePattern.isValid (rest.takeWhile fun c => c != '=') then
          .ok { directive with inSpan := true }
        else .error .malformed

def step (text : List Char) (place : Nat) (c : Char) (reading : Reading) :
    Except LogFilterFault Reading := do
  let directive := reading.directive
  match reading.stage with
  | .start =>
      if c = '[' then return ⟨directive, .span (place + 1)⟩
      else if isStart c then return ⟨directive, .word place⟩
      else throw .malformed
  | .word first =>
      if c = '=' then
        let source ← cut text first place
        return ⟨{ directive with source := some (String.ofList source) }, .level (place + 1)⟩
      else if c = '[' then
        let source ← cut text first place
        return ⟨{ directive with source := some (String.ofList source) }, .span (place + 1)⟩
      else return reading
  | .span first =>
      if c = ']' then
        let _ ← cut text first place
        return ⟨{ directive with inSpan := true }, .spanEnd⟩
      else if c = '\x7b' then
        let name ← cut text first place
        return ⟨{ directive with inSpan := !name.isEmpty }, .field (place + 1)⟩
      else return reading
  | .field first =>
      if c = '\x7d' then
        let field ← cut text first place
        let directive ← addField directive field
        return ⟨directive, .fieldsEnd⟩
      else return reading
  | .fieldsEnd => if c = ']' then return ⟨directive, .spanEnd⟩ else throw .malformed
  | .spanEnd => if c = '=' then return ⟨directive, .level (place + 1)⟩ else throw .malformed
  | .level _ => return reading

def readFrom (text : List Char) : Nat → Reading → List Char → Except LogFilterFault Reading
  | _, reading, [] => .ok reading
  | place, reading, c :: rest => do
      let reading ← step text place c reading
      readFrom text (place + c.utf8Size) reading rest

def read (text : List Char) : Except LogFilterFault LogDirective := do
  let reading ← readFrom text 0 ⟨{ rank := fullRank }, .start⟩ (Text.trim text)
  let directive := reading.directive
  match reading.stage with
  | .word first =>
      let word ← cutRest text first
      match rank? word with
      | some rank => return { directive with rank }
      | none => return { directive with source := some (String.ofList word) }
  | .level first =>
      let level ← cutRest text first
      if level.isEmpty then return directive
      else
        match rank? level with
        | some rank => return { directive with rank }
        | none => throw .malformed
  | .spanEnd => return directive
  | _ => throw .malformed

def covers (directive : LogDirective) (line : LogLine) : Bool :=
  !directive.inSpan &&
    (directive.source.map fun lead => lead.toList.isPrefixOf line.source.toList).getD true &&
    directive.fields.all fun field => line.fields.contains field

def weight (directive : LogDirective) : Nat :=
  (directive.source.map fun source => source.utf8ByteSize + 1).getD 0

/-- Whether a rule gives way to another one for the same line: by the weight of the source, then by
the number of fields, then by their names. -/
def yieldsTo (directive other : LogDirective) : Bool :=
  if directive.weight != other.weight then directive.weight < other.weight
  else if directive.fields.length != other.fields.length then
    directive.fields.length < other.fields.length
  else "=".intercalate directive.fields ≤ "=".intercalate other.fields

end LogDirective

namespace LogFilter

def single (level : LogLevel) : LogFilter :=
  [{ rank := level.rank }]

def read (text : String) : Except LogFilterFault LogFilter := do
  let parts := (Text.splitOn ',' text.toList).filter fun part => !part.isEmpty
  match ← parts.mapM LogDirective.read with
  | [] => return single .error
  | filter => return filter

def ruleFor (filter : LogFilter) (line : LogLine) : Option LogDirective :=
  (filter.filter fun directive => directive.covers line).foldl (fun best directive =>
    match best with
    | none => some directive
    | some other => if other.yieldsTo directive then some directive else some other) none

def passes (filter : LogFilter) (line : LogLine) : Bool :=
  match filter.ruleFor line with
  | some directive => line.level.rank ≤ directive.rank
  | none => false

/-- The filter of a run: what the command line says, else a variable that can be read, else
informative lines. There is none when the variable makes the program give up. -/
def choose (level : Option LogLevel) (setting : Option String) : Option LogFilter :=
  match level with
  | some level => some (single level)
  | none =>
      let text := Text.trimText (setting.getD "")
      if text.isEmpty then some (single .info)
      else
        match read text with
        | .ok filter => some filter
        | .error .malformed => some (single .info)
        | .error .splitCharacter => none

def levels (filter : LogFilter) (lines : List LogLine) : List LogLevel :=
  LogLevel.all.filter fun level =>
    lines.any fun line => line.level == level && filter.passes line

end LogFilter

end ArtifactPipeline
