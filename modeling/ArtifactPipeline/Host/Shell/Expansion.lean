import ArtifactPipeline.Host.Shell.Arithmetic
import ArtifactPipeline.Host.Shell.Pattern
import ArtifactPipeline.Host.Shell.State

set_option autoImplicit false

namespace ArtifactPipeline.Shell

open Text (Octets)

/-- Where a character of a word comes from: it was quoted, it stands in the script, or it is part of
something that was put in, which alone is split into fields. -/
inductive Origin where
  | quoted
  | plain
  | inserted
  deriving DecidableEq, Repr

inductive Atom where
  | char (c : Char) (origin : Origin)
  | anchor
  | cut
  deriving DecidableEq, Repr

def atomsOf (origin : Origin) (text : Octets) : List Atom :=
  text.map fun c => .char c origin

def defaultSeparators : Octets := [' ', '\t', '\n']

def separators (state : State) : Octets :=
  match state.vars.lookup "IFS".toList with
  | some { value := some value, .. } => value
  | _ => defaultSeparators

def isSpaceSeparator (c : Char) : Bool :=
  c == ' ' || c == '\t' || c == '\n'

def joint (state : State) : Octets :=
  (separators state).take 1

/-- Fields that are being put together. `absorbing` holds when blanks have just ended a field, so
that one more separator belongs to them. -/
structure Fields where
  done : List Field := []
  current : Option Field := none
  absorbing : Bool := false

namespace Fields

def add (fields : Fields) (c : Char) (quoted : Bool) : Fields :=
  { fields with current := some ((c, quoted) :: fields.current.getD []), absorbing := false }

def start (fields : Fields) : Fields :=
  { fields with current := some (fields.current.getD []), absorbing := false }

def close (fields : Fields) (absorbing : Bool) : Fields :=
  match fields.current with
  | some field => ⟨field.reverse :: fields.done, none, absorbing⟩
  | none => fields

def separate (fields : Fields) (c : Char) : Fields :=
  if isSpaceSeparator c then fields.close true
  else
    match fields.current with
    | some _ => fields.close false
    | none =>
        if fields.absorbing then { fields with absorbing := false }
        else { fields with done := [] :: fields.done }

def step (separators : Octets) (fields : Fields) : Atom → Fields
  | .char c .inserted =>
      if separators.contains c then fields.separate c else fields.add c false
  | .char c origin => fields.add c (origin == .quoted)
  | .anchor => fields.start
  | .cut => fields.close true

end Fields

def splitAtoms (separators : Octets) (atoms : List Atom) : List Field :=
  ((atoms.foldl (Fields.step separators) {}).close false).done.reverse

def unsplit (joint : Octets) (atoms : List Atom) : Field :=
  atoms.flatMap fun atom =>
    match atom with
    | .char c origin => [(c, origin == .quoted)]
    | .anchor => []
    | .cut => joint.map fun c => (c, true)

def paramValue (state : State) (name : Octets) : Option Octets :=
  match name with
  | ['?'] => some (Nat.repr state.status).toList
  | ['#'] => some (Nat.repr state.args.length).toList
  | ['$'] => some (Nat.repr state.process).toList
  | ['!'] => state.latest.map fun process => (Nat.repr process).toList
  | ['-'] => some state.options
  | ['@'] | ['*'] => some (Text.joinWith (joint state) state.args)
  | name =>
      if name.all Char.isDigit then
        match (String.ofList name).toNat? with
        | some 0 => some state.name
        | some (index + 1) => state.args[index]?
        | none => none
      else state.value? name

def isArgumentList (name : Octets) : Bool :=
  name == ['@'] || name == ['*']

def argumentAtoms (state : State) (name : Octets) (quoted : Bool) : List Atom :=
  if quoted && name == ['*'] then
    atomsOf .quoted (Text.joinWith (joint state) state.args)
  else
    let origin := if quoted then Origin.quoted else .inserted
    let each := state.args.map fun arg =>
      if quoted then .anchor :: atomsOf origin arg else atomsOf origin arg
    match each with
    | [] => []
    | first :: others => first ++ others.flatMap fun atoms => .cut :: atoms

def paramAtoms (state : State) (name : Octets) (quoted : Bool) : List Atom :=
  if isArgumentList name then argumentAtoms state name quoted
  else atomsOf (if quoted then .quoted else .inserted) ((paramValue state name).getD [])

def asInserted (atoms : List Atom) : List Atom :=
  atoms.map fun atom =>
    match atom with
    | .char c .plain => .char c .inserted
    | atom => atom

def dropNewlines (text : Octets) : Octets :=
  (text.reverse.dropWhile (· == '\n')).reverse

def notSet (name : Octets) : Sh Unit :=
  Sh.fail (String.ofList name ++ ": parameter not set")

def homeOf (state : State) (user : Octets) : Option Octets :=
  if user.isEmpty then state.value? "HOME".toList
  else if user = "root".toList then some "/root".toList
  else none

def arithmeticFault (expression : Octets) (text : String) : String :=
  "arithmetic expression: " ++ text ++ ": \"" ++ String.ofList expression ++ "\""

def arithmetic (expression : Octets) : Sh Octets := do
  let state ← get
  match Arithmetic.evaluate state.shownVars expression with
  | .error (.expecting what) => Sh.fail (arithmeticFault expression ("expecting " ++ what))
  | .error .divisionByZero => Sh.fail (arithmeticFault expression "division by zero")
  | .error (.illegalNumber text) => Sh.fail ("Illegal number: " ++ String.ofList text)
  | .error .overflow => (Chore.die 8 : Chore Octets)
  | .ok (value, vars) =>
      let fresh := vars.take (vars.length - state.shownVars.length)
      fresh.reverse.forM fun (name, value) => Sh.assign name value
      return Arithmetic.intText value

def expandPieces (capture : Command → Sh Octets) : Nat → List Piece → Sh (List Atom)
  | 0, _ => Sh.fail "too deeply nested"
  | _ + 1, [] => pure []
  | depth + 1, piece :: rest => do
      let atoms ←
        match piece with
        | .text chars quoted =>
            pure (if quoted then .anchor :: atomsOf .quoted chars else atomsOf .plain chars)
        | .home user =>
            match homeOf (← get) user with
            | some home => pure (.anchor :: atomsOf .quoted home)
            | none => pure (atomsOf .plain ('~' :: user))
        | .output script quoted => do
            let text := dropNewlines (← capture script)
            pure (atomsOf (if quoted then .quoted else .inserted) text)
        | .arithmetic expression quoted => do
            let atoms ← expandPieces capture depth expression
            let text ← arithmetic ((unsplit (joint (← get)) atoms).map (·.1))
            pure (atomsOf (if quoted then .quoted else .inserted) text)
        | .param name use word quoted => expandParam capture depth name use word quoted
        | .senseless => Sh.fail "Bad substitution"
      return atoms ++ (← expandPieces capture depth rest)
where
  expandParam (capture : Command → Sh Octets) (depth : Nat) (name : Octets) (use : ParamUse)
      (word : List Piece) (quoted : Bool) : Sh (List Atom) := do
    match depth with
    | 0 => Sh.fail "too deeply nested"
    | depth + 1 =>
        let value := paramValue (← get) name
        let origin := if quoted then Origin.quoted else .inserted
        let absent (colon : Bool) : Bool :=
          match value with
          | none => true
          | some text => colon && text.isEmpty
        let insert : Sh (List Atom) := do
          let atoms ← expandPieces capture depth word
          return if quoted then atoms else asInserted atoms
        let strict := (← get).has 'u' && !isArgumentList name
        match use with
        | .value =>
            if strict && value.isNone then notSet name
            let atoms := paramAtoms (← get) name quoted
            if word.isEmpty then return atoms else return atoms ++ (← insert)
        | .length =>
            if strict && value.isNone then notSet name
            return atomsOf origin (Nat.repr (value.getD []).length).toList
        | .orElse colon =>
            if absent colon then insert else return paramAtoms (← get) name quoted
        | .ifSet colon => if absent colon then return [] else insert
        | .orAssign colon =>
            if absent colon then
              if !isName name then Sh.fail (String.ofList name ++ ": bad variable name")
              else
                let atoms ← expandPieces capture depth word
                Sh.assign name ((unsplit (joint (← get)) atoms).map (·.1))
                return paramAtoms (← get) name quoted
            else return paramAtoms (← get) name quoted
        | .orFail colon =>
            if absent colon then
              let atoms ← expandPieces capture depth word
              let text := (unsplit (joint (← get)) atoms).map (·.1)
              if text.isEmpty then
                Sh.fail (String.ofList name ++ ": parameter not set" ++ (if colon then " or null" else ""))
              else Sh.fail (String.ofList name ++ ": " ++ String.ofList text)
            else return paramAtoms (← get) name quoted
        | .dropStart longest =>
            if strict && value.isNone then notSet name
            let pattern := unsplit (joint (← get)) (← expandPieces capture depth word)
            return atomsOf origin (dropStart longest pattern (value.getD []))
        | .dropEnd longest =>
            if strict && value.isNone then notSet name
            let pattern := unsplit (joint (← get)) (← expandPieces capture depth word)
            return atomsOf origin (dropEnd longest pattern (value.getD []))

def wordLimit : Nat := 100000

def expandAtoms (capture : Command → Sh Octets) (word : Word) : Sh (List Atom) :=
  expandPieces capture wordLimit word

def expandFields (capture : Command → Sh Octets) (word : Word) : Sh (List Octets) := do
  let atoms ← expandAtoms capture word
  let state ← get
  let fields := splitAtoms (separators state) atoms
  if state.has 'f' || !fields.any isMagic then return fields.map fieldText
  else Sh.scene fun scene => fields.flatMap (pathsFor scene)

def expandAllFields (capture : Command → Sh Octets) : List Word → Sh (List Octets)
  | [] => pure []
  | word :: rest => do
      let fields ← expandFields capture word
      return fields ++ (← expandAllFields capture rest)

def expandText (capture : Command → Sh Octets) (word : Word) : Sh Octets := do
  let atoms ← expandAtoms capture word
  return fieldText (unsplit (joint (← get)) atoms)

def expandPattern (capture : Command → Sh Octets) (word : Word) : Sh Field := do
  let atoms ← expandAtoms capture word
  return unsplit (joint (← get)) atoms

end ArtifactPipeline.Shell
