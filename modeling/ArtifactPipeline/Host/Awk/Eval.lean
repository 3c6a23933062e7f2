import ArtifactPipeline.Host.Awk.Streams
import ArtifactPipeline.Host.Awk.Value
import ArtifactPipeline.Host.Tools.Date

set_option autoImplicit false

namespace ArtifactPipeline.Awk

open Text (Octets)

def indexOf (text part : Octets) : Nat :=
  let rec find : Nat → Octets → Nat
    | place, [] => if part.isEmpty then place else 0
    | place, c :: rest =>
        if part.isPrefixOf (c :: rest) then place else find (place + 1) rest
  if text.isEmpty then 0 else find 1 text

def partOf (text : Octets) (start : Int) (length : Option Int) : Octets :=
  match length with
  | none => text.drop (start - 1).toNat
  | some length =>
      if start < 1 then text.take (length - start).toNat
      else (text.drop (start - 1).toNat).take length.toNat

def replacementOf : Octets → List (Option Octets)
  | '\\' :: '\\' :: '&' :: rest => some ['\\'] :: none :: replacementOf rest
  | '\\' :: '&' :: rest => some ['&'] :: replacementOf rest
  | '&' :: rest => none :: replacementOf rest
  | c :: rest =>
      match replacementOf rest with
      | some text :: parts => some (c :: text) :: parts
      | parts => some [c] :: parts
  | [] => []

def filledIn (parts : List (Option Octets)) (found : Octets) : Octets :=
  parts.flatMap fun part => part.getD found

def replaceFirst (finder : Finder) (parts : List (Option Octets)) (text : Octets) :
    Option Octets :=
  (finder.search (Regex.Spot.ofText text)).map fun found =>
    found.before ++ filledIn parts found.text ++ found.ending.rest

def replaceFrom (finder : Finder) (parts : List (Option Octets)) :
    Nat → Option Nat → Nat → List Octets → Regex.Spot → Nat × List Octets
  | 0, _, count, done, spot => (count, spot.rest :: done)
  | fuel + 1, last, count, done, spot =>
      match finder.search spot with
      | none => (count, spot.rest :: done)
      | some found =>
          let done := found.before :: done
          if found.text.isEmpty then
            let adjoins := last == some found.ending.place
            let done := if adjoins then done else filledIn parts [] :: done
            let count := if adjoins then count else count + 1
            match found.ending.next? with
            | none => (count, done)
            | some (c, next) => replaceFrom finder parts fuel last count ([c] :: done) next
          else
            replaceFrom finder parts fuel (some found.ending.place) (count + 1)
              (filledIn parts found.text :: done) found.ending

def replaceAll (finder : Finder) (parts : List (Option Octets)) (text : Octets) :
    Nat × Octets :=
  let (count, done) :=
    replaceFrom finder parts (2 * text.length + 2) none 0 [] (Regex.Spot.ofText text)
  (count, done.reverse.flatten)

def wholeNumbers? (text : Octets) : Option (List Int) :=
  ((Text.splitOn ' ' text).filter fun word => !word.isEmpty).mapM Tools.integer?

def momentOf (zone : Tools.Zone) (text : Octets) : Int :=
  match wholeNumbers? text with
  | some (year :: month :: day :: hour :: minute :: second :: _) =>
      Tools.Moment.daysFrom year month day * 86400 + hour * 3600 + minute * 60 + second -
        zone.ahead
  | _ => -1

def momentText (zone : Tools.Zone) (format : Octets) (second : Int) : Octets :=
  let format := if format.isEmpty then "%c".toList else format
  Tools.formatDate zone (second * Tools.Moment.second) format

def randomNumber (state : Nat) : Float × Nat :=
  let state := (state * 6364136223846793005 + 1442695040888963407) % Nat.pow 2 64
  (Float.ofNat (state / Nat.pow 2 11) / Float.ofNat (Nat.pow 2 53), state)

structure Kit where
  eval : Expr → Act Value
  exec : Stmt → Act Unit

inductive Place where
  | var (place : Nat)
  | item (table : Nat) (key : Key)
  | field (place : Nat)

namespace Place

def value : Place → Act Value
  | .var place => valueAt place
  | .item table key => itemAt table key
  | .field place => fieldAt place

def set (place : Place) (value : Value) : Act Unit :=
  match place with
  | .var place => setValueAt place value
  | .item table key => setItemAt table key value
  | .field place => setFieldAt place value

end Place

def stackLimit : Nat := 1004

def depthLimit : Nat := 40000

namespace Kit

def number (kit : Kit) (expr : Expr) : Act Float := do
  return (← kit.eval expr).toNumber

def text (kit : Kit) (expr : Expr) : Act Octets := do
  textOf (← kit.eval expr)

def isTrue (kit : Kit) (expr : Expr) : Act Bool := do
  return (← kit.eval expr).isTrue

def values (kit : Kit) : List Expr → Act (List Value)
  | [] => return []
  | expr :: rest => do
      let value ← kit.eval expr
      return value :: (← kit.values rest)

def key (kit : Kit) (exprs : List Expr) : Act Key := do
  match exprs with
  | [expr] => do
      let value ← kit.eval expr
      return Key.ofValue (← get).conversion value
  | exprs => do
      let values ← kit.values exprs
      let world ← get
      let between := world.textOf (world.shared Special.keySeparator)
      return .text (Text.joinWith between (values.map world.textOf))

def fieldPlace (kit : Kit) (expr : Expr) : Act Nat := do
  let place := truncated (← kit.number expr)
  if place < 0 then fail ("negative field index $" ++ toString place) else return place.toNat

def place (kit : Kit) (expr : Expr) : Act Place := do
  match expr.bare with
  | .var holder => return .var (← placeOf holder)
  | .item table keys => do
      let key ← kit.key keys
      let table ← tableOf table
      let _ ← itemAt table key
      return .item table key
  | .field index => return .field (← kit.fieldPlace index)
  | _ => fail "no target"

def finder (kit : Kit) (expr : Expr) : Act Finder := do
  match expr.bare with
  | .pattern _ finder => return finder
  | expr => finderOf (← kit.text expr)

def argument (kit : Kit) (expr : Expr) : Act Slot := do
  match expr with
  | .var holder => do
      let place ← placeOf holder
      if place < specialNames.length then
        match ← slotAt place with
        | .table number => return .table number
        | _ => return .value (← valueAt place)
      else
        match ← slotAt place with
        | .unset => return .same place
        | .same root =>
            match ← slotAt root with
            | .table number => return .table number
            | _ => return .same root
        | slot => return slot
  | expr => return .value (← kit.eval expr)

def slots (kit : Kit) : List Expr → Act (List Slot)
  | [] => return []
  | expr :: rest => do
      let slot ← kit.argument expr
      return slot :: (← kit.slots rest)

def dropTables : List Slot → Act Unit
  | [] => return ()
  | .table number :: rest => do
      dropTable number
      dropTables rest
  | _ :: rest => dropTables rest

def execAll (kit : Kit) : List Stmt → Act Unit
  | [] => return ()
  | stmt :: rest => do
      kit.exec stmt
      kit.execAll rest

def call (kit : Kit) (index : Nat) (args : List Expr) : Act Value := do
  match (← get).program.functions[index]? with
  | none => return .unset
  | some function => do
      takeTurns
      let given ← kit.slots args
      let world ← get
      let base := world.slots.size
      let before := world.base
      if stackLimit < base + function.params - world.program.names.length ||
          depthLimit < world.depth then
        quitWith "program limit exceeded: eval stack size=1024"
      let more := List.replicate (function.params - given.length) Slot.unset
      set { world with
        slots := world.slots ++ (given ++ more).toArray
        base := base
        depth := world.depth + 1 }
      let result ← tryCatch (do
        kit.execAll function.body
        return .unset) fun jump =>
          match jump with
          | .return' value => return value
          | jump => throw jump
      let own := ((← get).slots.toList.drop (base + given.length)).take more.length
      dropTables own
      modify fun world =>
        { world with slots := world.slots.take base, base := before, depth := world.depth - 1 }
      return result

def fill (number : Nat) (texts : List Octets) : Act Unit :=
  changeTable number fun _ => ((), Table.ofList (texts.map Value.given))

def fieldRule (kit : Kit) : List Expr → Act FieldRule
  | [] => return (← get).fieldRule
  | expr :: _ => do
      match expr.bare with
      | .pattern text finder => return (if text.isEmpty then .nothing else .pattern finder)
      | expr => FieldRule.ofText finderOf (← kit.text expr)

def replace (kit : Kit) (all : Bool) (pattern replacement target : Expr) : Act Value := do
  let finder ← kit.finder pattern
  let parts := replacementOf (← kit.text replacement)
  let place ← kit.place target
  let text ← textOf (← place.value)
  if all then
    let (count, changed) := replaceAll finder parts text
    if 0 < count then place.set (.text changed)
    return .ofNat count
  else
    match replaceFirst finder parts text with
    | none => return .ofNat 0
    | some changed => do
        place.set (.text changed)
        return .ofNat 1

def sprintf (values : List Value) : Act Value := do
  let world ← get
  match values with
  | [] => return .text []
  | format :: args =>
      let format := world.textOf format
      match formatValues world.textOf format args with
      | (text, none) => return .text text
      | (_, some fault) => fail (fault.message "sprintf" format)

def zone : Act Tools.Zone := do
  return Tools.Zone.ofVars (← get).call.vars

def now : Act Int := do
  return ((← chore (Chore.look fun scene => scene.disk.clock)) / Tools.Moment.second : Nat)

def ofNumber (f : Float → Float) (args : List Value) : Value :=
  .number (f ((args.head?.map Value.toNumber).getD 0.0))

def plainBuiltin (function : Builtin) (args : List Value) : Act Value := do
  let world ← get
  let text (index : Nat) : Octets := world.textOf (args[index]?.getD Value.unset)
  let number (index : Nat) : Float := (args[index]?.getD Value.unset).toNumber
  match function with
  | .length => return .ofNat (text 0).length
  | .index => return .ofNat (indexOf (text 0) (text 1))
  | .substr =>
      return .text (partOf (text 0) (truncated (number 1))
        (if args.length < 3 then none else some (truncated (number 2))))
  | .sprintf => sprintf args
  | .sin => return ofNumber Float.sin args
  | .cos => return ofNumber Float.cos args
  | .atan2 => return .number (Float.atan2 (number 0) (number 1))
  | .exp => return ofNumber Float.exp args
  | .log => return ofNumber Float.log args
  | .sqrt => return ofNumber Float.sqrt args
  | .int =>
      return ofNumber (fun x => if x < 0.0 then x.ceil else x.floor) args
  | .rand => do
      let (x, random) := randomNumber world.random
      modify fun world => { world with random }
      return .number x
  | .srand => do
      let seed ←
        match args with
        | value :: _ => pure value
        | [] => do pure (Value.number (ofInt (← now)))
      modify fun world => { world with random := (truncated seed.toNumber).natAbs, seed }
      return world.seed
  | .close => return .number (ofInt (← closeNamed (text 0)))
  | .flush =>
      if args.isEmpty then
        flushAll
        return .ofNat 0
      else
        match world.outlets.find? fun outlet => outlet.name == text 0 with
        | none => return .number (-1.0)
        | some outlet => do
            let outlet ← flushed outlet
            changeOutlet outlet.kind outlet.name fun _ => outlet
            return .ofNat 0
  | .system => return .number (ofInt (← runCommand (text 0)))
  | .upper => return .text ((text 0).map Char.toUpper)
  | .lower => return .text ((text 0).map Char.toLower)
  | .makeTime => return .number (ofInt (momentOf (← zone) (text 0)))
  | .formatTime => do
      let zone ← zone
      let zone := if (args[2]?.getD Value.unset).isTrue then {} else zone
      let second ← if args.length < 2 then now else pure (truncated (number 1))
      return .text (momentText zone (text 0) second)
  | .now => return .number (ofInt (← now))
  | .split | .sub | .gsub | .match' => return .unset

def builtin (kit : Kit) (function : Builtin) (args : List Expr) : Act Value := do
  match function, args with
  | .length, [] => return .ofNat (← textOf (← fieldAt 0)).length
  | .length, [.var holder] => do
      let place ← placeOf holder
      let slot ← slotAt place
      let slot ← match slot with
        | .same root => slotAt root
        | slot => pure slot
      match slot with
      | .table number => return .ofNat (((← get).tables[number]?.getD {}).size)
      | _ => return .ofNat (← textOf (← valueAt place)).length
  | .split, text :: .var table :: separator => do
      let text ← kit.text text
      let rule ← kit.fieldRule separator
      let parts := rule.apply text
      fill (← tableOf table) parts
      return .ofNat parts.length
  | .sub, [pattern, replacement] => kit.replace false pattern replacement (.field (.number 0.0))
  | .sub, [pattern, replacement, target] => kit.replace false pattern replacement target
  | .gsub, [pattern, replacement] => kit.replace true pattern replacement (.field (.number 0.0))
  | .gsub, [pattern, replacement, target] => kit.replace true pattern replacement target
  | .match', [text, pattern] => do
      let text ← kit.text text
      let finder ← kit.finder pattern
      let (start, length) : Nat × Float :=
        match finder.search (Regex.Spot.ofText text) with
        | some found => (found.before.length + 1, Float.ofNat found.text.length)
        | none => (0, -1.0)
      setValueAt Special.matchStart (.ofNat start)
      setValueAt Special.matchLength (.number length)
      return .ofNat start
  | function, args => do
      let values ← kit.values args
      plainBuiltin function values

def readLine (kit : Kit) (target : Option Expr) (source : LineFrom) : Act Value := do
  let place? : Option Place ←
    match target with
    | some target => do pure (some (← kit.place target))
    | none => pure none
  let record : Except Unit (Option Octets) ←
    match source with
    | .input => do pure (.ok (← nextRecord operandLimit))
    | .file path => do
        let path ← kit.text path
        recordFrom false path
    | .command command => do
        let command ← kit.text command
        recordFrom true command
  match record with
  | .error () => return .number (-1.0)
  | .ok none => return .ofNat 0
  | .ok (some record) => do
      match place? with
      | some place => place.set (.given record)
      | none => modify fun world => world.setRecord record
      return .ofNat 1

def evalExpr (kit : Kit) (expr : Expr) : Act Value := do
  match expr with
  | .number x => return .number x
  | .text text => return .text text
  | .pattern _ finder => do
      modify World.withRecord
      return .ofBool (finder.accepts (← get).record)
  | .var holder => valueAt (← placeOf holder)
  | .item table keys => do
      let key ← kit.key keys
      itemAt (← tableOf table) key
  | .field index => fieldAt (← kit.fieldPlace index)
  | .assign target none value => do
      let place ← kit.place target
      let value ← kit.eval value
      place.set value
      return value
  | .assign target (some operation) value => do
      let place ← kit.place target
      let value ← kit.number value
      let result := Value.number (operation.apply (← place.value).toNumber value)
      place.set result
      return result
  | .count target up before => do
      let place ← kit.place target
      let old := (← place.value).toNumber
      let new := if up then old + 1.0 else old - 1.0
      place.set (.number new)
      return .number (if before then new else old)
  | .arith operation first second => do
      let x ← kit.number first
      let y ← kit.number second
      return .number (operation.apply x y)
  | .negate operand => return .number (-(← kit.number operand))
  | .plus operand => return .number (← kit.number operand)
  | .not operand => return .ofBool (!(← kit.isTrue operand))
  | .join first second => do
      let first ← kit.text first
      let second ← kit.text second
      return .text (first ++ second)
  | .compare relation first second => do
      let first ← kit.eval first
      let second ← kit.eval second
      return .ofBool (relation.holds (Value.compare (← get).conversion first second))
  | .fits negated first second => do
      let text ← kit.text first
      let finder ← kit.finder second
      return .ofBool (finder.accepts text != negated)
  | .both first second => do
      if ← kit.isTrue first then return .ofBool (← kit.isTrue second) else return .ofBool false
  | .either first second => do
      if ← kit.isTrue first then return .ofBool true else return .ofBool (← kit.isTrue second)
  | .choice condition yes no => do
      if ← kit.isTrue condition then kit.eval yes else kit.eval no
  | .isKey keys table => do
      let key ← kit.key keys
      let number ← tableOf table
      changeTable number fun table =>
        match table.find? key with
        | (some _, table) => (.ofBool true, table)
        | (none, table) => (.ofBool false, table)
  | .call function args => kit.call function args
  | .builtin function args => kit.builtin function args
  | .readLine target source => kit.readLine target source
  | .group inner => kit.eval inner

def target (kit : Kit) : Option (OutputKind × Expr) → Act (Option (OutputKind × Octets))
  | none => return none
  | some (kind, expr) => do return some (kind, ← kit.text expr)

def print (kit : Kit) (args : List Expr) (target : Option (OutputKind × Expr)) : Act Unit := do
  let values ←
    match args with
    | [] => do pure [← fieldAt 0]
    | args => kit.values args
  let target ← kit.target target
  let world ← get
  let format := world.textOf (world.shared Special.outputFormat)
  let between := world.textOf (world.shared Special.outputSeparator)
  let ending := world.textOf (world.shared Special.outputEnding)
  write target (Text.joinWith between (values.map (Value.toText format)) ++ ending)

def printFormatted (kit : Kit) (args : List Expr) (target : Option (OutputKind × Expr)) :
    Act Unit := do
  let values ← kit.values args
  let target ← kit.target target
  let world ← get
  match values with
  | [] => return ()
  | format :: args => do
      let format := world.textOf format
      let (text, fault) := formatValues world.textOf format args
      write target text
      match fault with
      | none => return ()
      | some fault => fail (fault.message "printf" format)

def body (kit : Kit) (stmt : Stmt) : Act Bool :=
  tryCatch (do
    kit.exec stmt
    return true) fun jump =>
      match jump with
      | .break' => return false
      | .continue' => return true
      | jump => throw jump

def iterate (step : Act Bool) : Nat → Act Unit
  | 0 => return ()
  | rounds + 1 => do
      takeTurns
      if ← step then iterate step rounds else return ()

def eachKey (kit : Kit) (place : Nat) (stmt : Stmt) : List Octets → Act Unit
  | [] => return ()
  | key :: rest => do
      takeTurns
      setValueAt place (.text key)
      if ← kit.body stmt then kit.eachKey place stmt rest else return ()

def optional (kit : Kit) : Option Stmt → Act Unit
  | none => return ()
  | some stmt => kit.exec stmt

def execStmt (kit : Kit) (stmt : Stmt) : Act Unit := do
  match stmt with
  | .expr value => do
      let _ ← kit.eval value
  | .print args target => kit.print args target
  | .printf args target => kit.printFormatted args target
  | .block body => kit.execAll body
  | .choice condition yes no => do
      if ← kit.isTrue condition then kit.exec yes else kit.optional no
  | .while' condition body =>
      iterate (do if ← kit.isTrue condition then kit.body body else return false) Tools.patience
  | .doWhile body condition =>
      iterate (do if ← kit.body body then kit.isTrue condition else return false) Tools.patience
  | .for' start condition step body => do
      kit.optional start
      let goesOn : Act Bool :=
        match condition with
        | none => return true
        | some condition => kit.isTrue condition
      iterate (do
        if ← goesOn then
          if ← kit.body body then
            kit.optional step
            return true
          else return false
        else return false) Tools.patience
  | .forKeys target table body => do
      let number ← tableOf table
      let keys ← changeTable number Table.keys
      kit.eachKey (← placeOf target) body keys
  | .break' => throw .break'
  | .continue' => throw .continue'
  | .next => throw .next
  | .nextFile => throw .nextFile
  | .exit status => do
      match status with
      | none => throw .exit
      | some status => do
          let status := ((truncated (← kit.number status)) % 256).toNat
          modify fun world => { world with status }
          throw .exit
  | .return' none => throw (.return' .unset)
  | .return' (some value) => do
      let value ← kit.eval value
      throw (.return' value)
  | .delete table [] => do
      let number ← tableOf table
      changeTable number fun _ => ((), {})
  | .delete table keys => do
      let key ← kit.key keys
      let number ← tableOf table
      changeTable number fun table => ((), table.erase key)

end Kit

mutual

def evaluate : Nat → Expr → Act Value
  | 0, _ => throw .quit
  | fuel + 1, expr => Kit.evalExpr ⟨evaluate fuel, execute fuel⟩ expr

def execute : Nat → Stmt → Act Unit
  | 0, _ => throw .quit
  | fuel + 1, stmt => Kit.execStmt ⟨evaluate fuel, execute fuel⟩ stmt

end

def nesting : Nat := 10000000

def kit : Kit :=
  ⟨evaluate nesting, execute nesting⟩

def applies : When → Act Bool
  | .always => return true
  | .if' condition => kit.isTrue condition
  | .between range first last => do
      let setActive (on : Bool) : Act Unit :=
        modify fun world => { world with active := world.active.set! range on }
      if (← get).active[range]?.getD false then
        if ← kit.isTrue last then setActive false
        return true
      else if ← kit.isTrue first then
        setActive (!(← kit.isTrue last))
        return true
      else return false

def applyRules : List Rule → Act Unit
  | [] => return ()
  | rule :: rest => do
      if ← applies rule.condition then
        match rule.action with
        | some body => kit.execAll body
        | none => kit.print [] none
      applyRules rest

def unwind : Act Unit :=
  modify fun world =>
    { world with slots := world.slots.take world.program.names.length, base := 0, depth := 0 }

def readRecords (rules : List Rule) : Act Unit :=
  Kit.iterate (do
    match ← nextRecord operandLimit with
    | none => return false
    | some record => do
        modify fun world => world.setRecord record
        tryCatch (applyRules rules) fun jump =>
          match jump with
          | .next => unwind
          | .nextFile => do
              unwind
              leaveFile
          | jump => throw jump
        return true) Tools.patience

def execEach : List (List Stmt) → Act Unit
  | [] => return ()
  | body :: rest => do
      kit.execAll body
      execEach rest

def unlessQuit (part : Act Unit) : Act Unit :=
  tryCatch part fun jump =>
    match jump with
    | .quit => throw .quit
    | _ => unwind

def runProgram (program : Program) : Act Unit := do
  unlessQuit do
    execEach program.begins
    if !program.rules.isEmpty || !program.ends.isEmpty then readRecords program.rules
  unlessQuit (execEach program.ends)

end ArtifactPipeline.Awk
