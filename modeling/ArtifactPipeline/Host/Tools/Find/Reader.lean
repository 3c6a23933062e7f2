import ArtifactPipeline.Host.Regex.Glob
import ArtifactPipeline.Host.Tools.Find.Basic
import ArtifactPipeline.Host.Tools.Permission

set_option autoImplicit false

namespace ArtifactPipeline.Tools.Find

open Text (Octets)

structure Reading where
  words : List Octets
  scope : Scope := {}
  dialect : Regex.Dialect := { bareRepeats := true }
  wholeDays : Bool := false
  gathered : Nat := 0
  pruned : Bool := false
  orderAsked : Bool := false

abbrev Result := Except String (Test × Reading)

def startsSearch (leading : Bool) (word : Octets) : Bool :=
  match word with
  | '-' :: _ :: _ => true
  | [')'] | [','] => !leading
  | ['('] | ['!'] => true
  | _ => false

def isJoint (word : Octets) : Bool :=
  [")", ",", "-o", "-or"].any fun joint => word = joint.toList

def isAnd (word : Octets) : Bool :=
  word = "-a".toList || word = "-and".toList

def boundOf? (text : Octets) : Option Bound :=
  match text with
  | '+' :: rest => (number? rest).map fun amount => ⟨.gt, amount⟩
  | '-' :: rest => (number? rest).map fun amount => ⟨.lt, amount⟩
  | rest => (number? rest).map fun amount => ⟨.eq, amount⟩

def ageOf? (wholeDays upward : Bool) (unit : Nat) (text : Octets) : Option Age :=
  let (order, digits) : Ordering × Octets := match text with
    | '+' :: rest => (.gt, rest)
    | '-' :: rest => (.lt, rest)
    | rest => (.eq, rest)
  let whole := digits.takeWhile Char.isDigit
  let part := match digits.drop whole.length with
    | '.' :: rest => some rest
    | [] => some []
    | _ => none
  match number? (if whole.isEmpty then ['0'] else whole), part with
  | some whole, some part =>
      if digits.isEmpty || !part.all Char.isDigit then none
      else
        let scale := Nat.pow 10 part.length
        let limit := whole * unit + (number? part).getD 0 * unit / scale
        some { order, limit, unit, upward, wholeDays }
  | _, _ => none

def unitOf? : Octets → Option Nat
  | [] | ['b'] => some 512
  | ['c'] => some 1
  | ['w'] => some 2
  | ['k'] => some 1024
  | ['M'] => some 1048576
  | ['G'] => some 1073741824
  | _ => none

def kindsOf (name text : Octets) : Except String Octets :=
  let parts := Text.splitOn ',' text
  let shown := String.ofList name
  if parts.getLast? = some [] then
    .error ("Last file type in list argument to " ++ shown ++
      " is missing, i.e., list is ending on: ','")
  else
    parts.foldlM (fun letters part =>
      match part with
      | [c] =>
          if "bcdflpsD".toList.contains c then .ok (letters ++ [c])
          else .error ("Unknown argument to " ++ shown ++ ": " ++ String.singleton c)
      | c :: _ =>
          if "bcdflpsD".toList.contains c then
            .error ("Must separate multiple arguments to " ++ shown ++ " using: ','")
          else .error ("Unknown argument to " ++ shown ++ ": " ++ String.singleton c)
      | [] => .error ("Unknown argument to " ++ shown ++ ": ,")) []

def dialects : List (String × Regex.Dialect) := [
  ("findutils-default", { bareRepeats := true }), ("ed", {}), ("emacs", { bareRepeats := true }),
  ("gnu-awk", { extended := true }), ("grep", { newlineAlternates := true }),
  ("posix-awk", { extended := true }), ("awk", { extended := true }), ("posix-basic", {}),
  ("posix-egrep", { extended := true, newlineAlternates := true }),
  ("egrep", { extended := true, newlineAlternates := true }), ("posix-extended", { extended := true }),
  ("posix-minimal-basic", { bars := false }), ("sed", {})]

def commandWords : List Octets → List Octets → Option (List Octets × Bool × List Octets)
  | _, [] => none
  | words, [';'] :: rest =>
      if words.isEmpty then none else some (words.reverse, false, rest)
  | words, word :: rest =>
      if word = ['+'] && words.head? = some ['\x7b', '\x7d'] && 1 < words.length then
        some ((words.drop 1).reverse, true, rest)
      else commandWords (word :: words) rest

def permissionOf (text : Octets) : Except String (Agreement × Nat) :=
  let (agreement, body) : Agreement × Octets := match text with
    | '-' :: rest => (.all, rest)
    | '/' :: rest => (.any, rest)
    | rest => (.exact, rest)
  let invalid : Except String (Agreement × Nat) :=
    .error ("invalid mode " ++ quote text)
  if body.head?.any (fun c => c == '+') && agreement = .exact &&
      (Permission.octal? (body.drop 1)).isSome then invalid
  else
    match Permission.change? body false 0 0 with
    | some mode => .ok (if agreement = .any && mode = 0 then .all else agreement, mode)
    | none => invalid

def newerThan (scene : Scene) (zone : Zone) (letters text : Octets) : Except String Nat :=
  match letters with
  | [first, second] =>
      if !"acmB".toList.contains first || !"acmBt".toList.contains second then
        .error ("invalid predicate \x60-newer" ++ String.ofList letters ++ "'")
      else if second == 't' then
        match Moment.ofText? scene.disk.clock zone.ahead text with
        | some time => .ok time.toNat
        | none => .error ("I cannot figure out how to interpret " ++ quote text ++
            " as a date or time")
      else
        match scene.stat text with
        | .ok entry => .ok (HostDisk.mtimeOf entry.node)
        | .error fault => .error (quote text ++ ": " ++ fault.message)
  | _ => .error ("invalid predicate \x60-newer" ++ String.ofList letters ++ "'")

def primary (scene : Scene) (zone : Zone) (word : Octets) (reading : Reading) : Result :=
  let rest := reading.words
  let name := String.ofList word
  let plain (test : Test) : Result := .ok (test, reading)
  let valued (make : Octets → Except String Test) : Result :=
    match rest with
    | [] => .error ("missing argument to \x60" ++ name ++ "'")
    | value :: rest => do
        let test ← make value
        return (test, { reading with words := rest })
  let changed (value : Octets → Except String Reading) : Result :=
    match rest with
    | [] => .error ("missing argument to \x60" ++ name ++ "'")
    | text :: rest => do
        let reading ← value text
        return (.always true, { reading with words := rest })
  let invalid {α : Type} (value : Octets) : Except String α :=
    .error ("invalid argument \x60" ++ String.ofList value ++ "' to \x60" ++ name ++ "'")
  let bounded (make : Bound → Test) : Result := valued fun value =>
    match boundOf? value with
    | some bound => .ok (make bound)
    | none => invalid value
  let glob (fold : Bool) (make : Regex → Test) : Result := valued fun value =>
    .ok (make (Glob.regex { fold } (Glob.ofText value)))
  let regex (fold : Bool) : Result := valued fun value =>
    match Regex.read { reading.dialect with fold } value with
    | .ok regex => .ok (.pattern regex)
    | .error fault => .error ("failed to compile regular expression '" ++ String.ofList value ++
        "': " ++ fault.message)
  let aged (upward : Bool) (unit : Nat) : Result := valued fun value =>
    match ageOf? reading.wholeDays upward unit value with
    | some wanted => .ok (.age wanted)
    | none => invalid value
  let depth (change : Nat → Scope) : Result := changed fun value =>
    match number? value with
    | some depth => .ok { reading with scope := change depth }
    | none => .error ("Expected a positive decimal integer argument to " ++ name ++
        ", but got " ++ quote value)
  let newer (letters : Octets) : Result := valued fun value => do
    return .newer (← newerThan scene zone letters value)
  let run (nearby asked : Bool) : Result :=
    match commandWords [] rest with
    | some (words, together, rest) =>
        if asked && together then .error ("missing argument to \x60" ++ name ++ "'")
        else
          let launching : Launching :=
            { words, together := if together then some reading.gathered else none, nearby, asked }
          .ok (.run launching,
            { reading with
              words := rest
              gathered := reading.gathered + (if together then 1 else 0) })
    | none => .error ("missing argument to \x60" ++ name ++ "'")
  let format (text : Octets) : Except String (List Piece) := piecesOf (text.length + 1) text
  match name with
  | "-name" => glob false .name
  | "-iname" => glob true .name
  | "-path" | "-wholename" => glob false .path
  | "-ipath" | "-iwholename" => glob true .path
  | "-lname" => glob false .target
  | "-ilname" => glob true .target
  | "-regex" => regex false
  | "-iregex" => regex true
  | "-regextype" => changed fun value =>
      match dialects.lookup (String.ofList value) with
      | some dialect => .ok { reading with dialect }
      | none => .error ("Unknown regular expression type " ++ quote value ++ "; valid types are " ++
          ", ".intercalate (dialects.map fun entry => "'" ++ entry.1 ++ "'") ++ ".")
  | "-type" => valued fun value => return .kinds (← kindsOf word value) false
  | "-xtype" => valued fun value => return .kinds (← kindsOf word value) true
  | "-empty" => plain .empty
  | "-newer" | "-anewer" | "-cnewer" => newer ['m', 'm']
  | "-mtime" | "-atime" | "-ctime" => aged false 86400000000000
  | "-mmin" | "-amin" | "-cmin" => aged true 60000000000
  | "-used" => bounded fun bound => .always (bound.holds 0)
  | "-size" => valued fun value =>
      let digits := (if value.head? = some '+' || value.head? = some '-' then value.drop 1
        else value).takeWhile Char.isDigit
      let sign := if value.head? = some '+' || value.head? = some '-' then value.take 1 else []
      let unit := value.drop (sign.length + digits.length)
      match unitOf? unit, boundOf? (sign ++ digits) with
      | some unit, some bound => .ok (.size bound unit)
      | none, _ => .error ("invalid -size type \x60" ++ String.ofList unit ++ "'")
      | _, none => .error ("Invalid argument \x60" ++ String.ofList value ++ "' to -size")
  | "-links" => bounded .links
  | "-inum" => bounded .inode
  | "-uid" | "-gid" => bounded .owner
  | "-user" | "-group" => valued fun value =>
      if value = "root".toList then .ok (.always true)
      else
        match number? value with
        | some id => .ok (.always (id = 0))
        | none => .error (quote value ++ " is not the name of " ++
            (if name = "-user" then "a known user" else "an existing group"))
  | "-samefile" => valued fun value =>
      match (if reading.scope.following = .never then scene.lstat value else scene.stat value) with
      | .ok entry => .ok (.same entry.id entry.spot)
      | .error fault => .error (quote value ++ ": " ++ fault.message)
  | "-perm" => valued fun value => do
      let (agreement, mode) ← permissionOf value
      return .permission agreement mode
  | "-executable" => plain .executable
  | "-readable" | "-writable" | "-true" => plain (.always true)
  | "-false" | "-nouser" | "-nogroup" => plain (.always false)
  | "-fstype" => valued fun value => .ok (.always (value = "ext4".toList))
  | "-print" => plain (.print '\n' none)
  | "-print0" => plain (.print (Char.ofNat 0) none)
  | "-printf" => valued fun value => return .format (← format value) none
  | "-ls" => plain (.list none)
  | "-fprint" => valued fun value => .ok (.print '\n' (some value))
  | "-fprint0" => valued fun value => .ok (.print (Char.ofNat 0) (some value))
  | "-fls" => valued fun value => .ok (.list (some value))
  | "-fprintf" =>
      match rest with
      | file :: text :: rest => do
          return (.format (← format text) (some file), { reading with words := rest })
      | _ => .error ("missing argument to \x60" ++ name ++ "'")
  | "-delete" => .ok (.delete, { reading with scope := { reading.scope with deep := true } })
  | "-prune" => .ok (.prune, { reading with pruned := true })
  | "-quit" => plain .quit
  | "-exec" => run false false
  | "-execdir" => run true false
  | "-ok" => run false true
  | "-okdir" => run true true
  | "-maxdepth" => depth fun most => { reading.scope with most := some most }
  | "-mindepth" => depth fun least => { reading.scope with least }
  | "-depth" | "-d" =>
      .ok (.always true, { reading with
        scope := { reading.scope with deep := true }
        orderAsked := true })
  | "-daystart" => .ok (.always true, { reading with wholeDays := true })
  | "-follow" =>
      .ok (.always true, { reading with scope := { reading.scope with following := .always } })
  | "-xdev" | "-mount" | "-noleaf" | "-warn" | "-nowarn" | "-ignore_readdir_race"
  | "-noignore_readdir_race" | "-xautofs" => plain (.always true)
  | _ =>
      if "-newer".toList.isPrefixOf word then newer (word.drop 6)
      else .error ("unknown predicate \x60" ++ name ++ "'")

def readTest (scene : Scene) (zone : Zone) : Nat → Nat → Reading → Result
  | 0, _, _ => .error "invalid expression"
  | fuel + 1, level, reading =>
      let operator (word : Octets) (rest : List Octets) (level : Nat)
          (join : Test → Test → Test) (first : Test) (reading : Reading) : Result :=
        if rest.isEmpty then
          .error ("expected an expression after '" ++ String.ofList word ++ "'")
        else do
          let (second, reading) ← readTest scene zone fuel level { reading with words := rest }
          return (join first second, reading)
      match level with
      | 0 => do
          let (first, reading) ← readTest scene zone fuel 1 reading
          match reading.words with
          | [','] :: rest => operator [','] rest 0 .sequence first reading
          | _ => return (first, reading)
      | 1 => do
          let (first, reading) ← readTest scene zone fuel 2 reading
          match reading.words with
          | word :: rest =>
              if word = "-o".toList || word = "-or".toList then
                operator word rest 1 .either first reading
              else return (first, reading)
          | [] => return (first, reading)
      | 2 => do
          let (first, reading) ← readTest scene zone fuel 3 reading
          match reading.words with
          | [] => return (first, reading)
          | word :: rest =>
              if isJoint word then return (first, reading)
              else if isAnd word then operator word rest 2 .both first reading
              else do
                let (second, reading) ← readTest scene zone fuel 2 reading
                return (.both first second, reading)
      | _ =>
          match reading.words with
          | [] => .error "invalid expression"
          | word :: rest =>
              let next := { reading with words := rest }
              if word = ['!'] || word = "-not".toList then
                if rest.isEmpty then
                  .error ("expected an expression after '" ++ String.ofList word ++ "'")
                else do
                  let (test, reading) ← readTest scene zone fuel 3 next
                  return (.negation test, reading)
              else if word = ['('] then
                if rest.head? = some [')'] then
                  .error "invalid expression; empty parentheses are not allowed."
                else if rest.isEmpty then
                  .error ("invalid expression; I was expecting to find a ')' somewhere but " ++
                    "did not see one.")
                else do
                  let (test, reading) ← readTest scene zone fuel 0 next
                  match reading.words with
                  | [')'] :: rest => return (test, { reading with words := rest })
                  | _ => .error ("invalid expression; I was expecting to find a ')' somewhere " ++
                      "but did not see one.")
              else if word = [')'] then .error "invalid expression; you have too many ')'"
              else if isJoint word || isAnd word then
                .error ("invalid expression; you have used a binary operator '" ++
                  String.ofList word ++ "' with nothing before it.")
              else if !startsSearch false word then
                .error ("paths must precede expression: \x60" ++ String.ofList word ++ "'")
              else primary scene zone word next

def read (scene : Scene) (zone : Zone) (following : Following) (words : List Octets) :
    Except String (Test × Scope) := do
  let start : Reading := { words, scope := { following } }
  if words.isEmpty then return (.print '\n' none, start.scope)
  let (test, reading) ← readTest scene zone (8 * words.length + 8) 0 start
  match reading.words with
  | [')'] :: _ => .error "you have too many ')'"
  | word :: _ => .error ("paths must precede expression: \x60" ++ String.ofList word ++ "'")
  | [] =>
      if reading.pruned && reading.scope.deep && !reading.orderAsked then
        .error ("The -delete action automatically turns on -depth, but -prune does nothing when " ++
          "-depth is in effect.  If you want to carry on anyway, just explicitly use the " ++
          "-depth option.")
      else
        return (if test.acts then test else .both test (.print '\n' none), reading.scope)

end ArtifactPipeline.Tools.Find
