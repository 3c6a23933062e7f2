import ArtifactPipeline.Host.Regex.Basic
import ArtifactPipeline.Host.Tools.Date
import ArtifactPipeline.Host.Tools.Entries
import ArtifactPipeline.Host.Tools.Format

set_option autoImplicit false

namespace ArtifactPipeline.Tools.Find

open Text (Octets BinaryFormat)

structure Bound where
  order : Ordering
  amount : Nat
  deriving DecidableEq, Repr

def Bound.holds (bound : Bound) (value : Nat) : Bool :=
  compare value bound.amount == bound.order

structure Age where
  order : Ordering
  limit : Nat
  unit : Nat
  upward : Bool
  wholeDays : Bool

def Age.holds (wanted : Age) (now mtime : Nat) : Bool :=
  let now := if wanted.wholeDays then (now / 86400000000000 + 1) * 86400000000000 else now
  let age : Int := (now : Int) - mtime
  let limit : Int := wanted.limit
  let unit : Int := wanted.unit
  match wanted.order with
  | .lt => age < limit
  | .gt => if wanted.upward then limit < age else limit + unit ≤ age
  | .eq =>
      if wanted.upward then limit - unit ≤ age && age < limit
      else limit ≤ age && age < limit + unit

inductive Agreement where
  | exact
  | all
  | any
  deriving DecidableEq, Repr

inductive Piece where
  | text (text : Octets)
  | field (directive : Directive) (letter : Char)
  | moment (directive : Directive) (format : Char)
  | stop

abbrev Sink := Option Octets

structure Launching where
  words : List Octets
  together : Option Nat := none
  nearby : Bool := false
  asked : Bool := false

inductive Test where
  | name (pattern : Regex)
  | path (pattern : Regex)
  | target (pattern : Regex)
  | pattern (regex : Regex)
  | kinds (letters : Octets) (through : Bool)
  | empty
  | newer (mtime : Nat)
  | age (wanted : Age)
  | size (bound : Bound) (unit : Nat)
  | links (bound : Bound)
  | inode (bound : Bound)
  | owner (bound : Bound)
  | same (id : Nat) (spot : Spot)
  | permission (agreement : Agreement) (mode : Nat)
  | executable
  | always (value : Bool)
  | print (ending : Char) (sink : Sink)
  | format (pieces : List Piece) (sink : Sink)
  | list (sink : Sink)
  | delete
  | prune
  | quit
  | run (launching : Launching)
  | negation (test : Test)
  | both (first second : Test)
  | either (first second : Test)
  | sequence (first second : Test)

namespace Test

def any (check : Test → Bool) : Test → Bool
  | .negation test => any check test
  | .both first second | .either first second | .sequence first second =>
      any check first || any check second
  | test => check test

def acts : Test → Bool :=
  any fun test =>
    match test with
    | .print _ _ | .format _ _ | .list _ | .delete | .run _ => true
    | _ => false

def sinks : Test → List Octets
  | .negation test => sinks test
  | .both first second | .either first second | .sequence first second =>
      sinks first ++ sinks second
  | .print _ (some file) | .format _ (some file) | .list (some file) => [file]
  | _ => []

def gatherers : Test → List Launching
  | .negation test => gatherers test
  | .both first second | .either first second | .sequence first second =>
      gatherers first ++ gatherers second
  | .run launching => if launching.together.isSome then [launching] else []
  | _ => []

end Test

inductive Following where
  | never
  | given
  | always
  deriving DecidableEq, Repr

structure Scope where
  following : Following := .never
  least : Nat := 0
  most : Option Nat := none
  deep : Bool := false

structure Hit where
  path : Octets
  start : Octets
  entry : HostEntry
  depth : Nat

def fieldOf (text : Octets) : Except String (List Piece × Octets) :=
  let (directive, behind) := readFlags {} text
  let digits := behind.takeWhile Char.isDigit
  let behind := behind.drop digits.length
  let (precision, behind) : Option Nat × Octets := match behind with
    | '.' :: behind =>
        let places := behind.takeWhile Char.isDigit
        (some ((number? places).getD 0), behind.drop places.length)
    | behind => (none, behind)
  let directive := { directive with width := (number? digits).getD 0, precision }
  let spec := '%' :: text.take (text.length - behind.length)
  match behind with
  | [] => .error "error: % at end of format string"
  | '%' :: rest => .ok ([.text ['%']], rest)
  | c :: rest =>
      if "abcdDfFgGhHiklmMnpPsStuUyYZ".toList.contains c then .ok ([.field directive c], rest)
      else if "ABCTB".toList.contains c then
        match rest with
        | [] => .error ("error: " ++ String.ofList spec ++ String.singleton c ++
            " at end of format string")
        | format :: rest => .ok ([.moment directive format], rest)
      else .ok ([.text (spec ++ [c])], rest)

def escapeOf (text : Octets) : List Piece × Octets :=
  match text with
  | [] => ([.text ['\\']], [])
  | 'c' :: _ => ([.stop], [])
  | c :: rest =>
      let digits := (text.take 3).takeWhile isOctal
      if !digits.isEmpty then ([.text [charOf (octalValue digits)]], text.drop digits.length)
      else
        match simpleEscape? c with
        | some char => ([.text [char]], rest)
        | none => ([.text ['\\', c]], rest)

def piecesOf : Nat → Octets → Except String (List Piece)
  | 0, _ => .ok []
  | _ + 1, [] => .ok []
  | fuel + 1, '%' :: rest => do
      let (pieces, rest) ← fieldOf rest
      return pieces ++ (← piecesOf fuel rest)
  | fuel + 1, '\\' :: rest => do
      let (pieces, rest) := escapeOf rest
      return pieces ++ (← piecesOf fuel rest)
  | fuel + 1, c :: rest => do
      return .text [c] :: (← piecesOf fuel rest)

structure View where
  disk : HostDisk
  zone : Zone

def lastPart (path : Octets) : Octets :=
  let trimmed := HostDisk.withoutSlashes path
  let lead := (trimmed.reverse.dropWhile (· != '/')).length
  if trimmed = ['/'] then trimmed else trimmed.drop lead

def fractionOf (time : Nat) : Octets :=
  '.' :: padLeft '0' 9 (decimal (time % Moment.second)) ++ ['0']

def View.moment (view : View) (time : Nat) (format : Char) : Octets :=
  let date (format : String) : Octets := formatDate view.zone time format.toList
  match format with
  | '@' => decimal (time / Moment.second) ++ fractionOf time
  | '+' => date "%Y-%m-%d+%H:%M:%S" ++ fractionOf time
  | 'S' => date "%S" ++ fractionOf time
  | 'T' | 'X' => date "%H:%M:%S" ++ fractionOf time
  | 'r' => date "%I:%M:%S" ++ fractionOf time ++ date " %p"
  | c =>
      if "aAbBcCdDeFgGhHIjklmMnpRstuUVwWxyYzZ".toList.contains c then
        formatDate view.zone time ['%', c]
      else [c]

def View.longMoment (view : View) (time : Nat) : Octets :=
  let date (format : String) : Octets := formatDate view.zone time format.toList
  date "%a %b %e %H:%M:%S" ++ fractionOf time ++ date " %Y"

def letterOf (node : Inode) : Char :=
  if kindLetter node = '-' then 'f' else kindLetter node

def View.finalLetter (view : View) (hit : Hit) : Char :=
  match hit.entry.node with
  | .link _ _ =>
      match view.disk.stat [] (HostDisk.spotText hit.entry.spot) with
      | .ok entry => letterOf entry.node
      | .error .tooManyLinks => 'L'
      | .error _ => 'N'
  | node => letterOf node

def View.density (view : View) (hit : Hit) : Octets :=
  let size := sizeOf view.disk hit.entry
  let room := roomOf view.disk hit.entry
  if size = 0 then (if room = 0 then ['1'] else "inf".toList)
  else ({ conversion := 'g' } : Directive).showQuantity BinaryFormat.double (.finite false room size)

def View.field (view : View) (hit : Hit) (directive : Directive) (letter : Char) : Octets :=
  let node := hit.entry.node
  let text (text : Octets) : Octets := directive.fill (match directive.precision with
    | some places => text.take places
    | none => text)
  let number (value : Nat) : Octets := text (decimal value)
  match letter with
  | 'p' => text hit.path
  | 'f' => text (lastPart hit.path)
  | 'h' =>
      text (if hit.path.contains '/' then
        ((hit.path.reverse.dropWhile (· != '/')).drop 1).reverse
      else ['.'])
  | 'H' => text hit.start
  | 'P' =>
      let rest := hit.path.drop hit.start.length
      text (if rest.head? = some '/' then rest.drop 1 else rest)
  | 's' => number (sizeOf view.disk hit.entry)
  | 'b' => number (roomOf view.disk hit.entry / 512)
  | 'k' => number (roomOf view.disk hit.entry / 1024)
  | 'd' => directive.showInteger hit.depth
  | 'y' => text [letterOf node]
  | 'Y' => text [view.finalLetter hit]
  | 'l' =>
      match node with
      | .link target _ => text target
      | _ => text []
  | 'm' => ({ directive with conversion := 'o' } : Directive).showInteger (HostDisk.modeOf node)
  | 'M' => text (modeText node)
  | 'n' => number (nameCount view.disk hit.entry)
  | 'i' => number hit.entry.id
  | 'u' | 'g' => text "root".toList
  | 'U' | 'G' => number 0
  | 'S' => text (view.density hit)
  | 'D' => number 65024
  | 'F' => text "ext4".toList
  | 'a' | 'c' | 't' => text (view.longMoment (HostDisk.mtimeOf node))
  | _ => text []

def View.piece (view : View) (hit : Hit) : Piece → Octets
  | .text shown => shown
  | .field directive letter => view.field hit directive letter
  | .moment directive format =>
      directive.fill (view.moment (HostDisk.mtimeOf hit.entry.node) format)
  | .stop => []

def View.format (view : View) (hit : Hit) (pieces : List Piece) : Octets :=
  let pieces := pieces.takeWhile fun piece =>
    match piece with
    | .stop => false
    | _ => true
  pieces.flatMap (view.piece hit)

def escapedName (name : Octets) : Octets :=
  name.flatMap fun c =>
    if c == '\\' || c == ' ' || c == '"' then ['\\', c] else if isShown c then [c] else codeOf c

def View.row (view : View) (hit : Hit) : Octets :=
  let entry := hit.entry
  let disk := view.disk
  let time := HostDisk.mtimeOf entry.node
  let recent := disk.clock < time + 15552000 * Moment.second && time ≤ disk.clock
  let format := if recent then "%b %e %H:%M" else "%b %e  %Y"
  let target := match entry.node with
    | .link target _ => " -> ".toList ++ escapedName target
    | _ => []
  let size := match entry.node with
    | .device device =>
        let (major, minor) := deviceNumbers device
        padLeft ' ' 3 (decimal major) ++ [',', ' '] ++ padLeft ' ' 3 (decimal minor)
    | _ => padLeft ' ' 8 (decimal (sizeOf disk entry))
  joinWords [padLeft ' ' 9 (decimal entry.id),
    padLeft ' ' 6 (decimal (roomOf disk entry / 1024)), modeText entry.node,
    padLeft ' ' 3 (decimal (nameCount disk entry)), padRight 8 "root".toList,
    padRight 8 "root".toList, size, formatDate view.zone time format.toList,
    escapedName hit.path ++ target] ++ ['\n']

end ArtifactPipeline.Tools.Find
