set_option autoImplicit false

namespace ArtifactPipeline.Glob

inductive Token where
  | literal (c : Char)
  | any
  | star
  | treeStart
  | treeEnd
  | treeBetween
  | charClass (negated : Bool) (ranges : List (Char × Char))
  | choice (branches : List (List Token))

structure ClassScan where
  negated : Bool
  ranges : List (Char × Char)
  first : Bool
  inRange : Bool

inductive Mode where
  | plain
  | escaped
  | classStart
  | inClass (scan : ClassScan)

structure Builder where
  enclosing : List (List Token × List (List Token))
  current : List Token
  before : Option Char

namespace Builder

def start : Builder := ⟨[], [], none⟩

def push (b : Builder) (token : Token) : Builder :=
  { b with current := token :: b.current }

def pushTwoStars (b : Builder) : Builder :=
  (b.push .star).push .star

def past (b : Builder) (c : Char) : Builder :=
  { b with before := some c }

def inGroup (b : Builder) : Bool :=
  !b.enclosing.isEmpty

def openGroup (b : Builder) : Builder :=
  { b with enclosing := (b.current, []) :: b.enclosing, current := [] }

def nextBranch (b : Builder) : Builder :=
  match b.enclosing with
  | (outer, done) :: rest =>
      { b with enclosing := (outer, done ++ [b.current.reverse]) :: rest, current := [] }
  | [] => b.push (.literal ',')

def closeGroup? (b : Builder) : Option Builder :=
  match b.enclosing with
  | (outer, done) :: rest =>
      some { b with
        enclosing := rest
        current := .choice (done ++ [b.current.reverse]) :: outer }
  | [] => none

def finish? (b : Builder) : Option (List Token) :=
  if b.inGroup then none else some b.current.reverse

def pushTree (b : Builder) (token : Token) : Builder :=
  match b.current with
  | .treeStart :: _ | .treeEnd :: _ => b
  | _ :: rest => { b with current := token :: rest }
  | [] => b.push token

/-- Reads a double star in view of the character after it. The flag tells whether that character
belongs to it. -/
def doubleStar (b : Builder) (after : Option Char) : Builder × Bool :=
  if b.current.isEmpty then
    match after with
    | none => (b.push .treeStart, false)
    | some '/' => (b.push .treeStart, true)
    | some _ => (b.pushTwoStars, false)
  else if b.before != some '/' &&
      (!b.inGroup || (b.before != some ',' && b.before != some '\x7b')) then
    (b.pushTwoStars, false)
  else
    match after with
    | none => (b.pushTree .treeEnd, false)
    | some '/' => (b.pushTree .treeBetween, true)
    | some c =>
        if b.inGroup && (c = ',' || c = '\x7d') then (b.pushTree .treeEnd, false)
        else (b.pushTwoStars, false)

end Builder

namespace ClassScan

def start (negated : Bool) : ClassScan := ⟨negated, [], true, false⟩

def extend? (scan : ClassScan) (c : Char) : Option ClassScan :=
  match scan.ranges with
  | (low, _) :: rest =>
      if c < low then none
      else some { scan with ranges := (low, c) :: rest, first := false, inRange := false }
  | [] => none

def single (scan : ClassScan) (c : Char) : ClassScan :=
  { scan with ranges := (c, c) :: scan.ranges, first := false, inRange := false }

def read? (scan : ClassScan) (c : Char) : Option ClassScan :=
  if scan.inRange then scan.extend? c
  else if c = '-' && !scan.first then some { scan with inRange := true }
  else some (scan.single c)

def token (scan : ClassScan) : Token :=
  let ranges := if scan.inRange then ('-', '-') :: scan.ranges else scan.ranges
  .charClass scan.negated ranges.reverse

end ClassScan

def isNegation (c : Char) : Bool :=
  c == '!' || c == '^'

def readFrom : Mode → Builder → List Char → Option (List Token)
  | .plain, b, [] => b.finish?
  | _, _, [] => none
  | .escaped, b, c :: rest => readFrom .plain ((b.push (.literal c)).past c) rest
  | .classStart, b, c :: rest =>
      if isNegation c then readFrom (.inClass (.start true)) (b.past c) rest
      else
        match (ClassScan.start false).read? c with
        | some scan => readFrom (.inClass scan) (b.past c) rest
        | none => none
  | .inClass scan, b, c :: rest =>
      if c = ']' && !scan.first then readFrom .plain ((b.push scan.token).past c) rest
      else
        match scan.read? c with
        | some scan => readFrom (.inClass scan) (b.past c) rest
        | none => none
  | .plain, b, '?' :: rest => readFrom .plain ((b.push .any).past '?') rest
  | .plain, b, '*' :: '*' :: rest =>
      match rest with
      | [] => readFrom .plain ((b.doubleStar none).1.past '*') []
      | c :: after =>
          let (read, taken) := b.doubleStar (some c)
          if taken then readFrom .plain (read.past c) after
          else readFrom .plain (read.past '*') (c :: after)
  | .plain, b, '*' :: rest => readFrom .plain ((b.push .star).past '*') rest
  | .plain, b, '[' :: rest => readFrom .classStart (b.past '[') rest
  | .plain, b, '\\' :: rest => readFrom .escaped (b.past '\\') rest
  | .plain, b, c :: rest =>
      if c = '\x7b' then readFrom .plain (b.openGroup.past c) rest
      else if c = '\x7d' then
        match b.closeGroup? with
        | some b => readFrom .plain (b.past c) rest
        | none => none
      else if c = ',' then readFrom .plain (b.nextBranch.past c) rest
      else readFrom .plain ((b.push (.literal c)).past c) rest

def tokens? (pattern : String) : Option (List Token) :=
  readFrom .plain .start pattern.toList

end ArtifactPipeline.Glob
