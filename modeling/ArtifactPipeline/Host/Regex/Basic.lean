import ArtifactPipeline.Text.Utf8

set_option autoImplicit false

namespace ArtifactPipeline

open Text (Octets)

structure CharSet where
  members : Array Bool

namespace CharSet

def size : Nat := 256

def ofTest (test : Char → Bool) : CharSet :=
  ⟨(Array.range size).map fun code => test (Char.ofNat code)⟩

def contains (set : CharSet) (c : Char) : Bool :=
  set.members.getD c.toNat false

def empty : CharSet := ofTest fun _ => false

def ofChars (chars : Octets) : CharSet := ofTest chars.contains

def union (a b : CharSet) : CharSet := ofTest fun c => a.contains c || b.contains c

def complement (set : CharSet) : CharSet := ofTest fun c => !set.contains c

def folded (set : CharSet) : CharSet :=
  ofTest fun c => set.contains c || set.contains c.toLower || set.contains c.toUpper

def without (set : CharSet) (c : Char) : CharSet := ofTest fun d => d != c && set.contains d

end CharSet

inductive Repetition where
  | most
  | fewest
  | allOrNothing
  deriving DecidableEq, Repr

inductive Regex where
  | empty
  | char (c : Char)
  | oneOf (set : CharSet)
  | lineStart (inner : Bool)
  | lineEnd (inner : Bool)
  | lastLineEnd
  | edge (start ending : Bool)
  | group (number : Nat) (body : Regex)
  | same (number : Nat) (fold : Bool)
  | seq (first second : Regex)
  | either (first second : Regex)
  | times (least : Nat) (most : Option Nat) (way : Repetition) (body : Regex)
  | ahead (negated : Bool) (body : Regex)
  | behind (negated : Bool) (body : Regex)
  | preferred (body : Regex)
  | unlike (body : Regex)
  | mark

namespace Regex

def isWordChar (c : Char) : Bool :=
  c.isAlphanum || c == '_'

def chain (parts : List Regex) : Regex :=
  match parts with
  | [] => .empty
  | [part] => part
  | part :: rest => .seq part (chain rest)

def ofText (text : Octets) : Regex :=
  chain (text.map .char)

def folded (c : Char) : Regex :=
  if c.isAlpha then .oneOf (CharSet.ofChars [c.toLower, c.toUpper]) else .char c

structure Spot where
  passed : Octets := []
  rest : Octets
  place : Nat := 0
  groups : List (Nat × Octets) := []
  start : Option Nat := none

namespace Spot

def ofText (text : Octets) : Spot := { rest := text }

def next? (spot : Spot) : Option (Char × Spot) :=
  match spot.rest with
  | [] => none
  | c :: rest => some (c, { spot with passed := c :: spot.passed, rest, place := spot.place + 1 })

def skip : Nat → Spot → Spot
  | 0, spot => spot
  | count + 1, spot =>
      match spot.next? with
      | some (_, next) => skip count next
      | none => spot

def back : Nat → Spot → Spot
  | 0, spot => spot
  | count + 1, spot =>
      match spot.passed with
      | [] => spot
      | c :: passed =>
          back count { spot with passed, rest := c :: spot.rest, place := spot.place - 1 }

def upTo (spot other : Spot) : Octets :=
  spot.rest.take (other.place - spot.place)

end Spot

def distinctPlaces : List Spot → Nat → List Spot
  | [], _ => []
  | spot :: rest, seen =>
      if seen.testBit spot.place then distinctPlaces rest seen
      else spot :: distinctPlaces rest (seen ||| Nat.shiftLeft 1 spot.place)

structure Manner where
  longest : Bool
  exact : Bool

namespace Manner

def distinct (manner : Manner) (spots : List Spot) : List Spot :=
  match spots with
  | [] | [_] => spots
  | spots => if manner.exact then spots else distinctPlaces spots 0

def rank (manner : Manner) (spots : List Spot) : List Spot :=
  match spots with
  | [] | [_] => spots
  | spots => if manner.longest then spots.mergeSort fun a b => b.place ≤ a.place else spots

end Manner

def runOf (test : Char → Bool) (least : Nat) : Nat → Spot → List Spot → List Spot
  | 0, spot, found => if least = 0 then spot :: found else found
  | most + 1, spot, found =>
      let found := if least = 0 then spot :: found else found
      match spot.next? with
      | some (c, next) => if test c then runOf test (least - 1) most next found else found
      | none => found

def repeated (manner : Manner) (way : Repetition) (step : Spot → List Spot) :
    Nat → Nat → Option Nat → Nat → Spot → List Spot × Nat
  | 0, _, _, seen, _ => ([], seen)
  | fuel + 1, least, most, seen, spot =>
      let follow (least : Nat) (seen : Nat) (spots : List Spot) : List Spot × Nat :=
        spots.foldl (fun (found, seen) next =>
          let (more, seen) :=
            repeated manner way step fuel least (most.map fun most => most - 1) seen next
          (found ++ more, seen)) (([] : List Spot), seen)
      if 0 < least then follow (least - 1) seen (step spot)
      else
        let once := most.isNone && !manner.exact
        if once && seen.testBit spot.place then ([], seen)
        else
          let seen := if once then seen ||| Nat.shiftLeft 1 spot.place else seen
          let (further, seen) :=
            if most = some 0 then ([], seen)
            else follow 0 seen ((step spot).filter fun next => next.place != spot.place)
          match way with
          | .fewest => (spot :: further, seen)
          | _ => (further ++ [spot], seen)

def isEdge (start ending : Bool) (spot : Spot) : Bool :=
  let left := (spot.passed.head?.map isWordChar).getD false
  let right := (spot.rest.head?.map isWordChar).getD false
  if !start && !ending then left == right
  else (start && !left && right) || (ending && left && !right)

def places (manner : Manner) (regex : Regex) (spot : Spot) : List Spot :=
  let holds (test : Bool) : List Spot := if test then [spot] else []
  match regex with
  | .empty => [spot]
  | .char c =>
      match spot.next? with
      | some (d, next) => if c == d then [next] else []
      | none => []
  | .oneOf set =>
      match spot.next? with
      | some (c, next) => if set.contains c then [next] else []
      | none => []
  | .lineStart inner =>
      holds (spot.passed.isEmpty || (inner && spot.passed.head? == some '\n'))
  | .lineEnd inner => holds (spot.rest.isEmpty || (inner && spot.rest.head? == some '\n'))
  | .lastLineEnd => holds (spot.rest.isEmpty || spot.rest == ['\n'])
  | .edge start ending => holds (isEdge start ending spot)
  | .group number body =>
      manner.rank ((places manner body spot).map fun next =>
        { next with groups := (number, spot.upTo next) :: next.groups })
  | .same number fold =>
      match spot.groups.lookup number with
      | none => []
      | some text =>
          let next := spot.skip text.length
          let found := spot.upTo next
          holds (found.length == text.length && (found.zip text).all fun (a, b) =>
            a == b || (fold && a.toLower == b.toLower)) |>.map fun _ => next
  | .seq first second =>
      manner.distinct ((places manner first spot).flatMap (places manner second))
  | .either first second =>
      manner.rank (manner.distinct (places manner first spot ++ places manner second spot))
  | .times least most way body =>
      let limit := most.getD (spot.rest.length + least)
      let found :=
        match body with
        | .char c => ordered way (runOf (· == c) least limit spot [])
        | .oneOf set => ordered way (runOf set.contains least limit spot [])
        | body =>
            (repeated manner way (places manner body) (spot.rest.length + least + 2) least most 0
              spot).1
      manner.rank (manner.distinct (if way == .allOrNothing then found.take 1 else found))
  | .ahead negated body =>
      match places manner body spot with
      | [] => holds negated
      | found :: _ => if negated then [] else [{ spot with groups := found.groups }]
  | .behind negated body =>
      let found := (List.range (spot.place + 1)).any fun count =>
        (places manner body (spot.back count)).any fun next => next.place == spot.place
      holds (found != negated)
  | .preferred body => (places manner body spot).take 1
  | .unlike body =>
      let taken := (places manner body spot).map Spot.place
      (runOf (fun _ => true) 0 spot.rest.length spot []).filter fun next =>
        !taken.contains next.place
  | .mark => [{ spot with start := some spot.place }]
where
  ordered (way : Repetition) (spots : List Spot) : List Spot :=
    if way == .fewest then spots.reverse else spots

def canBeEmpty : Regex → Bool
  | .char _ | .oneOf _ => false
  | .group _ body | .preferred body => canBeEmpty body
  | .seq first second => canBeEmpty first && canBeEmpty second
  | .either first second => canBeEmpty first || canBeEmpty second
  | .times least _ _ body => least == 0 || canBeEmpty body
  | _ => true

def heads : Regex → CharSet
  | .char c => CharSet.ofChars [c]
  | .oneOf set => set
  | .group _ body | .preferred body | .times _ _ _ body => heads body
  | .seq first second => if canBeEmpty first then (heads first).union (heads second) else heads first
  | .either first second => (heads first).union (heads second)
  | .same _ _ => CharSet.ofTest fun _ => true
  | _ => CharSet.empty

def groupCount : Regex → Nat
  | .group number body => max number (groupCount body)
  | .seq first second | .either first second => max (groupCount first) (groupCount second)
  | .times _ _ _ body => groupCount body
  | _ => 0

def refersBack : Regex → Bool
  | .same _ _ => true
  | .group _ body | .preferred body | .times _ _ _ body | .ahead _ body | .behind _ body =>
      refersBack body
  | .seq first second | .either first second => refersBack first || refersBack second
  | _ => false

end Regex

structure Finder where
  regex : Regex
  manner : Regex.Manner
  heads : Option CharSet

namespace Finder

def ofRegex (longest : Bool) (regex : Regex) : Finder where
  regex := regex
  manner := { longest, exact := regex.refersBack }
  heads := if regex.canBeEmpty then none else some regex.heads

structure Match where
  before : Octets
  text : Octets
  groups : List (Nat × Octets)
  ending : Regex.Spot

def matchAt (finder : Finder) (spot : Regex.Spot) : Option Regex.Spot :=
  let found := finder.regex.places finder.manner spot
  if finder.manner.longest then
    found.foldl (fun best next =>
      match best with
      | some other => if other.place < next.place then some next else best
      | none => some next) none
  else found.head?

def searchFrom (finder : Finder) : Nat → Regex.Spot → Option (Regex.Spot × Regex.Spot)
  | 0, _ => none
  | fuel + 1, spot =>
      let possible :=
        match finder.heads with
        | none => true
        | some heads =>
            match spot.rest with
            | c :: _ => heads.contains c
            | [] => false
      match (if possible then finder.matchAt spot else none), spot.next? with
      | some ending, _ => some (spot, ending)
      | none, some (_, next) => searchFrom finder fuel next
      | none, none => none

def search (finder : Finder) (spot : Regex.Spot) : Option Match :=
  let fresh := { spot with groups := [], start := none }
  (searchFrom finder (spot.rest.length + 1) fresh).map fun (start, ending) =>
    -- A mark may hold the match to start later.
    let start := match ending.start with
      | some place => start.skip (place - start.place)
      | none => start
    { before := spot.upTo start
      text := start.upTo ending
      groups := ending.groups
      ending := { ending with groups := [], start := none } }

def accepts (finder : Finder) (text : Octets) : Bool :=
  (searchFrom finder (text.length + 1) (Regex.Spot.ofText text)).isSome

end Finder

end ArtifactPipeline
