import ArtifactPipeline.Text.Utf8

set_option autoImplicit false

namespace ArtifactPipeline.Text.EditScript

inductive Verdict where
  | used
  | aside
  | common
  deriving DecidableEq, Repr

def quarterings : Nat → Nat → Nat
  | 0, _ => 0
  | fuel + 1, n => if n / 4 = 0 then 0 else quarterings fuel (n / 4) + 1

def scaled (start n : Nat) : Nat :=
  start * Nat.pow 2 (quarterings n n)

def verdictOf (many found : Nat) : Verdict :=
  if found = 0 then .aside else if many < found then .common else .used

def keepCommon : Verdict → Verdict
  | .common => .used
  | verdict => verdict

def keepRows (least : Nat) : List Verdict → List Verdict → List Verdict
  | row, [] => if least ≤ row.length then row.map keepCommon else row
  | row, verdict :: rest =>
      if verdict = .common then keepRows least (verdict :: row) rest
      else (if least ≤ row.length then row.map keepCommon else row) ++
        verdict :: keepRows least [] rest

def keepEdge : Nat → Nat → List Verdict → List Verdict
  | _, _, [] => []
  | place, inRow, verdict :: rest =>
      if 8 ≤ place && verdict = .aside then verdict :: rest
      else
        let inRow := if verdict = .aside then inRow + 1 else 0
        keepCommon verdict ::
          (if inRow = 3 then rest else keepEdge (place + 1) inRow rest)

def settleRun (run : List Verdict) : List Verdict :=
  if run.length < 4 * run.count .common then run.map keepCommon
  else
    let run := keepRows (scaled 1 (run.length / 4) + 1) [] run
    ((keepEdge 0 0 (keepEdge 0 0 run).reverse)).reverse

def settleTrimmed (run : List Verdict) : List Verdict :=
  let lead := run.takeWhile (· = .common)
  let body := run.drop lead.length
  let tail := body.reverse.takeWhile (· = .common)
  let core := body.take (body.length - tail.length)
  lead.map keepCommon ++ settleRun core ++ tail.map keepCommon

def settleAll : Nat → List Verdict → List Verdict
  | 0, verdicts => verdicts
  | _ + 1, [] => []
  | fuel + 1, .used :: rest => .used :: settleAll fuel rest
  | fuel + 1, verdicts =>
      let run := verdicts.takeWhile (· != .used)
      settleTrimmed run ++ settleAll fuel (verdicts.drop run.length)

def putAside (lines other : List Nat) : List Bool :=
  let many := scaled 5 (lines.length / 64)
  let verdicts := lines.map fun line => verdictOf many (other.count line)
  (settleAll (verdicts.length + 1) verdicts).map (· = .aside)

structure Box where
  left : Nat
  right : Nat
  top : Nat
  bottom : Nat

def slideOn (first second : Array Nat) (box : Box) : Nat → Int → Int → Int
  | 0, x, _ => x
  | fuel + 1, x, y =>
      if x < box.right && y < box.bottom && 0 ≤ y && first[x.toNat]? = second[y.toNat]? then
        slideOn first second box fuel (x + 1) (y + 1)
      else x

def slideBack (first second : Array Nat) (box : Box) : Nat → Int → Int → Int
  | 0, x, _ => x
  | fuel + 1, x, y =>
      if (box.left : Int) < x && (box.top : Int) < y &&
          first[(x - 1).toNat]? = second[(y - 1).toNat]? then
        slideBack first second box fuel (x - 1) (y - 1)
      else x

structure Reach where
  points : Array Int
  shift : Nat
  low : Int
  high : Int

namespace Reach

def get (reach : Reach) (diagonal : Int) : Int :=
  (reach.points[(diagonal + reach.shift).toNat]?).getD 0

def set (reach : Reach) (diagonal point : Int) : Reach :=
  { reach with points := reach.points.setIfInBounds (diagonal + reach.shift).toNat point }

def widen (reach : Reach) (least most limit : Int) : Reach :=
  let reach :=
    if least < reach.low then { reach with low := reach.low - 1 }.set (reach.low - 2) limit
    else { reach with low := reach.low + 1 }
  if reach.high < most then { reach with high := reach.high + 1 }.set (reach.high + 2) limit
  else { reach with high := reach.high - 1 }

def covers (reach : Reach) (diagonal : Int) : Bool :=
  reach.low ≤ diagonal && diagonal ≤ reach.high

def diagonals (reach : Reach) : List Int :=
  (List.range (((reach.high - reach.low) / 2 + 1).toNat)).map fun (index : Nat) =>
    reach.high - 2 * (index : Int)

end Reach

def advance (first second : Array Nat) (box : Box) (met : Option Reach) :
    List Int → Reach → Except (Int × Int) Reach
  | [], reach => .ok reach
  | diagonal :: rest, reach =>
      let below := reach.get (diagonal - 1)
      let above := reach.get (diagonal + 1)
      let start := if below < above then above else below + 1
      let x := slideOn first second box (box.right + 1) start (start - diagonal)
      let reach := reach.set diagonal x
      if met.any fun other => other.covers diagonal && other.get diagonal ≤ x then
        .error (x, x - diagonal)
      else advance first second box met rest reach

def retreat (first second : Array Nat) (box : Box) (met : Option Reach) :
    List Int → Reach → Except (Int × Int) Reach
  | [], reach => .ok reach
  | diagonal :: rest, reach =>
      let below := reach.get (diagonal - 1)
      let above := reach.get (diagonal + 1)
      let start := if below < above then below else above - 1
      let x := slideBack first second box (box.right + 1) start (start - diagonal)
      let reach := reach.set diagonal x
      if met.any fun other => other.covers diagonal && x ≤ other.get diagonal then
        .error (x, x - diagonal)
      else retreat first second box met rest reach

def noPoint : Int := 1000000000

def middle (first second : Array Nat) (box : Box) : Int × Int :=
  let forward : Int := box.left - box.top
  let backward : Int := box.right - box.bottom
  let odd := (forward - backward) % 2 != 0
  let shift := second.size + 2
  let blank : Array Int := (List.replicate (first.size + second.size + 5) 0).toArray
  let least : Int := box.left - box.bottom
  let most : Int := box.right - box.top
  let fore := (Reach.mk blank shift forward forward).set forward box.left
  let back := (Reach.mk blank shift backward backward).set backward box.right
  go odd least most (first.size + second.size + 2) fore back
where
  go (odd : Bool) (least most : Int) : Nat → Reach → Reach → Int × Int
    | 0, _, _ => (box.left, box.top)
    | fuel + 1, fore, back =>
        let fore := fore.widen least most (-1)
        match advance first second box (if odd then some back else none) fore.diagonals fore with
        | .error place => place
        | .ok fore =>
            let back := back.widen least most noPoint
            match retreat first second box (if odd then none else some fore) back.diagonals back with
            | .error place => place
            | .ok back => go odd least most fuel fore back

def commonStart (first second : Array Nat) : Nat → Box → Box
  | 0, box => box
  | fuel + 1, box =>
      if box.left < box.right && box.top < box.bottom && first[box.left]? = second[box.top]? then
        commonStart first second fuel { box with left := box.left + 1, top := box.top + 1 }
      else box

def commonEnd (first second : Array Nat) : Nat → Box → Box
  | 0, box => box
  | fuel + 1, box =>
      if box.left < box.right && box.top < box.bottom &&
          first[box.right - 1]? = second[box.bottom - 1]? then
        commonEnd first second fuel { box with right := box.right - 1, bottom := box.bottom - 1 }
      else box

def between (low high : Nat) : List Nat :=
  (List.range (high - low)).map (low + ·)

def changes (first second : Array Nat) : Nat → Box → List Nat × List Nat
  | 0, _ => ([], [])
  | fuel + 1, box =>
      let box := commonEnd first second (first.size + 1) (commonStart first second (first.size + 1) box)
      if box.left = box.right then ([], between box.top box.bottom)
      else if box.top = box.bottom then (between box.left box.right, [])
      else
        let (x, y) := middle first second box
        let (dropped, added) :=
          changes first second fuel { box with right := x.toNat, bottom := y.toNat }
        let (moreDropped, moreAdded) :=
          changes first second fuel { box with left := x.toNat, top := y.toNat }
        (dropped ++ moreDropped, added ++ moreAdded)

structure Marks where
  flags : Array Bool

namespace Marks

def get (marks : Marks) (place : Int) : Bool :=
  0 ≤ place && (marks.flags[place.toNat]?).getD false

def set (marks : Marks) (place : Int) (value : Bool) : Marks :=
  ⟨marks.flags.setIfInBounds place.toNat value⟩

def skipOn (marks : Marks) : Nat → Int → Int
  | 0, place => place
  | fuel + 1, place => if marks.get place then marks.skipOn fuel (place + 1) else place

def skipBack (marks : Marks) : Nat → Int → Int
  | 0, place => place
  | fuel + 1, place =>
      if marks.get (place - 1) then marks.skipBack fuel (place - 1) else place - 1

end Marks

structure Run where
  marks : Marks
  start : Int
  stop : Int
  other : Int
  meeting : Option Int := none

def Run.back (lines : Array Nat) (opposite : Marks) : Nat → Run → Run
  | 0, run => run
  | fuel + 1, run =>
      if 0 < run.start && lines[(run.start - 1).toNat]? = lines[(run.stop - 1).toNat]? then
        let marks := (run.marks.set (run.start - 1) true).set (run.stop - 1) false
        let start := marks.skipBack fuel (run.start - 1) + 1
        Run.back lines opposite fuel { run with
          marks, start, stop := run.stop - 1, other := opposite.skipBack fuel run.other }
      else run

def Run.on (lines : Array Nat) (opposite : Marks) : Nat → Run → Run
  | 0, run => run
  | fuel + 1, run =>
      if run.stop < lines.size && lines[run.start.toNat]? = lines[run.stop.toNat]? then
        let marks := (run.marks.set run.start false).set run.stop true
        let stop := marks.skipOn fuel (run.stop + 1)
        let other := opposite.skipOn fuel (run.other + 1)
        let meeting := if opposite.get (run.other + 1) then some stop else run.meeting
        Run.on lines opposite fuel { marks, start := run.start + 1, stop, other, meeting }
      else run

def Run.settle (lines : Array Nat) (opposite : Marks) (size : Nat) : Nat → Run → Run
  | 0, run => run
  | fuel + 1, run =>
      let length := run.stop - run.start
      let run := run.back lines opposite size
      let run := { run with
        meeting := if opposite.get (run.other - 1) then some run.stop else none }
      let run := run.on lines opposite size
      if run.stop - run.start = length then run else run.settle lines opposite size fuel

def Run.meet (opposite : Marks) : Nat → Run → Run
  | 0, run => run
  | fuel + 1, run =>
      if run.meeting.any (· < run.stop) then
        Run.meet opposite fuel { run with
          marks := (run.marks.set (run.start - 1) true).set (run.stop - 1) false
          start := run.start - 1
          stop := run.stop - 1
          other := opposite.skipBack fuel run.other }
      else run

def shiftRuns (lines : Array Nat) (opposite : Marks) (size : Nat) :
    Nat → Int → Int → Marks → Marks
  | 0, _, _, marks => marks
  | fuel + 1, place, other, marks =>
      if (lines.size : Int) ≤ place then marks
      else if !marks.get place then
        shiftRuns lines opposite size fuel (place + 1) (opposite.skipOn size other + 1) marks
      else
        let stop := marks.skipOn size place
        let run : Run := ⟨marks, place, stop, opposite.skipOn size other, none⟩
        let run := (run.settle lines opposite size size).meet opposite size
        shiftRuns lines opposite size fuel run.stop run.other run.marks

structure Hunk where
  first : Nat
  second : Nat
  dropped : Nat
  added : Nat
  deriving DecidableEq, Repr

def gather : Nat → Nat → Nat → List Bool → List Bool → List Hunk
  | 0, _, _, _, _ => []
  | fuel + 1, i, j, first, second =>
      let dropped := (first.takeWhile id).length
      let added := (second.takeWhile id).length
      if dropped + added = 0 then
        match first, second with
        | _ :: first, _ :: second => gather fuel (i + 1) (j + 1) first second
        | _, _ => []
      else
        ⟨i, j, dropped, added⟩ ::
          gather fuel (i + dropped) (j + added) (first.drop dropped) (second.drop added)

def marksOf (size : Nat) (places : List Nat) : Marks :=
  places.foldl (fun (marks : Marks) (place : Nat) => marks.set place true)
    ⟨(List.replicate size false).toArray⟩

def usedPlaces (aside : List Bool) : List Nat :=
  aside.zipIdx.filterMap fun (hidden, place) => if hidden then none else some place

def hunks (first second : List Nat) : List Hunk :=
  let (asideFirst, asideSecond) := (putAside first second, putAside second first)
  let used (lines : List Nat) (aside : List Bool) : Array Nat :=
    ((lines.zip aside).filterMap fun (line, hidden) => if hidden then none else some line).toArray
  let placesFirst := (usedPlaces asideFirst).toArray
  let placesSecond := (usedPlaces asideSecond).toArray
  let a := used first asideFirst
  let b := used second asideSecond
  let (dropped, added) := changes a b (a.size + b.size + 1) ⟨0, a.size, 0, b.size⟩
  let hidden (aside : List Bool) : List Nat :=
    aside.zipIdx.filterMap fun (hidden, place) => if hidden then some place else none
  let marksFirst := marksOf first.length
    (hidden asideFirst ++ dropped.filterMap fun place => placesFirst[place]?)
  let marksSecond := marksOf second.length
    (hidden asideSecond ++ added.filterMap fun place => placesSecond[place]?)
  let size := first.length + second.length + 2
  let marksFirst := shiftRuns first.toArray marksSecond size size 0 0 marksFirst
  let marksSecond := shiftRuns second.toArray marksFirst size size 0 0 marksSecond
  gather (size + 1) 0 0 marksFirst.flags.toList marksSecond.flags.toList

end ArtifactPipeline.Text.EditScript
