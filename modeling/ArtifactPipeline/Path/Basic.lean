import ArtifactPipeline.Text.Basic

set_option autoImplicit false

namespace ArtifactPipeline

/-- A file path as it was written. Two spellings of one path are told apart by the structure's
equality and identified by `Path.same`. -/
structure Path where
  text : String
  deriving DecidableEq, Repr, Inhabited

namespace Path

inductive Component where
  | root
  | current
  | parent
  | name (text : List Char)
  deriving DecidableEq, Repr

def Component.text : Component → List Char
  | .root => ['/']
  | .current => ['.']
  | .parent => ['.', '.']
  | .name text => text

def Component.ofSegment (segment : List Char) : Component :=
  if segment = ['.', '.'] then .parent else .name segment

def isIdle (segment : List Char) : Bool :=
  segment.isEmpty || segment == ['.']

def steps (segments : List (List Char)) : List Component :=
  (segments.filter fun segment => !isIdle segment).map Component.ofSegment

def componentsOf (text : List Char) : List Component :=
  match text with
  | [] => []
  | '/' :: rest => .root :: steps (Text.splitOn '/' rest)
  | _ =>
      match Text.splitOn '/' text with
      | ['.'] :: rest => .current :: steps rest
      | segments => steps segments

def components (path : Path) : List Component :=
  componentsOf path.text.toList

def isAbsoluteText : List Char → Bool
  | '/' :: _ => true
  | _ => false

def isAbsolute (path : Path) : Bool :=
  isAbsoluteText path.text.toList

def same (a b : Path) : Bool :=
  a.components == b.components

def joinText (base name : List Char) : List Char :=
  if isAbsoluteText name then name
  else if base.isEmpty || base.getLast? == some '/' then base ++ name
  else base ++ '/' :: name

def join (base name : Path) : Path :=
  ⟨String.ofList (joinText base.text.toList name.text.toList)⟩

-- Segments are listed last first; the first segment of the path stays.
def dropIdle : List (List Char) → List (List Char)
  | segment :: next :: rest =>
      if isIdle segment then dropIdle (next :: rest) else segment :: next :: rest
  | segments => segments

def parent? (path : Path) : Option Path :=
  match path.components.getLast? with
  | none | some .root => none
  | some _ =>
      match dropIdle (Text.splitOn '/' path.text.toList).reverse with
      | _ :: rest =>
          let kept := (dropIdle rest).reverse
          let text := Text.joinWith ['/'] kept
          some ⟨String.ofList (if text.isEmpty && path.isAbsolute then ['/'] else text)⟩
      | [] => none

def Component.rank : Component → Nat
  | .root => 0
  | .current => 1
  | .parent => 2
  | .name _ => 3

def Component.compare : Component → Component → Ordering
  | .name a, .name b =>
      if a < b then .lt else if a = b then .eq else .gt
  | a, b => Ord.compare a.rank b.rank

def compareComponents : List Component → List Component → Ordering
  | [], [] => .eq
  | [], _ :: _ => .lt
  | _ :: _, [] => .gt
  | a :: as, b :: bs =>
      match a.compare b with
      | .eq => compareComponents as bs
      | order => order

def le (a b : Path) : Bool :=
  compareComponents a.components b.components != .gt

def sort (paths : List Path) : List Path :=
  paths.mergeSort le

@[simp] theorem same_refl (path : Path) : same path path = true := by
  simp [same]

theorem same_comm (a b : Path) : same a b = same b a := by
  simp [same, Bool.beq_comm]

theorem same_trans {a b c : Path} (hab : same a b = true) (hbc : same b c = true) :
    same a c = true := by
  simp_all [same]

end Path

end ArtifactPipeline
