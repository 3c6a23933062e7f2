import ArtifactPipeline.Path.Basic

set_option autoImplicit false

namespace ArtifactPipeline

/-- A path with dots and, where a name stands before them, double dots worked out. The steps below
the starting point are names, or double dots that lead out of it. -/
structure Location where
  rooted : Bool
  steps : List (List Char)
  deriving DecidableEq, Repr, Inhabited

namespace Location

def up : List Char := ['.', '.']

def here : Location := ⟨false, []⟩

def step (loc : Location) : Path.Component → Location
  | .root => ⟨true, []⟩
  | .current => loc
  | .name text => ⟨loc.rooted, loc.steps ++ [text]⟩
  | .parent =>
      match loc.steps.getLast? with
      | some last =>
          if last = up then ⟨loc.rooted, loc.steps ++ [up]⟩ else ⟨loc.rooted, loc.steps.dropLast⟩
      | none => ⟨loc.rooted, [up]⟩

def walk (loc : Location) (components : List Path.Component) : Location :=
  components.foldl step loc

def ofPath (path : Path) : Location :=
  here.walk path.components

def text (loc : Location) : List Char :=
  let body := Text.joinWith ['/'] loc.steps
  if loc.rooted then '/' :: body else if loc.steps.isEmpty then ['.'] else body

def toPath (loc : Location) : Path :=
  ⟨String.ofList loc.text⟩

def parent? (loc : Location) : Option Location :=
  if loc.steps.isEmpty then
    if loc.rooted then none else some here
  else some ⟨loc.rooted, loc.steps.dropLast⟩

def name? (loc : Location) : Option (List Char) :=
  match loc.steps.getLast? with
  | some last => if last = up then none else some last
  | none => none

def linkTarget (loc : Location) (target : Path) : Location :=
  if target.isAbsolute then ofPath target
  else
    match loc.parent? with
    | some dir => dir.walk target.components
    | none => ofPath target

@[simp] theorem walk_nil (loc : Location) : loc.walk [] = loc := rfl

@[simp] theorem walk_cons (loc : Location) (c : Path.Component) (cs : List Path.Component) :
    loc.walk (c :: cs) = (loc.step c).walk cs := rfl

theorem walk_append (loc : Location) (as bs : List Path.Component) :
    loc.walk (as ++ bs) = (loc.walk as).walk bs := by
  simp [walk]

end Location

end ArtifactPipeline
