import ArtifactPipeline.Disk.Basic
import ArtifactPipeline.Failure
import ArtifactPipeline.Glob.Match

set_option autoImplicit false

namespace ArtifactPipeline.Glob

def isMeta (c : Char) : Bool :=
  c == '*' || c == '?' || c == '[' || c == '\x7b'

def enterLiteral (base : Path) : List (List Char) → Path
  | [] => base
  | part :: rest =>
      if part.any isMeta then base
      else enterLiteral (base.join ⟨if part.isEmpty then "/" else String.ofList part⟩) rest

/-- The directory that a search for matches starts from. The last component of a pattern is its
file part and never belongs to it. -/
def literalBase (pattern : String) : Path :=
  let base := enterLiteral ⟨""⟩ (Text.splitOn '/' pattern.toList).dropLast
  if base.text.isEmpty then ⟨"."⟩ else base

def matchKey (path : Path) : Bytes :=
  match Text.exchange '\\' '/' path.text.toList with
  | '.' :: '/' :: rest => Text.utf8 (String.ofList rest)
  | text => Text.utf8 (String.ofList text)

structure Walk where
  stack : List Path
  found : List Path

/-- Looks at one entry of a directory. Linked directories are not entered: they may lead back. -/
def lookAt {W : Type} [Disk W] (disk : W) (tokens : List Token) (walk : Walk) (path : Path) :
    Walk :=
  if Disk.isDir disk path then
    if Disk.isLink disk path then walk else { walk with stack := path :: walk.stack }
  else if Disk.isFile disk path && isMatch tokens (matchKey path) then
    { walk with found := walk.found ++ [path] }
  else walk

def collect {W : Type} [Disk W] (disk : W) (tokens : List Token) :
    Nat → Walk → Except DiskFault (List Path)
  | 0, walk => .ok walk.found
  | fuel + 1, walk =>
      match walk.stack with
      | [] => .ok walk.found
      | dir :: stack =>
          match Disk.readDir disk dir with
          | .error fault => .error fault
          | .ok paths =>
              collect disk tokens fuel (paths.foldl (lookAt disk tokens) { walk with stack })

def expand {W : Type} [Disk W] (disk : W) (pattern : String) : Except Failure (List Path) :=
  match compile pattern with
  | .error .malformed => .error (.invalidGlob pattern)
  | .error .tooDeep => .error (.nestedGlob pattern)
  | .ok tokens =>
      let base := literalBase pattern
      if !Disk.isDir disk base then .ok []
      else
        match collect disk tokens (Disk.extent disk + 1) ⟨[base], []⟩ with
        | .error fault => .error (.disk fault)
        | .ok found => .ok (Path.sort found)

end ArtifactPipeline.Glob
