import ArtifactPipeline.Text.Utf8

set_option autoImplicit false

namespace ArtifactPipeline.LineFields

open Text (Octets)

def isBlank (c : Char) : Bool :=
  c == ' ' || c == '\t' || c == '\n'

def isMark (separators : Octets) (c : Char × Bool) : Bool :=
  !c.2 && separators.contains c.1 && !isBlank c.1

def isGap (separators : Octets) (c : Char × Bool) : Bool :=
  !c.2 && separators.contains c.1 && isBlank c.1

def firstField (separators : Octets) (line : List (Char × Bool)) :
    List (Char × Bool) × List (Char × Bool) :=
  let ends (c : Char × Bool) : Bool := !c.2 && separators.contains c.1
  let field := line.takeWhile fun c => !ends c
  let rest := (line.drop field.length).dropWhile (isGap separators)
  match rest with
  | c :: more =>
      if isMark separators c then (field, more.dropWhile (isGap separators)) else (field, rest)
  | [] => (field, [])

def lastField (separators : Octets) (line : List (Char × Bool)) : Octets :=
  let (field, rest) := firstField separators line
  let kept :=
    if rest.isEmpty then field
    else (line.reverse.dropWhile (isGap separators)).reverse
  kept.map (·.1)

end ArtifactPipeline.LineFields
