import ArtifactPipeline.Host.Shell.Syntax

set_option autoImplicit false

namespace ArtifactPipeline.Shell

open Text (Octets)

abbrev Field := List (Char × Bool)

def fieldText (field : Field) : Octets :=
  field.map (·.1)

def unescape : Field → Field
  | ('\\', false) :: (c, _) :: rest => (c, true) :: unescape rest
  | item :: rest => item :: unescape rest
  | [] => []

def classNames : List String :=
  ["alnum", "alpha", "blank", "cntrl", "digit", "graph", "lower", "print", "punct", "space", "upper",
    "xdigit"]

def inClass (name : Octets) (c : Char) : Bool :=
  match String.ofList name with
  | "alpha" => c.isAlpha
  | "digit" => c.isDigit
  | "alnum" => c.isAlphanum
  | "upper" => c.isUpper
  | "lower" => c.isLower
  | "space" => c == ' ' || (9 ≤ c.toNat && c.toNat ≤ 13)
  | "blank" => c == ' ' || c == '\t'
  | "punct" => 32 < c.toNat && c.toNat < 127 && !c.isAlphanum
  | "print" => 32 ≤ c.toNat && c.toNat < 127
  | "graph" => 32 < c.toNat && c.toNat < 127
  | "cntrl" => c.toNat < 32 || c.toNat == 127
  | "xdigit" => c.isDigit || ('a' ≤ c && c ≤ 'f') || ('A' ≤ c && c ≤ 'F')
  | _ => false

def className? (field : Field) : Option (Octets × Field) :=
  let name := (field.takeWhile fun item => item.1.isAlpha).map (·.1)
  match field.drop name.length with
  | (':', _) :: (']', _) :: rest =>
      if classNames.contains (String.ofList name) then some (name, rest) else none
  | _ => none

/-- Whether a character is among the members of a set that is open, with what follows the set. The
first member may be a closing bracket. None when the set is not closed. -/
def members (c : Char) : Nat → Bool → Bool → Field → Option (Bool × Field)
  | 0, _, _, _ => none
  | fuel + 1, first, found, field =>
      match field with
      | [] => none
      | (']', false) :: rest =>
          if first then single fuel found ']' rest else some (found, rest)
      | ('[', false) :: (':', q) :: rest =>
          match className? rest with
          | some (name, rest) => members c fuel false (found || inClass name c) rest
          | none => single fuel found '[' ((':', q) :: rest)
      | (low, _) :: rest => single fuel found low rest
termination_by fuel => (fuel, 0)
where
  single (fuel : Nat) (found : Bool) (low : Char) (rest : Field) : Option (Bool × Field) :=
    match rest with
    | ('-', false) :: (high, quoted) :: after =>
        if high = ']' && !quoted then members c fuel false (found || c == low) rest
        else members c fuel false (found || (low ≤ c && c ≤ high)) after
    | rest => members c fuel false (found || c == low) rest
  termination_by (fuel, 1)

def setFits? (c : Char) (field : Field) : Option (Bool × Field) :=
  match field with
  | ('!', false) :: rest => (members c (rest.length + 1) true false rest).map fun (found, rest) =>
      (!found, rest)
  | rest => members c (rest.length + 1) true false rest

def fitsFrom : Nat → Field → Octets → Bool
  | 0, _, _ => false
  | _ + 1, [], text => text.isEmpty
  | fuel + 1, (c, quoted) :: rest, text =>
      if c = '*' && !quoted then
        fitsFrom fuel rest text ||
          (match text with
          | [] => false
          | _ :: more => fitsFrom fuel ((c, quoted) :: rest) more)
      else
        match text with
        | [] => false
        | d :: more =>
            if c = '?' && !quoted then fitsFrom fuel rest more
            else
              match (if c = '[' && !quoted then setFits? d rest else none) with
              | some (fits, rest) => fits && fitsFrom fuel rest more
              | none => c == d && fitsFrom fuel rest more

def fits (pattern : Field) (text : Octets) : Bool :=
  let pattern := unescape pattern
  fitsFrom (pattern.length + text.length + 1) pattern text

def isMagic (field : Field) : Bool :=
  field.any fun (c, quoted) => !quoted && (c == '*' || c == '?' || c == '[')

def dropStart (longest : Bool) (pattern : Field) (text : Octets) : Octets :=
  let sizes := List.range (text.length + 1)
  let sizes := if longest then sizes.reverse else sizes
  match sizes.find? fun size => fits pattern (text.take size) with
  | some size => text.drop size
  | none => text

def dropEnd (longest : Bool) (pattern : Field) (text : Octets) : Octets :=
  let sizes := List.range (text.length + 1)
  let sizes := if longest then sizes else sizes.reverse
  match sizes.find? fun size => fits pattern (text.drop size) with
  | some size => text.take size
  | none => text

def splitField : Field → List Field
  | [] => [[]]
  | (c, quoted) :: rest =>
      if c = '/' then [] :: splitField rest
      else
        match splitField rest with
        | part :: parts => ((c, quoted) :: part) :: parts
        | [] => [[(c, quoted)]]

def namesFor (scene : Scene) (lead : Octets) (part : Field) : List Octets :=
  if isMagic part then
    match scene.stat (if lead.isEmpty then ['.'] else lead) with
    | .ok ⟨spot, _, .dir _ _⟩ =>
        let hidden := (part.head?.map (·.1)) == some '.'
        let names := scene.disk.namesIn spot
        (if hidden then [['.'], ['.', '.']] ++ names else names).filter fun name =>
          (hidden || name.head? != some '.') && fits part name
    | _ => []
  else [fieldText (unescape part)]

def pathsFrom (scene : Scene) : List Octets → List Field → List Octets
  | leads, [] => leads
  | leads, [part] => leads.flatMap fun lead => (namesFor scene lead part).map (lead ++ ·)
  | leads, part :: rest =>
      pathsFrom scene
        (leads.flatMap fun lead => (namesFor scene lead part).map fun name => lead ++ name ++ ['/'])
        rest

def pathsFor (scene : Scene) (field : Field) : List Octets :=
  if isMagic field then
    let found := (pathsFrom scene [[]] (splitField field)).filter fun path =>
      (scene.lstat path).isOk
    if found.isEmpty then [fieldText field] else HostDisk.inOrder found
  else [fieldText field]

end ArtifactPipeline.Shell
