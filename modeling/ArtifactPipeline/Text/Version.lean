import ArtifactPipeline.Text.Utf8

set_option autoImplicit false

namespace ArtifactPipeline.Text.Version

def rank : Octets → Int
  | [] => -1
  | c :: _ =>
      if c.isDigit then 0
      else if c.isAlpha then c.toNat
      else if c == '~' then -2
      else (c.toNat : Int) + 256

def startsWithText : Octets → Bool
  | c :: _ => !c.isDigit
  | [] => false

def startsWithDigit : Octets → Bool
  | c :: _ => c.isDigit
  | [] => false

def compareTexts : Nat → Octets → Octets → Except Ordering (Octets × Octets)
  | 0, a, b => .ok (a, b)
  | fuel + 1, a, b =>
      if startsWithText a || startsWithText b then
        if rank a = rank b then compareTexts fuel (a.drop 1) (b.drop 1)
        else .error (compare (rank a) (rank b))
      else .ok (a, b)

def compareNumbers : Ordering → Octets → Octets → Except Ordering (Octets × Octets)
  | first, c :: a, d :: b =>
      if c.isDigit && d.isDigit then
        compareNumbers (if first = .eq then compare c.toNat d.toNat else first) a b
      else if c.isDigit then .error .gt
      else if d.isDigit then .error .lt
      else if first = .eq then .ok (c :: a, d :: b)
      else .error first
  | first, a, b =>
      if startsWithDigit a then .error .gt
      else if startsWithDigit b then .error .lt
      else if first = .eq then .ok (a, b)
      else .error first

def compareParts : Nat → Octets → Octets → Ordering
  | 0, _, _ => .eq
  | fuel + 1, a, b =>
      if a.isEmpty && b.isEmpty then .eq
      else
        match compareTexts (a.length + b.length + 1) a b with
        | .error order => order
        | .ok (a, b) =>
            match compareNumbers .eq (a.dropWhile (· == '0')) (b.dropWhile (· == '0')) with
            | .error order => order
            | .ok (a, b) => compareParts fuel a b

def compareAll (a b : Octets) : Ordering :=
  compareParts (a.length + b.length + 1) a b

def behindEndings : Nat → Octets → Octets
  | 0, text => text
  | fuel + 1, text =>
      match text with
      | '.' :: c :: rest =>
          if c.isAlpha || c == '~' then
            behindEndings fuel (rest.dropWhile fun d => d.isAlphanum || d == '~')
          else text
      | text => text

def stemLength : Nat → Nat → Octets → Nat
  | 0, size, _ => size
  | _ + 1, size, [] => size
  | fuel + 1, size, _ :: rest =>
      -- The characters up to here belong to the stem if there is more to come.
      let behind := behindEndings rest.length rest
      let size := size + 1
      if behind.isEmpty then size
      else stemLength fuel (size + (rest.length - behind.length)) behind

def compareNames (a b : Octets) : Ordering :=
  let special (name : Octets) : Nat :=
    if name.isEmpty then 0
    else if name = ['.'] then 1
    else if name = ['.', '.'] then 2
    else if name.head? = some '.' then 3
    else 4
  match compare (special a) (special b) with
  | .eq =>
      if special a < 3 then .eq
      else
        let stem (name : Octets) : Octets := name.take (stemLength (name.length + 1) 0 name)
        match compareAll (stem a) (stem b) with
        | .eq => compareAll a b
        | order => order
  | order => order

end ArtifactPipeline.Text.Version
