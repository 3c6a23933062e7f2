import ArtifactPipeline.Host.Regex.Reader

set_option autoImplicit false

namespace ArtifactPipeline

open Text (Octets)

structure GlobStyle where
  fold : Bool := false
  extended : Bool := false

namespace Glob

abbrev Letters := List (Char × Bool)

def protect : Letters → Letters
  | ('\\', false) :: (c, _) :: rest => (c, true) :: protect rest
  | letter :: rest => letter :: protect rest
  | [] => []

def ofText (text : Octets) : Letters :=
  protect (text.map fun c => (c, false))

def named? (sign : Char) (letters : Letters) : Option (Octets × Letters) :=
  go [] letters
where
  go : Octets → Letters → Option (Octets × Letters)
    | _, [] => none
    | name, (c, _) :: rest =>
        if c == sign && (rest.head?.map (·.1)) == some ']' then some (name.reverse, rest.drop 1)
        else if c == ']' then none
        else go (c :: name) rest

def item (letters : Letters) : Option ((Char ⊕ (Char → Bool)) × Letters) :=
  match letters with
  | [] => none
  | ('[', false) :: (sign, _) :: rest =>
      let plain := (.inl '[', (sign, false) :: rest)
      if sign == ':' then
        match named? ':' rest with
        | some (name, rest) =>
            some (.inr ((Regex.classTest? (String.ofList name)).getD fun _ => false), rest)
        | none => some plain
      else if sign == '.' || sign == '=' then
        match named? sign rest with
        | some ([c], rest) => some (.inl c, rest)
        | some (_, rest) => some (.inr fun _ => false, rest)
        | none => some plain
      else some plain
  | (c, _) :: rest => some (.inl c, rest)

def tests? : Nat → Bool → List (Char → Bool) → Letters → Option (List (Char → Bool) × Letters)
  | 0, _, _, _ => none
  | fuel + 1, first, tests, letters =>
      match letters, first with
      | (']', false) :: rest, false => some (tests, rest)
      | letters, _ =>
          match item letters with
          | none => none
          | some (.inr test, rest) => tests? fuel false (test :: tests) rest
          | some (.inl c, ('-', false) :: rest) =>
              match rest with
              | (']', false) :: _ =>
                  tests? fuel false ((fun d => d == c) :: tests) (('-', true) :: rest)
              | rest =>
                  match item rest with
                  | some (.inl last, rest) =>
                      tests? fuel false ((fun d => c ≤ d && d ≤ last) :: tests) rest
                  | some (.inr test, rest) => tests? fuel false (test :: tests) rest
                  | none => none
          | some (.inl c, rest) => tests? fuel false ((fun d => d == c) :: tests) rest

def set? (style : GlobStyle) (letters : Letters) : Option (CharSet × Letters) :=
  let (negated, letters) :=
    match letters with
    | ('!', false) :: rest | ('^', false) :: rest => (true, rest)
    | letters => (false, letters)
  (tests? (letters.length + 1) true [] letters).map fun (tests, rest) =>
    let set := CharSet.ofTest fun c => tests.any fun test => test c
    let set := if style.fold then set.folded else set
    (if negated then set.complement else set, rest)

def anything : Regex := .oneOf (CharSet.ofTest fun _ => true)

def alternatives? : Nat → Letters → List Letters → Letters → Option (List Letters × Letters)
  | _, _, _, [] => none
  | depth, current, done, (c, quoted) :: rest =>
      if quoted then alternatives? depth ((c, quoted) :: current) done rest
      else if c == ')' then
        if depth = 0 then some ((current.reverse :: done).reverse, rest)
        else alternatives? (depth - 1) ((c, quoted) :: current) done rest
      else if c == '(' then alternatives? (depth + 1) ((c, quoted) :: current) done rest
      else if c == '|' && depth = 0 then alternatives? depth [] (current.reverse :: done) rest
      else alternatives? depth ((c, quoted) :: current) done rest

def regexFrom (style : GlobStyle) : Nat → Letters → List Regex
  | 0, _ => []
  | fuel + 1, letters =>
      match letters with
      | [] => []
      | (c, quoted) :: rest =>
          let one : Regex := if style.fold then Regex.folded c else .char c
          if quoted then one :: regexFrom style fuel rest
          else
            let group? := if style.extended && "@?*+!".toList.contains c &&
                rest.head? == some ('(', false)
              then alternatives? 0 [] [] (rest.drop 1) else none
            match group? with
            | some (parts, rest) =>
                let bodies := parts.map fun part => Regex.chain (regexFrom style fuel part)
                let body := match bodies with
                  | [] => .empty
                  | first :: others => others.foldl Regex.either first
                let regex : Regex := match c with
                  | '?' => .times 0 (some 1) .most body
                  | '*' => .times 0 none .most body
                  | '+' => .times 1 none .most body
                  | '!' => .unlike body
                  | _ => body
                regex :: regexFrom style fuel rest
            | none =>
                if c == '*' then .times 0 none .most anything :: regexFrom style fuel rest
                else if c == '?' then anything :: regexFrom style fuel rest
                else if c == '[' then
                  match set? style rest with
                  | some (set, rest) => .oneOf set :: regexFrom style fuel rest
                  | none => one :: regexFrom style fuel rest
                else one :: regexFrom style fuel rest

def regex (style : GlobStyle) (letters : Letters) : Regex :=
  Regex.chain (regexFrom style (letters.length + 1) letters)

def fits (regex : Regex) (text : Octets) : Bool :=
  (regex.places { longest := false, exact := false } (Regex.Spot.ofText text)).any fun spot =>
    spot.rest.isEmpty

def textFits (style : GlobStyle) (pattern text : Octets) : Bool :=
  fits (regex style (ofText pattern)) text

end Glob

end ArtifactPipeline
