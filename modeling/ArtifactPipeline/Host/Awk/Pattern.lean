import ArtifactPipeline.Host.Regex.Reader
import ArtifactPipeline.Host.Tools.Printing

set_option autoImplicit false

namespace ArtifactPipeline.Awk

open Text (Octets)

namespace Pattern

inductive Fault where
  | operand
  | closing
  | class'
  | anchor
  deriving DecidableEq, Repr

def Fault.message : Fault → String
  | .operand => "missing operand"
  | .closing => "missing ')'"
  | .class' => "bad class -- [], [^] or ["
  | .anchor => "syntax error ^* or ^+"

def escapedChar (text : Octets) : Char × Octets :=
  match text with
  | [] => ('\\', [])
  | c :: rest =>
      let digits := (text.take 3).takeWhile Tools.isOctal
      if !digits.isEmpty then (Tools.charOf (Tools.octalValue digits), text.drop digits.length)
      else if c == 'x' then
        let digits := (rest.take 2).takeWhile fun c => (Text.hexValue? c).isSome
        if digits.isEmpty then ('x', rest)
        else
          let code := digits.foldl (fun code c => 16 * code + (Text.hexValue? c).getD 0) 0
          (Tools.charOf code, rest.drop digits.length)
      else ((Tools.simpleEscape? c).getD c, rest)

def member (text : Octets) : Except Fault ((Char ⊕ (Char → Bool)) × Octets) :=
  match text with
  | [] => .error .class'
  | '[' :: ':' :: rest =>
      match Regex.named? ':' rest with
      | some (name, rest) =>
          match Regex.classTest? (String.ofList name) with
          | some test => .ok (.inr test, rest)
          | none => .error .class'
      | none => .ok (.inl '[', ':' :: rest)
  | '\\' :: rest =>
      let (c, rest) := escapedChar rest
      .ok (.inl c, rest)
  | c :: rest => .ok (.inl c, rest)

def members : Nat → Bool → List (Char → Bool) → Octets → Except Fault (List (Char → Bool) × Octets)
  | 0, _, _, _ => .error .class'
  | fuel + 1, first, tests, text =>
      match text with
      | [] => .error .class'
      | ']' :: rest =>
          if first then members fuel false ((· == ']') :: tests) rest else .ok (tests, rest)
      | text => do
          let (item, rest) ← member text
          match item, rest with
          | .inr test, rest => members fuel false (test :: tests) rest
          | .inl low, '-' :: next :: rest =>
              if next == ']' then members fuel false ((· == low) :: tests) ('-' :: next :: rest)
              else do
                let (other, rest) ← member (next :: rest)
                match other with
                | .inl high =>
                    let (low, high) := if high < low then (high, low) else (low, high)
                    members fuel false ((fun c => low ≤ c && c ≤ high) :: tests) rest
                | .inr test => members fuel false (test :: (· == '-') :: (· == low) :: tests) rest
          | .inl c, rest => members fuel false ((· == c) :: tests) rest

def set (text : Octets) : Except Fault (CharSet × Octets) := do
  let (negated, body) : Bool × Octets := match text with
    | '^' :: rest => (true, rest)
    | rest => (false, rest)
  let (tests, rest) ← members (body.length + 1) true [] body
  let set := CharSet.ofTest fun c => tests.any fun test => test c
  return (if negated then set.complement else set, rest)

def counts? (text : Octets) : Option ((Nat × Option Nat) × Octets) :=
  let least := text.takeWhile Char.isDigit
  match text.drop least.length with
  | '\x7d' :: rest => (Tools.number? least).map fun n => ((n, some n), rest)
  | ',' :: rest =>
      let most := rest.takeWhile Char.isDigit
      match rest.drop most.length with
      | '\x7d' :: rest =>
          if least.isEmpty && most.isEmpty then none
          else some (((Tools.number? least).getD 0, Tools.number? most), rest)
      | _ => none
  | _ => none

def repeated : Nat → Regex → Octets → Regex × Octets
  | 0, part, text => (part, text)
  | fuel + 1, part, text =>
      match text with
      | '*' :: rest => repeated fuel (.times 0 none .most part) rest
      | '+' :: rest => repeated fuel (.times 1 none .most part) rest
      | '?' :: rest => repeated fuel (.times 0 (some 1) .most part) rest
      | '\x7b' :: rest =>
          match counts? rest with
          | some ((least, most), rest) => repeated fuel (.times least most .most part) rest
          | none => (part, text)
      | text => (part, text)

/-- Reads alternatives at level 0, and the parts of one at level 1. `depth` counts the groups that
are open, and `started` says whether anything has been read. -/
def read : Nat → Nat → Nat → Bool → Octets → Except Fault (Regex × Octets)
  | 0, _, _, _, _ => .error .operand
  | fuel + 1, 0, depth, started, text => do
      let (first, rest) ← read fuel 1 depth started text
      match rest with
      | '|' :: rest => do
          let (second, rest) ← read fuel 0 depth true rest
          return (.either first second, rest)
      | rest => return (first, rest)
  | fuel + 1, _ + 1, depth, started, text =>
      let ends (text : Octets) : Bool :=
        match text with
        | [] | '|' :: _ => true
        | ')' :: _ => 0 < depth
        | _ => false
      let goOn (part : Regex) (rest : Octets) : Except Fault (Regex × Octets) := do
        let (part, rest) := repeated (rest.length + 1) part rest
        if ends rest then return (part, rest)
        else
          let (more, rest) ← read fuel 1 depth true rest
          return (.seq part more, rest)
      match text with
      | [] => .error .operand
      | '|' :: _ => if started && 0 < depth then .ok (.empty, text) else .error .operand
      | '*' :: _ | '+' :: _ | '?' :: _ => .error .operand
      | '(' :: ')' :: rest => if started || !rest.isEmpty then goOn .empty rest else .error .operand
      | '(' :: rest => do
          let (body, rest) ← read fuel 0 (depth + 1) started rest
          match rest with
          | ')' :: rest => goOn body rest
          | _ => .error .closing
      | ')' :: rest => if depth = 0 then goOn (.char ')') rest else .ok (.empty, text)
      | '^' :: rest =>
          match rest with
          | '*' :: _ | '+' :: _ => .error .anchor
          | rest => goOn (.lineStart false) rest
      | '$' :: rest => goOn (.lineEnd false) rest
      | '.' :: rest => goOn (.oneOf (CharSet.ofTest fun _ => true)) rest
      | '[' :: rest => do
          let (set, rest) ← set rest
          goOn (.oneOf set) rest
      | '\\' :: rest =>
          let (c, rest) := escapedChar rest
          goOn (.char c) rest
      | '\x7b' :: rest => if (counts? rest).isSome then .error .operand else goOn (.char '\x7b') rest
      | c :: rest => goOn (.char c) rest

def ofText (text : Octets) : Except Fault Finder :=
  if text.isEmpty then .ok (Finder.ofRegex true .empty)
  else (read (3 * text.length + 3) 0 0 false text).map fun found => Finder.ofRegex true found.1

def complaint (text : Octets) (fault : Fault) : String :=
  "regular expression compile failed (" ++ fault.message ++ ")\n" ++ String.ofList text

end Pattern

end ArtifactPipeline.Awk
