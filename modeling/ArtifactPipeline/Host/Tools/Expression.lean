import ArtifactPipeline.Host.Regex.Reader
import ArtifactPipeline.Host.Tools.Call

set_option autoImplicit false

namespace ArtifactPipeline.Tools

open Text (Octets)

namespace Expr

def levels : List (List String) :=
  [["|"], ["&"], ["<", "<=", "=", "==", "!=", ">=", ">"], ["+", "-"], ["*", "/", "%"], [":"]]

def isTrue (text : Octets) : Bool :=
  let digits := if text.head? = some '-' then text.drop 1 else text
  !text.isEmpty && (digits.isEmpty || digits.any fun c => c != '0')

def ofBool (b : Bool) : Octets :=
  if b then ['1'] else ['0']

def intText (n : Int) : Octets :=
  if n < 0 then '-' :: decimal n.natAbs else decimal n.natAbs

def operand? (text : Octets) : Option Int :=
  if text.head? = some '+' then none else integer? text

def matchStart (text pattern : Octets) : Except String Octets :=
  match Finder.read {} pattern with
  | .error fault => .error fault.message
  | .ok finder =>
      let grouped := Text.occursIn ['\\', '('] pattern
      match finder.matchAt (Regex.Spot.ofText text) with
      | some ending =>
          .ok (if grouped then (ending.groups.lookup 1).getD [] else decimal ending.place)
      | none => .ok (if grouped then [] else ['0'])

def apply (operator : String) (a b : Octets) : Except String Octets :=
  let compared (test : Ordering → Bool) : Except String Octets :=
    match operand? a, operand? b with
    | some m, some n => .ok (ofBool (test (compare m n)))
    | _, _ => .ok (ofBool (test (compare (String.ofList a) (String.ofList b))))
  let computed (f : Int → Int → Except String Int) : Except String Octets :=
    match operand? a, operand? b with
    | some m, some n => (f m n).map intText
    | _, _ => .error "non-integer argument"
  match operator with
  | "|" => .ok (if isTrue a then a else if isTrue b then b else ['0'])
  | "&" => .ok (if isTrue a && isTrue b then a else ['0'])
  | "<" => compared (· == .lt)
  | "<=" => compared (· != .gt)
  | "=" | "==" => compared (· == .eq)
  | "!=" => compared (· != .eq)
  | ">=" => compared (· != .lt)
  | ">" => compared (· == .gt)
  | "+" => computed fun m n => .ok (m + n)
  | "-" => computed fun m n => .ok (m - n)
  | "*" => computed fun m n => .ok (m * n)
  | "/" => computed fun m n => if n = 0 then .error "division by zero" else .ok (Int.tdiv m n)
  | "%" => computed fun m n => if n = 0 then .error "division by zero" else .ok (Int.tmod m n)
  | _ => matchStart a b

structure Words where
  before : Octets := []
  rest : List Octets

abbrev Reading := StateT Words (Except String)

namespace Reading

def word : Reading Octets := do
  let words ← get
  match words.rest with
  | [] => throw ("syntax error: missing argument after " ++ inQuotes words.before)
  | word :: rest => do
      set { before := word, rest : Words }
      return word

def takes (wanted : String) : Reading Bool := do
  match (← get).rest with
  | word :: rest =>
      if word = wanted.toList then
        set { before := word, rest : Words }
        return true
      else return false
  | [] => return false

def takesOne : List String → Reading (Option String)
  | [] => return none
  | wanted :: others => do
      if ← takes wanted then return some wanted else takesOne others

end Reading

def partOf (text start size : Octets) : Octets :=
  match operand? start, operand? size with
  | some a, some n => if a ≤ 0 || n ≤ 0 then [] else (text.drop (a.toNat - 1)).take n.toNat
  | _, _ => []

open Reading in
def value : Nat → Bool → Nat → Reading Octets
  | 0, _, _ => throw "syntax error"
  | fuel + 1, live, level =>
      match levels[level]? with
      | some operators => do
          let first ← value fuel live (level + 1)
          operands fuel live level operators first
      | none => do
          match ← takesOne ["+", "length", "match", "index", "substr", "(", ")"] with
          | some "+" => word
          | some "length" => return decimal (← value fuel live level).length
          | some "match" => do
              let text ← value fuel live level
              let pattern ← value fuel live level
              if live then matchStart text pattern else return text
          | some "index" => do
              let text ← value fuel live level
              let chars ← value fuel live level
              let place := (text.takeWhile fun c => !chars.contains c).length
              return if place = text.length then ['0'] else decimal (place + 1)
          | some "substr" => do
              let text ← value fuel live level
              let start ← value fuel live level
              return partOf text start (← value fuel live level)
          | some "(" => do
              let result ← value fuel live 0
              if ← takes ")" then return result
              else
                match ← get with
                | ⟨before, []⟩ => throw ("syntax error: expecting ')' after " ++ inQuotes before)
                | ⟨_, next :: _⟩ =>
                    throw ("syntax error: expecting ')' instead of " ++ inQuotes next)
          | some _ => throw "syntax error: unexpected ')'"
          | none => word
where
  operands (fuel : Nat) (live : Bool) (level : Nat) (operators : List String)
      (first : Octets) : Reading Octets :=
    match fuel with
    | 0 => throw "syntax error"
    | fuel + 1 => do
        match ← takesOne operators with
        | none => return first
        | some operator => do
            let needed := match operator with
              | "|" => !isTrue first
              | "&" => isTrue first
              | _ => true
            let second ← value fuel (live && needed) (level + 1)
            let result ← if live then apply operator first second else pure first
            operands fuel live level operators result

end Expr

def expr : Tool := fun call =>
  let words := match call.args with
    | ['-', '-'] :: rest => rest
    | words => words
  if words.isEmpty then misuse call.name "missing operand" 2
  else
    match (Expr.value (16 * words.length + 32) true 0).run { rest := words } with
    | .ok (result, { rest := [], .. }) =>
        finish call (result ++ ['\n']) (if Expr.isTrue result then 0 else 1)
    | .ok (_, { rest := word :: _, .. }) => do
        complain call.name ("syntax error: unexpected argument " ++ inQuotes word)
        return 2
    | .error message => do
        complain call.name message
        return 2

end ArtifactPipeline.Tools
