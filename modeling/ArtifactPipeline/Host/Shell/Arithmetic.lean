import ArtifactPipeline.Host.Shell.Syntax
import ArtifactPipeline.Text.Basic

set_option autoImplicit false

namespace ArtifactPipeline.Shell.Arithmetic

open Text (Octets)

inductive Token where
  | number (value : Int)
  | name (name : Octets)
  | sign (text : String)
  | stray
  deriving DecidableEq, Repr

inductive Fault where
  | expecting (what : String)
  | divisionByZero
  | overflow
  | illegalNumber (text : Octets)
  deriving DecidableEq, Repr

def wrap (value : Int) : Int :=
  let half : Int := 9223372036854775808
  (value + half) % (2 * half) - half

def largest : Int := 9223372036854775807

def radixValue (radix : Nat) (digits : Octets) : Nat :=
  digits.foldl (fun value c => radix * value + (Text.hexValue? c).getD 0) 0

def natural (text : Octets) : Nat × Octets :=
  let isHex (c : Char) : Bool := (Text.hexValue? c).isSome
  match text with
  | '0' :: x :: rest =>
      let digits := rest.takeWhile isHex
      if (x == 'x' || x == 'X') && !digits.isEmpty then
        (radixValue 16 digits, rest.drop digits.length)
      else
        let digits := (x :: rest).takeWhile fun c => '0' ≤ c && c ≤ '7'
        (radixValue 8 digits, (x :: rest).drop digits.length)
  | text =>
      let digits := text.takeWhile Char.isDigit
      (radixValue 10 digits, text.drop digits.length)

def number (text : Octets) : Int × Octets :=
  let (value, rest) := natural text
  (min (value : Int) largest, rest)

def isBlank (c : Char) : Bool :=
  c == ' ' || (9 ≤ c.toNat && c.toNat ≤ 13)

def value? (text : Octets) : Option Int :=
  match text.dropWhile isBlank with
  | [] => some 0
  | c :: rest =>
      let negative := c == '-'
      let digits := if c == '-' || c == '+' then rest else c :: rest
      match digits with
      | d :: _ =>
          if !d.isDigit then none
          else
            let (n, after) := natural digits
            let value : Int := if negative then -n else n
            if after.all isBlank && value ≤ largest && -largest - 1 ≤ value then some value
            else none
      | [] => none

def signs : List String :=
  ["<<=", ">>=", "<<", ">>", "<=", ">=", "==", "!=", "&&", "||", "+=", "-=", "*=", "/=", "%=", "&=",
    "^=", "|=", "+", "-", "*", "/", "%", "<", ">", "!", "~", "&", "^", "|", "?", ":", "(", ")", "="]

def tokens : Nat → Octets → List Token
  | 0, _ => []
  | _ + 1, [] => []
  | fuel + 1, c :: rest =>
      if isBlank c then tokens fuel rest
      else if c.isDigit then
        let (value, after) := number (c :: rest)
        .number value :: tokens fuel after
      else if isNameStart c then
        let name := (c :: rest).takeWhile isNameChar
        .name name :: tokens fuel ((c :: rest).drop name.length)
      else
        match signs.find? fun sign => sign.toList.isPrefixOf (c :: rest) with
        | some sign => .sign sign :: tokens fuel ((c :: rest).drop sign.length)
        | none => [.stray]

def rank? : String → Option Nat
  | "||" => some 1
  | "&&" => some 2
  | "|" => some 3
  | "^" => some 4
  | "&" => some 5
  | "==" | "!=" => some 6
  | "<" | ">" | "<=" | ">=" => some 7
  | "<<" | ">>" => some 8
  | "+" | "-" => some 9
  | "*" | "/" | "%" => some 10
  | _ => none

def assigned? : String → Option (Option String)
  | "=" => some none
  | "+=" => some (some "+")
  | "-=" => some (some "-")
  | "*=" => some (some "*")
  | "/=" => some (some "/")
  | "%=" => some (some "%")
  | "<<=" => some (some "<<")
  | ">>=" => some (some ">>")
  | "&=" => some (some "&")
  | "^=" => some (some "^")
  | "|=" => some (some "|")
  | _ => none

def ofBool (b : Bool) : Int :=
  if b then 1 else 0

def bits (value : Int) : Nat :=
  (value % 18446744073709551616).toNat

def ofBits (value : Nat) : Int :=
  wrap value

def apply (sign : String) (a b : Int) : Except Fault Int :=
  match sign with
  | "|" => .ok (ofBits (bits a ||| bits b))
  | "^" => .ok (ofBits (bits a ^^^ bits b))
  | "&" => .ok (ofBits (bits a &&& bits b))
  | "==" => .ok (ofBool (a == b))
  | "!=" => .ok (ofBool (a != b))
  | "<" => .ok (ofBool (a < b))
  | ">" => .ok (ofBool (b < a))
  | "<=" => .ok (ofBool (a ≤ b))
  | ">=" => .ok (ofBool (b ≤ a))
  | "<<" => .ok (wrap (a * (Nat.pow 2 (bits b % 64) : Nat)))
  | ">>" => .ok (Int.fdiv a (Nat.pow 2 (bits b % 64) : Nat))
  | "+" => .ok (wrap (a + b))
  | "-" => .ok (wrap (a - b))
  | "*" => .ok (wrap (a * b))
  | "/" | "%" =>
      if b = 0 then .error .divisionByZero
      else if b = -1 && a = -largest - 1 then .error .overflow
      else .ok (if sign = "/" then Int.tdiv a b else Int.tmod a b)
  | _ => .error (.expecting "EOF")

structure State where
  tokens : List Token
  vars : List (Octets × Octets)

abbrev Eval := StateT State (Except Fault)

def peek : Eval (Option Token) := do
  return (← get).tokens.head?

def skip : Eval Unit :=
  modify fun state => { state with tokens := state.tokens.drop 1 }

def expect (sign : String) : Eval Unit := do
  if (← peek) = some (.sign sign) then skip else throw (.expecting ("'" ++ sign ++ "'"))

def held (name : Octets) : Eval Int := do
  let text := ((← get).vars.lookup name).getD []
  match value? text with
  | some value => return value
  | none => throw (.illegalNumber text)

def intText (value : Int) : Octets :=
  (toString value).toList

def assign (name : Octets) (value : Int) : Eval Unit :=
  modify fun state => { state with vars := (name, intText value) :: state.vars }

inductive Level where
  | assignment
  | condition
  | binary (rank : Nat)
  | primary
  deriving DecidableEq

def value : Nat → Level → Bool → Eval Int
  | 0, _, _ => throw (.expecting "primary")
  | fuel + 1, .assignment, live => do
      match (← get).tokens with
      | .name name :: .sign sign :: rest =>
          match assigned? sign with
          | some operator =>
              modify fun state => { state with tokens := rest }
              let right ← value fuel .assignment live
              match operator with
              | none =>
                  if live then assign name right
                  return right
              | some operator =>
                  if live then
                    let result ← liftM (apply operator (← held name) right)
                    assign name result
                    return result
                  else return right
          | none => value fuel .condition live
      | _ => value fuel .condition live
  | fuel + 1, .condition, live => do
      let test ← value fuel (.binary 1) live
      if (← peek) = some (.sign "?") then
        skip
        let first ← value fuel .assignment (live && test != 0)
        expect ":"
        let second ← value fuel .condition (live && test == 0)
        return if test != 0 then first else second
      else return test
  | fuel + 1, .binary rank, live =>
      if 10 < rank then value fuel .primary live
      else do
        let first ← value fuel (.binary (rank + 1)) live
        operands fuel rank live first
  | fuel + 1, .primary, live => do
      match ← peek with
      | some (.number n) =>
          skip
          return n
      | some (.name name) =>
          skip
          if live then held name else return 0
      | some (.sign "(") =>
          skip
          let inner ← value fuel .assignment live
          expect ")"
          return inner
      | some (.sign "-") =>
          skip
          return wrap (-(← value fuel .primary live))
      | some (.sign "+") =>
          skip
          value fuel .primary live
      | some (.sign "!") =>
          skip
          return ofBool ((← value fuel .primary live) == 0)
      | some (.sign "~") =>
          skip
          return -(← value fuel .primary live) - 1
      | _ => throw (.expecting "primary")
where
  operands (fuel : Nat) (rank : Nat) (live : Bool) (first : Int) : Eval Int := do
    match fuel with
    | 0 => throw (.expecting "EOF")
    | fuel + 1 =>
        match ← peek with
        | some (.sign sign) =>
            if rank? sign = some rank then
              skip
              let live' := live && (sign != "&&" || first != 0) && (sign != "||" || first == 0)
              let second ← value fuel (.binary (rank + 1)) live'
              let result ←
                if sign = "&&" then pure (ofBool (first != 0 && second != 0))
                else if sign = "||" then pure (ofBool (first != 0 || second != 0))
                else if !live && second == 0 && (sign == "/" || sign == "%") then pure 0
                else liftM (apply sign first second)
              operands fuel rank live result
            else return first
        | _ => return first

def evaluate (vars : List (Octets × Octets)) (text : Octets) :
    Except Fault (Int × List (Octets × Octets)) := do
  let tokens := tokens (text.length + 1) text
  let fuel := 20 * (tokens.length + 2)
  let (result, state) ← value fuel .assignment true ⟨tokens, vars⟩
  if state.tokens.isEmpty then return (result, state.vars) else throw (.expecting "EOF")

end ArtifactPipeline.Shell.Arithmetic
