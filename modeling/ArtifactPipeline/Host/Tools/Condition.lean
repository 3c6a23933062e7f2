import ArtifactPipeline.Host.Tools.Call

set_option autoImplicit false

namespace ArtifactPipeline.Tools.Condition

open Text (Octets)

inductive Operator where
  | unary
  | binary
  | negation
  | conjunction
  | disjunction
  | opening
  | closing
  deriving DecidableEq, Repr

def operator? (text : Octets) : Option Operator :=
  match text with
  | ['!'] => some .negation
  | ['('] => some .opening
  | [')'] => some .closing
  | ['-', 'a'] => some .conjunction
  | ['-', 'o'] => some .disjunction
  | ['='] | ['!', '='] | ['<'] | ['>'] => some .binary
  | ['-', c] => if "bcdefghkLnprsStuwxzOG".toList.contains c then some .unary else none
  | _ =>
      if ["-eq", "-ne", "-gt", "-ge", "-lt", "-le", "-nt", "-ot", "-ef"].contains
        (String.ofList text) then some .binary
      else none

def isOperand : List Octets → Bool
  | [] | [_] => true
  | [_, _] => false
  | _ :: next :: _ => operator? next == some .binary

def nextOperator (words : List Octets) : Option Operator :=
  match words with
  | [] => none
  | word :: rest =>
      match operator? word with
      | some .unary => if isOperand words then none else some .unary
      | some .opening => if rest.isEmpty then none else some .opening
      | operator => operator

def number (text : Octets) : Except String Int :=
  let isSpace (c : Char) := c == ' ' || (9 ≤ c.toNat && c.toNat ≤ 13)
  let trimmed := ((text.dropWhile isSpace).reverse.dropWhile isSpace).reverse
  let illegal := "Illegal number: " ++ Text.ofOctets text
  match integer? trimmed with
  | some n =>
      if -9223372036854775808 ≤ n && n ≤ 9223372036854775807 then .ok n else .error illegal
  | none => .error illegal

def fileTest (scene : Scene) (letter : Char) (path : Octets) : Bool :=
  if letter == 'h' || letter == 'L' then
    match scene.lstat path with
    | .ok ⟨_, _, .link _ _⟩ => true
    | _ => false
  else
    match scene.stat path with
    | .error _ => false
    | .ok entry =>
        match letter, entry.node with
        | 'e', _ | 'r', _ | 'w', _ | 'O', _ | 'G', _ => true
        | 'f', .file _ _ _ | 'f', .tool _ => true
        | 'd', .dir _ _ => true
        | 'c', .device _ => true
        | 'p', .fifo _ _ => true
        | 's', .file content _ _ => !content.isEmpty
        | 's', .dir _ _ | 's', .tool _ => true
        | 'x', .dir _ _ => true
        | 'x', node => HostDisk.isExecutable (HostDisk.modeOf node)
        | 'u', node => HostDisk.modeOf node &&& 0o4000 != 0
        | 'g', node => HostDisk.modeOf node &&& 0o2000 != 0
        | 'k', node => HostDisk.modeOf node &&& 0o1000 != 0
        | _, _ => false

def unaryTest (scene : Scene) (operator operand : Octets) : Except String Bool :=
  match operator with
  | ['-', 'n'] => .ok !operand.isEmpty
  | ['-', 'z'] => .ok operand.isEmpty
  | ['-', 't'] => (number operand).map fun _ => false
  | ['-', letter] => .ok (fileTest scene letter operand)
  | _ => .ok false

def binaryTest (scene : Scene) (first operator second : Octets) : Except String Bool := do
  let text (a : Octets) : String := String.ofList a
  let time (path : Octets) : Option Nat :=
    match scene.stat path with
    | .ok entry => some (HostDisk.mtimeOf entry.node)
    | .error _ => none
  match String.ofList operator with
  | "=" => return first == second
  | "!=" => return first != second
  | "<" => return text first < text second
  | ">" => return text second < text first
  | "-eq" => return (← number first) == (← number second)
  | "-ne" => return (← number first) != (← number second)
  | "-gt" => return decide ((← number second) < (← number first))
  | "-ge" => return decide ((← number second) ≤ (← number first))
  | "-lt" => return decide ((← number first) < (← number second))
  | "-le" => return decide ((← number first) ≤ (← number second))
  | "-nt" =>
      match time first, time second with
      | some a, some b => return b < a
      | _, _ => return false
  | "-ot" =>
      match time first, time second with
      | some a, some b => return a < b
      | _, _ => return false
  | _ =>
      match scene.stat first, scene.stat second with
      | .ok a, .ok b => return a.spot == b.spot || (a.id == b.id && a.id != 0)
      | _, _ => return false

inductive Level where
  | disjunction
  | conjunction
  | negation
  | primary
  deriving DecidableEq

def read (scene : Scene) : Nat → Level → List Octets → Except String (Bool × List Octets)
  | 0, _, _ => .error "too long"
  | fuel + 1, .disjunction, words => do
      let (first, left) ← read scene fuel .conjunction words
      match nextOperator (left.drop 1) with
      | some .disjunction =>
          let (second, left) ← read scene fuel .disjunction (left.drop 2)
          return (first || second, left)
      | _ => return (first, left)
  | fuel + 1, .conjunction, words => do
      let (first, left) ← read scene fuel .negation words
      match nextOperator (left.drop 1) with
      | some .conjunction =>
          let (second, left) ← read scene fuel .conjunction (left.drop 2)
          return (first && second, left)
      | _ => return (first, left)
  | fuel + 1, .negation, words => do
      match nextOperator words with
      | some .negation =>
          if (words.drop 1).isEmpty then return (true, words)
          else
            let (value, left) ← read scene fuel .negation (words.drop 1)
            return (!value, left)
      | _ => read scene fuel .primary words
  | fuel + 1, .primary, words => do
      match words with
      | [] => return (false, [])
      | word :: rest =>
          match nextOperator words with
          | some .opening =>
              if nextOperator rest == some .closing then return (false, rest)
              else
                let (value, left) ← read scene fuel .disjunction rest
                match left.drop 1 with
                | [')'] :: after => return (value, [')'] :: after)
                | _ => throw "closing paren expected"
          | some .unary =>
              match rest with
              | operand :: _ => return (← unaryTest scene word operand, rest)
              | [] => throw (Text.ofOctets word ++ ": argument expected")
          | _ =>
              match rest with
              | operator :: after =>
                  if nextOperator rest == some .binary then
                    match after with
                    | second :: _ => return (← binaryTest scene word operator second, after)
                    | [] => throw (Text.ofOctets operator ++ ": argument expected")
                  else return (!word.isEmpty, words)
              | [] => return (!word.isEmpty, words)

def general (scene : Scene) (words : List Octets) : Except String Bool := do
  let (value, left) ← read scene (4 * words.length + 8) .disjunction words
  match left with
  | word :: _ :: _ => throw (Text.ofOctets word ++ ": unexpected operator")
  | _ => return value

/-- Decides a condition. Three or four words have rules of their own: an operator in the middle comes
first, then parentheses or an exclamation mark around the rest. -/
def decideFrom (scene : Scene) : Nat → List Octets → Except String Bool
  | 0, words => general scene words
  | fuel + 1, words =>
      let around : Except String Bool :=
        match words with
        | ['('] :: rest =>
            if rest.getLast? = some [')'] then general scene rest.dropLast else general scene words
        | ['!'] :: rest => (decideFrom scene fuel rest).map not
        | words => general scene words
      match words with
      | [] => .ok false
      | [first, operator, second] =>
          if operator? operator == some .binary then binaryTest scene first operator second
          else around
      | [_, _, _, _] => around
      | words => general scene words

def evaluate (scene : Scene) (words : List Octets) : Except String Bool :=
  decideFrom scene (words.length + 1) words

end ArtifactPipeline.Tools.Condition

namespace ArtifactPipeline.Tools

open Text (Octets)

def test : Tool := fun call => do
  let bracket := call.name.getLast? == some '['
  let words := if bracket then call.args.dropLast else call.args
  if bracket && call.args.getLast? != some [']'] then
    complain call.name "missing ]"
    return 2
  else
    match ← Chore.look fun scene => Condition.evaluate scene words with
    | .ok true => return 0
    | .ok false => return 1
    | .error message => do
        complain call.name message
        return 2

end ArtifactPipeline.Tools
