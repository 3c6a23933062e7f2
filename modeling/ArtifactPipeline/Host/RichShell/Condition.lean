import ArtifactPipeline.Host.RichShell.Subshell
import ArtifactPipeline.Host.Tools.Condition

set_option autoImplicit false

namespace ArtifactPipeline.RichShell

open Text (Octets)
open Shell (Field)

namespace Test

abbrev Deciding := ExceptT String Sh

def fail {α : Type} (message : String) : Deciding α := throw message

def lift {α : Type} (body : Sh α) : Deciding α :=
  ExceptT.lift body

def isUnary (word : Octets) : Bool :=
  match word with
  | ['-', c] => "abcdefghknoprstuvwxzGLNORS".toList.contains c
  | _ => false

def isBinary (word : Octets) : Bool :=
  ["=", "==", "!=", "<", ">", "-eq", "-ne", "-lt", "-le", "-gt", "-ge", "-nt", "-ot", "-ef"].contains
    (String.ofList word)

def isSet (reference : Octets) : Sh Bool := do
  match referenceOf? reference with
  | none => do
      match specialValue? (← get) reference with
      | some .unset | none => return false
      | some _ => return isNumber reference
  | some (name, none) => return (← value? name).isSome
  | some (name, some subscript) => do
      match (← seen? name).map (·.held) with
      | none => return false
      | some held =>
          if subscript = ['@'] || subscript = ['*'] then return !held.texts.isEmpty
          else
            match held with
            | .table items _ => return (items.lookup (Arithmetic.keyOf subscript)).isSome
            | held => do
                let items := held.items
                match Arithmetic.indexOf? items (← computed subscript) with
                | some index => return (items.lookup index).isSome
                | none => return false

def unary (operator operand : Octets) : Sh Bool := do
  match operator with
  | ['-', 'n'] => return !operand.isEmpty
  | ['-', 'z'] => return operand.isEmpty
  | ['-', 't'] => return false
  | ['-', 'v'] => isSet operand
  | ['-', 'R'] => do
      return (((← get).stored? operand).map (·.reference)).getD false
  | ['-', 'o'] => do
      let state ← get
      return optionNames.any fun option => option.1.toList = operand && state.optionIsOn option
  | ['-', 'a'] => Sh.scene fun scene => Tools.Condition.fileTest scene 'e' operand
  | ['-', 'N'] => return false
  | ['-', letter] => Sh.scene fun scene => Tools.Condition.fileTest scene letter operand
  | _ => return false

def compare (operator : String) (first second : Int) : Bool :=
  match operator with
  | "-eq" => first == second
  | "-ne" => first != second
  | "-lt" => first < second
  | "-le" => first ≤ second
  | "-gt" => second < first
  | _ => second ≤ first

def isNumeric (operator : String) : Bool :=
  ["-eq", "-ne", "-lt", "-le", "-gt", "-ge"].contains operator

def newer (first second : Octets) (scene : Scene) : Bool :=
  let time (path : Octets) : Option Nat :=
    match scene.stat path with
    | .ok entry => some (HostDisk.mtimeOf entry.node)
    | .error _ => none
  match time first, time second with
  | some a, some b => b < a
  | some _, none => true
  | none, _ => false

def sameFile (first second : Octets) (scene : Scene) : Bool :=
  match scene.stat first, scene.stat second with
  | .ok a, .ok b => a.spot == b.spot || (a.id == b.id && a.id != 0)
  | _, _ => false

def compareTexts (operator : String) (first second : Octets) : Sh Bool := do
  match operator with
  | "!=" => return first != second
  | "<" => return String.ofList first < String.ofList second
  | ">" => return String.ofList second < String.ofList first
  | "-nt" => Sh.scene (newer first second)
  | "-ot" => Sh.scene (newer second first)
  | "-ef" => Sh.scene (sameFile first second)
  | _ => return first == second

def number (text : Octets) : Deciding Int := do
  let isSpace (c : Char) := c == ' ' || (9 ≤ c.toNat && c.toNat ≤ 13)
  let trimmed := ((text.dropWhile isSpace).reverse.dropWhile isSpace).reverse
  match Tools.integer? trimmed with
  | some n =>
      if -9223372036854775808 ≤ n && n ≤ 9223372036854775807 then return n
      else fail (String.ofList text ++ ": integer expression expected")
  | none => fail (String.ofList text ++ ": integer expression expected")

def binary (operator : Octets) (first second : Octets) : Deciding Bool := do
  let operator := String.ofList operator
  if isNumeric operator then return compare operator (← number first) (← number second)
  else lift (compareTexts operator first second)

def missing {α : Type} : Deciding α := fail "argument expected"

mutual

def disjunction (closing : Bool) : Nat → List Octets → Deciding (Bool × List Octets)
  | 0, _ => fail "too long"
  | fuel + 1, words => do
      let (first, rest) ← conjunction closing fuel words
      match rest with
      | ['-', 'o'] :: rest => do
          let (second, rest) ← disjunction closing fuel rest
          return (first || second, rest)
      | rest => return (first, rest)

def conjunction (closing : Bool) : Nat → List Octets → Deciding (Bool × List Octets)
  | 0, _ => fail "too long"
  | fuel + 1, words => do
      let (first, rest) ← primary closing fuel words
      match rest with
      | ['-', 'a'] :: rest => do
          let (second, rest) ← conjunction closing fuel rest
          return (first && second, rest)
      | rest => return (first, rest)

def primary (closing : Bool) : Nat → List Octets → Deciding (Bool × List Octets)
  | 0, _ => fail "too long"
  | fuel + 1, words => do
      match words with
      | [] => missing
      | ['!'] :: rest => do
          if rest.isEmpty then missing
          let (value, rest) ← primary closing fuel rest
          return (!value, rest)
      | ['('] :: rest => do
          if rest.isEmpty then missing
          let (value, rest) ← disjunction closing fuel rest
          match rest with
          | [')'] :: rest => return (value, rest)
          | word :: _ => fail ("\x60)' expected, found " ++ String.ofList word)
          | [] => fail (if closing then "\x60)' expected, found ]" else "\x60)' expected")
      | word :: rest =>
          match rest with
          | operator :: second :: after =>
              if isBinary operator then return (← binary operator word second, after)
              else simple word rest
          | rest => simple word rest

def simple (word : Octets) (rest : List Octets) : Deciding (Bool × List Octets) := do
  match rest with
  | operand :: after =>
      if word = ['-', 't'] then
        if (Tools.integer? operand).isSome then return (false, after) else return (false, rest)
      else if isUnary word then return (← lift (unary word operand), after)
      else return (!word.isEmpty, rest)
  | [] => return (!word.isEmpty, [])

end

def ofTwo (first second : Octets) : Deciding Bool := do
  if first = ['!'] then return second.isEmpty
  else if isUnary first then
    if first = ['-', 't'] && (Tools.integer? second).isNone then return false
    else lift (unary first second)
  else fail (String.ofList first ++ ": unary operator expected")

def ofThree (first middle last : Octets) : Deciding Bool := do
  if isBinary middle then binary middle first last
  else if middle = ['-', 'a'] then return !first.isEmpty && !last.isEmpty
  else if middle = ['-', 'o'] then return !first.isEmpty || !last.isEmpty
  else if first = ['!'] then return !(← ofTwo middle last)
  else if first = ['('] && last = [')'] then return !middle.isEmpty
  else fail (String.ofList middle ++ ": binary operator expected")

def general (closing : Bool) (words : List Octets) : Deciding Bool := do
  let (value, rest) ← disjunction closing (4 * words.length + 8) words
  match rest with
  | [] => return value
  | ('-' :: word) :: _ => fail ("syntax error: \x60-" ++ String.ofList word ++ "' unexpected")
  | _ => fail "too many arguments"

def decideWords (closing : Bool) (words : List Octets) : Deciding Bool := do
  match words with
  | [] => return false
  | [word] => return !word.isEmpty
  | [first, second] => ofTwo first second
  | [first, middle, last] => ofThree first middle last
  | [first, a, b, c] =>
      if first = ['!'] then return !(← ofThree a b c)
      else if first = ['('] && c = [')'] then ofTwo a b
      else general closing words
  | words => general closing words

def test (bracket : Bool) (words : List Octets) : Sh Nat := do
  let result : Except String Bool ←
    if bracket then
      match words.getLast? with
      | some [']'] => (decideWords true words.dropLast).run
      | _ => pure (.error "missing \x60]'")
    else (decideWords false words).run
  match result with
  | .ok true => return 0
  | .ok false => return 1
  | .error message => do
      Sh.complainAs message
      return 2

def dialect (fold : Bool) : Regex.Dialect :=
  { extended := true, strictRepeats := true, strictStart := true, looseClosing := true, fold }

def expressionText (field : Field) : Octets :=
  field.flatMap fun (c, quoted) =>
    if quoted && "\\.[]*^$+?()|".toList.contains c || (quoted && (c == '\x7b' || c == '\x7d')) then
      ['\\', c]
    else [c]

def search (text : Octets) (expression : Field) : Sh Nat := do
  let state ← get
  match Finder.read (dialect (state.does "nocasematch")) (expressionText expression) with
  | .error _ => return 2
  | .ok finder => do
      let found := finder.search (Regex.Spot.ofText text)
      let texts := match found with
        | none => []
        | some found =>
            let last := finder.regex.groupCount
            found.text :: (List.range last).map fun index =>
              (found.groups.lookup (index + 1)).getD []
      modify fun state => state.putVariable "BASH_REMATCH".toList { held := listOf texts }
      return if found.isSome then 0 else 1

def tracedWord (text : Octets) : Octets :=
  if text.isEmpty then ['\'', '\''] else text

def tracedPattern (field : Field) : Octets :=
  if field.isEmpty then ['\'', '\'']
  else field.flatMap fun (c, quoted) => if quoted then ['\\', c] else [c]

def decide (kit : Kit) (trace : Bool → Octets → Sh Unit) (negated : Bool) :
    Condition → Sh Nat
  | .group inner => decide kit trace negated inner
  | .not inner => do
      let status ← decide kit trace (!negated) inner
      return if status = 0 then 1 else if status = 1 then 0 else status
  | .and first second => do
      let status ← decide kit trace false first
      if status = 0 then decide kit trace false second else return status
  | .or first second => do
      let status ← decide kit trace false first
      if status = 0 then return 0 else decide kit trace false second
  | .filled _ word => do
      let text ← expandText kit.expander word
      trace negated ("-n ".toList ++ tracedWord text)
      return if text.isEmpty then 1 else 0
  | .unary operator _ word => do
      let text ← expandText kit.expander word
      trace negated (operator.toList ++ ' ' :: tracedWord text)
      return if ← unary operator.toList text then 0 else 1
  | .binary operator _ left _ right => do
      let first ← expandText kit.expander left
      let shown (second : Octets) : Sh Unit :=
        trace negated (tracedWord first ++ ' ' :: operator.toList ++ ' ' :: second)
      match operator with
      | "=" | "==" | "!=" => do
          let pattern ← expandPattern kit.expander right
          shown (tracedPattern pattern)
          let state ← get
          let style : GlobStyle := { extended := true, fold := state.does "nocasematch" }
          let fits := Glob.fits (patternOf style pattern) first
          return if fits == (operator != "!=") then 0 else 1
      | "=~" => do
          let expression ← expandPattern kit.expander right
          shown (expressionText expression)
          search first expression
      | operator => do
          let second ← expandText kit.expander right
          shown (tracedWord second)
          if isNumeric operator then
            match ← Arithmetic.evaluate "[[" first with
            | none => return 1
            | some a =>
                match ← Arithmetic.evaluate "[[" second with
                | none => return 1
                | some b => return if compare operator a b then 0 else 1
          else return if ← compareTexts operator first second then 0 else 1

end Test

end ArtifactPipeline.RichShell
