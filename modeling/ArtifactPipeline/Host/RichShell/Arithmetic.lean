import ArtifactPipeline.Host.RichShell.State
import ArtifactPipeline.Host.Shell.Arithmetic

set_option autoImplicit false

namespace ArtifactPipeline.RichShell

open Text (Octets)
open Shell (isNameStart isNameChar)

namespace Arithmetic

open Shell.Arithmetic (wrap)

inductive Token where
  | ending
  | number
  | name
  | sign (text : String)
  | update (operator : String)
  | before (step : Int)
  | behind (step : Int)
  | choice
  deriving DecidableEq, Repr

inductive Fault where
  | wrong (expression : Octets) (message : String) (place : Octets)
  | told
  | left (jump : Jump)

structure Place where
  name : Octets
  subscript : Option Octets := none
  deriving DecidableEq, Repr

structure Lexer where
  whole : Octets
  rest : Octets
  start : Octets
  token : Token := .ending
  last : Token := .ending
  value : Int := 0
  place : Option Place := none
  silent : Nat := 0

abbrev Eval := ExceptT Fault (StateT Lexer Sh)

def lift {α : Type} (body : Sh α) : Eval α :=
  ExceptT.mk do
    let result ← StateT.lift (Sh.attempt body)
    match result with
    | .ok value => return .ok value
    | .error jump => return .error (.left jump)

def fail {α : Type} (message : String) : Eval α := do
  let lexer ← get
  throw (.wrong lexer.whole message lexer.start)

def isBlank (c : Char) : Bool :=
  c == ' ' || c == '\t' || c == '\n' || c == '\r'

def plainSigns : Octets :=
  "=><+-*/%!()&|^~?:,".toList

def digitValue? (base : Int) (c : Char) : Option Int :=
  if c.isDigit then some (c.toNat - '0'.toNat : Nat)
  else if c.isLower then some (c.toNat - 'a'.toNat + 10 : Nat)
  else if c.isUpper then
    some (if base ≤ 36 then (c.toNat - 'A'.toNat + 10 : Nat) else (c.toNat - 'A'.toNat + 36 : Nat))
  else if c == '@' then some 62
  else if c == '_' then some 63
  else none

def digits (base value : Int) (found : Bool) : Octets → Except String Int
  | [] => .ok value
  | '#' :: rest =>
      if found then .error "invalid number"
      else if value < 2 || 64 < value then .error "invalid arithmetic base"
      else
        match rest with
        | c :: _ =>
            if (digitValue? value c).isSome then digits value 0 true rest
            else .error "invalid integer constant"
        | [] => .error "invalid integer constant"
  | c :: rest =>
      match digitValue? base c with
      | some digit =>
          if base ≤ digit then .error "value too great for base"
          else digits base (wrap (value * base + digit)) found rest
      | none => .ok value

def number (text : Octets) : Except String Int :=
  match text with
  | ['0'] => .ok 0
  | '0' :: c :: rest =>
      if c == 'x' || c == 'X' then digits 16 0 true rest else digits 8 0 true (c :: rest)
  | text => digits 10 0 false text

def subscript? : Nat → Nat → Octets → Octets → Option (Octets × Octets)
  | 0, _, _, _ => none
  | fuel + 1, level, read, text =>
      match text with
      | [] => none
      | '\\' :: c :: rest => subscript? fuel level (c :: '\\' :: read) rest
      | c :: rest =>
          if c == ']' && level = 0 then some (read.reverse, rest)
          else
            let level := if c == '[' then level + 1 else if c == ']' then level - 1 else level
            subscript? fuel level (c :: read) rest

def isSign : Token → Bool
  | .number | .name => false
  | _ => true

def signOf (before last : Token) (text : Octets) : Option (Token × Octets) :=
  match text with
  | '=' :: '=' :: rest => some (.sign "==", rest)
  | '!' :: '=' :: rest => some (.sign "!=", rest)
  | '>' :: '=' :: rest => some (.sign ">=", rest)
  | '<' :: '=' :: rest => some (.sign "<=", rest)
  | '<' :: '<' :: '=' :: rest => some (.update "<<", rest)
  | '<' :: '<' :: rest => some (.sign "<<", rest)
  | '>' :: '>' :: '=' :: rest => some (.update ">>", rest)
  | '>' :: '>' :: rest => some (.sign ">>", rest)
  | '&' :: '&' :: rest => some (.sign "&&", rest)
  | '|' :: '|' :: rest => some (.sign "||", rest)
  | '*' :: '*' :: rest => some (.sign "**", rest)
  | c :: d :: rest =>
      if (c == '-' || c == '+') && c == d then
        let step : Int := if c == '-' then -1 else 1
        if before = .name then some (.behind step, rest)
        else if before = .number && (last = .before 1 || last = .before (-1)) then none
        else if ((rest.dropWhile isBlank).head?.map isNameStart).getD false then
          some (.before step, rest)
        else some (.sign c.toString, d :: rest)
      else if d == '=' && "*/%+-&^|".toList.contains c then some (.update c.toString, rest)
      else if plainSigns.contains c then some (.sign c.toString, d :: rest)
      else none
  | [c] => if plainSigns.contains c then some (.sign c.toString, []) else none
  | [] => none

def apply (operator : String) (a b : Int) : Int :=
  let ofBool (b : Bool) : Int := if b then 1 else 0
  let bits (f : Nat → Nat → Nat) : Int :=
    let unsigned (n : Int) : Nat := (n % 18446744073709551616).toNat
    wrap (f (unsigned a) (unsigned b))
  let count := (b % 64).toNat
  match operator with
  | "*" => wrap (a * b)
  | "/" => wrap (Int.tdiv a b)
  | "%" => Int.tmod a b
  | "+" => wrap (a + b)
  | "-" => wrap (a - b)
  | "<<" => wrap (a * (Nat.pow 2 count : Nat))
  | ">>" => Int.fdiv a (Nat.pow 2 count : Nat)
  | "<=" => ofBool (a ≤ b)
  | ">=" => ofBool (b ≤ a)
  | "<" => ofBool (a < b)
  | ">" => ofBool (b < a)
  | "==" => ofBool (a == b)
  | "!=" => ofBool (a != b)
  | "&" => bits Nat.land
  | "^" => bits Nat.xor
  | "|" => bits Nat.lor
  | _ => b

def power : Nat → Int → Nat → Int
  | 0, _, _ => 1
  | fuel + 1, base, exponent =>
      if exponent = 0 then 1
      else
        let half := power fuel (wrap (base * base)) (exponent / 2)
        if exponent % 2 = 1 then wrap (base * half) else half

def operators : List (List String) :=
  [["||"], ["&&"], ["|"], ["^"], ["&"], ["==", "!="], ["<=", ">=", "<", ">"], ["<<", ">>"], ["+", "-"],
    ["*", "/", "%"]]

def depthLimit : Nat := 1024

def keyOf (text : Octets) : Octets :=
  match text with
  | '\\' :: c :: rest => c :: keyOf rest
  | '"' :: rest | '\'' :: rest => keyOf rest
  | c :: rest => c :: keyOf rest
  | [] => []

def indexOf? (items : List (Nat × Octets)) (index : Int) : Option Nat :=
  if 0 ≤ index then some index.toNat
  else
    let size : Int := (items.getLast?.map fun item => (item.1 : Int) + 1).getD 0
    if 0 ≤ size + index then some (size + index).toNat else none

inductive Level where
  | comma
  | assignment
  | choice
  | binary (rank : Nat)
  | power
  | sign
  | primary

mutual

def readToken : Nat → Nat → Eval Unit
  | 0, _ => fail "expression recursion level exceeded"
  | fuel + 1, depth => do
      let lexer ← get
      let text := lexer.rest.dropWhile isBlank
      match text with
      | [] => set { lexer with last := lexer.token, token := .ending, rest := [] }
      | c :: _ =>
          let lexer := { lexer with start := text, rest := text }
          set lexer
          if isNameStart c then
            let name := text.takeWhile isNameChar
            let after := text.drop name.length
            let (place, rest) ←
              match after with
              | '[' :: inside =>
                  match subscript? (inside.length + 1) 0 [] inside with
                  | some (subscript, rest) => pure (({ name, subscript := some subscript } : Place), rest)
                  | none => fail "bad array subscript"
              | after => pure (({ name } : Place), after)
            -- What stands behind the name decides whether it is looked up.
            set { lexer with rest, token := .name, silent := lexer.silent + 1 }
            readToken fuel depth
            let next := (← get).token
            set lexer
            let changed := match lexer.token with
              | .before _ => true
              | _ => false
            let value ←
              if changed || next != .sign "=" then
                if lexer.silent = 0 then valueOf fuel depth place else pure 0
              else pure 0
            set { lexer with rest, last := lexer.token, token := .name, value, place := some place }
          else if c.isDigit then
            let digits := text.takeWhile fun c => c.isAlphanum || c == '#' || c == '@' || c == '_'
            match number digits with
            | .ok value =>
                set { lexer with
                  rest := text.drop digits.length, last := lexer.token, token := .number, value }
            | .error message => do
                let behind := text.drop digits.length
                let read := lexer.whole.take (lexer.whole.length - behind.length)
                throw (.wrong read message digits)
          else
            match signOf lexer.token lexer.last text with
            | some (token, rest) => set { lexer with rest, last := lexer.token, token }
            | none =>
                if c == '-' || c == '+' then
                  fail ((if c == '-' then "--" else "++") ++ ": assignment requires lvalue")
                else if isSign lexer.token then fail "syntax error: operand expected"
                else fail "syntax error: invalid arithmetic operator"
termination_by fuel => fuel

def valueOf : Nat → Nat → Place → Eval Int
  | 0, _, _ => fail "expression recursion level exceeded"
  | fuel + 1, depth, place => do
      let found ← lift (seen? place.name)
      let held := (found.map (·.held)).getD .nothing
      if found.isNone || held = .nothing then
        if (← lift get).has 'u' then
          lift (Sh.giveUp (String.ofList place.name ++ ": unbound variable"))
      let text ←
        match place.subscript with
        | none => pure (held.text?.getD [])
        | some subscript =>
            match held with
            | .table items _ => pure ((items.lookup (keyOf subscript)).getD [])
            | .list items _ => do
                match indexOf? items (← inner fuel depth subscript) with
                | some index => pure ((items.lookup index).getD [])
                | none => do
                    lift (Sh.complain (String.ofList place.name ++ ": bad array subscript"))
                    pure []
            | held => do
                match ← inner fuel depth subscript with
                | 0 => pure (held.text?.getD [])
                | -1 => pure (held.text?.getD [])
                | _ => pure []
      if text.isEmpty then return 0 else inner fuel depth text
termination_by fuel => fuel

def inner : Nat → Nat → Octets → Eval Int
  | 0, _, _ => fail "expression recursion level exceeded"
  | fuel + 1, depth, text => do
      if (text.dropWhile isBlank).isEmpty then return 0
      let outer ← get
      if depthLimit ≤ depth + 1 then fail "expression recursion level exceeded"
      set ({ whole := text, rest := text, start := [] } : Lexer)
      readToken fuel (depth + 1)
      let value ← level fuel (depth + 1) .comma
      if (← get).token != .ending then fail "syntax error in expression"
      set outer
      return value
termination_by fuel => fuel

def level : Nat → Nat → Level → Eval Int
  | 0, _, _ => fail "expression recursion level exceeded"
  | fuel + 1, depth, .comma => do
      let value ← level fuel depth .assignment
      match (← get).token with
      | .sign "," => do
          readToken fuel depth
          level fuel depth .comma
      | _ => return value
  | fuel + 1, depth, .assignment => do
      let value ← level fuel depth .choice
      let lexer ← get
      match lexer.token with
      | .sign "=" | .update _ => do
          if lexer.last != .name then fail "attempted assignment to non-variable"
          let place ←
            match lexer.place with
            | some place => pure place
            | none => fail "syntax error in variable assignment"
          readToken fuel depth
          let right ← level fuel depth .assignment
          let result ←
            match lexer.token with
            | .update operator =>
                if right = 0 && (operator = "/" || operator = "%") then
                  if (← get).silent = 0 then fail "division by 0" else pure value
                else pure (apply operator value right)
            | _ => pure right
          if (← get).silent = 0 then assign fuel depth place result
          modify fun lexer => { lexer with place := none }
          return result
      | _ => return value
  | fuel + 1, depth, .choice => do
      let condition ← level fuel depth (.binary 0)
      match (← get).token with
      | .sign "?" => do
          let quiet (silent : Bool) (body : Eval Int) : Eval Int := do
            if silent then modify fun lexer => { lexer with silent := lexer.silent + 1 }
            let value ← body
            if silent then modify fun lexer => { lexer with silent := lexer.silent - 1 }
            return value
          let first ← quiet (condition = 0) do
            readToken fuel depth
            match (← get).token with
            | .ending | .sign ":" => fail "expression expected"
            | _ => level fuel depth .comma
          if (← get).token != .sign ":" then fail "\x60:' expected for conditional expression"
          let second ← quiet (condition != 0) do
            readToken fuel depth
            match (← get).token with
            | .ending => fail "expression expected"
            | _ => level fuel depth .choice
          modify fun lexer => { lexer with last := .choice }
          return if condition = 0 then second else first
      | _ => return condition
  | fuel + 1, depth, .binary rank => do
      match operators[rank]? with
      | none => level fuel depth .power
      | some signs => do
          let first ← level fuel depth (.binary (rank + 1))
          operands fuel depth rank signs first
  | fuel + 1, depth, .power => do
      let base ← level fuel depth .sign
      match (← get).token with
      | .sign "**" => do
          readToken fuel depth
          let exponent ← level fuel depth .power
          modify fun lexer => { lexer with last := .number }
          if exponent = 0 then return 1
          else if exponent < 0 then fail "exponent less than 0"
          else return power 64 base exponent.toNat
      | _ => return base
  | fuel + 1, depth, .sign => do
      let behind (f : Int → Int) : Eval Int := do
        readToken fuel depth
        let value ← level fuel depth .sign
        modify fun lexer => { lexer with last := .number }
        return f value
      match (← get).token with
      | .sign "!" => behind fun value => if value = 0 then 1 else 0
      | .sign "~" => behind fun value => -value - 1
      | .sign "-" => behind fun value => wrap (-value)
      | .sign "+" => behind id
      | _ => level fuel depth .primary
  | fuel + 1, depth, .primary => do
      let lexer ← get
      match lexer.token with
      | .before step => do
          set { lexer with last := .before step }
          readToken fuel depth
          let next ← get
          if next.token != .name then
            fail "identifier expected after pre-increment or pre-decrement"
          let value := wrap (next.value + step)
          if let some place := next.place then
            if next.silent = 0 then assign fuel depth place value
          modify fun lexer => { lexer with token := .number }
          readToken fuel depth
          return value
      | .sign "(" => do
          readToken fuel depth
          let value ← level fuel depth .comma
          if (← get).token != .sign ")" then fail "missing \x60)'"
          readToken fuel depth
          return value
      | .number => do
          readToken fuel depth
          return lexer.value
      | .name => do
          set { lexer with silent := lexer.silent + 1 }
          readToken fuel depth
          let next ← get
          match next.token with
          | .behind step => do
              if let some place := lexer.place then
                if lexer.silent = 0 then assign fuel depth place (wrap (lexer.value + step))
              set { next with
                silent := lexer.silent, place := lexer.place, last := .name, token := .number }
          | _ => set lexer
          readToken fuel depth
          return lexer.value
      | _ => fail "syntax error: operand expected"
termination_by fuel => fuel

def operands : Nat → Nat → Nat → List String → Int → Eval Int
  | 0, _, _, _, _ => fail "expression recursion level exceeded"
  | fuel + 1, depth, rank, signs, first => do
      match (← get).token with
      | .sign sign =>
          if !signs.contains sign then return first
          else do
            let behind := (← get).rest
            let settled := (sign = "||" && first != 0) || (sign = "&&" && first = 0)
            if settled then modify fun lexer => { lexer with silent := lexer.silent + 1 }
            readToken fuel depth
            let second ← level fuel depth (.binary (rank + 1))
            if settled then modify fun lexer => { lexer with silent := lexer.silent - 1 }
            let divides := sign = "/" || sign = "%"
            if divides && second = 0 && (← get).silent = 0 then
              modify fun lexer => { lexer with start := behind.dropWhile isBlank }
              fail "division by 0"
            let ofBool (b : Bool) : Int := if b then 1 else 0
            let result :=
              if sign = "||" then ofBool (first != 0 || second != 0)
              else if sign = "&&" then ofBool (first != 0 && second != 0)
              else if divides && second = 0 then first
              else apply sign first second
            modify fun lexer => { lexer with last := if sign = "||" || sign = "&&" then .sign sign
              else .number }
            operands fuel depth rank signs result
      | _ => return first
termination_by fuel => fuel

def assign : Nat → Nat → Place → Int → Eval Unit
  | 0, _, _, _ => fail "expression recursion level exceeded"
  | fuel + 1, depth, place, value => do
      let name := (← lift get).resolve place.name
      let old := ((← lift get).stored? name).getD {}
      if old.readOnly then
        lift (Sh.complain (String.ofList name ++ ": readonly variable"))
        throw .told
      let text := integerText value
      let held ←
        match place.subscript, old.held with
        | none, held => pure (held.withText text)
        | some subscript, .table items _ => pure (.table (Assoc.set (keyOf subscript) text items) true)
        | some subscript, held => do
            let items := match held with
              | .list items _ => items
              | .text text => [(0, text)]
              | _ => []
            match indexOf? items (← inner fuel depth subscript) with
            | some index => pure (.list (putItem index text items) true)
            | none => do
                lift (Sh.complain
                  (String.ofList (place.name ++ '[' :: subscript ++ [']']) ++ ": bad array subscript"))
                throw .told
      lift (modify fun state =>
        let exported := old.exported || state.has 'a'
        noted name value (state.putVariable name { old with held, exported }))
termination_by fuel => fuel
where
  noted (name : Octets) (value : Int) (state : State) : State :=
    match String.ofList name with
    | "RANDOM" => { state with seed := (value % 4294967296).toNat, lastChance := 0 }
    | "OPTIND" => { state with optionLetters := 0 }
    | _ => state

end

def effort (text : Octets) : Nat :=
  100000 + 100 * text.length

def evaluate (command : String) (text : Octets) : Sh (Option Int) := do
  let start : Lexer := { whole := text, rest := text, start := [] }
  let (result, _) ← (inner (effort text) 0 text).run.run start
  match result with
  | .ok value => return some value
  | .error .told => return none
  | .error (.left jump) => throw jump
  | .error (.wrong expression message place) => do
      let lead := if command.isEmpty then "" else command ++ ": "
      Sh.complain (lead ++ String.ofList (expression.dropWhile isBlank) ++ ": " ++ message ++
        " (error token is \"" ++ String.ofList place ++ "\")")
      return none

end Arithmetic

def computed (text : Octets) : Sh Int := do
  match ← Arithmetic.evaluate "" text with
  | some value => return value
  | none => do
      Sh.setStatus 1
      throw .dropped

end ArtifactPipeline.RichShell
