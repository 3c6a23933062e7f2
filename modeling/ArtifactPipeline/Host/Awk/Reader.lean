import ArtifactPipeline.Host.Awk.Syntax
import ArtifactPipeline.Host.Awk.Token

set_option autoImplicit false

namespace ArtifactPipeline.Awk

open Text (Octets)

structure FunctionEntry where
  name : String
  params : Option (List String) := none
  body : List Stmt := []

structure Reading where
  lexemes : List Lexeme
  line : Nat := 1
  names : Array String := specialNames.toArray
  tables : List String := ["ENVIRON", "ARGV"]
  values : List String := []
  functions : Array FunctionEntry := #[]
  params : Option (List String) := none
  ownTables : List String := []
  ownValues : List String := []
  known : List String := []
  calls : List (Nat × Nat × Nat) := []
  loops : Nat := 0
  inRule : Bool := false
  ranges : Nat := 0

abbrev Reader := StateT Reading (Except SyntaxFault)

namespace Reader

def fail {α : Type} (message : String) : Reader α := do
  let reading ← get
  throw ⟨reading.line, message⟩

def peek : Reader (Option Token) := do
  return (← get).lexemes.head?.map Lexeme.token

def peekSecond : Reader (Option Token) := do
  return ((← get).lexemes.drop 1).head?.map Lexeme.token

def advance : Reader Unit :=
  modify fun reading =>
    match reading.lexemes with
    | lexeme :: rest => { reading with lexemes := rest, line := lexeme.line }
    | [] => reading

def unexpected {α : Type} : Reader α := do
  match (← get).lexemes with
  | lexeme :: _ => throw ⟨lexeme.line, "syntax error at or near " ++ Lexeme.shown lexeme.token⟩
  | [] => throw ⟨(← get).line + 1, "unexpected end of file"⟩

def isSign (sign : String) : Option Token → Bool
  | some (.sign other) => other == sign
  | _ => false

def isKeyword (word : String) : Option Token → Bool
  | some (.keyword other) => other == word
  | _ => false

def atSign (sign : String) : Reader Bool := do
  return isSign sign (← peek)

def atKeyword (word : String) : Reader Bool := do
  return isKeyword word (← peek)

def trySign (sign : String) : Reader Bool := do
  if ← atSign sign then
    advance
    return true
  else return false

def tryKeyword (word : String) : Reader Bool := do
  if ← atKeyword word then
    advance
    return true
  else return false

def expectSign (sign : String) : Reader Unit := do
  if !(← trySign sign) then
    if sign == "\x7d" && (← peek).isNone then
      throw ⟨(← get).line + 1, "missing \x7d near end of file"⟩
    else unexpected

def skipLines : Reader Unit :=
  modify fun reading =>
    { reading with
      lexemes := reading.lexemes.dropWhile fun lexeme =>
        match lexeme.token with
        | .newline => true
        | _ => false }

inductive Use where
  | table
  | value
  | either
  deriving DecidableEq, Repr

def holderOf (use : Use) (name : String) : Reader Holder := do
  let reading ← get
  match reading.params.bind fun params => params.idxOf? name with
  | some index =>
      let tables := if use = .table then name :: reading.ownTables else reading.ownTables
      let values := if use = .value then name :: reading.ownValues else reading.ownValues
      set { reading with ownTables := tables, ownValues := values }
      if (use = .table && values.contains name) || (use = .value && tables.contains name) then
        fail ("illegal reference to array " ++ name)
      else return .own index
  | none =>
      if reading.known.contains name then unexpected
      else
        let tables := if use = .table then name :: reading.tables else reading.tables
        let values := if use = .value then name :: reading.values else reading.values
        if (use = .table && values.contains name) || (use = .value && tables.contains name) then
          fail (if use = .value then "illegal reference to array " ++ name
            else "type error in use of " ++ name)
        else
          match reading.names.idxOf? name with
          | some index =>
              set { reading with tables, values }
              return .shared index
          | none =>
              set { reading with tables, values, names := reading.names.push name }
              return .shared reading.names.size

def functionOf (name : String) : Reader Nat := do
  let reading ← get
  match reading.functions.findIdx? fun entry => entry.name == name with
  | some index => return index
  | none =>
      set { reading with functions := reading.functions.push { name } }
      return reading.functions.size

def builtins : List (String × Builtin × Nat × Nat) := [
  ("length", .length, 0, 1), ("index", .index, 2, 2), ("substr", .substr, 2, 3),
  ("sprintf", .sprintf, 1, 1000), ("sin", .sin, 1, 1), ("cos", .cos, 1, 1), ("atan2", .atan2, 2, 2),
  ("exp", .exp, 1, 1), ("log", .log, 1, 1), ("int", .int, 1, 1), ("sqrt", .sqrt, 1, 1),
  ("rand", .rand, 0, 0), ("srand", .srand, 0, 1), ("close", .close, 1, 1), ("fflush", .flush, 0, 1),
  ("system", .system, 1, 1), ("toupper", .upper, 1, 1), ("tolower", .lower, 1, 1),
  ("split", .split, 2, 3), ("sub", .sub, 2, 3), ("gsub", .gsub, 2, 3), ("match", .match', 2, 2),
  ("mktime", .makeTime, 1, 1), ("strftime", .formatTime, 0, 3), ("systime", .now, 0, 0)]

def assignments : List (String × Option Arith) := [
  ("=", none), ("+=", some .add), ("-=", some .subtract), ("*=", some .multiply),
  ("/=", some .divide), ("%=", some .remainder), ("^=", some .power)]

def relations : List (String × Relation) := [
  ("<", .less), ("<=", .atMost), ("==", .equal), ("!=", .unequal), (">", .greater),
  (">=", .atLeast)]

def startsOperand : Option Token → Bool
  | some (.number _) | some (.text _) | some (.pattern _) | some (.name _ _) => true
  | some (.keyword word) => word == "getline"
  | some (.sign sign) => ["(", "$", "!", "++", "--"].contains sign
  | _ => false

def isTarget : Expr → Bool
  | .var _ | .item _ _ | .field _ => true
  | .group inner =>
      match inner with
      | .field _ => true
      | _ => false
  | _ => false

/-- Reads an expression. Levels, from loose to tight: choices, alternatives, conjunctions, keys,
patterns, comparisons, joined texts, sums, products, signs, commands, powers, counters, primaries.
`printing` says that a greater sign or a bar ends the expression. -/
def expr : Nat → Nat → Bool → Reader Expr
  | 0, _, _ => fail "expression too deep"
  | fuel + 1, level, printing => do
      match level with
      | 0 => do
          let condition ← expr fuel 1 printing
          if ← trySign "?" then
            skipLines
            let yes ← expr fuel 0 printing
            skipLines
            expectSign ":"
            skipLines
            let no ← expr fuel 0 printing
            return .choice condition yes no
          else return condition
      | 1 => do
          let first ← expr fuel 2 printing
          rest fuel printing first fun token =>
            if isSign "||" token then some (2, .either, true) else none
      | 2 => do
          let first ← expr fuel 3 printing
          rest fuel printing first fun token =>
            if isSign "&&" token then some (3, .both, true) else none
      | 3 => do
          let first ← expr fuel 4 printing
          keys fuel first
      | 4 => do
          let first ← expr fuel 5 printing
          rest fuel printing first fun token =>
            if isSign "~" token then some (5, .fits false, false)
            else if isSign "!~" token then some (5, .fits true, false)
            else none
      | 5 => do
          let first ← expr fuel 6 printing
          rest fuel printing first fun token =>
            match token with
            | some (.sign sign) =>
                if sign == ">" && printing then none
                else (relations.lookup sign).map fun relation => (6, .compare relation, false)
            | _ => none
      | 6 => do
          let first ← expr fuel 7 printing
          joined fuel printing first
      | 7 => do
          let first ← expr fuel 8 printing
          rest fuel printing first fun token =>
            if isSign "+" token then some (8, .arith .add, false)
            else if isSign "-" token then some (8, .arith .subtract, false)
            else none
      | 8 => do
          let first ← expr fuel 9 printing
          rest fuel printing first fun token =>
            if isSign "*" token then some (9, .arith .multiply, false)
            else if isSign "/" token then some (9, .arith .divide, false)
            else if isSign "%" token then some (9, .arith .remainder, false)
            else none
      | 9 => do
          if ← trySign "!" then return .not (← expr fuel 9 printing)
          else if ← trySign "-" then return .negate (← expr fuel 9 printing)
          else if ← trySign "+" then return .plus (← expr fuel 9 printing)
          else expr fuel 10 printing
      | 10 => do
          let first ← expr fuel 11 printing
          commands fuel printing first
      | 11 => do
          let first ← expr fuel 12 printing
          if ← trySign "^" then
            let power ←
              if (← atSign "-") || (← atSign "+") || (← atSign "!") then expr fuel 9 printing
              else expr fuel 11 printing
            return .arith .power first power
          else return first
      | 12 => do
          if (← atSign "++") || (← atSign "--") then
            let up ← atSign "++"
            advance
            let target ← expr fuel 13 printing
            if isTarget target then return .count target.bare up true else unexpected
          else
            let target ← expr fuel 13 printing
            if isTarget target && ((← atSign "++") || (← atSign "--")) then
              let up ← atSign "++"
              advance
              return .count target.bare up false
            else if isTarget target then
              match ← peek with
              | some (.sign sign) =>
                  match assignments.lookup sign with
                  | some operation => do
                      advance
                      skipLines
                      let value ← expr fuel 0 printing
                      return .assign target.bare operation value
                  | none => return target
              | _ => return target
            else return target
      | _ => do
          match ← peek with
          | some (.number x) => do
              advance
              return .number x
          | some (.text text) => do
              advance
              return .text text
          | some (.pattern text) => do
              advance
              match Pattern.ofText text with
              | .ok finder => return .pattern text finder
              | .error fault => fail (Pattern.complaint text fault)
          | some (.name name tight) => do
              advance
              named fuel name tight
          | some (.keyword "getline") => do
              advance
              let target ← lineTarget fuel printing
              if ← trySign "<" then
                let path ← expr fuel 11 printing
                return .readLine target (.file path)
              else return .readLine target .input
          | some (.sign "(") => do
              advance
              let inner ← expr fuel 0 false
              if ← atSign "," then
                let more ← moreExprs fuel
                expectSign ")"
                if ← tryKeyword "in" then
                  match ← peek with
                  | some (.name name _) => do
                      advance
                      let table ← holderOf .table name
                      return .isKey (inner :: more) table
                  | _ => unexpected
                else unexpected
              else
                expectSign ")"
                return .group inner
          | some (.sign "$") => do
              advance
              if (← atSign "++") || (← atSign "--") then
                return .field (← expr fuel 12 printing)
              else if ← trySign "-" then return .field (.negate (← expr fuel 13 printing))
              else return .field (← expr fuel 13 printing)
          | _ => unexpected
termination_by fuel => 2 * fuel
decreasing_by all_goals omega
where
  rest (fuel : Nat) (printing : Bool) (first : Expr)
      (join? : Option Token → Option (Nat × (Expr → Expr → Expr) × Bool)) : Reader Expr := do
    match fuel with
    | 0 => return first
    | fuel + 1 =>
        match join? (← peek) with
        | some (level, join, multiline) => do
            advance
            if multiline then skipLines
            let second ← expr fuel level printing
            rest fuel printing (join first second) join?
        | none => return first
  termination_by 2 * fuel
  decreasing_by all_goals omega
  keys (fuel : Nat) (first : Expr) : Reader Expr := do
    match fuel with
    | 0 => return first
    | fuel + 1 =>
        if ← tryKeyword "in" then
          match ← peek with
          | some (.name name _) => do
              advance
              let table ← holderOf .table name
              keys fuel (.isKey [first] table)
          | _ => unexpected
        else return first
  joined (fuel : Nat) (printing : Bool) (first : Expr) : Reader Expr := do
    match fuel with
    | 0 => return first
    | fuel + 1 =>
        if startsOperand (← peek) then
          let second ← expr fuel 7 printing
          joined fuel printing (.join first second)
        else return first
  termination_by 2 * fuel
  decreasing_by all_goals omega
  commands (fuel : Nat) (printing : Bool) (first : Expr) : Reader Expr := do
    match fuel with
    | 0 => return first
    | fuel + 1 =>
        if !printing && (← atSign "|") && isKeyword "getline" (← peekSecond) then
          advance
          advance
          let target ← lineTarget fuel printing
          commands fuel printing (.readLine target (.command first))
        else return first
  termination_by 2 * fuel
  decreasing_by all_goals omega
  lineTarget (fuel : Nat) (printing : Bool) : Reader (Option Expr) := do
    match fuel with
    | 0 => return none
    | fuel + 1 =>
        match ← peek with
        | some (.sign "$") => return some (← expr fuel 13 printing)
        | some (.name name tight) =>
            if tight || Lexeme.builtinNames.contains name then return none
            else return some (← expr fuel 13 printing)
        | _ => return none
  termination_by 2 * fuel
  decreasing_by all_goals omega
  moreExprs (fuel : Nat) : Reader (List Expr) := do
    match fuel with
    | 0 => return []
    | fuel + 1 =>
        if ← trySign "," then
          skipLines
          let first ← expr fuel 0 false
          return first :: (← moreExprs fuel)
        else return []
  termination_by 2 * fuel
  decreasing_by all_goals omega
  args (fuel : Nat) : Reader (List Expr) := do
    match fuel with
    | 0 => return []
    | fuel + 1 =>
        expectSign "("
        if ← trySign ")" then return []
        else
          skipLines
          let first ← argument fuel
          let more ← moreArgs fuel
          skipLines
          expectSign ")"
          return first :: more
  termination_by 2 * fuel
  decreasing_by all_goals omega
  moreArgs (fuel : Nat) : Reader (List Expr) := do
    match fuel with
    | 0 => return []
    | fuel + 1 =>
        if ← trySign "," then
          skipLines
          let first ← argument fuel
          return first :: (← moreArgs fuel)
        else return []
  termination_by 2 * fuel
  decreasing_by all_goals omega
  argument (fuel : Nat) : Reader Expr := do
    match ← peek with
    | some (.name name tight) =>
        let next ← peekSecond
        if !tight && (isSign "," next || isSign ")" next) && !Lexeme.builtinNames.contains name &&
            !(← get).known.contains name then
          advance
          return .var (← holderOf .either name)
        else expr fuel 0 false
    | _ => expr fuel 0 false
  termination_by 2 * fuel + 1
  decreasing_by all_goals omega
  named (fuel : Nat) (name : String) (tight : Bool) : Reader Expr := do
    match fuel with
    | 0 => unexpected
    | fuel + 1 =>
        match builtins.lookup name with
        | some (.length, _, most) =>
            if ← atSign "(" then
              let given ← args fuel
              if most < given.length then fail "syntax error at or near ,"
              else return .builtin .length given
            else return .builtin .length []
        | some (builtin, least, most) =>
            if ← atSign "(" then
              let given ← args fuel
              if given.length < least || most < given.length then
                fail ("wrong number of arguments in call to " ++ name)
              match builtin, given with
              | .split, _ :: .var holder :: _ => do
                  noteTable holder
                  return .builtin builtin given
              | .split, _ => unexpected
              | .sub, [_, _, target] | .gsub, [_, _, target] =>
                  if isTarget target then return .builtin builtin given else unexpected
              | _, given => return .builtin builtin given
            else if least = 0 && (builtin = .rand || builtin = .srand || builtin = .flush) then
              unexpected
            else unexpected
        | none =>
            let isFunction := tight || ((← get).known.contains name && (← atSign "("))
            if isFunction then
              let index ← functionOf name
              let given ← args fuel
              modify fun reading =>
                { reading with calls := (index, given.length, reading.line) :: reading.calls }
              return .call index given
            else if ← trySign "[" then
              let first ← expr fuel 0 false
              let more ← moreExprs fuel
              expectSign "]"
              return .item (← holderOf .table name) (first :: more)
            else return .var (← holderOf .value name)
  termination_by 2 * fuel
  decreasing_by all_goals omega
  noteTable (holder : Holder) : Reader Unit := do
    let reading ← get
    match holder with
    | .shared index => do
        let _ ← holderOf .table (reading.names[index]?.getD "")
    | .own index => do
        let _ ← holderOf .table ((reading.params.getD [])[index]?.getD "")

def endsStatement : Option Token → Bool
  | none | some .newline => true
  | some (.sign sign) => sign == ";" || sign == "\x7d"
  | _ => false

def terminator : Reader Unit := do
  match ← peek with
  | some .newline => skipLines
  | some (.sign ";") => do
      advance
      skipLines
  | some (.sign "\x7d") | none => return ()
  | _ => unexpected

def behindParenthesis : Nat → List Lexeme → Option Token
  | _, [] => none
  | depth, lexeme :: rest =>
      match lexeme.token with
      | .sign "(" => behindParenthesis (depth + 1) rest
      | .sign ")" =>
          if depth ≤ 1 then (rest.head?).map Lexeme.token else behindParenthesis (depth - 1) rest
      | _ => behindParenthesis depth rest

def printed (fuel : Nat) : Reader (List Expr) := do
  let next ← peek
  let isTargetSign (token : Option Token) : Bool :=
    isSign ">" token || isSign ">>" token || isSign "|" token
  if endsStatement next || isTargetSign next then return []
  else
    let behind := behindParenthesis 0 (← get).lexemes
    if isSign "(" next && (endsStatement behind || isTargetSign behind) then
      advance
      skipLines
      if ← trySign ")" then return []
      else
        let first ← expr fuel 0 false
        let more ← expr.moreExprs fuel
        skipLines
        expectSign ")"
        return first :: more
    else
      let first ← expr fuel 0 true
      let rec more : Nat → Reader (List Expr)
        | 0 => return []
        | fuel + 1 => do
            if ← trySign "," then
              skipLines
              let next ← expr fuel 0 true
              return next :: (← more fuel)
            else return []
      return first :: (← more fuel)

def outputTarget (fuel : Nat) : Reader (Option (OutputKind × Expr)) := do
  if ← trySign ">" then return some (.write, ← expr fuel 0 false)
  else if ← trySign ">>" then return some (.append, ← expr fuel 0 false)
  else if ← trySign "|" then return some (.pipe, ← expr fuel 0 false)
  else return none

def simple (fuel : Nat) : Reader Stmt := do
  if ← tryKeyword "print" then
    let args ← printed fuel
    return .print args (← outputTarget fuel)
  else if ← tryKeyword "printf" then
    let args ← printed fuel
    if args.isEmpty then unexpected
    else return .printf args (← outputTarget fuel)
  else if ← tryKeyword "delete" then
    match ← peek with
    | some (.name name _) => do
        advance
        let table ← holderOf .table name
        if ← trySign "[" then
          let first ← expr fuel 0 false
          let more ← expr.moreExprs fuel
          expectSign "]"
          return .delete table (first :: more)
        else return .delete table []
    | _ => unexpected
  else return .expr (← expr fuel 0 false)

def inLoop {α : Type} (body : Reader α) : Reader α := do
  modify fun reading => { reading with loops := reading.loops + 1 }
  let result ← body
  modify fun reading => { reading with loops := reading.loops - 1 }
  return result

def stmt : Nat → Reader Stmt
  | 0 => fail "program too deep"
  | fuel + 1 => do
      match ← peek with
      | some (.sign "\x7b") => do
          let body ← block fuel
          skipLines
          return .block body
      | some (.sign ";") => do
          advance
          skipLines
          return .block []
      | some (.keyword "if") => do
          advance
          expectSign "("
          let condition ← expr fuel 0 false
          expectSign ")"
          skipLines
          let yes ← stmt fuel
          if ← tryKeyword "else" then
            skipLines
            return .choice condition yes (some (← stmt fuel))
          else return .choice condition yes none
      | some (.keyword "while") => do
          advance
          expectSign "("
          let condition ← expr fuel 0 false
          expectSign ")"
          if ← trySign ";" then
            skipLines
            return .while' condition (.block [])
          else
            skipLines
            return .while' condition (← inLoop (stmt fuel))
      | some (.keyword "do") => do
          advance
          skipLines
          let body ← inLoop (stmt fuel)
          if ← tryKeyword "while" then
            expectSign "("
            let condition ← expr fuel 0 false
            expectSign ")"
            terminator
            return .doWhile body condition
          else unexpected
      | some (.keyword "for") => do
          advance
          expectSign "("
          forLoop fuel
      | some (.keyword "break") => do
          advance
          if (← get).loops = 0 then fail "break statement outside of loop"
          else do
            terminator
            return .break'
      | some (.keyword "continue") => do
          advance
          if (← get).loops = 0 then fail "continue statement outside of loop"
          else do
            terminator
            return .continue'
      | some (.keyword "next") => do
          advance
          if !(← get).inRule then fail "improper use of next"
          else do
            terminator
            return .next
      | some (.keyword "nextfile") => do
          advance
          if !(← get).inRule then fail "improper use of nextfile"
          else do
            terminator
            return .nextFile
      | some (.keyword "exit") => do
          advance
          if endsStatement (← peek) then
            terminator
            return .exit none
          else
            let status ← expr fuel 0 false
            terminator
            return .exit (some status)
      | some (.keyword "return") => do
          advance
          if (← get).params.isNone then fail "return outside function body"
          else if endsStatement (← peek) then
            terminator
            return .return' none
          else
            let value ← expr fuel 0 false
            terminator
            return .return' (some value)
      | _ => do
          let found ← simple fuel
          terminator
          return found
where
  block (fuel : Nat) : Reader (List Stmt) := do
    match fuel with
    | 0 => fail "program too deep"
    | fuel + 1 =>
        expectSign "\x7b"
        skipLines
        let body ← stmts fuel
        expectSign "\x7d"
        return body
  stmts (fuel : Nat) : Reader (List Stmt) := do
    match fuel with
    | 0 => return []
    | fuel + 1 =>
        if (← atSign "\x7d") || (← peek).isNone then return []
        else
          let first ← stmt fuel
          return first :: (← stmts fuel)
  forLoop (fuel : Nat) : Reader Stmt := do
    match fuel with
    | 0 => fail "program too deep"
    | fuel + 1 =>
        let reading ← get
        match reading.lexemes with
        | ⟨.name target _, _⟩ :: ⟨.keyword "in", _⟩ :: ⟨.name table _, _⟩ :: ⟨.sign ")", _⟩ :: _ => do
            advance
            advance
            advance
            advance
            let target ← holderOf .value target
            let table ← holderOf .table table
            skipLines
            return .forKeys target table (← inLoop (stmt fuel))
        | _ => do
            let start ← if ← atSign ";" then pure none else some <$> simple fuel
            expectSign ";"
            skipLines
            let condition ← if ← atSign ";" then pure none else some <$> expr fuel 0 false
            expectSign ";"
            skipLines
            let step ← if ← atSign ")" then pure none else some <$> simple fuel
            expectSign ")"
            if ← trySign ";" then
              skipLines
              return .for' start condition step (.block [])
            else
              skipLines
              return .for' start condition step (← inLoop (stmt fuel))

def params : Nat → Reader (List String)
  | 0 => return []
  | fuel + 1 => do
      match ← peek with
      | some (.name name _) => do
          advance
          if ← trySign "," then
            skipLines
            return name :: (← params fuel)
          else
            expectSign ")"
            return [name]
      | some (.sign ")") => do
          advance
          return []
      | _ => unexpected

def function (fuel : Nat) : Reader Unit := do
  match ← peek with
  | some (.name name _) => do
      advance
      expectSign "("
      let names ← params fuel
      skipLines
      let index ← functionOf name
      if ((← get).functions[index]?.bind FunctionEntry.params).isSome then
        fail ("redefinition of function " ++ name)
      modify fun reading =>
        { reading with
          params := some names, ownTables := [], ownValues := []
          functions := reading.functions.modify index fun entry =>
            { entry with params := some names } }
      let body ← stmt.block fuel
      modify fun reading =>
        { reading with
          params := none
          functions := reading.functions.modify index fun entry => { entry with body } }
  | _ => unexpected

def action (fuel : Nat) : Reader (Option (List Stmt)) := do
  if ← atSign "\x7b" then
    modify fun reading => { reading with inRule := true }
    let body ← stmt.block fuel
    modify fun reading => { reading with inRule := false }
    return some body
  else
    terminator
    return none

def items : Nat → Program → Reader Program
  | 0, program => return program
  | fuel + 1, program => do
      match ← peek with
      | none => return program
      | some .newline => do
          skipLines
          items fuel program
      | some (.sign ";") => do
          advance
          items fuel program
      | some (.keyword "BEGIN") => do
          advance
          let body ← stmt.block fuel
          items fuel { program with begins := program.begins ++ [body] }
      | some (.keyword "END") => do
          advance
          let body ← stmt.block fuel
          items fuel { program with ends := program.ends ++ [body] }
      | some (.keyword "function") => do
          advance
          function fuel
          items fuel program
      | some (.sign "\x7b") => do
          let body ← action fuel
          items fuel { program with rules := program.rules ++ [⟨.always, body⟩] }
      | some _ => do
          let first ← expr fuel 0 false
          if ← trySign "," then
            skipLines
            let last ← expr fuel 0 false
            let body ← action fuel
            let rule : Rule := ⟨.between program.ranges first last, body⟩
            items fuel { program with
              rules := program.rules ++ [rule]
              ranges := program.ranges + 1 }
          else
            let body ← action fuel
            items fuel { program with rules := program.rules ++ [⟨.if' first, body⟩] }

def functionNames : List Lexeme → List String
  | ⟨.keyword "function", _⟩ :: ⟨.name name _, line⟩ :: rest =>
      name :: functionNames (⟨.name name false, line⟩ :: rest)
  | _ :: rest => functionNames rest
  | [] => []

end Reader

def Program.ofText (text : Octets) : Except SyntaxFault Program := do
  let lexemes ← Lexeme.readAll text
  let start : Reading := { lexemes, known := Reader.functionNames lexemes }
  let (program, reading) ← (Reader.items (40 * lexemes.length + 100) {}).run start
  match reading.functions.find? fun entry => entry.params.isNone with
  | some entry => throw ⟨reading.line + 1, "function " ++ entry.name ++ " never defined"⟩
  | none =>
      let paramsOf (index : Nat) : Nat :=
        ((reading.functions[index]?.bind FunctionEntry.params).getD []).length
      match reading.calls.reverse.find? fun (index, count, _) => paramsOf index < count with
      | some (index, _, line) =>
          let name := (reading.functions[index]?.map FunctionEntry.name).getD ""
          throw ⟨line, "too many arguments in call to " ++ name⟩
      | none =>
          return { program with
            names := reading.names.toList
            functions := reading.functions.toList.map fun entry =>
              { name := entry.name
                params := (entry.params.getD []).length
                body := entry.body } }

end ArtifactPipeline.Awk
