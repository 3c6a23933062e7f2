import ArtifactPipeline.Host.Regex.Basic

set_option autoImplicit false

namespace ArtifactPipeline.Awk

open Text (Octets)

inductive Holder where
  | shared (index : Nat)
  | own (index : Nat)
  deriving DecidableEq, Repr

inductive Arith where
  | add
  | subtract
  | multiply
  | divide
  | remainder
  | power
  deriving DecidableEq, Repr

inductive Relation where
  | less
  | atMost
  | equal
  | unequal
  | greater
  | atLeast
  deriving DecidableEq, Repr

inductive Builtin where
  | length
  | index
  | substr
  | sprintf
  | sin
  | cos
  | atan2
  | exp
  | log
  | int
  | sqrt
  | rand
  | srand
  | close
  | flush
  | system
  | upper
  | lower
  | split
  | sub
  | gsub
  | match'
  | makeTime
  | formatTime
  | now
  deriving DecidableEq, Repr

mutual

inductive Expr where
  | number (x : Float)
  | text (text : Octets)
  | pattern (text : Octets) (finder : Finder)
  | var (holder : Holder)
  | item (table : Holder) (keys : List Expr)
  | field (place : Expr)
  | assign (target : Expr) (operation : Option Arith) (value : Expr)
  | count (target : Expr) (up before : Bool)
  | arith (operation : Arith) (first second : Expr)
  | negate (operand : Expr)
  | plus (operand : Expr)
  | not (operand : Expr)
  | join (first second : Expr)
  | compare (relation : Relation) (first second : Expr)
  | fits (negated : Bool) (first second : Expr)
  | both (first second : Expr)
  | either (first second : Expr)
  | choice (condition yes no : Expr)
  | isKey (keys : List Expr) (table : Holder)
  | call (function : Nat) (args : List Expr)
  | builtin (function : Builtin) (args : List Expr)
  | readLine (target : Option Expr) (source : LineFrom)
  | group (inner : Expr)

inductive LineFrom where
  | input
  | file (path : Expr)
  | command (command : Expr)

end

def Expr.bare : Expr → Expr
  | .group inner => bare inner
  | expr => expr

inductive OutputKind where
  | write
  | append
  | pipe
  deriving DecidableEq, Repr

inductive Stmt where
  | expr (value : Expr)
  | print (args : List Expr) (target : Option (OutputKind × Expr))
  | printf (args : List Expr) (target : Option (OutputKind × Expr))
  | block (body : List Stmt)
  | choice (condition : Expr) (yes : Stmt) (no : Option Stmt)
  | while' (condition : Expr) (body : Stmt)
  | doWhile (body : Stmt) (condition : Expr)
  | for' (start : Option Stmt) (condition : Option Expr) (step : Option Stmt) (body : Stmt)
  | forKeys (target : Holder) (table : Holder) (body : Stmt)
  | break'
  | continue'
  | next
  | nextFile
  | exit (status : Option Expr)
  | return' (value : Option Expr)
  | delete (table : Holder) (keys : List Expr)

inductive When where
  | always
  | if' (condition : Expr)
  | between (range : Nat) (first last : Expr)

structure Rule where
  condition : When
  action : Option (List Stmt)

structure Function where
  name : String
  params : Nat
  body : List Stmt

structure Program where
  begins : List (List Stmt) := []
  rules : List Rule := []
  ends : List (List Stmt) := []
  functions : List Function := []
  names : List String := []
  ranges : Nat := 0

def specialNames : List String :=
  ["NF", "NR", "FNR", "FS", "OFS", "ORS", "RS", "FILENAME", "RSTART", "RLENGTH", "SUBSEP",
    "CONVFMT", "OFMT", "ENVIRON", "ARGC", "ARGV"]

namespace Special

def fieldCount : Nat := 0
def recordCount : Nat := 1
def fileRecordCount : Nat := 2
def fieldSeparator : Nat := 3
def outputSeparator : Nat := 4
def outputEnding : Nat := 5
def recordSeparator : Nat := 6
def fileName : Nat := 7
def matchStart : Nat := 8
def matchLength : Nat := 9
def keySeparator : Nat := 10
def conversion : Nat := 11
def outputFormat : Nat := 12
def environment : Nat := 13
def argumentCount : Nat := 14
def arguments : Nat := 15

end Special

end ArtifactPipeline.Awk
