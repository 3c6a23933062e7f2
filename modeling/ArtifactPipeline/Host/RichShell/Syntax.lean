import ArtifactPipeline.Host.Scene

set_option autoImplicit false

namespace ArtifactPipeline.RichShell

open Text (Octets)

inductive CaseChange where
  | upper
  | lower
  | other
  deriving DecidableEq, Repr

inductive ParamUse where
  | value
  | bare
  | length
  | orElse (colon : Bool)
  | orAssign (colon : Bool)
  | ifSet (colon : Bool)
  | orFail (colon : Bool)
  | dropStart (longest : Bool)
  | dropEnd (longest : Bool)
  | replace
  | part
  | recase (change : CaseChange) (all : Bool)
  | formed (letter : Char)
  deriving DecidableEq, Repr

inductive RedirectKind where
  | file (access : Scene.Access) (careful : Bool)
  | copy (writing : Bool)
  | both (appending : Bool)
  | text
  deriving DecidableEq, Repr

inductive Holder where
  | number (descriptor : Nat)
  | variable (name : Octets)
  deriving DecidableEq, Repr

inductive BranchEnd where
  | leave
  | fall
  | goOn
  deriving DecidableEq, Repr

mutual

inductive Piece where
  | text (chars : Octets) (quoted : Bool)
  | home (user : Octets)
  | param (target : Target) (use : ParamUse) (words : List (List Piece)) (quoted : Bool)
  | senseless (text : Octets)
  | output (script : Command) (line : Nat) (quoted : Bool)
  | outputOfText (script : Octets) (quoted : Bool)
  | arithmetic (expression : List Piece) (quoted : Bool)
  | channel (forWriting : Bool) (script : Command)
  | elements (items : List (Option (List Piece) × Bool × List Piece))

inductive Target where
  | name (name : Octets)
  | element (name : Octets) (raw : Octets) (subscript : List Piece)
  | all (name : Octets) (star : Bool)
  | named (target : Target)
  | keys (name : Octets) (star : Bool)
  | starting (start : Octets) (star : Bool)

inductive Redirection where
  | open (holder : Option Holder) (kind : RedirectKind) (raw : Octets) (word : List Piece)
  | here (holder : Option Holder) (number : Nat) (delimiter : Octets) (dropTabs : Bool)

inductive Condition where
  | filled (raw : Octets) (word : List Piece)
  | unary (operator : String) (raw : Octets) (word : List Piece)
  | binary (operator : String) (rawLeft : Octets) (left : List Piece) (rawRight : Octets)
      (right : List Piece)
  | not (condition : Condition)
  | and (first second : Condition)
  | or (first second : Condition)
  | group (condition : Condition)

inductive Command where
  | nothing
  | simple (assignments : List (Octets × List Piece)) (words : List (Octets × List Piece))
      (redirections : List Redirection) (line : Nat)
  | pipeline (parts : List Command)
  | negated (command : Command)
  | timed (short : Bool) (command : Command)
  | both (first second : Command)
  | either (first second : Command)
  | sequence (first second : Command)
  | background (command : Command)
  | subshell (body : Command)
  | group (body : Command)
  | redirected (command : Command) (redirections : List Redirection)
  | choice (condition first second : Command)
  | loop (untilHolds : Bool) (condition body : Command)
  | each (menu : Bool) (name : Octets) (words : Option (List (Octets × List Piece))) (body : Command)
      (line : Nat)
  | counted (first condition step : Octets × List Piece) (body : Command) (line : Nat)
  | match (raw : Octets) (word : List Piece)
      (branches : List (List (Octets × List Piece) × Command × BranchEnd)) (line : Nat)
  | define (name : Octets) (body : Command)
  | compute (raw : Octets) (expression : List Piece) (line : Nat)
  | test (condition : Condition) (line : Nat)
  | partner (name : Octets) (body : Command)

end

abbrev Pieces := List Piece

abbrev Word := Octets × Pieces

structure HereDocument where
  raw : Octets
  pieces : Pieces

end ArtifactPipeline.RichShell
