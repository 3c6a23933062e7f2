import ArtifactPipeline.Host.Scene

set_option autoImplicit false

namespace ArtifactPipeline.Shell

open Text (Octets)

inductive ParamUse where
  | value
  | length
  | orElse (colon : Bool)
  | orAssign (colon : Bool)
  | ifSet (colon : Bool)
  | orFail (colon : Bool)
  | dropStart (longest : Bool)
  | dropEnd (longest : Bool)
  deriving DecidableEq, Repr

inductive RedirectKind where
  | file (access : Scene.Access) (careful : Bool)
  | copy
  deriving DecidableEq, Repr

mutual

inductive Piece where
  | text (chars : Octets) (quoted : Bool)
  | home (user : Octets)
  | param (name : Octets) (use : ParamUse) (word : List Piece) (quoted : Bool)
  | senseless
  | output (script : Command) (quoted : Bool)
  | arithmetic (expression : List Piece) (quoted : Bool)

inductive Redirection where
  | open (descriptor : Nat) (kind : RedirectKind) (word : List Piece)
  | here (descriptor : Nat) (number : Nat)

inductive Command where
  | nothing
  | simple (assignments : List (Octets × List Piece)) (words : List (List Piece))
      (redirections : List Redirection) (line : Nat)
  | pipeline (parts : List Command)
  | negated (command : Command)
  | both (first second : Command)
  | either (first second : Command)
  | sequence (first second : Command)
  | background (command : Command)
  | subshell (body : Command)
  | redirected (command : Command) (redirections : List Redirection)
  | choice (condition first second : Command)
  | loop (untilHolds : Bool) (condition body : Command)
  | each (name : Octets) (words : Option (List (List Piece))) (body : Command)
  | match (word : List Piece) (branches : List (List (List Piece) × Command))
  | define (name : Octets) (body : Command)

end

abbrev Word := List Piece

abbrev HereDocument := Word

def isNameStart (c : Char) : Bool :=
  c.isAlpha || c == '_'

def isNameChar (c : Char) : Bool :=
  c.isAlphanum || c == '_'

def isName : Octets → Bool
  | [] => false
  | c :: rest => isNameStart c && rest.all isNameChar

end ArtifactPipeline.Shell
