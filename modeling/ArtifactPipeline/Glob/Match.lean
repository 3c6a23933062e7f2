import ArtifactPipeline.Glob.Pattern
import ArtifactPipeline.Text.Basic
import ArtifactPipeline.Text.Utf8

set_option autoImplicit false

namespace ArtifactPipeline.Glob

open Text (Nesting)

abbrev Bytes := List UInt8

def slash : UInt8 := 0x2F

/-- Byte ranges of a character range: the bytes of the ends stand for themselves, and the range
runs from the last byte of the one to the first byte of the other. -/
def rangeBytes (range : Char × Char) : List (UInt8 × UInt8) :=
  let low := String.utf8EncodeChar range.1
  let high := String.utf8EncodeChar range.2
  let alone (bs : Bytes) := bs.map fun b => (b, b)
  if range.1 = range.2 then alone low
  else
    match low.getLast?, high.head? with
    | some l, some h => alone low.dropLast ++ (l, h) :: alone high.tail
    | _, _ => []

def inClass (negated : Bool) (ranges : List (Char × Char)) (b : UInt8) : Bool :=
  ((ranges.flatMap rangeBytes).any fun range => range.1 ≤ b && b ≤ range.2) != negated

def afterBytes : Bytes → Bytes → Option Bytes
  | [], text => some text
  | _ :: _, [] => none
  | b :: bs, c :: text => if b = c then afterBytes bs text else none

def afterNames : Bytes → List Bytes
  | [] => [[]]
  | b :: rest => (b :: rest) :: if b = slash then [] else afterNames rest

def tails : Bytes → List Bytes
  | [] => [[]]
  | b :: rest => (b :: rest) :: tails rest

def afterSlashes : Bytes → List Bytes
  | [] => []
  | b :: rest => if b = slash then rest :: afterSlashes rest else afterSlashes rest

mutual

def Token.isVoid : Token → Bool
  | .choice branches => allVoid branches
  | _ => false

def isVoidSeq : List Token → Bool
  | [] => true
  | token :: rest => token.isVoid && isVoidSeq rest

def allVoid : List (List Token) → Bool
  | [] => true
  | branch :: rest => isVoidSeq branch && allVoid rest

end

mutual

def Token.rests : Token → Bytes → List Bytes
  | .literal c, text => (afterBytes (String.utf8EncodeChar c) text).toList
  | .any, text =>
      match text with
      | b :: rest => if b = slash then [] else [rest]
      | [] => []
  | .star, text => afterNames text
  | .treeStart, text => text :: afterSlashes text
  | .treeEnd, text =>
      match text with
      | b :: rest => if b = slash then tails rest else []
      | [] => []
  | .treeBetween, text =>
      match text with
      | b :: rest => if b = slash then rest :: afterSlashes rest else []
      | [] => []
  | .charClass negated ranges, text =>
      match text with
      | b :: rest => if inClass negated ranges b then [rest] else []
      | [] => []
  | .choice branches, text => if allVoid branches then [text] else choiceRests branches text

def seqRests : List Token → List Bytes → List Bytes
  | [], texts => texts
  | token :: rest, texts => seqRests rest (texts.flatMap token.rests).eraseDups

def choiceRests : List (List Token) → Bytes → List Bytes
  | [], _ => []
  | branch :: rest, text =>
      (if isVoidSeq branch then [] else seqRests branch [text]) ++ choiceRests rest text

end

def classDepth (ranges : List (Char × Char)) : Nat :=
  if 1 < (ranges.flatMap rangeBytes).length then 2 else 1

mutual

def Token.depth : Token → Nesting
  | .literal c => ⟨(String.utf8EncodeChar c).length, 0⟩
  | .any => ⟨1, 1⟩
  | .star => ⟨1, 2⟩
  | .treeStart => ⟨1, 4⟩
  | .treeEnd => ⟨2, 1⟩
  | .treeBetween => ⟨1, 4⟩
  | .charClass _ ranges => ⟨1, classDepth ranges⟩
  | .choice branches =>
      if allVoid branches then .none else ⟨1, (choiceDepth branches).total + 1⟩

def seqDepth : List Token → Nesting
  | [] => .none
  | token :: rest => token.depth.add (seqDepth rest)

def choiceDepth : List (List Token) → Nesting
  | [] => .none
  | branch :: rest =>
      if isVoidSeq branch then choiceDepth rest
      else (Nesting.one (seqDepth branch).total).add (choiceDepth rest)

end

def isTooDeep (tokens : List Token) : Bool :=
  match tokens with
  | [.treeStart] => false
  | tokens => Nesting.limit < (seqDepth tokens).deepest + 1

inductive Fault where
  | malformed
  | tooDeep

def compile (pattern : String) : Except Fault (List Token) :=
  match tokens? pattern with
  | none => .error .malformed
  | some tokens => if isTooDeep tokens then .error .tooDeep else .ok tokens

def isMatch (tokens : List Token) (text : Bytes) : Bool :=
  match tokens with
  | [.treeStart] => true
  | tokens => (seqRests tokens [text]).any List.isEmpty

end ArtifactPipeline.Glob
