import ArtifactPipeline.NodeId
import ArtifactPipeline.Text.Basic

set_option autoImplicit false

namespace ArtifactPipeline

structure OutputNamer where
  stamp : String
  seq : Nat := 0
  deriving DecidableEq, Repr

namespace OutputNamer

def fileName (namer : OutputNamer) (extension : String) : String :=
  namer.stamp ++ "-" ++ Text.padZeros 4 namer.seq ++ "." ++ extension

def advance (namer : OutputNamer) : OutputNamer :=
  { namer with seq := namer.seq + 1 }

def next (namer : OutputNamer) (expDir : Path) (category extension : String) :
    Path × OutputNamer :=
  let namer := namer.advance
  ((expDir.join ⟨category⟩).join ⟨namer.fileName extension⟩, namer)

@[simp] theorem next_snd (namer : OutputNamer) (expDir : Path) (category extension : String) :
    (namer.next expDir category extension).2 = namer.advance := rfl

@[simp] theorem advance_stamp (namer : OutputNamer) : namer.advance.stamp = namer.stamp := rfl

@[simp] theorem advance_seq (namer : OutputNamer) : namer.advance.seq = namer.seq + 1 := rfl

end OutputNamer

end ArtifactPipeline
