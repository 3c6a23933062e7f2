set_option autoImplicit false

namespace ArtifactPipeline

structure FeatureSet where
  flags : List String
  deriving DecidableEq, Repr, Inhabited

namespace FeatureSet

def empty : FeatureSet := ⟨[]⟩

def add (features : FeatureSet) (flag : String) : FeatureSet :=
  if flag ∈ features.flags then features else ⟨features.flags ++ [flag]⟩

def ofSubsets (subsets : List (List String)) : FeatureSet :=
  subsets.flatten.foldl add empty

def contains (features : FeatureSet) (flag : String) : Bool :=
  decide (flag ∈ features.flags)

def containsAll (features : FeatureSet) (flags : List String) : Bool :=
  flags.all features.contains

def containsAny (features : FeatureSet) (flags : List String) : Bool :=
  flags.any features.contains

def isEmpty (features : FeatureSet) : Bool :=
  features.flags.isEmpty

def size (features : FeatureSet) : Nat :=
  features.flags.length

def joined (features : FeatureSet) : String :=
  String.intercalate " " features.flags

end FeatureSet

inductive Guard where
  | requires (flag : String) (others : List String)
  | excludes (flag : String) (others : List String)
  deriving DecidableEq, Repr

namespace Guard

def admits (features : FeatureSet) : Guard → Bool
  | .requires flag others => !features.contains flag || features.containsAll others
  | .excludes flag others => !features.contains flag || !features.containsAny others

def flags : Guard → List String
  | .requires flag others | .excludes flag others => flag :: others

end Guard

abbrev Axis := List (List String)

def choices : List Axis → List (List (List String))
  | [] => [[]]
  | axis :: axes => axis.flatMap fun subset => (choices axes).map (subset :: ·)

def featureCombinations (axes : List Axis) : List FeatureSet :=
  (choices axes).map FeatureSet.ofSubsets

end ArtifactPipeline
