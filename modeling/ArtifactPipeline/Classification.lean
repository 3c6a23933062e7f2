import ArtifactPipeline.Text.Basic
import ArtifactPipeline.Text.Lower

set_option autoImplicit false

namespace ArtifactPipeline

inductive Visibility where
  | unrestricted
  | restricted
  deriving DecidableEq, Repr, Inhabited

inductive TemporalClass where
  | static
  | timeDependent
  deriving DecidableEq, Repr, Inhabited

inductive ModeFilter where
  | publicOnly
  | full
  deriving DecidableEq, Repr, Inhabited

inductive ClassFault where
  | visibility (word : String)
  | temporal (word : String)
  deriving DecidableEq, Repr

def ClassFault.message : ClassFault → String
  | .visibility word =>
      "invalid visibility: " ++ word ++ " (expected \"public\" or \"restricted\")"
  | .temporal word =>
      "invalid temporal class: " ++ word ++ " (expected \"static\" or \"time_dependent\")"

def Visibility.read (text : String) : Except ClassFault Visibility :=
  match Text.lower (Text.trimText text) with
  | "public" => .ok .unrestricted
  | "restricted" => .ok .restricted
  | other => .error (.visibility other)

def TemporalClass.read (text : String) : Except ClassFault TemporalClass :=
  match Text.lower (Text.trimText text) with
  | "static" => .ok .static
  | "time_dependent" | "td" => .ok .timeDependent
  | other => .error (.temporal other)

def ModeFilter.admits (mode : ModeFilter) (publicOnly : Bool) : Bool :=
  match mode with
  | .publicOnly => publicOnly
  | .full => !publicOnly

end ArtifactPipeline
