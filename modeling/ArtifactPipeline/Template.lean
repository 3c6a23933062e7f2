import ArtifactPipeline.Command
import ArtifactPipeline.Feature
import ArtifactPipeline.Text.Basic

set_option autoImplicit false

namespace ArtifactPipeline

inductive Placeholder where
  | dataset
  | queries
  | nproc
  | output
  | features
  | root
  deriving DecidableEq, Repr

namespace Placeholder

def all : List Placeholder := [.dataset, .queries, .nproc, .output, .features, .root]

def name : Placeholder → String
  | .dataset => "dataset"
  | .queries => "queries"
  | .nproc => "nproc"
  | .output => "output"
  | .features => "features"
  | .root => "root"

def pattern (p : Placeholder) : List Char :=
  '\x7b' :: p.name.toList ++ ['\x7d']

theorem mem_all (p : Placeholder) : p ∈ all := by
  cases p <;> simp [all]

end Placeholder

namespace Template

structure Context where
  dataset : Option String := none
  features : Option FeatureSet := none
  output : Option String := none
  queries : Nat := 0
  nproc : Nat := 0
  root : String := ""

def Context.value? (ctx : Context) : Placeholder → Option String
  | .dataset => ctx.dataset
  | .output => ctx.output
  | .queries => some (Nat.repr ctx.queries)
  | .nproc => some (Nat.repr ctx.nproc)
  | .root => some ctx.root
  | .features => ctx.features.map FeatureSet.joined

-- `opened` holds the name read so far, last character first, after an opening brace.
def scan (opened : Option (List Char)) : List Char → List (List Char)
  | [] => []
  | c :: rest =>
      match opened with
      | none => if c = '\x7b' then scan (some []) rest else scan none rest
      | some name =>
          if c = '\x7d' then name.reverse :: scan none rest else scan (some (c :: name)) rest

def placeholders (template : String) : List String :=
  (scan none template.toList).map String.ofList

def substitute (ctx : Context) (text : List Char) (p : Placeholder) : List Char :=
  match ctx.value? p with
  | some value => Text.replace p.pattern value.toList text
  | none => text

def renderText (ctx : Context) (text : List Char) : List Char :=
  Placeholder.all.foldl (substitute ctx) text

def render (ctx : Context) (template : String) : String :=
  String.ofList (renderText ctx template.toList)

def renderArg (ctx : Context) (arg : String) : List String :=
  match ctx.features with
  | some features =>
      if arg.toList = Placeholder.features.pattern then
        if features.isEmpty then [] else ["--features", features.joined]
      else [render ctx arg]
  | none => [render ctx arg]

def renderArgs (ctx : Context) (args : List String) : List String :=
  args.flatMap (renderArg ctx)

def renderEnv (ctx : Context) (env : Environment) : Environment :=
  env.mapValues (render ctx)

end Template

end ArtifactPipeline
