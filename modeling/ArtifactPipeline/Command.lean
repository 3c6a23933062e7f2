import ArtifactPipeline.Path.Basic
import ArtifactPipeline.Text.Quoted

set_option autoImplicit false

namespace ArtifactPipeline

structure Environment where
  vars : List (String × String)
  deriving DecidableEq, Repr, Inhabited

namespace Environment

def empty : Environment := ⟨[]⟩

def insertVar (key value : String) : List (String × String) → List (String × String)
  | [] => [(key, value)]
  | (k, v) :: rest =>
      if key < k then (key, value) :: (k, v) :: rest
      else if key = k then (key, value) :: rest
      else (k, v) :: insertVar key value rest

def insert (env : Environment) (key value : String) : Environment :=
  ⟨insertVar key value env.vars⟩

def addAll (env : Environment) (vars : List (String × String)) : Environment :=
  vars.foldl (fun env (key, value) => env.insert key value) env

def ofList (vars : List (String × String)) : Environment :=
  empty.addAll vars

def get? (env : Environment) (key : String) : Option String :=
  env.vars.lookup key

def values (env : Environment) : List String :=
  env.vars.map (·.2)

def mapValues (f : String → String) (env : Environment) : Environment :=
  ⟨env.vars.map fun (key, value) => (key, f value)⟩

end Environment

structure Redirect where
  path : Path
  append : Bool
  header : Option String
  deriving DecidableEq, Repr

structure Command where
  program : String
  args : List String
  env : Environment
  cwd : Option Path
  stdout : Option Redirect
  deriving DecidableEq, Repr

def Redirect.same (a b : Redirect) : Bool :=
  a.path.same b.path && a.append == b.append && a.header == b.header

def sameOption {α : Type} (same : α → α → Bool) : Option α → Option α → Bool
  | none, none => true
  | some a, some b => same a b
  | _, _ => false

def sameList {α : Type} (same : α → α → Bool) : List α → List α → Bool
  | [], [] => true
  | a :: as, b :: bs => same a b && sameList same as bs
  | _, _ => false

namespace Command

def same (a b : Command) : Bool :=
  a.program == b.program && a.args == b.args && a.env == b.env &&
    sameOption Path.same a.cwd b.cwd && sameOption Redirect.same a.stdout b.stdout

def isPlainChar (c : Char) : Bool :=
  !(Text.isBlank c || c == '"' || c == '\'')

def shown (word : String) : String :=
  if !word.isEmpty && word.toList.all isPlainChar then word else Text.quoted word

def showVar (var : String × String) : String :=
  var.1 ++ "=" ++ shown var.2 ++ " "

def Redirect.show (redirect : Redirect) : String :=
  (if redirect.append then " >> " else " > ") ++ shown redirect.path.text

def display (command : Command) : String :=
  let call :=
    String.join (command.env.vars.map showVar) ++ shown command.program ++
      String.join (command.args.map fun arg => " " ++ shown arg) ++
      (command.stdout.map Redirect.show).getD ""
  match command.cwd with
  | some dir => "(cd " ++ shown dir.text ++ " && " ++ call ++ ")"
  | none => call

end Command

theorem sameOption_refl {α : Type} {same : α → α → Bool} (refl : ∀ a, same a a = true)
    (a : Option α) : sameOption same a a = true := by
  cases a <;> simp [sameOption, refl]

theorem sameList_refl {α : Type} {same : α → α → Bool} (refl : ∀ a, same a a = true)
    (as : List α) : sameList same as as = true := by
  induction as with
  | nil => rfl
  | cons a as ih => simp [sameList, refl, ih]

@[simp] theorem Redirect.same_refl (redirect : Redirect) : redirect.same redirect = true := by
  simp [Redirect.same]

@[simp] theorem Command.same_refl (command : Command) : command.same command = true := by
  simp [Command.same, sameOption_refl Path.same_refl, sameOption_refl Redirect.same_refl]

end ArtifactPipeline
