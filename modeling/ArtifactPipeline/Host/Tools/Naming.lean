import ArtifactPipeline.Host.Tools.Call

set_option autoImplicit false

namespace ArtifactPipeline.Tools

open Text (Octets)

/-- A value by its name, of which the start is enough as long as it is clear. None of the values is a
`.error false`, several are a `.error true`. -/
def choose {α : Type} [DecidableEq α] (table : List (String × α)) (text : Octets) :
    Except Bool α :=
  match table.lookup (String.ofList text) with
  | some value => .ok value
  | none =>
      match table.filter fun entry => text.isPrefixOf entry.1.toList with
      | [] => .error false
      | first :: others =>
          if others.all fun entry => entry.2 == first.2 then .ok first.2 else .error true

def choices {α : Type} [DecidableEq α] (table : List (String × α)) : String :=
  let values := (table.map (·.2)).eraseDups
  "\nValid arguments are:" ++ String.join (values.map fun value =>
    let names := (table.filter fun entry => entry.2 == value).map fun entry =>
      "'" ++ entry.1 ++ "'"
    "\n  - " ++ ", ".intercalate names)

def chooseFor {α : Type} [DecidableEq α] (what : String) (table : List (String × α))
    (text : Octets) : Except String α :=
  match choose table text with
  | .ok value => .ok value
  | .error several =>
      .error ((if several then "ambiguous" else "invalid") ++ " argument " ++ inQuotes text ++
        " for '" ++ what ++ "'" ++ choices table)

inductive NameStyle where
  | literal
  | shell
  | shellAlways
  | shellEscape
  | shellEscapeAlways
  | doubled
  | doubledMaybe
  | escape
  | single
  | locale
  deriving DecidableEq, Repr

namespace NameStyle

def named : List (String × NameStyle) := [
  ("literal", .literal), ("shell", .shell), ("shell-always", .shellAlways),
  ("shell-escape", .shellEscape), ("shell-escape-always", .shellEscapeAlways), ("c", .doubled),
  ("c-maybe", .doubledMaybe), ("escape", .escape), ("locale", .single), ("clocale", .locale)]

def isSpecial (also : Char → Bool) (first : Bool) (c : Char) : Bool :=
  also c || " !\"$&'()*;<=>?[\\^\x60|\t\n\r".toList.contains c || (first && (c == '#' || c == '~'))

def needsShellQuotes (also : Char → Bool) (escapes : Bool) (name : Octets) : Bool :=
  match name with
  | [] => true
  | ['\x7b'] | ['\x7d'] => true
  | first :: rest =>
      isSpecial also true first || rest.any (isSpecial also false) ||
        (escapes && name.any fun c => !isShown c)

def backslashed (special : Char → Bool) (name : Octets) : Octets :=
  name.flatMap fun c =>
    if c == '\\' || special c then ['\\', c] else if isShown c then [c] else codeOf c

def plainQuoted (name : Octets) : Octets :=
  if name.contains '\'' && name.all isTame then '"' :: name ++ ['"']
  else '\'' :: name.flatMap (fun c => if c == '\'' then "'\\''".toList else [c]) ++ ['\'']

def apply (style : NameStyle) (also : Char → Bool) (name : Octets) : Octets :=
  match style with
  | .literal => name
  | .shell => if needsShellQuotes also false name then plainQuoted name else name
  | .shellAlways => plainQuoted name
  | .shellEscape => if needsShellQuotes also true name then (quote name).toList else name
  | .shellEscapeAlways => (quote name).toList
  | .doubled => '"' :: backslashed (fun c => c == '"' || also c) name ++ ['"']
  | .doubledMaybe =>
      if name.any fun c => c == '"' || also c || !isShown c then
        '"' :: backslashed (fun c => c == '"' || also c) name ++ ['"']
      else name
  | .escape => backslashed also name
  | .single => '\'' :: backslashed (fun c => c == '\'' || also c) name ++ ['\'']
  | .locale => '"' :: backslashed (fun c => c == '"' || also c) name ++ ['"']

def isOptional (style : NameStyle) : Bool :=
  style == .shell || style == .shellEscape || style == .doubledMaybe

def masked (name : Octets) : Octets :=
  name.map fun c => if isShown c then c else '?'

end NameStyle

end ArtifactPipeline.Tools
