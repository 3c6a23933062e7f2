import ArtifactPipeline.Host.RichShell.State
import ArtifactPipeline.Host.Tools.Call

set_option autoImplicit false

namespace ArtifactPipeline.RichShell

open Text (Octets)
open Tools (isShown codeOf)

def isMeta (c : Char) : Bool :=
  " \t\n'\"\\|&;()<>!*[?]^$\x60".toList.contains c || c == '\x7b' || c == '\x7d'

def hasMeaning (text : Octets) : Bool :=
  go none text
where
  go : Option Char → Octets → Bool
    | _, [] => false
    | before, c :: rest =>
        isMeta c || (c == '~' && (before.isNone || before = some '=' || before = some ':')) ||
          (c == '#' && (before.isNone || before = some ' ' || before = some '\t')) ||
          go (some c) rest

def singleQuoted (text : Octets) : Octets :=
  if text = ['\''] then ['\\', '\'']
  else '\'' :: text.flatMap (fun c => if c == '\'' then "'\\''".toList else [c]) ++ ['\'']

def doubleQuoted (text : Octets) : Octets :=
  '"' :: text.flatMap (fun c => if "\"\\$\x60".toList.contains c then ['\\', c] else [c]) ++ ['"']

def needsEscapes (text : Octets) : Bool :=
  text.any fun c => !isShown c

def escaped (text : Octets) : Octets :=
  "$'".toList ++ (text.flatMap fun c =>
    if c == '\'' || c == '\\' then ['\\', c]
    else if c == '\x1b' then ['\\', 'E']
    else if isShown c then [c]
    else codeOf c) ++ ['\'']

def valueForm (text : Octets) : Octets :=
  if needsEscapes text then escaped text
  else if hasMeaning text then singleQuoted text
  else text

def declaredForm (text : Octets) : Octets :=
  if needsEscapes text then escaped text else doubleQuoted text

def tracedForm (text : Octets) : Octets :=
  if text.isEmpty then ['\'', '\'']
  else if hasMeaning text then singleQuoted text
  else if needsEscapes text then escaped text
  else text

def quotedForm (text : Octets) : Octets :=
  if needsEscapes text then escaped text else singleQuoted text

def keyForm (key : Octets) : Octets :=
  if needsEscapes key then escaped key
  else if hasMeaning key || key = ['@'] then doubleQuoted key
  else key

def itemsForm : Held → Octets
  | .list items _ =>
      '(' :: Text.joinWith [' '] (items.map fun (index, text) =>
        '[' :: decimal index ++ "]=".toList ++ declaredForm text) ++ [')']
  | .table items _ =>
      '(' :: ((byShelf items).flatMap fun (key, text) =>
        '[' :: keyForm key ++ "]=".toList ++ declaredForm text ++ [' ']) ++ [')']
  | _ => []

def Variable.letters (entry : Variable) : Octets :=
  (if entry.held.isList then ['a'] else []) ++ (if entry.held.isTable then ['A'] else []) ++
    (if entry.integer then ['i'] else []) ++ (if entry.reference then ['n'] else []) ++
    (if entry.readOnly then ['r'] else []) ++ (if entry.traced then ['t'] else []) ++
    (if entry.exported then ['x'] else []) ++
    (match entry.casing with
      | some .upper => if entry.capital then ['c'] else ['u']
      | some .lower => ['l']
      | some .other => ['c']
      | none => [])

def declaration (name : Octets) (entry : Variable) : Octets :=
  let letters := entry.letters
  "declare -".toList ++ (if letters.isEmpty then ['-'] else letters) ++ ' ' :: name ++
    (match entry.held with
      | .nothing | .list _ false | .table _ false => []
      | .text text => '=' :: declaredForm text
      | held => '=' :: itemsForm held)

end ArtifactPipeline.RichShell
