import ArtifactPipeline.Host.RichShell.Subshell

set_option autoImplicit false

namespace ArtifactPipeline.RichShell

open Text (Octets)

structure Operand where
  text : Octets
  items : Option (List Element) := none

abbrev Builtin := Kit → Mode → List Operand → Sh Nat

namespace Builtins

def synopses : List (String × String) := [
  (".", ". filename [arguments]"),
  (":", ":"),
  ("[", "[ arg... ]"),
  ("alias", "alias [-p] [name[=value] ... ]"),
  ("bg", "bg [job_spec ...]"),
  ("bind", "bind [-lpsvPSVX] [-m keymap] [-f filename] [-q name] [-u name] [-r keyseq] " ++
    "[-x keyseq:shell-command] [keyseq:readline-function or readline-command]"),
  ("break", "break [n]"),
  ("builtin", "builtin [shell-builtin [arg ...]]"),
  ("caller", "caller [expr]"),
  ("cd", "cd [-L|[-P [-e]] [-@]] [dir]"),
  ("command", "command [-pVv] command [arg ...]"),
  ("compgen", "compgen [-abcdefgjksuv] [-o option] [-A action] [-G globpat] [-W wordlist] " ++
    "[-F function] [-C command] [-X filterpat] [-P prefix] [-S suffix] [word]"),
  ("complete", "complete [-abcdefgjksuv] [-pr] [-DEI] [-o option] [-A action] [-G globpat] " ++
    "[-W wordlist] [-F function] [-C command] [-X filterpat] [-P prefix] [-S suffix] [name ...]"),
  ("compopt", "compopt [-o|+o option] [-DEI] [name ...]"),
  ("continue", "continue [n]"),
  ("declare",
    "declare [-aAfFgiIlnrtux] [name[=value] ...] or declare -p [-aAfFilnrtux] [name ...]"),
  ("dirs", "dirs [-clpv] [+N] [-N]"),
  ("disown", "disown [-h] [-ar] [jobspec ... | pid ...]"),
  ("echo", "echo [-neE] [arg ...]"),
  ("enable", "enable [-a] [-dnps] [-f filename] [name ...]"),
  ("eval", "eval [arg ...]"),
  ("exec", "exec [-cl] [-a name] [command [argument ...]] [redirection ...]"),
  ("exit", "exit [n]"),
  ("export", "export [-fn] [name[=value] ...] or export -p"),
  ("false", "false"),
  ("fc", "fc [-e ename] [-lnr] [first] [last] or fc -s [pat=rep] [command]"),
  ("fg", "fg [job_spec]"),
  ("getopts", "getopts optstring name [arg ...]"),
  ("hash", "hash [-lr] [-p pathname] [-dt] [name ...]"),
  ("help", "help [-dms] [pattern ...]"),
  ("history", "history [-c] [-d offset] [n] or history -anrw [filename] or history -ps arg [arg...]"),
  ("jobs", "jobs [-lnprs] [jobspec ...] or jobs -x command [args]"),
  ("kill", "kill [-s sigspec | -n signum | -sigspec] pid | jobspec ... or kill -l [sigspec]"),
  ("let", "let arg [arg ...]"),
  ("local", "local [option] name[=value] ..."),
  ("logout", "logout [n]"),
  ("mapfile", "mapfile [-d delim] [-n count] [-O origin] [-s count] [-t] [-u fd] [-C callback] " ++
    "[-c quantum] [array]"),
  ("popd", "popd [-n] [+N | -N]"),
  ("printf", "printf [-v var] format [arguments]"),
  ("pushd", "pushd [-n] [+N | -N | dir]"),
  ("pwd", "pwd [-LP]"),
  ("read", "read [-ers] [-a array] [-d delim] [-i text] [-n nchars] [-N nchars] [-p prompt] " ++
    "[-t timeout] [-u fd] [name ...]"),
  ("readarray", "readarray [-d delim] [-n count] [-O origin] [-s count] [-t] [-u fd] " ++
    "[-C callback] [-c quantum] [array]"),
  ("readonly", "readonly [-aAf] [name[=value] ...] or readonly -p"),
  ("return", "return [n]"),
  ("set", "set [-abefhkmnptuvxBCEHPT] [-o option-name] [--] [-] [arg ...]"),
  ("shift", "shift [n]"),
  ("shopt", "shopt [-pqsu] [-o] [optname ...]"),
  ("source", "source filename [arguments]"),
  ("suspend", "suspend [-f]"),
  ("test", "test [expr]"),
  ("times", "times"),
  ("trap", "trap [-lp] [[arg] signal_spec ...]"),
  ("true", "true"),
  ("type", "type [-afptP] name [name ...]"),
  ("typeset",
    "typeset [-aAfFgiIlnrtux] name[=value] ... or typeset -p [-aAfFilnrtux] [name ...]"),
  ("ulimit", "ulimit [-SHabcdefiklmnpqrstuvxPRT] [limit]"),
  ("umask", "umask [-p] [-S] [mode]"),
  ("unalias", "unalias [-a] name [name ...]"),
  ("unset", "unset [-f] [-v] [-n] [name ...]"),
  ("wait", "wait [-fn] [-p var] [id ...]")
]

def tellUsage : Sh Nat := do
  let name := String.ofList ((← get).builtin.getD [])
  Sh.usage ((synopses.lookup name).getD name)

def optionKind? (letters : List Char) (letter : Char) : Option Bool :=
  match letters with
  | [] => none
  | c :: ':' :: rest => if c == letter then some true else optionKind? rest letter
  | c :: rest => if c == letter then some false else optionKind? rest letter

structure Options where
  given : List (Char × Char × Octets) := []
  operands : List Operand := []

namespace Options

def has (options : Options) (letter : Char) : Bool :=
  options.given.any fun option => option.2.1 == letter

def value? (options : Options) (letter : Char) : Option Octets :=
  ((options.given.filter fun option => option.2.1 == letter).getLast?).map fun option => option.2.2

def lastOf? (options : Options) (letters : List Char) : Option Char :=
  ((options.given.filter fun option => letters.contains option.2.1).getLast?).map fun option =>
    option.2.1

def texts (options : Options) : List Octets :=
  options.operands.map (·.text)

end Options

def readOptions (letters : String) (plus : Bool) :
    Nat → List Operand → List (Char × Char × Octets) → Sh (Option Options)
  | 0, operands, given => pure (some { given := given.reverse, operands })
  | fuel + 1, operands, given =>
      match operands with
      | { text := ['-', '-'], .. } :: rest => pure (some { given := given.reverse, operands := rest })
      | { text := sign :: c :: cluster, .. } :: rest => do
          if sign == '-' || (plus && sign == '+') then
            match ← clusterOf sign (c :: cluster) rest given with
            | some (given, rest) => readOptions letters plus fuel rest given
            | none => return none
          else return some { given := given.reverse, operands }
      | operands => pure (some { given := given.reverse, operands })
where
  clusterOf (sign : Char) : Octets → List Operand → List (Char × Char × Octets) →
      Sh (Option (List (Char × Char × Octets) × List Operand))
    | [], rest, given => pure (some (given, rest))
    | letter :: cluster, rest, given =>
        match optionKind? letters.toList letter with
        | some true =>
            match cluster, rest with
            | [], operand :: rest => pure (some ((sign, letter, operand.text) :: given, rest))
            | [], [] => do
                Sh.complainAs ("-" ++ letter.toString ++ ": option requires an argument")
                let _ ← tellUsage
                return none
            | cluster, rest => pure (some ((sign, letter, cluster) :: given, rest))
        | some false => clusterOf sign cluster rest ((sign, letter, []) :: given)
        | none => do
            Sh.complainAs (sign.toString ++ letter.toString ++ ": invalid option")
            let _ ← tellUsage
            return none

def withOptions (letters : String) (plus : Bool) (operands : List Operand)
    (run : Options → Sh Nat) : Sh Nat := do
  match ← readOptions letters plus (operands.length + 1) operands [] with
  | some options => run options
  | none => return 2

def onWords (run : Kit → Mode → List Octets → Sh Nat) : Builtin :=
  fun kit mode operands => run kit mode (operands.map (·.text))

def print (text : Octets) : Sh Nat := do
  if text.isEmpty then return 0
  else
    match (← (Chore.write 1 text : Chore _) : Except HostFault Unit) with
    | .ok () => return 0
    | .error fault => do
        Sh.complainAs ("write error: " ++ fault.message)
        return 1

def line (text : Octets) : Sh Unit := do
  let _ ← print (text ++ ['\n'])

def integer? (text : Octets) : Option Int :=
  let isSpace (c : Char) := c == ' ' || (9 ≤ c.toNat && c.toNat ≤ 13)
  let trimmed := ((text.dropWhile isSpace).reverse.dropWhile isSpace).reverse
  (Tools.integer? trimmed).filter fun n =>
    -9223372036854775808 ≤ n && n ≤ 9223372036854775807

def eachOf {α : Type} (items : List α) (run : α → Sh Nat) : Sh Nat :=
  go items 0
where
  go : List α → Nat → Sh Nat
    | [], status => pure status
    | item :: rest, status => do
        let own ← run item
        go rest (if own = 0 then status else own)

def refuseMore {α : Type} : Sh α := do
  Sh.complainAs "too many arguments"
  Sh.setStatus 1
  throw .dropped

def invalidName (name : Octets) : Sh Unit :=
  Sh.complainAs ("\x60" ++ String.ofList name ++ "': not a valid identifier")

end Builtins

end ArtifactPipeline.RichShell
