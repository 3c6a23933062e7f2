import ArtifactPipeline.Host.RichShell.Builtins.Names
import ArtifactPipeline.Host.RichShell.Builtins.Places
import ArtifactPipeline.Host.RichShell.Condition

set_option autoImplicit false

namespace ArtifactPipeline.RichShell

open Text (Octets)

open Builtins in
def builtins : List (String × Builtin) := [
  (":", fun _ _ _ => pure 0),
  (".", source),
  ("[", onWords fun _ _ args => Test.test true args),
  ("alias", alias'),
  ("bg", resume true),
  ("bind", bind),
  ("break", leaveLoops false),
  ("caller", caller),
  ("cd", cd),
  ("compgen", compgen),
  ("complete", complete),
  ("compopt", compopt),
  ("continue", leaveLoops true),
  ("declare", declareWith false),
  ("dirs", dirs),
  ("disown", disown),
  ("echo", echo),
  ("enable", enable),
  ("eval", eval),
  ("exit", exit),
  ("export", markWith 'x'),
  ("false", fun _ _ _ => pure 1),
  ("fc", recallLines),
  ("fg", resume false),
  ("getopts", getopts),
  ("hash", hash),
  ("help", help),
  ("history", history),
  ("jobs", jobs),
  ("kill", kill),
  ("let", compute),
  ("local", declareWith true),
  ("logout", logout),
  ("mapfile", mapfile),
  ("popd", popd),
  ("printf", printf),
  ("pushd", pushd),
  ("pwd", pwd),
  ("read", read),
  ("readarray", mapfile),
  ("readonly", markWith 'r'),
  ("return", giveBackStatus),
  ("set", set'),
  ("shift", shift),
  ("shopt", shopt),
  ("source", source),
  ("suspend", suspend),
  ("test", onWords fun _ _ args => Test.test false args),
  ("times", times),
  ("trap", trap),
  ("true", fun _ _ _ => pure 0),
  ("type", type'),
  ("typeset", declareWith false),
  ("ulimit", ulimit),
  ("umask", umask),
  ("unalias", unalias),
  ("unset", unset),
  ("wait", wait)
]

end ArtifactPipeline.RichShell
