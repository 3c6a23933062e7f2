import ArtifactPipeline.Host.Awk.Start
import ArtifactPipeline.Host.RichShell.Start
import ArtifactPipeline.Host.Shell.Eval
import ArtifactPipeline.Host.Tools.Arguments
import ArtifactPipeline.Host.Tools.Blocks
import ArtifactPipeline.Host.Tools.Checksums
import ArtifactPipeline.Host.Tools.Columns
import ArtifactPipeline.Host.Tools.Content
import ArtifactPipeline.Host.Tools.Diff
import ArtifactPipeline.Host.Tools.Dump
import ArtifactPipeline.Host.Tools.Edit
import ArtifactPipeline.Host.Tools.Encoding
import ArtifactPipeline.Host.Tools.Expression
import ArtifactPipeline.Host.Tools.Find
import ArtifactPipeline.Host.Tools.Lines
import ArtifactPipeline.Host.Tools.Listing
import ArtifactPipeline.Host.Tools.Pieces
import ArtifactPipeline.Host.Tools.Processes
import ArtifactPipeline.Host.Tools.Search
import ArtifactPipeline.Host.Tools.Sequence
import ArtifactPipeline.Host.Tools.Starting
import ArtifactPipeline.Host.Tools.Status
import ArtifactPipeline.Host.Tools.Surroundings
import ArtifactPipeline.Host.Tools.Transfer
import ArtifactPipeline.Host.Tools.Translate

set_option autoImplicit false

namespace ArtifactPipeline

open Text (Octets)

namespace Tools

def installed : List (String × (Exec → Tool)) := [
  ("[", fun _ => test),
  ("arch", fun _ => fixed "x86_64"),
  ("awk", Awk.awk),
  ("b2sum", fun _ => b2sum),
  ("base32", fun _ => radixTool .base32),
  ("base64", fun _ => radixTool .base64),
  ("basename", fun _ => basename),
  ("basenc", fun _ => basenc),
  ("bash", RichShell.shell),
  ("cat", fun _ => cat),
  ("chmod", fun _ => chmod),
  ("cksum", fun _ => cksum),
  ("cmp", fun _ => cmp),
  ("comm", fun _ => comm),
  ("cp", fun _ => cp),
  ("cut", fun _ => cut),
  ("dash", Shell.shell),
  ("date", fun _ => date),
  ("dd", fun _ => dd),
  ("diff", fun _ => diff),
  ("dirname", fun _ => dirname),
  ("echo", fun _ => echo),
  ("egrep", fun _ => egrep),
  ("env", env),
  ("expand", fun _ => expand),
  ("expr", fun _ => expr),
  ("false", fun _ _ => pure 1),
  ("fgrep", fun _ => fgrep),
  ("find", find),
  ("fold", fun _ => fold),
  ("grep", fun _ => grep),
  ("groups", fun _ => groups),
  ("head", fun _ => head),
  ("hostname", fun _ => fixed "localhost"),
  ("id", fun _ => userId),
  ("install", fun _ => install),
  ("kill", fun _ => kill),
  ("link", fun _ => link),
  ("ln", fun _ => ln),
  ("logname", fun _ => logname),
  ("ls", fun _ => ls),
  ("mawk", Awk.awk),
  ("md5sum", fun _ => digestTool .md5),
  ("mkdir", fun _ => mkdir),
  ("mkfifo", fun _ => mkfifo),
  ("mknod", fun _ => mknod),
  ("mktemp", fun _ => mktemp),
  ("mv", fun _ => mv),
  ("nawk", Awk.awk),
  ("nice", nice),
  ("nl", fun _ => nl),
  ("nohup", nohup),
  ("nproc", fun _ => nproc),
  ("od", fun _ => od),
  ("paste", fun _ => paste),
  ("printenv", fun _ => printenv),
  ("printf", fun _ => printf),
  ("pwd", fun _ => pwd),
  ("readlink", fun _ => readlink),
  ("realpath", fun _ => realpath),
  ("rev", fun _ => rev),
  ("rm", fun _ => rm),
  ("rmdir", fun _ => rmdir),
  ("sed", sed),
  ("seq", fun _ => seq),
  ("setsid", setsid),
  ("sh", Shell.shell),
  ("sha1sum", fun _ => digestTool .sha1),
  ("sha224sum", fun _ => digestTool .sha224),
  ("sha256sum", fun _ => digestTool .sha256),
  ("sha384sum", fun _ => digestTool .sha384),
  ("sha512sum", fun _ => digestTool .sha512),
  ("sleep", fun _ => sleep),
  ("sort", fun _ => sort),
  ("split", split),
  ("stat", fun _ => stat),
  ("stdbuf", stdbuf),
  ("sum", fun _ => sum),
  ("sync", fun _ _ => pure 0),
  ("tac", fun _ => tac),
  ("tail", fun _ => tail),
  ("tee", fun _ => tee),
  ("test", fun _ => test),
  ("timeout", timeout),
  ("touch", fun _ => touch),
  ("tr", fun _ => tr),
  ("true", fun _ _ => pure 0),
  ("tty", fun _ => tty),
  ("truncate", fun _ => truncate),
  ("uname", fun _ => uname),
  ("unexpand", fun _ => unexpand),
  ("uniq", fun _ => uniq),
  ("unlink", fun _ => unlink),
  ("wc", fun _ => wc),
  ("which", fun _ => which),
  ("whoami", fun _ => fixed "root"),
  ("xargs", xargs),
  ("yes", fun _ => yes)
]

end Tools

namespace Launch

open Tools (Call Exec)

def isBlank (c : Char) : Bool :=
  c == ' ' || c == '\t'

def leadSize : Nat := 256

def interpreter? (content : Octets) : Option (Octets × Option Octets) :=
  match content.take leadSize with
  | '#' :: '!' :: rest =>
      let line := (rest.takeWhile fun c => c != '\n').dropWhile isBlank
      let line := (line.reverse.dropWhile isBlank).reverse
      let path := line.takeWhile fun c => !isBlank c && c.toNat != 0
      let arg := (line.drop path.length).dropWhile isBlank
      if path.isEmpty then none else some (path, if arg.isEmpty then none else some arg)
  | _ => none

def interpreterLimit : Nat := 5

def resolveWithin (scene : Scene) : Nat → Octets → Call → Except HostFault (String × Call)
  | 0, _, _ => .error .tooManyLinks
  | depth + 1, path, call =>
      match scene.stat path with
      | .error fault => .error fault
      | .ok ⟨_, _, .tool name⟩ => .ok (name, call)
      | .ok ⟨_, _, .file content _ mode⟩ =>
          if !HostDisk.isExecutable mode then .error .denied
          else
            match interpreter? content with
            | none => .error .badFormat
            | some (interpreter, arg) =>
                resolveWithin scene depth interpreter
                  { call with name := interpreter, args := arg.toList ++ path :: call.args }
      | .ok _ => .error .denied

def resolve (scene : Scene) (path : Octets) (call : Call) : Except HostFault (String × Call) :=
  resolveWithin scene (interpreterLimit + 1) path call

def resolveOrShell (scene : Scene) (path : Octets) (call : Call) :
    Except HostFault (String × Call) :=
  match resolve scene path call with
  | .error .badFormat =>
      resolve scene "/bin/sh".toList
        { call with name := "/bin/sh".toList, args := path :: call.args }
  | result => result

def forgetCaught (scene : Scene) : Scene :=
  scene.setMe { scene.me with caught := [], pending := [] }

def become : Nat → Exec
  | 0, _, _ => pure (.error .tooManyLinks)
  | depth + 1, path, call => do
      match ← Chore.look fun scene => resolve scene path call with
      | .error fault => return .error fault
      | .ok (name, call) =>
          match Tools.installed.lookup name with
          | some tool => do
              Chore.change forgetCaught
              return .ok (← tool (become depth) call)
          | none => return .error .missing

def depth : Nat := 10000

def routineOf (name : String) (call : Call) : Routine :=
  match Tools.installed.lookup name with
  | some tool => Chore.toRoutine (tool (become depth) call)
  | none => .exit 127

end Launch

end ArtifactPipeline
