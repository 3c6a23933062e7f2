import ArtifactPipeline.Path.Basic
import ArtifactPipeline.Text.Quoted
import ArtifactPipeline.Text.Utf8

set_option autoImplicit false

namespace ArtifactPipeline

/-- What a disk refuses. The first group is raised by the disk in memory, the second names the
operation on the host's disk that failed. -/
inductive DiskFault where
  | notText (fault : Text.Utf8Fault)
  | isDirectory (path : Path)
  | notFound (path : Path)
  | notDirectory (path : Path)
  | notListable (path : Path)
  | alreadyThere (path : Path)
  | linkLoop (path : Path)
  | reading (path : Path)
  | creatingDirectory (path : Path)
  | creatingFile (path : Path)
  | removing (path : Path)
  | inspecting (path : Path)
  | linking (link target : Path)
  | listing (path : Path)
  deriving DecidableEq, Repr

def Path.quoted (path : Path) : String :=
  Text.quoted path.text

def DiskFault.message : DiskFault → String
  | .notText fault => "Invalid UTF-8: " ++ fault.message
  | .isDirectory path => "Is a directory: " ++ path.quoted
  | .notFound path => "File not found: " ++ path.quoted
  | .notDirectory path => "Not a directory: " ++ path.quoted
  | .notListable path => "Not a directory or not found: " ++ path.quoted
  | .alreadyThere path => "File exists: " ++ path.quoted
  | .linkLoop path => "Too many levels of symbolic links: " ++ path.quoted
  | .reading path => "reading file " ++ path.quoted
  | .creatingDirectory path => "creating dir " ++ path.quoted
  | .creatingFile path => "creating file " ++ path.quoted
  | .removing path => "removing " ++ path.quoted
  | .inspecting path => "stat " ++ path.quoted
  | .linking link target => "symlinking " ++ link.quoted ++ " -> " ++ target.quoted
  | .listing path => "reading dir " ++ path.quoted

/-- What planning and running need from a disk. Paths are followed through links except where it
is said otherwise. -/
class Disk (W : Type) where
  present : W → Path → Bool
  isFile : W → Path → Bool
  isDir : W → Path → Bool
  isLink : W → Path → Bool
  modified : W → Path → Except DiskFault (Option Nat)
  removeFile : W → Path → Except DiskFault Unit × W
  createDirs : W → Path → Except DiskFault Unit × W
  symlink : W → Path → Path → Except DiskFault Unit × W
  readDir : W → Path → Except DiskFault (List Path)
  extent : W → Nat

end ArtifactPipeline
