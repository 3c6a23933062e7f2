import ArtifactPipeline.Program

set_option autoImplicit false

namespace ArtifactPipeline

def workspace : Text.Octets := "/pipeline".toList

def hostFor (config : Path) (text : String) : Host :=
  (Host.fresh (HostDisk.spotOf workspace) 0).place config (Text.octets text) 0 false

end ArtifactPipeline

open ArtifactPipeline

def main (args : List String) : IO UInt32 := do
  let config : String :=
    match CommandLine.read args with
    | .ok line => line.config
    | .error _ => ({} : CommandLine).config
  let host ←
    try
      let text ← IO.FS.readFile config
      pure (hostFor ⟨config⟩ text)
    catch _ => pure (Host.fresh (HostDisk.spotOf workspace) 0)
  let result := Program.call args ⟨1, "run"⟩ host
  let host := result.host.settle
  IO.print host.output
  IO.eprint host.complaints
  match result.complaint with
  | some complaint => IO.eprintln complaint
  | none => pure ()
  return UInt32.ofNat result.status.toNat
