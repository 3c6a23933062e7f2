import ArtifactPipeline.Host.Tools.Call

set_option autoImplicit false

namespace ArtifactPipeline.Tools

open Text (Octets)

def loop {σ α : Type} (step : σ → Chore (σ ⊕ α)) (last : σ → α) : Nat → σ → Chore α
  | 0, state => pure (last state)
  | rounds + 1, state => do
      match ← step state with
      | .inl state => loop step last rounds state
      | .inr result => return result

def patience : Nat := 100000000

structure LineSource where
  descriptor : Nat
  ending : Char := '\n'
  ready : List Octets := []
  started : Octets := []
  ended : Bool := false
  fault : Option HostFault := none

namespace LineSource

def take (source : LineSource) (bytes : Octets) : LineSource :=
  match (Text.splitOn source.ending (source.started ++ bytes)).reverse with
  | [] => source
  | last :: lines => { source with ready := source.ready ++ lines.reverse, started := last }

def fill (source : LineSource) : Chore LineSource := do
  if source.ended then return source
  match ← Chore.readSome source.descriptor with
  | .ok [] => return { source with ended := true }
  | .ok bytes => return source.take bytes
  | .error fault => return { source with ended := true, fault := some fault }

def await (source : LineSource) : Chore LineSource :=
  loop (fun source => do
    if !source.ready.isEmpty || source.ended then return .inr source
    else return .inl (← source.fill)) id Chore.readLimit source

def next (source : LineSource) : Chore (Option (Octets × Bool) × LineSource) := do
  let source ← source.await
  match source.ready with
  | line :: ready => return (some (line, true), { source with ready })
  | [] =>
      if source.started.isEmpty then return (none, source)
      else return (some (source.started, false), { source with started := [] })

def atEnd (source : LineSource) : Chore (Bool × LineSource) := do
  let source ← source.await
  return (source.ready.isEmpty && source.started.isEmpty, source)

def unread (source : LineSource) : Nat :=
  source.ready.foldl (fun total line => total + line.length + 1) source.started.length

def giveBack (source : LineSource) : Chore Unit :=
  Chore.change fun scene =>
    match scene.place? source.descriptor with
    | some place => scene.seek source.descriptor (place - source.unread)
    | none => scene

end LineSource

structure Outflow where
  pieces : List Octets := []
  size : Nat := 0
  fault : Option HostFault := none

namespace Outflow

def limit : Nat := 4096

def flush (out : Outflow) : Chore Outflow := do
  if out.size = 0 then return { out with pieces := [] }
  else
    match ← Chore.write 1 out.pieces.reverse.flatten with
    | .ok () => return { out with pieces := [], size := 0 }
    | .error fault => return { pieces := [], size := 0, fault := some fault }

def put (out : Outflow) (text : Octets) : Chore Outflow := do
  let out := { out with pieces := text :: out.pieces, size := out.size + text.length }
  if out.size < limit then return out else out.flush

def finish (out : Outflow) (call : Call) (status failure : Nat) : Chore Nat := do
  let out ← out.flush
  match out.fault with
  | none => return status
  | some fault =>
      complain call.name ("write error: " ++ fault.message)
      return failure

end Outflow

end ArtifactPipeline.Tools
