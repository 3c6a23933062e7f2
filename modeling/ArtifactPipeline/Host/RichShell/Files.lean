import ArtifactPipeline.Host.RichShell.Expansion

set_option autoImplicit false

namespace ArtifactPipeline.RichShell

open Text (Octets)
open Shell (fieldText)

def firstKept : Nat := 10

structure Kept where
  descriptor : Nat
  place : Option Nat

def keep (descriptor : Nat) : Sh Kept := do
  let place : Option Nat ← (Chore.act fun scene =>
    match scene.me.files.lookup descriptor with
    | none => (none, scene)
    | some id =>
        let place := Scene.freeDescriptor scene.me.files firstKept
        (some place, scene.attach place id) : Chore _)
  modify fun state => { state with kept := place.toList ++ state.kept }
  return ⟨descriptor, place⟩

def giveBack (lasting : Bool) (kept : Kept) : Sh Unit := do
  Chore.change (fun scene =>
    match kept.place with
    | none => if lasting then scene else scene.detach kept.descriptor
    | some place =>
        let scene :=
          match scene.me.files.lookup place with
          | some id => if lasting then scene else scene.attach kept.descriptor id
          | none => scene
        scene.detach place)
  modify fun state => { state with
    kept := state.kept.filter fun place => some place != kept.place }

inductive Refusal where
  | ambiguous (raw : Octets)
  | occupied (path : Octets)
  | untold (name : Octets)
  | fault (shown : Octets) (fault : HostFault)

def Refusal.message : Refusal → String
  | .ambiguous raw => String.ofList raw ++ ": ambiguous redirect"
  | .occupied path => String.ofList path ++ ": cannot overwrite existing file"
  | .untold name => String.ofList name ++ ": cannot assign fd to variable"
  | .fault shown reason => String.ofList shown ++ ": " ++ reason.message

def wouldLose (scene : Scene) (path : Octets) : Bool :=
  match scene.stat path with
  | .ok ⟨_, _, .file _ _ _⟩ | .ok ⟨_, _, .tool _⟩ => true
  | _ => false

def openFor (access : Scene.Access) (spares : Bool) (path : Octets) :
    Sh (Except Refusal Nat) := do
  let opened : Except Refusal (Nat × Nat) ← (Chore.act fun scene =>
    if spares && wouldLose scene path then (.error (.occupied path), scene)
    else
      match scene.openPath access path with
      | .ok (id, scene) =>
          let place := Scene.freeDescriptor scene.me.files firstKept
          (.ok (id, place), scene.attach place id)
      | .error fault => (.error (.fault path fault), scene) : Chore _)
  match opened with
  | .ok (id, place) => do
      -- The process holds the file while it waits for the other side.
      Chore.awaitMeeting place
      Chore.close place
      return .ok id
  | .error refusal => return .error refusal

def fileOfText (text : Octets) : Sh Nat :=
  (Chore.act fun scene =>
    let (source, _, scene) := scene.makePipe text
    (source, scene) : Chore _)

def fileBehind (descriptor : Nat) : Sh (Option Nat) :=
  Sh.scene fun scene => scene.me.files.lookup descriptor

def RedirectKind.usual : RedirectKind → Nat
  | .file .reading _ | .file .both _ | .text | .copy false => 0
  | .file _ _ | .copy true | .both _ => 1

structure Redirecting where
  kept : List Kept := []
  refusal : Option Refusal := none

def aim (redirecting : Redirecting) (descriptor id : Nat) : Sh Redirecting := do
  let kept ←
    if redirecting.kept.any fun kept => kept.descriptor == descriptor then pure redirecting.kept
    else do pure ((← keep descriptor) :: redirecting.kept)
  Chore.change fun scene => scene.attach descriptor id
  return { redirecting with kept }

def unaim (redirecting : Redirecting) (descriptor : Nat) : Sh Redirecting := do
  let kept ←
    if redirecting.kept.any fun kept => kept.descriptor == descriptor then pure redirecting.kept
    else do pure ((← keep descriptor) :: redirecting.kept)
  Chore.change fun scene => scene.detach descriptor
  return { redirecting with kept }

def refused (redirecting : Redirecting) (refusal : Refusal) : Redirecting :=
  { redirecting with refusal := some refusal }

def aimHolder (redirecting : Redirecting) (holder : Option Holder) (usual id : Nat) :
    Sh Redirecting := do
  match holder with
  | none => aim redirecting usual id
  | some (.number descriptor) => aim redirecting descriptor id
  | some (.variable name) => do
      let old := ((← get).stored? ((← get).resolve name)).getD {}
      if old.readOnly then
        Sh.complain (String.ofList name ++ ": readonly variable")
        return refused redirecting (.untold name)
      else
        let descriptor : Nat ← (Chore.act fun scene =>
          let descriptor := Scene.freeDescriptor scene.me.files firstKept
          (descriptor, scene.attach descriptor id) : Chore _)
        setText name false (decimal descriptor)
        return redirecting

def isNumber (text : Octets) : Bool :=
  !text.isEmpty && text.all Char.isDigit

def numberOf (text : Octets) : Nat :=
  ((String.ofList text).toNat?).getD 0

def oneWord (expander : Expander) (word : Pieces) : Sh (Option Octets) := do
  match ← expandFields expander word with
  | [text] => return some text
  | _ => return none

def closedBy (holder : Option Holder) (usual : Nat) : Sh (Option Nat) := do
  match holder with
  | none => return some usual
  | some (.number descriptor) => return some descriptor
  | some (.variable name) => do
      match ← value? name with
      | some text => return if isNumber text then some (numberOf text) else none
      | none => return none

def copyFrom (redirecting : Redirecting) (holder : Option Holder) (writing : Bool)
    (text raw : Octets) : Sh Redirecting := do
  let usual := if writing then 1 else 0
  let moves := text.getLast? = some '-'
  let source := numberOf (if moves then text.dropLast else text)
  match ← fileBehind source with
  | some id => do
      let redirecting ← aimHolder redirecting holder usual id
      let same := holder = some (.number source) || (holder.isNone && source = usual)
      if moves && !same then unaim redirecting source else return redirecting
  | none =>
      -- A number that was written out is shown itself, else a guess is made which one is wrong.
      let own := match holder with
        | some (.number descriptor) => descriptor
        | _ => usual
      let shown := if raw = text then (if moves then text.dropLast else text)
        else if own = usual then raw else decimal own
      return refused redirecting (.fault shown .badDescriptor)

def redirectOne (expander : Expander) (redirecting : Redirecting) : Redirection → Sh Redirecting
  | .here holder number _ _ => do
      let document := ((← get).documents.lookup number).getD ⟨[], []⟩
      let atoms ← expandAtoms expander document.pieces
      let text := fieldText (unsplit (joint (← get)) atoms)
      aimHolder redirecting holder 0 (← fileOfText text)
  | .open holder kind raw word => do
      match kind with
      | .file access careful => do
          match ← oneWord expander word with
          | none => return refused redirecting (.ambiguous raw)
          | some path =>
              match ← openFor access (careful && (← get).has 'C') path with
              | .ok id => aimHolder redirecting holder kind.usual id
              | .error refusal => return refused redirecting refusal
      | .both appending => do
          match ← oneWord expander word with
          | none => return refused redirecting (.ambiguous raw)
          | some path => bothTo redirecting (if appending then .appending else .writing) path
      | .text => do
          let text ← expandText expander word
          aimHolder redirecting holder 0 (← fileOfText (text ++ ['\n']))
      | .copy writing => do
          match ← oneWord expander word with
          | none => return refused redirecting (.ambiguous raw)
          | some text =>
              if text = ['-'] then
                match ← closedBy holder kind.usual with
                | some descriptor => unaim redirecting descriptor
                | none => return refused redirecting (.ambiguous raw)
              else if isNumber text || (text.getLast? = some '-' && isNumber text.dropLast) then
                copyFrom redirecting holder writing text raw
              else if writing && (holder.isNone || holder = some (.number 1)) then
                bothTo redirecting .writing text
              else return refused redirecting (.ambiguous raw)
where
  bothTo (redirecting : Redirecting) (access : Scene.Access) (path : Octets) : Sh Redirecting := do
    match ← openFor access (access == .writing && (← get).has 'C') path with
    | .ok id => do aim (← aim redirecting 1 id) 2 id
    | .error refusal => return refused redirecting refusal

def redirectAll (expander : Expander) : List Redirection → Redirecting → Sh Redirecting
  | [], redirecting => pure redirecting
  | redirection :: rest, redirecting => do
      let result ← Sh.attempt (redirectOne expander redirecting redirection)
      match result with
      | .ok redirecting =>
          if redirecting.refusal.isSome then return redirecting
          else redirectAll expander rest redirecting
      | .error jump => do
          redirecting.kept.forM (giveBack false)
          throw jump

def withFiles (expander : Expander) (redirections : List Redirection) (lasting : Sh Bool)
    (body : Sh Unit) : Sh Bool := do
  if redirections.isEmpty then
    body
    return true
  else
    let redirecting ← redirectAll expander redirections {}
    let undo (stay : Bool) : Sh Unit := redirecting.kept.forM (giveBack stay)
    match redirecting.refusal with
    | none =>
        Sh.ensure body (do undo (← lasting))
        return true
    | some refusal =>
        undo false
        Sh.complain refusal.message
        Sh.setStatus 1
        return false

end ArtifactPipeline.RichShell
