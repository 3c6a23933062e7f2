import ArtifactPipeline.Host.Awk.World
import ArtifactPipeline.Host.Tools.Stream

set_option autoImplicit false

namespace ArtifactPipeline.Awk

open Text (Octets)

def holdLimit : Nat := 4096

def Outlet.flush (outlet : Outlet) : Chore (Except HostFault Outlet) := do
  if outlet.size = 0 then return .ok { outlet with held := [] }
  else
    match ← Chore.write outlet.descriptor outlet.held.reverse.flatten with
    | .ok () => return .ok { outlet with held := [], size := 0 }
    | .error fault => return .error fault

def loseOutput {α : Type} (name : Octets) (fault : HostFault) : Act α :=
  quitWith ("close failed on file \"" ++ String.ofList name ++ "\" (" ++ fault.message ++ ")")

def flushed (outlet : Outlet) : Act Outlet := do
  match ← chore outlet.flush with
  | .ok outlet => return outlet
  | .error fault => do
      -- What is lost is not tried again.
      modify fun world =>
        { world with outlets := world.outlets.filter fun other => other.name != outlet.name }
      loseOutput outlet.name fault

def flushEach : List Outlet → Act (List Outlet)
  | [] => return []
  | outlet :: rest => do
      let outlet ← flushed outlet
      return outlet :: (← flushEach rest)

def flushAll : Act Unit := do
  let outlets ← flushEach (← get).outlets
  modify fun world => { world with outlets }

def World.pipes (world : World) : List Nat :=
  (world.outlets.filter fun outlet => outlet.process.isSome).map Outlet.descriptor ++
    (world.sources.filter fun entry => entry.2.process.isSome).map fun entry => entry.2.descriptor

def shellPath : Octets :=
  "/bin/sh".toList

def openOutlet (kind : OutputKind) (name : Octets) : Act Outlet := do
  if kind = .pipe then
    flushAll
    let world ← get
    let partner ← chore
      (Tools.startSink world.exec world.call.vars world.pipes shellPath name)
    return { name, kind, descriptor := partner.descriptor, process := some partner.process }
  else if name = "/dev/stdout".toList then return { name, kind, descriptor := 1 }
  else if name = "/dev/stderr".toList then return { name, kind, descriptor := 2, direct := true }
  else
    match ← chore (Chore.openFile (if kind = .append then .appending else .writing) name) with
    | .ok descriptor => return { name, kind, descriptor }
    | .error fault =>
        quitWith ("cannot open \"" ++ String.ofList name ++ "\" for output (" ++
          fault.message ++ ")")

def Outlet.isFor (outlet : Outlet) (kind : OutputKind) (name : Octets) : Bool :=
  outlet.name == name && (outlet.kind == .pipe) == (kind == .pipe)

def useOutlet (kind : OutputKind) (name : Octets) : Act Unit := do
  match (← get).outlets with
  | first :: rest =>
      if first.isFor kind name then return ()
      else
        match rest.find? fun outlet => outlet.isFor kind name with
        | some outlet =>
            modify fun world =>
              { world with
                outlets := outlet :: world.outlets.filter fun other => !other.isFor kind name }
        | none => do
            let outlet ← openOutlet kind name
            modify fun world => { world with outlets := outlet :: world.outlets }
  | [] => do
      let outlet ← openOutlet kind name
      modify fun world => { world with outlets := outlet :: world.outlets }

def standardOutput : Octets :=
  "/dev/stdout".toList

def changeOutlet (kind : OutputKind) (name : Octets) (f : Outlet → Outlet) : Act Unit :=
  modify fun world =>
    { world with
      outlets := world.outlets.map fun outlet =>
        if outlet.isFor kind name then f outlet else outlet }

def put (kind : OutputKind) (name text : Octets) : Act Unit := do
  changeOutlet kind name fun outlet =>
    { outlet with held := text :: outlet.held, size := outlet.size + text.length }
  match (← get).outlets.find? fun outlet => outlet.isFor kind name with
  | some outlet =>
      if outlet.direct || holdLimit ≤ outlet.size then
        let outlet ← flushed outlet
        changeOutlet kind name fun _ => outlet
  | none => return ()

def write (target : Option (OutputKind × Octets)) (text : Octets) : Act Unit := do
  match target with
  | some (kind, name) => do
      useOutlet kind name
      put kind name text
  | none => put .write standardOutput text

def statusOf : Ending → Int
  | .exited status => status
  | .signaled signal => 256 + signal

def closeOutlet (outlet : Outlet) : Act Int := do
  modify fun world =>
    { world with
      outlets := world.outlets.filter fun other => !other.isFor outlet.kind outlet.name }
  let outlet ← flushed outlet
  if 2 < outlet.descriptor then chore (Chore.close outlet.descriptor)
  match outlet.process with
  | some process => return statusOf (← chore (Chore.waitFor process))
  | none => return 0

def closeOutlets : Nat → Act Unit
  | 0 => return ()
  | fuel + 1 => do
      match (← get).outlets with
      | [] => return ()
      | outlet :: _ => do
          tryCatch (do
            let _ ← closeOutlet outlet) fun _ => return ()
          closeOutlets fuel

def runCommand (command : Octets) : Act Int := do
  flushAll
  let world ← get
  let child : Chore Nat := do
    Chore.forEach world.pipes Chore.close
    Tools.becomeShell world.exec world.call.vars Tools.shellName command
  let process ← chore (Chore.fork child.toRoutine)
  return statusOf (← chore (Chore.waitFor process))

def readSize : Nat := 4096

def Source.next (rule : RecordRule) (source : Source) :
    Chore (Except HostFault (Option Octets) × Source) :=
  Tools.loop (fun (source : Source) => do
    match rule.first? source.ended source.pending with
    | some (record, pending) => return .inr (.ok (some record), { source with pending })
    | none =>
        if source.ended then return .inr (.ok none, { source with pending := [] })
        else
          match ← Chore.readUpTo source.descriptor readSize with
          | .ok [] => return .inl { source with ended := true }
          | .ok bytes => return .inl { source with pending := source.pending ++ bytes }
          | .error fault => return .inr (.error fault, { source with ended := true }))
    (fun source => (.ok none, source)) Tools.patience source

def isStandardInput (path : Octets) : Bool :=
  path = ['-'] || path = "/dev/stdin".toList

def openSource (path : Octets) : Chore (Except HostFault Source) := do
  if isStandardInput path then return .ok { descriptor := 0 }
  else
    match ← Chore.openFile .reading path with
    | .ok descriptor => return .ok { descriptor }
    | .error fault => return .error fault

def Source.close (source : Source) : Chore Unit := do
  if 2 < source.descriptor then Chore.close source.descriptor

def failToRead {α : Type} (fault : HostFault) : Act α :=
  quitWith ("read error (" ++ fault.message ++ ")")

def recordFrom (isCommand : Bool) (name : Octets) : Act (Except Unit (Option Octets)) := do
  let key := (isCommand, name)
  let source? : Option Source ←
    match ((← get).sources.find? fun entry => entry.1 == key).map (·.2) with
    | some source => pure (some source)
    | none =>
        if isCommand then do
          flushAll
          let world ← get
          let partner ← chore
            (Tools.startSource world.exec world.call.vars world.pipes shellPath name)
          pure (some { descriptor := partner.descriptor, process := some partner.process })
        else do pure (← chore (openSource name)).toOption
  match source? with
  | none => return .error ()
  | some source => do
      let (result, source) ← chore (source.next (← get).recordRule)
      modify fun world =>
        { world with
          sources := (key, source) :: world.sources.filter fun entry => entry.1 != key }
      match result with
      | .ok record => return .ok record
      | .error fault => failToRead fault

def closeNamed (name : Octets) : Act Int := do
  let world ← get
  let sources := world.sources.filter fun entry => entry.1.2 == name
  modify fun world =>
    { world with sources := world.sources.filter fun entry => entry.1.2 != name }
  let rec closeSources : List ((Bool × Octets) × Source) → Int → Act Int
    | [], status => return status
    | (_, source) :: rest, _ => do
        chore source.close
        match source.process with
        | some process => do
            let status := statusOf (← chore (Chore.waitFor process))
            closeSources rest status
        | none => closeSources rest 0
  let status ← closeSources sources (-1)
  let rec closeEach : List Outlet → Int → Act Int
    | [], status => return status
    | outlet :: rest, _ => do
        let status ← closeOutlet outlet
        closeEach rest status
  closeEach (world.outlets.filter fun outlet => outlet.name == name) status

def assignment? (text : Octets) : Option (String × Octets) :=
  let name := text.takeWhile fun c => Lexeme.isNameStart c || c.isDigit
  match name, text.drop name.length with
  | first :: _, '=' :: value =>
      if first.isDigit then none
      else some (String.ofList name, Lexeme.unescaped (value.length + 1) value)
  | _, _ => none

def assignNamed (name : String) (value : Octets) : Act Unit := do
  match (← get).program.names.idxOf? name with
  | some place => setValueAt place (.given value)
  | none => return ()

def startMain (name : Octets) : Act Unit := do
  match ← chore (openSource name) with
  | .error fault =>
      quitWith ("cannot open \"" ++ String.ofList name ++ "\" (" ++ fault.message ++ ")")
  | .ok source => do
      modify fun world => { world with main := some source, foundFile := true }
      setValueAt Special.fileName (.given name)
      setValueAt Special.fileRecordCount (.number 0.0)

def nextOperand : Nat → Act Bool
  | 0 => return false
  | fuel + 1 => do
      let world ← get
      let index := world.operand
      if Float.ofNat index < ((← valueAt Special.argumentCount).toNumber) then
        modify fun world => { world with operand := index + 1 }
        let table ← tableAt Special.arguments
        let value ← changeTable table fun table => table.find? (.number index)
        match value with
        | none => nextOperand fuel
        | some value => do
            let text ← textOf value
            match assignment? text with
            | some (name, value) => do
                assignNamed name value
                nextOperand fuel
            | none =>
                if text.isEmpty then nextOperand fuel
                else do
                  startMain text
                  return true
      else if world.foundFile then return false
      else do
        startMain ['-']
        return true

def leaveFile : Act Unit := do
  match (← get).main with
  | some source => chore source.close
  | none => return ()
  modify fun world => { world with main := none }

def operandLimit : Nat := 1000000

def nextRecord : Nat → Act (Option Octets)
  | 0 => return none
  | fuel + 1 => do
      let world ← get
      match world.main with
      | none =>
          if world.mainEnded then return none
          else if ← nextOperand operandLimit then nextRecord fuel
          else do
            modify fun world => { world with mainEnded := true }
            return none
      | some source => do
          modify fun world => { world with main := none }
          let (result, source) ← chore (source.next world.recordRule)
          match result with
          | .error fault => failToRead fault
          | .ok (some record) => do
              modify fun world => { world with main := some source }
              for place in [Special.recordCount, Special.fileRecordCount] do
                let count ← valueAt place
                setValueAt place (.number (count.toNumber + 1.0))
              return some record
          | .ok none => do
              chore source.close
              nextRecord fuel

end ArtifactPipeline.Awk
