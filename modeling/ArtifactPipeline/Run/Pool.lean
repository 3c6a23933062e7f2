import ArtifactPipeline.Run.Coordinator

set_option autoImplicit false

namespace ArtifactPipeline

structure Worker (W κ : Type) where
  begin : Invocation → W → κ × W
  finish? : κ → W → Option (Reply × W)

namespace Worker

variable {W κ : Type}

def executor (worker : Worker W κ) : Executor W where
  execute invocation world :=
    let (ticket, world) := worker.begin invocation world
    match worker.finish? ticket world with
    | some (reply, world) => (reply, world)
    | none => (.crashed, world)

end Worker

structure Task (κ : Type) where
  node : Artifact
  ticket : Option κ
  commands : List Command

/-- Tasks that are carried out one at a time, each as far as it gets, in the order in which they
were started. -/
structure Pool (W κ : Type) where
  world : W
  queue : List (Task κ) := []
  held : List (Task κ) := []
  ended : List (NodeId × TaskResult) := []
  taken : Nat := 0
  trace : List Event := []

namespace Pool

variable {W κ : Type}

instance [Disk W] : Disk (Pool W κ) where
  present pool := Disk.present pool.world
  isFile pool := Disk.isFile pool.world
  isDir pool := Disk.isDir pool.world
  isLink pool := Disk.isLink pool.world
  modified pool := Disk.modified pool.world
  removeFile pool path :=
    let (result, world) := Disk.removeFile pool.world path
    (result, { pool with world })
  createDirs pool path :=
    let (result, world) := Disk.createDirs pool.world path
    (result, { pool with world })
  symlink pool target link :=
    let (result, world) := Disk.symlink pool.world target link
    (result, { pool with world })
  readDir pool := Disk.readDir pool.world
  extent pool := Disk.extent pool.world

def noteAll (pool : Pool W κ) (events : List Event) : Pool W κ :=
  { pool with trace := pool.trace ++ events }

def conclude (pool : Pool W κ) (node : Artifact) (result : TaskResult) : Pool W κ :=
  { pool with ended := pool.ended ++ [(node.id, result)] }

def release (pool : Pool W κ) : Pool W κ :=
  { pool with queue := pool.queue ++ pool.held, held := [] }

def respond (node : Artifact) (next : Pool W κ → Pool W κ) (pool : Pool W κ) : Reply → Pool W κ
  | .success => next (pool.release.noteAll [.commandEnded node.id 0])
  | .exited status =>
      (pool.release.noteAll
        [.commandEnded node.id status, .commandFailed node.id status]).conclude node
          (.failed (.actionFailed node.id status))
  | .refused failure => pool.release.conclude node (.failed failure)
  | .crashed => pool.conclude node .crashed

def hold (pool : Pool W κ) (task : Task κ) : Pool W κ :=
  { pool with held := pool.held ++ [task] }

def work (worker : Worker W κ) (node : Artifact) : List Command → Pool W κ → Pool W κ
  | [], pool => pool.conclude node .succeeded
  | command :: rest, pool =>
      let invocation : Invocation := ⟨node.id, node.kind, command⟩
      let (ticket, world) := worker.begin invocation pool.world
      let pool := { pool.noteAll [.called invocation] with world }
      match worker.finish? ticket pool.world with
      | none => pool.hold ⟨node, some ticket, rest⟩
      | some (reply, world) => respond node (work worker node rest) { pool with world } reply

def turn (worker : Worker W κ) (pool : Pool W κ) (task : Task κ) : Pool W κ :=
  match task.ticket with
  | none => work worker task.node task.commands (pool.noteAll [.building task.node.id])
  | some ticket =>
      match worker.finish? ticket pool.world with
      | none => pool.hold task
      | some (reply, world) =>
          respond task.node (work worker task.node task.commands) { pool with world } reply

def turns (worker : Worker W κ) : Nat → Pool W κ → Pool W κ
  | 0, pool => pool
  | fuel + 1, pool =>
      match pool.queue with
      | [] => pool
      | task :: queue => turns worker fuel (turn worker { pool with queue } task)

def load (pool : Pool W κ) : Nat :=
  (pool.queue ++ pool.held).foldl (fun total task => total + task.commands.length + 2) 0

def shift : Nat := 61

def patience : Nat := 128

def shifts (worker : Worker W κ) : Nat → Pool W κ → Pool W κ
  | 0, pool => pool
  | fuel + 1, pool =>
      if pool.queue.isEmpty then pool
      else
        let pool := turns worker shift pool
        if pool.ended.isEmpty then shifts worker fuel pool else pool

/-- Gives tasks their turns, one shift after another, until one has ended or none can go on. A turn
finishes a command or holds a task up, and tasks are only released when a command has finished. -/
def drain (worker : Worker W κ) (pool : Pool W κ) : Pool W κ :=
  shifts worker ((pool.load + 1) * (pool.queue.length + pool.held.length + 1))
    { pool with taken := 0 }

/-- Lets tasks have a shift in between. The oldest result, which the coordinator was about to take,
goes behind all others. -/
def makeWay (worker : Worker W κ) (pool : Pool W κ) : Pool W κ :=
  let worked := turns worker shift { pool with ended := pool.ended.drop 1, taken := 0 }
  { worked with ended := worked.ended ++ pool.ended.take 1 }

def join (worker : Worker W κ) (running : List NodeId) (busy : running ≠ []) (pool : Pool W κ) :
    Joined (Pool W κ) running :=
  let pool :=
    if pool.ended.isEmpty then drain worker pool
    else if patience ≤ pool.taken then makeWay worker pool
    else pool
  match pool.ended with
  | [] => ⟨oldestTask running busy, .crashed, pool⟩
  | (id, result) :: ended =>
      ⟨(running.finIdxOf? id).getD (oldestTask running busy), result,
        { pool with ended, taken := pool.taken + 1 }⟩

def crew (worker : Worker W κ) : Crew (Pool W κ) where
  start node pool :=
    { pool with queue := pool.queue ++ [⟨node, none, Run.commandsOf node.action⟩] }
  meanwhile pool := pool
  join := join worker

end Pool

structure Staff (W V : Type) where
  executor : Executor W
  crew : Crew V
  gather : W → V
  dismiss : V → W × List Event

namespace Worker

variable {W κ : Type}

def staff (worker : Worker W κ) : Staff W (Pool W κ) where
  executor := worker.executor
  crew := Pool.crew worker
  gather world := { world }
  dismiss pool := (pool.world, pool.trace)

end Worker

end ArtifactPipeline
