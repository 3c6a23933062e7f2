import ArtifactPipeline.Host.Tools.Command
import ArtifactPipeline.Host.Tools.Files
import ArtifactPipeline.Host.Tools.Find.Reader
import ArtifactPipeline.Host.Tools.Stream

set_option autoImplicit false

namespace ArtifactPipeline.Tools

open Text (Octets)

namespace Find

def holds (scene : Scene) (hit : Hit) (test : Test) : Bool :=
  let disk := scene.disk
  let node := hit.entry.node
  match test with
  | .name pattern => Glob.fits pattern (baseName hit.path)
  | .path pattern => Glob.fits pattern hit.path
  | .target pattern =>
      match node with
      | .link target _ => Glob.fits pattern target
      | _ => false
  | .pattern regex => Glob.fits regex hit.path
  | .kinds letters through =>
      let letter :=
        if through then
          match (({ disk, zone := {} } : View).finalLetter hit) with
          | 'N' | 'L' => 'l'
          | letter => letter
        else letterOf node
      letters.contains letter
  | .empty =>
      match node with
      | .file content _ _ => content.isEmpty
      | .dir _ _ => (disk.namesIn hit.entry.spot).isEmpty
      | _ => false
  | .newer mtime => mtime < HostDisk.mtimeOf node
  | .age wanted => wanted.holds disk.clock (HostDisk.mtimeOf node)
  | .size bound unit => bound.holds ((sizeOf disk hit.entry + unit - 1) / unit)
  | .links bound => bound.holds (nameCount disk hit.entry)
  | .inode bound => bound.holds hit.entry.id
  | .owner bound => bound.holds 0
  | .same id spot => if id = 0 then hit.entry.spot = spot else hit.entry.id = id
  | .permission agreement mode =>
      let own := HostDisk.modeOf node
      match agreement with
      | .exact => own == mode
      | .all => own &&& mode == mode
      | .any => own &&& mode != 0
  | .executable =>
      match node with
      | .dir _ _ => true
      | .link _ _ =>
          match disk.stat [] (HostDisk.spotText hit.entry.spot) with
          | .ok entry => HostDisk.isExecutable (HostDisk.modeOf entry.node)
          | .error _ => false
      | node => HostDisk.isExecutable (HostDisk.modeOf node)
  | .always value => value
  | _ => true

structure Gathering where
  dir : Octets
  paths : List Octets

structure Progress where
  status : Nat := 0
  quit : Bool := false
  prune : Bool := false
  out : Outflow := {}
  gathered : List (Nat × Gathering) := []

structure Search where
  exec : Exec
  call : Call
  test : Test
  scope : Scope
  zone : Zone
  sinks : List (Octets × Nat)

namespace Search

def complain (search : Search) (message : String) (progress : Progress) : Chore Progress := do
  Tools.complain search.call.name message
  return { progress with status := 1 }

def put (search : Search) (sink : Sink) (text : Octets) (progress : Progress) :
    Chore Progress := do
  match sink.bind fun path => search.sinks.lookup path with
  | none => return { progress with out := ← progress.out.put text }
  | some 1 => return { progress with out := ← progress.out.put text }
  | some descriptor => do
      let _ ← Chore.write descriptor text
      return progress

def launch (search : Search) (dir : Option Octets) (words : List Octets) (progress : Progress) :
    Chore (Bool × Progress) := do
  let progress := { progress with out := ← progress.out.flush }
  match words with
  | [] => return (true, progress)
  | name :: args => do
      let call := search.call
      let child : Chore Nat := do
        match dir with
        | some dir =>
            Chore.change fun scene =>
              match scene.stat dir with
              | .ok entry => scene.setMe { scene.me with cwd := entry.spot }
              | .error _ => scene
        | none => pure ()
        let paths := candidates (searchPath call.vars) name
        match ← runFirst (execOrShell search.exec) { name, args, vars := call.vars } paths
            .missing with
        | .ok status => return status
        | .error fault => do
            Tools.complain call.name (quote name ++ ": " ++ fault.message)
            return 1
      let process ← Chore.fork child.toRoutine
      let ending ← Chore.waitFor process
      return (ending.status == 0, progress)

def nearby (path : Octets) : Octets × Octets :=
  let name := baseName path
  (dirName path, if name = ['/'] then name else "./".toList ++ name)

def fillIn (path : Octets) (words : List Octets) : List Octets :=
  words.map fun word => Text.replace ['\x7b', '\x7d'] path word

def release (search : Search) (launching : Launching) (progress : Progress) : Chore Progress := do
  match launching.together.bind fun key => (progress.gathered.lookup key).map fun g => (key, g) with
  | none => return progress
  | some (key, gathering) => do
      let progress := { progress with gathered := Assoc.erase key progress.gathered }
      let dir := if launching.nearby then some gathering.dir else none
      let (fine, progress) ←
        search.launch dir (launching.words ++ gathering.paths.reverse) progress
      return if fine then progress else { progress with status := 1 }

def run (search : Search) (launching : Launching) (hit : Hit) (progress : Progress) :
    Chore (Bool × Progress) := do
  let (dir, name) := nearby hit.path
  let path := if launching.nearby then name else hit.path
  match launching.together with
  | some key =>
      let moved := launching.nearby &&
        ((progress.gathered.lookup key).map fun gathering => gathering.dir != dir).getD false
      let progress ← if moved then search.release launching progress else pure progress
      let paths := ((progress.gathered.lookup key).map Gathering.paths).getD []
      let gathering : Gathering := { dir, paths := path :: paths }
      return (true, { progress with
        gathered := Assoc.set key gathering progress.gathered })
  | none => do
      let agreed ← if launching.asked then do
          let shown := (launching.words.headD []) ++ " ... ".toList ++ hit.path
          let _ ← Chore.write 2 ("< ".toList ++ shown ++ " > ? ".toList)
          let source : LineSource := { descriptor := 0 }
          let (line, source) ← source.next
          source.giveBack
          pure ((line.map fun (text, _) =>
            text.head? == some 'y' || text.head? == some 'Y').getD false)
        else pure true
      if agreed then
        let dir := if launching.nearby then some dir else none
        search.launch dir (fillIn path launching.words) progress
      else return (false, progress)

def delete (search : Search) (hit : Hit) (progress : Progress) : Chore (Bool × Progress) := do
  if hit.path = ['.'] || hit.path = "./".toList then return (true, progress)
  else
    let result ← Chore.onDisk fun disk cwd =>
      match hit.entry.node with
      | .dir _ _ => disk.rmdir cwd hit.path
      | _ => disk.unlink cwd hit.path
    match result with
    | .ok () => return (true, progress)
    | .error fault => do
        let progress ← search.complain
          ("cannot delete " ++ quote hit.path ++ ": " ++ fault.message) progress
        return (false, progress)

def carryOut (search : Search) (hit : Hit) : Test → Progress → Chore (Bool × Progress)
  | .negation test, progress => do
      let (result, progress) ← carryOut search hit test progress
      return (!result, progress)
  | .both first second, progress => do
      let (result, progress) ← carryOut search hit first progress
      if result && !progress.quit then carryOut search hit second progress
      else return (result, progress)
  | .either first second, progress => do
      let (result, progress) ← carryOut search hit first progress
      if result || progress.quit then return (result, progress)
      else carryOut search hit second progress
  | .sequence first second, progress => do
      let (result, progress) ← carryOut search hit first progress
      if progress.quit then return (result, progress)
      else carryOut search hit second progress
  | .print ending sink, progress => do
      return (true, ← search.put sink (hit.path ++ [ending]) progress)
  | .format pieces sink, progress => do
      let text ← Chore.look fun scene =>
        ({ disk := scene.disk, zone := search.zone } : View).format hit pieces
      return (true, ← search.put sink text progress)
  | .list sink, progress => do
      let text ← Chore.look fun scene =>
        ({ disk := scene.disk, zone := search.zone } : View).row hit
      return (true, ← search.put sink text progress)
  | .delete, progress => search.delete hit progress
  | .prune, progress => return (true, { progress with prune := true })
  | .quit, progress => return (true, { progress with quit := true })
  | .run launching, progress => search.run launching hit progress
  | test, progress => do
      return (← Chore.look fun scene => holds scene hit test, progress)

def entryFor (scope : Scope) (depth : Nat) (disk : HostDisk) (entry : HostEntry) : HostEntry :=
  match entry.node with
  | .link _ _ =>
      if scope.following = .always || (scope.following = .given && depth = 0) then
        match disk.stat [] (HostDisk.spotText entry.spot) with
        | .ok goal => goal
        | .error _ => entry
      else entry
  | _ => entry

def visit (search : Search) :
    Nat → List (Spot × Octets) → Hit → Progress → Chore Progress
  | 0, _, _, progress => pure progress
  | fuel + 1, above, hit, progress => do
      let scope := search.scope
      let isDir := match hit.entry.node with
        | .dir _ _ => true
        | _ => false
      match (if isDir then above.lookup hit.entry.spot else none) with
      | some around =>
          search.complain ("File system loop detected; " ++ quote hit.path ++
            " is part of the same file system loop as " ++ quote around ++ ".") progress
      | none => do
          let look (progress : Progress) : Chore Progress := do
            if scope.least ≤ hit.depth && !progress.quit then
              let (_, progress) ← search.carryOut hit search.test progress
              return progress
            else return progress
          let inner (progress : Progress) : Chore Progress := do
            if !isDir || progress.quit || scope.most.any (fun most => most ≤ hit.depth) then
              return progress
            else
              let entries ← Chore.look fun scene =>
                (scene.disk.namesIn hit.entry.spot).filterMap fun name =>
                  (scene.disk.get? (hit.entry.spot ++ [name])).map fun entry =>
                    ({ path := inDirectory hit.path name, start := hit.start
                       entry := entryFor scope (hit.depth + 1) scene.disk entry
                       depth := hit.depth + 1 } : Hit)
              each fuel ((hit.entry.spot, hit.path) :: above) entries progress
          if scope.deep then look (← inner progress)
          else
            let progress ← look { progress with prune := false }
            if progress.prune then return { progress with prune := false }
            else inner progress
where
  each (fuel : Nat) (above : List (Spot × Octets)) : List Hit → Progress → Chore Progress
    | [], progress => pure progress
    | hit :: rest, progress => do
        if progress.quit then return progress
        else each fuel above rest (← visit search fuel above hit progress)

def visitAll (search : Search) : List Octets → Progress → Chore Progress
  | [], progress => pure progress
  | start :: rest, progress => do
      if progress.quit then return progress
      match ← Chore.lstat start with
      | .error fault => do
          let progress ← search.complain (quote start ++ ": " ++ fault.message) progress
          visitAll search rest progress
      | .ok entry => do
          let entry ← Chore.look fun scene => entryFor search.scope 0 scene.disk entry
          let hit : Hit := { path := start, start, entry, depth := 0 }
          visitAll search rest (← search.visit treeDepth [] hit progress)

def releaseAll (search : Search) : List Launching → Progress → Chore Progress
  | [], progress => pure progress
  | launching :: rest, progress => do
      releaseAll search rest (← search.release launching progress)

end Search

def openSinks : List Octets → List (Octets × Nat) → Chore (Except String (List (Octets × Nat)))
  | [], opened => pure (.ok opened)
  | path :: rest, opened => do
      if (opened.lookup path).isSome then openSinks rest opened
      else if path = "/dev/stdout".toList then openSinks rest ((path, 1) :: opened)
      else if path = "/dev/stderr".toList then openSinks rest ((path, 2) :: opened)
      else
        match ← Chore.openFile .writing path with
        | .ok descriptor => openSinks rest ((path, descriptor) :: opened)
        | .error fault => return .error (quote path ++ ": " ++ fault.message)

def leadingOptions : Following → List Octets → Following × List Octets
  | following, word :: rest =>
      match String.ofList word with
      | "-H" => leadingOptions .given rest
      | "-L" => leadingOptions .always rest
      | "-P" => leadingOptions .never rest
      | "-D" => if rest.isEmpty then (following, [word]) else leadingOptions following (rest.drop 1)
      | "--" => (following, rest)
      | "-O0" | "-O1" | "-O2" | "-O3" => leadingOptions following rest
      | _ => (following, word :: rest)
  | following, [] => (following, [])
termination_by _ words => words.length
decreasing_by all_goals grind

end Find

def find (exec : Exec) : Tool := fun call => do
  let (following, words) := Find.leadingOptions .never call.args
  let starts := words.takeWhile fun word => !Find.startsSearch true word
  let zone := Zone.ofVars call.vars
  let found ← Chore.look fun scene =>
    Find.read scene zone following (words.drop starts.length)
  match found with
  | .error message => refuse call.name message
  | .ok (test, scope) =>
      match ← Find.openSinks test.sinks [] with
      | .error message => refuse call.name message
      | .ok sinks => do
          let search : Find.Search := { exec, call, test, scope, zone, sinks }
          let progress ← search.visitAll (if starts.isEmpty then [['.']] else starts) {}
          let progress ← search.releaseAll test.gatherers progress
          progress.out.finish call progress.status 1

end ArtifactPipeline.Tools
