import ArtifactPipeline.Proofs.Planning
import ArtifactPipeline.Proofs.RunMoments

set_option autoImplicit false

namespace ArtifactPipeline

open Function Relation

def NodeState.isBegun : NodeState → Bool
  | .unvisited | .evaluating => false
  | _ => true

theorem NodeState.isBegun_of_isSatisfied {state : NodeState}
    (satisfied : state.isSatisfied = true) : state.isBegun = true := by
  cases state <;> simp_all [isSatisfied, isBegun]

theorem Plan.Sound.isBegun_get {registry : Registry} {plan : Plan} (sound : plan.Sound registry)
    (id : NodeId) : (plan.states.get id).isBegun = false := by
  rw [sound.states_get]
  split <;> rfl

def Failure.isLapse : Failure → Bool
  | .illegalTransition .. | .stalled _ => true
  | _ => false

/-- The states of the nodes and the report of a run go together: what is reported is what has
finished well, and nothing has begun before what it needs. -/
structure Ledger (registry : Registry) (states : NodeId → NodeState) (report : Report) : Prop where
  executed : ∀ id, id ∈ report.executed ↔ states id = .succeeded
  skipped : ∀ id, id ∈ report.skipped ↔ states id = .skipped
  executedOnce : report.executed.Nodup
  skippedOnce : report.skipped.Nodup
  supported : ∀ id dep, (states id).isBegun = true → registry.Requires id dep →
    (states dep).isSatisfied = true
  preceded : Preceded (fun id dep => TransGen registry.Requires id dep ∧ dep ∈ report.executed)
    report.executed

namespace Ledger

variable {registry : Registry} {states : NodeId → NodeState} {report : Report} {id : NodeId}

theorem start {plan : Plan} (sound : plan.Sound registry) :
    Ledger registry plan.states.get .empty := by
  have waiting := sound.isBegun_get
  refine ⟨?_, ?_, List.nodup_nil, List.nodup_nil, ?_, ?_⟩
  · intro id
    refine iff_of_false List.not_mem_nil fun succeeded => ?_
    have begun := waiting id
    rw [succeeded] at begun
    cases begun
  · intro id
    refine iff_of_false List.not_mem_nil fun skipped => ?_
    have begun := waiting id
    rw [skipped] at begun
    cases begun
  · intro id dep begun
    rw [waiting id] at begun
    cases begun
  · intro front entry back split
    exact absurd split.symm (by simp [Report.empty])

theorem needs (ledger : Ledger registry states report) (begun : (states id).isBegun = true)
    {dep : NodeId} (path : TransGen registry.Requires id dep) :
    (states dep).isSatisfied = true := by
  induction path with
  | single requires => exact ledger.supported _ _ begun requires
  | tail _ requires ih =>
      exact ledger.supported _ _ (NodeState.isBegun_of_isSatisfied ih) requires

theorem supported_update (ledger : Ledger registry states report)
    (unsatisfied : (states id).isSatisfied = false) {state : NodeState}
    (support : ∀ dep, registry.Requires id dep → (states dep).isSatisfied = true)
    (other dep : NodeId) (begun : (update states id state other).isBegun = true)
    (requires : registry.Requires other dep) :
    (update states id state dep).isSatisfied = true := by
  have satisfied : (states dep).isSatisfied = true := by
    rw [update_apply] at begun
    split_ifs at begun with same
    · exact support dep (same ▸ requires)
    · exact ledger.supported other dep begun requires
  -- Whatever has begun needs satisfied nodes only, and `id` is none of them.
  have apart : dep ≠ id := by
    rintro rfl
    rw [unsatisfied] at satisfied
    cases satisfied
  rw [update_of_ne apart]
  exact satisfied

theorem move (ledger : Ledger registry states report)
    (unsatisfied : (states id).isSatisfied = false) {state : NodeState}
    (hidden : state.isSatisfied = false)
    (support : ∀ dep, registry.Requires id dep → (states dep).isSatisfied = true) :
    Ledger registry (update states id state) report where
  executed other := by
    rw [ledger.executed, update_apply]
    split_ifs with same
    · rw [same]
      refine iff_of_false ?_ ?_
      · rintro succeeded
        rw [succeeded] at unsatisfied
        cases unsatisfied
      · rintro rfl
        cases hidden
    · rfl
  skipped other := by
    rw [ledger.skipped, update_apply]
    split_ifs with same
    · rw [same]
      refine iff_of_false ?_ ?_
      · rintro skipped
        rw [skipped] at unsatisfied
        cases unsatisfied
      · rintro rfl
        cases hidden
    · rfl
  executedOnce := ledger.executedOnce
  skippedOnce := ledger.skippedOnce
  supported := ledger.supported_update unsatisfied support
  preceded := ledger.preceded

theorem skip (ledger : Ledger registry states report) (waiting : states id = .evaluating)
    (support : ∀ dep, registry.Requires id dep → (states dep).isSatisfied = true) :
    Ledger registry (update states id .skipped)
      { report with skipped := report.skipped ++ [id] } where
  executed other := by
    rw [ledger.executed, update_apply]
    split_ifs with same
    · simp [same, waiting]
    · rfl
  skipped other := by
    rw [List.mem_append, ledger.skipped, List.mem_singleton, update_apply]
    split_ifs with same
    · simp [same]
    · simp [same]
  executedOnce := ledger.executedOnce
  skippedOnce := by
    refine List.nodup_append.mpr ⟨ledger.skippedOnce, List.nodup_singleton id, ?_⟩
    intro other member last isLast same
    rw [List.mem_singleton.mp isLast] at same
    rw [same, ledger.skipped, waiting] at member
    cases member
  supported := ledger.supported_update (by rw [waiting]; rfl) support
  preceded := ledger.preceded

theorem succeed (ledger : Ledger registry states report) (executing : states id = .executing) :
    Ledger registry (update states id .succeeded)
      { report with executed := report.executed ++ [id] } where
  executed other := by
    rw [List.mem_append, ledger.executed, List.mem_singleton, update_apply]
    split_ifs with same
    · simp [same]
    · simp [same]
  skipped other := by
    rw [ledger.skipped, update_apply]
    split_ifs with same
    · simp [same, executing]
    · rfl
  executedOnce := by
    refine List.nodup_append.mpr ⟨ledger.executedOnce, List.nodup_singleton id, ?_⟩
    intro other member last isLast same
    rw [List.mem_singleton.mp isLast] at same
    rw [same, ledger.executed, executing] at member
    cases member
  skippedOnce := ledger.skippedOnce
  supported := ledger.supported_update (by rw [executing]; rfl)
    fun dep => ledger.supported id dep (by rw [executing]; rfl)
  preceded := by
    -- Nothing that has begun needs a node that still runs, so that one may be listed last.
    have unneeded {other : NodeId} (begun : (states other).isBegun = true) :
        ¬TransGen registry.Requires other id := by
      intro path
      have satisfied := ledger.needs begun path
      rw [executing] at satisfied
      cases satisfied
    intro front entry back split dep ⟨path, member⟩
    rcases List.eq_nil_or_concat back with rfl | ⟨middle, last, rfl⟩
    · obtain ⟨same, equal⟩ := List.append_inj' split rfl
      obtain rfl : id = entry := by simpa using equal
      rw [← same]
      refine (List.mem_append.mp member).resolve_right fun self => ?_
      rw [List.mem_singleton.mp self] at path
      exact unneeded (by rw [executing]; rfl) path
    · have regrouped : report.executed ++ [id] = (front ++ entry :: middle) ++ [last] := by
        simpa using split
      obtain ⟨earlier, -⟩ := List.append_inj' regrouped rfl
      have done : states entry = .succeeded := by
        rw [← ledger.executed, earlier]
        simp
      refine ledger.preceded front entry middle earlier dep ⟨path, ?_⟩
      refine (List.mem_append.mp member).resolve_right fun self => ?_
      rw [List.mem_singleton.mp self] at path
      exact unneeded (by rw [done]; rfl) path

theorem perm (ledger : Ledger registry states report) {order : List NodeId} (distinct : order.Nodup)
    (planned : ∀ id, states id ≠ .unvisited → id ∈ order)
    (satisfied : ∀ id ∈ order, (states id).isSatisfied = true) :
    (report.executed ++ report.skipped).Perm order := by
  have once : (report.executed ++ report.skipped).Nodup := by
    refine List.nodup_append.mpr ⟨ledger.executedOnce, ledger.skippedOnce, ?_⟩
    intro id executed other skipped same
    rw [← same, ledger.skipped, (ledger.executed id).mp executed] at skipped
    cases skipped
  refine (List.perm_ext_iff_of_nodup once distinct).mpr fun id => ?_
  rw [List.mem_append, ledger.executed, ledger.skipped]
  constructor
  · rintro (succeeded | skipped)
    · exact planned id (by rw [succeeded]; nofun)
    · exact planned id (by rw [skipped]; nofun)
  · intro member
    have fine := satisfied id member
    cases state : states id <;> simp_all [NodeState.isSatisfied]

end Ledger

namespace Freshness

variable {W : Type} [Disk W] {registry : Registry} {disk : W}

def Sane {α : Type} (answer : Except Failure α) : Prop :=
  ∀ failure, answer = .error failure → failure.isLapse = false

theorem sane_modified (path : Path) : Sane (modified disk path) := by
  intro failure failed
  unfold modified at failed
  split at failed <;> cases failed
  rfl

theorem sane_expand (pattern : String) : Sane (Glob.expand disk pattern) := by
  intro failure failed
  unfold Glob.expand at failed
  split at failed
  · cases failed; rfl
  · cases failed; rfl
  · dsimp only at failed
    split at failed
    · cases failed
    · split at failed <;> cases failed
      rfl

theorem sane_sourceIsNewer (node : Artifact) (id : NodeId) (own : Option Nat) :
    Sane (sourceIsNewer disk node id own) := by
  intro failure failed
  unfold sourceIsNewer at failed
  split at failed
  · rename_i other broke
    cases failed
    exact sane_modified _ _ broke
  · cases failed; rfl
  · cases failed

variable {ask : Verdicts → Artifact → Ruling} {node : Artifact} {own : Option Nat}

theorem sane_prerequisiteRuling
    (asked : ∀ verdicts prerequisite, Sane (ask verdicts prerequisite).1)
    (verdicts : Verdicts) (id : NodeId) :
    Sane (prerequisiteRuling registry disk ask node own verdicts id).1 := by
  intro failure failed
  unfold prerequisiteRuling at failed
  split at failed
  · exact sane_sourceIsNewer _ _ _ _ failed
  · rename_i prerequisite _
    split at failed
    · rename_i answered
      refine asked verdicts prerequisite failure ?_
      rw [answered]
      exact failed
    · split at failed
      · cases failed
      · cases failed
      · split at failed
        · cases failed
        · split at failed
          · rename_i broke
            cases failed
            exact sane_modified _ _ broke
          · cases failed

theorem sane_matchesRuling (verdicts : Verdicts) (dirty : Bool) (paths : List Path) :
    Sane (matchesRuling disk node own verdicts dirty paths).1 := by
  induction paths generalizing verdicts dirty with
  | nil => intro failure failed; cases failed
  | cons path rest ih =>
      intro failure failed
      unfold matchesRuling at failed
      split at failed
      · rename_i broke
        cases failed
        exact sane_modified _ _ broke
      · split at failed
        · exact ih _ _ failure failed
        · exact ih _ _ failure failed

theorem sane_prerequisitesRuling
    (asked : ∀ verdicts prerequisite, Sane (ask verdicts prerequisite).1) (verdicts : Verdicts)
    (dirty : Bool) (prerequisites : List Prerequisite) :
    Sane (prerequisitesRuling registry disk ask node own verdicts dirty prerequisites).1 := by
  induction prerequisites generalizing verdicts dirty with
  | nil => intro failure failed; cases failed
  | cons prerequisite rest ih =>
      intro failure failed
      cases prerequisite with
      | node id =>
          unfold prerequisitesRuling at failed
          split at failed
          · rename_i ruled
            have sane : Sane (prerequisiteRuling registry disk ask node own verdicts id).1 :=
              sane_prerequisiteRuling asked verdicts id
            rw [ruled] at sane
            exact sane failure failed
          · exact ih _ _ failure failed
      | glob pattern =>
          unfold prerequisitesRuling at failed
          split at failed
          · rename_i broke
            cases failed
            exact sane_expand _ _ broke
          · rename_i paths _
            split at failed
            · rename_i matched
              have sane : Sane (matchesRuling disk node own verdicts dirty paths).1 :=
                sane_matchesRuling verdicts dirty paths
              rw [matched] at sane
              exact sane failure failed
            · exact ih _ _ failure failed

theorem sane_ruling (depth : Nat) (underway : List NodeId) (verdicts : Verdicts)
    (node : Artifact) : Sane (ruling registry disk depth underway verdicts node).1 := by
  -- On the depth: the rulings on the prerequisites are a level deeper and sane already.
  induction depth generalizing underway verdicts node with
  | zero =>
      intro failure failed
      unfold ruling at failed
      split at failed
      · cases failed
      · split at failed <;> cases failed <;> rfl
  | succ depth ih =>
      intro failure failed
      have asked := fun verdicts prerequisite => ih (node.id :: underway) verdicts prerequisite
      have evaluated : Sane (evaluate registry disk
          (ruling registry disk depth (node.id :: underway)) verdicts node).1 := by
        intro failure failed
        unfold evaluate at failed
        split at failed
        · cases failed
        · cases failed
        · split at failed
          · rename_i broke
            cases failed
            exact sane_modified _ _ broke
          · exact sane_prerequisitesRuling asked _ _ _ failure failed
      simp only [ruling] at failed
      split at failed
      · cases failed
      · split at failed
        · cases failed; rfl
        · split at failed
          · rename_i broke
            refine evaluated failure ?_
            rw [broke]
            exact failed
          · cases failed

theorem sane_isDirty (verdicts : Verdicts) (id : NodeId) :
    Sane (isDirty registry disk verdicts id).1 := by
  intro failure failed
  unfold isDirty at failed
  split at failed
  · rename_i unresolved
    cases failed
    unfold Registry.resolve at unresolved
    split at unresolved <;> cases unresolved
    rfl
  · exact sane_ruling _ _ _ _ failure failed

end Freshness

namespace Run

variable {V : Type} [Disk V]

theorem sane_runInternal {node : Artifact} (internal : ∀ commands, node.action ≠ .run commands)
    (world : V) : Freshness.Sane (runInternal node world).1 := by
  intro failure failed
  unfold runInternal at failed
  split at failed
  · cases failed
  · split at failed <;> cases failed
    rfl
  · split at failed
    · cases failed
    · split at failed <;> cases failed
      rfl
  · rename_i commands external
    exact absurd external (internal commands)

namespace Coordinator

def Reports (jobs : Nat) (crew : Crew V) (c : Coordinator V) (failure : Failure) : Prop :=
  Waits jobs c ∧ ∃ busy, (crew.join c.running busy c.session.world).result = .failed failure

/-- What the next step can fail at: a question to the oracle, an action without commands, a task
that fails or one that breaks down. -/
inductive Trouble (registry : Registry) (plan : Plan) (jobs : Nat) (crew : Crew V)
    (c : Coordinator V) : Failure → Prop where
  | query {node : Artifact} {id : NodeId} {rest : List NodeId} {verdicts : Verdicts}
      {failure : Failure} (chosen : Chosen registry plan jobs c node id rest)
      (answer : Freshness.isDirty registry c.session.world c.session.verdicts id =
        (.error failure, verdicts)) : Trouble registry plan jobs crew c failure
  | action {node : Artifact} {id : NodeId} {rest : List NodeId} {verdicts : Verdicts}
      {events : List Event} {world : V} {failure : Failure}
      (opened : Opened registry plan jobs c node id rest verdicts)
      (internal : ∀ commands, node.action ≠ .run commands)
      (failed : runInternal node c.session.world = (.error failure, events, world)) :
      Trouble registry plan jobs crew c failure
  | task {failure : Failure} (reports : Reports jobs crew c failure) :
      Trouble registry plan jobs crew c failure
  | crash (waits : Waits jobs c)
      (crashed : ∃ busy, (crew.join c.running busy c.session.world).result = .crashed) :
      Trouble registry plan jobs crew c .actionCrashed

variable {registry : Registry} {plan : Plan} {jobs : Nat} {crew : Crew V} {c : Coordinator V}

theorem Trouble.reports {failure : Failure} (trouble : Trouble registry plan jobs crew c failure)
    (lapse : failure.isLapse = true) : Reports jobs crew c failure := by
  cases trouble with
  | @query _ id _ _ _ _ answer =>
      have sane : Freshness.Sane
          (Freshness.isDirty registry c.session.world c.session.verdicts id).1 :=
        Freshness.sane_isDirty c.session.verdicts id
      rw [sane failure (by rw [answer])] at lapse
      cases lapse
  | action _ internal failed =>
      have sane := sane_runInternal internal c.session.world failure (by rw [failed])
      rw [sane] at lapse
      cases lapse
  | task reports => exact reports
  | crash => cases lapse

/-- The coordinator knows where each node stands, and as long as nothing has failed, the nodes that
it has passed over cannot be handled yet. -/
structure Tended (registry : Registry) (plan : Plan) (c : Coordinator V) : Prop where
  lists : Lists plan c c.session.states.get
  ledger : Ledger registry c.session.states.get c.session.report
  distinct : c.session.states.Distinct
  passed : c.failure = none → ∀ id ∈ c.passed, plan.readyIn c.session.states id = false

omit [Disk V] in
theorem tended_start (sound : plan.Sound registry) (world : V) :
    Tended registry plan (Coordinator.start plan world) where
  lists := .start sound world
  ledger := .start sound
  distinct := sound.distinct
  passed := by intro _ id member; cases member

omit [Disk V] in
theorem Tended.stirred (tended : Tended registry plan c) (crew : Crew V) :
    Tended registry plan (c.stirred crew) where
  lists := tended.lists.congr rfl rfl id
  ledger := tended.ledger
  distinct := tended.distinct
  passed := tended.passed

omit [Disk V] in
theorem readyIn_congr {states after : NodeStates}
    (same : ∀ id, (after.get id).isSatisfied = (states.get id).isSatisfied) (id : NodeId) :
    plan.readyIn after id = plan.readyIn states id := by
  unfold Plan.readyIn
  simp only [same]

/-- What a turn comes to: nobody is lost on the way, and a run ends with a failure that it has met
or with all planned nodes satisfied. -/
def TurnsOut (registry : Registry) (plan : Plan) (jobs : Nat) (crew : Crew V) (c : Coordinator V) :
    Progress V → Prop
  | .going next => Tended registry plan next ∧
      (next.failure = c.failure ∨
        ∃ failure, Trouble registry plan jobs crew c failure ∧ next.failure = some failure)
  | .ended outcome session =>
      (∃ failure, outcome = .failed failure ∧
        (c.failure = some failure ∨ Trouble registry plan jobs crew c failure)) ∨
      outcome = .completed session.report ∧
        Ledger registry session.states.get session.report ∧
        (∀ id, session.states.get id ≠ .unvisited → id ∈ plan.order) ∧
        ∀ id ∈ plan.order, (session.states.get id).isSatisfied = true

omit [Disk V] in
theorem Tended.of_update {next : Coordinator V} {id : NodeId} {state : NodeState}
    (states : next.session.states.get = update c.session.states.get id state)
    (lists : Lists plan next (update c.session.states.get id state))
    (ledger : Ledger registry (update c.session.states.get id state) next.session.report)
    (distinct : next.session.states.Distinct)
    (passed : next.failure = none → ∀ id ∈ next.passed,
      plan.readyIn next.session.states id = false) : Tended registry plan next where
  lists := by rw [states]; exact lists
  ledger := by rw [states]; exact ledger
  distinct := distinct
  passed := passed

section Turns

variable {node : Artifact} {id : NodeId} {rest : List NodeId} {verdicts : Verdicts}

theorem Tended.chosen (tended : Tended registry plan c) (canonical : registry.Canonical)
    (sound : plan.Sound registry) (chosen : Chosen registry plan jobs c node id rest) :
    id = node.id ∧ c.session.states.get id = .evaluating ∧
      ∀ dep, registry.Requires id dep → (c.session.states.get dep).isSatisfied = true := by
  obtain ⟨rfl, found, waiting, supported⟩ := tended.lists.chosen canonical sound chosen
  refine ⟨rfl, waiting, ?_⟩
  rintro dep ⟨other, otherFound, needed, registered⟩
  rw [found] at otherFound
  cases otherFound
  exact supported dep needed registered

omit [Disk V] in
theorem Tended.passOver (tended : Tended registry plan c) (next : c.rest = id :: rest)
    (waits : plan.readyIn c.session.states id = false) :
    Tended registry plan { c with passed := c.passed ++ [id], rest } where
  lists := tended.lists.congr (by simp [Coordinator.pending, next]) rfl fun calm => calm
  ledger := tended.ledger
  distinct := tended.distinct
  passed := by
    intro calm other member
    rcases List.mem_append.mp member with earlier | last
    · exact tended.passed calm other earlier
    · rw [List.mem_singleton.mp last]
      exact waits

theorem Tended.skip (tended : Tended registry plan c) (canonical : registry.Canonical)
    (sound : plan.Sound registry) (chosen : Chosen registry plan jobs c node id rest) :
    Tended registry plan (rewind { c with
      rest
      session := Session.reportSkipped
        { c.session with verdicts, states := c.session.states.set id .skipped } id }) := by
  obtain ⟨-, waiting, support⟩ := tended.chosen canonical sound chosen
  refine .of_update (NodeStates.get_set_eq_update ..)
    (tended.lists.handled chosen.next rfl (.inl ⟨rfl, .inl rfl⟩) fun calm => calm)
    (tended.ledger.skip waiting support) (tended.distinct.set _ _) ?_
  intro _ other member
  cases member

omit [Disk V] in
theorem Tended.puzzle (tended : Tended registry plan c)
    (chosen : Chosen registry plan jobs c node id rest) (failure : Failure) :
    Tended registry plan
      (fail { c with rest, session := { c.session with verdicts } } failure) := by
  have waiting := (tended.lists.pending id (by simp [Coordinator.pending, chosen.next])).2
  have failed : (fail { c with rest, session := { c.session with verdicts } } failure).failure ≠
      none := Option.some_ne_none _
  have lists : Lists plan (fail { c with rest, session := { c.session with verdicts } } failure)
      (update c.session.states.get id .evaluating) :=
    tended.lists.handled chosen.next rfl (.inl ⟨rfl, .inr failed⟩) fun calm => absurd calm failed
  rw [← waiting, update_eq_self] at lists
  exact ⟨lists, tended.ledger, tended.distinct, fun calm => absurd calm failed⟩

theorem Tended.launch (tended : Tended registry plan c) (canonical : registry.Canonical)
    (sound : plan.Sound registry) (chosen : Chosen registry plan jobs c node id rest) (world : V)
    (before : List (NodeId × Option Nat)) :
    Tended registry plan { c with
      rest
      session := { c.opening id verdicts with world }
      running := c.running ++ [id]
      before } := by
  obtain ⟨-, waiting, support⟩ := tended.chosen canonical sound chosen
  refine .of_update (NodeStates.get_set_eq_update ..)
    (tended.lists.handled chosen.next rfl (.inr ⟨rfl, rfl⟩) fun calm => calm)
    (tended.ledger.move (by rw [waiting]; rfl) rfl support) (tended.distinct.set _ _) ?_
  intro calm other member
  rw [← tended.passed calm other member]
  refine readyIn_congr (fun dep => ?_) other
  show ((c.session.states.set id .executing).get dep).isSatisfied = _
  rw [NodeStates.get_set]
  split_ifs with same
  · rw [same, waiting]
    rfl
  · rfl

theorem Tended.perform (tended : Tended registry plan c) (canonical : registry.Canonical)
    (sound : plan.Sound registry) (chosen : Chosen registry plan jobs c node id rest)
    (events : List Event) (world : V) :
    Tended registry plan (rewind { c with
      rest
      session := Session.reportExecuted
        { (c.opening id verdicts).noteAll events with
          world
          states := (c.opening id verdicts).states.set id .succeeded } id }) := by
  obtain ⟨-, waiting, support⟩ := tended.chosen canonical sound chosen
  have begun : Ledger registry (update c.session.states.get id .executing) c.session.report :=
    tended.ledger.move (by rw [waiting]; rfl) rfl support
  have done := begun.succeed (update_self ..)
  rw [update_idem] at done
  refine .of_update (get_opening_set ..)
    (tended.lists.handled chosen.next rfl (.inl ⟨rfl, .inl rfl⟩) fun calm => calm)
    done ((tended.distinct.set _ _).set _ _) ?_
  intro _ other member
  cases member

theorem Tended.spoil (tended : Tended registry plan c) (canonical : registry.Canonical)
    (sound : plan.Sound registry) (chosen : Chosen registry plan jobs c node id rest)
    (events : List Event) (world : V) (failure : Failure) :
    Tended registry plan (fail { c with
      rest
      session := { (c.opening id verdicts).noteAll events with
        world
        states := (c.opening id verdicts).states.set id .failed } } failure) := by
  obtain ⟨-, waiting, support⟩ := tended.chosen canonical sound chosen
  exact .of_update (get_opening_set ..)
    (tended.lists.handled chosen.next rfl (.inl ⟨rfl, .inr nofun⟩) nofun)
    (tended.ledger.move (by rw [waiting]; rfl) rfl support)
    ((tended.distinct.set _ _).set _ _) nofun

omit [Disk V] in
theorem Tended.succeed (tended : Tended registry plan c) {joined : Joined V c.running}
    (ends : Ends jobs crew c id joined) (result : joined.result = .succeeded) :
    Tended registry plan { c.relieved joined with
      session := Session.reportExecuted { c.session with
        world := joined.world, states := c.session.states.set id .succeeded } id
      before := Assoc.erase id c.before } := by
  have executing := ends.executing (by simp [result])
  refine .of_update (NodeStates.get_set_eq_update ..)
    (tended.lists.joined joined.index rfl rfl ?_ ?_) (tended.ledger.succeed executing)
    (tended.distinct.set _ _) ?_
  · intro other apart
    rw [← ends.ended] at apart
    exact update_of_ne apart ..
  · intro calm
    rw [← ends.ended, update_self]
    exact ⟨calm, rfl⟩
  · intro _ other member
    cases member

omit [Disk V] in
theorem Tended.failure (tended : Tended registry plan c) {joined : Joined V c.running}
    (ends : Ends jobs crew c id joined) {failure : Failure}
    (result : joined.result = .failed failure)
    {session : Session V} (states : session.states = c.session.states.set id .failed)
    (report : session.report = c.session.report) :
    Tended registry plan
      (fail { c.relieved joined with session, before := Assoc.erase id c.before } failure) := by
  have executing := ends.executing (by simp [result])
  have support : ∀ dep, registry.Requires id dep →
      (c.session.states.get dep).isSatisfied = true :=
    fun dep => tended.ledger.supported id dep (by rw [executing]; rfl)
  have moved : session.states.get = update c.session.states.get id .failed := by
    rw [states, NodeStates.get_set_eq_update]
  refine .of_update moved (tended.lists.joined joined.index rfl rfl ?_ nofun) ?_ ?_ nofun
  · intro other apart
    rw [← ends.ended] at apart
    exact update_of_ne apart ..
  · show Ledger registry _ session.report
    rw [report]
    exact tended.ledger.move (by rw [executing]; rfl) rfl support
  · show session.states.Distinct
    rw [states]
    exact tended.distinct.set _ _

omit [Disk V] in
theorem Tended.crash (tended : Tended registry plan c) {joined : Joined V c.running} :
    Tended registry plan (fail { c.relieved joined with
      session := (c.relieved joined).session.note .taskCrashed } .actionCrashed) where
  lists := tended.lists.joined joined.index rfl rfl (fun _ _ => rfl) nofun
  ledger := tended.ledger
  distinct := tended.distinct
  passed := nofun

end Turns

theorem failStranded_ok (canonical : registry.Canonical) {ids : List NodeId}
    (distinct : ids.Nodup) {session : Session V}
    (stranded : ∀ id ∈ ids, (∃ node, registry.find? id = some node) ∧
      session.states.get id = .executing) :
    ∃ after, c.failStranded registry ids session = .ok after := by
  induction ids generalizing session with
  | nil => exact ⟨session, rfl⟩
  | cons id rest ih =>
      obtain ⟨⟨node, found⟩, executing⟩ := stranded id (by simp)
      rw [List.nodup_cons] at distinct
      rw [failStranded, Session.move_eq session (by rw [executing]; rfl)]
      dsimp only
      rw [Registry.resolve_of_find? (canonical.found found) found]
      refine ih distinct.2 ?_
      intro other member
      have apart : other ≠ id := fun same => distinct.1 (same ▸ member)
      rw [states_discard]
      simpa [NodeStates.get_set, apart] using stranded other (List.mem_cons_of_mem _ member)

omit [Disk V] in
theorem Tended.satisfied (tended : Tended registry plan c) (sound : plan.Sound registry)
    (calm : c.failure = none) (idle : c.running = []) (looked : c.rest = []) :
    ∀ id ∈ plan.order, (c.session.states.get id).isSatisfied = true := by
  have upTo {front : List NodeId} (ordered : Plan.Ordered registry front)
      (inside : ∀ id ∈ front, id ∈ plan.order) :
      ∀ id ∈ front, (c.session.states.get id).isSatisfied = true := by
    -- With all before it satisfied a node is ready, so it has not been passed over.
    induction ordered with
    | nil => intro id member; cases member
    | @snoc front node ordered found _ after ih =>
        have earlier := ih fun id member => inside id (List.mem_append_left _ member)
        intro id member
        rcases List.mem_append.mp member with before | last
        · exact earlier id before
        · rw [List.mem_singleton.mp last]
          have planned := inside node.id (by simp)
          have ready : plan.readyIn c.session.states node.id = true :=
            (sound.readyIn_iff found planned _).mpr fun dep needed registered =>
              earlier dep (after dep needed registered)
          rcases tended.lists.accounted calm node.id planned with waits | runs | satisfied
          · rw [Coordinator.pending, looked, List.append_nil] at waits
            rw [tended.passed calm node.id waits] at ready
            cases ready
          · rw [idle] at runs
            cases runs
          · exact satisfied
  exact upTo sound.ordered fun _ member => member

theorem Tended.finish_failed (tended : Tended registry plan c) (canonical : registry.Canonical)
    (sound : plan.Sound registry) {failure : Failure} (known : c.failure = some failure) :
    ∃ session, c.finish registry = .ended (.failed failure) session := by
  have stranded : ∀ id ∈ c.session.states.inState .executing,
      (∃ node, registry.find? id = some node) ∧ c.session.states.get id = .executing := by
    intro id member
    have executing := (NodeStates.mem_inState tended.distinct (by decide)).mp member
    obtain ⟨node, found, -⟩ :=
      sound.ordered.registered (tended.lists.planned id (by rw [executing]; nofun))
    exact ⟨⟨node, found⟩, executing⟩
  obtain ⟨after, done⟩ := failStranded_ok (c := c) canonical
    (NodeStates.nodup_inState tended.distinct _) stranded
  rw [Coordinator.finish, known]
  dsimp only
  rw [done]
  exact ⟨_, rfl⟩

theorem Tended.finish (tended : Tended registry plan c) (canonical : registry.Canonical)
    (sound : plan.Sound registry) (room : 0 < jobs) (idle : c.running = [])
    (waits : Waits jobs c) : TurnsOut registry plan jobs crew c (c.finish registry) := by
  cases failure : c.failure with
  | some known =>
      obtain ⟨after, closed⟩ := tended.finish_failed canonical sound failure
      rw [closed]
      exact .inl ⟨known, rfl, .inl failure⟩
  | none =>
      -- There is room for a task and none to wait for: the coordinator has looked at every node.
      have looked := waits failure (by rw [idle]; exact room)
      have satisfied := tended.satisfied sound failure idle looked
      have empty : c.pending = [] := by
        refine List.eq_nil_iff_forall_not_mem.mpr fun id member => ?_
        obtain ⟨planned, waiting⟩ := tended.lists.pending id member
        have fine := satisfied id planned
        rw [waiting] at fine
        cases fine
      rw [Coordinator.finish, failure]
      dsimp only
      rw [empty]
      exact .inr ⟨rfl, tended.ledger, tended.lists.planned, satisfied⟩

variable [Mounted V]

theorem Tended.turn (tended : Tended registry plan c) (canonical : registry.Canonical)
    (sound : plan.Sound registry) (room : 0 < jobs) {progress : Progress V}
    (turn : Turn registry plan jobs crew c progress) :
    TurnsOut registry plan jobs crew c progress := by
  -- Each case keeps the coordinator tended or names the trouble that it has met.
  cases turn with
  | passOver calm next _ waits => exact ⟨tended.passOver next waits, .inl rfl⟩
  | skip chosen _ _ => exact ⟨tended.skip canonical sound chosen, .inl rfl⟩
  | puzzle chosen answer =>
      exact ⟨tended.puzzle chosen _, .inr ⟨_, .query chosen answer, by simp [fail, chosen.calm]⟩⟩
  | breakDown chosen answer => exact .inl ⟨_, rfl, .inr (.query chosen answer)⟩
  | launch opened => exact ⟨tended.launch canonical sound opened.toChosen _ _, .inl rfl⟩
  | @unprepared node _ _ _ _ _ _ _ untimed =>
      obtain ⟨before, timed⟩ := outputTime_disk (Mounted.disk c.session.world) node
      rw [outputTime_mounted, timed] at untimed
      cases untimed
  | perform opened => exact ⟨tended.perform canonical sound opened.toChosen _ _, .inl rfl⟩
  | spoil opened internal failed =>
      exact ⟨tended.spoil canonical sound opened.toChosen _ _ _,
        .inr ⟨_, .action opened internal failed, by simp [fail, opened.calm]⟩⟩
  | succeed ends result => exact ⟨tended.succeed ends result, .inl rfl⟩
  | @failure node id joined failure ends _ result session cleaned =>
      have states : session.states = c.session.states.set id .failed := by
        rw [cleaned]
        split <;> rfl
      have report : session.report = c.session.report := by
        rw [cleaned]
        split <;> rfl
      obtain ⟨busy, rfl⟩ := ends.turn
      refine ⟨tended.failure ends result states report, ?_⟩
      cases known : c.failure with
      | some first => exact .inl (by simp [fail, relieved, rewind, known])
      | none =>
          exact .inr ⟨failure, .task ⟨ends.waits, busy, result⟩,
            by simp [fail, relieved, rewind, known]⟩
  | crash ends result =>
      obtain ⟨busy, rfl⟩ := ends.turn
      refine ⟨tended.crash, ?_⟩
      cases known : c.failure with
      | some first => exact .inl (by simp [fail, relieved, rewind, known])
      | none =>
          exact .inr ⟨_, .crash ends.waits ⟨busy, result⟩, by simp [fail, relieved, rewind, known]⟩
  | finish idle waits => exact tended.finish canonical sound room idle waits
  | stray astray => exact absurd astray (tended.lists.not_astray canonical sound)

def Meets (registry : Registry) (plan : Plan) (jobs : Nat) (crew : Crew V) (world : V)
    (failure : Failure) : Prop :=
  ∃ launched c, Leads registry plan jobs crew (Coordinator.start plan world) launched c ∧
    Trouble registry plan jobs crew c failure

theorem Leads.tended (canonical : registry.Canonical) (sound : plan.Sound registry)
    (room : 0 < jobs) {world : V} {launched : List NodeId}
    (leads : Leads registry plan jobs crew (Coordinator.start plan world) launched c) :
    Tended registry plan c ∧
      ∀ failure, c.failure = some failure → Meets registry plan jobs crew world failure := by
  generalize origin : Coordinator.start plan world = a at leads
  induction leads with
  | refl =>
      subst origin
      refine ⟨tended_start sound world, fun failure failed => ?_⟩
      cases failed
  | @step between next launched leads stepped ih =>
      obtain ⟨tended, met⟩ := ih
      obtain ⟨after, failing⟩ := tended.turn canonical sound room (turn_of_step stepped)
      refine ⟨after.stirred crew, fun failure known => ?_⟩
      rcases failing with same | ⟨first, trouble, named⟩
      · exact met failure (same ▸ known)
      · cases named.symm.trans known
        exact ⟨launched, between, origin ▸ leads, trouble⟩

omit [Mounted V] in
theorem drive_ends {a : Coordinator V} {launched : List NodeId}
    (leads : Leads registry plan jobs crew a launched c) :
    ∃ launched last, Leads registry plan jobs crew a launched last ∧
      last.step registry plan jobs crew = .ended (c.drive registry plan jobs crew).1
        (c.drive registry plan jobs crew).2 := by
  induction c using drive.induct registry plan jobs crew generalizing launched with
  | case1 c next stepped ih =>
      rw [drive_of_going stepped]
      exact ih (leads.step stepped)
  | case2 c outcome session stepped =>
      rw [drive_of_ended stepped]
      exact ⟨launched, c, leads, stepped⟩

theorem inParallel_ends (canonical : registry.Canonical) (sound : plan.Sound registry)
    (room : 0 < jobs) (crew : Crew V) (world : V) :
    (∃ failure, (inParallel registry crew jobs plan world).1 = .failed failure ∧
      Meets registry plan jobs crew world failure) ∨
    let session := (inParallel registry crew jobs plan world).2
    (inParallel registry crew jobs plan world).1 = .completed session.report ∧
      Ledger registry session.states.get session.report ∧
      (∀ id, session.states.get id ≠ .unvisited → id ∈ plan.order) ∧
      ∀ id ∈ plan.order, (session.states.get id).isSatisfied = true := by
  have start : Leads registry plan jobs crew (.start plan world) [] (.start plan world) := .refl _
  obtain ⟨launched, last, leads, stepped⟩ := drive_ends start
  obtain ⟨tended, met⟩ := leads.tended canonical sound room
  rcases tended.turn canonical sound room (turn_of_step stepped) with
    ⟨failure, failed, known | trouble⟩ | completed
  · exact .inl ⟨failure, failed, met failure known⟩
  · exact .inl ⟨failure, failed, launched, last, leads, trouble⟩
  · exact .inr completed

/-- A parallel run never loses track of its nodes, whatever its tasks do and in whichever order they
end: it fails only with a failure that it has met, and with one of the coordinator's own only when
a task says so. Without any it is completed, and the report lists all planned nodes, those executed
after all executed ones that they need. -/
theorem parallel_run_progresses (canonical : registry.Canonical) {targets : List String}
    (planned : Plan.make registry targets = .ok plan) (room : 0 < jobs) (crew : Crew V)
    (world : V) :
    (∀ failure, (inParallel registry crew jobs plan world).1 = .failed failure →
      Meets registry plan jobs crew world failure ∧
        (failure.isLapse = true → ∃ launched c,
          Leads registry plan jobs crew (Coordinator.start plan world) launched c ∧
            Reports jobs crew c failure)) ∧
    ((∀ failure, ¬Meets registry plan jobs crew world failure) →
      ∃ report, (inParallel registry crew jobs plan world).1 = .completed report) ∧
    ∀ report, (inParallel registry crew jobs plan world).1 = .completed report →
      (report.executed ++ report.skipped).Perm plan.order ∧
        Preceded (fun id dep => TransGen registry.Requires id dep ∧ dep ∈ report.executed)
          report.executed := by
  have sound := Plan.make_sound canonical planned
  rcases inParallel_ends canonical sound room crew world with
    ⟨failure, failed, meets⟩ | ⟨completed, ledger, listed, satisfied⟩
  · rw [failed]
    refine ⟨?_, fun untroubled => absurd meets (untroubled failure), ?_⟩
    · intro other same
      cases same
      refine ⟨meets, fun lapse => ?_⟩
      obtain ⟨launched, c, leads, trouble⟩ := meets
      exact ⟨launched, c, leads, trouble.reports lapse⟩
    · intro report completed
      cases completed
  · rw [completed]
    refine ⟨?_, fun _ => ⟨_, rfl⟩, ?_⟩
    · intro failure failed
      cases failed
    · intro report same
      cases same
      exact ⟨ledger.perm sound.nodup listed satisfied, ledger.preceded⟩

theorem trio_untroubled (c : Coordinator VirtualDisk) (failure : Failure) :
    ¬Trouble trio trioPlan 2 lastFirst c failure := by
  -- Phonies ask nothing of the disk, and their commands never fail here.
  have phonies : ∀ node ∈ trio.nodes, node.kind = .phony ∧
      (node.action = .none ∨ ∃ commands, node.action = .run commands) := by
    intro node member
    simp only [trio, List.mem_cons, List.not_mem_nil, or_false] at member
    rcases member with rfl | rfl | rfl
    · exact ⟨rfl, .inr ⟨_, rfl⟩⟩
    · exact ⟨rfl, .inr ⟨_, rfl⟩⟩
    · exact ⟨rfl, .inl rfl⟩
  intro trouble
  cases trouble with
  | @query node id _ _ _ chosen answer =>
      have member := Registry.mem_of_find? (Registry.find?_of_resolve chosen.resolved).2
      have kind := (phonies node member).1
      rw [Freshness.isDirty, chosen.resolved] at answer
      dsimp only at answer
      rw [show trio.size = 2 + 1 from rfl, Freshness.ruling] at answer
      simp only [List.not_mem_nil, if_false, Freshness.evaluate, kind] at answer
      split at answer <;> cases answer
  | @action node _ _ _ _ _ _ opened internal failed =>
      have member := Registry.mem_of_find? (Registry.find?_of_resolve opened.resolved).2
      rcases (phonies node member).2 with none | ⟨commands, external⟩
      · rw [runInternal, none] at failed
        cases failed
      · exact internal commands external
  | task reports =>
      obtain ⟨-, busy, result⟩ := reports
      cases result
  | crash _ crashed =>
      obtain ⟨busy, result⟩ := crashed
      cases result

theorem parallel_run_progresses_trio :
    ∃ report, (inParallel trio lastFirst 2 trioPlan VirtualDisk.new).1 = .completed report ∧
      (report.executed ++ report.skipped).Perm ["a", "b", "all"] := by
  have canonical : trio.Canonical := ⟨by decide, by decide⟩
  have planned : Plan.make trio ["all"] = .ok trioPlan := by rfl
  obtain ⟨-, completes, reports⟩ :=
    parallel_run_progresses canonical planned (by decide : 0 < 2) lastFirst VirtualDisk.new
  obtain ⟨report, completed⟩ := completes fun failure ⟨_, c, _, trouble⟩ =>
    trio_untroubled c failure trouble
  exact ⟨report, completed, (reports report completed).1⟩

end Coordinator

section Sequence

variable {W : Type} [Disk W] {registry : Registry}

theorem Continues.ledger {executor : Executor W} {id : NodeId} {session next : Session W}
    (continues : Continues registry executor id session next)
    (ledger : Ledger registry session.states.get session.report)
    (support : ∀ dep, registry.Requires id dep → (session.states.get dep).isSatisfied = true) :
    Ledger registry next.states.get next.report := by
  cases continues with
  | skipped _ waiting =>
      have skipped := ledger.skip waiting support
      rwa [← NodeStates.get_set_eq_update] at skipped
  | executed attempt =>
      -- While the node is executing the report does not show it.
      have begun : Ledger registry (update session.states.get id .executing) session.report :=
        ledger.move (by rw [attempt.waiting]; rfl) rfl support
      have succeeded := begun.succeed (update_self ..)
      rwa [update_idem, ← attempt.closed, ← attempt.report] at succeeded

theorem inSequence_ledger {executor : Executor W} {order : List NodeId}
    (ordered : Plan.Ordered registry order) {done rest : List NodeId}
    (split : order = done ++ rest) {session : Session W}
    (ledger : Ledger registry session.states.get session.report)
    (satisfied : ∀ id ∈ done, (session.states.get id).isSatisfied = true) {report : Report}
    (completed : (inSequence registry executor rest session).1 = .completed report) :
    Ledger registry (inSequence registry executor rest session).2.states.get report := by
  induction rest generalizing done session with
  | nil =>
      cases completed
      exact ledger
  | cons id rest ih =>
      obtain ⟨next, continues, onward⟩ := continues_of_completed completed
      rw [onward] at completed ⊢
      have reported := continues.ledger ledger fun dep requires =>
        satisfied dep (ordered.preceded done id rest split dep requires)
      obtain ⟨state, fine, moved⟩ := continues.passes.moved
      have regrouped : order = (done ++ [id]) ++ rest := by simp [split]
      exact ih regrouped reported (moved ▸ NodeState.satisfied_update satisfied fine) completed

end Sequence

section Running

variable {W V : Type} [Disk W] [Mounted W] [Linking W] [Disk V] [Mounted V] [Linking V]
  {registry : Registry}

/-- How a run ends that is completed: the moments led from the plan to `last`, where all planned
nodes are satisfied and in the report. -/
structure Completes (registry : Registry) (conduct : Conduct) (plan : Plan)
    (before after : VirtualDisk) (report : Report) (last : Moment) : Prop where
  advances : ReflTransGen (Moment.Advances registry conduct) (.start plan before) last
  disk : last.disk = after
  ledger : Ledger registry last.states report
  satisfied : ∀ id ∈ plan.order, (last.states id).isSatisfied = true

theorem carryOut_completes (canonical : registry.Canonical) (globFree : registry.GlobFree)
    {conduct : Conduct} {staff : Staff W V} (upholds : staff.Upholds conduct)
    {settings : RunSettings} (wet : settings.dryRun = false) {plan : Plan}
    (sound : plan.Sound registry) {world : W} {report : Report}
    (completed : (carryOut staff registry settings plan world).outcome = .completed report) :
    ∃ last, Completes registry conduct plan (Mounted.disk world)
      (Mounted.disk (carryOut staff registry settings plan world).session.world) report last := by
  unfold carryOut at completed ⊢
  rw [wet] at completed ⊢
  simp only [Bool.false_eq_true, if_false] at completed ⊢
  -- The ledger comes from the run that reports: node after node, or what the coordinator ends with.
  split at completed
  · rename_i alone
    rw [if_pos alone]
    obtain ⟨last, reaches⟩ := inSequence_reaches canonical globFree
      (fun node _ => runInternal_linking node) sound.ordered upholds.executor rfl
      (paused_start sound world)
    have ledger := inSequence_ledger sound.ordered (List.nil_append _).symm (Ledger.start sound)
      (fun _ member => absurd member List.not_mem_nil) completed
    obtain ⟨advances, _, satisfied⟩ := reaches.completed report completed
    exact ⟨last, advances, reaches.disk, reaches.states ▸ ledger, satisfied⟩
  · rename_i several
    rw [if_neg several]
    obtain ⟨stands, crew, standing⟩ := upholds.crew
    have tracks := Coordinator.tracks_start sound (standing world)
    rw [upholds.gather] at tracks
    obtain ⟨last, reaches⟩ :=
      Coordinator.drive_completes canonical globFree sound crew tracks completed
    have ended : (inParallel registry staff.crew settings.jobs plan (staff.gather world)).1 =
        .completed report := completed
    have room : 0 < settings.jobs := by omega
    rcases Coordinator.inParallel_ends canonical sound room staff.crew (staff.gather world) with
      ⟨failure, failed, _⟩ | ⟨reported, ledger, _⟩
    · rw [ended] at failed
      cases failed
    · rw [ended] at reported
      cases reported
      obtain ⟨advances, _, satisfied⟩ := reaches.completed _ completed
      refine ⟨last, advances, ?_, reaches.states ▸ ledger, satisfied⟩
      rw [reaches.disk]
      exact (upholds.dismiss _).symm

theorem run_completes (canonical : registry.Canonical) (globFree : registry.GlobFree)
    {conduct : Conduct} {staff : Staff W V} (upholds : staff.Upholds conduct)
    {settings : RunSettings} (wet : settings.dryRun = false) {targets : List NodeId} {world : W}
    {report : Report}
    (completed : (run staff registry settings targets world).outcome = .completed report) :
    ∃ plan last, Plan.make registry targets = .ok plan ∧
      Completes registry conduct plan (Mounted.disk world)
        (Mounted.disk (run staff registry settings targets world).session.world) report last := by
  unfold run at completed ⊢
  generalize made : Plan.make registry targets = planned at completed ⊢
  cases planned with
  | error failure => cases completed
  | ok plan =>
      obtain ⟨last, completes⟩ := carryOut_completes canonical globFree upholds wet
        (Plan.make_sound canonical made) completed
      exact ⟨plan, last, rfl, completes⟩

end Running

end Run

end ArtifactPipeline
