import StrongAuth.Proofs.Expiry
import StrongAuth.Proofs.Separation

/-! # The order of a sweep

A store may list what is overdue in any order. Overdue records that are failed one after the
other come to the same store in every order, since the status of a resource does not tell its
live authorisations apart. Main statement: in whatever order each sweep takes its candidates,
a run gives the same answers and comes to the same world, up to the order in which a sweep
tells of them. -/

namespace StrongAuth

/-! ## Two records -/

namespace MemoryStore

variable {store left right : MemoryStore} {now : Time.Timestamp} {id other parent : String}
  {first second : Authorisation}

theorem record?_lapse_of_ne (different : other ≠ id) :
    (store.lapse now id).record? other = store.record? other := by
  cases late : store.overdue now id with
  | false => rw [lapse_of_not_overdue late]
  | true =>
      rcases overdue_eq_true late with ⟨record, rfl, found, overdue⟩
      rw [lapse_of_found found overdue, record?_projected, record?_replace]
      exact if_neg different

theorem overdue_lapse_of_ne (different : other ≠ id) :
    (store.lapse now id).overdue now other = store.overdue now other := by
  rw [overdue, overdue, record?_lapse_of_ne different]

/-- The projection of a resource rests on its statuses only as far as they make up its own. -/
theorem projected_congr (resources : right.resources = left.resources)
    (derives : ∀ resource : Resource,
      resource.derive? (right.statuses parent) = resource.derive? (left.statuses parent)) :
    (right.projected parent).resources = (left.projected parent).resources ∧
      Node.parentChanges right parent = Node.parentChanges left parent := by
  have found : right.resource? parent = left.resource? parent := by
    unfold resource?
    rw [resources]
  unfold projected Node.parentChanges
  rw [found]
  cases left.resource? parent with
  | none => exact ⟨resources, rfl⟩
  | some resource =>
      dsimp only
      rw [derives]
      cases resource.derive? (left.statuses parent) with
      | none => exact ⟨resources, rfl⟩
      | some status => exact ⟨by simp [replaceResource, resources], rfl⟩

/-- Of two overdue records of one resource, either may be failed to the same effect on it. -/
theorem derive?_replace_lapsed (distinct : store.Distinct)
    (foundFirst : store.record? first.id = some first)
    (foundSecond : store.record? second.id = some second)
    (lateFirst : first.isOverdue now = true) (lateSecond : second.isOverdue now = true)
    (ours : first.parent = second.parent) (resource : Resource) :
    resource.derive? ((store.replace (second.lapsed now)).statuses parent) =
      resource.derive? ((store.replace (first.lapsed now)).statuses parent) := by
  have counted : ∀ sort, Status.Blunt sort →
      ((store.replace (second.lapsed now)).statuses parent).countP sort =
        ((store.replace (first.lapsed now)).statuses parent).countP sort := by
    intro sort blunt
    have alike := blunt _ _ (Authorisation.live_of_isOverdue lateFirst)
      (Authorisation.live_of_isOverdue lateSecond)
    have movedFirst := @countP_replace store (first.lapsed now) first distinct foundFirst
      fun record => sort record.status && record.parent == parent
    have movedSecond := @countP_replace store (second.lapsed now) second distinct foundSecond
      fun record => sort record.status && record.parent == parent
    rw [countP_statuses, countP_statuses]
    simp only [Authorisation.lapsed, ours, alike] at movedFirst movedSecond ⊢
    omega
  unfold Resource.derive?
  rw [resource.aggregate_congr counted]

theorem ext_lists (records : right.records = left.records)
    (resources : right.resources = left.resources) : right = left := by
  cases left
  cases right
  cases records
  cases resources
  rfl

/-- Two failures of one resource are told alike up to their order. -/
theorem perm_exchange (one other shared last : List Event) :
    (one ++ shared ++ (other ++ last)).Perm (other ++ shared ++ (one ++ last)) := by
  rw [List.perm_iff_count]
  intro event
  simp only [List.count_append]
  omega

theorem lapse_comm_of_siblings (distinct : store.Distinct)
    (foundFirst : store.record? first.id = some first)
    (foundSecond : store.record? second.id = some second)
    (lateFirst : first.isOverdue now = true) (lateSecond : second.isOverdue now = true)
    (different : first.id ≠ second.id) (ours : first.parent = second.parent) :
    (store.lapse now second.id).lapse now first.id =
        (store.lapse now first.id).lapse now second.id ∧
      ((store.lapseTidings now second.id) ++
          (store.lapse now second.id).lapseTidings now first.id).Perm
        ((store.lapseTidings now first.id) ++
          (store.lapse now first.id).lapseTidings now second.id) := by
  have secondNext : (store.lapse now first.id).record? second.id = some second :=
    (record?_lapse_of_ne different.symm).trans foundSecond
  have firstNext : (store.lapse now second.id).record? first.id = some first :=
    (record?_lapse_of_ne different).trans foundFirst
  rw [lapseTidings_of_found foundFirst lateFirst, lapseTidings_of_found foundSecond lateSecond,
    lapseTidings_of_found secondNext lateSecond, lapseTidings_of_found firstNext lateFirst,
    lapse_of_found secondNext lateSecond, lapse_of_found firstNext lateFirst,
    lapse_of_found foundFirst lateFirst, lapse_of_found foundSecond lateSecond]
  have swapped : (store.replace (second.lapsed now)).replace (first.lapsed now) =
      (store.replace (first.lapsed now)).replace (second.lapsed now) :=
    replace_comm different.symm
  have written (store : MemoryStore) (record : Authorisation) :
      ((store.projected first.parent).replace record).records = (store.replace record).records := by
    simp [replace]
  have records : (((store.replace (second.lapsed now)).projected first.parent).replace
      (first.lapsed now)).records =
      (((store.replace (first.lapsed now)).projected first.parent).replace
        (second.lapsed now)).records := by
    rw [written, written, swapped]
  -- After the first failure the resource is the same whichever was failed, and so after both.
  have once := @projected_congr (store.replace (first.lapsed now))
    (store.replace (second.lapsed now)) first.parent rfl
    (derive?_replace_lapsed distinct foundFirst foundSecond lateFirst lateSecond ours)
  have twice := @projected_congr
    (((store.replace (first.lapsed now)).projected first.parent).replace (second.lapsed now))
    (((store.replace (second.lapsed now)).projected first.parent).replace (first.lapsed now))
    first.parent once.1 fun resource => by rw [statuses_of_records_eq records]
  rw [← ours]
  refine ⟨ext_lists ?_ twice.1, ?_⟩
  · rw [records_projected, records_projected, records]
  · unfold lapseEvents
    rw [← ours, once.2, twice.2]
    exact perm_exchange
      [.expired second.id first.parent, .statusChanged second.id first.parent _ _]
      [.expired first.id first.parent, .statusChanged first.id first.parent _ _] _ _

theorem lapse_comm_of_strangers (distinct : store.Distinct)
    (foundFirst : store.record? first.id = some first)
    (foundSecond : store.record? second.id = some second)
    (lateFirst : first.isOverdue now = true) (lateSecond : second.isOverdue now = true)
    (apart : first.parent ≠ second.parent) :
    (store.lapse now second.id).lapse now first.id =
        (store.lapse now first.id).lapse now second.id ∧
      ((store.lapseTidings now second.id) ++
          (store.lapse now second.id).lapseTidings now first.id).Perm
        ((store.lapseTidings now first.id) ++
          (store.lapse now first.id).lapseTidings now second.id) := by
  have different : first.id ≠ second.id := by
    intro same
    rw [same, foundSecond] at foundFirst
    exact apart (congrArg Authorisation.parent (Option.some.inj foundFirst)).symm
  have secondNext : (store.lapse now first.id).record? second.id = some second :=
    (record?_lapse_of_ne different.symm).trans foundSecond
  have firstNext : (store.lapse now second.id).record? first.id = some first :=
    (record?_lapse_of_ne different).trans foundFirst
  have one : store.Drafts first { first with status := .failed } :=
    ⟨⟨foundFirst, rfl, rfl⟩, rfl⟩
  have two : store.Drafts second { second with status := .failed } :=
    ⟨⟨foundSecond, rfl, rfl⟩, rfl⟩
  rw [lapseTidings_of_found foundFirst lateFirst, lapseTidings_of_found foundSecond lateSecond,
    lapseTidings_of_found secondNext lateSecond, lapseTidings_of_found firstNext lateFirst,
    lapse_eq_commit secondNext lateSecond, lapse_eq_commit firstNext lateFirst,
    lapse_eq_commit foundFirst lateFirst, lapse_eq_commit foundSecond lateSecond]
  have keepsSecond : AgreesOn second.parent store
    (store.commit now { first with status := .failed }) := one.agreesOn_commit distinct apart
  have keepsFirst : AgreesOn first.parent store
    (store.commit now { second with status := .failed }) :=
      two.agreesOn_commit distinct apart.symm
  have toldSecond := ((two.saved now).replace_agreesOn distinct keepsSecond
    distinct.commit).parentChanges
  have toldFirst := ((one.saved now).replace_agreesOn distinct keepsFirst
    distinct.commit).parentChanges
  refine ⟨(one.commit_comm distinct two apart).symm, ?_⟩
  have sameSecond : (store.commit now { first with status := .failed }).lapseEvents second now =
      store.lapseEvents second now := congrArg (_ :: _ :: ·) toldSecond
  have sameFirst : (store.commit now { second with status := .failed }).lapseEvents first now =
      store.lapseEvents first now := congrArg (_ :: _ :: ·) toldFirst
  rw [sameSecond, sameFirst]
  exact List.perm_append_comm

/-- The records of two ids can be failed in either order. -/
theorem lapse_comm (distinct : store.Distinct) (one two : String) :
    (store.lapse now two).lapse now one = (store.lapse now one).lapse now two ∧
      (store.lapseTidings now two ++ (store.lapse now two).lapseTidings now one).Perm
        (store.lapseTidings now one ++ (store.lapse now one).lapseTidings now two) := by
  by_cases same : one = two
  · subst same
    exact ⟨rfl, .refl _⟩
  have idle {late spared : String} (different : spared ≠ late)
      (punctual : store.overdue now spared = false) :
      (store.lapse now late).lapse now spared = (store.lapse now spared).lapse now late ∧
        store.lapseTidings now late ++ (store.lapse now late).lapseTidings now spared =
          store.lapseTidings now spared ++ (store.lapse now spared).lapseTidings now late := by
    have still : (store.lapse now late).overdue now spared = false :=
      (overdue_lapse_of_ne different).trans punctual
    rw [lapse_of_not_overdue still, lapseTidings_of_not_overdue still,
      lapse_of_not_overdue punctual, lapseTidings_of_not_overdue punctual, List.append_nil]
    exact ⟨rfl, rfl⟩
  cases lateOne : store.overdue now one with
  | false =>
      rcases idle same lateOne with ⟨stores, told⟩
      exact ⟨stores, .of_eq told⟩
  | true =>
      cases lateTwo : store.overdue now two with
      | false =>
          rcases idle (Ne.symm same) lateTwo with ⟨stores, told⟩
          exact ⟨stores.symm, .of_eq told.symm⟩
      | true =>
          rcases overdue_eq_true lateOne with ⟨first, rfl, foundFirst, overdueFirst⟩
          rcases overdue_eq_true lateTwo with ⟨second, rfl, foundSecond, overdueSecond⟩
          by_cases ours : first.parent = second.parent
          · exact lapse_comm_of_siblings distinct foundFirst foundSecond overdueFirst
              overdueSecond same ours
          · exact lapse_comm_of_strangers distinct foundFirst foundSecond overdueFirst
              overdueSecond ours

/-! ## Some records -/

/-- Records can be failed in any order. -/
theorem lapses_perm (rooted : store.Rooted) {ids others : List String} (same : others.Perm ids) :
    others.foldl (lapse now) store = ids.foldl (lapse now) store ∧
      (lapsesTidings now others store).Perm (lapsesTidings now ids store) := by
  induction same generalizing store with
  | nil => exact ⟨rfl, .refl _⟩
  | cons id same induction =>
      rcases induction (rooted.lapse id) with ⟨stores, told⟩
      exact ⟨stores, told.append_left _⟩
  | swap one two ids =>
      rcases @lapse_comm store now rooted.distinct one two with ⟨stores, told⟩
      simp only [List.foldl_cons, lapsesTidings, ← List.append_assoc]
      rw [stores]
      exact ⟨rfl, told.append_right _⟩
  | trans earlier later inductionEarlier inductionLater =>
      rcases inductionEarlier rooted with ⟨stores, told⟩
      rcases inductionLater rooted with ⟨further, retold⟩
      exact ⟨stores.trans further, told.trans retold⟩

end MemoryStore

/-! ## Sweeps -/

/-- An order in which a sweep may take its candidates. -/
structure SweepOrder where
  arrange : List Authorisation → List Authorisation
  perm : ∀ candidates, (arrange candidates).Perm candidates

namespace SweepOrder

/-- The order in which the store has listed them. -/
def listed : SweepOrder := ⟨id, fun _ => .refl _⟩

def reversed : SweepOrder := ⟨List.reverse, List.reverse_perm⟩

end SweepOrder

/-- Fails every authorisation that is overdue, in some order, and counts them. -/
def Node.sweepIn (order : SweepOrder) (now : Time.Timestamp) : Action Nat := do
  sweepCandidates now (order.arrange (← Action.call (.listExpired now)))

/-- What a node does for an operation, with sweeps in some order. -/
def Operation.actionIn (order : SweepOrder) (node : Node) (now : Time.Timestamp) :
    (operation : Operation) → Action operation.Answer
  | .sweep => Node.sweepIn order now
  | operation => operation.action node now

theorem Operation.actionIn_listed (node : Node) (now : Time.Timestamp) (operation : Operation) :
    operation.actionIn .listed node now = operation.action node now := by
  cases operation <;> rfl

theorem Operation.actionIn_of_ne {operation : Operation} (other : operation ≠ .sweep)
    (order : SweepOrder) (node : Node) (now : Time.Timestamp) :
    operation.actionIn order node now = operation.action node now := by
  cases operation <;> first | rfl | exact absurd rfl other

namespace Deployment

variable {σ : Type} [Store σ]

/-- Performs a step, with a sweep in some order. -/
def performIn (deployment : Deployment) (order : SweepOrder) (step : Step) (world : World σ) :
    Except Failure step.operation.Answer × World σ :=
  world.runAction deployment.partner (step.operation.actionIn order deployment.node step.now)

/-- Performs steps one after the other, the sweeps among them in orders of their own. -/
def runIn (deployment : Deployment) (orders : Nat → SweepOrder) :
    List Step → World σ → List Completed × World σ
  | [], world => ([], world)
  | step :: steps, world =>
      let (answer, world) := deployment.performIn (orders 0) step world
      let (completed, world) := deployment.runIn (fun count => orders (count + 1)) steps world
      (⟨step, answer⟩ :: completed, world)

theorem runIn_listed (deployment : Deployment) (steps : List Step) (world : World σ) :
    deployment.runIn (fun _ => .listed) steps world = deployment.run steps world := by
  induction steps generalizing world with
  | nil => rfl
  | cons step steps induction =>
      have performs : deployment.performIn .listed step world = deployment.perform step world :=
        congrArg (world.runAction deployment.partner) (Operation.actionIn_listed _ _ _)
      simp only [runIn, run, performs, induction]

theorem runIn_append_singleton (deployment : Deployment) (orders : Nat → SweepOrder)
    (steps : List Step) (step : Step) (world : World σ) :
    let before := deployment.runIn orders steps world
    let after := deployment.performIn (orders steps.length) step before.2
    deployment.runIn orders (steps ++ [step]) world =
      (before.1 ++ [⟨step, after.1⟩], after.2) := by
  induction steps generalizing orders world with
  | nil => rfl
  | cons first steps induction =>
      simp only [List.cons_append, runIn, induction, List.length_cons]

end Deployment

/-! ## What is told -/

/-- What was told before does not matter to a procedure. -/
theorem World.run_retold {σ : Type} [Store σ] {α : Type} (partner : Partner)
    (procedure : Procedure α) (world : World σ) : ∃ told, ∀ events,
      World.run partner procedure { world with events } =
        ((world.run partner procedure).1,
          { (world.run partner procedure).2 with events := events ++ told }) := by
  induction procedure generalizing world with
  | done value => exact ⟨[], fun events => by simp⟩
  | ask effect next induction =>
      have performs : ∃ told, ∀ events, World.perform partner { world with events } effect =
          ((world.perform partner effect).1,
            { (world.perform partner effect).2 with events := events ++ told }) := by
        cases effect with
        | publish event => exact ⟨[event], fun _ => rfl⟩
        | _ => exact ⟨[], fun events => by rw [List.append_nil]; rfl⟩
      rcases performs with ⟨first, performs⟩
      rcases induction (world.perform partner effect).1 (world.perform partner effect).2
        with ⟨others, runs⟩
      refine ⟨first ++ others, fun events => ?_⟩
      rw [run_ask, run_ask, performs, runs, List.append_assoc]

/-- Locks that are taken and given back one after the other leave nothing in the table. -/
theorem Node.passedBy_of_alone {locks : Locks} (alone : locks.Alone .away) (ids : List String) :
    Node.passedBy locks ids = ⟨locks.fresh + ids.length, [], [], []⟩ := by
  induction ids generalizing locks with
  | nil => exact alone
  | cons id ids induction =>
      have vacant : locks = ⟨locks.fresh, [], [], []⟩ := alone
      have next : Node.passedBy locks (id :: ids) =
          Node.passedBy ⟨locks.fresh + 1, [], [], []⟩ ids := by
        rw [vacant]
        simp [Node.passedBy, Locks.obtain, Locks.take, Locks.free, Locks.giveBack]
      have still : Locks.Alone ⟨locks.fresh + 1, [], [], []⟩ .away := rfl
      rw [next, induction still, List.length_cons, Nat.add_right_comm, Nat.add_assoc]

namespace Deployment

/-- In another order, after other events, a step answers and ends the same, and tells the same in
another order at most. -/
theorem performIn_retold (deployment : Deployment) {world : World MemoryStore}
    (rooted : world.store.Rooted) (alone : world.locks.Alone .away) (first second : SweepOrder)
    (step : Step) : ∃ told shown, shown.Perm told ∧ (step.operation ≠ .sweep → shown = told) ∧
      (deployment.performIn first step world).2.events = world.events ++ told ∧
      ∀ events, deployment.performIn second step { world with events } =
        ((deployment.performIn first step world).1,
          { (deployment.performIn first step world).2 with events := events ++ shown }) := by
  rcases step with ⟨operation, now⟩
  by_cases sweeps : operation = .sweep
  · subst sweeps
    have listing (order : SweepOrder) (world : World MemoryStore) :
        deployment.performIn order ⟨.sweep, now⟩ world = world.runAction deployment.partner
          (Node.sweepCandidates now (order.arrange (world.store.listExpired now))) := by
      change world.runAction _ (Node.sweepIn order now) = _
      unfold Node.sweepIn
      rw [World.runAction_bind, World.runAction_listExpired]
    have ids := ((second.perm (world.store.listExpired now)).trans
      (first.perm (world.store.listExpired now)).symm).map (·.id)
    rcases MemoryStore.lapses_perm rooted ids with ⟨stores, told⟩
    rcases Node.runAction_sweepCandidates deployment.partner now rooted
      (first.arrange (world.store.listExpired now)) with ⟨count, ran, counted⟩
    refine ⟨_, _, told, fun other => absurd rfl other, by rw [listing, ran], fun events => ?_⟩
    rcases @Node.runAction_sweepCandidates { world with events } deployment.partner now rooted
      (second.arrange (world.store.listExpired now)) with ⟨again, reran, recounted⟩
    dsimp only at counted recounted
    rw [stores] at recounted
    have sameCount : again = count := by omega
    rw [listing, listing, ran, reran, sameCount, stores, Node.passedBy_of_alone alone,
      Node.passedBy_of_alone alone, ids.length_eq]
  · have same (order : SweepOrder) (world : World MemoryStore) :
        deployment.performIn order ⟨operation, now⟩ world =
          deployment.perform ⟨operation, now⟩ world :=
      congrArg (world.runAction deployment.partner) (Operation.actionIn_of_ne sweeps _ _ _)
    rcases world.run_retold deployment.partner (operation.action deployment.node now).run
      with ⟨told, runs⟩
    refine ⟨told, told, .refl told, fun _ => rfl, ?_, fun events => ?_⟩
    · rw [same]
      exact congrArg (fun ran => ran.2.events) (runs world.events)
    · rw [same, same]
      exact runs events

end Deployment

/-! ## Runs -/

/-- The answers are the same, and so are the worlds, up to the order in which events were told. -/
structure Retells (one two : List Completed × World MemoryStore) : Prop where
  answers : two.1 = one.1
  told : two.2.events.Perm one.2.events
  world : two.2 = { one.2 with events := two.2.events }

namespace Deployment

variable (deployment : Deployment)

/-- What holds between the steps of runs in which sweeps take their candidates as listed holds
in any order. -/
theorem sound_of_retells {steps : List Step} {run : List Completed × World MemoryStore}
    (retells : Retells (deployment.run steps (.fresh .empty)) run) :
    run.2.store.Rooted ∧ run.2.locks.Alone .away := by
  rw [retells.world, ← play_operate]
  exact ⟨deployment.rooted_play _, deployment.alone_play _⟩

/-- Runs in different orders are the same, up to the order in which events were told. -/
theorem runIn_retells (first second : Nat → SweepOrder) (steps : List Step) :
    Retells (deployment.runIn first steps (.fresh .empty))
      (deployment.runIn second steps (.fresh .empty)) := by
  induction steps using List.reverseRecOn generalizing first second with
  | nil => exact ⟨rfl, .refl _, rfl⟩
  | append_singleton steps step induction =>
      have listed := induction (fun _ => .listed) first
      rw [runIn_listed] at listed
      rcases deployment.sound_of_retells listed with ⟨rooted, alone⟩
      rcases deployment.performIn_retold rooted alone (first steps.length) (second steps.length)
        step with ⟨told, shown, perm, _, tells, retells⟩
      rcases induction first second with ⟨answers, before, same⟩
      have performs := retells (deployment.runIn second steps (.fresh MemoryStore.empty)).2.events
      rw [← same] at performs
      rw [runIn_append_singleton, runIn_append_singleton, performs]
      refine ⟨by rw [answers], ?_, rfl⟩
      dsimp only
      rw [tells]
      exact before.append perm

/-- Whatever the orders are, between the steps of a run every record has its resource, and there
are no locks. -/
theorem sound_runIn (orders : Nat → SweepOrder) (steps : List Step) :
    (deployment.runIn orders steps (.fresh MemoryStore.empty)).2.store.Rooted ∧
      (deployment.runIn orders steps (.fresh MemoryStore.empty)).2.locks.Alone .away := by
  have listed := deployment.runIn_retells (fun _ => .listed) orders steps
  rw [runIn_listed] at listed
  exact deployment.sound_of_retells listed

/-- What the next step tells is the same in any order, but for the order in which a sweep tells
of its candidates. -/
theorem runIn_tells (first second : Nat → SweepOrder) (steps : List Step) (step : Step) :
    ∃ told shown, shown.Perm told ∧ (step.operation ≠ .sweep → shown = told) ∧
      (deployment.runIn first (steps ++ [step]) (.fresh MemoryStore.empty)).2.events =
        (deployment.runIn first steps (.fresh MemoryStore.empty)).2.events ++ told ∧
      (deployment.runIn second (steps ++ [step]) (.fresh MemoryStore.empty)).2.events =
        (deployment.runIn second steps (.fresh MemoryStore.empty)).2.events ++ shown := by
  rcases deployment.sound_runIn first steps with ⟨rooted, alone⟩
  rcases deployment.performIn_retold rooted alone (first steps.length) (second steps.length)
    step with ⟨told, shown, perm, same, tells, retells⟩
  have performs := retells (deployment.runIn second steps (.fresh MemoryStore.empty)).2.events
  rw [← (deployment.runIn_retells first second steps).world] at performs
  refine ⟨told, shown, perm, same, ?_, ?_⟩
  · rw [runIn_append_singleton]
    exact tells
  · rw [runIn_append_singleton, performs]

end Deployment

end StrongAuth
