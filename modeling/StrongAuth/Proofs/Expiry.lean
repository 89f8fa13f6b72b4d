import StrongAuth.Proofs.AnyStore
import StrongAuth.Proofs.Inquiry

/-! # Expiry

A request, a question for the status and the sweep fail an overdue record in the same way, and
only the request and its refusal are told of besides. Main statement: whichever of them comes
to an overdue record, the bank is not called, and the store and the events are the same
afterwards; a question for a status changes nothing else, whatever others do meanwhile. -/

namespace StrongAuth

/-- The store differs from an earlier one in that a record was failed: its resource has had its
status derived once more, and everything else is as it was. -/
structure Lapsed (now : Time.Timestamp) (record : Authorisation) (before after : MemoryStore) :
    Prop where
  failed : after.record? record.id = some (record.lapsed now)
  records : ∀ id ≠ record.id, after.record? id = before.record? id
  parent : ∃ resource, before.resource? record.parent = some resource ∧
    after.resource? record.parent = some (resource.derived (after.statuses record.parent))
  resources : ∀ id ≠ record.parent, after.resource? id = before.resource? id

variable {record : Authorisation} {resource : Resource} {world : World MemoryStore}
  {now : Time.Timestamp}

theorem MemoryStore.lapsed_commit {store : MemoryStore}
    (current : store.Current { record with status := .failed })
    (present : store.resource? record.parent = some resource) :
    Lapsed now record store (store.commit now { record with status := .failed }) := by
  have commits : store.commit now { record with status := .failed } =
      (store.replace (record.lapsed now)).projected record.parent := commit_of_current current
  have sameStatuses : statuses _ record.parent =
      (store.replace (record.lapsed now)).statuses record.parent :=
    statuses_of_records_eq (@records_projected _ record.parent) record.parent
  constructor
  · rw [record?_commit current]
    exact if_pos rfl
  · intro id other
    rw [record?_commit current]
    exact if_neg other
  · refine ⟨resource, present, ?_⟩
    rw [commits, sameStatuses, resource?_projected, if_pos rfl]
    exact congrArg (Option.map _) present
  · intro id other
    rw [commits, resource?_projected, if_neg other]
    rfl

theorem MemoryStore.lapsed_lapse {store : MemoryStore}
    (found : store.record? record.id = some record)
    (present : store.resource? record.parent = some resource)
    (overdue : record.isOverdue now = true) :
    Lapsed now record store (store.lapse now record.id) := by
  rw [lapse_eq_commit found overdue]
  exact lapsed_commit ⟨record, found, rfl⟩ present

/-! ## On any store -/

/-- Whatever a request, a question for the status and the sweep come to when they come to a
record, they leave the store and the events alike, but for a refusal. -/
structure Deployment.EndsAlike {σ : Type} [Store σ] (deployment : Deployment) (before : World σ)
    (id : String) (now : Time.Timestamp) (updated : Except Failure UpdateResponse)
    (asked : Except Failure Status) (swept : Except Failure Bool) (store : σ)
    (events : List Event) : Prop where
  update : ∀ request, ∃ locks, deployment.perform ⟨.update id request, now⟩ before =
    (updated, { before with store, locks, events := events ++ Node.rejections id updated })
  status : ∃ locks, deployment.perform ⟨.status id, now⟩ before =
    (asked, { before with store, events, locks })
  sweep : ∃ locks, before.runAction deployment.partner
      (Action.withLock id (Node.expireCandidate id now)) =
    (swept, { before with store, events, locks })

/-- How an overdue record is failed: it is stored as failed and told of, and the status of its
parent comes after that. A fault in the way of the parent is answered instead. -/
structure Deployment.FailsOverdue {σ : Type} [Store σ] (deployment : Deployment)
    (before : World σ) (record : Authorisation) (now : Time.Timestamp) (stored : σ)
    (events : List Event) : Prop where
  saves : Store.save { record with status := .failed, updated := now } before.store =
    .ok (record.lapsed now, stored)
  told : events = before.events ++ [.expired record.id record.parent,
    .statusChanged record.id record.parent (Vocabulary.word record.status)
      (Vocabulary.word Status.failed)]
  projected : ∀ projection, Store.project record.parent stored = .ok projection →
    deployment.EndsAlike before record.id now (.error (.refused .expired)) (.ok .failed) (.ok true)
      projection.store (events ++ projection.told)
  unprojected : ∀ fault, Store.project record.parent stored = .error fault →
    deployment.EndsAlike before record.id now (.error (.faulted fault)) (.error (.faulted fault))
      (.error (.faulted fault)) stored events

section

variable {σ : Type} [Store σ] {before : World σ} {id : String} {store : σ} {events : List Event}

namespace Deployment

theorem EndsAlike.answers {deployment : Deployment} {updated : Except Failure UpdateResponse}
    {asked : Except Failure Status} {swept : Except Failure Bool}
    (ends : deployment.EndsAlike before id now updated asked swept store events) :
    (∀ request, (deployment.perform ⟨.update id request, now⟩ before).1 = updated) ∧
      (deployment.perform ⟨.status id, now⟩ before).1 = asked := by
  refine ⟨?_, ?_⟩
  · intro request
    rcases ends.update request with ⟨_, answers⟩
    exact congrArg Prod.fst answers
  · rcases ends.status with ⟨_, answers⟩
    exact congrArg Prod.fst answers

/-- All three do what becomes of the failing of an overdue record. -/
theorem endsAlike_of_expire (deployment : Deployment) (outcome : Except Failure Authorisation)
    (read : Store.get record.id before.store = .ok (some record))
    (overdue : record.isOverdue now = true)
    (ran : ∀ locks, World.runAction deployment.partner (Node.expire record now)
      { before with locks } = (outcome, { before with store, events, locks })) :
    deployment.EndsAlike before record.id now (outcome.bind fun _ => .error (.refused .expired))
      (outcome.map (·.status)) (outcome.map fun _ => true) store events where
  update := by
    intro request
    rcases Node.runAction_update deployment.partner deployment.node record.id request now before
      with ⟨busy, idle, updates⟩
    let taken : World σ := { before with locks := busy }
    have reads : Store.get record.id taken.store = .ok (some record) := read
    rw [Node.runAction_process_of_late deployment.partner deployment.node request reads overdue,
      ran] at updates
    exact ⟨idle, updates⟩
  status := by
    rcases Node.runAction_status_of_late deployment.partner read overdue
      with ⟨busy, idle, answers⟩
    rw [ran] at answers
    exact ⟨idle, answers⟩
  sweep := by
    rcases Node.runAction_withLock deployment.partner record.id
      (Node.expireCandidate record.id now) before with ⟨busy, idle, locked⟩
    let taken : World σ := { before with locks := busy }
    have reads : Store.get record.id taken.store = .ok (some record) := read
    rw [Node.runAction_expireCandidate_of_late deployment.partner reads overdue, ran] at locked
    exact ⟨idle, locked⟩

/-- A record that cannot be read stops all three. -/
theorem endsAlike_of_unreadable (deployment : Deployment) (now : Time.Timestamp)
    {fault : StoreFault} (unreadable : Store.get id before.store = .error fault) :
    let failure : Failure := .faulted (.storage fault)
    deployment.EndsAlike before id now (.error failure) (.error failure) (.error failure)
      before.store before.events := by
  intro failure
  have loads (world : World σ) (same : world.store = before.store) :
      world.runAction deployment.partner (Node.load id) = (.error failure, world) :=
    Node.runAction_load_of_error (same ▸ unreadable)
  refine ⟨?_, ⟨before.locks, World.runAction_bind_of_error _ (loads before rfl) _⟩, ?_⟩
  · intro request
    rcases Node.runAction_update deployment.partner deployment.node id request now before
      with ⟨busy, idle, updates⟩
    let taken : World σ := { before with locks := busy }
    have stops : taken.runAction deployment.partner (deployment.node.process id request now) =
        (.error failure, taken) :=
      World.runAction_bind_of_error deployment.partner (loads taken rfl) _
    rw [stops] at updates
    exact ⟨idle, updates⟩
  · rcases Node.runAction_withLock deployment.partner id (Node.expireCandidate id now) before
      with ⟨busy, idle, locked⟩
    let taken : World σ := { before with locks := busy }
    have stops : taken.runAction deployment.partner (Action.call (.get id)) =
        (.error failure, taken) := by
      rw [World.runAction_call]
      dsimp only [Store.perform]
      rw [unreadable]
      rfl
    have stops : taken.runAction deployment.partner (Node.expireCandidate id now) =
        (.error failure, taken) := World.runAction_bind_of_error deployment.partner stops _
    rw [stops] at locked
    exact ⟨idle, locked⟩

theorem failsOverdue [LawfulStore σ] (deployment : Deployment)
    (read : Store.get record.id before.store = .ok (some record))
    (overdue : record.isOverdue now = true) :
    ∃ stored events, deployment.FailsOverdue before record now stored events := by
  let draft : Authorisation := { record with status := .failed }
  have reads : Store.get draft.id before.store = .ok (some record) := read
  have changed : Node.changes (record.lapsed now) record.status =
      [.statusChanged record.id record.parent (Vocabulary.word record.status)
        (Vocabulary.word Status.failed)] := by
    refine if_neg fun same => ?_
    have live := Authorisation.live_of_isOverdue overdue
    rw [← same] at live
    cases live
  rcases Store.exists_save_of_get reads rfl with ⟨stored, saves⟩
  have ran (locks : Locks) := @Node.runAction_expire_of_saves σ _ { before with locks } now record
    (record.lapsed now) stored deployment.partner saves
  rw [changed] at ran
  refine ⟨stored, _, saves, rfl, ?_, ?_⟩
  · intro projection projects
    have projects : Store.project (record.lapsed now).parent stored = .ok projection := projects
    rw [projects] at ran
    exact deployment.endsAlike_of_expire (.ok (record.lapsed now)) read overdue ran
  · intro fault projects
    have projects : Store.project (record.lapsed now).parent stored = .error fault := projects
    rw [projects] at ran
    exact deployment.endsAlike_of_expire (.error (.faulted fault)) read overdue ran

/-- A sweep that cannot list what has expired leaves everything as it is. -/
theorem perform_sweep_of_error (deployment : Deployment) (now : Time.Timestamp)
    {fault : StoreFault} (unlisted : Store.listExpired now before.store = .error fault) :
    deployment.perform ⟨.sweep, now⟩ before = (.error (.faulted (.storage fault)), before) := by
  have stops : before.runAction deployment.partner (Action.call (.listExpired now)) =
      (.error (.faulted (.storage fault)), before) := by
    rw [World.runAction_call]
    dsimp only [Store.perform]
    rw [unlisted]
    rfl
  exact World.runAction_bind_of_error _ stops _

end Deployment

end

namespace Deployment

/-- Between the steps of a run there are no locks. -/
theorem alone_play (deployment : Deployment) (moves : List Move) :
    (deployment.play moves (.fresh .empty)).locks.Alone .away := by
  apply play_induction (fun _ world => world.locks.Alone .away) moves
  · rfl
  · rintro moves before move rfl alone
    cases move with
    | operate step => exact deployment.alone_perform step alone
    | outside interference => exact alone

/-- In memory nothing is in the way of failing an overdue record. -/
theorem endsAlike_lapse (deployment : Deployment)
    (found : world.store.record? record.id = some record)
    (present : world.store.resource? record.parent = some resource)
    (overdue : record.isOverdue now = true) :
    deployment.EndsAlike world record.id now (.error (.refused .expired)) (.ok .failed) (.ok true)
      (world.store.lapse now record.id) (world.events ++ world.store.lapseEvents record now) := by
  have read : Store.get record.id world.store = .ok (some record) := congrArg Except.ok found
  rcases deployment.failsOverdue read overdue with ⟨stored, _, saves, rfl, projected, _⟩
  rcases MemoryStore.save_eq_ok saves with ⟨_, _, _, _, rfl⟩
  have expires := projected _ (MemoryStore.project_of_resource? present)
  rw [MemoryStore.lapse_of_found found overdue]
  rw [List.append_assoc] at expires
  exact expires

/-- Whoever comes to an overdue record fails it in the same way, without a call to the bank. A
question for a status leaves every other record alone, in memory also if others come in between.
On tables the last step of the failing is missing wherever they cannot read all authorisations of
the parent, and they do not even begin with a record that they cannot read themselves. -/
theorem expiry_dominates (deployment : Deployment) :
    (∀ moves,
      let world := deployment.play moves (.fresh .empty)
      (∀ record now, world.store.record? record.id = some record → record.isOverdue now = true →
        let store := world.store.lapse now record.id
        Lapsed now record world.store store ∧
        deployment.EndsAlike world record.id now (.error (.refused .expired)) (.ok .failed)
          (.ok true) store (world.events ++ world.store.lapseEvents record now)) ∧
      (∀ record now, world.store.record? record.id = some record →
        record.isOverdue now = false →
        deployment.perform ⟨.status record.id, now⟩ world = (.ok record.status, world)) ∧
      ∀ traffic, Traffic.Leads deployment (.idle world) traffic → ∀ errand ∈ traffic.errands,
        ∀ id now, errand.step = ⟨.status id, now⟩ →
          ∀ deed ∈ errand.deeds, deed.FailsOverdue now) ∧
    (∀ id now deeds status,
      Procedure.Does deployment.partner (Node.status id now).run deeds (.ok status) →
      status.isTerminal = false → ∃ (later : World MemoryStore) (record : Authorisation),
        deeds = [⟨later, .store (.get id)⟩] ∧ later.store.record? id = some record ∧
        record.isOverdue now = false ∧ status = record.status) ∧
    ∀ before : World TableStore,
      (∀ record now, Store.get record.id before.store = .ok (some record) →
        record.isOverdue now = true → ∃ stored events,
          deployment.FailsOverdue before record now stored events ∧
          ∀ resource, Store.resource record.parent before.store = .ok (some resource) →
            ((∃ projection, Store.project record.parent stored = .ok projection) ↔
              stored.Listable record.parent)) ∧
      (∀ record now, Store.get record.id before.store = .ok (some record) →
        record.isOverdue now = false →
        deployment.perform ⟨.status record.id, now⟩ before = (.ok record.status, before)) ∧
      (∀ id now fault, Store.get id before.store = .error fault →
        let failure : Failure := .faulted (.storage fault)
        deployment.EndsAlike before id now (.error failure) (.error failure) (.error failure)
          before.store before.events) ∧
      ∀ now fault, Store.listExpired now before.store = .error fault →
        deployment.perform ⟨.sweep, now⟩ before = (.error (.faulted (.storage fault)), before) := by
  refine ⟨?_, ?_, ?_⟩
  · intro moves world
    refine ⟨?_, ?_, ?_⟩
    · intro record now found overdue store
      rcases parent_of_record? found with ⟨resource, present⟩
      exact ⟨MemoryStore.lapsed_lapse found present overdue,
        deployment.endsAlike_lapse found present overdue⟩
    · intro record now found punctual
      exact Node.runAction_status_of_punctual _ (congrArg Except.ok found) punctual
    · intro traffic leads errand member id now same
      have idle : Traffic.Lasting deployment (.idle world) :=
        Traffic.lasting_idle (deployment.alone_play moves).unused
      exact ((leads.lasting idle).errands errand member).failsOverdue id now same
  · intro id now deeds status does live
    rcases Procedure.Keeps.of_does (Node.lapses_status deployment.partner id now) does
      with terminal | read
    · rw [live] at terminal
      cases terminal
    · exact read
  · intro before
    refine ⟨?_, ?_, ?_, ?_⟩
    · intro record now read overdue
      rcases deployment.failsOverdue read overdue with ⟨stored, events, fails⟩
      refine ⟨stored, events, fails, fun resource present => ?_⟩
      exact TableStore.exists_project_iff (((LawfulStore.of_save fails.saves).2 _).trans present)
    · intro record now read punctual
      exact Node.runAction_status_of_punctual _ read punctual
    · intro id now fault unreadable
      exact deployment.endsAlike_of_unreadable now unreadable
    · intro now fault unlisted
      exact deployment.perform_sweep_of_error now unlisted

/-- Two nodes with different lifetimes have started authorisations of one payment on one
database. The one that lasts for more than twelve thousand years cannot be read. -/
def twoLifetimes : World TableStore :=
  let payment : Resource :=
    ⟨"payment", .payment, .payment .received, false, false, false, [], .epoch⟩
  let enduring : Deployment :=
    ⟨{ Node.standard with lifetime := 400000000000000000000 }, SimulatedBank.standard.toBank⟩
  let started := (enduring.run [⟨.register payment, .epoch⟩,
    ⟨.start "second" "payment" none (some .embedded), .epoch⟩] (.fresh .empty)).2
  ((Deployment.simulated .standard).run
    [⟨.start "first" "payment" none (some .embedded), .epoch⟩] started).2

/-- Whatever is saved of the other one, the payment does not have its status derived. -/
theorem twoLifetimes_unprojected {draft saved : Authorisation} {later : TableStore}
    (saves : Store.save draft twoLifetimes.store = .ok (saved, later))
    (first : draft.id = "first") : ∃ fault, Store.project "payment" later = .error fault := by
  have unreadable : twoLifetimes.store.authorisations.any (fun row =>
      row .id == .text "second" && row .parent == .text "payment" &&
        !(TableStore.readRecord row).isOk) = true := by decide +kernel
  rcases List.any_eq_true.mp unreadable with ⟨row, member, facts⟩
  simp only [Bool.and_eq_true, beq_iff_eq, Bool.not_eq_true'] at facts
  rcases facts with ⟨⟨second, ofPayment⟩, fails⟩
  cases reads : TableStore.readRecord row with
  | ok record =>
      rw [reads] at fails
      cases fails
  | error fault =>
      refine TableStore.project_error_of_save saves member ?_ ofPayment reads
      rw [second, first]
      decide

/-- Two questions for an abandoned authorisation find it overdue, and the first one of them to
get the lock fails it; a question for the authorisation that was started just now reads it
once. Next to an authorisation that cannot be read an abandoned one is failed as well, but
everyone who asks for it gets a fault, and the sweep does not find it. -/
theorem abandoned_authorisation_expires :
    let deployment := Deployment.simulated .standard
    let evening : Time.Timestamp := ⟨20000, 500, by decide, by decide, by decide, by decide⟩
    let world := deployment.play (abandonedSteps.map .operate) (.fresh .empty)
    let reading := world.deeds deployment.partner (Node.status "third" evening).run
    (∀ request, (deployment.perform ⟨.update "first" request, evening⟩ world).1 =
      .error (.refused .expired)) ∧
    (deployment.perform ⟨.status "first", evening⟩ world).1 = .ok .failed ∧
    deployment.perform ⟨.status "third", evening⟩ world = (.ok .received, world) ∧
    (∃ traffic, Traffic.Leads deployment (.idle world) traffic ∧
      traffic.errands.map (·.deeds.length) = [11, 6] ∧
      (traffic.world.store.record? "first").map (fun record => (record.status, record.version)) =
        some (.failed, 1) ∧
      ∀ errand ∈ traffic.errands, ∀ deed ∈ errand.deeds, deed.FailsOverdue evening) ∧
    (∃ (later : World MemoryStore) (record : Authorisation),
      reading = [⟨later, .store (.get "third")⟩] ∧ record.isOverdue evening = false ∧
      record.status = .received) ∧
    ∃ fault : Fault,
      (∀ request, (deployment.perform ⟨.update "first" request, evening⟩ twoLifetimes).1 =
        .error (.faulted fault)) ∧
      (deployment.perform ⟨.status "first", evening⟩ twoLifetimes).1 = .error (.faulted fault) ∧
      ∃ fault, deployment.perform ⟨.sweep, evening⟩ twoLifetimes =
        (.error (.faulted (.storage fault)), twoLifetimes) := by
  intro deployment evening world reading
  rcases deployment.expiry_dominates with ⟨inMemory, reads, onTables⟩
  rcases inMemory (abandonedSteps.map .operate) with ⟨lapses, stays, questions⟩
  rcases onTables twoLifetimes with ⟨expires, _, _, unswept⟩
  have abandoned : (world.store.record? "first").map (·.isOverdue evening) = some true := by
    decide +kernel
  have started : (world.store.record? "third").map
      (fun record => (record.isOverdue evening, record.status)) = some (false, .received) := by
    decide +kernel
  rcases Option.map_eq_some_iff.mp abandoned with ⟨first, foundFirst, overdue⟩
  rcases Option.map_eq_some_iff.mp started with ⟨third, foundThird, facts⟩
  rcases Prod.mk.inj facts with ⟨punctual, received⟩
  have firstId : first.id = "first" := (MemoryStore.mem_of_record? foundFirst).2
  have thirdId : third.id = "third" := (MemoryStore.mem_of_record? foundThird).2
  have fails := (lapses first evening (firstId.symm ▸ foundFirst) overdue).2
  have answers := stays third evening (thirdId.symm ▸ foundThird) punctual
  rw [firstId] at fails
  rw [thirdId, received] at answers
  refine ⟨fails.answers.1, fails.answers.2, answers, ?_, ?_, ?_⟩
  · let steps : List Step := [⟨.status "first", evening⟩, ⟨.status "first", evening⟩]
    let positions := [0, 1] ++ List.replicate 10 0 ++ List.replicate 5 1
    have goes : (Traffic.schedule deployment world steps positions).map (fun traffic =>
        (traffic.errands.map (·.step), traffic.errands.map (·.deeds.length),
          (traffic.world.store.record? "first").map fun record =>
            (record.status, record.version))) =
        some (steps, [11, 6], some (.failed, 1)) := by decide +kernel
    rcases Option.map_eq_some_iff.mp goes with ⟨traffic, scheduled, facts⟩
    simp only [Prod.mk.injEq] at facts
    have leads := Traffic.leads_schedule scheduled
    refine ⟨traffic, leads, facts.2.1, facts.2.2, ?_⟩
    intro errand member
    have listed : errand.step ∈ steps := by
      rw [← facts.1]
      exact List.mem_map_of_mem member
    have question : errand.step = ⟨.status "first", evening⟩ := by simpa [steps] using listed
    exact questions traffic leads errand member "first" evening question
  · have does := World.does_deeds deployment.partner (Node.status "third" evening).run world
    have answer : (world.run deployment.partner (Node.status "third" evening).run).1 =
        .ok .received := congrArg Prod.fst answers
    rw [answer] at does
    rcases reads "third" evening reading .received does rfl
      with ⟨later, record, reading, _, punctual, status⟩
    exact ⟨later, record, reading, punctual, status.symm⟩
  · have loads : (Store.get "first" twoLifetimes.store).map (fun found => found.map fun record =>
        (record.id, record.parent, record.isOverdue evening)) =
        .ok (some ("first", "payment", true)) := by decide +kernel
    have unlisted : (Store.listExpired evening twoLifetimes.store).isOk = false := by
      decide +kernel
    rcases map_eq_ok_iff.mp loads with ⟨found, read, facts⟩
    rcases Option.map_eq_some_iff.mp facts with ⟨record, rfl, same⟩
    simp only [Prod.mk.injEq] at same
    rcases same with ⟨sameId, ofPayment, overdue⟩
    rcases expires record evening (sameId ▸ read) overdue with ⟨stored, _, fails, _⟩
    rcases twoLifetimes_unprojected fails.saves sameId with ⟨fault, unprojected⟩
    have faults := fails.unprojected fault (ofPayment ▸ unprojected)
    rw [sameId] at faults
    refine ⟨fault, faults.answers.1, faults.answers.2, ?_⟩
    cases lists : Store.listExpired evening twoLifetimes.store with
    | ok records =>
        rw [lists] at unlisted
        cases unlisted
    | error fault => exact ⟨fault, unswept evening fault lists⟩

end Deployment

end StrongAuth
