import StrongAuth.Proofs.Aggregate
import StrongAuth.Proofs.Resources

/-! # Where the status of a resource comes from

Main statements: in an orderly run that nobody disturbs during calls, the stored status of a
resource was last set by someone else, or is the projection of the aggregate of the statuses
its authorisations have now; if nobody else uses the store at all, it is always the latter. A
closed status stays until someone else sets another one. -/

namespace StrongAuth

namespace MemoryStore

variable {store later : MemoryStore} {record stored : Authorisation} {resource : Resource}
  {parent : String} {now : Time.Timestamp}

/-! ## Statuses of the authorisations of a resource -/

theorem statuses_of_records_eq (same : later.records = store.records) (parent : String) :
    later.statuses parent = store.statuses parent := by
  unfold statuses listByParent
  rw [same]

theorem countP_statuses_append (parent : String) (sort : Status → Bool) :
    (statuses { store with records := store.records ++ [record] } parent).countP sort =
      (store.statuses parent).countP sort +
        if record.parent = parent then (sort record.status).toNat else 0 := by
  rw [countP_statuses, countP_statuses, List.countP_append, List.countP_singleton]
  by_cases same : record.parent = parent
  · rw [if_pos same, same, beq_self_eq_true, Bool.and_true]
    cases sort record.status <;> rfl
  · simp [same]

/-- A replacement changes the counts for a resource only by the new status of its record. -/
theorem countP_statuses_replace (distinct : store.Distinct)
    (found : store.record? record.id = some stored) (sameParent : record.parent = stored.parent)
    {sort : Status → Bool}
    (same : record.parent = parent → sort record.status = sort stored.status) :
    ((store.replace record).statuses parent).countP sort =
      (store.statuses parent).countP sort := by
  rw [countP_statuses, countP_statuses]
  apply countP_replace_of_eq distinct found
  rw [← sameParent]
  by_cases ours : record.parent = parent
  · rw [same ours]
  · rw [beq_false_of_ne ours, Bool.and_false, Bool.and_false]

theorem countP_statuses_interfere (distinct : store.Distinct) (interference : Interference)
    (parent : String) (sort : Status → Bool) :
    ((Store.interfere store interference).statuses parent).countP sort =
      (store.statuses parent).countP sort := by
  cases interference with
  | resave id =>
      rw [MemoryStore.interfere_resave]
      cases finds : store.record? id with
      | none => rfl
      | some record =>
          have sameId := (mem_of_record? finds).2
          let saved := { record with version := record.version + 1 }
          have found : store.record? saved.id = some record := by
            rw [← finds]
            exact congrArg store.record? sameId
          exact countP_statuses_replace distinct found rfl fun _ => rfl
  | setStatus id status =>
      rw [MemoryStore.interfere_setStatus]
      split <;> rfl

/-- The status of a resource is the projection of the aggregate of its authorisations. -/
def Coherent (store : MemoryStore) (resource : Resource) : Prop :=
  resource.status = (resource.aggregate (store.statuses resource.id)).project resource.kind

/-- Where the status of a resource comes from, if `last` is the last status that someone else
has set. -/
inductive Standing (last : Option ParentStatus) (store : MemoryStore) (resource : Resource) :
    Prop
  | outside (set : last = some resource.status)
  | derived (unclosed : last.all (!·.isClosed) = true) (coherent : store.Coherent resource)

namespace Standing

variable {last : Option ParentStatus}

theorem congr (standing : Standing last store resource)
    (same : ∀ sort, Status.Blunt sort →
      (later.statuses resource.id).countP sort = (store.statuses resource.id).countP sort) :
    Standing last later resource := by
  cases standing with
  | outside set => exact .outside set
  | derived unclosed coherent =>
      apply Standing.derived unclosed
      unfold Coherent
      rw [resource.aggregate_congr same]
      exact coherent

theorem received (standing : Standing last store resource)
    (accepting : resource.status.acceptsAuthorisation = true)
    (more : ∀ sort : Status → Bool, (later.statuses resource.id).countP sort =
      (store.statuses resource.id).countP sort + (sort .received).toNat) :
    Standing last later resource := by
  cases standing with
  | outside set => exact .outside set
  | derived unclosed coherent =>
      apply Standing.derived unclosed
      rw [coherent] at accepting
      unfold Coherent
      rw [Resource.aggregate_of_received_more accepting more]
      exact coherent

/-- Deriving the status once more keeps a closed status and makes every other one coherent. -/
theorem projected (standing : Standing last store resource)
    (found : later.resource? resource.id = some resource) {derived : Resource}
    (finds : (later.projected resource.id).resource? resource.id = some derived) :
    Standing last (later.projected resource.id) derived := by
  rw [resource?_projected, if_pos rfl, found] at finds
  have restated : { resource with status :=
      (resource.derive? (later.statuses resource.id)).getD resource.status } = derived :=
    Option.some.inj finds
  have sameStatuses : (later.projected resource.id).statuses resource.id =
      later.statuses resource.id := statuses_of_records_eq records_projected _
  rw [← restated, Resource.derive?_getD]
  cases closed : resource.status.isClosed with
  | true =>
      rw [if_pos rfl]
      cases standing with
      | outside set => exact .outside set
      | derived unclosed coherent =>
          rw [coherent, Aggregate.isClosed_project] at closed
          cases closed
  | false =>
      rw [if_neg (by simp)]
      refine .derived ?_ ?_
      · cases standing with
        | outside set =>
            rw [set]
            simp [closed]
        | derived unclosed coherent => exact unclosed
      · change _ = Aggregate.project _ (resource.aggregate (statuses _ resource.id))
        rw [sameStatuses]

end Standing

/-! ## Changes of the store -/

/-- Every resource stands. -/
def Stands (last : String → Option ParentStatus) (store : MemoryStore) : Prop :=
  ∀ resource, store.resource? resource.id = some resource →
    Standing (last resource.id) store resource

namespace Stands

variable {last : String → Option ParentStatus}

theorem of_eq (stands : Stands last store) (sameRecords : later.records = store.records)
    (sameResources : ∀ id, later.resource? id = store.resource? id) : Stands last later := by
  intro resource found
  rw [sameResources] at found
  apply (stands resource found).congr
  intro sort blunt
  rw [statuses_of_records_eq sameRecords]

theorem projected (stands : Stands last store)
    (sameResources : ∀ id, later.resource? id = store.resource? id)
    (counted : ∀ id ≠ parent, ∀ sort, Status.Blunt sort →
      (later.statuses id).countP sort = (store.statuses id).countP sort) :
    Stands last (later.projected parent) := by
  intro resource found
  by_cases ours : resource.id = parent
  · subst ours
    have kept := found
    rw [resource?_projected, if_pos rfl, sameResources] at kept
    rcases Option.map_eq_some_iff.mp kept with ⟨earlier, foundEarlier, restated⟩
    have sameId : earlier.id = resource.id := id_of_resource? foundEarlier
    rw [← sameId] at foundEarlier found ⊢
    exact (stands earlier foundEarlier).projected (sameResources _ ▸ foundEarlier) found
  · have foundEarlier := found
    rw [resource?_projected, if_neg ours, sameResources] at foundEarlier
    apply (stands resource foundEarlier).congr
    intro sort blunt
    rw [statuses_of_records_eq records_projected]
    exact counted resource.id ours sort blunt

theorem commit (stands : Stands last store) (distinct : store.Distinct)
    (found : store.record? record.id = some stored)
    (sameVersion : stored.version = record.version) (sameParent : record.parent = stored.parent)
    (live : stored.status.isTerminal = false) : Stands last (store.commit now record) := by
  have counted (id : String) (sort : Status → Bool)
      (same : record.parent = id → sort record.status = sort stored.status) :
      ((store.replace (record.saved now)).statuses id).countP sort =
        (store.statuses id).countP sort :=
    @countP_statuses_replace store (record.saved now) stored id distinct found sameParent sort same
  rw [commit_of_current ⟨stored, found, sameVersion⟩]
  cases terminal : record.status.isTerminal with
  | true =>
      rw [if_pos rfl]
      have sameResources (id : String) :
          (store.replace (record.saved now)).resource? id = store.resource? id := rfl
      apply stands.projected sameResources
      intro id other sort blunt
      exact counted id sort fun same => absurd same.symm other
  | false =>
      rw [if_neg (by simp)]
      intro resource foundResource
      apply (stands resource foundResource).congr
      intro sort blunt
      exact counted resource.id sort fun _ => blunt _ _ terminal live

theorem expires (stands : Stands last store) (distinct : store.Distinct)
    (expires : Expires now store later) : Stands last later := by
  induction expires with
  | refl store => exact stands
  | @step store final overdueRecord found overdue rest induction =>
      apply induction _ distinct.commit
      exact stands.commit distinct found rfl rfl (Authorisation.live_of_isOverdue overdue)

theorem append (stands : Stands last store) (received : record.status = .received)
    (accepting : ∀ resource, store.resource? record.parent = some resource →
      resource.status.acceptsAuthorisation = true) :
    Stands last { store with records := store.records ++ [record] } := by
  intro resource found
  have standing := stands resource found
  by_cases ours : record.parent = resource.id
  · apply standing.received (accepting resource (ours ▸ found))
    intro sort
    rw [countP_statuses_append, if_pos ours, received]
  · apply standing.congr
    intro sort blunt
    rw [countP_statuses_append, if_neg ours, Nat.add_zero]

theorem register (stands : Stands last store) {next : String → Option ParentStatus}
    (reset : next resource.id = none) (kept : ∀ id ≠ resource.id, next id = last id)
    (unused : store.statuses resource.id = [])
    (initial : resource.status = .initial resource.kind) :
    Stands next (store.register resource) := by
  have sameStatuses (id : String) : (store.register resource).statuses id = store.statuses id :=
    statuses_of_records_eq records_register id
  intro other found
  rw [resource?_register] at found
  by_cases same : other.id = resource.id
  · rw [if_pos same] at found
    cases found
    rw [reset]
    apply Standing.derived rfl
    unfold Coherent
    rw [sameStatuses, unused, Resource.aggregate_nil, Aggregate.project_received]
    exact initial
  · rw [if_neg same] at found
    rw [kept other.id same]
    apply (stands other found).congr
    intro sort blunt
    rw [sameStatuses]

theorem interfere_setStatus (stands : Stands last store) {id : String} {status : ParentStatus}
    {next : String → Option ParentStatus} (set : next id = some status)
    (kept : ∀ other ≠ id, next other = last other) :
    Stands next (Store.interfere store (.setStatus id status)) := by
  rw [MemoryStore.interfere_setStatus]
  intro other found
  cases finds : store.resource? id with
  | none =>
      rw [finds] at found
      have different : other.id ≠ id := by
        rintro rfl
        rw [finds] at found
        cases found
      rw [kept other.id different]
      exact stands other found
  | some resource =>
      rw [finds] at found
      have sameId := id_of_resource? finds
      rw [resource?_replaceResource] at found
      dsimp only at found
      rw [sameId] at found
      by_cases same : other.id = id
      · rw [if_pos same, same, finds] at found
        cases found
        exact .outside set
      · rw [if_neg same] at found
        rw [kept other.id same]
        exact (stands other found).congr fun _ _ => rfl

theorem interfere_resave (stands : Stands last store) (distinct : store.Distinct)
    (id : String) : Stands last (Store.interfere store (.resave id)) := by
  intro resource found
  have kept : store.resource? resource.id = some resource := by
    rw [MemoryStore.interfere_resave] at found
    split at found
    · exact found
    · exact found
  apply (stands resource kept).congr
  intro sort _
  exact countP_statuses_interfere distinct (.resave id) resource.id sort

end Stands

end MemoryStore

/-! ## Runs -/

/-- The last status that someone else has set, after a move. -/
def Move.mark (id : String) (last : Option ParentStatus) : Move → Option ParentStatus
  | .operate ⟨.register resource, _⟩ => if resource.id = id then none else last
  | .outside (.setStatus other status) => if other = id then some status else last
  | _ => last

theorem Move.mark_of_registered {move : Move} {resource : Resource}
    (registers : move.registered? = some resource) (id : String) (last : Option ParentStatus) :
    move.mark id last = if resource.id = id then none else last := by
  rcases move with ⟨⟨operation, now⟩⟩ | interference
  · cases operation <;> cases registers
    rfl
  · cases registers

theorem Move.mark_operate {step : Step} (registersNone : (Move.operate step).registered? = none)
    (id : String) (last : Option ParentStatus) : (Move.operate step).mark id last = last := by
  rcases step with ⟨operation, now⟩
  cases operation <;> first | rfl | cases registersNone

/-- The last status that someone else than the node has set for a resource since it was
registered. -/
def outsideStatus (moves : List Move) (id : String) : Option ParentStatus :=
  moves.foldl (Move.mark id) none

namespace Deployment

variable {deployment : Deployment}

open MemoryStore

theorem stands_perform (quiet : deployment.bank.Quiet) {last : String → Option ParentStatus}
    {before : World MemoryStore} {step : Step}
    (registersNone : (Move.operate step).registered? = none)
    (distinct : before.store.Distinct) (stands : Stands last before.store) :
    Stands last (deployment.make before (.operate step)).store := by
  have course : Course deployment step before (deployment.make before (.operate step)) :=
    deployment.perform_course step before
  generalize deployment.make before (.operate step) = after at course ⊢
  cases course with
  | idle state =>
      rw [state.store_eq]
      exact stands
  | registered resource operation state =>
      rcases step with ⟨_, now⟩
      cases operation
      cases registersNone
  | opened newId resource psu preferred record operation opening state =>
      rw [state.store_eq]
      apply stands.append opening.received
      intro parent found
      rw [opening.parent_eq, opening.found] at found
      cases found
      exact opening.accepting
  | expired ages => exact stands.expires distinct ages.expires
  | projected parent state =>
      rw [state.store_eq]
      exact stands.projected (fun _ => rfl) fun _ _ _ _ => rfl
  | visited id request visit operation takes =>
      rw [takes.store_eq quiet]
      cases drafted : visit.draft? deployment.node.policy with
      | none => exact stands
      | some draft =>
          have copies := takes.draft_copies drafted
          have found : before.store.record? draft.id = some visit.record := by
            rw [takes.draft_id drafted, takes.found]
          exact stands.commit distinct found copies.version_eq.symm copies.parent_eq takes.live

theorem outsideStatus_append (moves : List Move) (move : Move) (id : String) :
    outsideStatus (moves ++ [move]) id = move.mark id (outsideStatus moves id) := by
  simp [outsideStatus]

theorem statuses_eq_nil_of_registered (deployment : Deployment) {moves : List Move}
    {move : Move} {resource : Resource}
    (orderly : Orderly (moves ++ [move])) (registers : move.registered? = some resource) :
    (deployment.play moves (.fresh .empty)).store.statuses resource.id = [] := by
  have new := (orderly.registeredOnce resource.id).not_mem registers
  exact deployment.statuses_eq_nil (deployment.resource?_eq_none new)

theorem stands_play (quiet : deployment.bank.Quiet) {moves : List Move}
    (orderly : Orderly moves) :
    Stands (outsideStatus moves) (deployment.play moves (.fresh .empty)).store := by
  revert orderly
  apply play_induction (fun moves world => Orderly moves →
    Stands (outsideStatus moves) world.store) moves
  · intro _ resource found
    cases found
  · rintro moves before move rfl induction orderly
    have stands := induction orderly.of_append
    have distinct := deployment.distinct_play moves
    have marked : outsideStatus (moves ++ [move]) = fun id =>
        move.mark id (outsideStatus moves id) :=
      funext (outsideStatus_append moves move)
    rw [marked]
    cases registers : move.registered? with
    | some resource =>
        rw [deployment.store_make_register _ registers]
        have unused := statuses_eq_nil_of_registered deployment orderly registers
        have initial : resource.status = .initial resource.kind :=
          orderly.initial resource (by simp [registers])
        refine stands.register ?_ ?_ unused initial
        · exact (move.mark_of_registered registers _ _).trans (if_pos rfl)
        · intro id different
          exact (move.mark_of_registered registers _ _).trans (if_neg (Ne.symm different))
    | none =>
        cases move with
        | operate step =>
            simp only [Move.mark_operate registers]
            exact stands_perform quiet registers distinct stands
        | outside interference =>
            cases interference with
            | resave id => exact stands.interfere_resave distinct id
            | setStatus id status =>
                refine stands.interfere_setStatus (if_pos rfl) ?_
                intro other different
                exact if_neg (Ne.symm different)

/-! ## Runs without others -/

theorem outsideStatus_operate (steps : List Step) (id : String) :
    outsideStatus (steps.map .operate) id = none := by
  induction steps using List.reverseRecOn with
  | nil => rfl
  | append_singleton steps step induction =>
      rw [List.map_append, List.map_singleton, outsideStatus_append, induction]
      rcases step with ⟨operation, now⟩
      cases operation with
      | register resource => exact ite_self none
      | _ => rfl

theorem runAction_projectParent_of_coherent (partner : Partner) {world : World MemoryStore}
    {resource : Resource} (found : world.store.resource? resource.id = some resource)
    (coherent : world.store.Coherent resource) :
    world.runAction partner (Node.projectParent resource.id) = (.ok none, world) := by
  unfold Node.projectParent
  rw [World.runAction_bind, World.runAction_resource, found]
  dsimp only
  rw [World.runAction_bind, World.runAction_listByParent]
  dsimp only
  rw [← MemoryStore.statuses, Resource.derive?_eq_none coherent]
  rfl

/-- If nobody but the node uses the store, every registered resource is stored with the status
that the records of its authorisations make up, and deriving it once more changes nothing. -/
theorem status_of_records (deployment : Deployment) (quiet : deployment.bank.Quiet)
    {steps : List Step} (orderly : Orderly (steps.map .operate)) :
    let world := (deployment.run steps (.fresh MemoryStore.empty)).2
    ∀ registered ∈ (steps.map Move.operate).filterMap Move.registered?, ∃ resource,
      world.store.resource? registered.id = some resource ∧
      resource = { registered with status := resource.status } ∧
      resource.status = (resource.aggregate
        ((world.store.records.filter fun record => record.parent == resource.id).map
          (·.status))).project resource.kind ∧
      resource.derive? (world.store.statuses resource.id) = none ∧
      ∀ now, deployment.perform ⟨.project resource.id, now⟩ world = (.ok none, world) := by
  rw [← play_operate]
  intro world registered member
  rcases resource?_of_registered deployment orderly member with ⟨status, found⟩
  let resource := { registered with status }
  have coherent : world.store.Coherent resource := by
    cases stands_play quiet orderly resource found with
    | outside set =>
        rw [outsideStatus_operate] at set
        cases set
    | derived unclosed coherent => exact coherent
  have listed := (world.store.listByParent_perm resource.id).map (·.status)
  refine ⟨resource, found, rfl, ?_, Resource.derive?_eq_none coherent, ?_⟩
  · rw [← resource.aggregate_perm listed]
    exact coherent
  · intro now
    exact runAction_projectParent_of_coherent _ found coherent

end Deployment

/-- Two people sign a consent; the first one fails a first attempt, which is allowed. -/
def secondAttemptSteps : List Step :=
  let person (id : String) : Psu := ⟨some id, none, none, none, none⟩
  let consent : Resource := ⟨"consent", .accountConsent, .consent .received, true, false, true,
    [person "anna", person "bert"], .epoch⟩
  let reported (outcome : BankOutcome) (id : String) : Request :=
    ⟨some (person id), none, none, none, some outcome⟩
  [.register consent, .start "first" "consent" none (some .redirect),
    .start "second" "consent" none (some .redirect),
    .start "third" "consent" none (some .redirect),
    .update "first" (reported .rejected "anna"), .update "second" (reported .confirmed "anna"),
    .update "second" (reported .confirmed "anna")].map fun operation => ⟨operation, .epoch⟩

theorem status_after_second_attempt :
    let deployment := Deployment.simulated .standard
    deployment.bank.Quiet ∧ Orderly (secondAttemptSteps.map .operate) ∧
      ((deployment.run secondAttemptSteps (.fresh MemoryStore.empty)).2.store.resource?
        "consent").map (·.status) = some (.consent .partiallyAuthorised) ∧
      ∃ resource, (deployment.run secondAttemptSteps (.fresh MemoryStore.empty)).2.store.resource?
          "consent" = some resource ∧
        resource.derive? [.failed, .finalised, .received] = none := by
  intro deployment
  have quiet : deployment.bank.Quiet := SimulatedBank.standard.quiet
  have orderly : Orderly (secondAttemptSteps.map .operate) :=
    ⟨by decide +kernel, by decide +kernel⟩
  let registered : Resource := ⟨"consent", .accountConsent, .consent .received, true, false,
    true, [⟨some "anna", none, none, none, none⟩, ⟨some "bert", none, none, none, none⟩], .epoch⟩
  have member : registered ∈ (secondAttemptSteps.map Move.operate).filterMap
      Move.registered? := by decide +kernel
  rcases deployment.status_of_records quiet orderly registered member
    with ⟨resource, found, _, _, derived, _⟩
  have statuses : (deployment.run secondAttemptSteps (.fresh MemoryStore.empty)).2.store.statuses
      "consent" = [.failed, .finalised, .received] := by decide +kernel
  have sameId := MemoryStore.id_of_resource? found
  rw [sameId] at derived
  refine ⟨quiet, orderly, by decide +kernel, resource, found, ?_⟩
  rw [← statuses]
  exact derived

end StrongAuth
