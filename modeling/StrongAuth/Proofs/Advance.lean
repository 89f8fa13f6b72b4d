import StrongAuth.Proofs.Coherence
import StrongAuth.Proofs.Forward

/-! # The status of a resource goes forward

Others may close a resource at any time. Main statement: in an orderly run the node takes the
status of a resource only from received to partially authorised and from these to authorised
or rejected; what is decided or closed it leaves as it is. -/

namespace StrongAuth

/-! ## Others -/

/-- A status that is set by others is a closed one. -/
def Interference.closes : Interference → Bool
  | .resave _ => true
  | .setStatus _ status => status.isClosed

/-- Whatever others do during a call, they set closed statuses only. -/
def Bank.Closes (bank : Bank) : Prop :=
  ∀ exchanges call, ∀ interference ∈ (bank exchanges call).interference, interference.closes = true

theorem Settles.of_countP_eq {earlier later : List Status}
    (same : ∀ sort : Status → Bool, later.countP sort = earlier.countP sort) :
    Settles earlier later where
  length := by simpa using same fun _ => true
  count status _ := Nat.le_of_eq (same (· == status)).symm

namespace MemoryStore

variable {store later : MemoryStore} {record stored : Authorisation} {parent : String}

/-- The status of every resource is closed, or was derived when its authorisations had come no
further than now. -/
def Derived (store : MemoryStore) : Prop :=
  ∀ id resource, store.resource? id = some resource → resource.status.isClosed = true ∨
    ∃ earlier, resource.status = (resource.aggregate earlier).project resource.kind ∧
      Settles earlier (store.statuses id)

/-- The replacement of a live record settles at most that record. -/
theorem settles_replace (distinct : store.Distinct)
    (found : store.record? record.id = some stored) (sameParent : record.parent = stored.parent)
    (live : stored.status.isTerminal = false) :
    Settles (store.statuses parent) ((store.replace record).statuses parent) where
  length := by
    have same : ((store.replace record).statuses parent).countP (fun _ => true) =
        (store.statuses parent).countP fun _ => true :=
      countP_statuses_replace distinct found sameParent fun _ => rfl
    simpa using same
  count status terminal := by
    have other : (stored.status == status) = false := by
      rw [beq_eq_false_iff_ne]
      rintro rfl
      rw [terminal] at live
      cases live
    have moved := countP_replace distinct found fun record =>
      record.status == status && record.parent == parent
    rw [other, Bool.false_and, Bool.toNat_false, Nat.add_zero] at moved
    change List.countP (· == status) _ ≤ List.countP (· == status) _
    rw [countP_statuses, countP_statuses, moved]
    exact Nat.le_add_right _ _

namespace Derived

theorem settles (derived : Derived store)
    (sameResources : ∀ id, later.resource? id = store.resource? id)
    (settles : ∀ id, Settles (store.statuses id) (later.statuses id)) : Derived later := by
  intro id resource found
  rw [sameResources] at found
  rcases derived id resource found with closed | ⟨earlier, same, before⟩
  · exact .inl closed
  · exact .inr ⟨earlier, same, before.trans (settles id)⟩

theorem interfere (derived : Derived store) (distinct : store.Distinct)
    {interference : Interference} (closes : interference.closes = true) :
    Derived (Store.interfere store interference) := by
  have settles (id : String) :
      Settles (store.statuses id) ((Store.interfere store interference).statuses id) :=
    .of_countP_eq (countP_statuses_interfere distinct interference id)
  cases interference with
  | resave id =>
      refine derived.settles ?_ settles
      intro other
      rw [interfere_resave]
      split <;> rfl
  | setStatus id status =>
      intro other resource found
      rw [interfere_setStatus] at found
      cases finds : store.resource? id with
      | none =>
          rw [finds] at found
          rcases derived other resource found with closed | ⟨earlier, same, before⟩
          · exact .inl closed
          · exact .inr ⟨earlier, same, before.trans (settles other)⟩
      | some known =>
          rw [finds] at found
          rw [resource?_replaceResource] at found
          split at found
          · rcases Option.map_eq_some_iff.mp found with ⟨_, _, rfl⟩
            exact .inl closes
          · rcases derived other resource found with closed | ⟨earlier, same, before⟩
            · exact .inl closed
            · exact .inr ⟨earlier, same, before.trans (settles other)⟩

theorem foldl_interfere (derived : Derived store) (distinct : store.Distinct)
    {interference : List Interference}
    (closes : ∀ single ∈ interference, single.closes = true) :
    Derived (interference.foldl Store.interfere store) := by
  induction interference generalizing store with
  | nil => exact derived
  | cons first others induction =>
      apply induction
      · exact derived.interfere distinct (closes first List.mem_cons_self)
      · exact distinct.foldl_interfere [first]
      · intro single member
        exact closes single (List.mem_cons_of_mem _ member)

/-- A new authorisation of a resource that is open changes nothing about its status. -/
theorem append (derived : Derived store) (received : record.status = .received)
    (accepting : ∀ resource, store.resource? record.parent = some resource →
      resource.status.acceptsAuthorisation = true) :
    Derived { store with records := store.records ++ [record] } := by
  intro id resource found
  rcases derived id resource found with closed | ⟨earlier, same, before⟩
  · exact .inl closed
  · by_cases ours : record.parent = id
    · subst ours
      have counted (sort : Status → Bool) : List.countP sort
          (statuses { store with records := store.records ++ [record] } record.parent) =
          (store.statuses record.parent).countP sort + (sort .received).toNat := by
        rw [countP_statuses_append, if_pos rfl, received]
      have more (sort : Status → Bool) : (earlier ++ [Status.received]).countP sort =
          earlier.countP sort + (sort .received).toNat := by
        rw [List.countP_append, List.countP_singleton]
        cases sort .received <;> rfl
      have accepts := accepting resource found
      rw [same] at accepts
      refine .inr ⟨earlier ++ [.received], ?_, ?_, ?_⟩
      · rw [Resource.aggregate_of_received_more accepts more]
        exact same
      · simpa [before.length] using counted fun _ => true
      · intro status terminal
        change List.countP (· == status) _ ≤ List.countP (· == status) _
        rw [more, counted]
        exact Nat.add_le_add_right (before.count status terminal) _
    · refine .inr ⟨earlier, same, before.trans (.of_countP_eq ?_)⟩
      intro sort
      rw [countP_statuses_append, if_neg ours, Nat.add_zero]

/-- A status that is derived anew goes forward. -/
theorem derive (derived : Derived store) {id : String} {resource : Resource}
    {status : ParentStatus} (found : store.resource? id = some resource)
    (derives : resource.derive? (store.statuses id) = some status) :
    resource.status.mayBecome status = true ∧
      Derived (store.replaceResource { resource with status }) := by
  rcases Resource.derive?_eq_some derives with ⟨unclosed, restated, different⟩
  constructor
  · rcases derived id resource found with closed | ⟨earlier, same, before⟩
    · rw [unclosed] at closed
      cases closed
    · have leads := (resource.aggregate_leads before).project resource.kind
      rw [← same, ← restated] at leads
      exact leads.resolve_left different
  · intro other changed finds
    rw [resource?_replaceResource] at finds
    dsimp only at finds
    rw [id_of_resource? found] at finds
    split at finds
    · next same =>
        rcases Option.map_eq_some_iff.mp finds with ⟨_, _, rfl⟩
        rw [same]
        exact .inr ⟨store.statuses id, restated, .refl _⟩
    · exact derived other changed finds

end Derived

/-- What holds of the store at any time. -/
structure Consistent (store : MemoryStore) : Prop where
  distinct : store.Distinct
  shaped : store.Shaped
  derived : store.Derived

/-- Against what others make of the store, the statuses of resources have at most gone
forward. -/
def Advances (before others after : MemoryStore) : Prop :=
  ∀ id resource, before.resource? id = some resource →
    after.resource? id = others.resource? id ∨
      ∃ status, resource.status.mayBecome status = true ∧
        after.resource? id = some { resource with status }

theorem Consistent.foldl_interfere (consistent : Consistent store)
    {interference : List Interference} (closes : ∀ single ∈ interference, single.closes = true) :
    Consistent (interference.foldl Store.interfere store) where
  distinct := consistent.distinct.foldl_interfere interference
  shaped := (Resaves.foldl_interfere store interference).shaped consistent.shaped
  derived := consistent.derived.foldl_interfere consistent.distinct closes

/-- A new resource that has no authorisations yet is consistent. -/
theorem Consistent.register (consistent : Consistent store) {resource : Resource}
    (unused : store.statuses resource.id = [])
    (initial : resource.status = .initial resource.kind) :
    Consistent (store.register resource) where
  distinct := consistent.distinct.of_records_eq records_register
  shaped id record found := by
    unfold record? at found
    rw [records_register] at found
    exact consistent.shaped id record found
  derived id known found := by
    have sameStatuses : (store.register resource).statuses id = store.statuses id :=
      statuses_of_records_eq records_register id
    rw [sameStatuses]
    rw [resource?_register] at found
    split at found
    · next same =>
        cases found
        refine .inr ⟨[], ?_, ?_⟩
        · rw [Resource.aggregate_nil, Aggregate.project_received]
          exact initial
        · rw [same, unused]
          exact .refl []
    · exact consistent.derived id known found

end MemoryStore

/-! ## A single deed -/

variable {partner : Partner} {past : List Deed} {start world : World MemoryStore}
  {effect : Effect} {later : MemoryStore} {parent : String} {status : ParentStatus}

theorem World.Passes.store_eq (passes : Passes partner (fun _ => False) start past world)
    (idle : Idle past) : world.store = start.store := by
  induction passes with
  | start => rfl
  | interfered _ allowed => exact allowed.elim
  | @performed deeds world effect passes induction =>
      rcases List.forall_mem_append.mp idle with ⟨earlier, last⟩
      have still := last _ (List.mem_singleton_self _)
      rw [← induction earlier]
      cases effect with
      | bank call => cases still
      | store call => cases call <;> first | rfl | cases still
      | _ => rfl

theorem FoundOpen.accepts (found : FoundOpen past parent)
    (passes : World.Passes partner (fun _ => False) start past world) :
    ∃ resource, world.store.resource? parent = some resource ∧
      resource.status.acceptsAuthorisation = true := by
  rcases found with ⟨earlier, listed, reading, resource, rfl, lists, finds, accepting⟩
  refine ⟨resource, ?_, accepting⟩
  have idle : Idle listed := by
    intro deed member
    rw [lists deed member]
    rfl
  rw [passes.split.2.store_eq idle]
  exact finds

/-- A status that was just derived for a resource is due. -/
theorem Derives.due (derives : Derives past parent status)
    (passes : World.Passes partner (fun _ => False) start past world) :
    ∃ resource, world.store.resource? parent = some resource ∧
      resource.derive? (world.store.statuses parent) = some status := by
  rcases derives with ⟨earlier, reading, listing, resource, rfl, finds, due⟩
  have listed : World.Passes partner (fun _ => False) _
      ([] ++ [⟨listing, .store (.listByParent parent)⟩]) world := passes.split.2
  have unread : listing.store = reading.store := listed.split.1.store_eq (List.forall_mem_nil _)
  have unlisted : world.store = listing.store := listed.split.2.store_eq (List.forall_mem_nil _)
  rw [unlisted]
  exact ⟨resource, unread ▸ finds, due⟩

open MemoryStore

theorem Turn.advances (turn : Turn partner past world effect later)
    (proper : Proper past effect)
    (passes : World.Passes partner (fun _ => False) start past world)
    (closes : partner.bank.Closes) (consistent : Consistent world.store) :
    Consistent later ∧ Advances world.store (world.meanwhile partner effect) later := by
  have shaped := turn.shaped consistent.shaped
  cases turn with
  | idle =>
      refine ⟨?_, fun _ _ _ => .inl rfl⟩
      cases effect with
      | bank call => exact consistent.foldl_interfere (closes _ call)
      | _ => exact consistent
  | replaced record draft loaded drafts found =>
      refine ⟨⟨consistent.distinct.replace, shaped, ?_⟩, fun _ _ _ => .inl rfl⟩
      refine consistent.derived.settles (fun _ => rfl) ?_
      intro id
      exact settles_replace consistent.distinct found drafts.parent_eq drafts.live
  | opened record opens unknown =>
      refine ⟨⟨consistent.distinct.append unknown, shaped, ?_⟩, fun _ _ _ => .inl rfl⟩
      apply consistent.derived.append opens.received
      intro resource found
      rcases opens.accepting.accepts passes with ⟨known, finds, accepting⟩
      rw [found] at finds
      cases finds
      exact accepting
  | derived parent status resource derives found =>
      rcases derives.due passes with ⟨known, finds, due⟩
      rw [found] at finds
      cases finds
      rcases consistent.derived.derive found due with ⟨forward, derived⟩
      refine ⟨⟨consistent.distinct.of_records_eq rfl, shaped, derived⟩, ?_⟩
      have sameId : resource.id = parent := id_of_resource? found
      intro id changed before
      rw [resource?_replaceResource]
      split
      · next same =>
          rw [same.trans sameId, found] at before ⊢
          cases before
          exact .inr ⟨status, forward, rfl⟩
      · exact .inl rfl
  | registered resource => exact proper.elim

/-! ## A procedure -/

/-- Whatever a procedure is that keeps to the rules, each of its deeds takes statuses forward
only. -/
theorem Procedure.Keeps.advances {α : Type} {procedure : Procedure α}
    {required : List Deed → α → Prop}
    (keeps : Procedure.Keeps partner Proper procedure past required)
    (passes : World.Passes partner (fun _ => False) start past world)
    (closes : partner.bank.Closes) (consistent : Consistent world.store) :
    Consistent (world.run partner procedure).2.store ∧
      ∀ deed ∈ world.deeds partner procedure, Advances deed.world.store
        (deed.world.meanwhile partner deed.effect)
        (deed.world.perform partner deed.effect).2.store := by
  induction procedure generalizing past world with
  | done value => exact ⟨consistent, List.forall_mem_nil _⟩
  | ask effect next induction =>
      have turn := world.turn_of_permitted partner (.inl keeps.1) passes.asRead
      rcases turn.advances keeps.1 passes closes consistent with ⟨consistentLater, advances⟩
      rcases induction _ (keeps.2 world) (passes.performed effect) consistentLater
        with ⟨ends, others⟩
      refine ⟨ends, ?_⟩
      intro deed member
      rcases List.mem_cons.mp member with rfl | member
      · exact advances
      · exact others deed member

/-! ## Orderly runs -/

def Move.closes : Move → Bool
  | .operate _ => true
  | .outside interference => interference.closes

namespace Deployment

variable {deployment : Deployment} {moves : List Move}

theorem resource?_eq_none_of_registered (deployment : Deployment) {move : Move}
    {resource : Resource} (orderly : Orderly (moves ++ [move]))
    (registers : move.registered? = some resource) :
    (deployment.play moves (.fresh .empty)).store.resource? resource.id = none :=
  deployment.resource?_eq_none ((orderly.registeredOnce resource.id).not_mem registers)

theorem behaves (deployment : Deployment) {step : Step}
    (registersNone : (Move.operate step).registered? = none) :
    Action.Behaves deployment.partner (step.operation.action deployment.node step.now) [] := by
  rcases step with ⟨operation, now⟩
  apply Node.behaves_operation
  rintro resource rfl
  cases registersNone

theorem advances_perform (closes : deployment.bank.Closes) {world : World MemoryStore}
    (consistent : Consistent world.store) {step : Step}
    (registersNone : (Move.operate step).registered? = none) :
    Consistent (deployment.perform step world).2.store ∧
      ∀ deed ∈ world.deeds deployment.partner
          (step.operation.action deployment.node step.now).run,
        Advances deed.world.store (deed.world.meanwhile deployment.partner deed.effect)
          (deed.world.perform deployment.partner deed.effect).2.store :=
  (deployment.behaves registersNone).advances .start closes consistent

theorem consistent_play (deployment : Deployment) (closes : deployment.bank.Closes)
    (orderly : Orderly moves) (closing : ∀ move ∈ moves, move.closes = true) :
    Consistent (deployment.play moves (.fresh .empty)).store := by
  revert orderly closing
  apply play_induction (fun moves world => Orderly moves → (∀ move ∈ moves, move.closes = true) →
    Consistent world.store) moves
  · intro _ _
    exact ⟨List.nodup_nil, fun _ _ => nofun, fun _ _ => nofun⟩
  · rintro moves before move rfl induction orderly closing
    rcases List.forall_mem_append.mp closing with ⟨earlier, last⟩
    have consistent := induction orderly.of_append earlier
    cases registers : move.registered? with
    | some resource =>
        rw [deployment.store_make_register _ registers]
        apply consistent.register
        · exact statuses_eq_nil_of_registered deployment orderly registers
        · exact orderly.initial resource (by simp [registers])
    | none =>
        cases move with
        | operate step => exact (advances_perform closes consistent registers).1
        | outside interference =>
            have single := List.forall_mem_singleton.mp last
            exact consistent.foldl_interfere (List.forall_mem_singleton.mpr single)

/-- Whatever the next step of an orderly run is, while others at most close resources, each of
its deeds leaves every resource as others make it meanwhile, or takes its status forward. -/
theorem status_advances (deployment : Deployment) (closes : deployment.bank.Closes)
    {step : Step} (orderly : Orderly (moves ++ [.operate step]))
    (closing : ∀ move ∈ moves, move.closes = true) {deed : Deed}
    (member : deed ∈ (deployment.play moves (.fresh .empty)).deeds deployment.partner
      (step.operation.action deployment.node step.now).run)
    {id : String} {resource : Resource}
    (found : deed.world.store.resource? id = some resource) :
    let after := (deed.world.perform deployment.partner deed.effect).2.store
    after.resource? id = (deed.world.meanwhile deployment.partner deed.effect).resource? id ∨
      ∃ status, resource.status.mayBecome status = true ∧
        after.resource? id = some { resource with status } := by
  have consistent := deployment.consistent_play closes orderly.of_append closing
  cases registers : (Move.operate step).registered? with
  | none => exact (advances_perform closes consistent registers).2 deed member id resource found
  | some registered =>
      have unknown := deployment.resource?_eq_none_of_registered orderly registers
      rcases step with ⟨operation, now⟩
      cases operation <;> cases registers
      cases List.mem_singleton.mp member
      have other : id ≠ registered.id := by
        rintro rfl
        rw [unknown] at found
        cases found
      exact .inl (resource?_register.trans (if_neg other))

end Deployment

/-- A payment for which the code is due, and a consent that was revoked meanwhile. -/
def revokedMoves : List Move :=
  let payment : Resource :=
    ⟨"payment", .payment, .payment .received, false, false, false, [], .epoch⟩
  let consent : Resource :=
    ⟨"consent", .accountConsent, .consent .received, false, false, false, [], .epoch⟩
  let anna : Psu := ⟨some "anna", none, none, none, none⟩
  [.operate ⟨.register payment, .epoch⟩, .operate ⟨.register consent, .epoch⟩,
    .operate ⟨.start "first" "payment" none (some .embedded), .epoch⟩,
    .operate ⟨.update "first" ⟨some anna, some "secret", none, none, none⟩, .epoch⟩,
    .outside (.setStatus "consent" (.consent .revokedByPsu))]

/-- The code settles the payment: one deed takes its status forward. -/
theorem payment_advances_with_code :
    let deployment := Deployment.simulated .standard
    let code : Step := ⟨.update "first" ⟨none, none, none, some "123456", none⟩, .epoch⟩
    Orderly (revokedMoves ++ [.operate code]) ∧
      ∃ deed ∈ (deployment.play revokedMoves (.fresh .empty)).deeds deployment.partner
          (code.operation.action deployment.node code.now).run,
        ∃ resource status, deed.world.store.resource? "payment" = some resource ∧
          resource.status = .payment .received ∧ resource.status.mayBecome status = true ∧
          (deed.world.perform deployment.partner deed.effect).2.store.resource? "payment" =
            some { resource with status } := by
  intro deployment code
  have orderly : Orderly (revokedMoves ++ [.operate code]) :=
    ⟨by decide +kernel, by decide +kernel⟩
  have closes : deployment.bank.Closes := fun _ _ _ => nofun
  have closing : ∀ move ∈ revokedMoves, move.closes = true := by decide +kernel
  -- The deed that changes the status is found by its effect on the store.
  let status? (store : MemoryStore) := (store.resource? "payment").map (·.status)
  have changed : ((deployment.play revokedMoves (.fresh .empty)).deeds deployment.partner
      (code.operation.action deployment.node code.now).run).any (fun deed =>
        status? deed.world.store == some (.payment .received) &&
        status? (deed.world.meanwhile deployment.partner deed.effect) !=
          status? (deed.world.perform deployment.partner deed.effect).2.store) = true := by
    decide +kernel
  rcases List.any_eq_true.mp changed with ⟨deed, member, changes⟩
  rw [Bool.and_eq_true, beq_iff_eq, bne_iff_ne] at changes
  rcases Option.map_eq_some_iff.mp changes.1 with ⟨resource, found, received⟩
  refine ⟨orderly, deed, member, resource, ?_⟩
  rcases deployment.status_advances closes orderly closing member found
    with same | ⟨status, forward, stored⟩
  · exact absurd (congrArg (Option.map _) same.symm) changes.2
  · exact ⟨status, found, received, forward, stored⟩

end StrongAuth
