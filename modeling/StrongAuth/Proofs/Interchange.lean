import StrongAuth.Proofs.Advance
import StrongAuth.Proofs.Reordering
import StrongAuth.Proofs.Signatures
import StrongAuth.Proofs.Tabulation
import StrongAuth.Proofs.Timing

/-! # The stores are interchangeable

A node over tables runs along a node over a store in memory: every effect gives the same answer
and leaves the rows of what it leaves there, since the node saves only drafts of what it has
read, writes its own reading of the clock, and sets statuses of the kind of the resource. Main
statement: for all steps whose timestamps are written without loss, and however either store
arranges what is overdue, both nodes give the same answers and hold the same after every step,
and publish the same events in it, a sweep perhaps in another order. So what is proved of runs in
memory holds over tables; that a PSU signs once does, for one. -/

namespace StrongAuth

/-! ## Others -/

/-- A status that is set belongs to the kind of the resource. -/
def Interference.Fits (store : MemoryStore) : Interference → Prop
  | .resave _ => True
  | .setStatus id status => ∀ resource, store.resource? id = some resource →
      status.fits resource.kind = true

/-- Whatever others do during a call, the statuses they give a resource belong to its kind. -/
def Bank.Respects (bank : Bank) (id : String) (kind : ResourceKind) : Prop :=
  ∀ exchanges call status, .setStatus id status ∈ (bank exchanges call).interference →
    status.fits kind = true

theorem Bank.Quiet.respects {bank : Bank} (quiet : bank.Quiet) (id : String)
    (kind : ResourceKind) : bank.Respects id kind := by
  intro exchanges call status member
  rw [quiet] at member
  cases member

namespace MemoryStore

variable {store later : MemoryStore} {interference : Interference} {record : Authorisation}
  {id : String} {saves : Nat}

theorem SameResources.kind (same : store.SameResources later) (holds : ResourceKind → Prop)
    (known : ∀ resource, store.resource? id = some resource → holds resource.kind)
    {resource : Resource} (found : later.resource? id = some resource) :
    holds resource.kind := by
  rcases same.earlier_eq_some found with ⟨earlier, finds, sameKind⟩
  rw [sameKind]
  exact known earlier finds

theorem SameResources.fits (same : store.SameResources later) (fits : interference.Fits store) :
    interference.Fits later := by
  cases interference with
  | resave id => trivial
  | setStatus id status => exact fun resource => same.kind (status.fits · = true) fits

theorem Storable.resave_tabulate (storable : store.Storable)
    (room : ∀ record, store.record? id = some record → record.version ≠ Int64.maxValue) :
    Store.interfere store.tabulate (.resave id) = (Store.interfere store (.resave id)).tabulate ∧
      (Store.interfere store (.resave id)).Storable := by
  have got : Store.get id store.tabulate = .ok (store.record? id) := storable.get_tabulate id
  have gets : Store.get id store = .ok (store.record? id) := rfl
  simp only [Store.interfere, Store.resave, got, gets, bind, Except.bind]
  cases found : store.record? id with
  | none => exact ⟨rfl, storable⟩
  | some record =>
      have same (stored : Authorisation) (finds : store.record? record.id = some stored)
          (_ : stored.version = record.version) :
          stored.SameOpening record ∧ record.version ≠ Int64.maxValue := by
        rw [(mem_of_record? found).2, found] at finds
        cases finds
        exact ⟨.refl record, room record found⟩
      have saved : Store.save record store.tabulate = (store.save record).map _ :=
        storable.save_tabulate same
      have saves : Store.save record store = store.save record := rfl
      simp only [saved, saves]
      cases accepted : store.save record with
      | error fault => exact ⟨rfl, storable⟩
      | ok result =>
          exact ⟨rfl, storable.save (storable.record? found).updated same accepted⟩

theorem Storable.setStatus_tabulate (storable : store.Storable) {status : ParentStatus}
    (fits : Interference.Fits store (.setStatus id status)) :
    Store.interfere store.tabulate (.setStatus id status) =
        (Store.interfere store (.setStatus id status)).tabulate ∧
      (Store.interfere store (.setStatus id status)).Storable := by
  have set : Store.setParentStatus id status store.tabulate =
      (store.setParentStatus id status).map tabulate := storable.setParentStatus_tabulate id status
  have sets : Store.setParentStatus id status store = store.setParentStatus id status := rfl
  simp only [Store.interfere, set, sets]
  cases accepted : store.setParentStatus id status with
  | error fault => exact ⟨rfl, storable⟩
  | ok later => exact ⟨rfl, storable.setParentStatus fits accepted⟩

theorem Storable.interfere_tabulate (storable : store.Storable) (counted : store.Counted saves)
    (few : saves + interference.saves < 2 ^ 63) (fits : interference.Fits store) :
    Store.interfere store.tabulate interference = (Store.interfere store interference).tabulate ∧
      (Store.interfere store interference).Storable := by
  cases interference with
  | resave id => exact storable.resave_tabulate fun record => counted.room few
  | setStatus id status => exact storable.setStatus_tabulate fits

theorem Storable.foldl_interfere_tabulate (storable : store.Storable)
    {others : List Interference} (counted : store.Counted saves)
    (few : saves + (others.map Interference.saves).sum < 2 ^ 63)
    (fits : ∀ single ∈ others, single.Fits store) :
    others.foldl Store.interfere store.tabulate =
        (others.foldl Store.interfere store).tabulate ∧
      (others.foldl Store.interfere store).Storable := by
  induction others generalizing store saves with
  | nil => exact ⟨rfl, storable⟩
  | cons first others induction =>
      rw [List.map_cons, List.sum_cons, ← Nat.add_assoc] at few
      have fewFirst : saves + first.saves < 2 ^ 63 := by omega
      rcases storable.interfere_tabulate counted fewFirst (fits first List.mem_cons_self)
        with ⟨same, interfered⟩
      rw [List.foldl_cons, List.foldl_cons, same]
      apply induction interfered ((raises_interfere store first).counted counted fewFirst) few
      intro single member
      have before := fits single (List.mem_cons_of_mem _ member)
      exact (sameResources_interfere store first).fits before

end MemoryStore

/-! ## Effects -/

/-- Tables take the effect as it is meant. -/
def Effect.Storable (partner : Partner) (world : World MemoryStore) : Effect → Prop
  | .store call => call.Storable world.store
  | .bank call => ∀ interference ∈ (partner.bank world.exchanges call).interference,
      interference.Fits world.store
  | _ => True

namespace World

variable {partner : Partner} {world : World MemoryStore}

def tabulate (world : World MemoryStore) : World TableStore :=
  ⟨world.store.tabulate, world.exchanges, world.events, world.locks⟩

theorem perform_tabulate (storable : world.store.Storable) {saves : Nat}
    (counted : world.store.Counted saves) {effect : Effect}
    (few : saves + world.saves partner effect < 2 ^ 63) (fits : effect.Storable partner world) :
    world.tabulate.perform partner effect =
        ((world.perform partner effect).1, (world.perform partner effect).2.tabulate) ∧
      (world.perform partner effect).2.store.Storable := by
  cases effect with
  | store call =>
      rcases Store.perform_tabulate storable fits with ⟨same, later⟩
      refine ⟨?_, later⟩
      simp only [perform, tabulate, same]
  | bank call =>
      rcases storable.foldl_interfere_tabulate counted few fits with ⟨same, later⟩
      refine ⟨?_, later⟩
      simp only [perform, consult, tabulate, same]
  | _ => exact ⟨rfl, storable⟩

end World

/-! ## What the node does -/

variable {partner : Partner} {past : List Deed} {start world : World MemoryStore}
  {effect : Effect} {record draft : Authorisation} {parent : String} {status : ParentStatus}
  {now : Time.Timestamp} {saves : Nat}

theorem Aggregate.fits_project (aggregate : Aggregate) (kind : ResourceKind) :
    (aggregate.project kind).fits kind = true := by
  cases kind <;> rfl

def Authorisation.Dated (record : Authorisation) : Prop :=
  record.redirectDeadline.Storable ∧ record.deadline.Storable

instance (record : Authorisation) : Decidable record.Dated :=
  inferInstanceAs (Decidable (_ ∧ _))

theorem Authorisation.SameOpening.dated (same : record.SameOpening draft) (dated : draft.Dated) :
    record.Dated := by
  unfold Dated
  rw [← same.redirectDeadline, ← same.deadline]
  exact dated

theorem Derives.fits (derives : Derives past parent status)
    (passes : World.Passes partner (fun _ => False) start past world) {resource : Resource}
    (found : world.store.resource? parent = some resource) : status.fits resource.kind = true := by
  rcases derives.due passes with ⟨known, finds, due⟩
  rw [found] at finds
  cases finds
  rw [(Resource.derive?_eq_some due).2.1]
  exact Aggregate.fits_project _ _

/-- An effect that the node permits itself is one that tables take as it is meant. -/
theorem World.storable_of_proper (proper : Proper past effect) (isAt : effect.IsAt now)
    (passes : World.Passes partner (fun _ => False) start past world)
    (remembered : Remembered past world.store) (counted : world.store.Counted saves)
    (few : saves + world.saves partner effect < 2 ^ 63) (reading : now.Storable)
    (respects : ∀ id resource, world.store.resource? id = some resource →
      partner.bank.Respects id resource.kind)
    (dated : ∀ record, effect = .store (.insert record) →
      world.store.record? record.id = none → record.Dated) :
    effect.Storable partner world := by
  cases effect with
  | bank call =>
      intro interference member
      cases interference with
      | resave id => trivial
      | setStatus id status =>
          intro resource found
          exact respects id resource found _ call status member
  | store call =>
      cases call with
      | save draft =>
          rcases proper with ⟨record, loaded, drafts⟩
          have updated : draft.updated.Storable := by
            rw [isAt]
            exact reading
          refine ⟨updated, fun stored found sameVersion => ?_⟩
          exact ⟨remembered.sameOpening loaded drafts found, sameVersion ▸ counted.room few found⟩
      | insert record =>
          intro unknown
          rcases dated record rfl unknown with ⟨redirectDeadline, deadline⟩
          rcases isAt with ⟨created, updated⟩
          exact ⟨redirectDeadline, deadline, created.symm ▸ reading, updated.symm ▸ reading⟩
      | setParentStatus parent status => exact fun resource found => proper.fits passes found
      | listExpired instant => exact isAt.symm ▸ reading
      | register resource => exact proper.elim
      | _ => trivial
  | _ => trivial

/-- Whatever the node permits itself, the resources stay the same up to their statuses. -/
theorem Turn.sameResources {later : MemoryStore} (turn : Turn partner past world effect later)
    (proper : Proper past effect) : world.store.SameResources later := by
  cases turn with
  | idle =>
      cases effect with
      | bank call => exact MemoryStore.sameResources_foldl_interfere _ _
      | _ => exact .of_eq fun _ => rfl
  | replaced record draft loaded drafts found => exact .of_eq fun _ => rfl
  | opened record opens unknown => exact .of_eq fun _ => rfl
  | derived parent status resource derives found =>
      have same := MemoryStore.sameResources_interfere world.store (.setStatus parent status)
      rw [MemoryStore.interfere_setStatus, found] at same
      exact same
  | registered resource => exact proper.elim

/-! ## Procedures -/

/-- Tables can go on from the store after some saves, whatever the bank lets others do. -/
structure MemoryStore.Tabular (bank : Bank) (saves : Nat) (store : MemoryStore) : Prop where
  storable : store.Storable
  counted : store.Counted saves
  respects : ∀ id resource, store.resource? id = some resource →
    bank.Respects id resource.kind

theorem World.stored_of_insert (partner : Partner) (world : World MemoryStore)
    (unknown : world.store.record? record.id = none) :
    (world.perform partner (.store (.insert record))).2.store.record? record.id =
      some record := by
  have inserts : Store.insert record world.store =
      .ok { world.store with records := world.store.records ++ [record] } := by
    change world.store.insert record = _
    simp [MemoryStore.insert, unknown]
  simp [World.perform, Store.perform, inserts, Store.settle, Except.map,
    MemoryStore.record?_append unknown]

/-- What is done over tables gives the answer that it gives in memory and leaves the rows of what
it leaves there, and it can go on. -/
structure Follows {α : Type} (bank : Bank) (saves : Nat) (memory : α × World MemoryStore)
    (tables : α × World TableStore) : Prop where
  same : tables = (memory.1, memory.2.tabulate)
  tabular : memory.2.store.Tabular bank saves

/-- A procedure that keeps to the rules runs over tables as it runs in memory, if the deadlines
that it leaves behind are written without loss, and it registers nothing. -/
theorem Procedure.Keeps.run_tabulate {α : Type} {procedure : Procedure α} {others : List Deed}
    {required requiredAt : List Deed → α → Prop}
    (keeps : Procedure.Keeps partner Proper procedure past required)
    (isAt : Procedure.Keeps partner (fun _ effect => effect.IsAt now) procedure others requiredAt)
    (passes : World.Passes partner (fun _ => False) start past world)
    (remembered : Remembered past world.store) (reading : now.Storable)
    (tabular : world.store.Tabular partner.bank saves)
    (few : saves + world.savesDuring partner procedure < 2 ^ 63)
    (dated : ∀ id record, (world.run partner procedure).2.store.record? id = some record →
      record.Dated) :
    Follows partner.bank (saves + world.savesDuring partner procedure)
        (world.run partner procedure) (world.tabulate.run partner procedure) ∧
      world.store.SameResources (world.run partner procedure).2.store := by
  induction procedure generalizing past others world saves with
  | done value => exact ⟨⟨rfl, tabular⟩, .of_eq fun _ => rfl⟩
  | ask effect next induction =>
      rw [World.savesDuring_ask, ← Nat.add_assoc] at few ⊢
      have fewNow : saves + world.saves partner effect < 2 ^ 63 := by omega
      have turn := world.turn_of_permitted partner (.inl keeps.1) passes.asRead
      have rememberedLater := remembered.append
        (world.keepsOpenings_of_permitted partner (.inl keeps.1) remembered)
      -- What is inserted now is still there at the end, with its deadlines.
      have inserted (record : Authorisation) (inserts : effect = .store (.insert record))
          (unknown : world.store.record? record.id = none) : record.Dated := by
        subst inserts
        have stored := world.stored_of_insert partner unknown
        rcases (keeps.2 world).permitted.keepsOpenings_run rememberedLater _ _ stored
          with ⟨final, found, same⟩
        exact same.dated (dated _ final found)
      have fits := World.storable_of_proper keeps.1 isAt.1 passes remembered tabular.counted
        fewNow reading tabular.respects inserted
      rcases World.perform_tabulate tabular.storable tabular.counted fewNow fits
        with ⟨same, storableLater⟩
      have sameResources := turn.sameResources keeps.1
      have tabularLater : (world.perform partner effect).2.store.Tabular partner.bank
          (saves + world.saves partner effect) :=
        ⟨storableLater, turn.counted tabular.counted fewNow, fun id resource =>
          sameResources.kind (partner.bank.Respects id) (tabular.respects id)⟩
      rw [World.run_ask, World.run_ask, same]
      rcases induction _ (keeps.2 world) (isAt.2 world) (passes.performed effect) rememberedLater
        tabularLater few dated with ⟨follows, further⟩
      exact ⟨follows, sameResources.trans further⟩

/-! ## Steps -/

def registrations (steps : List Step) : List Resource :=
  (steps.map Move.operate).filterMap Move.registered?

namespace Node

theorem behaves_actionIn (order : SweepOrder) (node : Node) (now : Time.Timestamp)
    {operation : Operation} (registersNone : ∀ resource, operation ≠ .register resource) :
    Action.Behaves partner (operation.actionIn order node now) [] := by
  by_cases sweeps : operation = .sweep
  · subst sweeps
    change Action.Behaves partner (sweepIn order now) []
    unfold sweepIn
    rw [Action.behaves_call]
    exact ⟨trivial, fun _ _ _ => behaves_sweepCandidates _ _⟩
  · rw [Operation.actionIn_of_ne sweeps]
    exact behaves_operation node now operation registersNone

theorem isAt_actionIn (order : SweepOrder) (node : Node) (operation : Operation) :
    Action.IsAt partner now (operation.actionIn order node now) past := by
  by_cases sweeps : operation = .sweep
  · subst sweeps
    exact .bind (.call rfl) fun _ _ => isAt_sweepCandidates _
  · rw [Operation.actionIn_of_ne sweeps]
    exact isAt_operation node operation

end Node

namespace Deployment

variable {deployment : Deployment} {order : SweepOrder} {orders : Nat → SweepOrder}
  {step : Step} {steps : List Step}

theorem behavesIn (order : SweepOrder) (registersNone : (Move.operate step).registered? = none) :
    Action.Behaves deployment.partner
      (step.operation.actionIn order deployment.node step.now) [] := by
  apply Node.behaves_actionIn
  rcases step with ⟨operation, now⟩
  rintro resource rfl
  cases registersNone

theorem performIn_register {resource : Resource}
    (registers : (Move.operate step).registered? = some resource) (order : SweepOrder)
    (world : World MemoryStore) :
    (deployment.performIn order step world).2 =
      (world.perform deployment.partner (.store (.register resource))).2 := by
  rcases step with ⟨operation, now⟩
  cases operation <;> cases registers
  rfl

theorem keepsOpenings_performIn (deployment : Deployment) (order : SweepOrder) (step : Step)
    (world : World MemoryStore) :
    world.store.KeepsOpenings (deployment.performIn order step world).2.store := by
  cases registers : (Move.operate step).registered? with
  | none =>
      have behaves : Procedure.Keeps deployment.partner Proper _ [] _ :=
        deployment.behavesIn order registers
      exact behaves.permitted.keepsOpenings_run (.nil world.store)
  | some resource =>
      rw [performIn_register registers]
      exact world.keepsOpenings_of_permitted deployment.partner (.inr ⟨resource, rfl⟩)
        (.nil world.store)

theorem keepsOpenings_runIn (deployment : Deployment) (orders : Nat → SweepOrder)
    (steps : List Step) (world : World MemoryStore) :
    world.store.KeepsOpenings (deployment.runIn orders steps world).2.store := by
  induction steps generalizing orders world with
  | nil => exact .refl _
  | cons step steps induction =>
      exact (deployment.keepsOpenings_performIn _ step world).trans (induction _ _)

/-- How many saves the store is asked for during a step. -/
def savesOf (deployment : Deployment) (order : SweepOrder) (step : Step)
    (world : World MemoryStore) : Nat :=
  world.savesDuring deployment.partner
    (step.operation.actionIn order deployment.node step.now).run

/-- How many saves the store is asked for during some steps. -/
def savesIn (deployment : Deployment) (orders : Nat → SweepOrder) :
    List Step → World MemoryStore → Nat
  | [], _ => 0
  | step :: steps, world => deployment.savesOf (orders 0) step world +
      deployment.savesIn (fun count => orders (count + 1)) steps
        (deployment.performIn (orders 0) step world).2

theorem performIn_tabulate_of_none (order : SweepOrder)
    (registersNone : (Move.operate step).registered? = none)
    (tabular : world.store.Tabular deployment.bank saves)
    (few : saves + deployment.savesOf order step world < 2 ^ 63) (reading : step.now.Storable)
    (dated : ∀ id record, (deployment.performIn order step world).2.store.record? id =
      some record → record.Dated) :
    Follows deployment.bank (saves + deployment.savesOf order step world)
        (deployment.performIn order step world)
        (deployment.performIn order step world.tabulate) ∧
      world.store.SameResources (deployment.performIn order step world).2.store :=
  (deployment.behavesIn order registersNone).run_tabulate
    (@Node.isAt_actionIn deployment.partner [] step.now order deployment.node step.operation)
    .start (.nil _) reading tabular few dated

theorem performIn_tabulate_of_register (order : SweepOrder) {resource : Resource}
    (registers : (Move.operate step).registered? = some resource)
    (tabular : world.store.Tabular deployment.bank saves) (few : saves < 2 ^ 63)
    (fits : resource.Storable) (respects : deployment.bank.Respects resource.id resource.kind)
    (new : world.store.resource? resource.id = none) :
    Follows deployment.bank saves (deployment.performIn order step world)
      (deployment.performIn order step world.tabulate) := by
  rcases step with ⟨operation, now⟩
  cases operation <;> cases registers
  have call : StoreCall.Storable world.store (.register resource) := ⟨fits, new⟩
  have effect : Effect.Storable deployment.partner world (.store (.register resource)) := call
  have fewNow : saves + world.saves deployment.partner (.store (.register resource)) < 2 ^ 63 := few
  rcases World.perform_tabulate tabular.storable tabular.counted fewNow effect
    with ⟨same, storable⟩
  have turn : Turn deployment.partner [] world _ (world.store.register resource) :=
    .registered resource
  have respectsLater (id : String) (known : Resource)
      (found : (world.store.register resource).resource? id = some known) :
      deployment.bank.Respects id known.kind := by
    rw [MemoryStore.resource?_register] at found
    split at found
    · next sameId =>
        cases found
        exact sameId ▸ respects
    · exact tabular.respects id known found
  refine ⟨?_, storable, turn.counted tabular.counted fewNow, respectsLater⟩
  change (_, (world.tabulate.perform deployment.partner (.store (.register resource))).2) = _
  rw [same]
  rfl

/-! ## Runs -/

/-- The timestamps that come up in the steps are written without loss, and every resource is
registered once, with a status of its kind. -/
structure Recordable (deployment : Deployment) (orders : Nat → SweepOrder) (steps : List Step)
    (world : World MemoryStore) : Prop where
  once : ((registrations steps).map (·.id)).Nodup
  registered : ∀ resource ∈ registrations steps, resource.Storable
  readings : ∀ step ∈ steps, step.now.Storable
  /-- The deadlines of every authorisation that is started: none is ever removed. -/
  deadlines : ∀ id record, (deployment.runIn orders steps world).2.store.record? id =
    some record → record.Dated
  /-- Others, too, give a resource only statuses of its kind. -/
  others : ∀ resource ∈ registrations steps, deployment.bank.Respects resource.id resource.kind
  /-- Versions of sixty-four bits do not run out. -/
  few : deployment.savesIn orders steps world < 2 ^ 63

theorem runIn_append (orders : Nat → SweepOrder) (first second : List Step)
    (world : World MemoryStore) :
    (deployment.runIn orders (first ++ second) world).2 =
      (deployment.runIn (fun count => orders (count + first.length)) second
        (deployment.runIn orders first world).2).2 := by
  induction first generalizing orders world with
  | nil => rfl
  | cons step first induction =>
      simp only [List.cons_append, runIn, induction, List.length_cons, Nat.add_assoc]

theorem savesIn_append_le (orders : Nat → SweepOrder) (first second : List Step)
    (world : World MemoryStore) :
    deployment.savesIn orders first world ≤ deployment.savesIn orders (first ++ second) world := by
  induction first generalizing orders world with
  | nil => exact Nat.zero_le _
  | cons step first induction => exact Nat.add_le_add_left (induction _ _) _

theorem registrations_sublist {fewer : List Step} (sublist : fewer.Sublist steps) :
    (registrations fewer).Sublist (registrations steps) :=
  (sublist.map _).filterMap _

theorem Recordable.of_append {first second : List Step}
    (recordable : deployment.Recordable orders (first ++ second) world) :
    deployment.Recordable orders first world where
  once := recordable.once.sublist
    ((registrations_sublist (List.sublist_append_left first second)).map _)
  registered resource member := recordable.registered resource
    ((registrations_sublist (List.sublist_append_left first second)).subset member)
  readings step member := recordable.readings step (List.mem_append_left _ member)
  deadlines id record found := by
    rcases deployment.keepsOpenings_runIn _ second _ id record found with ⟨final, finds, same⟩
    rw [← runIn_append] at finds
    exact same.dated (recordable.deadlines id final finds)
  others resource member := recordable.others resource
    ((registrations_sublist (List.sublist_append_left first second)).subset member)
  few := Nat.lt_of_le_of_lt (deployment.savesIn_append_le orders first second world)
    recordable.few

/-- A step runs over tables as in memory, and leaves resources that are yet to be registered
unknown. -/
theorem performIn_tabulate
    (once : ((registrations (step :: steps)).map (·.id)).Nodup)
    (registered : ∀ resource ∈ registrations (step :: steps), resource.Storable)
    (others : ∀ resource ∈ registrations (step :: steps),
      deployment.bank.Respects resource.id resource.kind)
    (reading : step.now.Storable) (few : saves + deployment.savesOf order step world < 2 ^ 63)
    (dated : ∀ id record, (deployment.performIn order step world).2.store.record? id =
      some record → record.Dated)
    (tabular : world.store.Tabular deployment.bank saves)
    (new : ∀ resource ∈ registrations (step :: steps),
      world.store.resource? resource.id = none) :
    Follows deployment.bank (saves + deployment.savesOf order step world)
        (deployment.performIn order step world)
        (deployment.performIn order step world.tabulate) ∧
      ∀ resource ∈ registrations steps,
        (deployment.performIn order step world).2.store.resource? resource.id = none := by
  cases registers : (Move.operate step).registered? with
  | none =>
      rcases performIn_tabulate_of_none order registers tabular few reading dated
        with ⟨follows, sameResources⟩
      refine ⟨follows, fun resource member => ?_⟩
      have unknown := new resource (by simpa [registrations, registers] using member)
      rcases sameResources resource.id with ⟨status, found⟩
      rw [found, unknown]
      rfl
  | some latest =>
      have parts : registrations (step :: steps) = latest :: registrations steps := by
        simp [registrations, registers]
      rw [parts] at once registered others new
      rw [List.map_cons, List.nodup_cons] at once
      have asksNothing : deployment.savesOf order step world = 0 := by
        rcases step with ⟨operation, now⟩
        cases operation <;> cases registers
        rfl
      have later : (deployment.performIn order step world).2.store =
          world.store.register latest := by
        rw [performIn_register registers]
        rfl
      rw [asksNothing] at few ⊢
      refine ⟨performIn_tabulate_of_register order registers tabular few
        (registered latest List.mem_cons_self) (others latest List.mem_cons_self)
        (new latest List.mem_cons_self), fun resource member => ?_⟩
      rw [later, MemoryStore.resource?_register, if_neg]
      · exact new resource (List.mem_cons_of_mem _ member)
      · intro same
        exact once.1 (same ▸ List.mem_map_of_mem member)

theorem runIn_tabulate (recordable : deployment.Recordable orders steps world)
    (tabular : world.store.Tabular deployment.bank saves)
    (few : saves + deployment.savesIn orders steps world < 2 ^ 63)
    (new : ∀ resource ∈ registrations steps, world.store.resource? resource.id = none) :
    Follows deployment.bank (saves + deployment.savesIn orders steps world)
      (deployment.runIn orders steps world)
      (deployment.runIn orders steps world.tabulate) := by
  induction steps generalizing orders world saves with
  | nil => exact ⟨rfl, tabular⟩
  | cons step steps induction =>
      have parts : deployment.Recordable orders ([step] ++ steps) world := recordable
      rw [savesIn, ← Nat.add_assoc] at few ⊢
      rcases performIn_tabulate recordable.once recordable.registered recordable.others
        (recordable.readings step List.mem_cons_self) (Nat.lt_of_le_of_lt (Nat.le_add_right _ _) few)
        parts.of_append.deadlines tabular new with ⟨⟨same, tabularLater⟩, newLater⟩
      have sublist := registrations_sublist (List.sublist_cons_self step steps)
      have rest : deployment.Recordable (fun count => orders (count + 1)) steps
          (deployment.performIn (orders 0) step world).2 :=
        ⟨recordable.once.sublist (sublist.map _),
          fun resource member => recordable.registered resource (sublist.subset member),
          fun later member => recordable.readings later (List.mem_cons_of_mem _ member),
          recordable.deadlines,
          fun resource member => recordable.others resource (sublist.subset member),
          by omega⟩
      rcases induction rest tabularLater few newLater with ⟨others, ends⟩
      refine ⟨?_, ends⟩
      simp only [runIn, same, others]

end Deployment

/-- Whatever their stores are, both worlds hold the same, and the same has happened in them, but
for the order of what was told. -/
structure World.Alike {σ τ : Type} [Store σ] [Store τ] (left : World σ) (right : World τ) :
    Prop where
  exchanges : right.exchanges = left.exchanges
  events : right.events.Perm left.events
  locks : right.locks = left.locks
  record : ∀ id, Store.get id right.store = Store.get id left.store
  resource : ∀ id, Store.resource id right.store = Store.resource id left.store
  byParent : ∀ parent, Store.listByParent parent right.store = Store.listByParent parent left.store
  expired : ∀ now : Time.Timestamp, now.Storable →
    Store.listExpired now right.store = Store.listExpired now left.store

theorem World.alike_tabulate (storable : world.store.Storable) {events : List Event}
    (told : world.events.Perm events) :
    World.Alike { world with events } world.tabulate where
  exchanges := rfl
  events := told
  locks := rfl
  record id := storable.get_tabulate id
  resource id := storable.resource?_tabulate id
  byParent parent := storable.listByParent_tabulate parent
  expired _ reading := storable.listExpired_tabulate reading

theorem MemoryStore.tabular_empty (bank : Bank) : MemoryStore.Tabular bank 0 .empty :=
  ⟨⟨List.nodup_nil, List.nodup_nil, List.forall_mem_nil _, List.forall_mem_nil _⟩,
    fun _ _ => nofun, fun _ _ => nofun⟩

/-- After every step of a run whose timestamps are written without loss, a node over tables has
given the answers of a node over a store in memory, and its world is alike, whatever the orders
are in which the sweeps of either take their candidates. The next step publishes the same
events, if it is a sweep perhaps in another order. -/
theorem Deployment.stores_interchangeable (deployment : Deployment)
    (first second : Nat → SweepOrder) {steps : List Step}
    (recordable : deployment.Recordable second steps (.fresh .empty)) (count : Nat) :
    let memory (count : Nat) := deployment.runIn first (steps.take count) (.fresh MemoryStore.empty)
    let tables (count : Nat) := deployment.runIn second (steps.take count) (.fresh TableStore.empty)
    (tables count).1 = (memory count).1 ∧ World.Alike (memory count).2 (tables count).2 ∧
      ∀ step, steps[count]? = some step → ∃ told shown,
        (memory (count + 1)).2.events = (memory count).2.events ++ told ∧
        (tables (count + 1)).2.events = (tables count).2.events ++ shown ∧
        shown.Perm told ∧ (step.operation ≠ .sweep → shown = told) := by
  intro memory tables
  have follows (count : Nat) : ∃ saves, Follows deployment.bank saves
      (deployment.runIn second (steps.take count) (.fresh .empty)) (tables count) := by
    have begun : deployment.Recordable second (steps.take count) (.fresh .empty) := by
      rw [← steps.take_append_drop count] at recordable
      exact recordable.of_append
    exact ⟨_, runIn_tabulate begun (MemoryStore.tabular_empty _) (by simpa using begun.few)
      fun _ _ => rfl⟩
  have retells := deployment.runIn_retells second first (steps.take count)
  rcases follows count with ⟨_, equal, ends⟩
  rcases follows (count + 1) with ⟨_, equalNext, _⟩
  refine ⟨?_, ?_, ?_⟩
  · rw [equal]
    exact retells.answers.symm
  · change World.Alike (deployment.runIn first (steps.take count) (.fresh MemoryStore.empty)).2 _
    rw [equal, retells.world]
    exact World.alike_tabulate ends.storable retells.told.symm
  · intro step next
    have taken : steps.take (count + 1) = steps.take count ++ [step] := by
      rw [List.take_add_one, next]
      rfl
    rcases deployment.runIn_tells first second (steps.take count) step
      with ⟨told, shown, perm, same, tells, shows⟩
    rw [← taken] at tells shows
    refine ⟨told, shown, tells, ?_, perm, same⟩
    rw [equal, equalNext]
    exact shows

/-! ## What is proved in memory -/

namespace Deployment

variable {deployment : Deployment} {steps : List Step}

/-- A run over tables is the run in memory, with its store written into tables. -/
theorem Recordable.run_tabulate
    (recordable : deployment.Recordable (fun _ => .listed) steps (.fresh .empty)) :
    let memory := deployment.run steps (.fresh MemoryStore.empty)
    deployment.run steps (.fresh TableStore.empty) = (memory.1, memory.2.tabulate) ∧
      memory.2.store.Storable := by
  rcases runIn_tabulate recordable (MemoryStore.tabular_empty _) (by simpa using recordable.few)
    fun _ _ => rfl with ⟨same, ends⟩
  rw [runIn_listed, runIn_listed] at same
  rw [runIn_listed] at ends
  exact ⟨same, ends.storable⟩

/-- Over tables, too, nobody signs a multilevel resource with two authorisations. -/
theorem Recordable.signature_unique
    (recordable : deployment.Recordable (fun _ => .listed) steps (.fresh .empty))
    (checked : .identity ∈ deployment.node.checks) {registered : Resource}
    (member : registered ∈ registrations steps) (multilevel : registered.multilevel = true)
    {first second : Authorisation} {psu other : Psu} (same : psu.sameAs other = true) :
    let store := (deployment.run steps (.fresh TableStore.empty)).2.store
    Store.get first.id store = .ok (some first) → Store.get second.id store = .ok (some second) →
      first.parent = registered.id → second.parent = registered.id →
      first.status.isSuccessful = true → second.status.isSuccessful = true →
      first.psu = some psu → second.psu = some other → first = second := by
  intro store readFirst readSecond ofFirst ofSecond signedFirst signedSecond psuFirst psuSecond
  rcases recordable.run_tabulate with ⟨ran, storable⟩
  let memory := (deployment.run steps (.fresh MemoryStore.empty)).2.store
  have tabulated : store = memory.tabulate := congrArg (fun run => run.2.store) ran
  have once : RegisteredOnce (steps.map .operate) registered.id :=
    List.nodup_iff_count.mp recordable.once registered.id
  rcases deployment.resource?_of_registeredOnce once member with ⟨status, found⟩
  have attested : (deployment.play (steps.map .operate) (.fresh .empty)).store.Attested
      { registered with status } := attested_of_registeredOnce checked once found multilevel
  rw [play_operate] at attested
  rw [tabulated] at readFirst readSecond
  have finds {record : Authorisation}
      (read : Store.get record.id memory.tabulate = .ok (some record)) :
      memory.record? record.id = some record :=
    Except.ok.inj ((storable.get_tabulate record.id).symm.trans read)
  have sameId : first.id = second.id := attested.once psu other first.id second.id
    ⟨first, finds readFirst, ofFirst, signedFirst, psuFirst⟩
    ⟨second, finds readSecond, ofSecond, signedSecond, psuSecond⟩ same
  rw [sameId] at readFirst
  exact Option.some.inj (Except.ok.inj (readFirst.symm.trans readSecond))

end Deployment

/-- A payment with three authorisations: one settles it, a sweep fails the others. -/
def recordedSteps : List Step :=
  let noon : Time.Timestamp := ⟨1700000000, 123456000, by decide, by decide, by decide, by decide⟩
  let evening : Time.Timestamp := ⟨1700020000, 1000, by decide, by decide, by decide, by decide⟩
  let payment : Resource :=
    ⟨"payment", .payment, .payment .received, false, false, false, [], noon⟩
  let anna : Psu := ⟨some "anna", none, none, none, none⟩
  [⟨.register payment, noon⟩, ⟨.start "first" "payment" none (some .embedded), noon⟩,
    ⟨.start "second" "payment" (some anna) (some .redirect), noon⟩,
    ⟨.start "third" "payment" none (some .embedded), noon⟩,
    ⟨.update "first" ⟨some anna, some "secret", none, none, none⟩, noon⟩,
    ⟨.update "first" ⟨none, none, none, some "123456", none⟩, noon⟩, ⟨.sweep, evening⟩,
    ⟨.list "payment", evening⟩]

/-- In memory the sweep fails the two that are overdue in the reverse order. -/
theorem payment_recorded :
    let deployment := Deployment.simulated .standard
    let memory (order : SweepOrder) :=
      deployment.runIn (fun _ => order) recordedSteps (.fresh MemoryStore.empty)
    let tables := deployment.runIn (fun _ => .listed) recordedSteps (.fresh TableStore.empty)
    let expired (events : List Event) : List String := events.filterMap fun event =>
      match event with
      | .expired id _ => some id
      | _ => none
    deployment.Recordable (fun _ => .listed) recordedSteps (.fresh .empty) ∧
      tables.1 = (memory .reversed).1 ∧ World.Alike (memory .reversed).2 tables.2 ∧
      (memory .reversed).2.store.records.map (fun record => (record.id, record.status)) =
        [("first", .finalised), ("second", .failed), ("third", .failed)] ∧
      expired (memory .reversed).2.events = ["third", "second"] ∧
      expired (memory .listed).2.events = ["second", "third"] := by
  intro deployment memory tables expired
  have quiet : deployment.bank.Quiet := SimulatedBank.standard.quiet
  have dated : ∀ record ∈ (deployment.runIn (fun _ => .listed) recordedSteps
      (.fresh MemoryStore.empty)).2.store.records, record.Dated := by decide +kernel
  have recordable : deployment.Recordable (fun _ => .listed) recordedSteps (.fresh .empty) := by
    constructor
    · decide +kernel
    · decide +kernel
    · decide +kernel
    · exact fun _ record found => dated record (MemoryStore.mem_of_record? found).1
    · exact fun _ _ => quiet.respects _ _
    · decide +kernel
  rcases deployment.stores_interchangeable (fun _ => .reversed) (fun _ => .listed) recordable
    recordedSteps.length with ⟨answers, alike, _⟩
  dsimp only at answers alike
  rw [List.take_length] at answers alike
  exact ⟨recordable, answers, alike, by decide +kernel, by decide +kernel, by decide +kernel⟩

end StrongAuth
