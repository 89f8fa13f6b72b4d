import StrongAuth.Node.Operation
import StrongAuth.Proofs.Procedures

/-! # What a step can do

Main statement: a step of a node leaves store and exchanges as they are, registers a
resource, opens an authorisation, fails overdue authorisations, derives a status once more,
or takes a request to a stage and commits what becomes of it. -/

namespace StrongAuth

theorem Authorisation.live_of_isOverdue {record : Authorisation} {now : Time.Timestamp}
    (overdue : record.isOverdue now = true) : record.status.isTerminal = false := by
  cases terminal : record.status.isTerminal with
  | false => rfl
  | true => simp [Authorisation.isOverdue, terminal] at overdue

/-- Some overdue authorisations are failed, one after the other. -/
inductive Expires (now : Time.Timestamp) : MemoryStore → MemoryStore → Prop
  | refl (store : MemoryStore) : Expires now store store
  | step {store final : MemoryStore} (record : Authorisation)
      (found : store.record? record.id = some record) (overdue : record.isOverdue now = true)
      (rest : Expires now (store.commit now { record with status := .failed }) final) :
      Expires now store final

namespace Expires

variable {now : Time.Timestamp} {first second third : MemoryStore}

theorem single {record : Authorisation} {id : String} (found : first.record? id = some record)
    (overdue : record.isOverdue now = true) :
    Expires now first (first.commit now { record with status := .failed }) := by
  have sameId := (MemoryStore.mem_of_record? found).2
  exact .step record (by rw [sameId, found]) overdue (.refl _)

theorem trans (earlier : Expires now first second) (later : Expires now second third) :
    Expires now first third := by
  induction earlier with
  | refl store => exact later
  | step record found overdue rest induction =>
      exact .step record found overdue (induction later)

end Expires

/-- A world in which nothing happened but that authorisations became overdue. -/
structure Ages (now : Time.Timestamp) (before after : World MemoryStore) : Prop where
  expires : Expires now before.store after.store
  silent : after.exchanges = before.exchanges

namespace Ages

variable {now : Time.Timestamp} {first second third : World MemoryStore}

theorem refl (world : World MemoryStore) : Ages now world world :=
  ⟨.refl _, rfl⟩

theorem single {record : Authorisation} {id : String}
    (found : first.store.record? id = some record) (overdue : record.isOverdue now = true)
    (state : second.IsAt (first.store.commit now { record with status := .failed })
      first.exchanges) : Ages now first second := by
  constructor
  · rw [state.store_eq]
    exact .single found overdue
  · exact state.exchanges_eq

theorem trans (earlier : Ages now first second) (later : Ages now second third) :
    Ages now first third :=
  ⟨earlier.expires.trans later.expires, later.silent.trans earlier.silent⟩

end Ages

theorem Authorisation.open?_eq_some {newId : String} {resource : Resource}
    {signer : Option Psu} {approach : Approach} {redirectLifetime lifetime : Int}
    {now : Time.Timestamp} {record : Authorisation}
    (opens : open? newId resource signer approach redirectLifetime lifetime now = some record) :
    now.shift? redirectLifetime = some record.redirectDeadline ∧
      now.shift? lifetime = some record.deadline ∧
      record = {
        id := newId
        parent := resource.id
        kind := resource.kind
        psu := signer.filter fun psu => !psu.isEmpty
        status := .received
        approach
        chosen := none
        offered := []
        challenge := none
        codeHash := none
        bankData := none
        failedAttempts := 0
        redirectDeadline := record.redirectDeadline
        deadline := record.deadline
        version := 0
        created := now
        updated := now } := by
  unfold open? at opens
  cases shifted : now.shift? redirectLifetime with
  | none =>
      rw [shifted] at opens
      cases opens
  | some redirectDeadline =>
      cases ended : now.shift? lifetime with
      | none =>
          rw [shifted, ended] at opens
          cases opens
      | some deadline =>
          rw [shifted, ended] at opens
          cases opens
          exact ⟨rfl, rfl, rfl⟩

/-- What is known of an authorisation that was just opened. -/
theorem Authorisation.eq_of_open? {newId : String} {resource : Resource} {signer : Option Psu}
    {approach : Approach} {redirectLifetime lifetime : Int} {now : Time.Timestamp}
    {record : Authorisation}
    (opens : open? newId resource signer approach redirectLifetime lifetime now = some record) :
    record = { record with
      id := newId
      parent := resource.id
      kind := resource.kind
      psu := signer.filter fun psu => !psu.isEmpty
      status := .received
      approach
      chosen := none
      challenge := none
      codeHash := none
      bankData := none
      version := 0 } := by
  have opened := (open?_eq_some opens).2.2
  rw [opened]

/-- A new authorisation of a resource, with all that was checked before it was opened. -/
structure Opening (node : Node) (now : Time.Timestamp) (newId : String) (resource : Resource)
    (signer : Option Psu) (preferred : Option Approach) (store : MemoryStore)
    (record : Authorisation) : Prop where
  found : store.resource? resource.id = some resource
  accepting : resource.status.acceptsAuthorisation = true
  admitted : resource.multilevel = true → ∀ psu, signer = some psu →
    resource.acceptsSigner psu = true ∧
    Node.isBusy psu (store.listByParent resource.id) = false
  opens : Authorisation.open? newId resource signer (node.approaches.resolve preferred)
    node.redirectLifetime node.lifetime now = some record
  unknown : store.record? record.id = none

namespace Opening

variable {node : Node} {now : Time.Timestamp} {newId : String} {resource : Resource}
  {signer : Option Psu} {preferred : Option Approach} {store : MemoryStore}
  {record : Authorisation}

theorem record_eq (opening : Opening node now newId resource signer preferred store record) :
    record = { record with
      id := newId
      parent := resource.id
      kind := resource.kind
      psu := signer.filter fun psu => !psu.isEmpty
      status := .received
      approach := node.approaches.resolve preferred
      version := 0 } := by
  rw [Authorisation.eq_of_open? opening.opens]

theorem received (opening : Opening node now newId resource signer preferred store record) :
    record.status = .received := by
  rw [opening.record_eq]

theorem parent_eq (opening : Opening node now newId resource signer preferred store record) :
    record.parent = resource.id := by
  rw [opening.record_eq]

end Opening

inductive Started (node : Node) (now : Time.Timestamp) (newId resourceId : String)
    (signer : Option Psu) (preferred : Option Approach) (before after : World MemoryStore) :
    Prop
  | idle (state : after.IsAt before.store before.exchanges)
      (silent : after.events = before.events)
  | opened (resource : Resource) (record : Authorisation) (sameId : resource.id = resourceId)
      (opening : Opening node now newId resource signer preferred before.store record)
      (state : after.IsAt { before.store with records := before.store.records ++ [record] }
        before.exchanges)
      (told : after.events = before.events ++ [.created record.id record.parent
        (Vocabulary.word (node.approaches.resolve preferred))])

/-- What a step does to the store and to the exchanges. -/
inductive Course (deployment : Deployment) (step : Step) (before after : World MemoryStore) :
    Prop
  | idle (state : after.IsAt before.store before.exchanges)
  | registered (resource : Resource) (operation : step.operation = .register resource)
      (state : after.IsAt (before.store.register resource) before.exchanges)
  | opened (newId : String) (resource : Resource) (psu : Option Psu)
      (preferred : Option Approach) (record : Authorisation)
      (operation : step.operation = .start newId resource.id psu preferred)
      (opening : Opening deployment.node step.now newId resource
        (psu.filter fun psu => !psu.isEmpty) preferred before.store record)
      (state : after.IsAt { before.store with records := before.store.records ++ [record] }
        before.exchanges)
  | expired (ages : Ages step.now before after)
  | projected (parent : String)
      (state : after.IsAt (before.store.projected parent) before.exchanges)
  | visited (id : String) (request : Request) (visit : Visit)
      (operation : step.operation = .update id request)
      (takes : visit.Takes deployment id request step.now before after)

namespace Node

variable {partner : Partner} {now : Time.Timestamp}

/-! ## Expiry -/

/-- A relation of worlds that holds wherever overdue records are failed, one after the other and
whatever locks are held. -/
structure Expiry (partner : Partner) (now : Time.Timestamp)
    (related : World MemoryStore → World MemoryStore → Prop) : Prop where
  refl : ∀ world, related world world
  trans : ∀ {first second third}, related first second → related second third →
    related first third
  locked : ∀ {world later} busy idle, related { world with locks := busy } later →
    related world { later with locks := idle }
  expire : ∀ {world : World MemoryStore} {record}, world.store.record? record.id = some record →
    record.isOverdue now = true → related world (world.runAction partner (expire record now)).2

namespace Expiry

variable {related : World MemoryStore → World MemoryStore → Prop} {α : Type}

theorem bind (expiry : Expiry partner now related) {world : World MemoryStore}
    {record : Authorisation} {id : String} (found : world.store.record? id = some record)
    (overdue : record.isOverdue now = true) {next : Authorisation → Action α}
    (silent : ∀ saved (later : World MemoryStore),
      (later.runAction partner (next saved)).2 = later) :
    related world (world.runAction partner (Node.expire record now >>= next)).2 := by
  have sameId := (MemoryStore.mem_of_record? found).2
  have expires := expiry.expire (by rw [sameId, found]) overdue
  rw [World.runAction_bind]
  rcases ran : world.runAction partner (Node.expire record now) with ⟨failure | saved, later⟩
  · rw [ran] at expires
    exact expires
  · rw [ran] at expires
    dsimp only
    rw [silent]
    exact expires

theorem withLock (expiry : Expiry partner now related) {action : Action α}
    {world : World MemoryStore}
    (holds : ∀ locks, related { world with locks }
      (World.runAction partner action { world with locks }).2) (id : String) :
    related world (world.runAction partner (Action.withLock id action)).2 := by
  rcases runAction_withLock partner id action world with ⟨busy, idle, ran⟩
  rw [ran]
  exact expiry.locked busy idle (holds busy)

theorem candidate (expiry : Expiry partner now related) (world : World MemoryStore)
    (id : String) : related world (world.runAction partner (expireCandidate id now)).2 := by
  unfold expireCandidate
  rw [World.runAction_bind, World.runAction_get]
  cases found : world.store.record? id with
  | none => exact expiry.refl world
  | some record =>
      dsimp only
      cases overdue : record.isOverdue now with
      | false => exact expiry.refl world
      | true => exact expiry.bind found overdue fun _ _ => rfl

theorem status (expiry : Expiry partner now related) (world : World MemoryStore) (id : String) :
    related world (world.runAction partner (Node.status id now)).2 := by
  unfold Node.status
  rw [World.runAction_bind, runAction_load]
  cases found : world.store.record? id with
  | none => exact expiry.refl world
  | some record =>
      dsimp only
      cases overdue : record.isOverdue now with
      | false => exact expiry.refl world
      | true =>
          apply expiry.withLock
          intro locks
          have live := Authorisation.live_of_isOverdue overdue
          rw [World.runAction_bind, runAction_load]
          dsimp only
          rw [found]
          dsimp only
          rw [live]
          let busy : World MemoryStore := { world with locks }
          have unlocked : busy.store.record? id = some record := found
          exact expiry.bind unlocked overdue fun _ _ => rfl

theorem candidates (expiry : Expiry partner now related) (candidates : List Authorisation)
    (world : World MemoryStore) :
    related world (world.runAction partner (sweepCandidates now candidates)).2 := by
  induction candidates generalizing world with
  | nil => exact expiry.refl world
  | cons candidate candidates induction =>
      have first : related world (world.runAction partner
          (Action.withLock candidate.id (expireCandidate candidate.id now))).2 :=
        expiry.withLock (fun locks => expiry.candidate _ _) candidate.id
      have others (count : Nat) (later : World MemoryStore) : related later
          (later.runAction partner (do
            let others ← sweepCandidates now candidates
            pure (count + others))).2 := by
        have swept := induction later
        rw [World.runAction_bind]
        rcases ran : later.runAction partner (sweepCandidates now candidates)
          with ⟨failure | counted, last⟩
        · rw [ran] at swept
          exact swept
        · rw [ran] at swept
          exact swept
      unfold sweepCandidates
      rw [World.runAction_bind, World.runAction_lift]
      change related world (World.runAction partner _
        (world.runAction partner
          (Action.withLock candidate.id (expireCandidate candidate.id now))).2).2
      apply expiry.trans first
      rcases World.run partner
        (ExceptT.run (Action.withLock candidate.id (expireCandidate candidate.id now))) world
        with ⟨(refusal | fault) | expired, later⟩
      · exact others 0 _
      · exact expiry.refl _
      · exact others _ _

theorem sweep (expiry : Expiry partner now related) (world : World MemoryStore) :
    related world (world.runAction partner (Node.sweep now)).2 := by
  unfold Node.sweep
  rw [World.runAction_bind, World.runAction_listExpired]
  exact expiry.candidates _ world

end Expiry

theorem expiry_ages (partner : Partner) (now : Time.Timestamp) :
    Expiry partner now (Ages now) where
  refl := .refl
  trans := Ages.trans
  locked _ _ ages := ⟨ages.expires, ages.silent⟩
  expire found overdue := .single found overdue (expire_isAt partner _ _)

/-! ## Start -/

theorem checkSigner_run (partner : Partner) (world : World MemoryStore) (resource : Resource)
    (psu : Psu) :
    ∃ outcome, world.runAction partner (checkSigner resource psu) = (outcome, world) ∧
      (outcome.isOk = true → resource.acceptsSigner psu = true ∧
        isBusy psu (world.store.listByParent resource.id) = false) := by
  unfold checkSigner
  cases accepted : resource.acceptsSigner psu with
  | false => exact ⟨_, rfl, by simp [Except.isOk, Except.toBool]⟩
  | true =>
      rw [if_neg (by simp), World.runAction_bind, World.runAction_listByParent]
      dsimp only
      cases busy : isBusy psu (world.store.listByParent resource.id) with
      | true => exact ⟨_, rfl, by simp [Except.isOk, Except.toBool]⟩
      | false => exact ⟨_, rfl, fun _ => ⟨rfl, rfl⟩⟩

theorem open_started {node : Node} {world : World MemoryStore} {newId resourceId : String}
    {signer : Option Psu} {preferred : Option Approach} {resource : Resource}
    (found : world.store.resource? resourceId = some resource)
    (accepting : resource.status.acceptsAuthorisation = true)
    (admitted : resource.multilevel = true → ∀ psu, signer = some psu →
      resource.acceptsSigner psu = true ∧
      isBusy psu (world.store.listByParent resource.id) = false)
    {α : Type} (answer : Authorisation → α) :
    Started node now newId resourceId signer preferred world (world.runAction partner
      (match Authorisation.open? newId resource signer (node.approaches.resolve preferred)
          node.redirectLifetime node.lifetime now with
        | none => Action.fault .beyondCalendar
        | some record => do
            Action.call (.insert record)
            Action.publish (.created record.id record.parent
              (Vocabulary.word (node.approaches.resolve preferred)))
            pure (answer record))).2 := by
  have sameId := MemoryStore.id_of_resource? found
  cases opens : Authorisation.open? newId resource signer (node.approaches.resolve preferred)
      node.redirectLifetime node.lifetime now with
  | none => exact .idle ⟨rfl, rfl⟩ rfl
  | some record =>
      dsimp only
      rw [World.runAction_bind, World.runAction_insert]
      cases inserts : world.store.insert record with
      | error fault => exact .idle ⟨rfl, rfl⟩ rfl
      | ok store =>
          rcases MemoryStore.insert_eq_ok inserts with ⟨unknown, rfl⟩
          rw [← sameId] at found
          exact .opened resource record sameId ⟨found, accepting, admitted, opens, unknown⟩
            ⟨rfl, rfl⟩ rfl

theorem start_started (partner : Partner) (node : Node) (now : Time.Timestamp)
    (world : World MemoryStore) (newId resourceId : String) (psu : Option Psu)
    (preferred : Option Approach) :
    Started node now newId resourceId (psu.filter fun psu => !psu.isEmpty) preferred world
      (world.runAction partner (node.start newId resourceId psu preferred now)).2 := by
  unfold start
  dsimp only
  rw [World.runAction_bind, World.runAction_resource]
  cases found : world.store.resource? resourceId with
  | none => exact .idle ⟨rfl, rfl⟩ rfl
  | some resource =>
      dsimp only
      cases accepting : resource.status.acceptsAuthorisation with
      | false => exact .idle ⟨rfl, rfl⟩ rfl
      | true =>
          rw [if_neg (by simp)]
          generalize psu.filter (fun psu => !psu.isEmpty) = signer
          split
          · next multilevel =>
              cases signer with
              | none => exact open_started found accepting (by simp) _
              | some psu =>
                  dsimp only
                  rcases checkSigner_run partner world resource psu
                    with ⟨failure | _, ran, admitted⟩
                  · rw [World.runAction_bind_of_error partner ran]
                    exact .idle ⟨rfl, rfl⟩ rfl
                  · rw [World.runAction_bind_of_ok partner ran]
                    apply open_started found accepting
                    intro _ signer same
                    cases same
                    exact admitted rfl
          · next single =>
              exact open_started found accepting (fun multilevel => absurd multilevel single) _

/-! ## Update -/

/-- What an update does shows in the stores and in the exchanges. -/
theorem updated_of_isAt {deployment : Deployment} {id : String} {request : Request}
    {before after first last : World MemoryStore}
    (updated : Updated deployment id request now before after)
    (starts : first.IsAt before.store before.exchanges)
    (ends : last.IsAt after.store after.exchanges) :
    Updated deployment id request now first last := by
  rcases first with ⟨store, exchanges, events, locks⟩
  rcases starts with ⟨rfl, rfl⟩
  have carried {final : MemoryStore} {told : List Exchange} (state : after.IsAt final told) :
      last.IsAt final told :=
    ⟨ends.store_eq.trans state.store_eq, ends.exchanges_eq.trans state.exchanges_eq⟩
  cases updated with
  | idle state => exact .idle (carried state)
  | expired record found overdue state => exact .expired record found overdue (carried state)
  | visited visit takes => exact .visited visit { takes with state := carried takes.state }

theorem update_updated (deployment : Deployment) (id : String) (request : Request)
    (now : Time.Timestamp) (world : World MemoryStore) :
    Updated deployment id request now world
      (world.runAction deployment.partner (deployment.node.update id request now)).2 := by
  rcases runAction_update deployment.partner deployment.node id request now world
    with ⟨busy, idle, ran⟩
  have processed := process_updated deployment id request now { world with locks := busy }
  rw [ran]
  exact updated_of_isAt processed ⟨rfl, rfl⟩ ⟨rfl, rfl⟩

theorem world_list (partner : Partner) (world : World MemoryStore) (resourceId : String) :
    (world.runAction partner (list resourceId)).2 = world := by
  unfold list
  rw [World.runAction_bind, World.runAction_resource]
  cases world.store.resource? resourceId with
  | none => rfl
  | some resource => rfl

end Node

namespace Deployment

theorem perform_course (deployment : Deployment) (step : Step) (world : World MemoryStore) :
    Course deployment step world (deployment.perform step world).2 := by
  rcases step with ⟨operation, now⟩
  cases operation with
  | register resource => exact .registered resource rfl ⟨rfl, rfl⟩
  | start newId resource psu preferred =>
      cases Node.start_started deployment.partner deployment.node now world newId resource psu
        preferred with
      | idle state silent => exact .idle state
      | opened found record sameId opening state told =>
          subst sameId
          exact .opened newId found psu preferred record rfl opening state
  | update id request =>
      cases Node.update_updated deployment id request now world with
      | idle state => exact .idle state
      | expired record found overdue state => exact .expired (.single found overdue state)
      | visited visit takes => exact .visited id request visit rfl takes
  | status id => exact .expired ((Node.expiry_ages _ _).status world id)
  | list resource =>
      have unchanged : (deployment.perform ⟨.list resource, now⟩ world).2 = world :=
        Node.world_list deployment.partner world resource
      rw [unchanged]
      exact .idle ⟨rfl, rfl⟩
  | project resource => exact .projected resource (Node.projectParent_isAt _ world resource)
  | sweep => exact .expired ((Node.expiry_ages _ _).sweep world)

end Deployment

end StrongAuth
