import StrongAuth.Node.Operation
import StrongAuth.Proofs.Conversation
import StrongAuth.Proofs.Memory

/-! # The procedures of the node on the store in memory

One statement for each procedure: the store it leaves behind, and that it does not call the
bank. -/

namespace StrongAuth

namespace World

variable (partner : Partner) (world : World MemoryStore) {α β : Type}

/-! ## Calls to the store -/

@[simp] theorem runAction_get (id : String) :
    world.runAction partner (Action.call (.get id)) = (.ok (world.store.record? id), world) :=
  rfl

@[simp] theorem runAction_resource (id : String) :
    world.runAction partner (Action.call (.resource id)) =
      (.ok (world.store.resource? id), world) := rfl

@[simp] theorem runAction_listByParent (parent : String) :
    world.runAction partner (Action.call (.listByParent parent)) =
      (.ok (world.store.listByParent parent), world) := rfl

@[simp] theorem runAction_listExpired (now : Time.Timestamp) :
    world.runAction partner (Action.call (.listExpired now)) =
      (.ok (world.store.listExpired now), world) := rfl

@[simp] theorem runAction_register (resource : Resource) :
    world.runAction partner (Action.call (.register resource)) =
      (.ok (), { world with store := world.store.register resource }) := rfl

theorem runAction_insert (record : Authorisation) :
    world.runAction partner (Action.call (.insert record)) =
      match world.store.insert record with
      | .ok store => (.ok (), { world with store })
      | .error fault => (.error (.faulted (.storage fault)), world) := by
  have performs : Store.perform world.store (.insert record) =
      Store.settle world.store ((world.store.insert record).map fun store => ((), store)) := rfl
  unfold Action.call
  rw [runAction_bind, runAction_perform]
  simp only [World.perform, performs]
  cases world.store.insert record <;> rfl

theorem runAction_setParentStatus {resource : Resource} {parent : String}
    (found : world.store.resource? parent = some resource) (status : ParentStatus) :
    world.runAction partner (Action.call (.setParentStatus parent status)) =
      (.ok (), { world with store := world.store.replaceResource { resource with status } }) := by
  have performs : Store.perform world.store (.setParentStatus parent status) =
      Store.settle world.store
        ((world.store.setParentStatus parent status).map fun store => ((), store)) := rfl
  have sets : world.store.setParentStatus parent status =
      .ok (world.store.replaceResource { resource with status }) := by
    simp [MemoryStore.setParentStatus, found]
  unfold Action.call
  rw [runAction_bind, runAction_perform]
  simp only [World.perform, performs, sets]
  rfl

/-! ## The state of a world -/

structure IsAt (world : World MemoryStore) (store : MemoryStore)
    (exchanges : List Exchange) : Prop where
  store_eq : world.store = store
  exchanges_eq : world.exchanges = exchanges

variable {partner world}

theorem IsAt.bind {first : Action α} {second : α → Action β} {store : MemoryStore}
    {exchanges : List Exchange}
    (reached : (world.runAction partner first).2.IsAt store exchanges)
    (silent : ∀ value (later : World MemoryStore), later.IsAt store exchanges →
      (later.runAction partner (second value)).2.IsAt store exchanges) :
    (world.runAction partner (first >>= second)).2.IsAt store exchanges := by
  rw [runAction_bind]
  rcases ran : world.runAction partner first with ⟨failure | value, later⟩
  · rw [ran] at reached
    exact reached
  · rw [ran] at reached
    exact silent value later reached

end World

namespace Node

variable {node : Node} {world : World MemoryStore} {resource : Resource} {parent : String}
  {now : Time.Timestamp} {α : Type}

/-! ## Loading and saving -/

theorem runAction_load (partner : Partner) (world : World MemoryStore) (id : String) :
    world.runAction partner (load id) =
      match world.store.record? id with
      | some record => (.ok record, world)
      | none => (.error (.refused (.authorisationUnknown id)), world) := by
  unfold load
  rw [World.runAction_bind, World.runAction_get]
  cases world.store.record? id <;> rfl

theorem runAction_persist (partner : Partner) (world : World MemoryStore)
    (record : Authorisation) (now : Time.Timestamp) :
    match world.store.save { record with updated := now } with
    | .ok (saved, later) => world.runAction partner (persist record now) =
        (.ok saved, { world with store := later })
    | .error _ => ∃ failure, world.runAction partner (persist record now) =
        (.error failure, world) := by
  have performs : Store.perform world.store (.save { record with updated := now }) =
      Store.settle world.store (world.store.save { record with updated := now }) := rfl
  unfold persist
  rw [World.runAction_bind, World.runAction_perform]
  simp only [World.perform, performs]
  rcases world.store.save { record with updated := now } with fault | ⟨saved, later⟩
  · cases fault <;> exact ⟨_, rfl⟩
  · rfl

/-- A save is completed to a commit by whatever derives the status of the parent once more if
the record is settled. -/
theorem persist_bind (partner : Partner) (world : World MemoryStore) {record : Authorisation}
    {next : Authorisation → Action α}
    (completes : ∀ saved later,
      world.store.save { record with updated := now } = .ok (saved, later) →
      (World.runAction partner (next saved) { world with store := later }).2.IsAt
        (if saved.status.isTerminal then later.projected saved.parent else later)
        world.exchanges) :
    (world.runAction partner (persist record now >>= next)).2.IsAt
      (world.store.commit now record) world.exchanges := by
  have persists := runAction_persist partner world record now
  unfold MemoryStore.commit
  rw [World.runAction_bind]
  cases saves : world.store.save { record with updated := now } with
  | error fault =>
      rw [saves] at persists
      rcases persists with ⟨failure, ran⟩
      rw [ran]
      exact ⟨rfl, rfl⟩
  | ok result =>
      rw [saves] at persists
      rw [persists]
      exact completes result.1 result.2 saves

theorem status_of_save {record saved : Authorisation} {store later : MemoryStore}
    (saves : store.save record = .ok (saved, later)) : saved.status = record.status := by
  rcases MemoryStore.save_eq_ok saves with ⟨stored, _, _, rfl, _⟩
  rfl

/-! ## Changes of a status -/

def changes (record : Authorisation) (earlier : Status) : List Event :=
  if record.status = earlier then []
  else [.statusChanged record.id record.parent (Vocabulary.word earlier)
    (Vocabulary.word record.status)]

theorem runAction_changes {σ : Type} [Store σ] (partner : Partner) (world : World σ)
    (record : Authorisation) (earlier : Status) :
    world.runAction partner (publishChange record earlier) =
      (.ok (), { world with events := world.events ++ changes record earlier }) := by
  unfold publishChange changes
  split
  · rw [List.append_nil]
    rfl
  · rw [World.runAction_publish]

def parentChanges (store : MemoryStore) (parent : String) : List Event :=
  match store.resource? parent with
  | none => []
  | some resource =>
      match resource.derive? (store.statuses parent) with
      | none => []
      | some status => [.parentChanged parent resource.status.word status.word]

theorem runAction_projectParent_of_some (partner : Partner)
    (found : world.store.resource? parent = some resource) :
    world.runAction partner (projectParent parent) =
      (.ok (resource.derive? (world.store.statuses parent)),
        { world with
          store := world.store.projected parent
          events := world.events ++ parentChanges world.store parent }) := by
  unfold projectParent MemoryStore.projected parentChanges
  rw [World.runAction_bind, World.runAction_resource, found]
  dsimp only
  rw [World.runAction_bind, World.runAction_listByParent]
  dsimp only
  rw [← MemoryStore.statuses]
  cases resource.derive? (world.store.statuses parent) with
  | none => simp
  | some status =>
      dsimp only
      rw [World.runAction_bind, World.runAction_setParentStatus partner world found]
      dsimp only
      rw [World.runAction_bind, World.runAction_publish]
      rfl

theorem runAction_projectParent_of_none (partner : Partner)
    (missing : world.store.resource? parent = none) :
    world.runAction partner (projectParent parent) =
      (.error (.faulted (.invariant (.parentMissing parent))), world) := by
  unfold projectParent
  rw [World.runAction_bind, World.runAction_resource, missing]
  rfl

theorem world_projectParent (partner : Partner) (world : World MemoryStore) (parent : String) :
    (world.runAction partner (projectParent parent)).2 = { world with
      store := world.store.projected parent
      events := world.events ++ parentChanges world.store parent } := by
  cases found : world.store.resource? parent with
  | some resource => rw [runAction_projectParent_of_some partner found]
  | none =>
      have unprojected : world.store.projected parent = world.store := by
        rw [MemoryStore.projected, found]
      rw [runAction_projectParent_of_none partner found, unprojected, parentChanges, found,
        List.append_nil]

theorem world_announce (partner : Partner) (world : World MemoryStore) (saved : Authorisation)
    (earlier : Status) {next : Option ParentStatus → Action α}
    (silent : ∀ derived (later : World MemoryStore),
      (later.runAction partner (next derived)).2 = later) :
    (world.runAction partner (do
      publishChange saved earlier
      let derived ← projectParent saved.parent
      next derived)).2 = { world with
        store := world.store.projected saved.parent
        events := world.events ++ (changes saved earlier ++
          parentChanges world.store saved.parent) } := by
  let told : World MemoryStore := { world with events := world.events ++ changes saved earlier }
  have projects := world_projectParent partner told saved.parent
  rw [World.runAction_bind, runAction_changes]
  dsimp only
  rw [World.runAction_bind]
  change (told.runAction partner (projectParent saved.parent)).2 = _ at projects
  rcases ran : told.runAction partner (projectParent saved.parent) with ⟨failure | derived, later⟩
  · rw [ran] at projects
    exact projects.trans (by simp [told, List.append_assoc])
  · rw [ran] at projects
    dsimp only
    rw [silent]
    exact projects.trans (by simp [told, List.append_assoc])

/-! ## Expiry -/

theorem projectParent_isAt (partner : Partner) (world : World MemoryStore) (parent : String) :
    (world.runAction partner (projectParent parent)).2.IsAt
      (world.store.projected parent) world.exchanges := by
  rw [world_projectParent]
  exact ⟨rfl, rfl⟩

theorem announce_isAt (partner : Partner) (world : World MemoryStore) (saved : Authorisation)
    (earlier : Status) {next : Option ParentStatus → Action α}
    (silent : ∀ derived (later : World MemoryStore),
      (later.runAction partner (next derived)).2 = later) :
    (world.runAction partner (do
      publishChange saved earlier
      let derived ← projectParent saved.parent
      next derived)).2.IsAt (world.store.projected saved.parent) world.exchanges := by
  rw [world_announce partner world saved earlier silent]
  exact ⟨rfl, rfl⟩

theorem expire_isAt (partner : Partner) (world : World MemoryStore) (record : Authorisation) :
    (world.runAction partner (expire record now)).2.IsAt
      (world.store.commit now { record with status := .failed }) world.exchanges := by
  unfold expire
  apply persist_bind
  intro saved later saves
  have settled : saved.status.isTerminal = true := by
    rw [status_of_save saves]
    rfl
  rw [if_pos settled, World.runAction_bind, World.runAction_publish]
  exact announce_isAt partner _ saved record.status fun _ _ => rfl

/-! ## Conclusion of an update -/

end Node

/-- The copy that a verdict asks to store, with its status. -/
def Stage.Verdict.draft? (policy : ExemptionPolicy) (earlier : Status) (verdict : Stage.Verdict) :
    Option Authorisation :=
  match verdict.outcome with
  | .advance status =>
      match Status.check policy earlier status with
      | .ok _ => some { verdict.record with status }
      | .error _ => none
  | .refuse _ => none
  | .retry _ => some { verdict.record with status := earlier }
  | .fail _ => some { verdict.record with status := .failed }

def MemoryStore.commit? (store : MemoryStore) (now : Time.Timestamp) :
    Option Authorisation → MemoryStore
  | none => store
  | some record => store.commit now record

namespace Node

theorem conclude_isAt (node : Node) (now : Time.Timestamp) (partner : Partner)
    (world : World MemoryStore) (earlier : Status) (live : earlier.isTerminal = false)
    (verdict : Stage.Verdict) :
    (world.runAction partner (node.conclude earlier verdict now)).2.IsAt
      (world.store.commit? now (verdict.draft? node.policy.exemption earlier))
      world.exchanges := by
  unfold conclude Stage.Verdict.draft?
  cases verdict.outcome with
  | advance status =>
      dsimp only
      cases Status.check node.policy.exemption earlier status with
      | error refused => exact ⟨rfl, rfl⟩
      | ok accepted =>
          apply persist_bind
          intro saved later saves
          have sameStatus : saved.status = status := status_of_save saves
          rw [sameStatus]
          split
          · exact announce_isAt partner _ saved earlier fun _ _ => rfl
          · rw [World.runAction_bind, runAction_changes]
            exact ⟨rfl, rfl⟩
  | refuse refusal => exact ⟨rfl, rfl⟩
  | retry refusal =>
      apply persist_bind
      intro saved later saves
      have sameStatus : saved.status = earlier := status_of_save saves
      rw [sameStatus, live]
      exact ⟨rfl, rfl⟩
  | fail refusal =>
      apply persist_bind
      intro saved later saves
      have settled : saved.status.isTerminal = true := by
        rw [status_of_save saves]
        rfl
      rw [if_pos settled]
      exact announce_isAt partner _ saved earlier fun _ _ => rfl

/-! ## Updates -/

end Node

/-- What an update finds and does, once it has come to the stage. -/
structure Visit where
  record : Authorisation
  resource : Resource
  siblings : List Authorisation
  exchanges : List Exchange
  verdict : Stage.Verdict
  interference : List Interference

namespace Visit

def input (visit : Visit) (policy : StagePolicy) (request : Request) : Stage.Input :=
  ⟨request, visit.resource, .ofApproach visit.record.approach, policy⟩

def draft? (visit : Visit) (policy : StagePolicy) : Option Authorisation :=
  visit.verdict.draft? policy.exemption visit.record.status

/-- The visit is what becomes of a request, from one world to another. -/
structure Takes (visit : Visit) (deployment : Deployment) (id : String) (request : Request)
    (now : Time.Timestamp) (before after : World MemoryStore) : Prop where
  found : before.store.record? id = some visit.record
  live : visit.record.status.isTerminal = false
  inTime : visit.record.isExpired now = false
  parent : before.store.resource? visit.record.parent = some visit.resource
  siblings : visit.siblings =
    if visit.resource.multilevel then before.store.listByParent visit.record.parent else []
  admitted : Check.firstObjection deployment.node.checks
    ⟨request, visit.record, visit.resource, visit.siblings⟩ = none
  yields : Dialogue.Yields (Stage.handle visit.record.status
    (visit.input deployment.node.policy request) visit.record) visit.exchanges visit.verdict
  undisturbed : deployment.bank.Quiet → visit.interference = []
  state : after.IsAt
    ((visit.interference.foldl Store.interfere before.store).commit? now
      (visit.draft? deployment.node.policy))
    (before.exchanges ++ visit.exchanges)

end Visit

inductive Updated (deployment : Deployment) (id : String) (request : Request)
    (now : Time.Timestamp) (before after : World MemoryStore) : Prop
  | idle (state : after.IsAt before.store before.exchanges)
  | expired (record : Authorisation) (found : before.store.record? id = some record)
      (overdue : record.isOverdue now = true)
      (state : after.IsAt (before.store.commit now { record with status := .failed })
        before.exchanges)
  | visited (visit : Visit) (takes : visit.Takes deployment id request now before after)

/-- Why a request is turned down before it comes to a stage. -/
inductive TurnedDown (node : Node) (id : String) (request : Request) (store : MemoryStore) :
    Refusal → Prop
  | unknown (missing : store.record? id = none) :
      TurnedDown node id request store (.authorisationUnknown id)
  | settled (record : Authorisation) (found : store.record? id = some record)
      (terminal : record.status.isTerminal = true) :
      TurnedDown node id request store (.settled record.status)
  | orphaned (record : Authorisation) (found : store.record? id = some record)
      (missing : store.resource? record.parent = none) :
      TurnedDown node id request store (.resourceUnknown record.parent)
  | objected (record : Authorisation) (resource : Resource) (siblings : List Authorisation)
      (refusal : Refusal) (objects : Check.firstObjection node.checks
        ⟨request, record, resource, siblings⟩ = some refusal) :
      TurnedDown node id request store refusal

/-- How the processing of a request ends: it is turned down, its authorisation has expired, or
it comes to a stage, whose verdict is carried out after the conversation. -/
inductive Processed (deployment : Deployment) (id : String) (request : Request)
    (now : Time.Timestamp) (before : World MemoryStore)
    (result : Except Failure UpdateResponse × World MemoryStore) : Prop
  | refused (refusal : Refusal)
      (cause : TurnedDown deployment.node id request before.store refusal)
      (ran : result = (.error (.refused refusal), before))
  | expired (record : Authorisation) (found : before.store.record? id = some record)
      (overdue : record.isOverdue now = true)
      (ran : result = before.runAction deployment.partner (do
        let _ ← Node.expire record now
        Action.refuse .expired))
  | visited (visit : Visit) (takes : visit.Takes deployment id request now before result.2)
      (ran : result = (before.afterTalk visit.interference visit.exchanges).runAction
        deployment.partner
        (deployment.node.conclude visit.record.status visit.verdict now))

namespace Node

variable {deployment : Deployment} {id : String} {request : Request} {now : Time.Timestamp}

theorem processed_of_admitted {world : World MemoryStore} {record : Authorisation}
    {resource : Resource} {siblings : List Authorisation}
    (found : world.store.record? id = some record) (live : record.status.isTerminal = false)
    (inTime : record.isExpired now = false)
    (parent : world.store.resource? record.parent = some resource)
    (listed : siblings =
      if resource.multilevel then world.store.listByParent record.parent else [])
    (admitted : Check.firstObjection deployment.node.checks
      ⟨request, record, resource, siblings⟩ = none) :
    Processed deployment id request now world
      (world.runAction deployment.partner (do
        let verdict ← Action.converse (Stage.handle record.status
          ⟨request, resource, .ofApproach record.approach, deployment.node.policy⟩ record)
        deployment.node.conclude record.status verdict now)) := by
  rcases World.run_dialogue deployment.partner (Stage.handle record.status
    ⟨request, resource, .ofApproach record.approach, deployment.node.policy⟩ record) world
    with ⟨verdict, exchanges, interference, talked, yields, undisturbed⟩
  have concluded := conclude_isAt deployment.node now deployment.partner
    (world.afterTalk interference exchanges) record.status live verdict
  rw [World.runAction_bind, Action.converse, World.runAction_lift, talked]
  exact .visited ⟨record, resource, siblings, exchanges, verdict, interference⟩
    ⟨found, live, inTime, parent, listed, admitted, yields, undisturbed, concluded⟩ rfl

theorem process_processed (deployment : Deployment) (id : String) (request : Request)
    (now : Time.Timestamp) (world : World MemoryStore) :
    Processed deployment id request now world
      (world.runAction deployment.partner (deployment.node.process id request now)) := by
  unfold process
  rw [World.runAction_bind, runAction_load]
  cases found : world.store.record? id with
  | none => exact .refused _ (.unknown found) rfl
  | some record =>
      dsimp only
      split
      · next terminal => exact .refused _ (.settled record found terminal) rfl
      · next unsettled =>
          have live : record.status.isTerminal = false := by simpa using unsettled
          split
          · next late =>
              refine .expired record found ?_ ?_
              · simp [Authorisation.isOverdue, live, late]
              · rw [World.runAction_bind, World.runAction_bind]
                rcases World.runAction deployment.partner (expire record now) world
                  with ⟨failure | saved, later⟩ <;> rfl
          · next punctual =>
              have inTime : record.isExpired now = false := by simpa using punctual
              rw [World.runAction_bind, World.runAction_resource]
              cases parent : world.store.resource? record.parent with
              | none => exact .refused _ (.orphaned record found parent) rfl
              | some resource =>
                  dsimp only
                  split
                  · next multilevel =>
                      rw [World.runAction_bind, World.runAction_listByParent]
                      dsimp only
                      cases objected : Check.firstObjection deployment.node.checks
                        ⟨request, record, resource, world.store.listByParent record.parent⟩ with
                      | some refusal =>
                          exact .refused _ (.objected record resource _ refusal objected) rfl
                      | none =>
                          exact processed_of_admitted found live inTime parent
                            (if_pos multilevel).symm objected
                  · next single =>
                      rw [World.runAction_bind, World.runAction_pure]
                      dsimp only
                      cases objected : Check.firstObjection deployment.node.checks
                        ⟨request, record, resource, []⟩ with
                      | some refusal =>
                          exact .refused _ (.objected record resource _ refusal objected) rfl
                      | none =>
                          exact processed_of_admitted found live inTime parent
                            (if_neg single).symm objected

theorem process_updated (deployment : Deployment) (id : String) (request : Request)
    (now : Time.Timestamp) (world : World MemoryStore) :
    Updated deployment id request now world
      (world.runAction deployment.partner (deployment.node.process id request now)).2 := by
  cases process_processed deployment id request now world with
  | refused refusal cause ran =>
      rw [ran]
      exact .idle ⟨rfl, rfl⟩
  | expired record found overdue ran =>
      rw [ran]
      refine .expired record found overdue ?_
      apply World.IsAt.bind (expire_isAt deployment.partner world record)
      intro saved later reached
      exact reached
  | visited visit takes ran => exact .visited visit takes

/-! ## Locks -/

section

variable {σ : Type} [Store σ]

theorem runAction_withLock {α : Type} (partner : Partner) (id : String) (action : Action α)
    (world : World σ) : ∃ busy idle,
    world.runAction partner (Action.withLock id action) =
      ((World.runAction partner action { world with locks := busy }).1,
        { (World.runAction partner action { world with locks := busy }).2 with
          locks := idle }) :=
  ⟨_, _, World.runAction_withLock_eq partner id action world⟩

def rejections {α : Type} (id : String) : Except Failure α → List Event
  | .error (.refused refusal) => [.refused id refusal.kind refusal.message]
  | _ => []

theorem runAction_update (partner : Partner) (node : Node) (id : String) (request : Request)
    (now : Time.Timestamp) (world : World σ) : ∃ busy idle,
    let processed := World.runAction partner (node.process id request now)
      { world with locks := busy }
    world.runAction partner (node.update id request now) =
      (processed.1, { processed.2 with
        locks := idle
        events := processed.2.events ++ rejections id processed.1 }) := by
  rcases runAction_withLock partner id (node.process id request now) world
    with ⟨busy, idle, ran⟩
  refine ⟨busy, idle, ?_⟩
  unfold update
  rw [World.runAction_bind, World.runAction_lift]
  change World.run _ _ _ = _ at ran
  rw [ran]
  rcases World.runAction partner (node.process id request now) { world with locks := busy }
    with ⟨(refusal | fault) | response, later⟩
  · rfl
  · simp [rejections]
  · simp [rejections]

end

end Node

end StrongAuth
