import StrongAuth.Proofs.Coherence
import StrongAuth.Proofs.Execution
import StrongAuth.Proofs.Oblivious

/-! # Execution and the status of the resource

An update does not look at the status of its resource. Main statement: in an orderly run that
nobody disturbs during calls, the resource whose operation is executed has a status that
accepts no authorisation exactly if other authorisations have decided it before, unless
someone else has set its status; and its operation was executed as often as authorisations
of it have succeeded. -/

namespace StrongAuth

namespace MemoryStore

variable {store : MemoryStore} {record stored : Authorisation} {parent : String}
  {now : Time.Timestamp}

/-- A commit moves its record from the statuses of its old sort to those of its new one. -/
theorem countP_statuses_commit (now : Time.Timestamp) (distinct : store.Distinct)
    (found : store.record? record.id = some stored)
    (sameVersion : stored.version = record.version) (sameParent : record.parent = stored.parent)
    (parent : String) (sort : Status → Bool) :
    ((store.commit now record).statuses parent).countP sort +
        (if record.parent = parent then (sort stored.status).toNat else 0) =
      (store.statuses parent).countP sort +
        if record.parent = parent then (sort record.status).toNat else 0 := by
  have moved := countP_commit now distinct found sameVersion
    fun other => sort other.status && other.parent == parent
  dsimp only [Authorisation.saved] at moved
  rw [countP_statuses, countP_statuses]
  by_cases ours : record.parent = parent
  · rw [if_pos ours, if_pos ours]
    rw [← sameParent, ours, beq_self_eq_true, Bool.and_true, Bool.and_true] at moved
    exact moved
  · rw [if_neg ours, if_neg ours]
    rw [← sameParent, beq_false_of_ne ours, Bool.and_false, Bool.and_false] at moved
    exact moved

def successes (store : MemoryStore) (parent : String) : Nat :=
  (store.statuses parent).countP Status.isSuccessful

theorem isSuccessful_of_live {status : Status} (live : status.isTerminal = false) :
    status.isSuccessful = false := by
  cases status <;> simp_all [Status.isTerminal, Status.isSuccessful]

theorem successes_commit (now : Time.Timestamp) (distinct : store.Distinct)
    (found : store.record? record.id = some stored)
    (sameVersion : stored.version = record.version) (sameParent : record.parent = stored.parent)
    (live : stored.status.isTerminal = false) (parent : String) :
    (store.commit now record).successes parent = store.successes parent +
      if record.parent = parent then record.status.isSuccessful.toNat else 0 := by
  have moved := countP_statuses_commit now distinct found sameVersion sameParent parent
    Status.isSuccessful
  rw [isSuccessful_of_live live] at moved
  unfold successes
  rw [← moved]
  split <;> rfl

theorem settled_successes (parent : String) : Settled fun store => store.successes parent where
  of_records_eq store later same := by
    simp only [successes]
    rw [statuses_of_records_eq same]
  interfered store distinct interference :=
    countP_statuses_interfere distinct interference parent Status.isSuccessful
  appended store record _ received := by
    unfold successes
    rw [countP_statuses_append, received]
    simp [Status.isSuccessful]
  failed store distinct now record found live := by
    let failed := { record with status := .failed }
    have stored : store.record? failed.id = some record := found
    have kept := successes_commit now distinct stored rfl rfl live parent
    exact kept.trans (by simp [failed, Status.isSuccessful])

end MemoryStore

/-! ## Executions for a resource -/

def executionsFor (resource : String) (exchanges : List Exchange) : Nat :=
  exchanges.countP fun exchange => exchange.executed && exchange.call.resource.id == resource

theorem executionsFor_append (resource : String) (first second : List Exchange) :
    executionsFor resource (first ++ second) =
      executionsFor resource first + executionsFor resource second :=
  List.countP_append

/-- A visit that nobody disturbs adds a success for its resource exactly if it has the
operation executed. -/
theorem Visit.Takes.executionsFor_eq {deployment : Deployment} {id : String}
    {request : Request} {now : Time.Timestamp} {before after : World MemoryStore}
    {visit : Visit} (takes : visit.Takes deployment id request now before after)
    (quiet : deployment.bank.Quiet) (distinct : before.store.Distinct) (parent : String) :
    before.store.successes parent + executionsFor parent visit.exchanges =
      after.store.successes parent := by
  have told : executionsFor parent visit.exchanges =
      if visit.record.parent = parent then visit.verdict.succeeds.toNat else 0 := by
    have addressed : executionsFor parent visit.exchanges = visit.exchanges.countP
        fun exchange => exchange.executed && visit.record.parent == parent := by
      apply List.countP_congr
      intro exchange member
      rw [takes.sound.addressed exchange member]
      rw [← MemoryStore.id_of_resource? takes.parent]
      rfl
    rw [addressed]
    by_cases ours : visit.record.parent = parent
    · rw [if_pos ours, ours, beq_self_eq_true]
      simp only [Bool.and_true]
      rw [takes.sound.ends.countP_executed]
      cases visit.verdict.succeeds <;> rfl
    · rw [if_neg ours, beq_false_of_ne ours]
      simp
  have successful := takes.sound.draft_isSuccessful takes.live
  change (visit.draft? deployment.node.policy).any _ = _ at successful
  rw [takes.store_eq quiet, told, ← successful]
  cases drafted : visit.draft? deployment.node.policy with
  | none => simp [MemoryStore.commit?]
  | some draft =>
      have copies := takes.draft_copies drafted
      have found : before.store.record? draft.id = some visit.record := by
        rw [takes.draft_id drafted, takes.found]
      have added := MemoryStore.successes_commit now distinct found copies.version_eq.symm
        copies.parent_eq takes.live parent
      have sameParent : draft.parent = visit.record.parent := copies.parent_eq
      rw [sameParent] at added
      exact added.symm

namespace Deployment

variable {deployment : Deployment}

theorem executionsFor_make (quiet : deployment.bank.Quiet) {before : World MemoryStore}
    (distinct : before.store.Distinct) (move : Move) (parent : String)
    (counted : executionsFor parent before.exchanges = before.store.successes parent) :
    executionsFor parent (deployment.make before move).exchanges =
      (deployment.make before move).store.successes parent := by
  rcases (MemoryStore.settled_successes parent).make deployment distinct move
    with ⟨same, unchanged⟩ | ⟨id, request, now, visit, rfl, takes⟩
  · rw [same, counted]
    exact unchanged.symm
  · rw [takes.state.exchanges_eq, executionsFor_append, counted]
    exact takes.executionsFor_eq quiet distinct parent

/-- If nobody disturbs calls, the operation of a resource was executed as often as its
authorisations have succeeded. -/
theorem executionsFor_play (quiet : deployment.bank.Quiet) (moves : List Move)
    (parent : String) :
    executionsFor parent (deployment.play moves (.fresh .empty)).exchanges =
      (deployment.play moves (.fresh .empty)).store.successes parent := by
  apply play_induction (fun _ world =>
    executionsFor parent world.exchanges = world.store.successes parent) moves
  · simp [executionsFor, MemoryStore.successes, MemoryStore.statuses, MemoryStore.listByParent,
      MemoryStore.empty, World.fresh]
  · rintro moves before move rfl counted
    exact executionsFor_make quiet (deployment.distinct_play moves) move parent counted

/-! ## Calls and the status of the resource -/

/-- In an update the bank is told of the stored resource. Its status was last set by someone
else, or it accepts no authorisation exactly if the resource is overtaken. -/
def ToldOfStored (moves : List Move) (store : MemoryStore) (operation : Operation)
    (exchange : Exchange) : Prop :=
  ∃ id request record resource, operation = .update id request ∧
    store.record? id = some record ∧ store.resource? record.parent = some resource ∧
    exchange.call.resource = resource ∧
    (outsideStatus moves resource.id = some resource.status ∨
      (outsideStatus moves resource.id).all (!·.isClosed) = true ∧
      resource.status.isClosed = false ∧
      (resource.status.acceptsAuthorisation = false ↔
        resource.Overtaken (store.statuses resource.id)))

theorem toldOfStored (quiet : deployment.bank.Quiet) {moves : List Move}
    (orderly : Orderly moves) {before : World MemoryStore}
    (played : before = deployment.play moves (.fresh .empty)) {step : Step}
    {exchange : Exchange} (called : exchange ∈
      Passage.calls ⟨.operate step, before, deployment.make before (.operate step)⟩) :
    ToldOfStored moves before.store step.operation exchange := by
  rcases deployment.visit_of_call step before called
    with ⟨id, request, visit, operation, takes, asked⟩
  have sameId := MemoryStore.id_of_resource? takes.parent
  refine ⟨id, request, visit.record, visit.resource, operation, takes.found, takes.parent,
    takes.sound.addressed exchange asked, ?_⟩
  have stands := stands_play quiet orderly
  rw [← played] at stands
  have found := takes.parent
  rw [← sameId] at found
  cases stands visit.resource found with
  | outside set => exact .inl set
  | derived unclosed coherent =>
      have stored := MemoryStore.mem_of_record? takes.found
      have member : visit.record.status ∈ before.store.statuses visit.resource.id :=
        List.mem_map.mpr ⟨visit.record,
          MemoryStore.mem_listByParent.mpr ⟨stored.1, sameId.symm⟩, rfl⟩
      refine .inr ⟨unclosed, ?_, ?_⟩
      · rw [coherent]
        exact Aggregate.isClosed_project _ _
      · rw [coherent]
        exact Resource.overtaken_iff member takes.live

/-- The operation is executed whatever the status of the resource is: a call may find any
status that others have left, the executions for a resource are as many as its successful
authorisations, and neither checks nor stages look at the status. -/
theorem executed_whatever_status (deployment : Deployment) (quiet : deployment.bank.Quiet)
    {moves : List Move} (orderly : Orderly moves) :
    let before := deployment.play moves (.fresh .empty)
    (∀ step, ∀ exchange ∈
        Passage.calls ⟨.operate step, before, deployment.make before (.operate step)⟩,
      ToldOfStored moves before.store step.operation exchange) ∧
    (∀ resource, executionsFor resource before.exchanges = before.store.successes resource) ∧
    ∀ request record resource siblings status evidence,
      Check.firstObjection deployment.node.checks
          ⟨request, record, { resource with status }, siblings⟩ =
        Check.firstObjection deployment.node.checks ⟨request, record, resource, siblings⟩ ∧
      Stage.handle record.status
          ⟨request, { resource with status }, evidence, deployment.node.policy⟩ record =
        Dialogue.about { resource with status } (Stage.handle record.status
          ⟨request, resource, evidence, deployment.node.policy⟩ record) := by
  refine ⟨?_, executionsFor_play quiet moves, ?_⟩
  · intro step exchange called
    exact toldOfStored quiet orderly rfl called
  · intro request record resource siblings status evidence
    let input : Stage.Input := ⟨request, resource, evidence, deployment.node.policy⟩
    have sameFactor : { resource with status }.oneFactor = input.resource.oneFactor := rfl
    exact ⟨Check.firstObjection_of_status _ _ _ _ _ _,
      Stage.handle_about record.status sameFactor⟩

end Deployment

/-- Two authorisations of one payment, of which the first one is completed before the second
one. -/
def parallelMoves : List Move :=
  let payment : Resource :=
    ⟨"payment", .payment, .payment .received, false, false, false, [], .epoch⟩
  let anna : Psu := ⟨some "anna", none, none, none, none⟩
  let password : Request := ⟨some anna, some "secret", none, none, none⟩
  let code : Request := ⟨none, none, none, some "123456", none⟩
  [.register payment, .start "first" "payment" none (some .embedded),
    .start "second" "payment" none (some .embedded), .update "first" password,
    .update "second" password, .update "first" code, .update "second" code].map
    fun operation => .operate ⟨operation, .epoch⟩

theorem executed_twice_in_parallel :
    let deployment := Deployment.simulated .standard
    deployment.bank.Quiet ∧ Orderly parallelMoves ∧
      executionsFor "payment" (deployment.play parallelMoves (.fresh .empty)).exchanges = 2 ∧
      ((deployment.history parallelMoves (.fresh .empty)).any fun passage =>
        passage.calls.any fun exchange => exchange.executed &&
          !exchange.call.resource.status.acceptsAuthorisation) = true := by
  intro deployment
  have quiet : deployment.bank.Quiet := SimulatedBank.standard.quiet
  have orderly : Orderly parallelMoves := ⟨by decide +kernel, by decide +kernel⟩
  have counted := deployment.executed_whatever_status quiet orderly
  refine ⟨quiet, orderly, ?_, by decide +kernel⟩
  rw [counted.2.1 "payment"]
  decide +kernel

end StrongAuth
