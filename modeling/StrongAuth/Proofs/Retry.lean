import StrongAuth.Bank.Scripted
import StrongAuth.Proofs.AnyStore
import StrongAuth.Proofs.Drafts
import StrongAuth.Proofs.Execution

/-! # Errors after an execution

The bank executes an operation before its authorisation is stored. Main statement: unless the
store itself has a fault, and in memory it has none, an update that has the operation executed
fails only if someone else saves the authorisation while the bank is busy; the update has then
stored nothing, and can execute the operation once more. -/

namespace StrongAuth

/-- Someone else has changed the version of a record, and nothing else about it. -/
def MemoryStore.Overtakes (before after : MemoryStore) (id : String) : Prop :=
  ∃ record version, before.record? id = some record ∧ version ≠ record.version ∧
    after.record? id = some { record with version }

namespace Stage

variable {exchanges : List Exchange}

theorem Ends.succeeds_of_executed {succeeds : Bool} (ends : Ends exchanges succeeds)
    {exchange : Exchange} (member : exchange ∈ exchanges)
    (executed : exchange.executed = true) : succeeds = true := by
  have counted := ends.countP_executed
  have some : 0 < exchanges.countP Exchange.executed :=
    List.countP_pos_iff.mpr ⟨exchange, member, executed⟩
  cases succeeds with
  | true => rfl
  | false =>
      rw [counted] at some
      cases some

theorem Verdict.advances_of_succeeds {verdict : Verdict} (succeeds : verdict.succeeds = true) :
    ∃ status, verdict.outcome = .advance status ∧ status.isSuccessful = true := by
  unfold Verdict.succeeds at succeeds
  cases outcome : verdict.outcome with
  | advance status =>
      rw [outcome] at succeeds
      exact ⟨status, rfl, succeeds⟩
  | refuse refusal | retry refusal | fail refusal =>
      rw [outcome] at succeeds
      cases succeeds

end Stage

/-! ## On any store -/

section

variable {σ : Type} [Store σ]

/-- How a request fails after the bank has executed its operation, if it wanted to store
`draft` once the conversation was over. -/
inductive FailsLate (draft : Authorisation) (talked after : σ) : Failure → Prop
  /-- Someone else was faster, and nothing is stored. -/
  | overtaken (id : String) (version : Int64)
      (conflicts : Store.save draft talked = .error (.conflict id version))
      (stale : ∀ stored, Store.get draft.id talked = .ok (some stored) →
        stored.version ≠ draft.version)
      (unsaved : after = talked) : FailsLate draft talked after (.refused .modifiedConcurrently)
  /-- The store has a fault where someone else has left the record, and nothing is stored. -/
  | unsaved (fault : StoreFault) (fails : Store.save draft talked = .error fault)
      (other : ∀ id version, fault ≠ .conflict id version)
      (stale : ∀ stored, Store.get draft.id talked = .ok (some stored) →
        stored.version ≠ draft.version)
      (unsaved : after = talked) : FailsLate draft talked after (.faulted (.storage fault))
  /-- The authorisation is stored as completed, and a fault of the store keeps the status of its
  resource from being derived. -/
  | unprojected (fault : StoreFault) (saved : Authorisation)
      (saves : Store.save draft talked = .ok (saved, after))
      (fails : Store.project draft.parent after = .error (.storage fault)) :
      FailsLate draft talked after (.faulted (.storage fault))

/-- The record that a request has loaded, the copy of it that it wanted to store as completed, and
how it fails. -/
structure LateFailure (bank : Bank) (id : String) (before after : σ) (failure : Failure)
    (record draft : Authorisation) (interference : List Interference) : Prop where
  loaded : Store.get id before = .ok (some record)
  id_eq : draft.id = id
  version_eq : draft.version = record.version
  completes : draft.status.isSuccessful = true
  undisturbed : bank.Quiet → interference = []
  fails : FailsLate draft (interference.foldl Store.interfere before) after failure

variable {bank : Bank} {id : String} {before after : σ} {failure : Failure}
  {record draft : Authorisation} {interference : List Interference}

theorem LateFailure.not_quiet
    (late : LateFailure bank id before after failure record draft interference)
    (stale : ∀ stored, Store.get draft.id (interference.foldl Store.interfere before) =
      .ok (some stored) → stored.version ≠ draft.version) : ¬ bank.Quiet := by
  intro quiet
  rw [late.undisturbed quiet, List.foldl_nil, late.id_eq] at stale
  exact stale record late.loaded late.version_eq.symm

namespace Node

open StrongAuth.Action

variable {partner : Partner} {world : World σ} {now : Time.Timestamp}

/-- A copy that cannot be saved is answered for, and nothing is stored. -/
theorem failsLate_of_unsaved {fault : StoreFault}
    (unsaved : Store.save { draft with updated := now } world.store = .error fault)
    (stale : ∀ stored, Store.get draft.id world.store = .ok (some stored) →
      stored.version ≠ draft.version) :
    ∃ failure, world.runAction partner (persist draft now) = (.error failure, world) ∧
      FailsLate { draft with updated := now } world.store world.store failure := by
  have persists := runAction_persist_eq partner world draft now
  rw [unsaved] at persists
  cases fault with
  | conflict id version => exact ⟨_, persists, .overtaken id version unsaved stale rfl⟩
  | _ => exact ⟨_, persists, .unsaved _ unsaved nofun stale rfl⟩

variable [LawfulStore σ]

/-- How the settling of a copy fails that would give an answer. -/
theorem failsLate_of_settle {α : Type} {earlier : Status} {answer : Authorisation → α}
    {result : Except Failure α × World σ} (knows : Store.Knows draft.parent world.store)
    (ran : result = world.runAction partner (do
      let saved ← persist draft now
      publishChange saved earlier
      let _ ← projectParent saved.parent
      return answer saved)) (fails : result.1 = .error failure) :
    FailsLate { draft with updated := now } world.store result.2.store failure := by
  have stale {fault : StoreFault}
      (unsaved : Store.save { draft with updated := now } world.store = .error fault)
      (stored : Authorisation) (read : Store.get draft.id world.store = .ok (some stored)) :
      stored.version ≠ draft.version := by
    intro same
    rcases Store.exists_save_of_get read same.symm with ⟨later, saves⟩
    rw [unsaved] at saves
    cases saves
  cases saves : Store.save { draft with updated := now } world.store with
  | error fault =>
      rcases failsLate_of_unsaved saves (stale saves)
        with ⟨_, persists, late⟩
      rw [World.runAction_bind_of_error partner persists] at ran
      rw [ran] at fails ⊢
      cases fails
      exact late
  | ok result =>
      rcases result with ⟨saved, stored⟩
      rcases LawfulStore.of_save saves with ⟨sameCopy, sameResources⟩
      have sameParent : saved.parent = draft.parent := by rw [sameCopy]
      have known : Store.Knows saved.parent stored := by
        unfold Store.Knows
        rw [sameResources, sameParent]
        exact knows
      rw [runAction_settle partner saves] at ran
      cases projects : Store.project saved.parent stored with
      | ok projection =>
          rw [projects] at ran
          rw [ran] at fails
          cases fails
      | error fault =>
          rcases known.storage_of_project projects with ⟨storage, rfl⟩
          rw [projects] at ran
          rw [ran] at fails ⊢
          cases fails
          exact .unprojected storage saved saves (sameParent ▸ projects)

/-- If the processing of a request fails although the operation is executed, it fails late. -/
theorem lateFailure_of_process {node : Node} {request : Request}
    (fails : (world.runAction partner (node.process id request now)).1 = .error failure)
    {exchange : Exchange} (executed : exchange.executed = true)
    (called : exchange ∈ (world.runAction partner
      (node.process id request now)).2.exchanges.drop world.exchanges.length) :
    ∃ record draft interference, LateFailure partner.bank id world.store
      (world.runAction partner (node.process id request now)).2.store failure record draft
      interference := by
  rcases process_comes partner node id request now world with silent | ⟨visit, comes⟩
  · rw [silent, List.drop_length] at called
    cases called
  rw [comes.exchanges_eq, List.drop_left] at called
  have sound := comes.sound
  have copies : Stage.Copies request visit.record visit.verdict.record := sound.copies
  rcases Stage.Verdict.advances_of_succeeds (sound.ends.succeeds_of_executed called executed)
    with ⟨status, advances, successful⟩
  have ran := comes.ran
  rw [conclude_of_advance advances (sound.accepted status advances)
    (Status.isTerminal_of_isSuccessful successful)] at ran
  have knows : Store.Knows visit.verdict.record.parent
      (visit.interference.foldl Store.interfere world.store) := by
    rw [copies.parent_eq]
    refine Store.Knows.foldl_interfere visit.interference ?_
    unfold Store.Knows
    rw [comes.parent]
    exact nofun
  exact ⟨visit.record, { visit.verdict.record with status, updated := now }, visit.interference,
    comes.loaded, copies.id_eq.trans (LawfulStore.id_of_get comes.loaded), copies.version_eq,
    successful, comes.undisturbed, failsLate_of_settle knows ran fails⟩

end Node

theorem Deployment.lateFailure_of_update [LawfulStore σ] (deployment : Deployment)
    {request : Request} {now : Time.Timestamp} {before : World σ}
    (fails : (deployment.perform ⟨.update id request, now⟩ before).1 = .error failure)
    (called : ∃ exchange ∈ (deployment.perform ⟨.update id request, now⟩ before).2.exchanges.drop
      before.exchanges.length, exchange.executed = true) :
    ∃ record draft interference, LateFailure deployment.bank id before.store
      (deployment.perform ⟨.update id request, now⟩ before).2.store failure record draft
      interference := by
  rcases called with ⟨exchange, called, executed⟩
  rcases Node.runAction_update deployment.partner deployment.node id request now before
    with ⟨busy, idle, ran⟩
  change (before.runAction deployment.partner
    (deployment.node.update id request now)).1 = _ at fails
  change exchange ∈ (before.runAction deployment.partner
    (deployment.node.update id request now)).2.exchanges.drop _ at called
  change ∃ record draft interference, LateFailure _ id _ (before.runAction deployment.partner
    (deployment.node.update id request now)).2.store failure record draft interference
  rw [ran] at fails called ⊢
  exact Node.lateFailure_of_process fails executed called

end

/-! ## In memory -/

namespace MemoryStore

variable {id : String} {before after : MemoryStore} {failure : Failure}
  {record draft : Authorisation} {interference : List Interference}

theorem project_ne_storage (store : MemoryStore) (parent : String) (fault : StoreFault) :
    Store.project parent store ≠ .error (.storage fault) := by
  cases found : store.resource? parent with
  | none =>
      have reads : Store.resource parent store = .ok none := congrArg Except.ok found
      unfold Store.project
      rw [reads]
      exact nofun
  | some resource =>
      rw [project_of_resource? found]
      exact nofun

/-- A store in memory has no faults of its own, so late failures come of others only. -/
theorem overtakes_of_lateFailure {bank : Bank}
    (late : LateFailure bank id before after failure record draft interference) :
    failure = .refused .modifiedConcurrently ∧ ¬ bank.Quiet ∧ before.Overtakes after id := by
  have loaded : before.record? id = some record := Except.ok.inj late.loaded
  have resaves : before.Resaves (interference.foldl Store.interfere before) :=
    .foldl_interfere before interference
  rcases resaves id with ⟨version, found⟩
  rw [loaded, Option.map_some, ← late.id_eq] at found
  have reads : Store.get draft.id (interference.foldl Store.interfere before) =
      .ok (some { record with version := version record }) := congrArg Except.ok found
  have ends := late.fails
  cases ends with
  | overtaken _ _ _ stale unsaved =>
      refine ⟨rfl, late.not_quiet stale, record, version record, loaded, ?_, ?_⟩
      · rw [← late.version_eq]
        exact stale _ reads
      · rw [unsaved, ← late.id_eq, found]
  | unsaved fault fails other stale unsaved =>
      change MemoryStore.save draft _ = _ at fails
      rw [MemoryStore.save, found] at fails
      dsimp only at fails
      rw [if_pos (stale _ reads)] at fails
      cases fails
      exact absurd rfl (other _ _)
  | unprojected fault saved saves fails => exact absurd fails (project_ne_storage _ _ _)

end MemoryStore

/-- Whatever the bank answers and others do to the store meanwhile, an update in memory that fails
although its operation was executed has been overtaken: it is refused as modified concurrently,
someone else has saved the record as it was, and the update itself has stored nothing. Every other
failure, and every failure while nobody else uses the store, means that nothing was executed. On
tables it may also be the tables that fail, either to save what was executed or, once that is
saved, to derive the status of the resource. -/
theorem Deployment.overtaken_of_executed (deployment : Deployment) (id : String)
    (request : Request) (now : Time.Timestamp) {failure : Failure} :
    (∀ before : World MemoryStore,
      let step : Step := ⟨.update id request, now⟩
      let after := deployment.make before (.operate step)
      (deployment.perform step before).1 = .error failure →
      (∃ exchange ∈ Passage.calls ⟨.operate step, before, after⟩, exchange.executed = true) →
      failure = .refused .modifiedConcurrently ∧ ¬ deployment.bank.Quiet ∧
        before.store.Overtakes after.store id) ∧
    ∀ before : World TableStore,
      let result := deployment.perform ⟨.update id request, now⟩ before
      result.1 = .error failure →
      (∃ exchange ∈ result.2.exchanges.drop before.exchanges.length,
        exchange.executed = true) →
      ∃ record draft interference, LateFailure deployment.bank id before.store result.2.store
        failure record draft interference := by
  refine ⟨?_, ?_⟩
  · intro before step after fails called
    rcases deployment.lateFailure_of_update fails called with ⟨record, draft, interference, late⟩
    exact MemoryStore.overtakes_of_lateFailure late
  · intro before result fails called
    exact deployment.lateFailure_of_update fails called

/-! ## A payment executed twice -/

/-- A bank during whose first execution someone else saves the authorisation. -/
def resavingScript : Script
  | .execute => [⟨[.resave "first"], ⟨0⟩, .ok ()⟩]
  | _ => []

/-- The code of a payment is submitted, and submitted again after an error. -/
def retriedMoves : List Move :=
  embeddedMoves ++ [.operate ⟨.update "first" ⟨none, none, none, some "123456", none⟩, .epoch⟩]

theorem executed_behind_error :
    let deployment : Deployment := ⟨.standard, resavingScript.toBank⟩
    let before := deployment.play (embeddedMoves.take 3) (.fresh .empty)
    let step : Step := ⟨.update "first" ⟨none, none, none, some "123456", none⟩, .epoch⟩
    let after := deployment.make before (.operate step)
    (deployment.perform step before).1 = .error (.refused .modifiedConcurrently) ∧
      (Passage.calls ⟨.operate step, before, after⟩).any Exchange.executed = true ∧
      (deployment.perform step after).1.isOk = true ∧
      executions "first" (deployment.history retriedMoves (.fresh .empty)) = 2 := by
  decide +kernel

theorem overtaken_during_execution :
    let deployment : Deployment := ⟨.standard, resavingScript.toBank⟩
    let before := deployment.play (embeddedMoves.take 3) (.fresh .empty)
    let step : Step := ⟨.update "first" ⟨none, none, none, some "123456", none⟩, .epoch⟩
    ¬ deployment.bank.Quiet ∧
      before.store.Overtakes (deployment.make before (.operate step)).store "first" := by
  intro deployment before step
  have fails : (deployment.perform step before).1 =
      .error (.refused .modifiedConcurrently) := by decide +kernel
  have called : (Passage.calls ⟨.operate step, before,
      deployment.make before (.operate step)⟩).any Exchange.executed = true := by decide +kernel
  exact ((deployment.overtaken_of_executed "first" _ .epoch).1 before fails
    (List.any_eq_true.mp called)).2

end StrongAuth
