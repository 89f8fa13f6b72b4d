import StrongAuth.Proofs.Resources

/-! # The operation is executed exactly once

Main statement: as long as nobody else uses the store while the bank is busy, the operation
of an authorisation was executed once if the authorisation is successful, and never
otherwise. -/

namespace StrongAuth

/-! ## Quantities that only visits change -/

/-- A quantity of the store that only a visit can change. -/
structure Settled {α : Type} (quantity : MemoryStore → α) : Prop where
  of_records_eq : ∀ store later : MemoryStore, later.records = store.records →
    quantity later = quantity store
  interfered : ∀ store : MemoryStore, store.Distinct → ∀ interference,
    quantity (Store.interfere store interference) = quantity store
  appended : ∀ (store : MemoryStore) record, store.record? record.id = none →
    record.status = .received →
    quantity { store with records := store.records ++ [record] } = quantity store
  failed : ∀ store : MemoryStore, store.Distinct → ∀ now record,
    store.record? record.id = some record → record.status.isTerminal = false →
    quantity (store.commit now { record with status := .failed }) = quantity store

namespace Settled

variable {α : Type} {quantity : MemoryStore → α}

theorem expires (settled : Settled quantity) {now : Time.Timestamp}
    {store later : MemoryStore} (distinct : store.Distinct) (expires : Expires now store later) :
    quantity later = quantity store := by
  induction expires with
  | refl store => rfl
  | @step store final record found overdue rest induction =>
      have live := Authorisation.live_of_isOverdue overdue
      rw [induction distinct.commit]
      exact settled.failed store distinct now record found live

/-- A move calls nobody and keeps a settled quantity, or it is a visit. -/
theorem make (settled : Settled quantity) (deployment : Deployment)
    {before : World MemoryStore} (distinct : before.store.Distinct) (move : Move) :
    ((deployment.make before move).exchanges = before.exchanges ∧
      quantity (deployment.make before move).store = quantity before.store) ∨
    ∃ id request now visit, move = .operate ⟨.update id request, now⟩ ∧
      Visit.Takes visit deployment id request now before (deployment.make before move) := by
  cases move with
  | outside interference => exact .inl ⟨rfl, settled.interfered _ distinct interference⟩
  | operate step =>
      have course : Course deployment step before (deployment.make before (.operate step)) :=
        deployment.perform_course step before
      generalize deployment.make before (.operate step) = after at course ⊢
      cases course with
      | idle state => exact .inl ⟨state.exchanges_eq, by rw [state.store_eq]⟩
      | registered resource operation state =>
          refine .inl ⟨state.exchanges_eq, settled.of_records_eq _ _ ?_⟩
          rw [state.store_eq, MemoryStore.records_register]
      | opened newId resource psu preferred record operation opening state =>
          refine .inl ⟨state.exchanges_eq, ?_⟩
          rw [state.store_eq]
          exact settled.appended _ record opening.unknown opening.received
      | expired ages => exact .inl ⟨ages.silent, settled.expires distinct ages.expires⟩
      | projected resource state =>
          refine .inl ⟨state.exchanges_eq, settled.of_records_eq _ _ ?_⟩
          rw [state.store_eq, MemoryStore.records_projected]
      | visited id request visit operation takes =>
          rcases step with ⟨_, now⟩
          cases operation
          exact .inr ⟨id, request, now, visit, rfl, takes⟩

end Settled

/-! ## Executions for an authorisation -/

def executions (id : String) (passages : List Passage) : Nat :=
  ((passages.filter fun passage => (passage.request? id).isSome).flatMap
    Passage.calls).countP Exchange.executed

theorem executions_append (id : String) (passages : List Passage) (passage : Passage) :
    executions id (passages ++ [passage]) = executions id passages +
      if (passage.request? id).isSome then passage.calls.countP Exchange.executed else 0 := by
  unfold executions
  rw [List.filter_append, List.flatMap_append, List.countP_append]
  cases request : (passage.request? id).isSome <;> simp [request]

namespace MemoryStore

def succeeded (store : MemoryStore) (id : String) : Bool :=
  (store.record? id).any (·.status.isSuccessful)

variable {store : MemoryStore} {record : Authorisation}

theorem succeeded_of_live (found : store.record? record.id = some record)
    (live : record.status.isTerminal = false) : store.succeeded record.id = false := by
  rw [succeeded, found]
  cases status : record.status <;> simp_all [Status.isTerminal, Status.isSuccessful]

theorem settled_succeeded (id : String) : Settled fun store => store.succeeded id where
  of_records_eq store later same := by
    simp only [succeeded, record?]
    rw [same]
  interfered store _ interference := by
    rcases record?_interfere store interference id with ⟨version, found⟩
    rw [succeeded, found, succeeded]
    cases store.record? id <;> rfl
  appended store record unknown received := by
    rw [succeeded, record?_append unknown, succeeded]
    by_cases same : id = record.id
    · rw [if_pos same, same, unknown]
      simp [received, Status.isSuccessful]
    · rw [if_neg same]
  failed store _ now record found live := by
    have current : store.Current { record with status := .failed } := ⟨record, found, rfl⟩
    rw [succeeded, record?_commit current]
    by_cases same : id = record.id
    · subst same
      rw [if_pos rfl, succeeded_of_live found live]
      rfl
    · rw [if_neg same]
      rfl

end MemoryStore

namespace Visit.Takes

variable {deployment : Deployment} {id : String} {request : Request} {now : Time.Timestamp}
  {before after : World MemoryStore} {visit : Visit}

theorem not_succeeded (takes : visit.Takes deployment id request now before after) :
    before.store.succeeded id = false := by
  have found := takes.found
  rw [← takes.id_eq] at found ⊢
  exact MemoryStore.succeeded_of_live found takes.live

theorem succeeded_eq (takes : visit.Takes deployment id request now before after)
    (quiet : deployment.bank.Quiet) : after.store.succeeded id = visit.verdict.succeeds := by
  have successful := takes.sound.draft_isSuccessful takes.live
  have unsuccessful := takes.not_succeeded
  rw [MemoryStore.succeeded, takes.found] at unsuccessful
  rw [MemoryStore.succeeded, takes.record?_eq quiet id, if_pos rfl, ← successful]
  change Option.any _ (((visit.draft? deployment.node.policy).map _).or _) =
    (visit.draft? deployment.node.policy).any _
  cases visit.draft? deployment.node.policy with
  | none => exact unsuccessful
  | some draft => rfl

theorem succeeded_of_ne (takes : visit.Takes deployment id request now before after)
    (quiet : deployment.bank.Quiet) {other : String} (different : other ≠ id) :
    after.store.succeeded other = before.store.succeeded other := by
  rw [MemoryStore.succeeded, takes.record?_eq quiet other, if_neg different,
    MemoryStore.succeeded]

end Visit.Takes

/-- An undisturbed move adds as many executions for an authorisation as it adds successes. -/
theorem countP_executed_make (deployment : Deployment) (quiet : deployment.bank.Quiet)
    {before : World MemoryStore} (distinct : before.store.Distinct) (move : Move)
    (id : String) :
    let passage : Passage := ⟨move, before, deployment.make before move⟩
    (if (passage.request? id).isSome then passage.calls.countP Exchange.executed else 0) +
      (before.store.succeeded id).toNat = (passage.after.store.succeeded id).toNat := by
  intro passage
  rcases (MemoryStore.settled_succeeded id).make deployment distinct move
    with ⟨same, unchanged⟩ | ⟨updated, request, now, visit, rfl, takes⟩
  · have mute : passage.calls = [] := Passage.calls_eq (by rw [same, List.append_nil])
    have unchanged : passage.after.store.succeeded id = before.store.succeeded id := unchanged
    rw [mute, unchanged]
    simp
  · have called : passage.calls = visit.exchanges :=
      Passage.calls_eq takes.state.exchanges_eq
    by_cases same : updated = id
    · subst same
      have requested : passage.request? updated = some request := by
        simp [Passage.request?, passage]
      rw [requested, called, takes.not_succeeded, takes.succeeded_eq quiet,
        takes.sound.ends.countP_executed]
      cases visit.verdict.succeeds <;> rfl
    · have unrequested : passage.request? id = none := by
        simp [Passage.request?, passage, same]
      rw [unrequested, takes.succeeded_of_ne quiet (Ne.symm same)]
      simp

theorem executions_eq_succeeded (deployment : Deployment) (quiet : deployment.bank.Quiet)
    (moves : List Move) (id : String) :
    executions id (deployment.history moves (.fresh .empty)) =
      ((deployment.play moves (.fresh .empty)).store.succeeded id).toNat := by
  have counted : (deployment.play moves (.fresh .empty)).store.Distinct ∧
      executions id (deployment.history moves (.fresh .empty)) =
        ((deployment.play moves (.fresh .empty)).store.succeeded id).toNat := by
    apply Deployment.history_induction (fun passages world => world.store.Distinct ∧
      executions id passages = (world.store.succeeded id).toNat) moves
    · exact ⟨List.nodup_nil, rfl⟩
    · rintro passages before move ⟨distinct, induction⟩
      refine ⟨deployment.distinct_make before move distinct, ?_⟩
      rw [executions_append, induction, Nat.add_comm]
      exact countP_executed_make deployment quiet distinct move id
  exact counted.2

theorem executed_exactly_once (deployment : Deployment) (quiet : deployment.bank.Quiet)
    (moves : List Move) (id : String) :
    executions id (deployment.history moves (.fresh .empty)) =
      if ((deployment.play moves (.fresh .empty)).store.record? id).any
        (·.status.isSuccessful) then 1 else 0 := by
  rw [executions_eq_succeeded deployment quiet moves id, MemoryStore.succeeded]
  split <;> simp_all

/-- A payment that is authorised with password and code. -/
def embeddedMoves : List Move :=
  let payment : Resource :=
    ⟨"payment", .payment, .payment .received, false, false, false, [], .epoch⟩
  let anna : Psu := ⟨some "anna", none, none, none, none⟩
  [.register payment, .start "first" "payment" none (some .embedded),
    .update "first" ⟨some anna, some "secret", none, none, none⟩,
    .update "first" ⟨none, none, none, some "123456", none⟩].map
    fun operation => .operate ⟨operation, .epoch⟩

theorem executed_once_with_code :
    SimulatedBank.standard.toBank.Quiet ∧
      executions "first" ((Deployment.simulated .standard).history embeddedMoves
        (.fresh .empty)) = 1 := by
  have quiet := SimulatedBank.standard.quiet
  refine ⟨quiet, ?_⟩
  rw [executed_exactly_once (.simulated .standard) quiet embeddedMoves "first"]
  exact if_pos (by decide +kernel)

end StrongAuth
