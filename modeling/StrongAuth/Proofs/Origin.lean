import StrongAuth.Proofs.History
import StrongAuth.Proofs.Visits

/-! # Where stored records come from

Main statement: a record that is stored after a move was stored before up to its version,
was opened by the move, was failed because it was overdue, or is the copy of a visit. -/

namespace StrongAuth

variable {store later : MemoryStore} {record : Authorisation} {id : String}
  {now : Time.Timestamp}

theorem Expires.record?_eq_some (expires : Expires now store later)
    (found : later.record? id = some record) :
    ∃ earlier, store.record? id = some earlier ∧ (record = earlier ∨
      earlier.isOverdue now = true ∧
        record = { earlier with status := .failed }.saved now) := by
  induction expires with
  | refl store => exact ⟨record, found, .inl rfl⟩
  | @step store final overdueRecord foundOverdue overdue rest induction =>
      have current : store.Current { overdueRecord with status := .failed } :=
        ⟨overdueRecord, foundOverdue, rfl⟩
      rcases induction found with ⟨earlier, foundEarlier, origin⟩
      rw [MemoryStore.record?_commit current] at foundEarlier
      by_cases same : id = overdueRecord.id
      · subst same
        rw [if_pos rfl] at foundEarlier
        cases foundEarlier
        refine ⟨overdueRecord, foundOverdue, .inr ⟨overdue, ?_⟩⟩
        rcases origin with unchanged | ⟨again, _⟩
        · exact unchanged
        · cases Authorisation.live_of_isOverdue again
      · rw [if_neg same] at foundEarlier
        exact ⟨earlier, foundEarlier, origin⟩

/-- Where a record that is stored after a move comes from. -/
inductive Origin (deployment : Deployment) (move : Move) (before after : World MemoryStore)
    (id : String) (record : Authorisation) : Prop
  | kept (earlier : Authorisation) (found : before.store.record? id = some earlier)
      (same : record = { earlier with version := record.version })
  | opened (step : Step) (operated : move = .operate step) (newId : String)
      (resource : Resource) (psu : Option Psu) (preferred : Option Approach)
      (opening : Opening deployment.node step.now newId resource
        (psu.filter fun psu => !psu.isEmpty) preferred before.store record)
      (operation : step.operation = .start newId resource.id psu preferred)
  | failed (earlier : Authorisation) (found : before.store.record? id = some earlier)
      (live : earlier.status.isTerminal = false) (failed : record.status = .failed)
      (same : record = { earlier with
        status := .failed, updated := record.updated, version := record.version })
  | visited (request : Request) (now : Time.Timestamp)
      (operated : move = .operate ⟨.update id request, now⟩) (visit : Visit)
      (takes : visit.Takes deployment id request now before after) (draft : Authorisation)
      (drafted : visit.draft? deployment.node.policy = some draft)
      (saved : record = draft.saved now)

namespace Deployment

theorem origin_of_record? (deployment : Deployment) (move : Move) (before : World MemoryStore)
    (found : (deployment.make before move).store.record? id = some record) :
    Origin deployment move before (deployment.make before move) id record := by
  generalize made : deployment.make before move = after at found ⊢
  have unchanged (same : after.store.record? id = before.store.record? id) :
      Origin deployment move before after id record :=
    .kept record (same.symm.trans found) rfl
  have raised (version : Authorisation → Int64) (finds : some record =
      (before.store.record? id).map fun record => { record with version := version record }) :
      Origin deployment move before after id record := by
    rcases Option.map_eq_some_iff.mp finds.symm with ⟨earlier, foundEarlier, rfl⟩
    exact .kept earlier foundEarlier rfl
  cases move with
  | outside interference =>
      subst made
      rcases MemoryStore.record?_interfere before.store interference id with ⟨version, finds⟩
      exact raised version (found.symm.trans finds)
  | operate step =>
      have course : Course deployment step before after := by
        subst made
        exact deployment.perform_course step before
      cases course with
      | idle state => exact unchanged (by rw [state.store_eq])
      | registered resource operation state =>
          apply unchanged
          simp [state.store_eq, MemoryStore.record?]
      | opened newId resource psu preferred opened operation opening state =>
          rw [state.store_eq, MemoryStore.record?_append opening.unknown] at found
          by_cases same : id = opened.id
          · rw [if_pos same] at found
            cases found
            exact .opened step rfl newId resource psu preferred opening operation
          · rw [if_neg same] at found
            exact .kept record found rfl
      | expired ages =>
          rcases ages.expires.record?_eq_some found with ⟨earlier, foundEarlier, origin⟩
          rcases origin with rfl | ⟨overdue, rfl⟩
          · exact .kept record foundEarlier rfl
          · exact .failed earlier foundEarlier (Authorisation.live_of_isOverdue overdue) rfl rfl
      | projected parent state => exact unchanged (by simp [state.store_eq])
      | visited updated request visit operation takes =>
          rcases step with ⟨_, now⟩
          cases operation
          rcases MemoryStore.record?_foldl_interfere before.store visit.interference id
            with ⟨version, finds⟩
          rw [takes.state.store_eq] at found
          cases drafted : visit.draft? deployment.node.policy with
          | none =>
              rw [drafted] at found
              exact raised version (found.symm.trans finds)
          | some draft =>
              rw [drafted] at found
              change ((visit.interference.foldl Store.interfere before.store).commit now
                draft).record? id = _ at found
              by_cases current :
                (visit.interference.foldl Store.interfere before.store).Current draft
              · rw [MemoryStore.record?_commit current, takes.draft_id drafted] at found
                by_cases same : id = updated
                · subst same
                  rw [if_pos rfl] at found
                  cases found
                  exact .visited request now rfl visit takes draft drafted rfl
                · rw [if_neg same] at found
                  exact raised version (found.symm.trans finds)
              · rw [MemoryStore.commit_of_not_current current] at found
                exact raised version (found.symm.trans finds)

/-- What holds of opened and of failed records, is kept while others act, and is kept by
visits, holds of every stored record and the history that led to it. -/
theorem record_induction (holds : List Passage → String → Authorisation → Prop)
    (deployment : Deployment) (moves : List Move)
    (opened : ∀ passages id record, record.status = .received → holds passages id record)
    (failed : ∀ passages id record, record.status = .failed → holds passages id record)
    (kept : ∀ passages others id record version, holds passages id record →
      holds (passages ++ others) id { record with version })
    (visited : ∀ passages before after id request now visit draft,
      Visit.Takes visit deployment id request now before after →
      visit.draft? deployment.node.policy = some draft → holds passages id visit.record →
      holds (passages ++ [⟨.operate ⟨.update id request, now⟩, before, after⟩]) id
        (draft.saved now))
    (found : (deployment.play moves (.fresh .empty)).store.record? id = some record) :
    holds (deployment.history moves (.fresh .empty)) id record := by
  have all : ∀ id record,
      (deployment.play moves (.fresh .empty)).store.record? id = some record →
      holds (deployment.history moves (.fresh .empty)) id record := by
    apply history_induction (fun passages world => ∀ id record,
      world.store.record? id = some record → holds passages id record) moves
    · intro id record found
      cases found
    · intro passages before move induction id record found
      cases deployment.origin_of_record? move before found with
      | kept earlier foundEarlier same =>
          rw [same]
          exact kept passages _ id earlier record.version (induction id earlier foundEarlier)
      | opened step operated newId resource psu preferred opening =>
          exact opened _ id record opening.received
      | failed earlier foundEarlier live status same => exact failed _ id record status
      | visited request now operated visit takes draft drafted saved =>
          subst operated saved
          exact visited passages _ _ id request now visit draft takes drafted
            (induction id visit.record takes.found)
  exact all id record found

/-! ## Calls -/

theorem visit_of_call (deployment : Deployment) (step : Step) (before : World MemoryStore)
    {exchange : Exchange} (called : exchange ∈
      Passage.calls ⟨.operate step, before, deployment.make before (.operate step)⟩) :
    ∃ id request visit, step.operation = .update id request ∧
      Visit.Takes visit deployment id request step.now before
        (deployment.make before (.operate step)) ∧
      exchange ∈ visit.exchanges := by
  have course : Course deployment step before (deployment.make before (.operate step)) :=
    deployment.perform_course step before
  generalize deployment.make before (.operate step) = after at course called ⊢
  have silent (same : after.exchanges = before.exchanges) : False := by
    have mute : Passage.calls ⟨.operate step, before, after⟩ = [] :=
      Passage.calls_eq (by rw [same, List.append_nil])
    rw [mute] at called
    cases called
  cases course with
  | idle state => exact (silent state.exchanges_eq).elim
  | registered resource operation state => exact (silent state.exchanges_eq).elim
  | opened newId resource psu preferred record operation opening state =>
      exact (silent state.exchanges_eq).elim
  | expired ages => exact (silent ages.silent).elim
  | projected parent state => exact (silent state.exchanges_eq).elim
  | visited id request visit operation takes =>
      rw [Passage.calls_eq takes.state.exchanges_eq] at called
      exact ⟨id, request, visit, operation, takes, called⟩

end Deployment

end StrongAuth
