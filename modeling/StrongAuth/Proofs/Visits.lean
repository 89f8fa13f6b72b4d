import StrongAuth.Proofs.Course
import StrongAuth.Proofs.Stage

/-! # What a visit leaves behind

The copy that a verdict asks to store is the record with another status and other working
data; it is successful exactly if the verdict is. If nobody else uses the store meanwhile,
the copy is stored. -/

namespace StrongAuth

namespace Stage

variable {input : Input} {record draft : Authorisation} {exchanges : List Exchange}
  {verdict : Verdict}

theorem Verdict.draft?_cases {policy : ExemptionPolicy} {earlier : Status}
    (drafted : verdict.draft? policy earlier = some draft) :
    ∃ status, draft = { verdict.record with status } ∧
      (status = earlier ∨ status = .failed ∨ verdict.outcome = .advance status) := by
  unfold Verdict.draft? at drafted
  cases outcome : verdict.outcome with
  | advance status =>
      rw [outcome] at drafted
      dsimp only at drafted
      split at drafted
      · cases drafted
        exact ⟨status, rfl, .inr (.inr rfl)⟩
      · cases drafted
  | refuse refusal =>
      rw [outcome] at drafted
      cases drafted
  | retry refusal =>
      rw [outcome] at drafted
      cases drafted
      exact ⟨earlier, rfl, .inl rfl⟩
  | fail refusal =>
      rw [outcome] at drafted
      cases drafted
      exact ⟨.failed, rfl, .inr (.inl rfl)⟩

namespace Sound

theorem draft_copies (sound : Sound input record exchanges verdict)
    (drafted : verdict.draft? input.policy.exemption record.status = some draft) :
    Copies input.request { record with status := draft.status } draft := by
  rcases Verdict.draft?_cases drafted with ⟨status, rfl, _⟩
  constructor
  · dsimp only
    rw [sound.copies.kept]
  · exact sound.copies.psu

theorem draft_isSuccessful (sound : Sound input record exchanges verdict)
    (live : record.status.isTerminal = false) :
    (verdict.draft? input.policy.exemption record.status).any (·.status.isSuccessful) =
      verdict.succeeds := by
  unfold Verdict.draft? Verdict.succeeds
  cases outcome : verdict.outcome with
  | advance status =>
      dsimp only
      rw [sound.accepted status outcome]
      rfl
  | refuse refusal => rfl
  | retry refusal =>
      cases successful : record.status.isSuccessful with
      | false => exact successful
      | true =>
          rw [Status.isTerminal_of_isSuccessful successful] at live
          cases live
  | fail refusal => rfl

end Sound

end Stage

namespace Visit.Takes

variable {deployment : Deployment} {id : String} {request : Request} {now : Time.Timestamp}
  {before after : World MemoryStore} {visit : Visit} {draft : Authorisation}

theorem sound (takes : visit.Takes deployment id request now before after) :
    Stage.Sound (visit.input deployment.node.policy request) visit.record visit.exchanges
      visit.verdict :=
  (Stage.handle_sound _ _).of_yields takes.yields

theorem ne_failed (takes : visit.Takes deployment id request now before after) :
    visit.record.status ≠ .failed := by
  intro failed
  have live := takes.live
  rw [failed] at live
  cases live

theorem id_eq (takes : visit.Takes deployment id request now before after) :
    visit.record.id = id :=
  (MemoryStore.mem_of_record? takes.found).2

theorem draft_copies (takes : visit.Takes deployment id request now before after)
    (drafted : visit.draft? deployment.node.policy = some draft) :
    Stage.Copies request { visit.record with status := draft.status } draft :=
  takes.sound.draft_copies drafted

theorem draft_id (takes : visit.Takes deployment id request now before after)
    (drafted : visit.draft? deployment.node.policy = some draft) : draft.id = id :=
  (takes.draft_copies drafted).id_eq.trans takes.id_eq

/-! ## Without interference -/

theorem store_eq (takes : visit.Takes deployment id request now before after)
    (quiet : deployment.bank.Quiet) :
    after.store = before.store.commit? now (visit.draft? deployment.node.policy) := by
  have state := takes.state.store_eq
  rw [takes.undisturbed quiet] at state
  exact state

theorem current (takes : visit.Takes deployment id request now before after)
    (drafted : visit.draft? deployment.node.policy = some draft) :
    before.store.Current draft := by
  have copies := takes.draft_copies drafted
  refine ⟨visit.record, ?_, copies.version_eq.symm⟩
  rw [takes.draft_id drafted]
  exact takes.found

theorem record?_eq (takes : visit.Takes deployment id request now before after)
    (quiet : deployment.bank.Quiet) (other : String) :
    after.store.record? other =
      if other = id then
        ((visit.draft? deployment.node.policy).map (·.saved now)).or (some visit.record)
      else before.store.record? other := by
  rw [takes.store_eq quiet]
  cases drafted : visit.draft? deployment.node.policy with
  | none =>
      by_cases same : other = id
      · rw [if_pos same, same]
        exact takes.found
      · rw [if_neg same]
        rfl
  | some draft =>
      change (before.store.commit now draft).record? other = _
      rw [MemoryStore.record?_commit (takes.current drafted), takes.draft_id drafted]
      rfl

end Visit.Takes

end StrongAuth
