import StrongAuth.Proofs.Conversation
import StrongAuth.Stage

/-! # What every stage keeps to

Main statement: whatever the bank answers, a stage changes only the working data of its
copy, asks about its own resource only, advances to statuses that the transition table
accepts, and has the operation executed by its last call, if at all, and exactly if it
completes the authorisation. -/

namespace StrongAuth

def Exchange.executed (exchange : Exchange) : Bool :=
  exchange.call.query == .execute && exchange.succeeded

namespace Stage

/-- A copy in which a stage has changed at most the PSU and the data of the dialogue. -/
structure Copies (request : Request) (record copy : Authorisation) : Prop where
  kept : copy = { record with
    psu := copy.psu
    chosen := copy.chosen
    offered := copy.offered
    challenge := copy.challenge
    codeHash := copy.codeHash
    bankData := copy.bankData
    failedAttempts := copy.failedAttempts }
  psu : copy.psu = record.psu ∨ copy.psu = record.psu.or request.submittedPsu

namespace Copies

variable {request : Request} {record copy : Authorisation}

theorem refl (request : Request) (record : Authorisation) : Copies request record record :=
  ⟨rfl, .inl rfl⟩

theorem trans {later : Authorisation} (first : Copies request record copy)
    (second : Copies request copy later) : Copies request record later := by
  constructor
  · rw [second.kept, first.kept]
  · rcases second.psu with same | bound
    · rw [same]
      exact first.psu
    · rw [bound]
      rcases first.psu with same | bound
      · exact .inr (by rw [same])
      · exact .inr (by rw [bound, Option.or_assoc, Option.or_self])

theorem id_eq (copies : Copies request record copy) : copy.id = record.id := by
  rw [copies.kept]

theorem parent_eq (copies : Copies request record copy) : copy.parent = record.parent := by
  rw [copies.kept]

theorem status_eq (copies : Copies request record copy) : copy.status = record.status := by
  rw [copies.kept]

theorem version_eq (copies : Copies request record copy) : copy.version = record.version := by
  rw [copies.kept]

end Copies

def Verdict.succeeds (verdict : Verdict) : Bool :=
  match verdict.outcome with
  | .advance status => status.isSuccessful
  | _ => false

/-- The operation is executed by the last exchange, if at all, and the flag tells whether
it was. -/
inductive Ends : List Exchange → Bool → Prop
  | silent : Ends [] false
  | last (exchange : Exchange) (execute : exchange.call.query = .execute) :
      Ends [exchange] exchange.succeeded
  | before (first : Exchange) (other : first.call.query ≠ .execute) {rest : List Exchange}
      {succeeds : Bool} (ends : Ends rest succeeds) : Ends (first :: rest) succeeds

theorem Ends.countP_executed {exchanges : List Exchange} {succeeds : Bool}
    (ends : Ends exchanges succeeds) :
    exchanges.countP Exchange.executed = if succeeds then 1 else 0 := by
  induction ends with
  | silent => rfl
  | last exchange execute => simp [List.countP_cons, Exchange.executed, execute]
  | before first other ends induction =>
      simp [Exchange.executed, other, induction]

structure Sound (input : Input) (record : Authorisation) (exchanges : List Exchange)
    (verdict : Verdict) : Prop where
  copies : Copies input.request record verdict.record
  addressed : ∀ exchange ∈ exchanges, exchange.call.resource = input.resource
  accepted : ∀ status, verdict.outcome = .advance status →
    Status.check input.policy.exemption record.status status = .ok ()
  ends : Ends exchanges verdict.succeeds

namespace Sound

variable {input : Input} {record copy : Authorisation} {exchanges : List Exchange}
  {verdict : Verdict}

theorem of_not_advance (copies : Copies input.request record verdict.record)
    (stays : ∀ status, verdict.outcome ≠ .advance status) :
    Sound input record [] verdict := by
  refine ⟨copies, by simp, fun status advances => absurd advances (stays status), ?_⟩
  have incomplete : verdict.succeeds = false := by
    unfold Verdict.succeeds
    split
    · exact absurd ‹_› (stays _)
    · rfl
  rw [incomplete]
  exact .silent

theorem of_advance {status : Status} (copies : Copies input.request record copy)
    (accepted : Status.check input.policy.exemption record.status status = .ok ())
    (live : status.isTerminal = false) :
    Sound input record [] ⟨.advance status, copy⟩ := by
  refine ⟨copies, by simp, ?_, ?_⟩
  · intro later advances
    cases advances
    exact accepted
  · have incomplete : Verdict.succeeds ⟨.advance status, copy⟩ = false := by
      cases status <;> simp_all [Verdict.succeeds, Status.isTerminal, Status.isSuccessful]
    rw [incomplete]
    exact .silent

/-- A call other than the execution may come first. -/
theorem after (sound : Sound input copy exchanges verdict)
    (copies : Copies input.request record copy) (first : Exchange)
    (other : first.call.query ≠ .execute) (addressed : first.call.resource = input.resource) :
    Sound input record (first :: exchanges) verdict where
  copies := copies.trans sound.copies
  addressed exchange member := by
    rcases List.mem_cons.mp member with rfl | member
    · exact addressed
    · exact sound.addressed exchange member
  accepted status advances := by
    rw [← copies.status_eq]
    exact sound.accepted status advances
  ends := .before first other sound.ends

theorem of_copy (sound : Sound input copy exchanges verdict)
    (copies : Copies input.request record copy) : Sound input record exchanges verdict where
  copies := copies.trans sound.copies
  addressed := sound.addressed
  accepted status advances := by
    rw [← copies.status_eq]
    exact sound.accepted status advances
  ends := sound.ends

end Sound

/-! ## Stage by stage -/

open Dialogue

variable {input : Input} {record : Authorisation}

theorem ensures_consult {α : Type} (query : Query)
    (next : Except BankFault query.task.Answer → Dialogue α)
    (required : List Exchange → α → Prop) :
    Ensures (consult input record query >>= next) required ↔ ∀ answer,
      Ensures (next answer) fun exchanges => required
        (⟨⟨query, record.knownPsu, input.resource, record.bankData⟩, answer⟩ :: exchanges) :=
  Iff.rfl

theorem bankFailed_sound (task : Task) (fault : BankFault) :
    Sound input record [] (bankFailed record task fault) :=
  .of_not_advance (.refl _ _) (by simp [bankFailed])

theorem refuse_sound (refusal : Refusal) : Sound input record [] ⟨.refuse refusal, record⟩ :=
  .of_not_advance (.refl _ _) (by simp)

theorem fail_sound (refusal : Refusal) : Sound input record [] ⟨.fail refusal, record⟩ :=
  .of_not_advance (.refl _ _) (by simp)

theorem attemptFailed_sound (factor : Factor) :
    Sound input record [] (attemptFailed input record factor) := by
  simp only [attemptFailed]
  split
  · exact .of_not_advance ⟨rfl, .inl rfl⟩ (by simp)
  · exact .of_not_advance ⟨rfl, .inl rfl⟩ (by simp)

theorem finalise_sound {status : Status} (successful : status.isSuccessful = true)
    (accepted : Status.check input.policy.exemption record.status status = .ok ()) :
    Ensures (finalise input record status) (Sound input record) := by
  unfold finalise
  rw [ensures_consult]
  intro answer
  cases answer with
  | ok done =>
      refine ⟨.refl _ _, by simp, ?_, ?_⟩
      · intro later advances
        cases advances
        exact accepted
      · have completed : Verdict.succeeds ⟨.advance status, record⟩ = true := successful
        rw [completed]
        exact .last _ rfl
  | error fault =>
      refine ⟨.refl _ _, by simp, ?_, .last _ rfl⟩
      intro later advances
      cases advances

theorem exempt_sound (live : record.status.isTerminal = false) :
    Ensures (exempt input record) (Sound input record) := by
  apply finalise_sound
  · split <;> rfl
  · rw [Status.check_eq_ok_iff]
    cases allowed : input.policy.exemption.allowsFrom record.status <;>
      simp [Status.transitionFault?, live, allowed]

theorem issueChallenge_sound (live : record.status.isTerminal = false) (method : Method) :
    Ensures (issueChallenge input record method) (Sound input record) := by
  unfold issueChallenge
  cases chosen : record.choose method with
  | error earlier => exact refuse_sound _
  | ok copy =>
      have copies : Copies input.request record copy := by
        unfold Authorisation.choose at chosen
        split at chosen
        · cases chosen
        · cases chosen
          exact ⟨rfl, .inl rfl⟩
      dsimp only
      rw [ensures_consult]
      intro answer
      cases answer with
      | error fault => exact (bankFailed_sound _ fault).after copies _ (by simp) rfl
      | ok grant =>
          dsimp only
          split
          · apply (exempt_sound (by simpa [copies.status_eq] using live)).mono
            intro exchanges verdict sound
            exact sound.after (copies.trans ⟨rfl, .inl rfl⟩) _ (by simp) rfl
          · refine (Sound.of_advance ?_ ?_ rfl).after (.refl _ _) _ (by simp) rfl
            · exact copies.trans ⟨rfl, .inl rfl⟩
            · rw [Status.check_eq_ok_iff]
              cases status : record.status <;>
                simp_all [Status.transitionFault?, Status.isTerminal, Status.rank]

theorem offerMethods_sound (early : record.status.rank ≤ 2) :
    Ensures (offerMethods input record) (Sound input record) := by
  have live : record.status.isTerminal = false := by
    cases status : record.status <;> simp_all [Status.isTerminal, Status.rank]
  have toFinalised : Status.check input.policy.exemption record.status .finalised = .ok () := by
    simp [Status.check_eq_ok_iff, Status.transitionFault?, live]
  unfold offerMethods
  rw [ensures_consult]
  intro answer
  rcases answer with fault | _ | ⟨method, _ | ⟨second, others⟩⟩
  · exact (bankFailed_sound _ fault).after (.refl _ _) _ (by simp) rfl
  · dsimp only
    split
    · apply (finalise_sound rfl toFinalised).mono
      intro exchanges verdict sound
      exact sound.after (.refl _ _) _ (by simp) rfl
    · exact (fail_sound _).after (.refl _ _) _ (by simp) rfl
  · apply (issueChallenge_sound (by simpa using live) method).mono
    intro exchanges verdict sound
    exact sound.after ⟨rfl, .inl rfl⟩ _ (by simp) rfl
  · rw [ensures_pure]
    refine (Sound.of_advance ?_ ?_ rfl).after (.refl _ _) _ (by simp) rfl
    · exact ⟨rfl, .inl rfl⟩
    · have forward : ¬ Status.psuAuthenticated.rank < record.status.rank :=
        Nat.not_lt.mpr early
      simp [Status.check_eq_ok_iff, Status.transitionFault?, live, forward]

theorem afterAuthentication_sound (early : record.status.rank ≤ 2) :
    Ensures (afterAuthentication input record) (Sound input record) := by
  have live : record.status.isTerminal = false := by
    cases status : record.status <;> simp_all [Status.isTerminal, Status.rank]
  simp only [afterAuthentication]
  split
  · apply (finalise_sound rfl ?_).mono
    · intro exchanges verdict sound
      exact sound.of_copy ⟨rfl, .inl rfl⟩
    · simp [Status.check_eq_ok_iff, Status.transitionFault?, live]
  · apply (offerMethods_sound (by simpa using early)).mono
    intro exchanges verdict sound
    exact sound.of_copy ⟨rfl, .inl rfl⟩

theorem authenticate_sound
    (unproven : record.status = .received ∨ record.status = .psuIdentified) :
    Ensures (authenticate input record) (Sound input record) := by
  simp only [authenticate]
  let copy := { record with psu := record.psu.or input.request.submittedPsu }
  have copies : Copies input.request record copy := ⟨rfl, .inr rfl⟩
  have early : copy.status.rank ≤ 2 := by
    change record.status.rank ≤ 2
    rcases unproven with status | status <;> simp [status, Status.rank]
  have live : copy.status.isTerminal = false := by
    change record.status.isTerminal = false
    rcases unproven with status | status <;> simp [status, Status.isTerminal]
  have refused (refusal : Refusal) :
      Ensures (pure ⟨.refuse refusal, copy⟩) (Sound input record) :=
    (refuse_sound refusal).of_copy copies
  rcases input.evidence.authentication input.request with _ | password | code | _ | _
  · dsimp only
    split
    · exact refused _
    · split
      · next received =>
          refine Sound.of_advance copies ?_ rfl
          change record.status = .received at received
          simp [Status.check_eq_ok_iff, Status.transitionFault?, received, Status.isTerminal,
            Status.rank]
      · exact refused _
  · dsimp only
    split
    · exact refused _
    · rw [ensures_consult]
      intro answer
      rcases answer with fault | _ | _ | _ | _
      · exact (bankFailed_sound _ fault).after copies _ (by simp) rfl
      · apply (afterAuthentication_sound early).mono
        intro exchanges verdict sound
        exact sound.after copies _ (by simp) rfl
      · apply (exempt_sound live).mono
        intro exchanges verdict sound
        exact sound.after copies _ (by simp) rfl
      · exact (attemptFailed_sound .first).after copies _ (by simp) rfl
      · exact (fail_sound _).after copies _ (by simp) rfl
  · exact refused _
  · apply (afterAuthentication_sound early).mono
    intro exchanges verdict sound
    exact sound.of_copy copies
  · exact (fail_sound _).of_copy copies

theorem selectMethod_sound (authenticated : record.status = .psuAuthenticated) :
    Ensures (selectMethod input record) (Sound input record) := by
  have live : record.status.isTerminal = false := by
    simp [authenticated, Status.isTerminal]
  unfold selectMethod
  split
  · exact offerMethods_sound (by simp [authenticated, Status.rank])
  · split
    · exact refuse_sound _
    · split
      · exact issueChallenge_sound live _
      · exact refuse_sound _

theorem confirmCode_sound (live : record.status.isTerminal = false) (code : String) :
    Ensures (confirmCode input record code) (Sound input record) := by
  have toFinalised : Status.check input.policy.exemption record.status .finalised = .ok () := by
    simp [Status.check_eq_ok_iff, Status.transitionFault?, live]
  unfold confirmCode
  split
  · split
    · exact finalise_sound rfl toFinalised
    · exact fail_sound _
  · rw [ensures_consult]
    intro answer
    rcases answer with fault | _ | _ | _ | _
    · exact (bankFailed_sound _ fault).after (.refl _ _) _ (by simp) rfl
    · apply (finalise_sound rfl toFinalised).mono
      intro exchanges verdict sound
      exact sound.after (.refl _ _) _ (by simp) rfl
    · apply (exempt_sound live).mono
      intro exchanges verdict sound
      exact sound.after (.refl _ _) _ (by simp) rfl
    · exact (attemptFailed_sound .second).after (.refl _ _) _ (by simp) rfl
    · exact (fail_sound _).after (.refl _ _) _ (by simp) rfl

theorem confirm_sound (live : record.status.isTerminal = false) :
    Ensures (confirm input record) (Sound input record) := by
  unfold confirm
  rcases input.evidence.confirmation record input.request with _ | password | code | _ | _
  · dsimp only
    split
    · exact refuse_sound _
    · exact refuse_sound _
  · exact refuse_sound _
  · exact confirmCode_sound live code
  · apply finalise_sound rfl
    simp [Status.check_eq_ok_iff, Status.transitionFault?, live]
  · exact fail_sound _

theorem handle_sound (input : Input) (record : Authorisation) :
    Ensures (handle record.status input record) (Sound input record) := by
  cases status : record.status with
  | received => exact authenticate_sound (.inl status)
  | psuIdentified => exact authenticate_sound (.inr status)
  | psuAuthenticated => exact selectMethod_sound status
  | scaMethodSelected => exact confirm_sound (by simp [status, Status.isTerminal])
  | finalised => exact refuse_sound _
  | failed => exact refuse_sound _
  | exempted => exact refuse_sound _

end Stage

end StrongAuth
