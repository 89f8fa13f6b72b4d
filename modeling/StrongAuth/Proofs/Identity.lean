import StrongAuth.Proofs.Factors

/-! # What is known of the PSU

The identity check of a multilevel resource admits known PSUs that may sign and have not
signed yet, and it admits everyone of whom nothing is known. Main statement: a successful
authorisation that knows of no PSU was taken on by a report of the bank that named nobody. -/

namespace StrongAuth

/-! ## The identity check -/

namespace Check

variable {candidate : Candidate}

/-- A known PSU that passes the identity check of a multilevel resource may sign and has not
signed yet. -/
theorem entitled_of_identityObjection (passes : identityObjection candidate = none)
    (multilevel : candidate.resource.multilevel = true) {psu : Psu}
    (known : candidate.record.psu.or candidate.request.submittedPsu = some psu) :
    candidate.resource.acceptsSigner psu = true ∧
      ∀ sibling ∈ candidate.siblings, sibling.id ≠ candidate.record.id →
        sibling.status.isSuccessful = true → sibling.isOf psu = false := by
  unfold identityObjection at passes
  dsimp only at passes
  rw [multilevel, known] at passes
  split at passes
  · cases passes
  · rw [if_neg (by simp)] at passes
    dsimp only at passes
    split at passes
    · cases passes
    · next accepted =>
        split at passes
        · cases passes
        · next unsigned =>
            refine ⟨by simpa using accepted, ?_⟩
            intro sibling member other successful
            cases signed : sibling.isOf psu with
            | false => rfl
            | true =>
                exact absurd (List.any_eq_true.mpr ⟨sibling, member, by simp [*]⟩) unsigned

theorem identityObjection_eq_none {checks : List Check} (checked : .identity ∈ checks)
    (admitted : firstObjection checks candidate = none) : identityObjection candidate = none :=
  List.findSome?_eq_none_iff.mp admitted .identity checked

end Check

/-! ## Authorisations that know of no PSU -/

/-- The bank reports the first factor, and neither the record nor the request knows of a
PSU. -/
structure Unidentified (request : Request) (record : Authorisation) : Prop where
  confirmed : request.bankOutcome = some .confirmed
  external : record.approach ≠ .embedded
  early : record.status = .received ∨ record.status = .psuIdentified
  unknown : record.psu.or request.submittedPsu = none

namespace Stage

open Dialogue

variable {input : Input} {record : Authorisation}

/-- A copy that knows of no PSU advances from the first stages by the bank's report only. -/
def Identifies (input : Input) (record : Authorisation) (verdict : Verdict) : Prop :=
  ∀ status, verdict.outcome = .advance status → verdict.record.psu = none →
    2 ≤ record.status.rank ∨ Unidentified input.request record

theorem Identifies.of_not_advance {input : Input} {record : Authorisation} {verdict : Verdict}
    (stays : ∀ status, verdict.outcome ≠ .advance status) : Identifies input record verdict :=
  fun status advances => absurd advances (stays status)

theorem Copies.unknown {request : Request} {copy : Authorisation}
    (copies : Copies request record copy) (unknown : copy.psu = none) : record.psu = none := by
  rcases copies.psu with same | bound
  · rw [← same, unknown]
  · rw [bound] at unknown
    exact (Option.or_eq_none_iff.mp unknown).1

theorem Copies.known {request : Request} {copy : Authorisation} {psu : Psu}
    (copies : Copies request record copy) (known : copy.psu = some psu) :
    record.psu.or request.submittedPsu = some psu := by
  rcases copies.psu with same | bound
  · rw [← same, known]
    rfl
  · exact bound.symm.trans known

theorem authenticate_identifies (external : input.evidence = .ofApproach record.approach)
    (early : record.status = .received ∨ record.status = .psuIdentified) :
    Ensures (authenticate input record) fun _ verdict => Identifies input record verdict := by
  simp only [authenticate]
  rw [external]
  let copy := { record with psu := record.psu.or input.request.submittedPsu }
  have low : copy.status.rank ≤ 2 := by
    change record.status.rank ≤ 2
    rcases early with status | status <;> simp [status, Status.rank]
  have live : copy.status.isTerminal = false := by
    change record.status.isTerminal = false
    rcases early with status | status <;> simp [status, Status.isTerminal]
  have unidentified {exchanges : List Exchange} {verdict : Verdict}
      (sound : Sound input copy exchanges verdict) (unknown : verdict.record.psu = none) :
      copy.psu = none :=
    sound.copies.unknown unknown
  cases evidence : (EvidenceSource.ofApproach record.approach).authentication input.request with
  | none =>
      dsimp only
      split
      · exact .of_not_advance (by simp)
      · next known =>
          split
          · intro status advances unknown
            exact absurd (Option.isNone_iff_eq_none.mpr unknown) known
          · exact .of_not_advance (by simp)
  | some proof =>
      rcases EvidenceSource.authentication_eq_some evidence
        with ⟨password, rfl⟩ | ⟨outcome, rfl, reported, outside⟩
      · dsimp only
        split
        · exact .of_not_advance (by simp)
        · next known =>
            rw [ensures_consult]
            intro answer
            rcases answer with fault | _ | _ | _ | _
            · exact .of_not_advance (by simp [bankFailed])
            · apply (afterAuthentication_sound low).mono
              intro exchanges verdict sound status advances unknown
              exact absurd (Option.isNone_iff_eq_none.mpr (unidentified sound unknown)) known
            · apply (exempt_sound live).mono
              intro exchanges verdict sound status advances unknown
              exact absurd (Option.isNone_iff_eq_none.mpr (unidentified sound unknown)) known
            · exact .of_not_advance (attemptFailed_ne_advance _)
            · exact .of_not_advance (by simp)
      · cases outcome with
        | confirmed =>
            apply (afterAuthentication_sound low).mono
            intro exchanges verdict sound status advances unknown
            exact .inr ⟨reported, outside, early, unidentified sound unknown⟩
        | rejected => exact .of_not_advance (by simp)

theorem handle_identifies (external : input.evidence = .ofApproach record.approach) :
    Ensures (handle record.status input record) fun _ verdict =>
      Identifies input record verdict := by
  have later (passed : 2 ≤ record.status.rank) (dialogue : Dialogue Verdict) :
      Ensures dialogue fun _ verdict => Identifies input record verdict :=
    ensures_of_forall (fun _ _ _ _ _ => .inl passed) dialogue
  cases status : record.status with
  | received => exact authenticate_identifies external (.inl status)
  | psuIdentified => exact authenticate_identifies external (.inr status)
  | psuAuthenticated => exact later (by simp [status, Status.rank]) _
  | scaMethodSelected => exact later (by simp [status, Status.rank]) _
  | finalised => exact later (by simp [status, Status.rank]) _
  | failed => exact later (by simp [status, Status.rank]) _
  | exempted => exact later (by simp [status, Status.rank]) _

end Stage

/-! ## Runs -/

namespace Deployment

/-- An authorisation that has gone on without knowing of a PSU was taken on by the bank's
report. -/
theorem unidentified_of_unknown (deployment : Deployment) (moves : List Move) {id : String}
    {record : Authorisation}
    (found : (deployment.play moves (.fresh .empty)).store.record? id = some record)
    (unknown : record.psu = none) (successful : record.status.isSuccessful = true) :
    HasUpdate id (deployment.history moves (.fresh .empty))
      fun request earlier _ _ => Unidentified request earlier := by
  have complete := Status.passed_of_isSuccessful successful
  revert unknown complete
  apply record_induction (fun passages id record => record.psu = none →
    2 ≤ record.status.rank ∧ record.status ≠ .failed →
    HasUpdate id passages fun request earlier _ _ => Unidentified request earlier)
    deployment moves
  · intro passages id record received unknown late
    simp [received, Status.rank] at late
  · intro passages id record failed unknown late
    exact absurd failed late.2
  · intro passages others id record version reported unknown late
    exact (reported unknown late).append others
  · intro passages before after id request now visit draft takes drafted reported unknown late
    have unknownBefore : visit.record.psu = none := (takes.draft_copies drafted).unknown unknown
    rcases Stage.Verdict.draft?_cases drafted with ⟨status, rfl, rfl | rfl | advances⟩
    · exact (reported unknownBefore late).append _
    · exact absurd rfl late.2
    · have identifies := (Stage.handle_identifies rfl).of_yields takes.yields
      rcases identifies status advances unknown with passed | unidentified
      · exact (reported unknownBefore ⟨passed, takes.ne_failed⟩).append _
      · exact takes.hasUpdate passages unidentified
  · exact found

end Deployment

end StrongAuth
