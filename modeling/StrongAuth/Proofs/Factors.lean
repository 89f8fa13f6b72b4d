import StrongAuth.Proofs.Origin

/-! # No success without both factors

Main statement: whatever the bank answers and others do to the store, the updates on an
authorisation that is finalised or exempted contain a proof of the first factor, and one of
the second factor or a waiver of it. -/

namespace StrongAuth

/-! ## Answers of the bank -/

namespace Exchange

def authentication? : Exchange → Option CheckOutcome
  | ⟨⟨.authenticate _, _, _, _⟩, .ok outcome⟩ => some outcome
  | _ => none

def offer? : Exchange → Option (List Method)
  | ⟨⟨.listMethods, _, _, _⟩, .ok methods⟩ => some methods
  | _ => none

def grant? : Exchange → Option CodeGrant
  | ⟨⟨.requestCode _, _, _, _⟩, .ok grant⟩ => some grant
  | _ => none

def confirmation? : Exchange → Option (String × CheckOutcome)
  | ⟨⟨.confirm code _, _, _, _⟩, .ok outcome⟩ => some (code, outcome)
  | _ => none

end Exchange

/-! ## Factors -/

/-- The first factor: the bank accepts a credential, or reports of its own check. -/
inductive FirstFactor (request : Request) (record : Authorisation) (exchanges : List Exchange) :
    Prop
  | credential (exchange : Exchange) (asked : exchange ∈ exchanges)
      (passed : exchange.authentication? = some .success ∨
        exchange.authentication? = some .exempted)
  | reported (confirmed : request.bankOutcome = some .confirmed)
      (external : record.approach ≠ .embedded)
      (early : record.status = .received ∨ record.status = .psuIdentified)

/-- The second factor is not needed. -/
inductive Waived (zeroMethods : ZeroMethods) (resource : Resource) (exchanges : List Exchange) :
    Prop
  | oneFactor (enough : resource.oneFactor = true)
  | noMethod (exchange : Exchange) (asked : exchange ∈ exchanges)
      (offered : exchange.offer? = some []) (lenient : zeroMethods = .finalise)
  | onAuthentication (exchange : Exchange) (asked : exchange ∈ exchanges)
      (exempted : exchange.authentication? = some .exempted)
  | onCodeRequest (exchange : Exchange) (asked : exchange ∈ exchanges)
      (exempted : exchange.grant?.any (·.exempted) = true)
  | onConfirmation (exchange : Exchange) (asked : exchange ∈ exchanges)
      (exempted : exchange.confirmation?.any (·.2 = .exempted) = true)

/-- The second factor: the bank accepts the submitted code, the code has the stored hash, or
the bank reports of its own check where no code is due. -/
inductive SecondFactor (request : Request) (record : Authorisation)
    (exchanges : List Exchange) : Prop
  | accepted (exchange : Exchange) (asked : exchange ∈ exchanges) (code : String)
      (submitted : request.code = some code)
      (passed : exchange.confirmation? = some (code, .success))
  | matched (code : String) (submitted : request.code = some code)
      (expected : record.codeHash = some (codeHash code))
  | reported (confirmed : request.bankOutcome = some .confirmed)
      (challenged : record.status = .scaMethodSelected)
      (external : record.approach ≠ .embedded ∨ record.chosen.any (·.decoupled) = true)

theorem Waived.cons {zeroMethods : ZeroMethods} {resource : Resource}
    {exchanges : List Exchange} (waived : Waived zeroMethods resource exchanges)
    (first : Exchange) : Waived zeroMethods resource (first :: exchanges) := by
  cases waived with
  | oneFactor enough => exact .oneFactor enough
  | noMethod exchange asked offered lenient =>
      exact .noMethod exchange (.tail _ asked) offered lenient
  | onAuthentication exchange asked exempted =>
      exact .onAuthentication exchange (.tail _ asked) exempted
  | onCodeRequest exchange asked exempted =>
      exact .onCodeRequest exchange (.tail _ asked) exempted
  | onConfirmation exchange asked exempted =>
      exact .onConfirmation exchange (.tail _ asked) exempted

/-! ## What evidence comes from -/

namespace Request

variable {request : Request} {evidence : Evidence}

theorem credentialEvidence_eq_some (found : request.credentialEvidence = some evidence) :
    ∃ password, evidence = .credential password := by
  rcases Option.map_eq_some_iff.mp found with ⟨password, _, rfl⟩
  exact ⟨password, rfl⟩

theorem codeEvidence_eq_some (found : request.codeEvidence = some evidence) :
    ∃ code, evidence = .code code ∧ request.code = some code := by
  rcases Option.map_eq_some_iff.mp found with ⟨code, kept, rfl⟩
  exact ⟨code, rfl, (Option.filter_eq_some_iff.mp kept).1⟩

theorem outcomeEvidence_eq_some (found : request.outcomeEvidence = some evidence) :
    ∃ outcome, evidence = .outcome outcome ∧ request.bankOutcome = some outcome := by
  rcases Option.map_eq_some_iff.mp found with ⟨outcome, reported, rfl⟩
  exact ⟨outcome, rfl, reported⟩

end Request

namespace EvidenceSource

variable {approach : Approach} {record : Authorisation} {request : Request}
  {evidence : Evidence}

/-- The first factor rests on a credential, or outside the embedded approach on a report. -/
theorem authentication_eq_some
    (found : (ofApproach approach).authentication request = some evidence) :
    (∃ password, evidence = .credential password) ∨
      ∃ outcome, evidence = .outcome outcome ∧ request.bankOutcome = some outcome ∧
        approach ≠ .embedded := by
  cases approach with
  | embedded => exact .inl (Request.credentialEvidence_eq_some found)
  | redirect =>
      rcases Request.outcomeEvidence_eq_some found with ⟨outcome, rfl, reported⟩
      exact .inr ⟨outcome, rfl, reported, by simp⟩
  | decoupled =>
      simp only [ofApproach, decoupled, Option.orElse_eq_orElse, Option.orElse_eq_or] at found
      rcases Option.or_eq_some_iff.mp found with found | ⟨_, found⟩
      · exact .inl (Request.credentialEvidence_eq_some found)
      · rcases Request.outcomeEvidence_eq_some found with ⟨outcome, rfl, reported⟩
        exact .inr ⟨outcome, rfl, reported, by simp⟩

/-- The second factor rests on a code, or on a report where the bank asks the PSU itself. -/
theorem confirmation_eq_some
    (found : (ofApproach approach).confirmation record request = some evidence) :
    (∃ code, evidence = .code code ∧ request.code = some code) ∨
      ∃ outcome, evidence = .outcome outcome ∧ request.bankOutcome = some outcome ∧
        (approach ≠ .embedded ∨ record.chosen.any (·.decoupled) = true) := by
  cases approach with
  | embedded =>
      simp only [ofApproach, embedded] at found
      split at found
      · next decoupled =>
          rcases Request.outcomeEvidence_eq_some found with ⟨outcome, rfl, reported⟩
          exact .inr ⟨outcome, rfl, reported, .inr decoupled⟩
      · exact .inl (Request.codeEvidence_eq_some found)
  | redirect =>
      simp only [ofApproach, redirect, Option.orElse_eq_orElse, Option.orElse_eq_or] at found
      rcases Option.or_eq_some_iff.mp found with found | ⟨_, found⟩
      · exact .inl (Request.codeEvidence_eq_some found)
      · rcases Request.outcomeEvidence_eq_some found with ⟨outcome, rfl, reported⟩
        exact .inr ⟨outcome, rfl, reported, .inl (by simp)⟩
  | decoupled =>
      rcases Request.outcomeEvidence_eq_some found with ⟨outcome, rfl, reported⟩
      exact .inr ⟨outcome, rfl, reported, .inl (by simp)⟩

end EvidenceSource

/-! ## Waivers, stage by stage -/

namespace Stage

open Dialogue

/-- A verdict that completes the authorisation without a second factor rests on a waiver. -/
def WaivedIfDone (input : Input) (exchanges : List Exchange) (verdict : Verdict) : Prop :=
  verdict.succeeds = true → Waived input.policy.zeroMethods input.resource exchanges

variable {input : Input} {record : Authorisation}

theorem issueChallenge_waived (method : Method) :
    Ensures (issueChallenge input record method) (WaivedIfDone input) := by
  unfold issueChallenge
  cases record.choose method with
  | error earlier => exact fun successful => nomatch successful
  | ok copy =>
      dsimp only
      rw [ensures_consult]
      intro answer
      cases answer with
      | error fault => exact fun successful => nomatch successful
      | ok grant =>
          dsimp only
          split
          · next exempted =>
              apply ensures_of_forall
              intro exchanges verdict _
              exact .onCodeRequest _ (.head _) exempted
          · exact fun successful => nomatch successful

theorem offerMethods_waived : Ensures (offerMethods input record) (WaivedIfDone input) := by
  unfold offerMethods
  rw [ensures_consult]
  intro answer
  rcases answer with fault | _ | ⟨method, _ | ⟨second, others⟩⟩
  · exact fun successful => nomatch successful
  · dsimp only
    cases lenient : input.policy.zeroMethods with
    | finalise =>
        apply ensures_of_forall
        intro exchanges verdict _
        exact .noMethod _ (.head _) rfl lenient
    | reject => exact fun successful => nomatch successful
  · apply (issueChallenge_waived method).mono
    intro exchanges verdict waived successful
    exact (waived successful).cons _
  · exact fun successful => nomatch successful

theorem afterAuthentication_waived :
    Ensures (afterAuthentication input record) (WaivedIfDone input) := by
  simp only [afterAuthentication]
  split
  · next enough => exact ensures_of_forall (fun _ _ _ => .oneFactor enough) _
  · exact offerMethods_waived

theorem selectMethod_waived : Ensures (selectMethod input record) (WaivedIfDone input) := by
  unfold selectMethod
  split
  · exact offerMethods_waived
  · split
    · exact fun successful => nomatch successful
    · split
      · exact issueChallenge_waived _
      · exact fun successful => nomatch successful

/-! ## Proofs, stage by stage -/

/-- What a verdict on a request rests on: it goes beyond identification only with the first
factor or after it, and completes the authorisation only with the second or without need. -/
structure Proven (input : Input) (record : Authorisation) (exchanges : List Exchange)
    (verdict : Verdict) : Prop where
  first : ∀ status, verdict.outcome = .advance status → status = .psuIdentified ∨
    2 ≤ record.status.rank ∨ FirstFactor input.request record exchanges
  second : verdict.succeeds = true →
    Waived input.policy.zeroMethods input.resource exchanges ∨
      SecondFactor input.request record exchanges

theorem Proven.of_not_advance {exchanges : List Exchange} {verdict : Verdict}
    (stays : ∀ status, verdict.outcome ≠ .advance status) :
    Proven input record exchanges verdict := by
  constructor
  · intro status advances
    exact absurd advances (stays status)
  · intro successful
    unfold Verdict.succeeds at successful
    split at successful
    · exact absurd ‹_› (stays _)
    · cases successful

theorem attemptFailed_ne_advance (factor : Factor) (status : Status) :
    (attemptFailed input record factor).outcome ≠ .advance status := by
  simp only [attemptFailed]
  split <;> simp

theorem authenticate_proven (external : input.evidence = .ofApproach record.approach)
    (early : record.status = .received ∨ record.status = .psuIdentified) :
    Ensures (authenticate input record) (Proven input record) := by
  simp only [authenticate]
  rw [external]
  cases evidence : (EvidenceSource.ofApproach record.approach).authentication input.request with
  | none =>
      dsimp only
      split
      · exact .of_not_advance (by simp)
      · split
        · constructor
          · intro status advances
            cases advances
            exact .inl rfl
          · intro successful
            cases successful
        · exact .of_not_advance (by simp)
  | some proof =>
      rcases EvidenceSource.authentication_eq_some evidence
        with ⟨password, rfl⟩ | ⟨outcome, rfl, reported, outside⟩
      · dsimp only
        split
        · exact .of_not_advance (by simp)
        · rw [ensures_consult]
          intro answer
          rcases answer with fault | _ | _ | _ | _
          · exact .of_not_advance (by simp [bankFailed])
          · apply afterAuthentication_waived.mono
            intro exchanges verdict waived
            constructor
            · intro status advances
              exact .inr (.inr (.credential _ (.head _) (.inl rfl)))
            · intro successful
              exact .inl ((waived successful).cons _)
          · apply ensures_of_forall
            intro exchanges verdict
            constructor
            · intro status advances
              exact .inr (.inr (.credential _ (.head _) (.inr rfl)))
            · intro successful
              exact .inl (.onAuthentication _ (.head _) rfl)
          · exact .of_not_advance (attemptFailed_ne_advance _)
          · exact .of_not_advance (by simp)
      · cases outcome with
        | confirmed =>
            apply afterAuthentication_waived.mono
            intro exchanges verdict waived
            constructor
            · intro status advances
              exact .inr (.inr (.reported reported outside early))
            · intro successful
              exact .inl (waived successful)
        | rejected => exact .of_not_advance (by simp)

theorem selectMethod_proven (authenticated : record.status = .psuAuthenticated) :
    Ensures (selectMethod input record) (Proven input record) := by
  apply selectMethod_waived.mono
  intro exchanges verdict waived
  constructor
  · intro status advances
    exact .inr (.inl (by simp [authenticated, Status.rank]))
  · intro successful
    exact .inl (waived successful)

theorem confirmCode_proven {code : String} (submitted : input.request.code = some code)
    (challenged : record.status = .scaMethodSelected) :
    Ensures (confirmCode input record code) (Proven input record) := by
  have passed : 2 ≤ record.status.rank := by simp [challenged, Status.rank]
  unfold confirmCode
  split
  · next expected stored =>
      split
      · next equal =>
          apply ensures_of_forall
          intro exchanges verdict
          exact ⟨fun _ _ => .inr (.inl passed),
            fun _ => .inr (.matched code submitted (by rw [stored, equal]))⟩
      · exact .of_not_advance (by simp)
  · rw [ensures_consult]
    intro answer
    rcases answer with fault | _ | _ | _ | _
    · exact .of_not_advance (by simp [bankFailed])
    · apply ensures_of_forall
      intro exchanges verdict
      exact ⟨fun _ _ => .inr (.inl passed),
        fun _ => .inr (.accepted _ (.head _) code submitted rfl)⟩
    · apply ensures_of_forall
      intro exchanges verdict
      exact ⟨fun _ _ => .inr (.inl passed), fun _ => .inl (.onConfirmation _ (.head _) rfl)⟩
    · exact .of_not_advance (attemptFailed_ne_advance _)
    · exact .of_not_advance (by simp)

theorem confirm_proven (external : input.evidence = .ofApproach record.approach)
    (challenged : record.status = .scaMethodSelected) :
    Ensures (confirm input record) (Proven input record) := by
  have passed : 2 ≤ record.status.rank := by simp [challenged, Status.rank]
  unfold confirm
  rw [external]
  cases evidence :
    (EvidenceSource.ofApproach record.approach).confirmation record input.request with
  | none =>
      dsimp only
      split
      · exact .of_not_advance (by simp)
      · exact .of_not_advance (by simp)
  | some proof =>
      rcases EvidenceSource.confirmation_eq_some evidence
        with ⟨code, rfl, submitted⟩ | ⟨outcome, rfl, reported, outside⟩
      · exact confirmCode_proven submitted challenged
      · cases outcome with
        | confirmed =>
            apply ensures_of_forall
            intro exchanges verdict
            exact ⟨fun _ _ => .inr (.inl passed),
              fun _ => .inr (.reported reported challenged outside)⟩
        | rejected => exact .of_not_advance (by simp)

theorem handle_proven (external : input.evidence = .ofApproach record.approach) :
    Ensures (handle record.status input record) (Proven input record) := by
  cases status : record.status with
  | received => exact authenticate_proven external (.inl status)
  | psuIdentified => exact authenticate_proven external (.inr status)
  | psuAuthenticated => exact selectMethod_proven status
  | scaMethodSelected => exact confirm_proven external status
  | finalised => exact .of_not_advance (by simp)
  | failed => exact .of_not_advance (by simp)
  | exempted => exact .of_not_advance (by simp)

end Stage

/-! ## Proofs in a history -/

theorem Status.passed_of_isSuccessful {status : Status}
    (successful : status.isSuccessful = true) : 2 ≤ status.rank ∧ status ≠ .failed := by
  cases status <;> simp_all [Status.isSuccessful, Status.rank]

/-- Some update of an authorisation is as required, with its request, the record and the
resource it loads, and its exchanges. -/
def HasUpdate (id : String) (passages : List Passage)
    (required : Request → Authorisation → Resource → List Exchange → Prop) : Prop :=
  ∃ passage ∈ passages, ∃ request record resource,
    passage.request? id = some request ∧
    passage.before.store.record? id = some record ∧
    passage.before.store.resource? record.parent = some resource ∧
    required request record resource passage.calls

theorem HasUpdate.append {id : String} {passages : List Passage}
    {required : Request → Authorisation → Resource → List Exchange → Prop}
    (made : HasUpdate id passages required) (others : List Passage) :
    HasUpdate id (passages ++ others) required := by
  rcases made with ⟨passage, member, details⟩
  exact ⟨passage, List.mem_append_left _ member, details⟩

theorem Visit.Takes.hasUpdate {deployment : Deployment} {id : String} {request : Request}
    {now : Time.Timestamp} {before after : World MemoryStore} {visit : Visit}
    (takes : visit.Takes deployment id request now before after) (passages : List Passage)
    {required : Request → Authorisation → Resource → List Exchange → Prop}
    (holds : required request visit.record visit.resource visit.exchanges) :
    HasUpdate id (passages ++ [⟨.operate ⟨.update id request, now⟩, before, after⟩])
      required := by
  refine ⟨_, List.mem_append_right _ (.head _), request, visit.record, visit.resource,
    by simp [Passage.request?], takes.found, takes.parent, ?_⟩
  rw [Passage.calls_eq takes.state.exchanges_eq]
  exact holds

def FirstFactorGiven (id : String) (passages : List Passage) : Prop :=
  HasUpdate id passages fun request record _ exchanges => FirstFactor request record exchanges

def SecondFactorGiven (zeroMethods : ZeroMethods) (id : String) (passages : List Passage) :
    Prop :=
  HasUpdate id passages fun request record resource exchanges =>
    Waived zeroMethods resource exchanges ∨ SecondFactor request record exchanges

/-- What a history proves for a record of a given status. -/
structure Backed (zeroMethods : ZeroMethods) (id : String) (passages : List Passage)
    (status : Status) : Prop where
  first : 2 ≤ status.rank → status ≠ .failed → FirstFactorGiven id passages
  second : status.isSuccessful = true → SecondFactorGiven zeroMethods id passages

namespace Backed

variable {zeroMethods : ZeroMethods} {id : String} {passages : List Passage} {status : Status}

theorem append (backed : Backed zeroMethods id passages status) (others : List Passage) :
    Backed zeroMethods id (passages ++ others) status where
  first late live := (backed.first late live).append others
  second successful := (backed.second successful).append others

theorem of_failed : Backed zeroMethods id passages .failed where
  first _ live := absurd rfl live
  second successful := nomatch successful

theorem of_received : Backed zeroMethods id passages .received where
  first late := nomatch late
  second successful := nomatch successful

end Backed

theorem Visit.Takes.backed {deployment : Deployment} {id : String} {request : Request}
    {now : Time.Timestamp} {before after : World MemoryStore} {visit : Visit}
    {draft : Authorisation} {passages : List Passage}
    (takes : visit.Takes deployment id request now before after)
    (drafted : visit.draft? deployment.node.policy = some draft)
    (backed : Backed deployment.node.policy.zeroMethods id passages visit.record.status) :
    Backed deployment.node.policy.zeroMethods id
      (passages ++ [⟨.operate ⟨.update id request, now⟩, before, after⟩]) draft.status := by
  have proven := (Stage.handle_proven rfl).of_yields takes.yields
  rcases Stage.Verdict.draft?_cases drafted with ⟨status, rfl, rfl | rfl | advances⟩
  · exact backed.append _
  · exact .of_failed
  · constructor
    · intro late live
      rcases proven.first status advances with identified | passed | given
      · subst identified
        simp [Status.rank] at late
      · exact (backed.first passed takes.ne_failed).append _
      · exact takes.hasUpdate passages given
    · intro successful
      have succeeds : visit.verdict.succeeds = true := by
        rw [Stage.Verdict.succeeds, advances]
        exact successful
      exact takes.hasUpdate passages (proven.second succeeds)

/-- Every record that is stored is backed by the history. -/
theorem backed_of_record? (deployment : Deployment) (moves : List Move) {id : String}
    {record : Authorisation}
    (found : (deployment.play moves (.fresh .empty)).store.record? id = some record) :
    Backed deployment.node.policy.zeroMethods id
      (deployment.history moves (.fresh .empty)) record.status := by
  apply Deployment.record_induction (fun passages id record =>
    Backed deployment.node.policy.zeroMethods id passages record.status) deployment moves
  · intro passages id record received
    rw [received]
    exact .of_received
  · intro passages id record failed
    rw [failed]
    exact .of_failed
  · intro passages others id record version backed
    exact backed.append others
  · intro passages before after id request now visit draft takes drafted backed
    have stored := takes.backed drafted backed
    exact stored
  · exact found

theorem factors_given_of_success (deployment : Deployment) (moves : List Move) {id : String}
    {record : Authorisation}
    (found : (deployment.play moves (.fresh .empty)).store.record? id = some record)
    (successful : record.status.isSuccessful = true) :
    FirstFactorGiven id (deployment.history moves (.fresh .empty)) ∧
      SecondFactorGiven deployment.node.policy.zeroMethods id
        (deployment.history moves (.fresh .empty)) := by
  have backed := backed_of_record? deployment moves found
  have complete := Status.passed_of_isSuccessful successful
  exact ⟨backed.first complete.1 complete.2, backed.second successful⟩

/-- A payment that the bank has authorised on its own pages. -/
def redirectMoves : List Move :=
  let payment : Resource :=
    ⟨"payment", .payment, .payment .received, false, false, false, [], .epoch⟩
  [.register payment, .start "first" "payment" none (some .redirect),
    .update "first" ⟨none, none, none, none, some .confirmed⟩,
    .update "first" ⟨none, none, none, none, some .confirmed⟩].map
    fun operation => .operate ⟨operation, .epoch⟩

theorem factors_given_on_bank_pages :
    let deployment := Deployment.simulated .standard
    (∃ record, (deployment.play redirectMoves (.fresh .empty)).store.record? "first" =
        some record ∧ record.status.isSuccessful = true) ∧
      FirstFactorGiven "first" (deployment.history redirectMoves (.fresh .empty)) ∧
      SecondFactorGiven .finalise "first" (deployment.history redirectMoves (.fresh .empty)) := by
  intro deployment
  have finished : ((deployment.play redirectMoves (.fresh .empty)).store.record? "first").any
      (·.status.isSuccessful) = true := by decide +kernel
  rcases (Option.any_eq_true _ _).mp finished with ⟨record, found, successful⟩
  exact ⟨⟨record, found, successful⟩,
    factors_given_of_success deployment redirectMoves found successful⟩

end StrongAuth
