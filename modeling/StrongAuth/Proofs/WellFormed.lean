import StrongAuth.Proofs.Answers
import StrongAuth.Proofs.Factors

/-! # Well-formed records

The status of a record tells which of its other data are there. Main statement: every record
that is stored is well-formed, whatever the bank answers and others do to the store, so that
no update lists the methods once more or chooses a method twice. -/

namespace StrongAuth

namespace Authorisation

/-- No method is chosen, and nothing is known of a challenge. -/
structure Unchallenged (record : Authorisation) : Prop where
  chosen : record.chosen = none
  challenge : record.challenge = none
  codeHash : record.codeHash = none
  bankData : record.bankData = none

/-- A PSU that is bound has an id of some kind. -/
def Named (record : Authorisation) : Prop :=
  ∀ psu, record.psu = some psu → psu.isEmpty = false

/-- The data of a record are those that its status calls for. -/
structure WellFormed (record : Authorisation) : Prop where
  named : record.Named
  early : record.status = .received ∨ record.status = .psuIdentified →
    record.offered = [] ∧ record.Unchallenged
  identified : record.status = .psuIdentified → record.psu.isSome = true
  choosing : record.status = .psuAuthenticated →
    2 ≤ record.offered.length ∧ record.Unchallenged
  chosen : record.status = .scaMethodSelected →
    ∃ method ∈ record.offered, record.chosen = some method
  embedded : record.approach = .embedded →
    record.status = .psuAuthenticated ∨ record.status = .scaMethodSelected ∨
      record.status = .finalised ∨ record.status = .exempted → record.psu.isSome = true

namespace WellFormed

variable {record : Authorisation}

theorem of_failed (named : record.Named) (failed : record.status = .failed) :
    record.WellFormed := by
  constructor <;> simp_all

theorem of_successful (named : record.Named) (successful : record.status.isSuccessful = true)
    (known : record.approach = .embedded → record.psu.isSome = true) : record.WellFormed := by
  constructor <;> cases status : record.status <;> simp_all [Status.isSuccessful]

theorem of_early (named : record.Named)
    (unproven : record.status = .received ∨ record.status = .psuIdentified)
    (unoffered : record.offered = []) (unchallenged : record.Unchallenged)
    (identified : record.status = .psuIdentified → record.psu.isSome = true) :
    record.WellFormed := by
  constructor <;> rcases unproven with status | status <;> simp_all

theorem of_choosing (named : record.Named) (authenticated : record.status = .psuAuthenticated)
    (several : 2 ≤ record.offered.length) (unchallenged : record.Unchallenged)
    (known : record.approach = .embedded → record.psu.isSome = true) : record.WellFormed := by
  constructor <;> simp_all

theorem of_selected (named : record.Named) (selected : record.status = .scaMethodSelected)
    {method : Method} (offered : method ∈ record.offered) (chosen : record.chosen = some method)
    (known : record.approach = .embedded → record.psu.isSome = true) : record.WellFormed := by
  constructor <;> simp_all

theorem restamped (formed : record.WellFormed) (version : Int64) (updated : Time.Timestamp) :
    WellFormed { record with version, updated } where
  named := formed.named
  early status :=
    have blank := formed.early status
    ⟨blank.1, blank.2.chosen, blank.2.challenge, blank.2.codeHash, blank.2.bankData⟩
  identified := formed.identified
  choosing status :=
    have several := formed.choosing status
    ⟨several.1, several.2.chosen, several.2.challenge, several.2.codeHash, several.2.bankData⟩
  chosen := formed.chosen
  embedded := formed.embedded

theorem unchallenged (formed : record.WellFormed) (early : record.status.rank ≤ 2) :
    record.Unchallenged := by
  cases status : record.status with
  | received => exact (formed.early (.inl status)).2
  | psuIdentified => exact (formed.early (.inr status)).2
  | psuAuthenticated => exact (formed.choosing status).2
  | scaMethodSelected | finalised | failed | exempted => simp [status, Status.rank] at early

end WellFormed

theorem choose_of_unchosen {record : Authorisation} (unchosen : record.chosen = none)
    (method : Method) : record.choose method = .ok { record with chosen := some method } := by
  rw [choose, unchosen]

end Authorisation

/-! ## Verdicts -/

def Refusal.isRechoice : Refusal → Bool
  | .methodChosen (some _) => true
  | _ => false

namespace Stage

/-- The copy that is stored on a verdict is well-formed, and no method is chosen twice. -/
structure Forms (earlier : Status) (verdict : Verdict) : Prop where
  draft : ∀ policy draft, verdict.draft? policy earlier = some draft → draft.WellFormed
  fresh : ∀ refusal, verdict.outcome.refusal? = some refusal → refusal.isRechoice = false

/-- The PSU of a copy is named, and in the embedded approach it is known. -/
structure Bound (record : Authorisation) : Prop where
  named : record.Named
  embedded : record.approach = .embedded → record.psu.isSome = true

namespace Forms

variable {earlier : Status} {record : Authorisation} {refusal : Refusal}

theorem of_refuse (fresh : refusal.isRechoice = false) :
    Forms earlier ⟨.refuse refusal, record⟩ where
  draft _ _ drafted := nomatch drafted
  fresh _ refused := by
    cases refused
    exact fresh

theorem of_fail (named : record.Named) (fresh : refusal.isRechoice = false) :
    Forms earlier ⟨.fail refusal, record⟩ where
  draft _ _ drafted := by
    cases drafted
    exact .of_failed named rfl
  fresh _ refused := by
    cases refused
    exact fresh

theorem of_retry (formed : Authorisation.WellFormed { record with status := earlier })
    (fresh : refusal.isRechoice = false) : Forms earlier ⟨.retry refusal, record⟩ where
  draft _ _ drafted := by
    cases drafted
    exact formed
  fresh _ refused := by
    cases refused
    exact fresh

theorem of_advance {status : Status}
    (formed : Authorisation.WellFormed { record with status }) :
    Forms earlier ⟨.advance status, record⟩ where
  draft policy draft drafted := by
    simp only [Verdict.draft?] at drafted
    split at drafted
    · cases drafted
      exact formed
    · cases drafted
  fresh _ refused := nomatch refused

end Forms

/-! ## Stage by stage -/

open Dialogue

variable {input : Input} {record : Authorisation} {earlier : Status}

theorem bankFailed_forms (named : record.Named) (task : Task) (fault : BankFault) :
    Forms earlier (bankFailed record task fault) :=
  .of_fail named rfl

theorem attemptFailed_forms (named : record.Named)
    (formed : ∀ failedAttempts,
      Authorisation.WellFormed { record with status := earlier, failedAttempts })
    (factor : Factor) : Forms earlier (attemptFailed input record factor) := by
  simp only [attemptFailed]
  split
  · exact .of_fail named rfl
  · exact .of_retry (formed _) rfl

theorem finalise_forms (bound : Bound record) {status : Status}
    (successful : status.isSuccessful = true) :
    Ensures (finalise input record status) fun _ verdict => Forms earlier verdict := by
  unfold finalise
  rw [ensures_consult]
  intro answer
  cases answer with
  | ok done => exact .of_advance (.of_successful bound.named successful bound.embedded)
  | error fault => exact bankFailed_forms bound.named _ fault

theorem exempt_forms (bound : Bound record) :
    Ensures (exempt input record) fun _ verdict => Forms earlier verdict := by
  apply finalise_forms bound
  split <;> rfl

theorem issueChallenge_forms (bound : Bound record) (unchosen : record.chosen = none)
    {method : Method} (offered : method ∈ record.offered) :
    Ensures (issueChallenge input record method) fun _ verdict => Forms earlier verdict := by
  unfold issueChallenge
  rw [Authorisation.choose_of_unchosen unchosen]
  dsimp only
  rw [ensures_consult]
  intro answer
  cases answer with
  | error fault => exact Forms.of_fail bound.named rfl
  | ok grant =>
      dsimp only
      split
      · exact exempt_forms ⟨bound.named, bound.embedded⟩
      · exact .of_advance (.of_selected bound.named rfl offered rfl bound.embedded)

theorem offerMethods_forms (bound : Bound record) (unchallenged : record.Unchallenged) :
    Ensures (offerMethods input record) fun _ verdict => Forms earlier verdict := by
  unfold offerMethods
  rw [ensures_consult]
  intro answer
  rcases answer with fault | _ | ⟨method, _ | ⟨second, others⟩⟩
  · exact bankFailed_forms bound.named _ fault
  · dsimp only
    split
    · exact finalise_forms bound (rfl : Status.finalised.isSuccessful = true)
    · exact .of_fail bound.named rfl
  · let copy := { record with offered := [method] }
    have alone : method ∈ copy.offered := .head _
    have copied : Bound copy := ⟨bound.named, bound.embedded⟩
    exact issueChallenge_forms copied unchallenged.chosen alone
  · exact .of_advance (.of_choosing bound.named rfl (by simp)
      ⟨unchallenged.chosen, unchallenged.challenge, unchallenged.codeHash, unchallenged.bankData⟩
      bound.embedded)

theorem afterAuthentication_forms (bound : Bound record) (unchallenged : record.Unchallenged) :
    Ensures (afterAuthentication input record) fun _ verdict => Forms earlier verdict := by
  simp only [afterAuthentication]
  let copy := { record with failedAttempts := 0 }
  have copied : Bound copy := ⟨bound.named, bound.embedded⟩
  split
  · exact finalise_forms copied (rfl : Status.finalised.isSuccessful = true)
  · exact offerMethods_forms copied ⟨unchallenged.chosen, unchallenged.challenge,
      unchallenged.codeHash, unchallenged.bankData⟩

theorem named_or (named : record.Named) (request : Request) :
    Authorisation.Named { record with psu := record.psu.or request.submittedPsu } := by
  intro psu bound
  rcases Option.or_eq_some_iff.mp bound with stored | ⟨_, submitted⟩
  · exact named psu stored
  · exact Request.isEmpty_eq_false_of_submittedPsu submitted

theorem authenticate_forms (external : input.evidence = .ofApproach record.approach)
    (formed : record.WellFormed)
    (unproven : record.status = .received ∨ record.status = .psuIdentified) :
    Ensures (authenticate input record) fun _ verdict => Forms record.status verdict := by
  simp only [authenticate]
  rw [external]
  let copy := { record with psu := record.psu.or input.request.submittedPsu }
  have named : copy.Named := named_or formed.named input.request
  rcases formed.early unproven with ⟨offered, unchallenged⟩
  have blank : copy.Unchallenged := ⟨unchallenged.chosen, unchallenged.challenge,
    unchallenged.codeHash, unchallenged.bankData⟩
  have early (status : Status) (failedAttempts : UInt32)
      (unproven : status = .received ∨ status = .psuIdentified)
      (identified : status = .psuIdentified → copy.psu.isSome = true) :
      Authorisation.WellFormed { copy with status, failedAttempts } :=
    .of_early named unproven offered
      ⟨blank.chosen, blank.challenge, blank.codeHash, blank.bankData⟩ identified
  cases evidence : (EvidenceSource.ofApproach record.approach).authentication input.request with
  | none =>
      dsimp only
      split
      · exact .of_refuse rfl
      · next known =>
          have known : copy.psu.isSome = true := Option.isSome_iff_ne_none.mpr fun missing =>
            known (Option.isNone_iff_eq_none.mpr missing)
          split
          · exact .of_advance (early .psuIdentified copy.failedAttempts (.inr rfl) fun _ => known)
          · exact .of_refuse rfl
  | some proof =>
      rcases EvidenceSource.authentication_eq_some evidence
        with ⟨password, rfl⟩ | ⟨outcome, rfl, _, external⟩
      · dsimp only
        split
        · exact .of_refuse rfl
        · next known =>
            have known : copy.psu.isSome = true := Option.isSome_iff_ne_none.mpr fun missing =>
              known (Option.isNone_iff_eq_none.mpr missing)
            have bound : Bound copy := ⟨named, fun _ => known⟩
            rw [ensures_consult]
            intro answer
            rcases answer with fault | _ | _ | _ | _
            · exact bankFailed_forms named _ fault
            · exact afterAuthentication_forms bound blank
            · exact exempt_forms bound
            · exact attemptFailed_forms named
                (fun failedAttempts => early _ failedAttempts unproven fun _ => known) _
            · exact .of_fail named rfl
      · have bound : Bound copy := ⟨named, fun embedded => absurd embedded external⟩
        cases outcome with
        | confirmed => exact afterAuthentication_forms bound blank
        | rejected => exact .of_fail named rfl

theorem selectMethod_forms (formed : record.WellFormed)
    (authenticated : record.status = .psuAuthenticated) :
    Ensures (selectMethod input record) fun _ verdict => Forms record.status verdict := by
  have bound : Bound record :=
    ⟨formed.named, fun embedded => formed.embedded embedded (.inl authenticated)⟩
  have unchallenged := (formed.choosing authenticated).2
  unfold selectMethod
  split
  · exact offerMethods_forms bound unchallenged
  · split
    · exact .of_refuse rfl
    · split
      · next method offered =>
          exact issueChallenge_forms bound unchallenged.chosen (List.mem_of_find?_eq_some offered)
      · exact .of_refuse rfl

theorem confirmCode_forms (formed : record.WellFormed)
    (challenged : record.status = .scaMethodSelected) (code : String) :
    Ensures (confirmCode input record code) fun _ verdict => Forms record.status verdict := by
  have bound : Bound record :=
    ⟨formed.named, fun embedded => formed.embedded embedded (.inr (.inl challenged))⟩
  unfold confirmCode
  split
  · split
    · exact finalise_forms bound (rfl : Status.finalised.isSuccessful = true)
    · exact .of_fail formed.named rfl
  · rw [ensures_consult]
    intro answer
    rcases answer with fault | _ | _ | _ | _
    · exact bankFailed_forms formed.named _ fault
    · exact finalise_forms bound (rfl : Status.finalised.isSuccessful = true)
    · exact exempt_forms bound
    · apply attemptFailed_forms formed.named
      intro failedAttempts
      exact { formed with
        early := fun status => by simp [challenged] at status
        choosing := fun status => by simp [challenged] at status }
    · exact .of_fail formed.named rfl

theorem confirm_forms (formed : record.WellFormed)
    (challenged : record.status = .scaMethodSelected) :
    Ensures (confirm input record) fun _ verdict => Forms record.status verdict := by
  have bound : Bound record :=
    ⟨formed.named, fun embedded => formed.embedded embedded (.inr (.inl challenged))⟩
  unfold confirm
  rcases input.evidence.confirmation record input.request with _ | password | code | _ | _
  · dsimp only
    split
    · exact .of_refuse rfl
    · exact .of_refuse rfl
  · exact .of_refuse rfl
  · exact confirmCode_forms formed challenged code
  · exact finalise_forms bound (rfl : Status.finalised.isSuccessful = true)
  · exact .of_fail formed.named rfl

theorem handle_forms (external : input.evidence = .ofApproach record.approach)
    (formed : record.WellFormed) :
    Ensures (handle record.status input record) fun _ verdict => Forms record.status verdict := by
  unfold handle
  split
  · next received => exact authenticate_forms external formed (.inl received)
  · next identified => exact authenticate_forms external formed (.inr identified)
  · next authenticated => exact selectMethod_forms formed authenticated
  · next challenged => exact confirm_forms formed challenged
  · exact .of_refuse rfl
  · exact .of_refuse rfl
  · exact .of_refuse rfl

/-! ## Listing -/

/-- The bank is not asked for methods. -/
def Unlisted (exchanges : List Exchange) : Prop :=
  ∀ exchange ∈ exchanges, exchange.call.query ≠ .listMethods

theorem finalise_unlisted (status : Status) :
    Ensures (finalise input record status) fun exchanges _ => Unlisted exchanges := by
  unfold finalise
  rw [ensures_consult]
  intro answer
  cases answer <;> simp [Unlisted]

theorem issueChallenge_unlisted (method : Method) :
    Ensures (issueChallenge input record method) fun exchanges _ => Unlisted exchanges := by
  unfold issueChallenge
  cases record.choose method with
  | error earlier => simp [Unlisted]
  | ok copy =>
      dsimp only
      rw [ensures_consult]
      intro answer
      cases answer with
      | error fault => simp [Unlisted]
      | ok grant =>
          dsimp only
          split
          · apply (finalise_unlisted _).mono
            intro exchanges verdict unlisted exchange member
            rcases List.mem_cons.mp member with rfl | member
            · simp
            · exact unlisted exchange member
          · simp [Unlisted]

/-- Where methods are offered, they are not listed once more. -/
theorem selectMethod_unlisted (offers : record.offered ≠ []) :
    Ensures (selectMethod input record) fun exchanges _ => Unlisted exchanges := by
  unfold selectMethod
  rw [if_neg (by simpa using offers)]
  split
  · simp [Unlisted]
  · split
    · exact issueChallenge_unlisted _
    · simp [Unlisted]

end Stage

/-! ## Stored records -/

theorem Authorisation.wellFormed_of_open? {newId : String} {resource : Resource}
    {signer : Option Psu} {approach : Approach} {redirectLifetime lifetime : Int}
    {now : Time.Timestamp} {record : Authorisation}
    (opens : open? newId resource signer approach redirectLifetime lifetime now = some record) :
    record.WellFormed := by
  rw [(open?_eq_some opens).2.2]
  refine .of_early ?_ (.inl rfl) rfl ⟨rfl, rfl, rfl, rfl⟩ (by simp)
  intro psu bound
  simpa using (Option.filter_eq_some_iff.mp bound).2

theorem Visit.Takes.forms {deployment : Deployment} {id : String} {request : Request}
    {now : Time.Timestamp} {before after : World MemoryStore} {visit : Visit}
    (takes : visit.Takes deployment id request now before after)
    (formed : visit.record.WellFormed) :
    Stage.Forms visit.record.status visit.verdict :=
  (Stage.handle_forms rfl formed).of_yields takes.yields

namespace Deployment

/-- Every record that is stored is well-formed. -/
theorem wellFormed_of_record? (deployment : Deployment) (moves : List Move) {id : String}
    {record : Authorisation}
    (found : (deployment.play moves (.fresh .empty)).store.record? id = some record) :
    record.WellFormed := by
  have all : ∀ id record,
      (deployment.play moves (.fresh .empty)).store.record? id = some record →
      record.WellFormed := by
    apply play_induction (fun _ world => ∀ id record,
      world.store.record? id = some record → record.WellFormed) moves
    · intro id record found
      cases found
    · intro moves before move _ induction id record found
      cases deployment.origin_of_record? move before found with
      | kept earlier foundEarlier same =>
          rw [same]
          exact (induction id earlier foundEarlier).restamped record.version earlier.updated
      | opened step operated newId resource psu preferred opening =>
          exact Authorisation.wellFormed_of_open? opening.opens
      | failed earlier foundEarlier live failed same =>
          refine .of_failed ?_ failed
          rw [same]
          exact (induction id earlier foundEarlier).named
      | visited request now operated visit takes draft drafted saved =>
          rw [saved]
          have forms := takes.forms (induction id visit.record takes.found)
          exact (forms.draft _ draft drafted).restamped _ _
  exact all id record found

end Deployment

/-! ## Updates of well-formed records -/

theorem Check.isRechoice_eq_false {candidate : Candidate} {check : Check} {refusal : Refusal}
    (objects : check.objection candidate = some refusal) : refusal.isRechoice = false := by
  cases check with
  | identity =>
      simp only [objection, identityObjection] at objects
      grind [Refusal.isRechoice]
  | stages restrictions | format limits | accept | decline kind message =>
      simp only [objection] at objects
      grind [Refusal.isRechoice]

theorem TurnedDown.isRechoice_eq_false {node : Node} {id : String} {request : Request}
    {store : MemoryStore} {refusal : Refusal}
    (turnedDown : TurnedDown node id request store refusal) : refusal.isRechoice = false := by
  cases turnedDown with
  | unknown | settled | orphaned => rfl
  | objected record resource siblings _ objects =>
      rcases List.exists_of_findSome?_eq_some objects with ⟨check, _, objects⟩
      exact Check.isRechoice_eq_false objects

namespace Deployment

variable {deployment : Deployment} {moves : List Move} {id : String} {request : Request}
  {now : Time.Timestamp}

theorem isRechoice_of_process {world : World MemoryStore}
    (formed : ∀ record, world.store.record? id = some record → record.WellFormed)
    (parented : ∀ record, world.store.record? id = some record →
      ∃ resource, world.store.resource? record.parent = some resource)
    {refusal : Refusal} (refuses : (world.runAction deployment.partner
      (deployment.node.process id request now)).1 = .error (.refused refusal)) :
    refusal.isRechoice = false := by
  cases Node.process_processed deployment id request now world with
  | refused _ cause ran =>
      rw [ran] at refuses
      cases refuses
      exact cause.isRechoice_eq_false
  | expired record found overdue ran =>
      rcases parented record found with ⟨resource, present⟩
      have known : world.store.record? record.id = some record := by
        rw [(MemoryStore.mem_of_record? found).2, found]
      rw [ran, World.runAction_bind_of_ok _ (Node.runAction_expire _ now known present)]
        at refuses
      cases refuses
      rfl
  | visited visit takes ran =>
      have forms := takes.forms (formed visit.record takes.found)
      rw [ran] at refuses
      cases takes.concluded with
      | refused _ outcome answered =>
          rw [answered] at refuses
          cases refuses
          exact forms.fresh _ (by rw [outcome]; rfl)
      | overtaken version raised found answered =>
          rw [answered] at refuses
          cases refuses
          rfl
      | stored draft drafted current answered =>
          rw [answered] at refuses
          dsimp only [Stage.Verdict.answer] at refuses
          cases told : visit.verdict.outcome.refusal? with
          | none =>
              rw [told] at refuses
              cases refuses
          | some _ =>
              rw [told] at refuses
              cases refuses
              exact forms.fresh _ told

/-- An update of an authorisation with methods to choose from lists none. -/
theorem unlisted_of_choosing {world : World MemoryStore} {record : Authorisation}
    (found : world.store.record? id = some record) (formed : record.WellFormed)
    (choosing : record.status = .psuAuthenticated) :
    let step : Step := ⟨.update id request, now⟩
    Stage.Unlisted
      (Passage.calls ⟨.operate step, world, deployment.make world (.operate step)⟩) := by
  intro step exchange called
  rcases deployment.visit_of_call step world called
    with ⟨updated, _, visit, operation, takes, asked⟩
  cases operation
  have same : visit.record = record := Option.some.inj (takes.found.symm.trans found)
  have offers : visit.record.offered ≠ [] := by
    intro none
    have several := (formed.choosing choosing).1
    rw [← same, none] at several
    cases several
  have yields := takes.yields
  rw [same, choosing, ← same] at yields
  exact (Stage.selectMethod_unlisted offers).of_yields yields exchange asked

/-- Every record that is stored is well-formed, whatever the bank answers and others do to the
store. Therefore no update lists the methods once more while there are some to choose from,
and none is refused because a method is chosen already when it is to be chosen. -/
theorem records_wellFormed (deployment : Deployment) (moves : List Move) :
    let world := deployment.play moves (.fresh .empty)
    (∀ id record, world.store.record? id = some record → record.WellFormed) ∧
      ∀ id request now,
        let step : Step := ⟨.update id request, now⟩
        (∀ record, world.store.record? id = some record → record.status = .psuAuthenticated →
          Stage.Unlisted
            (Passage.calls ⟨.operate step, world, deployment.make world (.operate step)⟩)) ∧
        ∀ earlier, (deployment.perform step world).1 ≠
          .error (.refused (.methodChosen (some earlier))) := by
  intro world
  have formed (id : String) (record : Authorisation)
      (found : world.store.record? id = some record) : record.WellFormed :=
    deployment.wellFormed_of_record? moves found
  refine ⟨formed, ?_⟩
  intro id request now step
  constructor
  · intro record found choosing
    exact unlisted_of_choosing found (formed id record found) choosing
  · intro earlier refuses
    rcases Node.runAction_update deployment.partner deployment.node id request now world
      with ⟨busy, idle, ran⟩
    change (world.runAction deployment.partner (deployment.node.update id request now)).1 = _
      at refuses
    rw [ran] at refuses
    let locked : World MemoryStore := { world with locks := busy }
    have processed : (locked.runAction deployment.partner
        (deployment.node.process id request now)).1 =
      .error (.refused (.methodChosen (some earlier))) := refuses
    have fresh : Refusal.isRechoice (.methodChosen (some earlier)) = false := by
      refine isRechoice_of_process ?_ ?_ processed
      · exact formed id
      · exact fun record found => parent_of_record? found
    cases fresh

end Deployment

end StrongAuth
