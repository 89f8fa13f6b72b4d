import StrongAuth.Proofs.Episodes
import StrongAuth.Proofs.WellFormed

/-! # What the calls for an authorisation carry

Between requests only the record remembers what was exchanged with the bank. Main statement: as
long as nobody else uses the store while the bank is busy, a code is requested at most once for
an authorisation and for a method that was offered; every call carries the PSU that the record is
bound to, and from the answer to that request on its correlation data; and a code goes to the bank
as it was submitted, with the challenge of that answer. -/

namespace StrongAuth

/-- The bank's answer to the request for a code. -/
def grant? (talk : List (Request × Exchange)) : Option CodeGrant :=
  talk.findSome? (·.2.grant?)

/-- No code has been requested. -/
def Uncoded (talk : List (Request × Exchange)) : Prop :=
  ∀ call ∈ talk, call.2.call.query.task ≠ .requestCode

/-- A call for a request carries what it should after the earlier exchanges. -/
structure Correlates (psu : Psu) (earlier : List (Request × Exchange)) (request : Request)
    (call : BankCall) : Prop where
  psu : call.psu = psu
  bankData : call.bankData = (grant? earlier).bind (·.bankData)
  offered : ∀ method, call.query = .requestCode method → Uncoded earlier ∧
    ∃ offer ∈ earlier, ∃ methods, offer.2.offer? = some methods ∧ method ∈ methods
  challenged : ∀ code challenge, call.query = .confirm code challenge →
    request.code = some code ∧ ∃ grant, grant? earlier = some grant ∧ challenge = grant.challenge

/-- Every call carries what it should. -/
inductive Correlated (psu : Psu) : List (Request × Exchange) → Prop
  | nil : Correlated psu []
  | snoc {earlier : List (Request × Exchange)} {request : Request} {exchange : Exchange}
      (correlated : Correlated psu earlier)
      (correlates : Correlates psu earlier request exchange.call) :
      Correlated psu (earlier ++ [(request, exchange)])

/-! ## Exchanges so far -/

section Talk

variable {psu : Psu} {talk : List (Request × Exchange)} {request : Request}
  {exchange : Exchange} {grant : CodeGrant}

theorem Uncoded.append (uncoded : Uncoded talk)
    (other : exchange.call.query.task ≠ .requestCode) :
    Uncoded (talk ++ [(request, exchange)]) := by
  intro call member
  rcases List.mem_append.mp member with earlier | last
  · exact uncoded call earlier
  · rw [List.mem_singleton.mp last]
    exact other

theorem Exchange.grant?_eq_none (other : exchange.call.query.task ≠ .requestCode) :
    exchange.grant? = none := by
  unfold grant?
  split
  · exact absurd rfl other
  · rfl

theorem Uncoded.grant?_eq_none (uncoded : Uncoded talk) : grant? talk = none := by
  rw [grant?, List.findSome?_eq_none_iff]
  exact fun call member => Exchange.grant?_eq_none (uncoded call member)

theorem Uncoded.grant?_append (uncoded : Uncoded talk) (granted : exchange.grant? = some grant) :
    StrongAuth.grant? (talk ++ [(request, exchange)]) = some grant := by
  rw [StrongAuth.grant?, List.findSome?_append]
  exact Option.or_eq_some_iff.mpr (.inr ⟨uncoded.grant?_eq_none, by simp [granted]⟩)

theorem grant?_append_of_some (granted : grant? talk = some grant) :
    grant? (talk ++ [(request, exchange)]) = some grant := by
  rw [grant?, List.findSome?_append]
  exact Option.or_eq_some_iff.mpr (.inl granted)

theorem grant?_append_of_other (other : exchange.call.query.task ≠ .requestCode) :
    grant? (talk ++ [(request, exchange)]) = grant? talk := by
  rw [grant?, List.findSome?_append]
  simp [grant?, Exchange.grant?_eq_none other]

theorem Correlated.correlates_of_split {earlier later : List (Request × Exchange)}
    (correlated : Correlated psu talk) (split : talk = earlier ++ (request, exchange) :: later) :
    Correlates psu earlier request exchange.call := by
  induction correlated generalizing later with
  | nil => simp at split
  | @snoc before final answered correlated correlates induction =>
      -- The call is the last one, or what follows it ends as the whole conversation does.
      rcases later.eq_nil_or_concat with rfl | ⟨rest, last, rfl⟩
      · rcases List.append_inj' split rfl with ⟨rfl, same⟩
        cases same
        exact correlates
      · have shorter : before ++ [(final, answered)] =
            (earlier ++ (request, exchange) :: rest) ++ [last] := by simpa using split
        exact induction (List.append_inj' shorter rfl).1

theorem Correlated.countP_le_one (correlated : Correlated psu talk) :
    talk.countP (·.2.call.query.task = .requestCode) ≤ 1 := by
  induction correlated with
  | nil => exact Nat.zero_le 1
  | @snoc earlier request exchange correlated correlates induction =>
      rw [List.countP_append, List.countP_singleton]
      cases query : exchange.call.query with
      | requestCode method =>
          have none : earlier.countP (·.2.call.query.task = .requestCode) = 0 := by
            rw [List.countP_eq_zero]
            intro call member
            simpa using (correlates.offered method query).1 call member
          simp [none]
      | authenticate password | listMethods | confirm code challenge | execute =>
          simpa [query] using induction

end Talk

/-! ## What a record remembers -/

namespace Authorisation

/-- A copy with which the conversation can go on: the next call will carry what it should. -/
structure Carries (record : Authorisation) (talk : List (Request × Exchange)) : Prop where
  threaded : Correlated record.knownPsu talk
  bankData : record.bankData = (grant? talk).bind (·.bankData)

/-- A copy for which no code has been requested. -/
structure Prepares (record : Authorisation) (talk : List (Request × Exchange)) : Prop where
  threaded : Correlated record.knownPsu talk
  uncoded : Uncoded talk
  unchallenged : record.Unchallenged

/-- A record remembers what was exchanged with the bank for it, as far as its status needs it. -/
structure Recalls (record : Authorisation) (talk : List (Request × Exchange)) : Prop where
  threaded : Correlated record.knownPsu talk
  unnamed : record.status.rank < 2 → record.psu = none → talk = []
  uncoded : record.status.rank ≤ 2 → Uncoded talk
  offered : record.status = .psuAuthenticated →
    ∃ call ∈ talk, call.2.offer? = some record.offered
  granted : record.status = .scaMethodSelected →
    ∃ grant, grant? talk = some grant ∧ record.challenge = grant.challenge ∧
      record.bankData = grant.bankData

variable {record : Authorisation} {talk : List (Request × Exchange)} {request : Request}

theorem Prepares.carries (prepares : Prepares record talk) : Carries record talk where
  threaded := prepares.threaded
  bankData := by
    rw [prepares.unchallenged.bankData, prepares.uncoded.grant?_eq_none]
    rfl

/-- A call that neither requests nor confirms a code needs nothing more than what is carried. -/
theorem Carries.correlates (carries : Carries record talk) {call : BankCall}
    (psu : call.psu = record.knownPsu) (bankData : call.bankData = record.bankData)
    (unrequested : call.query.task ≠ .requestCode) (unconfirmed : call.query.task ≠ .confirm) :
    Correlates record.knownPsu talk request call where
  psu := psu
  bankData := bankData.trans carries.bankData
  offered method query := absurd (by rw [query]) unrequested
  challenged code challenge query := absurd (by rw [query]) unconfirmed

theorem Carries.after (carries : Carries record talk) {exchange : Exchange}
    (correlates : Correlates record.knownPsu talk request exchange.call)
    (unrequested : exchange.call.query.task ≠ .requestCode) :
    Carries record (talk ++ [(request, exchange)]) where
  threaded := carries.threaded.snoc correlates
  bankData := by
    rw [grant?_append_of_other unrequested]
    exact carries.bankData

theorem Prepares.after (prepares : Prepares record talk) {exchange : Exchange}
    (correlates : Correlates record.knownPsu talk request exchange.call)
    (unrequested : exchange.call.query.task ≠ .requestCode) :
    Prepares record (talk ++ [(request, exchange)]) where
  threaded := prepares.threaded.snoc correlates
  uncoded := prepares.uncoded.append unrequested
  unchallenged := prepares.unchallenged

/-- The status, the offer and the count do not matter as long as no code is requested. -/
theorem Prepares.varied (prepares : Prepares record talk) (status : Status)
    (offered : List Method) (failedAttempts : UInt32) :
    Prepares { record with status, offered, failedAttempts } talk :=
  ⟨prepares.threaded, prepares.uncoded, prepares.unchallenged.chosen,
    prepares.unchallenged.challenge, prepares.unchallenged.codeHash,
    prepares.unchallenged.bankData⟩

theorem Recalls.of_terminal (threaded : Correlated record.knownPsu talk)
    (terminal : record.status.isTerminal = true) : Recalls record talk := by
  have rank := (record.status.isTerminal_iff_rank).mp terminal
  refine ⟨threaded, ?_, ?_, ?_, ?_⟩
  · intro early
    omega
  · intro early
    omega
  · intro status
    rw [status] at terminal
    cases terminal
  · intro status
    rw [status] at terminal
    cases terminal

theorem Recalls.of_early (prepares : Prepares record talk) (early : record.status.rank < 2)
    (named : record.psu = none → talk = []) : Recalls record talk := by
  refine ⟨prepares.threaded, fun _ => named, fun _ => prepares.uncoded, ?_, ?_⟩
  · intro authenticated
    simp [authenticated, Status.rank] at early
  · intro selected
    simp [selected, Status.rank] at early

/-- Nothing is exchanged yet for a new record. -/
theorem Recalls.of_received (received : record.status = .received) : Recalls record [] := by
  refine ⟨.nil, fun _ _ => rfl, fun _ => List.forall_mem_nil _, ?_, ?_⟩
  · intro authenticated
    simp [received] at authenticated
  · intro selected
    simp [received] at selected

theorem Recalls.of_choosing (prepares : Prepares record talk)
    (authenticated : record.status = .psuAuthenticated)
    (offered : ∃ call ∈ talk, call.2.offer? = some record.offered) : Recalls record talk := by
  refine ⟨prepares.threaded, ?_, fun _ => prepares.uncoded, fun _ => offered, ?_⟩
  · intro early
    simp [authenticated, Status.rank] at early
  · intro selected
    simp [authenticated] at selected

theorem Recalls.of_selected (threaded : Correlated record.knownPsu talk)
    (selected : record.status = .scaMethodSelected) {grant : CodeGrant}
    (granted : grant? talk = some grant) (challenge : record.challenge = grant.challenge)
    (bankData : record.bankData = grant.bankData) : Recalls record talk := by
  refine ⟨threaded, ?_, ?_, ?_, fun _ => ⟨grant, granted, challenge, bankData⟩⟩
  · intro early
    simp [selected, Status.rank] at early
  · intro early
    simp [selected, Status.rank] at early
  · intro authenticated
    simp [selected] at authenticated

/-- What a record remembers does not rest on its count, its version or its last change. -/
theorem Recalls.restamped (recalls : Recalls record talk) (failedAttempts : UInt32)
    (version : Int64) (updated : Time.Timestamp) :
    Recalls { record with failedAttempts, version, updated } talk :=
  ⟨recalls.threaded, recalls.unnamed, recalls.uncoded, recalls.offered, recalls.granted⟩

/-- Before a code is requested nothing is known of a grant. -/
theorem Recalls.prepares (recalls : Recalls record talk) (formed : record.WellFormed)
    (early : record.status.rank ≤ 2) : Prepares record talk :=
  ⟨recalls.threaded, recalls.uncoded early, formed.unchallenged early⟩

theorem Recalls.carries (recalls : Recalls record talk)
    (selected : record.status = .scaMethodSelected) : Carries record talk := by
  rcases recalls.granted selected with ⟨grant, granted, _, bankData⟩
  refine ⟨recalls.threaded, ?_⟩
  rw [granted]
  exact bankData

theorem Prepares.bind (prepares : Prepares record talk)
    (named : record.psu = none → talk = []) (submitted : Option Psu) :
    Prepares { record with psu := record.psu.or submitted } talk := by
  refine ⟨?_, prepares.uncoded, prepares.unchallenged.chosen, prepares.unchallenged.challenge,
    prepares.unchallenged.codeHash, prepares.unchallenged.bankData⟩
  cases bound : record.psu with
  | none =>
      rw [named bound]
      exact .nil
  | some psu =>
      have threaded := prepares.threaded
      rw [Authorisation.knownPsu, bound] at threaded
      exact threaded

end Authorisation

/-! ## Verdicts -/

namespace Stage

open Dialogue

/-- A verdict does not refuse, and what it asks to be stored remembers the conversation. -/
structure Decides (input : Input) (earlier : Status) (talk : List (Request × Exchange))
    (exchanges : List Exchange) (verdict : Verdict) : Prop where
  decided : ∀ refusal, verdict.outcome ≠ .refuse refusal
  recalls : ∀ draft, verdict.draft? input.policy.exemption earlier = some draft →
    draft.Recalls (talk ++ exchanges.map (input.request, ·))

/-- A request is refused before the bank is called, or what is stored remembers the calls. -/
inductive Remembers (input : Input) (earlier : Status) (talk : List (Request × Exchange)) :
    List Exchange → Verdict → Prop
  | refused (refusal : Refusal) (record : Authorisation) :
      Remembers input earlier talk [] ⟨.refuse refusal, record⟩
  | decided {exchanges : List Exchange} {verdict : Verdict}
      (decides : Decides input earlier talk exchanges verdict) :
      Remembers input earlier talk exchanges verdict

variable {input : Input} {earlier : Status} {record copy : Authorisation}
  {talk : List (Request × Exchange)} {exchanges : List Exchange} {verdict : Verdict}

namespace Decides

theorem of_fail (threaded : Correlated copy.knownPsu talk) (refusal : Refusal) :
    Decides input earlier talk [] ⟨.fail refusal, copy⟩ where
  decided := by simp
  recalls draft drafted := by
    cases drafted
    rw [List.map_nil, List.append_nil]
    exact .of_terminal threaded rfl

theorem of_advance {status : Status} (recalls : Authorisation.Recalls { copy with status } talk) :
    Decides input earlier talk [] ⟨.advance status, copy⟩ where
  decided := by simp
  recalls draft drafted := by
    simp only [Verdict.draft?] at drafted
    split at drafted
    · cases drafted
      rw [List.map_nil, List.append_nil]
      exact recalls
    · cases drafted

theorem of_retry (recalls : Authorisation.Recalls { copy with status := earlier } talk)
    (refusal : Refusal) : Decides input earlier talk [] ⟨.retry refusal, copy⟩ where
  decided := by simp
  recalls draft drafted := by
    cases drafted
    rw [List.map_nil, List.append_nil]
    exact recalls

/-- A verdict that remembers a call among the earlier ones remembers it as the first one. -/
theorem after {first : Exchange}
    (decides : Decides input earlier (talk ++ [(input.request, first)]) exchanges verdict) :
    Decides input earlier talk (first :: exchanges) verdict where
  decided := decides.decided
  recalls draft drafted := by
    rw [List.map_cons, List.append_cons]
    exact decides.recalls draft drafted

end Decides

/-! ## Stage by stage -/

theorem attemptFailed_decides (threaded : Correlated copy.knownPsu talk)
    (recalls : Authorisation.Recalls { copy with status := earlier } talk) (factor : Factor) :
    Decides input earlier talk [] (attemptFailed input copy factor) := by
  simp only [attemptFailed]
  split
  · refine .of_fail ?_ _
    exact threaded
  · refine .of_retry ?_ _
    exact recalls.restamped (copy.failedAttempts + 1) copy.version copy.updated

theorem finalise_decides (carries : record.Carries talk) {status : Status}
    (terminal : status.isTerminal = true) :
    Ensures (finalise input record status) (Decides input earlier talk) := by
  unfold finalise
  rw [ensures_consult]
  intro answer
  let asking : BankCall := ⟨.execute, record.knownPsu, input.resource, record.bankData⟩
  have threaded : Correlated record.knownPsu (talk ++ [(input.request, ⟨asking, answer⟩)]) :=
    carries.threaded.snoc (carries.correlates rfl rfl (by simp [asking]) (by simp [asking]))
  cases answer with
  | error fault => exact (Decides.of_fail threaded _).after
  | ok done =>
      refine (Decides.of_advance (.of_terminal ?_ terminal)).after
      exact threaded

theorem exempt_decides (carries : record.Carries talk) :
    Ensures (exempt input record) (Decides input earlier talk) := by
  apply finalise_decides carries
  split <;> rfl

theorem issueChallenge_decides (prepares : record.Prepares talk) {method : Method}
    (offered : ∃ call ∈ talk, ∃ methods, call.2.offer? = some methods ∧ method ∈ methods) :
    Ensures (issueChallenge input record method) (Decides input earlier talk) := by
  unfold issueChallenge
  rw [Authorisation.choose_of_unchosen prepares.unchallenged.chosen]
  dsimp only
  rw [ensures_consult]
  intro answer
  let asking : BankCall :=
    ⟨.requestCode method, record.knownPsu, input.resource, record.bankData⟩
  have correlates : Correlates record.knownPsu talk input.request asking := by
    refine ⟨rfl, prepares.carries.bankData, ?_, ?_⟩
    · rintro chosen ⟨⟩
      exact ⟨prepares.uncoded, offered⟩
    · rintro code challenge ⟨⟩
  have threaded : Correlated record.knownPsu (talk ++ [(input.request, ⟨asking, answer⟩)]) :=
    prepares.threaded.snoc correlates
  cases answer with
  | error fault =>
      refine (Decides.of_fail ?_ _).after
      exact threaded
  | ok grant =>
      have granted : grant? (talk ++ [(input.request, ⟨asking, .ok grant⟩)]) = some grant :=
        prepares.uncoded.grant?_append rfl
      have replaced : grant.bankData.or record.bankData = grant.bankData := by
        rw [prepares.unchallenged.bankData, Option.or_none]
      dsimp only
      split
      · let copy := { record with
          chosen := some method
          bankData := grant.bankData.or record.bankData }
        have carries : copy.Carries (talk ++ [(input.request, ⟨asking, .ok grant⟩)]) := by
          refine ⟨threaded, ?_⟩
          rw [granted]
          exact replaced
        apply (exempt_decides carries).mono
        intro exchanges verdict decides
        exact decides.after
      · apply Decides.after
        apply Decides.of_advance
        exact .of_selected threaded rfl granted rfl replaced

theorem offerMethods_decides (prepares : record.Prepares talk) :
    Ensures (offerMethods input record) (Decides input earlier talk) := by
  unfold offerMethods
  rw [ensures_consult]
  intro answer
  let asking : BankCall := ⟨.listMethods, record.knownPsu, input.resource, record.bankData⟩
  have listed : record.Prepares (talk ++ [(input.request, ⟨asking, answer⟩)]) :=
    prepares.after (prepares.carries.correlates rfl rfl (by simp [asking]) (by simp [asking]))
      (by simp [asking])
  rcases answer with fault | _ | ⟨method, _ | ⟨second, others⟩⟩
  · exact (Decides.of_fail listed.threaded _).after
  · dsimp only
    split
    · apply (finalise_decides listed.carries rfl).mono
      intro exchanges verdict decides
      exact decides.after
    · exact (Decides.of_fail listed.threaded _).after
  · let copy := { record with offered := [method] }
    have copied : copy.Prepares (talk ++ [(input.request, ⟨asking, .ok [method]⟩)]) :=
      listed.varied record.status [method] record.failedAttempts
    have offered : ∃ offer ∈ talk ++ [(input.request, ⟨asking, .ok [method]⟩)],
        ∃ methods, offer.2.offer? = some methods ∧ method ∈ methods :=
      ⟨_, List.mem_append_right _ (.head _), [method], rfl, .head _⟩
    apply (issueChallenge_decides copied offered).mono
    intro exchanges verdict decides
    exact decides.after
  · let copy := { record with
      offered := method :: second :: others
      status := .psuAuthenticated }
    have copied : copy.Prepares
        (talk ++ [(input.request, ⟨asking, .ok (method :: second :: others)⟩)]) :=
      listed.varied .psuAuthenticated _ record.failedAttempts
    apply Decides.after
    apply Decides.of_advance
    exact .of_choosing copied rfl ⟨_, List.mem_append_right _ (.head _), rfl⟩

theorem afterAuthentication_decides (prepares : record.Prepares talk) :
    Ensures (afterAuthentication input record) (Decides input earlier talk) := by
  simp only [afterAuthentication]
  let copy := { record with failedAttempts := 0 }
  have copied : copy.Prepares talk := prepares.varied record.status record.offered 0
  split
  · exact finalise_decides copied.carries rfl
  · exact offerMethods_decides copied

theorem authenticate_remembers (recalls : record.Recalls talk) (formed : record.WellFormed)
    (unproven : record.status = .received ∨ record.status = .psuIdentified) :
    Ensures (authenticate input record) (Remembers input record.status talk) := by
  simp only [authenticate]
  have early : record.status.rank < 2 := by
    rcases unproven with status | status <;> rw [status] <;> decide
  let copy := { record with psu := record.psu.or input.request.submittedPsu }
  -- The copy is bound before the bank is asked, so the first call names the submitted PSU.
  have prepares : copy.Prepares talk :=
    (recalls.prepares formed (Nat.le_of_lt early)).bind (recalls.unnamed early) _
  rcases input.evidence.authentication input.request with _ | password | code | _ | _
  · dsimp only
    split
    · exact .refused _ _
    · next named =>
        split
        · apply Remembers.decided
          apply Decides.of_advance
          have identified : Status.psuIdentified.rank < 2 := by decide
          exact .of_early (prepares.varied .psuIdentified _ _) identified
            fun missing => absurd (Option.isNone_iff_eq_none.mpr missing) named
        · exact .refused _ _
  · dsimp only
    split
    · exact .refused _ _
    · next named =>
        rw [ensures_consult]
        intro answer
        let asking : BankCall :=
          ⟨.authenticate password, copy.knownPsu, input.resource, copy.bankData⟩
        have asked : copy.Prepares (talk ++ [(input.request, ⟨asking, answer⟩)]) :=
          prepares.after (prepares.carries.correlates rfl rfl (by simp [asking])
            (by simp [asking])) (by simp [asking])
        rcases answer with fault | _ | _ | _ | _
        · exact .decided (Decides.of_fail asked.threaded _).after
        · apply (afterAuthentication_decides asked).mono
          intro exchanges verdict decides
          exact .decided decides.after
        · apply (exempt_decides asked.carries).mono
          intro exchanges verdict decides
          exact .decided decides.after
        · apply Remembers.decided
          apply Decides.after
          apply attemptFailed_decides asked.threaded
          exact .of_early (asked.varied record.status _ _) early
            fun missing => absurd (Option.isNone_iff_eq_none.mpr missing) named
        · exact .decided (Decides.of_fail asked.threaded _).after
  · exact .refused _ _
  · apply (afterAuthentication_decides prepares).mono
    intro exchanges verdict decides
    exact .decided decides
  · exact .decided (.of_fail prepares.threaded _)

theorem selectMethod_remembers (recalls : record.Recalls talk) (formed : record.WellFormed)
    (authenticated : record.status = .psuAuthenticated) :
    Ensures (selectMethod input record) (Remembers input earlier talk) := by
  have prepares : record.Prepares talk := recalls.prepares formed (by rw [authenticated]; decide)
  unfold selectMethod
  split
  · exact (offerMethods_decides prepares).mono fun _ _ => .decided
  · split
    · exact .refused _ _
    · split
      · next method found =>
          rcases recalls.offered authenticated with ⟨offer, member, offers⟩
          have offered : ∃ offer ∈ talk, ∃ methods, offer.2.offer? = some methods ∧
              method ∈ methods :=
            ⟨offer, member, record.offered, offers, List.mem_of_find?_eq_some found⟩
          exact (issueChallenge_decides prepares offered).mono fun _ _ => .decided
      · exact .refused _ _

theorem confirmCode_decides (recalls : record.Recalls talk)
    (selected : record.status = .scaMethodSelected) {code : String}
    (submitted : input.request.code = some code) :
    Ensures (confirmCode input record code) (Decides input record.status talk) := by
  have carries := recalls.carries selected
  rcases recalls.granted selected with ⟨grant, granted, challenge, bankData⟩
  unfold confirmCode
  split
  · split
    · exact finalise_decides carries rfl
    · exact .of_fail carries.threaded _
  · rw [ensures_consult]
    intro answer
    let asking : BankCall :=
      ⟨.confirm code record.challenge, record.knownPsu, input.resource, record.bankData⟩
    have correlates : Correlates record.knownPsu talk input.request asking := by
      refine ⟨rfl, carries.bankData, ?_, ?_⟩
      · rintro method ⟨⟩
      · rintro _ _ ⟨⟩
        exact ⟨submitted, grant, granted, challenge⟩
    have asked : record.Carries (talk ++ [(input.request, ⟨asking, answer⟩)]) :=
      carries.after correlates (by simp [asking])
    rcases answer with fault | _ | _ | _ | _
    · exact (Decides.of_fail asked.threaded _).after
    · exact (finalise_decides asked rfl).mono fun _ _ decides => decides.after
    · exact (exempt_decides asked).mono fun _ _ decides => decides.after
    · apply Decides.after
      apply attemptFailed_decides asked.threaded
      exact .of_selected asked.threaded selected (grant?_append_of_some granted) challenge bankData
    · exact (Decides.of_fail asked.threaded _).after

theorem confirm_remembers (external : input.evidence = .ofApproach record.approach)
    (recalls : record.Recalls talk) (selected : record.status = .scaMethodSelected) :
    Ensures (confirm input record) (Remembers input record.status talk) := by
  have carries := recalls.carries selected
  unfold confirm
  rw [external]
  cases evidence :
    (EvidenceSource.ofApproach record.approach).confirmation record input.request with
  | none =>
      dsimp only
      split
      · exact .refused _ _
      · exact .refused _ _
  | some proof =>
      rcases EvidenceSource.confirmation_eq_some evidence
        with ⟨code, rfl, submitted⟩ | ⟨outcome, rfl, _⟩
      · exact (confirmCode_decides recalls selected submitted).mono fun _ _ => .decided
      · cases outcome with
        | confirmed => exact (finalise_decides carries rfl).mono fun _ _ => .decided
        | rejected => exact .decided (.of_fail carries.threaded _)

/-- What a stage asks to be stored remembers the conversation, if the record before did. -/
theorem handle_remembers (external : input.evidence = .ofApproach record.approach)
    (recalls : record.Recalls talk) (formed : record.WellFormed) :
    Ensures (handle record.status input record) (Remembers input record.status talk) := by
  unfold handle
  split
  · next received => exact authenticate_remembers recalls formed (.inl received)
  · next identified => exact authenticate_remembers recalls formed (.inr identified)
  · next authenticated => exact selectMethod_remembers recalls formed authenticated
  · next selected => exact confirm_remembers external recalls selected
  · exact .refused _ _
  · exact .refused _ _
  · exact .refused _ _

end Stage

/-! ## Runs -/

namespace Visit.Takes

variable {deployment : Deployment} {id : String} {request : Request} {now : Time.Timestamp}
  {before after : World MemoryStore} {visit : Visit} {talk : List (Request × Exchange)}

theorem remembers (takes : visit.Takes deployment id request now before after)
    (recalls : visit.record.Recalls talk) (formed : visit.record.WellFormed) :
    Stage.Remembers (visit.input deployment.node.policy request) visit.record.status talk
      visit.exchanges visit.verdict :=
  (Stage.handle_remembers rfl recalls formed).of_yields takes.yields

/-- The record that is stored after a visit remembers its conversation. -/
theorem draft_recalls (takes : visit.Takes deployment id request now before after)
    (recalls : visit.record.Recalls talk) (formed : visit.record.WellFormed)
    {draft : Authorisation} (drafted : visit.draft? deployment.node.policy = some draft) :
    draft.Recalls (talk ++ visit.exchanges.map (request, ·)) := by
  have remembers := takes.remembers recalls formed
  unfold Visit.draft? at drafted
  generalize visit.exchanges = exchanges, visit.verdict = verdict at remembers drafted ⊢
  cases remembers with
  | refused refusal record => cases drafted
  | decided decides => exact decides.recalls draft drafted

/-- A visit after which nothing is stored is over before the bank is called. -/
theorem exchanges_eq_nil (takes : visit.Takes deployment id request now before after)
    (recalls : visit.record.Recalls talk) (formed : visit.record.WellFormed)
    (undrafted : visit.draft? deployment.node.policy = none) : visit.exchanges = [] := by
  have remembers := takes.remembers recalls formed
  rcases takes.sound.refuses_of_draft?_eq_none undrafted with ⟨refusal, refuses⟩
  generalize visit.exchanges = exchanges, visit.verdict = verdict at remembers refuses ⊢
  cases remembers with
  | refused => rfl
  | decided decides => exact absurd refuses (decides.decided refusal)

end Visit.Takes

namespace Deployment

variable {deployment : Deployment} {id : String}

/-- Every stored record remembers what was exchanged with the bank for it. -/
theorem recalls_of_record? (quiet : deployment.bank.Quiet) (moves : List Move)
    {record : Authorisation}
    (found : (deployment.play moves (.fresh .empty)).store.record? id = some record) :
    record.Recalls (correspondence id (deployment.history moves (.fresh .empty))) := by
  apply episode_induction quiet
    (fun passages record => record.Recalls (correspondence id passages)) moves _ found
  intro moves move record before passages passage stored episode unknown recalls
  rw [correspondence_append]
  cases episode with
  | kept earlier version found silent =>
      rw [silent, List.append_nil]
      exact (recalls earlier found).restamped _ version _
  | opened record unknownBefore silent received unfailed =>
      rw [silent, List.append_nil, unknown unknownBefore]
      exact .of_received received
  | failed earlier updated version found silent =>
      rw [silent, List.append_nil]
      exact .of_terminal (recalls earlier found).threaded rfl
  | refused request now visit takes called undrafted =>
      have formed := deployment.wellFormed_of_record? moves takes.found
      rw [called, takes.exchanges_eq_nil (recalls _ takes.found) formed undrafted, List.map_nil,
        List.append_nil]
      exact recalls _ takes.found
  | stored request now visit takes called draft drafted =>
      have formed := deployment.wellFormed_of_record? moves takes.found
      rw [called]
      exact (takes.draft_recalls (recalls _ takes.found) formed drafted).restamped _ _ _

/-- A code is requested at most once for an authorisation. Every call for it carries the PSU that
it is bound to and the correlation data of the answer to that request, a code is requested for a
method that was offered, and a code is confirmed as submitted, with the challenge of the answer. -/
theorem calls_correlated (deployment : Deployment) (quiet : deployment.bank.Quiet)
    (moves : List Move) (id : String) :
    let talk := correspondence id (deployment.history moves (.fresh .empty))
    talk.countP (·.2.call.query.task = .requestCode) ≤ 1 ∧
    ∀ earlier request exchange later, talk = earlier ++ (request, exchange) :: later →
      ∃ record,
        (deployment.play moves (.fresh .empty)).store.record? id = some record ∧
        Correlates record.knownPsu earlier request exchange.call := by
  intro talk
  cases found : (deployment.play moves (.fresh .empty)).store.record? id with
  | none =>
      have silent : talk = [] := deployment.correspondence_eq_nil moves found
      rw [silent]
      refine ⟨Nat.zero_le 1, ?_⟩
      intro earlier request exchange later split
      simp at split
  | some record =>
      have threaded := (recalls_of_record? quiet moves found).threaded
      refine ⟨threaded.countP_le_one, ?_⟩
      intro earlier request exchange later split
      exact ⟨record, rfl, threaded.correlates_of_split split⟩

/-- The code of a payment is confirmed with the data of the bank's answer. -/
theorem code_confirmed_with_grant :
    let deployment := Deployment.simulated .standard
    let talk := correspondence "first" (deployment.history embeddedMoves (.fresh .empty))
    talk.countP (·.2.call.query.task = .requestCode) ≤ 1 ∧
    ∃ earlier request exchange later code grant, talk = earlier ++ (request, exchange) :: later ∧
      request.code = some code ∧ grant? earlier = some grant ∧
      exchange.call.query = .confirm code grant.challenge ∧
      exchange.call.bankData = grant.bankData := by
  intro deployment talk
  have confirmed : talk.any (·.2.call.query.task = .confirm) = true := by decide +kernel
  rcases deployment.calls_correlated SimulatedBank.standard.quiet embeddedMoves "first"
    with ⟨once, correlated⟩
  refine ⟨once, ?_⟩
  rcases List.any_eq_true.mp confirmed with ⟨⟨request, exchange⟩, member, confirms⟩
  rcases List.append_of_mem member with ⟨earlier, later, split⟩
  rcases correlated earlier request exchange later split with ⟨record, _, correlates⟩
  cases query : exchange.call.query with
  | confirm code challenge =>
      rcases correlates.challenged code challenge query with ⟨submitted, grant, granted, rfl⟩
      refine ⟨earlier, request, exchange, later, code, grant, split, submitted, granted, query, ?_⟩
      rw [correlates.bankData, granted]
      rfl
  | authenticate password | listMethods | requestCode method | execute =>
      simp [query] at confirms

end Deployment

end StrongAuth
