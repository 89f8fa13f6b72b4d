import StrongAuth.Proofs.Answers
import StrongAuth.Proofs.Factors
import StrongAuth.Proofs.Refusals

/-! # Wrong attempts

What a stage makes of a credential or a code that the bank finds wrong: one more attempt is
counted, and the first factor has bound the PSU of the request before the bank was asked. Main
statement: as long as attempts are left, the record is stored with the attempt counted and with
that PSU if it had none, and nothing else about it or its resource changes. -/

namespace StrongAuth

/-- The bank has found a credential or a code wrong and allows another attempt. -/
def Exchange.wrong (exchange : Exchange) : Bool :=
  exchange.authentication? = some .attemptFailure ||
    exchange.confirmation?.any (·.2 = .attemptFailure)

/-- The copy of a record in which a wrong attempt is counted. Before the first factor is passed,
it is bound to the PSU that the request names, unless it is bound already. -/
def Authorisation.counted (request : Request) (record : Authorisation) : Authorisation :=
  { record with
    psu := if record.status.rank < 2 then record.psu.or request.submittedPsu else record.psu
    failedAttempts := record.failedAttempts + 1 }

/-- The copy that a wrong attempt asks to be stored: the last one that is left fails the
authorisation, an earlier one is only counted. -/
def Authorisation.attempted (limit : Nat) (request : Request) (record : Authorisation) :
    Authorisation :=
  { record.counted request with
    status := if record.failedAttempts.toNat + 1 = limit then .failed else record.status }

namespace Stage

open Dialogue

variable {input : Input} {record copy : Authorisation} {exchanges : List Exchange}
  {verdict : Verdict}

/-! ## Conversations without a wrong attempt -/

/-- The conversation has no wrong attempt and keeps the count, and if the verdict advances, it is
beyond the first factor. -/
structure Clean (record : Authorisation) (exchanges : List Exchange) (verdict : Verdict) :
    Prop where
  right : ∀ exchange ∈ exchanges, exchange.wrong = false
  decided : ∀ refusal, verdict.outcome ≠ .retry refusal
  kept : verdict.record.failedAttempts = record.failedAttempts
  forward : ∀ status, verdict.outcome = .advance status → 2 ≤ status.rank

/-- Beside that, the verdict advances to a terminal status only. -/
structure CleanEnd (record : Authorisation) (exchanges : List Exchange) (verdict : Verdict) :
    Prop extends Clean record exchanges verdict where
  terminal : ∀ status, verdict.outcome = .advance status → status.isTerminal = true

theorem Clean.of_not_advance (kept : verdict.record.failedAttempts = record.failedAttempts)
    (decided : ∀ refusal, verdict.outcome ≠ .retry refusal)
    (stays : ∀ status, verdict.outcome ≠ .advance status) : Clean record [] verdict where
  right := List.forall_mem_nil _
  decided := decided
  kept := kept
  forward status advances := absurd advances (stays status)

theorem Clean.after (clean : Clean copy exchanges verdict)
    (kept : copy.failedAttempts = record.failedAttempts) {first : Exchange}
    (right : first.wrong = false) : Clean record (first :: exchanges) verdict where
  right := List.forall_mem_cons.mpr ⟨right, clean.right⟩
  decided := clean.decided
  kept := clean.kept.trans kept
  forward := clean.forward

theorem CleanEnd.after (ends : CleanEnd copy exchanges verdict)
    (kept : copy.failedAttempts = record.failedAttempts) {first : Exchange}
    (right : first.wrong = false) : CleanEnd record (first :: exchanges) verdict where
  toClean := ends.toClean.after kept right
  terminal := ends.terminal

theorem refuse_clean (refusal : Refusal) : Clean record [] ⟨.refuse refusal, record⟩ :=
  .of_not_advance rfl (by simp) (by simp)

theorem fail_clean (refusal : Refusal) : Clean record [] ⟨.fail refusal, record⟩ :=
  .of_not_advance rfl (by simp) (by simp)

theorem bankFailed_clean (task : Task) (fault : BankFault) :
    Clean record [] (bankFailed record task fault) :=
  fail_clean _

theorem finalise_clean {status : Status} (successful : status.isSuccessful = true) :
    Ensures (finalise input record status) (CleanEnd record) := by
  have terminal := Status.isTerminal_of_isSuccessful successful
  unfold finalise
  rw [ensures_consult]
  intro answer
  cases answer with
  | error fault =>
      exact ⟨(bankFailed_clean _ fault).after rfl rfl, by simp [bankFailed]⟩
  | ok done =>
      refine ⟨⟨List.forall_mem_singleton.mpr rfl, by simp, rfl, ?_⟩, ?_⟩
      · intro later advances
        cases advances
        rw [(status.isTerminal_iff_rank).mp terminal]
        decide
      · intro later advances
        cases advances
        exact terminal

theorem exempt_clean : Ensures (exempt input record) (CleanEnd record) := by
  apply finalise_clean
  split <;> rfl

theorem issueChallenge_clean (method : Method) :
    Ensures (issueChallenge input record method) (Clean record) := by
  unfold issueChallenge
  cases chosen : record.choose method with
  | error earlier => exact refuse_clean _
  | ok copy =>
      have kept : copy.failedAttempts = record.failedAttempts := by
        unfold Authorisation.choose at chosen
        split at chosen
        · cases chosen
        · cases chosen
          rfl
      dsimp only
      rw [ensures_consult]
      intro answer
      cases answer with
      | error fault => exact (bankFailed_clean _ fault).after kept rfl
      | ok grant =>
          dsimp only
          split
          · apply exempt_clean.mono
            intro exchanges verdict ends
            exact ends.toClean.after kept rfl
          · refine ⟨List.forall_mem_singleton.mpr rfl, by simp, kept, ?_⟩
            intro status advances
            cases advances
            decide

theorem offerMethods_clean : Ensures (offerMethods input record) (Clean record) := by
  unfold offerMethods
  rw [ensures_consult]
  intro answer
  rcases answer with fault | _ | ⟨method, _ | ⟨second, others⟩⟩
  · exact (bankFailed_clean _ fault).after rfl rfl
  · dsimp only
    split
    · apply (finalise_clean rfl).mono
      intro exchanges verdict ends
      exact ends.toClean.after rfl rfl
    · exact (fail_clean _).after rfl rfl
  · apply (issueChallenge_clean method).mono
    intro exchanges verdict clean
    exact clean.after (by rfl) (by rfl)
  · refine ⟨List.forall_mem_singleton.mpr rfl, by simp, rfl, ?_⟩
    intro status advances
    cases advances
    decide

theorem afterAuthentication_clean :
    Ensures (afterAuthentication input record) (Clean { record with failedAttempts := 0 }) := by
  simp only [afterAuthentication]
  split
  · exact (finalise_clean rfl).mono fun _ _ ends => ends.toClean
  · exact offerMethods_clean

/-! ## The count of attempts -/

/-- How a conversation counts: it ends with a wrong credential of a known PSU or with a wrong
code, or it has no wrong attempt. Then the count starts anew if the first factor was passed. -/
inductive Counts (input : Input) (record : Authorisation) :
    List Exchange → Verdict → Prop
  | first (exchange : Exchange) (wrong : exchange.authentication? = some .attemptFailure)
      (unproven : record.status.rank < 2)
      (known : (record.psu.or input.request.submittedPsu).isSome = true) :
      Counts input record [exchange]
        (attemptFailed input { record with psu := record.psu.or input.request.submittedPsu } .first)
  | second (exchange : Exchange) (code : String)
      (wrong : exchange.confirmation? = some (code, .attemptFailure))
      (challenged : record.status = .scaMethodSelected) :
      Counts input record [exchange] (attemptFailed input record .second)
  | none (exchanges : List Exchange) (verdict : Verdict)
      (right : ∀ exchange ∈ exchanges, exchange.wrong = false)
      (decided : ∀ refusal, verdict.outcome ≠ .retry refusal)
      (count : ∀ status, verdict.outcome = .advance status → status.isTerminal = false →
        verdict.record.failedAttempts =
          if record.status.rank < 2 ∧ 2 ≤ status.rank then 0 else record.failedAttempts) :
      Counts input record exchanges verdict

/-- Beyond the first factor the count goes on. -/
theorem Clean.counts_of_proven (clean : Clean record exchanges verdict)
    (proven : 2 ≤ record.status.rank) : Counts input record exchanges verdict := by
  refine .none exchanges verdict clean.right clean.decided ?_
  intro status _ _
  rw [if_neg (fun unproven => absurd unproven.1 (Nat.not_lt.mpr proven))]
  exact clean.kept

/-- By the first factor the count starts anew. -/
theorem Clean.counts_of_unproven (clean : Clean copy exchanges verdict)
    (unproven : record.status.rank < 2) (anew : copy.failedAttempts = 0) :
    Counts input record exchanges verdict := by
  refine .none exchanges verdict clean.right clean.decided ?_
  intro status advances _
  rw [if_pos ⟨unproven, clean.forward status advances⟩]
  exact clean.kept.trans anew

theorem CleanEnd.counts (ends : CleanEnd copy exchanges verdict) :
    Counts input record exchanges verdict := by
  refine .none exchanges verdict ends.right ends.decided ?_
  intro status advances live
  rw [ends.terminal status advances] at live
  cases live

theorem Counts.of_refuse (refusal : Refusal) : Counts input record [] ⟨.refuse refusal, copy⟩ :=
  .none _ _ (List.forall_mem_nil _) (by simp) (by simp)

theorem Counts.of_fail {exchanges : List Exchange} (refusal : Refusal)
    (right : ∀ exchange ∈ exchanges, exchange.wrong = false) :
    Counts input record exchanges ⟨.fail refusal, copy⟩ :=
  .none _ _ right (by simp) (by simp)

theorem authenticate_counts
    (unproven : record.status = .received ∨ record.status = .psuIdentified) :
    Ensures (authenticate input record) (Counts input record) := by
  have early : record.status.rank < 2 := by
    rcases unproven with status | status <;> rw [status] <;> decide
  simp only [authenticate]
  rcases input.evidence.authentication input.request with _ | password | code | _ | _
  · dsimp only
    split
    · exact .of_refuse _
    · split
      · refine .none _ _ (List.forall_mem_nil _) (by simp) ?_
        intro status advances _
        cases advances
        rw [if_neg (fun both => absurd both.2 (by decide))]
      · exact .of_refuse _
  · dsimp only
    split
    · exact .of_refuse _
    · next named =>
        have known : (record.psu.or input.request.submittedPsu).isSome = true := by
          cases bound : record.psu.or input.request.submittedPsu with
          | none => exact absurd (by rw [bound]; rfl) named
          | some psu => rfl
        rw [ensures_consult]
        intro answer
        rcases answer with fault | _ | _ | _ | _
        · exact .of_fail _ (List.forall_mem_singleton.mpr rfl)
        · apply afterAuthentication_clean.mono
          intro exchanges verdict clean
          exact Clean.counts_of_unproven (clean.after (by rfl) (by rfl)) early rfl
        · apply exempt_clean.mono
          intro exchanges verdict ends
          exact CleanEnd.counts (ends.after (by rfl) (by rfl))
        · exact .first _ rfl early known
        · exact .of_fail _ (List.forall_mem_singleton.mpr rfl)
  · exact .of_refuse _
  · apply afterAuthentication_clean.mono
    intro exchanges verdict clean
    exact clean.counts_of_unproven early rfl
  · exact .of_fail _ (List.forall_mem_nil _)

theorem selectMethod_counts (authenticated : record.status = .psuAuthenticated) :
    Ensures (selectMethod input record) (Counts input record) := by
  have proven : 2 ≤ record.status.rank := by rw [authenticated]; decide
  unfold selectMethod
  split
  · exact offerMethods_clean.mono fun _ _ clean => clean.counts_of_proven proven
  · split
    · exact .of_refuse _
    · split
      · exact (issueChallenge_clean _).mono fun _ _ clean => clean.counts_of_proven proven
      · exact .of_refuse _

theorem confirmCode_counts (challenged : record.status = .scaMethodSelected) (code : String) :
    Ensures (confirmCode input record code) (Counts input record) := by
  unfold confirmCode
  split
  · split
    · exact (finalise_clean rfl).mono fun _ _ ends => ends.counts
    · exact .of_fail _ (List.forall_mem_nil _)
  · rw [ensures_consult]
    intro answer
    rcases answer with fault | _ | _ | _ | _
    · exact .of_fail _ (List.forall_mem_singleton.mpr rfl)
    · apply (finalise_clean rfl).mono
      intro exchanges verdict ends
      exact CleanEnd.counts (ends.after (by rfl) (by rfl))
    · apply exempt_clean.mono
      intro exchanges verdict ends
      exact CleanEnd.counts (ends.after (by rfl) (by rfl))
    · exact .second _ code rfl challenged
    · exact .of_fail _ (List.forall_mem_singleton.mpr rfl)

theorem confirm_counts (challenged : record.status = .scaMethodSelected) :
    Ensures (confirm input record) (Counts input record) := by
  unfold confirm
  rcases input.evidence.confirmation record input.request with _ | password | code | _ | _
  · dsimp only
    split
    · exact .of_refuse _
    · exact .of_refuse _
  · exact .of_refuse _
  · exact confirmCode_counts challenged code
  · exact (finalise_clean rfl).mono fun _ _ ends => ends.counts
  · exact .of_fail _ (List.forall_mem_nil _)

theorem handle_counts (input : Input) (record : Authorisation) :
    Ensures (handle record.status input record) (Counts input record) := by
  cases status : record.status with
  | received => exact authenticate_counts (.inl status)
  | psuIdentified => exact authenticate_counts (.inr status)
  | psuAuthenticated => exact selectMethod_counts status
  | scaMethodSelected => exact confirm_counts status
  | finalised => exact .of_refuse _
  | failed => exact .of_refuse _
  | exempted => exact .of_refuse _

/-! ## What a wrong attempt comes to -/

/-- A wrong attempt as a verdict. -/
structure Wrong (input : Input) (record : Authorisation) (exchanges : List Exchange)
    (verdict : Verdict) : Prop where
  single : ∃ exchange, exchanges = [exchange] ∧ exchange.wrong = true
  copy : verdict.record = record.counted input.request
  known : record.status.rank < 2 → (record.psu.or input.request.submittedPsu).isSome = true
  outcome : ∃ factor, verdict.outcome =
    if input.policy.maxAttempts ≤ record.failedAttempts + 1 then .fail (.attemptFailed factor 0)
    else .retry (.attemptFailed factor
      (input.policy.maxAttempts.toNat - (record.failedAttempts + 1).toNat))

theorem attemptFailed_outcome (input : Input) (record : Authorisation) (factor : Factor) :
    (attemptFailed input record factor).outcome =
      if input.policy.maxAttempts ≤ record.failedAttempts + 1 then .fail (.attemptFailed factor 0)
      else .retry (.attemptFailed factor
        (input.policy.maxAttempts.toNat - (record.failedAttempts + 1).toNat)) := by
  unfold attemptFailed
  dsimp only
  split <;> rfl

theorem attemptFailed_record (input : Input) (record : Authorisation) (factor : Factor) :
    (attemptFailed input record factor).record =
      { record with failedAttempts := record.failedAttempts + 1 } := by
  unfold attemptFailed
  dsimp only
  split <;> rfl

/-- Whoever has an attempt counted has made a wrong one, and the other way around. -/
theorem Counts.wrong (counts : Counts input record exchanges verdict)
    (wrong : ∃ exchange ∈ exchanges, exchange.wrong = true) :
    Wrong input record exchanges verdict := by
  cases counts with
  | first exchange failed unproven known =>
      have sameRecord := attemptFailed_record input
        { record with psu := record.psu.or input.request.submittedPsu } .first
      refine ⟨⟨exchange, rfl, by simp [Exchange.wrong, failed]⟩, ?_, ?_, .first, ?_⟩
      · rw [sameRecord, Authorisation.counted, if_pos unproven]
      · exact fun _ => known
      · exact attemptFailed_outcome _ _ _
  | second exchange code failed challenged =>
      have proven : ¬ record.status.rank < 2 := by rw [challenged]; decide
      refine ⟨⟨exchange, rfl, by simp [Exchange.wrong, failed]⟩, ?_, ?_, .second, ?_⟩
      · rw [attemptFailed_record, Authorisation.counted, if_neg proven]
      · exact fun unproven => absurd unproven proven
      · exact attemptFailed_outcome _ _ _
  | none exchanges verdict right =>
      rcases wrong with ⟨exchange, asked, failed⟩
      rw [right exchange asked] at failed
      cases failed

/-- As long as the limit is not reached, the count does not wrap around. -/
theorem toNat_counted {count limit : UInt32} (below : count.toNat < limit.toNat) :
    (count + 1).toNat = count.toNat + 1 := by
  have bound := limit.toNat_lt
  rw [UInt32.toNat_add, UInt32.toNat_one, Nat.mod_eq_of_lt (by omega)]

/-- Up to the limit a wrong attempt asks for the copy in which it is counted, and fails the
authorisation if it is the last one. -/
theorem Wrong.draft?_eq (wrong : Wrong input record exchanges verdict)
    (below : record.failedAttempts.toNat < input.policy.maxAttempts.toNat) :
    verdict.draft? input.policy.exemption record.status =
        some (record.attempted input.policy.maxAttempts.toNat input.request) ∧
      ∃ factor, verdict.outcome.refusal? = some (.attemptFailed factor
        (input.policy.maxAttempts.toNat - (record.failedAttempts.toNat + 1))) := by
  have counted := toNat_counted below
  have reached : input.policy.maxAttempts ≤ record.failedAttempts + 1 ↔
      input.policy.maxAttempts.toNat ≤ record.failedAttempts.toNat + 1 := by
    rw [UInt32.le_iff_toNat_le, counted]
  rcases wrong.outcome with ⟨factor, outcome⟩
  unfold Verdict.draft? Authorisation.attempted
  by_cases last : record.failedAttempts.toNat + 1 = input.policy.maxAttempts.toNat
  · rw [if_pos (reached.mpr (Nat.le_of_eq last.symm))] at outcome
    rw [outcome, if_pos last, wrong.copy, last, Nat.sub_self]
    exact ⟨rfl, factor, rfl⟩
  · rw [if_neg (fun last => by have := reached.mp last; omega), counted] at outcome
    rw [outcome, if_neg last, wrong.copy]
    exact ⟨rfl, factor, rfl⟩

end Stage

namespace Visit.Takes

variable {deployment : Deployment} {id : String} {request : Request} {now : Time.Timestamp}
  {before after : World MemoryStore} {visit : Visit}

theorem counts (takes : visit.Takes deployment id request now before after) :
    Stage.Counts (visit.input deployment.node.policy request) visit.record visit.exchanges
      visit.verdict :=
  (Stage.handle_counts _ _).of_yields takes.yields

theorem draft_of_wrong (takes : visit.Takes deployment id request now before after)
    (wrong : ∃ exchange ∈ visit.exchanges, exchange.wrong = true)
    (below : visit.record.failedAttempts.toNat < deployment.node.policy.maxAttempts.toNat) :
    visit.draft? deployment.node.policy =
        some (visit.record.attempted deployment.node.policy.maxAttempts.toNat request) ∧
      ∃ factor, visit.verdict.outcome.refusal? = some (.attemptFailed factor
        (deployment.node.policy.maxAttempts.toNat - (visit.record.failedAttempts.toNat + 1))) :=
  (takes.counts.wrong wrong).draft?_eq below

end Visit.Takes

namespace Deployment

variable {deployment : Deployment} {id : String} {request : Request} {now : Time.Timestamp}
  {before : World MemoryStore}

/-- An update during which the bank is called answers and stores as its visit is concluded. -/
theorem concluded_of_call (called : Passage.calls ⟨.operate ⟨.update id request, now⟩, before,
      (deployment.perform ⟨.update id request, now⟩ before).2⟩ ≠ []) :
    let result := deployment.perform ⟨.update id request, now⟩ before
    ∃ visit talked conclusion, Visit.Takes visit deployment id request now before result.2 ∧
      talked.store = visit.interference.foldl Store.interfere before.store ∧
      Concluded deployment.node visit now talked conclusion ∧
      result.1 = conclusion.1 ∧ result.2.store = conclusion.2.store := by
  intro result
  rcases Node.runAction_update deployment.partner deployment.node id request now before
    with ⟨busy, idle, ran⟩
  let taken : World MemoryStore := { before with locks := busy }
  have processed := Node.process_processed deployment id request now taken
  have spoke (silent : (World.runAction deployment.partner
      (deployment.node.process id request now) taken).2.exchanges = before.exchanges) : False := by
    apply called
    apply Passage.calls_eq
    rw [List.append_nil]
    exact (congrArg (·.2.exchanges) ran).trans silent
  change result = _ at ran
  generalize World.runAction deployment.partner (deployment.node.process id request now) taken =
    done at processed spoke ran
  cases processed with
  | refused refusal cause ended => exact (spoke (by rw [ended])).elim
  | expired record found overdue ended =>
      have expires := @Node.expire_isAt now deployment.partner taken record
      have silent : done.2.IsAt (taken.store.commit now { record with status := .failed })
          taken.exchanges := by
        rw [ended]
        apply expires.bind
        intro saved later reached
        exact reached
      exact (spoke silent.exchanges_eq).elim
  | visited visit takes ended =>
      refine ⟨visit, taken.afterTalk visit.interference visit.exchanges, done, ?_, rfl, ?_, ?_, ?_⟩
      · rw [ran]
        exact { takes with state := ⟨takes.state.store_eq, takes.state.exchanges_eq⟩ }
      · rw [ended]
        exact takes.concluded
      · rw [ran]
      · rw [ran]

/-- Up to the limit a wrong attempt is stored and answered as such, unless someone else has saved
the record in the meantime. -/
theorem concluded_of_wrong {record : Authorisation}
    (found : before.store.record? id = some record)
    (wrong : ∃ exchange ∈ Passage.calls ⟨.operate ⟨.update id request, now⟩, before,
      (deployment.perform ⟨.update id request, now⟩ before).2⟩, exchange.wrong = true)
    (below : record.failedAttempts.toNat < deployment.node.policy.maxAttempts.toNat) :
    let result := deployment.perform ⟨.update id request, now⟩ before
    let limit := deployment.node.policy.maxAttempts.toNat
    let attempted := record.attempted limit request
    ∃ visit, Visit.Takes visit deployment id request now before result.2 ∧
      visit.record = record ∧ (∃ exchange ∈ visit.exchanges, exchange.wrong = true) ∧
      visit.draft? deployment.node.policy = some attempted ∧
      let meanwhile := visit.interference.foldl Store.interfere before.store
      (meanwhile.Current attempted ∧ result.2.store = meanwhile.commit now attempted ∧
        ∃ factor, result.1 = .error (.refused (.attemptFailed factor
          (limit - (record.failedAttempts.toNat + 1))))) ∨
      ∃ version ≠ record.version, meanwhile.record? id = some { record with version } ∧
        result.1 = .error (.refused .modifiedConcurrently) ∧ result.2.store = meanwhile := by
  intro result limit attempted
  rcases wrong with ⟨exchange, asked, wrong⟩
  rcases concluded_of_call (List.ne_nil_of_mem asked)
    with ⟨visit, talked, conclusion, takes, meanwhile, concluded, answers, stores⟩
  have sameRecord : visit.record = record := Option.some.inj (takes.found.symm.trans found)
  subst sameRecord
  rw [Passage.calls_eq takes.state.exchanges_eq] at asked
  have failed : ∃ exchange ∈ visit.exchanges, exchange.wrong = true := ⟨exchange, asked, wrong⟩
  rcases takes.draft_of_wrong failed below with ⟨drafted, factor, refusal⟩
  refine ⟨visit, takes, rfl, failed, drafted, ?_⟩
  dsimp only
  rw [← meanwhile]
  cases concluded with
  | refused reason refuses ran =>
      unfold Visit.draft? Stage.Verdict.draft? at drafted
      rw [refuses] at drafted
      cases drafted
  | overtaken version changed seen ran =>
      rw [takes.id_eq] at seen
      rw [ran] at answers stores
      exact .inr ⟨version, changed, seen, answers, stores⟩
  | stored draft again current ran =>
      cases drafted.symm.trans again
      rw [ran] at answers stores
      refine .inl ⟨current, stores, factor, ?_⟩
      rw [answers, Stage.Verdict.answer, refusal]

/-- A wrong attempt that is not the last one is counted, unless someone else has saved the record
in the meantime. A record without a PSU is bound to the one that the request names; beside that
only version and time change. -/
theorem wrong_attempt_counted (deployment : Deployment) {id : String} {request : Request}
    {now : Time.Timestamp} {before : World MemoryStore} {record : Authorisation}
    (found : before.store.record? id = some record)
    (wrong : ∃ exchange ∈ Passage.calls ⟨.operate ⟨.update id request, now⟩, before,
      (deployment.perform ⟨.update id request, now⟩ before).2⟩, exchange.wrong = true)
    (below : record.failedAttempts.toNat + 1 < deployment.node.policy.maxAttempts.toNat) :
    let result := deployment.perform ⟨.update id request, now⟩ before
    ∃ interference : List Interference, (deployment.bank.Quiet → interference = []) ∧
      let meanwhile := interference.foldl Store.interfere before.store
      ((record.status.rank < 2 → (record.psu.or request.submittedPsu).isSome = true) ∧
        result.2.store = meanwhile.replace { record with
          psu := if record.status.rank < 2 then record.psu.or request.submittedPsu else record.psu
          failedAttempts := record.failedAttempts + 1
          version := record.version + 1
          updated := now } ∧
        ∃ factor, result.1 = .error (.refused (.attemptFailed factor
          (deployment.node.policy.maxAttempts.toNat - (record.failedAttempts.toNat + 1))))) ∨
      ∃ version ≠ record.version, meanwhile.record? id = some { record with version } ∧
        result.1 = .error (.refused .modifiedConcurrently) ∧ result.2.store = meanwhile := by
  rcases concluded_of_wrong found wrong (Nat.lt_of_succ_lt below)
    with ⟨visit, takes, rfl, failed, _, outcome⟩
  refine ⟨visit.interference, takes.undisturbed, ?_⟩
  rcases outcome with ⟨current, stored, answered⟩ | overtaken
  · left
    refine ⟨(takes.counts.wrong failed).known, ?_, answered⟩
    rw [stored, MemoryStore.commit_of_current current]
    simp only [Authorisation.attempted, if_neg (Nat.ne_of_lt below), takes.live,
      Bool.false_eq_true, if_false]
    rfl
  · exact .inr overtaken

/-- A guessed password binds an authorisation without a PSU to the one that was guessed for. -/
theorem wrong_password_binds_psu :
    let deployment := Deployment.simulated .standard
    let world := (deployment.run startedSteps (.fresh MemoryStore.empty)).2
    ∃ record, world.store.record? "first" = some record ∧ record.psu = none ∧
      (deployment.perform ⟨.update "first" wrongPassword, .epoch⟩ world).2.store =
        world.store.replace { record with
          psu := wrongPassword.psu, failedAttempts := 1, version := 1, updated := .epoch } ∧
      ∃ factor, (deployment.perform ⟨.update "first" wrongPassword, .epoch⟩ world).1 =
        .error (.refused (.attemptFailed factor 2)) := by
  intro deployment world
  have started : (world.store.record? "first").map (fun record =>
      (record.psu, record.status, record.failedAttempts, record.version)) =
        some (none, .received, 0, 0) := by decide +kernel
  rcases Option.map_eq_some_iff.mp started with ⟨record, found, facts⟩
  simp only [Prod.mk.injEq] at facts
  rcases facts with ⟨anonymous, received, unfailed, unsaved⟩
  have wrong : (Passage.calls ⟨.operate ⟨.update "first" wrongPassword, .epoch⟩, world,
      (deployment.perform ⟨.update "first" wrongPassword, .epoch⟩ world).2⟩).any
      Exchange.wrong = true := by decide +kernel
  have below : record.failedAttempts.toNat + 1 < deployment.node.policy.maxAttempts.toNat := by
    rw [unfailed]
    decide
  rcases deployment.wrong_attempt_counted found (List.any_eq_true.mp wrong) below
    with ⟨interference, undisturbed, outcome⟩
  cases undisturbed SimulatedBank.standard.quiet
  refine ⟨record, found, anonymous, ?_⟩
  rcases outcome with ⟨_, stored, factor, refused⟩ | ⟨version, changed, seen, _⟩
  · have bound : (if record.status.rank < 2 then record.psu.or wrongPassword.submittedPsu
        else record.psu) = wrongPassword.psu := by
      rw [received, anonymous]
      rfl
    have counted : record.failedAttempts + 1 = 1 := by rw [unfailed]; rfl
    have saved : record.version + 1 = 1 := by rw [unsaved]; rfl
    have left : deployment.node.policy.maxAttempts.toNat - (record.failedAttempts.toNat + 1) =
        2 := by
      rw [unfailed]
      decide
    rw [bound, counted, saved, List.foldl_nil] at stored
    rw [left] at refused
    exact ⟨stored, factor, refused⟩
  · rw [List.foldl_nil, found] at seen
    have same := congrArg Authorisation.version (Option.some.inj seen)
    exact absurd same.symm changed

end Deployment

end StrongAuth
