import StrongAuth.Bank.Scripted
import StrongAuth.Proofs.AnyStore
import StrongAuth.Proofs.Execution
import StrongAuth.Proofs.Expiry

/-! # Calls that the bank does not answer

A call that is not answered ends the conversation. Main statement: as long as nobody else uses the
store meanwhile, the call was the last one and the authorisation is stored as failed; then its
parent has its status derived once more, and the answer tells which kind of call it was. Tables
where some authorisation of the parent cannot be read get no further than the failed one, and
their fault is the answer. -/

namespace StrongAuth

/-- The kind of the answer to a request for which a call was not answered. -/
def BankFault.refusalKind : Task → BankFault → RefusalKind
  | .authenticate, .rejected _ => .credentialsInvalid
  | .requestCode, .rejected _ => .methodUnknown
  | .confirm, .rejected _ => .scaInvalid
  | _, _ => .serviceUnavailable

theorem Refusal.kind_bankFailed (task : Task) (fault : BankFault) :
    (Refusal.bankFailed task fault).kind = fault.refusalKind task := by
  cases task <;> cases fault <;> rfl

namespace Stage

/-- After a call that is not answered no other one is made, and the authorisation is to fail for
it. -/
def Heeds : Dialogue Verdict → Prop
  | .done _ => True
  | .ask call next =>
      (∀ fault, ∃ copy, next (.error fault) = .done (bankFailed copy call.query.task fault)) ∧
        ∀ answer, Heeds (next (.ok answer))

/-- A call that is not answered was the last one. -/
theorem Heeds.last {dialogue : Dialogue Verdict} (heeds : Heeds dialogue)
    {earlier later : List Exchange} {exchange : Exchange} {fault : BankFault} {verdict : Verdict}
    (yields : dialogue.Yields (earlier ++ exchange :: later) verdict)
    (failed : exchange.answer = .error fault) :
    later = [] ∧ ∃ copy, verdict = bankFailed copy exchange.call.query.task fault := by
  induction dialogue generalizing earlier with
  | done value => simp [Dialogue.Yields] at yields
  | ask call next induction =>
      rcases yields with ⟨answer, rest, split, yields⟩
      cases earlier with
      | nil =>
          cases split
          rcases heeds.1 fault with ⟨copy, ends⟩
          dsimp only at failed
          rw [failed, ends] at yields
          exact ⟨yields.1, copy, yields.2⟩
      | cons first others =>
          cases split
          cases answer with
          | ok answer => exact induction (.ok answer) (heeds.2 answer) yields
          | error earlierFault =>
              rcases heeds.1 earlierFault with ⟨copy, ends⟩
              rw [ends] at yields
              simp [Dialogue.Yields] at yields

/-! ## Stage by stage -/

variable (input : Input) (record : Authorisation)

theorem heeds_consult {query : Query} {next : Except BankFault query.task.Answer →
      Dialogue Verdict}
    (fails : ∀ fault, ∃ copy, next (.error fault) = .done (bankFailed copy query.task fault))
    (goesOn : ∀ answer, Heeds (next (.ok answer))) :
    Heeds (consult input record query >>= next) :=
  ⟨fails, goesOn⟩

theorem finalise_heeds (status : Status) : Heeds (finalise input record status) :=
  heeds_consult input record (fun _ => ⟨record, rfl⟩) fun _ => trivial

theorem exempt_heeds : Heeds (exempt input record) :=
  finalise_heeds input record _

theorem issueChallenge_heeds (method : Method) : Heeds (issueChallenge input record method) := by
  unfold issueChallenge
  cases record.choose method with
  | error earlier => trivial
  | ok copy =>
      apply heeds_consult input copy fun _ => ⟨copy, rfl⟩
      intro grant
      dsimp only
      split
      · exact exempt_heeds input _
      · trivial

theorem offerMethods_heeds : Heeds (offerMethods input record) := by
  apply heeds_consult input record fun _ => ⟨record, rfl⟩
  rintro (_ | ⟨method, _ | ⟨second, others⟩⟩)
  · dsimp only
    split
    · exact finalise_heeds input record _
    · trivial
  · exact issueChallenge_heeds input _ method
  · trivial

theorem afterAuthentication_heeds : Heeds (afterAuthentication input record) := by
  unfold afterAuthentication
  dsimp only
  split
  · exact finalise_heeds input _ _
  · exact offerMethods_heeds input _

theorem authenticate_heeds : Heeds (authenticate input record) := by
  unfold authenticate
  dsimp only
  rcases input.evidence.authentication input.request with _ | password | code | _ | _
  · dsimp only
    split
    · trivial
    · split <;> trivial
  · dsimp only
    split
    · trivial
    · apply heeds_consult input _ fun _ => ⟨_, rfl⟩
      rintro (_ | _ | _ | _)
      · exact afterAuthentication_heeds input _
      · exact exempt_heeds input _
      · trivial
      · trivial
  · trivial
  · exact afterAuthentication_heeds input _
  · trivial

theorem selectMethod_heeds : Heeds (selectMethod input record) := by
  unfold selectMethod
  split
  · exact offerMethods_heeds input record
  · split
    · trivial
    · split
      · exact issueChallenge_heeds input record _
      · trivial

theorem confirmCode_heeds (code : String) : Heeds (confirmCode input record code) := by
  unfold confirmCode
  split
  · split
    · exact finalise_heeds input record _
    · trivial
  · apply heeds_consult input record fun _ => ⟨record, rfl⟩
    rintro (_ | _ | _ | _)
    · exact finalise_heeds input record _
    · exact exempt_heeds input record
    · trivial
    · trivial

theorem confirm_heeds : Heeds (confirm input record) := by
  unfold confirm
  rcases input.evidence.confirmation record input.request with _ | password | code | _ | _
  · dsimp only
    split <;> trivial
  · trivial
  · exact confirmCode_heeds input record code
  · exact finalise_heeds input record _
  · trivial

theorem handle_heeds (status : Status) : Heeds (handle status input record) := by
  cases status with
  | received => exact authenticate_heeds input record
  | psuIdentified => exact authenticate_heeds input record
  | psuAuthenticated => exact selectMethod_heeds input record
  | scaMethodSelected => exact confirm_heeds input record
  | finalised => trivial
  | failed => trivial
  | exempted => trivial

end Stage

/-! ## On any store -/

/-- How a request ends that is to be refused once its authorisation is failed: a copy is stored as
failed, and the refusal comes after the status of its resource. A fault in the way of that is
answered instead. -/
structure FailsFor {σ : Type} [Store σ] (now : Time.Timestamp) (copy : Authorisation)
    (refusal : Refusal) (before stored after : σ) (answer : Except Failure UpdateResponse) :
    Prop where
  saves : Store.save { copy with status := .failed, updated := now } before =
    .ok (copy.lapsed now, stored)
  projected : ∀ projection, Store.project copy.parent stored = .ok projection →
    answer = .error (.refused refusal) ∧ after = projection.store
  unprojected : ∀ fault, Store.project copy.parent stored = .error fault →
    answer = .error (.faulted fault) ∧ after = stored

section

variable {σ : Type} [Store σ] [LawfulStore σ] {node : Node} {partner : Partner} {world : World σ}
  {id : String} {request : Request} {now : Time.Timestamp} {earlier later : List Exchange}
  {exchange : Exchange} {fault : BankFault}

theorem Node.failsFor_of_conclude {status : Status} {verdict : Stage.Verdict} {refusal : Refusal}
    {record : Authorisation} (fails : verdict.outcome = .fail refusal)
    (read : Store.get verdict.record.id world.store = .ok (some record))
    (current : verdict.record.version = record.version) :
    let result := world.runAction partner (node.conclude status verdict now)
    ∃ stored, FailsFor now verdict.record refusal world.store stored result.2.store result.1 := by
  intro result
  let draft : Authorisation := { verdict.record with status := .failed }
  have reads : Store.get draft.id world.store = .ok (some record) := read
  rcases Store.exists_save_of_get reads current with ⟨stored, saves⟩
  have ran : result = _ := (congrArg (world.runAction partner) (conclude_of_fail fails)).trans
    (runAction_settle partner saves status fun _ => Action.refuse refusal)
  refine ⟨stored, saves, ?_, ?_⟩
  · intro projection projects
    have projects : Store.project (draft.saved now).parent stored = .ok projection := projects
    rw [ran, projects]
    exact ⟨rfl, rfl⟩
  · intro fault projects
    have projects : Store.project (draft.saved now).parent stored = .error fault := projects
    rw [ran, projects]
    exact ⟨rfl, rfl⟩

/-- What becomes of a request for which a call is not answered. -/
theorem Node.failsFor_of_process (quiet : partner.bank.Quiet)
    (called : (world.runAction partner (node.process id request now)).2.exchanges.drop
      world.exchanges.length = earlier ++ exchange :: later)
    (failed : exchange.answer = .error fault) :
    let result := world.runAction partner (node.process id request now)
    later = [] ∧ ∃ record copy resource refusal stored,
      Store.get id world.store = .ok (some record) ∧ Stage.Copies request record copy ∧
      Store.resource copy.parent world.store = .ok (some resource) ∧
      refusal.kind = fault.refusalKind exchange.call.query.task ∧
      FailsFor now copy refusal world.store stored result.2.store result.1 := by
  intro result
  rcases process_comes partner node id request now world with silent | ⟨visit, comes⟩
  · rw [silent, List.drop_length] at called
    exact absurd called.symm (List.append_ne_nil_of_right_ne_nil _ (List.cons_ne_nil _ _))
  rw [comes.exchanges_eq, List.drop_left] at called
  have yields := comes.yields
  rw [called] at yields
  rcases (Stage.handle_heeds _ _ _).last yields failed with ⟨last, copy, verdict⟩
  have copies : Stage.Copies request visit.record visit.verdict.record := comes.sound.copies
  have ran : result = _ := comes.ran
  rw [comes.undisturbed quiet] at ran
  have fails : visit.verdict.outcome = .fail (.bankFailed exchange.call.query.task fault) := by
    rw [verdict]
    rfl
  have read : Store.get visit.verdict.record.id world.store = .ok (some visit.record) := by
    rw [copies.id_eq, LawfulStore.id_of_get comes.loaded]
    exact comes.loaded
  let talked : World σ := world.afterTalk [] visit.exchanges
  have read : Store.get visit.verdict.record.id talked.store = .ok (some visit.record) := read
  rcases Node.failsFor_of_conclude fails read copies.version_eq with ⟨stored, ends⟩
  rw [← ran] at ends
  exact ⟨last, visit.record, visit.verdict.record, visit.resource, _, stored, comes.loaded, copies,
    copies.parent_eq ▸ comes.parent, Refusal.kind_bankFailed _ _, ends⟩

theorem Deployment.failsFor_of_update (deployment : Deployment) (quiet : deployment.bank.Quiet)
    (called : (deployment.perform ⟨.update id request, now⟩ world).2.exchanges.drop
      world.exchanges.length = earlier ++ exchange :: later)
    (failed : exchange.answer = .error fault) :
    let result := deployment.perform ⟨.update id request, now⟩ world
    later = [] ∧ ∃ record copy resource refusal stored,
      Store.get id world.store = .ok (some record) ∧ Stage.Copies request record copy ∧
      Store.resource copy.parent world.store = .ok (some resource) ∧
      refusal.kind = fault.refusalKind exchange.call.query.task ∧
      FailsFor now copy refusal world.store stored result.2.store result.1 := by
  intro result
  rcases Node.runAction_update deployment.partner deployment.node id request now world
    with ⟨busy, idle, ran⟩
  let taken : World σ := { world with locks := busy }
  let processed := taken.runAction deployment.partner (deployment.node.process id request now)
  have same : result = (processed.1, { processed.2 with
    locks := idle
    events := processed.2.events ++ Node.rejections id processed.1 }) := ran
  have called : processed.2.exchanges.drop taken.exchanges.length =
      earlier ++ exchange :: later := by
    change result.2.exchanges.drop _ = _ at called
    rw [same] at called
    exact called
  rw [same]
  exact Node.failsFor_of_process quiet called failed

end

theorem MemoryStore.lapsed_of_failsFor {before stored after : MemoryStore}
    {record copy : Authorisation} {resource : Resource} {refusal : Refusal} {now : Time.Timestamp}
    {answer : Except Failure UpdateResponse}
    (found : before.record? copy.id = some record) (current : copy.version = record.version)
    (present : before.resource? copy.parent = some resource)
    (fails : FailsFor now copy refusal before stored after answer) :
    answer = .error (.refused refusal) ∧ Lapsed now copy before after := by
  rcases save_eq_ok fails.saves with ⟨_, _, _, sameCopy, replaced⟩
  have known : stored.resource? copy.parent = some resource := by
    rw [replaced]
    exact present
  rcases fails.projected _ (project_of_resource? known) with ⟨answers, rfl⟩
  have held : before.Current { copy with status := .failed } := ⟨record, found, current.symm⟩
  refine ⟨answers, ?_⟩
  rw [replaced]
  have lapsed : Lapsed now copy before (before.commit now { copy with status := .failed }) :=
    lapsed_commit held present
  rw [commit_of_current held] at lapsed
  exact lapsed

namespace Deployment

/-- A call of a request that is not answered, while nobody else uses the store, was its last one.
In memory the authorisation is stored as failed and its parent has its status derived once more,
nothing else is stored, and the request is refused for the kind of the call and of its fault. On
tables all this holds exactly if they can read all authorisations of the parent. -/
theorem failed_for_unanswered_call (deployment : Deployment) (quiet : deployment.bank.Quiet)
    {id : String} {request : Request} {now : Time.Timestamp} {earlier later : List Exchange}
    {exchange : Exchange} {fault : BankFault} (failed : exchange.answer = .error fault) :
    (∀ before : World MemoryStore,
      let result := deployment.perform ⟨.update id request, now⟩ before
      Passage.calls ⟨.operate ⟨.update id request, now⟩, before, result.2⟩ =
          earlier ++ exchange :: later →
        later = [] ∧
          (∃ record copy, before.store.record? id = some record ∧
            Stage.Copies request record copy ∧ Lapsed now copy before.store result.2.store) ∧
          ∃ refusal, result.1 = .error (.refused refusal) ∧
            refusal.kind = fault.refusalKind exchange.call.query.task) ∧
    ∀ before : World TableStore,
      let result := deployment.perform ⟨.update id request, now⟩ before
      result.2.exchanges.drop before.exchanges.length = earlier ++ exchange :: later →
        later = [] ∧ ∃ record copy refusal stored,
          Store.get id before.store = .ok (some record) ∧ Stage.Copies request record copy ∧
          refusal.kind = fault.refusalKind exchange.call.query.task ∧
          FailsFor now copy refusal before.store stored result.2.store result.1 ∧
          ((∃ projection, Store.project copy.parent stored = .ok projection) ↔
            stored.Listable copy.parent) := by
  refine ⟨?_, ?_⟩
  · intro before result called
    rcases deployment.failsFor_of_update quiet called failed
      with ⟨last, record, copy, resource, refusal, stored, loaded, copies, present, kind, fails⟩
    have found : before.store.record? id = some record := Except.ok.inj loaded
    have sameId : copy.id = id :=
      copies.id_eq.trans (MemoryStore.mem_of_record? found).2
    rcases MemoryStore.lapsed_of_failsFor (sameId ▸ found) copies.version_eq
      (Except.ok.inj present) fails with ⟨answers, lapsed⟩
    exact ⟨last, ⟨record, copy, found, copies, lapsed⟩, refusal, answers, kind⟩
  · intro before result called
    rcases deployment.failsFor_of_update quiet called failed
      with ⟨last, record, copy, resource, refusal, stored, loaded, copies, present, kind, fails⟩
    have known : Store.resource copy.parent stored = .ok (some resource) :=
      ((LawfulStore.of_save fails.saves).2 _).trans present
    exact ⟨last, record, copy, refusal, stored, loaded, copies, kind, fails,
      TableStore.exists_project_iff known⟩

end Deployment

/-! ## A code that is never issued -/

def Exchange.fault? (exchange : Exchange) : Option BankFault :=
  match exchange.answer with
  | .ok _ => none
  | .error fault => some fault

theorem Exchange.fault?_eq_some {exchange : Exchange} {fault : BankFault}
    (faulty : exchange.fault? = some fault) : exchange.answer = .error fault := by
  unfold fault? at faulty
  split at faulty
  · cases faulty
  · next failed => rw [failed, Option.some.inj faulty]

/-- A bank that is too slow with its first code. -/
def slowScript : Script
  | .requestCode => [⟨[], .ofSeconds 31, .ok ⟨none, false, none, none⟩⟩]
  | _ => []

theorem slowScript_quiet : slowScript.toBank.Quiet := by
  intro exchanges call
  unfold Script.toBank
  dsimp only
  split
  · next entry listed =>
      have silent : ∀ entry ∈ slowScript call.query.task, entry.interference = [] := by
        cases call.query.task <;> simp [slowScript]
      exact silent entry (List.mem_of_getElem? listed)
  · rfl

/-- A password is accepted and a method is found, and the authorisation fails because its code
does not come in time. Next to an authorisation that cannot be read it fails as well, but the
answer does not say so. -/
theorem failed_without_code :
    let deployment : Deployment := ⟨.standard, slowScript.toBank⟩
    let before := deployment.play (embeddedMoves.take 2) (.fresh .empty)
    let anna : Psu := ⟨some "anna", none, none, none, none⟩
    let request : Request := ⟨some anna, some "secret", none, none, none⟩
    let result := deployment.perform ⟨.update "first" request, .epoch⟩ before
    let onTables := deployment.perform ⟨.update "first" request, .epoch⟩
      Deployment.twoLifetimes
    deployment.bank.Quiet ∧
      (Passage.calls ⟨.operate ⟨.update "first" request, .epoch⟩, before, result.2⟩).map
        (fun exchange => (exchange.call.query.task, exchange.fault?)) =
        [(.authenticate, none), (.listMethods, none), (.requestCode,
          some (.timedOut "request_authorisation_code" (.ofSeconds 30)))] ∧
      (∃ record copy, before.store.record? "first" = some record ∧
        Stage.Copies request record copy ∧ Lapsed .epoch copy before.store result.2.store) ∧
      (∃ refusal, result.1 = .error (.refused refusal) ∧ refusal.kind = .serviceUnavailable) ∧
      ∃ fault copy saved, onTables.1 = .error (.faulted fault) ∧ copy.status = .failed ∧
        Store.save copy Deployment.twoLifetimes.store = .ok (saved, onTables.2.store) := by
  intro deployment before anna request
  let passage : Passage := ⟨.operate ⟨.update "first" request, .epoch⟩, before,
    (deployment.perform ⟨.update "first" request, .epoch⟩ before).2⟩
  let late : BankFault := .timedOut "request_authorisation_code" (.ofSeconds 30)
  have unanswered : passage.calls.any (fun exchange =>
      exchange.call.query.task == .requestCode && exchange.fault? == some late) = true := by
    decide +kernel
  have called : passage.calls.map (fun exchange => (exchange.call.query.task, exchange.fault?)) =
      [(.authenticate, none), (.listMethods, none), (.requestCode, some late)] := by
    decide +kernel
  rcases List.any_eq_true.mp unanswered with ⟨exchange, asked, facts⟩
  simp only [Bool.and_eq_true, beq_iff_eq] at facts
  rcases List.append_of_mem asked with ⟨earlier, later, split⟩
  have ends := (deployment.failed_for_unanswered_call slowScript_quiet
    (Exchange.fault?_eq_some facts.2)).1 before split
  rw [facts.1] at ends
  refine ⟨slowScript_quiet, called, ends.2.1, ends.2.2, ?_⟩
  let payment : Resource :=
    ⟨"payment", .payment, .payment .received, false, false, false, [], .epoch⟩
  let opened? := Authorisation.open? "first" payment none .embedded 600000000000 86400000000000
    .epoch
  have opens : opened?.map (fun record => record.parent == "payment" &&
      record.status == .received && !record.isExpired .epoch &&
      (Check.firstObjection Node.standard.checks ⟨request, record, payment, []⟩).isNone &&
      decide (Store.get "first" Deployment.twoLifetimes.store = .ok (some record)) &&
      (Deployment.twoLifetimes.runAction deployment.partner (Action.converse (Stage.handle
        record.status ⟨request, payment, .ofApproach record.approach, Node.standard.policy⟩
        record))).2.exchanges.any fun exchange => exchange.fault? == some late) =
      some true := by decide +kernel
  have parent : Store.resource "payment" Deployment.twoLifetimes.store = .ok (some payment) := by
    decide +kernel
  rcases Option.map_eq_some_iff.mp opens with ⟨record, _, same⟩
  simp only [Bool.and_eq_true, beq_iff_eq, Bool.not_eq_true', decide_eq_true_eq,
    Option.isNone_iff_eq_none] at same
  rcases same with ⟨⟨⟨⟨⟨ofPayment, received⟩, punctual⟩, admitted⟩, loaded⟩, faulty⟩
  have live : record.status.isTerminal = false := by rw [received]; rfl
  have exchanges := deployment.exchanges_update_of_admitted loaded live punctual
    (ofPayment ▸ parent) rfl admitted
  rw [← exchanges] at faulty
  rcases List.any_eq_true.mp faulty with ⟨exchange, asked, fails⟩
  rcases List.append_of_mem asked with ⟨earlier, later, split⟩
  have silent : Deployment.twoLifetimes.exchanges.length = 0 := by decide +kernel
  have called : (deployment.perform ⟨.update "first" request, .epoch⟩
      Deployment.twoLifetimes).2.exchanges.drop Deployment.twoLifetimes.exchanges.length =
        earlier ++ exchange :: later := by rw [silent, List.drop_zero, split]
  rcases (deployment.failed_for_unanswered_call slowScript_quiet
    (Exchange.fault?_eq_some (beq_iff_eq.mp fails))).2 Deployment.twoLifetimes called
    with ⟨_, stored, copy, refusal, tables, found, copies, _, fails, _⟩
  cases loaded.symm.trans found
  rcases Deployment.twoLifetimes_unprojected fails.saves
    (copies.id_eq.trans (LawfulStore.id_of_get loaded)) with ⟨fault, unprojected⟩
  rw [← ofPayment, ← copies.parent_eq] at unprojected
  rcases fails.unprojected fault unprojected with ⟨answers, stays⟩
  refine ⟨fault, { copy with status := .failed, updated := .epoch }, copy.lapsed .epoch, answers,
    rfl, ?_⟩
  rw [stays]
  exact fails.saves

end StrongAuth
