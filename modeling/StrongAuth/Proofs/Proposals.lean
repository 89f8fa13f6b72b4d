import StrongAuth.Proofs.AnyStore
import StrongAuth.Proofs.History

/-! # What stages propose

A stage proposes a status, and the node takes a proposal that the transition table refuses for a
broken invariant of its own. Main statement: stages propose only what the table accepts, and
success exactly if their last call had the operation executed; so once the bank was called no
invariant is found broken, on either store and in whatever state it is. -/

namespace StrongAuth

namespace Stage

theorem Ends.succeeds_iff {exchanges : List Exchange} {succeeds : Bool}
    (ends : Ends exchanges succeeds) :
    succeeds = true ↔ ∃ exchange, exchanges.getLast? = some exchange ∧
      exchange.call.query = .execute ∧ exchange.succeeded = true := by
  induction ends with
  | silent => simp
  | last exchange execute => simp [execute]
  | @before first other rest succeeds ends induction =>
      cases rest with
      | nil =>
          rw [induction]
          simp [other]
      | cons second others => rw [induction, List.getLast?_cons_cons]

/-- A stage proposes success exactly if its last call had the operation executed. -/
theorem Sound.succeeds_iff {input : Input} {record : Authorisation} {exchanges : List Exchange}
    {verdict : Verdict} {status : Status} (sound : Sound input record exchanges verdict)
    (proposes : verdict.outcome = .advance status) :
    (status = .finalised ∨ status = .exempted) ↔ ∃ exchange,
      exchanges.getLast? = some exchange ∧ exchange.call.query = .execute ∧
        exchange.succeeded = true := by
  have succeeds : verdict.succeeds = status.isSuccessful := by
    rw [Verdict.succeeds, proposes]
  rw [← sound.ends.succeeds_iff, succeeds]
  cases status <;> simp [Status.isSuccessful]

end Stage

/-! ## Broken invariants -/

namespace Action

variable {σ : Type} [Store σ] {α β : Type} {partner : Partner} {world : World σ}

/-- The action does not end in a broken invariant. -/
def Intact (partner : Partner) (world : World σ) (action : Action α) : Prop :=
  ∀ breach, (world.runAction partner action).1 ≠ .error (.faulted (.invariant breach))

/-- An invariant that the action finds broken it finds broken before it calls the bank. -/
def Upholds (partner : Partner) (world : World σ) (action : Action α) : Prop :=
  ∀ breach, (world.runAction partner action).1 = .error (.faulted (.invariant breach)) →
    (world.runAction partner action).2.exchanges = world.exchanges

end Action

namespace Node

open StrongAuth.Action

variable {σ : Type} [Store σ] {α : Type} {partner : Partner} {world : World σ}
  {now : Time.Timestamp}

theorem intact_settling {saved : Authorisation} (earlier : Status) {next : Action α}
    (knows : Store.Knows saved.parent world.store)
    (intact : ∀ later : World σ, Intact partner later next) :
    Intact partner world (do
      publishChange saved earlier
      let _ ← projectParent saved.parent
      next) := by
  intro breach
  rw [runAction_settling]
  cases projects : Store.project saved.parent world.store with
  | error fault =>
      rcases knows.storage_of_project projects with ⟨storage, rfl⟩
      exact nofun
  | ok projection => exact intact _ breach

theorem intact_publishChange (record : Authorisation) (earlier : Status) (value : α) :
    Intact partner world (do
      publishChange record earlier
      return value) := by
  intro breach
  rw [World.runAction_bind, runAction_changes]
  exact nofun

variable [LawfulStore σ]

/-- A copy that is saved under a parent that is there leads on in a world in which the parent
of the saved record is there. -/
theorem intact_persist_bind (record : Authorisation)
    {next : Authorisation → Action α} (knows : Store.Knows record.parent world.store)
    (intact : ∀ (saved : Authorisation) (later : World σ),
      Store.Knows saved.parent later.store → Intact partner later (next saved)) :
    Intact partner world (persist record now >>= next) := by
  intro breach
  rw [World.runAction_bind, runAction_persist_eq]
  rcases saves : Store.save { record with updated := now } world.store with fault | ⟨saved, later⟩
  · cases fault <;> exact nofun
  · rcases LawfulStore.of_save saves with ⟨rfl, sameResources⟩
    refine intact _ _ ?_ breach
    unfold Store.Knows
    rw [sameResources]
    exact knows

theorem intact_conclude (node : Node) {earlier : Status}
    {verdict : Stage.Verdict} (knows : Store.Knows verdict.record.parent world.store)
    (accepted : ∀ status, verdict.outcome = .advance status →
      Status.check node.policy.exemption earlier status = .ok ()) :
    Intact partner world (node.conclude earlier verdict now) := by
  unfold conclude
  cases outcome : verdict.outcome with
  | advance status =>
      dsimp only
      rw [accepted status outcome]
      refine intact_persist_bind { verdict.record with status } knows ?_
      intro saved later known
      split
      · exact intact_settling earlier known fun _ => nofun
      · exact intact_publishChange saved earlier _
  | refuse refusal => exact fun _ => nofun
  | retry refusal =>
      exact intact_persist_bind { verdict.record with status := earlier } knows
        fun _ _ _ _ => nofun
  | fail refusal =>
      refine intact_persist_bind { verdict.record with status := .failed } knows ?_
      intro saved later known
      exact intact_settling earlier known fun _ => nofun

/-- Whatever others do to the store while the bank is busy, what becomes of the verdict breaks
nothing. -/
theorem upholds_process (node : Node) (id : String)
    (request : Request) (now : Time.Timestamp) :
    Upholds partner world (node.process id request now) := by
  intro breach broken
  rcases process_comes partner node id request now world with silent | ⟨visit, comes⟩
  · exact silent
  · rw [comes.ran] at broken
    refine absurd broken (intact_conclude node ?_ comes.sound.accepted breach)
    rw [comes.sound.copies.parent_eq]
    refine Store.Knows.foldl_interfere visit.interference ?_
    unfold Store.Knows
    rw [comes.parent]
    exact nofun

end Node

/-- Stages propose only what the transition table accepts and leave the status of their copy
alone, and they propose success exactly if the bank executed the operation last. An invariant
that a request finds broken it finds broken before the bank is called. -/
theorem Stage.proposals_accepted :
    (∀ (input : Stage.Input) (record : Authorisation) (exchanges : List Exchange)
      (verdict : Stage.Verdict) (status : Status),
      Dialogue.Yields (Stage.handle record.status input record) exchanges verdict →
      verdict.outcome = .advance status →
        Status.check input.policy.exemption record.status status = .ok () ∧
        verdict.record.status = record.status ∧
        ((status = .finalised ∨ status = .exempted) ↔ ∃ exchange,
          exchanges.getLast? = some exchange ∧ exchange.call.query = .execute ∧
            exchange.succeeded = true)) ∧
    ∀ (node : Node) (partner : Partner) (id : String) (request : Request) (now : Time.Timestamp),
      (∀ world : World MemoryStore,
        Action.Upholds partner world (node.process id request now)) ∧
      ∀ world : World TableStore, Action.Upholds partner world (node.process id request now) := by
  refine ⟨?_, ?_⟩
  · intro input record exchanges verdict status yields proposes
    have sound := (Stage.handle_sound input record).of_yields yields
    exact ⟨sound.accepted status proposes, sound.copies.status_eq, sound.succeeds_iff proposes⟩
  · intro node partner id request now
    refine ⟨?_, ?_⟩
    · intro world
      exact Node.upholds_process node id request now
    · intro world
      exact Node.upholds_process node id request now

/-- A bank that waives the code of a selected method has the operation executed and the
authorisation finalised, since the policy allows no exemption any more. An overdue authorisation
without a parent is found out without a call. -/
theorem Stage.late_exemption_finalises :
    let record : Authorisation :=
      { (default : Authorisation) with approach := .embedded, status := .scaMethodSelected }
    let request : Request := ⟨none, none, none, some "123456", none⟩
    let policy : StagePolicy := ⟨.finalise, .preAuthenticationOnly, 3⟩
    let input : Stage.Input := ⟨request, default, .ofApproach record.approach, policy⟩
    let deployment := Deployment.simulated .standard
    let world : World MemoryStore := .fresh ⟨[record], []⟩
    let tomorrow : Time.Timestamp := ⟨1, 0, by decide, by decide, by decide, by decide⟩
    let result := world.runAction deployment.partner
      (deployment.node.process record.id request tomorrow)
    (∃ exchanges verdict, Dialogue.Yields (Stage.handle record.status input record) exchanges
        verdict ∧ verdict.outcome = .advance .finalised ∧
      Status.check policy.exemption record.status .exempted ≠ .ok () ∧
      Status.check policy.exemption record.status .finalised = .ok () ∧
      ∃ exchange, exchanges.getLast? = some exchange ∧ exchange.call.query = .execute ∧
        exchange.succeeded = true) ∧
    result.1 = .error (.faulted (.invariant (.parentMissing record.parent))) ∧
      result.2.exchanges = [] := by
  intro record request policy input deployment world tomorrow result
  have broken : result.1 = .error (.faulted (.invariant (.parentMissing record.parent))) := by
    rfl
  refine ⟨?_, broken, ?_⟩
  · have waived : Dialogue.Yields (Stage.handle record.status input record)
        [⟨⟨.confirm "123456" none, default, default, none⟩, .ok .exempted⟩,
          ⟨⟨.execute, default, default, none⟩, .ok ()⟩] ⟨.advance .finalised, record⟩ :=
      ⟨.ok .exempted, _, rfl, .ok (), _, rfl, rfl, rfl⟩
    rcases Stage.proposals_accepted.1 input record _ _ .finalised waived rfl
      with ⟨accepted, _, completes⟩
    exact ⟨_, _, waived, rfl, by decide, accepted, completes.mp (.inl rfl)⟩
  · exact (Stage.proposals_accepted.2 deployment.node deployment.partner record.id request
      tomorrow).1 world _ broken

end StrongAuth
