import StrongAuth.Proofs.Conduct

/-! # Readings of the clock

Main statement: every timestamp that an operation writes into the store besides deadlines is its
reading of the clock, and so is the instant for which it asks for expired authorisations. -/

namespace StrongAuth

/-- What the effect tells the store of the present is a given reading of the clock. -/
def Effect.IsAt (now : Time.Timestamp) : Effect → Prop
  | .store (.insert record) => record.created = now ∧ record.updated = now
  | .store (.save draft) => draft.updated = now
  | .store (.listExpired instant) => instant = now
  | _ => True

/-- Every effect of the action is at the reading, however the action ends. -/
def Action.IsAt {α : Type} (partner : Partner) (now : Time.Timestamp) (action : Action α)
    (past : List Deed) : Prop :=
  Action.Keeps partner (fun _ effect => effect.IsAt now) action past (fun _ _ => True)
    fun _ _ => True

variable {partner : Partner} {now : Time.Timestamp} {past : List Deed} {record : Authorisation}

namespace Action.IsAt

variable {α β : Type} {first : Action α} {second : α → Action β}

theorem bind (isAt : Action.IsAt partner now first past)
    (goesOn : ∀ past value, Action.IsAt partner now (second value) past) :
    Action.IsAt partner now (first >>= second) past :=
  (keeps_bind first second _).mpr
    (isAt.mono (fun past value _ => goesOn past value) fun _ _ _ => trivial)

theorem lift_bind {second : Except Failure α → Action β}
    (isAt : Action.IsAt partner now first past)
    (goesOn : ∀ past answer, Action.IsAt partner now (second answer) past) :
    Action.IsAt partner now (ExceptT.lift first.run >>= second) past :=
  keeps_lift_bind isAt (fun past value _ => goesOn past (.ok value))
    (fun past refusal _ => goesOn past (.error (.refused refusal)))
    fun past reason => goesOn past (.error (.faulted reason))

theorem call {call : StoreCall} (isAt : Effect.IsAt now (.store call)) :
    Action.IsAt partner now (Action.call call) past :=
  keeps_call.mpr ⟨isAt, fun _ _ _ => trivial⟩

theorem publish (event : Event) : Action.IsAt partner now (Action.publish event) past :=
  ⟨trivial, fun _ => trivial⟩

theorem converse (dialogue : Dialogue α) :
    Action.IsAt partner now (Action.converse dialogue) past :=
  keeps_converse (fun _ _ => trivial) fun _ _ _ _ _ => trivial

theorem withLock (id : String) (isAt : ∀ past, Action.IsAt partner now first past) :
    Action.IsAt partner now (Action.withLock id first) past := by
  apply keeps_withLock
  · intro past lock
    exact ⟨trivial, trivial, trivial, trivial⟩
  · intro world later lock
    exact (isAt _).mono (fun _ _ _ _ _ => trivial) fun _ _ _ _ _ => trivial

end Action.IsAt

namespace Node

open StrongAuth.Action

theorem isAt_load (id : String) : Action.IsAt partner now (load id) past := by
  refine .bind (.call trivial) ?_
  intro past answer
  cases answer <;> trivial

theorem isAt_persist (record : Authorisation) :
    Action.IsAt partner now (persist record now) past := by
  unfold persist
  refine (keeps_bind _ _ _).mpr (keeps_perform.mpr ⟨rfl, ?_⟩)
  intro world
  split <;> trivial

theorem isAt_publishChange (record : Authorisation) (earlier : Status) :
    Action.IsAt partner now (publishChange record earlier) past := by
  unfold publishChange
  split
  · trivial
  · exact .publish _

theorem isAt_projectParent (parent : String) :
    Action.IsAt partner now (projectParent parent) past := by
  refine .bind (.call trivial) ?_
  intro past answer
  cases answer with
  | none => trivial
  | some resource =>
      refine .bind (.call trivial) ?_
      intro past records
      cases resource.derive? (records.map (·.status)) with
      | none => trivial
      | some status =>
          refine .bind (.call trivial) ?_
          intro past _
          exact .bind (.publish _) fun _ _ => trivial

theorem isAt_announce {α : Type} {saved : Authorisation} {earlier : Status}
    {next : Option ParentStatus → Action α}
    (goesOn : ∀ past derived, Action.IsAt partner now (next derived) past) :
    Action.IsAt partner now (do
      publishChange saved earlier
      let derived ← projectParent saved.parent
      next derived) past :=
  .bind (isAt_publishChange saved earlier) fun _ _ => .bind (isAt_projectParent _) goesOn

/-! ## Expiry -/

theorem isAt_expire (record : Authorisation) :
    Action.IsAt partner now (expire record now) past := by
  refine .bind (isAt_persist _) ?_
  intro past saved
  refine .bind (.publish _) ?_
  intro past _
  exact isAt_announce fun _ _ => trivial

theorem isAt_status (id : String) : Action.IsAt partner now (status id now) past := by
  refine .bind (isAt_load id) ?_
  intro past record
  split
  · trivial
  · refine .withLock id fun past => .bind (isAt_load id) ?_
    intro past record
    split
    · trivial
    · exact .bind (isAt_expire record) fun _ _ => trivial

theorem isAt_expireCandidate (id : String) :
    Action.IsAt partner now (expireCandidate id now) past := by
  refine .bind (.call trivial) ?_
  intro past answer
  cases answer with
  | none => trivial
  | some record =>
      dsimp only
      split
      · trivial
      · exact .bind (isAt_expire record) fun _ _ => trivial

theorem isAt_sweepCandidates (candidates : List Authorisation) :
    Action.IsAt partner now (sweepCandidates now candidates) past := by
  induction candidates generalizing past with
  | nil => trivial
  | cons candidate candidates induction =>
      -- A candidate that is refused is passed over, so that the others come after every answer.
      have others (expired : Bool) (past : List Deed) :
          Action.IsAt partner now (do
            let others ← sweepCandidates now candidates
            return (if expired then 1 else 0) + others) past :=
        .bind induction fun _ _ => trivial
      refine .lift_bind (.withLock _ fun _ => isAt_expireCandidate candidate.id) ?_
      intro past answer
      rcases answer with ⟨refusal | fault⟩ | expired
      · exact others false past
      · trivial
      · exact others expired past

theorem isAt_sweep : Action.IsAt partner now (sweep now) past :=
  .bind (.call rfl) fun _ candidates => isAt_sweepCandidates candidates

/-! ## Start -/

theorem isAt_checkSigner (resource : Resource) (psu : Psu) :
    Action.IsAt partner now (checkSigner resource psu) past := by
  unfold checkSigner
  split
  · trivial
  · refine .bind (.call trivial) ?_
    intro past records
    split <;> trivial

theorem isAt_open {node : Node} {newId : String} {resource : Resource} {signer : Option Psu}
    {approach : Approach} {α : Type} (event : Authorisation → Event) (answer : Authorisation → α) :
    Action.IsAt partner now
      (match Authorisation.open? newId resource signer approach node.redirectLifetime
          node.lifetime now with
        | none => Action.fault .beyondCalendar
        | some record => do
            Action.call (.insert record)
            Action.publish (event record)
            pure (answer record)) past := by
  cases opens : Authorisation.open? newId resource signer approach node.redirectLifetime
      node.lifetime now with
  | none => trivial
  | some record =>
      have new := (Authorisation.open?_eq_some opens).2.2
      have isAt : Effect.IsAt now (.store (.insert record)) := by
        rw [new]
        exact ⟨rfl, rfl⟩
      exact .bind (.call isAt) fun _ _ => .bind (.publish _) fun _ _ => trivial

theorem isAt_start (node : Node) (newId resourceId : String) (psu : Option Psu)
    (preferred : Option Approach) :
    Action.IsAt partner now (node.start newId resourceId psu preferred now) past := by
  refine .bind (.call trivial) ?_
  intro past answer
  cases answer with
  | none => trivial
  | some resource =>
      dsimp only
      split
      · trivial
      · split
        · split
          · exact .bind (isAt_checkSigner _ _) fun _ _ => isAt_open _ _
          · exact isAt_open _ _
        · exact isAt_open _ _

/-! ## Updates -/

theorem isAt_conclude (node : Node) (earlier : Status) (verdict : Stage.Verdict) :
    Action.IsAt partner now (node.conclude earlier verdict now) past := by
  unfold conclude
  split
  · split
    · trivial
    · refine .bind (isAt_persist _) ?_
      intro past saved
      refine .bind (isAt_publishChange _ _) ?_
      intro past _
      split
      · exact .bind (isAt_projectParent _) fun _ _ => trivial
      · trivial
  · trivial
  · exact .bind (isAt_persist _) fun _ _ => trivial
  · exact .bind (isAt_persist _) fun _ _ => isAt_announce fun _ _ => trivial

theorem isAt_checked (node : Node) (request : Request) (resource : Resource)
    (siblings : List Authorisation) :
    Action.IsAt partner now (do
      if let some refusal := Check.firstObjection node.checks
          ⟨request, record, resource, siblings⟩ then
        refuse refusal
      let verdict ← converse (Stage.handle record.status
        ⟨request, resource, .ofApproach record.approach, node.policy⟩ record)
      node.conclude record.status verdict now) past := by
  dsimp only
  split
  · trivial
  · exact .bind (.converse _) fun _ verdict => isAt_conclude node _ verdict

theorem isAt_process (node : Node) (id : String) (request : Request) :
    Action.IsAt partner now (node.process id request now) past := by
  refine .bind (isAt_load id) ?_
  intro past record
  dsimp only
  split
  · trivial
  · split
    · exact .bind (isAt_expire record) fun _ _ => trivial
    · refine .bind (.call trivial) ?_
      intro past answer
      cases answer with
      | none => trivial
      | some resource =>
          dsimp only
          split
          · exact .bind (.call trivial) fun _ siblings =>
              isAt_checked node request resource siblings
          · exact isAt_checked node request resource []

theorem isAt_update (node : Node) (id : String) (request : Request) :
    Action.IsAt partner now (node.update id request now) past := by
  refine .lift_bind (.withLock id fun _ => isAt_process node id request) ?_
  intro past answer
  rcases answer with ⟨refusal | fault⟩ | response
  · exact .bind (.publish _) fun _ _ => trivial
  · trivial
  · trivial

/-! ## The other operations -/

theorem isAt_list (resource : String) : Action.IsAt partner now (list resource) past := by
  refine .bind (.call trivial) ?_
  intro past answer
  cases answer with
  | none => trivial
  | some resource => exact .bind (.call trivial) fun _ _ => trivial

theorem isAt_operation (node : Node) (operation : Operation) :
    Action.IsAt partner now (operation.action node now) past := by
  cases operation with
  | register resource => exact .call trivial
  | start newId resource psu preferred => exact isAt_start node newId resource psu preferred
  | update id request => exact isAt_update node id request
  | status id => exact isAt_status id
  | list resource => exact isAt_list resource
  | project resource => exact isAt_projectParent resource
  | sweep => exact isAt_sweep

end Node

end StrongAuth
