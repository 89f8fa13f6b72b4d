import StrongAuth.Proofs.Conduct

/-! # What a request may do when

A request comes to its deeds in a fixed order: it gets the lock of an authorisation, reads the
record under it, stores a draft of what it has read, derives the status of the resource once
more if the new status is terminal, and gives the lock back. Main statement: every operation
keeps to this order, and ends without a lock however it ends. -/

namespace StrongAuth

/-! ## Phases -/

/-- How far a request has come under the lock of an authorisation. -/
inductive Progress
  /-- What it has read last, if it has found a record. -/
  | reading (record : Option Authorisation)
  /-- A terminal status was stored, and the status of the resource has to follow. -/
  | owing (parent : String)
  | projecting (parent : String) (resource : Resource)
  | setting (parent : String) (status : ParentStatus)
  | closed

/-- Where a request is: without a lock, waiting for one, behind one, or about to give one
back. -/
inductive Phase
  | away
  | waiting (id : String) (lock : Nat)
  | inside (id : String) (lock : Nat) (progress : Progress)
  | leaving (id : String) (lock : Nat)

namespace Progress

def isSettled : Progress → Bool
  | .reading _ | .closed => true
  | .owing _ | .projecting .. | .setting .. => false

def afterCall (world : World MemoryStore) : Progress → StoreCall → Progress
  | .reading _, .get id => .reading (world.store.record? id)
  | .reading _, .save draft =>
      if Deed.writes ⟨world, .store (.save draft)⟩ && draft.status.isTerminal then
        .owing draft.parent
      else .closed
  | .reading record, _ => .reading record
  | .owing parent, _ => (world.store.resource? parent).elim .closed (.projecting parent)
  | .projecting parent resource, _ =>
      (resource.derive? (world.store.statuses parent)).elim .closed (.setting parent)
  | .setting .., _ | .closed, _ => .closed

def after (progress : Progress) : Deed → Progress
  | ⟨world, .store call⟩ => progress.afterCall world call
  | _ => progress

/-- The calls that may be made under the lock of an authorisation. -/
def PermitsCall (id : String) : Progress → StoreCall → Prop
  | .reading _, .get other => other = id
  | .reading record, .save draft => ∃ read, record = some read ∧ read.Drafts draft
  | .reading _, call => call.changes = false
  | .owing parent, call => call = .resource parent
  | .projecting parent _, call => call = .listByParent parent
  | .setting parent status, call => call = .setParentStatus parent status
  | .closed, _ => False

/-- What may be done under the lock of an authorisation. -/
def Permits (id : String) (progress : Progress) : Effect → Prop
  | .store call => progress.PermitsCall id call
  | .bank _ => ∃ record, progress = .reading record
  | .publish _ => True
  | _ => False

end Progress

namespace Phase

def after : Phase → Deed → Phase
  | .away, ⟨world, .obtain id⟩ => .waiting id (world.locks.obtain id).1
  | .waiting id lock, ⟨_, .take _⟩ => .inside id lock (.reading none)
  | .inside id lock _, ⟨_, .free _⟩ => .leaving id lock
  | .inside id lock progress, deed => .inside id lock (progress.after deed)
  | .leaving .., ⟨_, .giveBack ..⟩ => .away
  | phase, _ => phase

/-- What may be done in a phase. Only some operations make records and resources. -/
def Permits (creates : Bool) : Phase → Effect → Prop
  | .away, .store (.insert _) | .away, .store (.register _) => creates = true
  | .away, .store (.save _) | .away, .take _ | .away, .free _ | .away, .giveBack .. => False
  | .away, _ => True
  | .waiting _ lock, effect => effect = .take lock
  | .inside _ lock progress, .free other => other = lock ∧ progress.isSettled = true
  | .inside id _ progress, effect => progress.Permits id effect
  | .leaving id lock, effect => effect = .giveBack id lock

/-- The phase that deeds lead to. -/
def of (deeds : List Deed) : Phase :=
  deeds.foldl after .away

@[simp] theorem of_append_singleton (deeds : List Deed) (deed : Deed) :
    of (deeds ++ [deed]) = (of deeds).after deed := by
  simp [of]

/-- The lock may be freed. -/
def Settled (id : String) (lock : Nat) (phase : Phase) : Prop :=
  ∃ progress, phase = .inside id lock progress ∧ progress.isSettled = true

end Phase

/-- What may be done after some deeds. -/
def Disciplined (creates : Bool) (past : List Deed) (effect : Effect) : Prop :=
  (Phase.of past).Permits creates effect

/-! ## Actions -/

namespace Action

variable {α β : Type}

/-- Whatever deeds have led to a phase, the action goes on with what is permitted, and its end
is as required, of a fault as well. -/
def Follows (partner : Partner) (creates : Bool) (action : Action α) (phase : Phase)
    (ends : Phase → Except Failure α → Prop) : Prop :=
  ∀ past, Phase.of past = phase →
    Procedure.Keeps partner (Disciplined creates) action.run past fun deeds answer =>
      ends (Phase.of deeds) answer

variable {partner : Partner} {creates : Bool} {phase : Phase}

theorem follows_pure {value : α} {ends : Phase → Except Failure α → Prop}
    (holds : ends phase (.ok value)) : Follows partner creates (pure value) phase ends := by
  rintro past rfl
  exact holds

theorem follows_throw {failure : Failure} {ends : Phase → Except Failure α → Prop}
    (holds : ends phase (.error failure)) :
    Follows partner creates (throw failure) phase ends := by
  rintro past rfl
  exact holds

theorem Follows.mono {action : Action α} {ends weaker : Phase → Except Failure α → Prop}
    (follows : Follows partner creates action phase ends)
    (implies : ∀ phase answer, ends phase answer → weaker phase answer) :
    Follows partner creates action phase weaker := by
  intro past same
  exact (follows past same).mono (fun _ _ => id) fun deeds answer => implies _ answer

theorem follows_bind {first : Action α} {second : α → Action β}
    {ends : Phase → Except Failure β → Prop}
    (follows : Follows partner creates first phase fun phase answer => match answer with
      | .ok value => Follows partner creates (second value) phase ends
      | .error failure => ends phase (.error failure)) :
    Follows partner creates (first >>= second) phase ends := by
  intro past same
  change Procedure.Keeps partner _ (first.run >>= _) past _
  rw [Procedure.keeps_bind]
  apply (follows past same).mono (fun _ _ => id)
  rintro deeds (failure | value) holds
  · exact holds
  · exact holds deeds rfl

theorem follows_lift_bind {action : Action α} {second : Except Failure α → Action β}
    {ends : Phase → Except Failure β → Prop}
    (follows : Follows partner creates action phase fun phase answer =>
      Follows partner creates (second answer) phase ends) :
    Follows partner creates (ExceptT.lift action.run >>= second) phase ends := by
  apply follows_bind
  intro past same
  refine (Procedure.keeps_bind action.run
    (fun answer => (pure (.ok answer) : Procedure (Except Failure (Except Failure α)))) _).mpr ?_
  exact follows past same

theorem follows_perform_bind {effect : Effect} {second : effect.Answer → Action α}
    {ends : Phase → Except Failure α → Prop} (permits : phase.Permits creates effect)
    (goesOn : ∀ world : World MemoryStore,
      Follows partner creates (second (world.perform partner effect).1)
        (phase.after ⟨world, effect⟩) ends) :
    Follows partner creates (perform effect >>= second) phase ends := by
  apply follows_bind
  rintro past rfl
  refine ⟨permits, ?_⟩
  intro world later same
  rw [Phase.of_append_singleton] at same
  exact goesOn world later same

theorem follows_call_bind {call : StoreCall} {second : call.Answer → Action α}
    {ends : Phase → Except Failure α → Prop}
    (permits : phase.Permits creates (.store call))
    (goesOn : ∀ (world : World MemoryStore) answer,
      (Store.perform world.store call).1 = .ok answer →
      Follows partner creates (second answer) (phase.after ⟨world, .store call⟩) ends)
    (fails : ∀ (world : World MemoryStore) fault,
      (Store.perform world.store call).1 = .error fault →
      ends (phase.after ⟨world, .store call⟩) (.error (.faulted (.storage fault)))) :
    Follows partner creates (Action.call call >>= second) phase ends := by
  apply follows_bind
  unfold Action.call
  apply follows_perform_bind permits
  intro world
  change Follows partner creates
    (match (Store.perform world.store call).1 with
      | .ok answer => pure answer
      | .error fault => throw (.faulted (.storage fault))) _ _
  cases answered : (Store.perform world.store call).1 with
  | ok answer => exact follows_pure (goesOn world answer answered)
  | error fault => exact follows_throw (fails world fault answered)

theorem follows_read_bind {call : StoreCall} {second : call.Answer → Action α}
    {ends : Phase → Except Failure α → Prop} (reads : call.changes = false)
    (permits : phase.Permits creates (.store call))
    (goesOn : ∀ (world : World MemoryStore) answer,
      (Store.perform world.store call).1 = .ok answer →
      Follows partner creates (second answer) (phase.after ⟨world, .store call⟩) ends) :
    Follows partner creates (Action.call call >>= second) phase ends := by
  refine follows_call_bind permits goesOn ?_
  intro world fault failed
  cases call <;> first | cases failed | cases reads

theorem follows_converse_bind {dialogue : Dialogue α} {second : α → Action β}
    {ends : Phase → Except Failure β → Prop} {id : String} {lock : Nat}
    {record : Option Authorisation}
    (goesOn : ∀ exchanges value, dialogue.Yields exchanges value →
      Follows partner creates (second value) (.inside id lock (.reading record)) ends) :
    Follows partner creates (converse dialogue >>= second)
      (.inside id lock (.reading record)) ends := by
  apply follows_bind
  intro past same
  refine (Procedure.keeps_bind (dialogue.translate fun call => Interaction.query (.bank call))
    (fun value => (pure (.ok value) : Procedure (Except Failure α))) _).mpr ?_
  induction dialogue generalizing past with
  | done value =>
      intro later unchanged
      exact goesOn [] value ⟨rfl, rfl⟩ later (unchanged.trans same)
  | ask call next induction =>
      refine ⟨?_, ?_⟩
      · rw [Disciplined, same]
        exact ⟨record, rfl⟩
      · intro world
        apply induction
        · intro exchanges value yields
          exact goesOn (⟨call, _⟩ :: exchanges) value ⟨_, exchanges, rfl, yields⟩
        · rw [Phase.of_append_singleton, same]
          rfl

theorem follows_withLock {id : String} {action : Action α}
    {ends : Phase → Except Failure α → Prop}
    (settles : ∀ lock, Follows partner creates action (.inside id lock (.reading none))
      fun phase _ => phase.Settled id lock)
    (holds : ∀ answer, ends .away answer) :
    Follows partner creates (withLock id action) .away ends := by
  unfold withLock
  refine follows_perform_bind (show Phase.away.Permits creates (.obtain id) from trivial) ?_
  intro world
  refine follows_perform_bind (show (Phase.waiting id _).Permits creates (.take _) from rfl) ?_
  intro later
  apply follows_lift_bind
  apply (settles (world.perform partner (.obtain id)).1).mono
  rintro phase answer ⟨progress, rfl, settled⟩
  refine follows_perform_bind ⟨rfl, settled⟩ ?_
  intro _
  refine follows_perform_bind
    (show (Phase.leaving id _).Permits creates (.giveBack id _) from rfl) ?_
  intro _
  cases answer with
  | ok value => exact follows_pure (holds (.ok value))
  | error failure => exact follows_throw (holds (.error failure))

end Action

/-! ## The node -/

namespace Node

open StrongAuth.Action

variable {α : Type} {partner : Partner} {creates : Bool} {phase : Phase} {id : String}
  {lock : Nat} {progress : Progress} {record draft : Authorisation} {now : Time.Timestamp}
  {ends : Phase → Except Failure α → Prop}

theorem follows_load_bind {next : Authorisation → Action α}
    (permits : phase.Permits creates (.store (.get id)))
    (unknown : ∀ world : World MemoryStore, world.store.record? id = none →
      ends (phase.after ⟨world, .store (.get id)⟩) (.error (.refused (.authorisationUnknown id))))
    (found : ∀ (world : World MemoryStore) record, world.store.record? id = some record →
      Follows partner creates (next record) (phase.after ⟨world, .store (.get id)⟩) ends) :
    Follows partner creates (load id >>= next) phase ends := by
  apply follows_bind
  unfold load
  refine follows_read_bind rfl permits ?_
  intro world answer answered
  have finds : world.store.record? id = answer := Except.ok.inj answered
  cases answer with
  | none => exact follows_throw (unknown world finds)
  | some record => exact follows_pure (found world record finds)

theorem follows_publish_bind {event : Event} {next : Unit → Action α}
    (goesOn : Follows partner creates (next ()) (.inside id lock progress) ends) :
    Follows partner creates (publish event >>= next) (.inside id lock progress) ends := by
  exact follows_perform_bind trivial fun _ => goesOn

theorem follows_publishChange_bind {earlier : Status} {next : Unit → Action α}
    (goesOn : Follows partner creates (next ()) (.inside id lock progress) ends) :
    Follows partner creates (publishChange record earlier >>= next)
      (.inside id lock progress) ends := by
  unfold publishChange
  split
  · exact goesOn
  · exact follows_publish_bind goesOn

theorem follows_persist_bind {next : Authorisation → Action α}
    (drafts : record.Drafts { draft with updated := now })
    (goesOn : ∀ saved : Authorisation, saved.parent = draft.parent →
      Follows partner creates (next saved) (.inside id lock
        (if draft.status.isTerminal then .owing draft.parent else .closed)) ends)
    (fails : ∀ failure, ends (.inside id lock .closed) (.error failure)) :
    Follows partner creates (persist draft now >>= next)
      (.inside id lock (.reading (some record))) ends := by
  apply follows_bind
  unfold persist
  refine follows_perform_bind ⟨record, rfl, drafts⟩ ?_
  intro world
  change Follows partner creates _ (.inside id lock
    (if Deed.writes ⟨world, .store (.save { draft with updated := now })⟩ &&
        draft.status.isTerminal then .owing draft.parent else .closed)) _
  rw [Deed.writes_save]
  dsimp only [World.perform]
  have performs : Store.perform world.store (.save { draft with updated := now }) =
    Store.settle world.store (world.store.save { draft with updated := now }) := rfl
  rw [performs]
  cases saves : world.store.save { draft with updated := now } with
  | error fault => cases fault <;> exact follows_throw (fails _)
  | ok result =>
      rcases MemoryStore.save_eq_ok saves with ⟨_, _, _, sameSaved, _⟩
      exact follows_pure (goesOn result.1 (by rw [sameSaved]))

theorem follows_projectParent {parent : String}
    {ends : Phase → Except Failure (Option ParentStatus) → Prop}
    (holds : ∀ answer, ends (.inside id lock .closed) answer) :
    Follows partner creates (projectParent parent) (.inside id lock (.owing parent)) ends := by
  unfold projectParent
  refine follows_read_bind rfl rfl ?_
  intro world answer answered
  have finds : world.store.resource? parent = answer := Except.ok.inj answered
  change Follows partner creates _ (.inside id lock
    ((world.store.resource? parent).elim .closed (.projecting parent))) ends
  rw [finds]
  cases answer with
  | none => exact follows_throw (holds _)
  | some resource =>
      refine follows_read_bind rfl rfl ?_
      intro later records listed
      have lists : later.store.statuses parent = records.map (·.status) :=
        congrArg (List.map Authorisation.status) (Except.ok.inj listed)
      change Follows partner creates _ (.inside id lock
        ((resource.derive? (later.store.statuses parent)).elim .closed (.setting parent))) ends
      rw [lists]
      cases resource.derive? (records.map (·.status)) with
      | none => exact follows_pure (holds _)
      | some status =>
          refine follows_call_bind rfl ?_ fun _ _ _ => holds _
          intro last _ _
          exact follows_publish_bind (follows_pure (holds _))

theorem follows_projectParent_bind {parent : String} {next : Option ParentStatus → Action α}
    (goesOn : ∀ derived, Follows partner creates (next derived) (.inside id lock .closed) ends)
    (fails : ∀ failure, ends (.inside id lock .closed) (.error failure)) :
    Follows partner creates (projectParent parent >>= next)
      (.inside id lock (.owing parent)) ends := by
  apply follows_bind
  apply follows_projectParent
  rintro (failure | derived)
  · exact fails failure
  · exact goesOn derived

theorem follows_expire {ends : Phase → Except Failure Authorisation → Prop}
    (live : record.status.isTerminal = false)
    (holds : ∀ answer, ends (.inside id lock .closed) answer) :
    Follows partner creates (expire record now)
      (.inside id lock (.reading (some record))) ends := by
  unfold expire
  refine follows_persist_bind (failed_drafts live now) ?_ fun _ => holds _
  intro saved sameParent
  apply follows_publish_bind
  apply follows_publishChange_bind
  change Follows partner creates _ (.inside id lock (.owing record.parent)) _
  rw [sameParent]
  exact follows_projectParent_bind (fun _ => follows_pure (holds _)) fun _ => holds _

theorem follows_expire_bind {next : Authorisation → Action α}
    (live : record.status.isTerminal = false)
    (goesOn : ∀ expired, Follows partner creates (next expired) (.inside id lock .closed) ends)
    (fails : ∀ failure, ends (.inside id lock .closed) (.error failure)) :
    Follows partner creates (expire record now >>= next)
      (.inside id lock (.reading (some record))) ends := by
  apply follows_bind
  apply follows_expire live
  rintro (failure | expired)
  · exact fails failure
  · exact goesOn expired

theorem follows_expireCandidate :
    Follows partner creates (expireCandidate id now) (.inside id lock (.reading none))
      fun phase _ => phase.Settled id lock := by
  unfold expireCandidate
  refine follows_read_bind rfl rfl ?_
  intro world answer answered
  have finds : world.store.record? id = answer := Except.ok.inj answered
  change Follows partner creates _ (.inside id lock (.reading (world.store.record? id))) _
  rw [finds]
  cases answer with
  | none => exact follows_pure ⟨_, rfl, rfl⟩
  | some record =>
      dsimp only
      cases overdue : record.isOverdue now with
      | false => exact follows_pure ⟨_, rfl, rfl⟩
      | true =>
          refine follows_expire_bind (Authorisation.live_of_isOverdue overdue) ?_ ?_
          · exact fun _ => follows_pure ⟨_, rfl, rfl⟩
          · exact fun _ => ⟨_, rfl, rfl⟩

theorem follows_sweepCandidates (candidates : List Authorisation) :
    Follows partner creates (sweepCandidates now candidates) .away
      fun phase _ => phase = .away := by
  induction candidates with
  | nil => exact follows_pure rfl
  | cons candidate candidates induction =>
      have others (expired : Bool) : Follows partner creates (do
          let others ← sweepCandidates now candidates
          return (if expired then 1 else 0) + others) .away fun phase _ => phase = .away := by
        apply follows_bind
        apply induction.mono
        rintro phase (failure | count) rfl
        · rfl
        · exact follows_pure rfl
      unfold sweepCandidates
      apply follows_lift_bind
      apply follows_withLock fun lock => follows_expireCandidate
      rintro (⟨refusal | fault⟩ | expired)
      · exact others false
      · exact follows_throw rfl
      · exact others expired

theorem follows_sweep :
    Follows partner creates (sweep now) .away fun phase _ => phase = .away := by
  unfold sweep
  refine follows_read_bind rfl trivial ?_
  intro world candidates _
  exact follows_sweepCandidates candidates

theorem follows_status :
    Follows partner creates (status id now) .away fun phase _ => phase = .away := by
  unfold status
  refine follows_load_bind trivial (fun _ _ => rfl) ?_
  intro world record _
  split
  · exact follows_pure rfl
  · apply follows_withLock _ fun _ => rfl
    intro lock
    -- What counts is the record as it is read once more under the lock.
    refine follows_load_bind rfl ?_ ?_
    · intro world unknown
      exact ⟨_, rfl, rfl⟩
    · intro world record found
      change Follows partner creates _ (.inside id lock (.reading (world.store.record? id))) _
      rw [found]
      split
      · exact follows_pure ⟨_, rfl, rfl⟩
      · next live =>
          refine follows_expire_bind (by simpa using live) ?_ ?_
          · exact fun _ => follows_pure ⟨_, rfl, rfl⟩
          · exact fun _ => ⟨_, rfl, rfl⟩

/-! ### Updates -/

theorem follows_conclude (node : Node) {request : Request} {verdict : Stage.Verdict}
    (live : record.status.isTerminal = false)
    (copies : Stage.Copies request record verdict.record)
    (chooses : record.Chooses verdict.record) :
    Follows partner creates (node.conclude record.status verdict now)
      (.inside id lock (.reading (some record))) fun phase _ => phase.Settled id lock := by
  have closed : (Phase.inside id lock .closed).Settled id lock := ⟨_, rfl, rfl⟩
  have drafts (status : Status) (rank : record.status.rank ≤ status.rank) :
      record.Drafts { verdict.record with status, updated := now } :=
    copies_drafts copies chooses live rank
  unfold conclude
  cases verdict.outcome with
  | advance status =>
      dsimp only
      cases checked : Status.check node.policy.exemption record.status status with
      | error refused => exact follows_throw ⟨_, rfl, rfl⟩
      | ok _ =>
          have forward := drafts status (Status.rank_le_of_check checked).2
          refine follows_persist_bind forward ?_ fun _ => closed
          intro saved sameParent
          apply follows_publishChange_bind
          change Follows partner creates _ (.inside id lock
            (if status.isTerminal then .owing verdict.record.parent else .closed)) _
          split
          · rw [sameParent]
            exact follows_projectParent_bind (fun _ => follows_pure closed) fun _ => closed
          · exact follows_pure closed
  | refuse refusal => exact follows_throw ⟨_, rfl, rfl⟩
  | retry refusal =>
      refine follows_persist_bind (drafts record.status (Nat.le_refl _)) ?_ fun _ => closed
      intro saved _
      change Follows partner creates _ (.inside id lock
        (if record.status.isTerminal then .owing verdict.record.parent else .closed)) _
      rw [live]
      exact follows_throw ⟨_, rfl, rfl⟩
  | fail refusal =>
      refine follows_persist_bind (drafts .failed record.status.rank_le) ?_ fun _ => closed
      intro saved sameParent
      apply follows_publishChange_bind
      change Follows partner creates _ (.inside id lock (.owing verdict.record.parent)) _
      rw [sameParent]
      exact follows_projectParent_bind (fun _ => follows_throw closed) fun _ => closed

theorem follows_converse_conclude (node : Node) (request : Request) (resource : Resource)
    (live : record.status.isTerminal = false) :
    Follows partner creates (do
      let verdict ← converse (Stage.handle record.status
        ⟨request, resource, .ofApproach record.approach, node.policy⟩ record)
      node.conclude record.status verdict now) (.inside id lock (.reading (some record)))
      fun phase _ => phase.Settled id lock := by
  apply follows_converse_bind
  intro exchanges verdict yields
  have sound := (Stage.handle_sound _ record).of_yields yields
  have candid := (Stage.handle_candid _ record).of_yields yields
  exact follows_conclude node live sound.copies candid.chooses

theorem follows_checked (node : Node) (request : Request) (resource : Resource)
    (siblings : List Authorisation) (live : record.status.isTerminal = false) :
    Follows partner creates (do
      if let some refusal := Check.firstObjection node.checks
          ⟨request, record, resource, siblings⟩ then
        refuse refusal
      let verdict ← converse (Stage.handle record.status
        ⟨request, resource, .ofApproach record.approach, node.policy⟩ record)
      node.conclude record.status verdict now) (.inside id lock (.reading (some record)))
      fun phase _ => phase.Settled id lock := by
  dsimp only
  cases Check.firstObjection node.checks ⟨request, record, resource, siblings⟩ with
  | some refusal => exact follows_throw ⟨_, rfl, rfl⟩
  | none => exact follows_converse_conclude node request resource live

theorem follows_process (node : Node) (request : Request) :
    Follows partner creates (node.process id request now) (.inside id lock (.reading none))
      fun phase _ => phase.Settled id lock := by
  unfold process
  refine follows_load_bind rfl ?_ ?_
  · intro world unknown
    exact ⟨_, rfl, rfl⟩
  · intro world record found
    change Follows partner creates _ (.inside id lock (.reading (world.store.record? id))) _
    rw [found]
    dsimp only
    split
    · exact follows_throw ⟨_, rfl, rfl⟩
    · next unsettled =>
        have live : record.status.isTerminal = false := by simpa using unsettled
        split
        · refine follows_expire_bind live ?_ ?_
          · exact fun _ => follows_bind (follows_throw ⟨_, rfl, rfl⟩)
          · exact fun _ => ⟨_, rfl, rfl⟩
        · refine follows_read_bind rfl rfl ?_
          intro world answer _
          cases answer with
          | none => exact follows_throw ⟨_, rfl, rfl⟩
          | some resource =>
              dsimp only
              split
              · refine follows_read_bind rfl rfl ?_
                intro world siblings _
                exact follows_checked node request resource siblings live
              · exact follows_checked node request resource [] live

theorem follows_update (node : Node) (request : Request) :
    Follows partner creates (node.update id request now) .away
      fun phase _ => phase = .away := by
  unfold update
  apply follows_lift_bind
  apply follows_withLock fun lock => follows_process node request
  rintro (⟨refusal | fault⟩ | response)
  · refine follows_perform_bind (show Phase.away.Permits _ _ from trivial) fun _ => ?_
    exact follows_throw rfl
  · exact follows_throw rfl
  · exact follows_pure rfl

/-! ### The other operations -/

theorem follows_open {node : Node} {newId : String} {resource : Resource} {signer : Option Psu}
    {approach : Approach} (event : Authorisation → Event) (answer : Authorisation → α) :
    Follows partner true
      (match Authorisation.open? newId resource signer approach node.redirectLifetime
          node.lifetime now with
        | none => Action.fault .beyondCalendar
        | some record => do
            Action.call (.insert record)
            Action.publish (event record)
            pure (answer record)) .away fun phase _ => phase = .away := by
  cases Authorisation.open? newId resource signer approach node.redirectLifetime
      node.lifetime now with
  | none => exact follows_throw rfl
  | some record =>
      refine follows_call_bind rfl ?_ fun _ _ _ => rfl
      intro world _ _
      refine follows_perform_bind (show Phase.away.Permits _ _ from trivial) fun _ => ?_
      exact follows_pure rfl

theorem follows_start (node : Node) (newId resourceId : String) (psu : Option Psu)
    (preferred : Option Approach) :
    Follows partner true (node.start newId resourceId psu preferred now) .away
      fun phase _ => phase = .away := by
  unfold start
  refine follows_read_bind rfl trivial ?_
  intro world answer _
  cases answer with
  | none => exact follows_throw rfl
  | some resource =>
      dsimp only
      split
      · exact follows_bind (follows_throw rfl)
      · generalize psu.filter (fun psu => !psu.isEmpty) = signer
        split
        · cases signer with
          | none => exact follows_open _ _
          | some psu =>
              apply follows_bind
              unfold checkSigner
              split
              · exact follows_throw rfl
              · refine follows_read_bind rfl trivial ?_
                intro later records _
                split
                · exact follows_throw rfl
                · exact follows_pure (follows_open _ _)
        · exact follows_open _ _

theorem follows_list (resourceId : String) :
    Follows partner creates (list resourceId) .away fun phase _ => phase = .away := by
  unfold list
  refine follows_read_bind rfl trivial ?_
  intro world answer _
  cases answer with
  | none => exact follows_throw rfl
  | some resource =>
      refine follows_read_bind rfl trivial ?_
      intro later records _
      exact follows_pure rfl

theorem follows_project (parent : String) :
    Follows partner creates (projectParent parent) .away fun phase _ => phase = .away := by
  unfold projectParent
  refine follows_read_bind rfl trivial ?_
  intro world answer _
  cases answer with
  | none => exact follows_throw rfl
  | some resource =>
      refine follows_read_bind rfl trivial ?_
      intro later records _
      cases resource.derive? (records.map (·.status)) with
      | none => exact follows_pure rfl
      | some status =>
          refine follows_call_bind trivial ?_ fun _ _ _ => rfl
          intro last _ _
          refine follows_perform_bind (show Phase.away.Permits _ _ from trivial) fun _ => ?_
          exact follows_pure rfl

theorem follows_register (resource : Resource) :
    Follows partner true (register resource) .away fun phase _ => phase = .away := by
  unfold register
  rw [← bind_pure (call (.register resource))]
  exact follows_call_bind rfl (fun _ _ _ => follows_pure rfl) fun _ _ _ => rfl

end Node

def Operation.creates : Operation → Bool
  | .register _ | .start .. => true
  | _ => false

/-- Every operation keeps to the order of its phases, and ends without a lock. -/
theorem Operation.follows_action (partner : Partner) (node : Node) (now : Time.Timestamp)
    (operation : Operation) :
    Action.Follows partner operation.creates (operation.action node now) .away
      fun phase _ => phase = .away := by
  cases operation with
  | register resource => exact Node.follows_register resource
  | start newId resource psu preferred => exact node.follows_start newId resource psu preferred
  | update id request => exact node.follows_update request
  | status id => exact Node.follows_status
  | list resource => exact Node.follows_list resource
  | project resource => exact Node.follows_project resource
  | sweep => exact Node.follows_sweep

end StrongAuth
