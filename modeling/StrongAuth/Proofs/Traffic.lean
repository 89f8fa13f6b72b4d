import StrongAuth.Proofs.Forward
import StrongAuth.Proofs.LockTable

/-! # Requests that take turns

A node works on many requests at a time, and a request that needs a lock waits until it is
free. Main statement: as long as nobody else saves records, at most one request is behind the
lock of an authorisation, every save is accepted, and what it stores was made of the very
record that it replaces. -/

namespace StrongAuth

/-! ## A single deed -/

/-- The effect changes a record or the status of a resource. -/
def Effect.edits : Effect → Bool
  | .store (.save _) | .store (.setParentStatus ..) => true
  | _ => false

/-- What the request has read under its lock is still stored. -/
def Phase.Current (store : MemoryStore) : Phase → Prop
  | .inside id _ (.reading (some record)) => store.record? id = some record
  | _ => True

theorem Phase.Current.congr {store later : MemoryStore} {phase : Phase}
    (current : phase.Current store) (same : ∀ id, later.record? id = store.record? id) :
    phase.Current later := by
  rcases phase with _ | _ | ⟨id, lock, ⟨_ | record⟩ | _ | _ | _ | _⟩ | _ <;> try trivial
  exact (same id).trans current

/-- What a permitted deed does to a store in which the record that was read is current. -/
inductive Change (store : MemoryStore) : Phase → Effect → MemoryStore → Prop
  | idle (phase : Phase) (effect : Effect) (editless : effect.edits = false) :
      Change store phase effect store
  | saved (lock : Nat) (record draft : Authorisation) (drafts : record.Drafts draft)
      (found : store.record? draft.id = some record) :
      Change store (.inside draft.id lock (.reading (some record))) (.store (.save draft))
        (store.replace { draft with version := record.version + 1 })
  | inserted (record : Authorisation) (unknown : store.record? record.id = none) :
      Change store .away (.store (.insert record))
        { store with records := store.records ++ [record] }
  | derived (phase : Phase) (parent : String) (status : ParentStatus) (resource : Resource)
      (found : store.resource? parent = some resource) :
      Change store phase (.store (.setParentStatus parent status))
        (store.replaceResource { resource with status })
  | missed (phase : Phase) (parent : String) (status : ParentStatus)
      (missing : store.resource? parent = none) :
      Change store phase (.store (.setParentStatus parent status)) store
  | registered (resource : Resource) :
      Change store .away (.store (.register resource)) (store.register resource)

section

variable {partner : Partner} {creates : Bool} {phase : Phase} {world after : World MemoryStore}
  {effect : Effect} {record draft : Authorisation} {id : String}

theorem save_of_drafts {store : MemoryStore} (drafts : record.Drafts draft)
    (found : store.record? record.id = some record) :
    draft.id = record.id ∧ Store.perform store (.save draft) =
      (.ok { draft with version := record.version + 1 },
        store.replace { draft with version := record.version + 1 }) := by
  have finds : store.record? draft.id = some record := by
    rw [drafts.id_eq, found]
  have saves := MemoryStore.save_of_current finds drafts.version_eq.symm
  refine ⟨drafts.id_eq, ?_⟩
  change Store.settle store (store.save draft) = _
  rw [saves, drafts.version_eq]
  rfl

theorem Progress.reads_of_afterCall {progress : Progress} {call : StoreCall}
    (permits : progress.PermitsCall id call)
    (reads : progress.afterCall world call = .reading (some record)) :
    call = .get id ∧ world.store.record? id = some record ∨ progress = .reading (some record) := by
  unfold Progress.afterCall at reads
  split at reads
  · have same : _ = id := permits
    subst same
    exact .inl ⟨rfl, Progress.reading.inj reads⟩
  · split at reads <;> cases reads
  · exact .inr reads
  · next parent => cases found : world.store.resource? parent <;> simp [found] at reads
  · next parent resource =>
      cases derives : resource.derive? (world.store.statuses parent) <;> simp [derives] at reads
  · cases reads
  · cases reads

theorem Phase.reads_of_after {lock : Nat} (permits : phase.Permits creates effect)
    (reads : phase.after ⟨world, effect⟩ = .inside id lock (.reading (some record))) :
    effect = .store (.get id) ∧ world.store.record? id = some record ∨
      phase = .inside id lock (.reading (some record)) := by
  cases phase with
  | away => cases effect <;> cases reads
  | waiting other handle =>
      cases permits
      cases reads
  | leaving other handle =>
      cases permits
      cases reads
  | inside other handle progress =>
      cases effect with
      | free freed => cases reads
      | store call =>
          rcases Phase.inside.inj reads with ⟨rfl, rfl, advanced⟩
          rcases Progress.reads_of_afterCall permits advanced with ⟨rfl, found⟩ | same
          · exact .inl ⟨rfl, found⟩
          · exact .inr (congrArg _ same)
      | _ => exact .inr reads

theorem Phase.Permits.reads_of_save (permits : phase.Permits creates (.store (.save draft))) :
    ∃ id lock record, phase = .inside id lock (.reading (some record)) ∧ record.Drafts draft := by
  cases phase with
  | away => cases permits
  | waiting id lock | leaving id lock => cases permits
  | inside id lock progress =>
      cases progress with
      | reading read =>
          rcases permits with ⟨record, rfl, drafts⟩
          exact ⟨id, lock, record, rfl, drafts⟩
      | owing | projecting | setting | closed => cases permits

/-- Nothing is made behind a lock. -/
theorem Phase.Permits.away_of_adds (permits : phase.Permits creates effect)
    (adds : (∃ record, effect = .store (.insert record)) ∨
      ∃ resource, effect = .store (.register resource)) : phase = .away := by
  cases phase with
  | away => rfl
  | waiting id lock | leaving id lock => rcases adds with ⟨_, rfl⟩ | ⟨_, rfl⟩ <;> cases permits
  | inside id lock progress =>
      rcases adds with ⟨_, rfl⟩ | ⟨_, rfl⟩ <;> cases progress <;> cases permits

theorem Phase.Permits.change (permits : phase.Permits creates effect)
    (quiet : partner.bank.Quiet) (current : phase.Current world.store)
    (outcome : Outcome partner world effect after) :
    Change world.store phase effect after.store := by
  cases outcome with
  | left id lock => exact .idle phase _ rfl
  | performed effect ready =>
      cases effect with
      | publish event => exact .idle phase _ rfl
      | obtain id => exact .idle phase _ rfl
      | take lock => exact .idle phase _ rfl
      | free lock => exact .idle phase _ rfl
      | giveBack id lock => exact .idle phase _ rfl
      | bank call =>
          have undisturbed : (world.perform partner (.bank call)).2.store = world.store := by
            change (partner.bank world.exchanges call).interference.foldl _ _ = _
            rw [quiet]
            rfl
          rw [undisturbed]
          exact .idle phase _ rfl
      | store call =>
          cases call with
          | get id => exact .idle phase _ rfl
          | listByParent parent => exact .idle phase _ rfl
          | listExpired now => exact .idle phase _ rfl
          | resource id => exact .idle phase _ rfl
          | save draft =>
              rcases permits.reads_of_save with ⟨id, lock, record, rfl, drafts⟩
              have found : world.store.record? id = some record := current
              have sameId : record.id = id := (MemoryStore.mem_of_record? found).2
              subst sameId
              rcases save_of_drafts drafts found with ⟨draftId, saves⟩
              dsimp only [World.perform]
              rw [saves, ← draftId]
              exact .saved lock record draft drafts (draftId ▸ found)
          | insert record =>
              cases permits.away_of_adds (.inl ⟨record, rfl⟩)
              dsimp only [World.perform, Store.perform, Store.insert]
              cases inserts : world.store.insert record with
              | error fault => exact .idle .away _ rfl
              | ok inserted =>
                  rcases MemoryStore.insert_eq_ok inserts with ⟨unknown, rfl⟩
                  exact .inserted record unknown
          | register resource =>
              cases permits.away_of_adds (.inr ⟨resource, rfl⟩)
              exact .registered resource
          | setParentStatus parent status =>
              dsimp only [World.perform, Store.perform, Store.setParentStatus]
              unfold MemoryStore.setParentStatus
              cases found : world.store.resource? parent with
              | none => exact .missed phase parent status found
              | some resource => exact .derived phase parent status resource found

namespace Change

variable {store later : MemoryStore}

/-- A record changes only by a request behind its lock. -/
theorem record?_eq (change : Change store phase effect later)
    (found : store.record? id = some record) (outside : phase.isInside id = false) :
    later.record? id = some record := by
  cases change with
  | idle => exact found
  | saved lock read draft drafts finds =>
      have different : id ≠ draft.id := by
        rintro rfl
        simp [Phase.isInside] at outside
      rw [MemoryStore.record?_replace, if_neg different, found]
  | inserted added unknown =>
      have different : id ≠ added.id := by
        rintro rfl
        rw [unknown] at found
        cases found
      rw [MemoryStore.record?_append unknown, if_neg different, found]
  | derived | missed => exact found
  | registered resource =>
      unfold MemoryStore.record?
      rw [MemoryStore.records_register]
      exact found

/-- What the others have read is still stored. -/
theorem current_other (change : Change store phase effect later) {other : Phase}
    (current : other.Current store)
    (apart : ∀ id, other.isInside id = true → phase.isInside id = false) :
    other.Current later := by
  rcases other with _ | _ | ⟨id, lock, ⟨_ | record⟩ | _ | _ | _ | _⟩ | _ <;> try trivial
  exact change.record?_eq current (apart id (by simp [Phase.isInside]))

/-- What the request itself has read is still stored, or stored anew by it. -/
theorem current_after (change : Change world.store phase effect later)
    (permits : phase.Permits creates effect) (current : phase.Current world.store) :
    (phase.after ⟨world, effect⟩).Current later := by
  rcases reads : phase.after ⟨world, effect⟩ with
    _ | _ | ⟨id, lock, ⟨_ | record⟩ | _ | _ | _ | _⟩ | _ <;> try trivial
  -- A read is of the store as it is; and a save ends the reading.
  rcases Phase.reads_of_after permits reads with ⟨rfl, found⟩ | rfl
  · cases change with
    | idle => exact found
  · cases change with
    | idle | derived | missed => exact current
    | saved =>
        change Phase.inside _ _ (if _ then .owing _ else .closed) = _ at reads
        split at reads <;> cases reads

end Change

end

/-! ## Requests side by side -/

/-- A request under way, with what it has done and what it has left to do. -/
structure Errand where
  step : Step
  deeds : List Deed
  rest : Procedure Unit

/-- The draft was made of the record that was read under the lock, and takes its place. -/
def Succeeds (past : List Deed) (world : World MemoryStore) (draft : Authorisation) : Prop :=
  ∃ lock record, Phase.of past = .inside draft.id lock (.reading (some record)) ∧
    record.Drafts draft ∧ world.store.record? draft.id = some record ∧
    (Store.perform world.store (.save draft)).1 =
      .ok { draft with version := record.version + 1 }

theorem Succeeds.of_permits {past : List Deed} {world : World MemoryStore}
    {draft : Authorisation} {creates : Bool}
    (permits : (Phase.of past).Permits creates (.store (.save draft)))
    (current : (Phase.of past).Current world.store) : Succeeds past world draft := by
  rcases permits.reads_of_save with ⟨id, lock, record, reads, drafts⟩
  rw [reads] at current
  have found : world.store.record? id = some record := current
  have sameId : record.id = id := (MemoryStore.mem_of_record? found).2
  subst sameId
  rcases save_of_drafts drafts found with ⟨draftId, saves⟩
  rw [← draftId] at found reads
  exact ⟨lock, record, reads, drafts, found, congrArg Prod.fst saves⟩

/-- The deed has stored the record in this form. -/
def Deed.Stores (record : Authorisation) : Deed → Prop
  | ⟨_, .store (.insert inserted)⟩ => record = inserted
  | ⟨_, .store (.save draft)⟩ => record = { draft with version := draft.version + 1 }
  | _ => False

theorem Change.origin (world : World MemoryStore) {store later : MemoryStore} {phase : Phase}
    {effect : Effect} {id : String} {record : Authorisation}
    (change : Change store phase effect later) (found : later.record? id = some record) :
    store.record? id = some record ∨ Deed.Stores record ⟨world, effect⟩ := by
  cases change with
  | idle => exact .inl found
  | saved lock read draft drafts finds =>
      rw [MemoryStore.record?_replace] at found
      split at found
      · rcases Option.map_eq_some_iff.mp found with ⟨_, _, rfl⟩
        exact .inr (by rw [← drafts.version_eq]; rfl)
      · exact .inl found
  | inserted added unknown =>
      rw [MemoryStore.record?_append unknown] at found
      split at found
      · exact .inr (Option.some.inj found).symm
      · exact .inl found
  | derived | missed => exact .inl found
  | registered resource =>
      unfold MemoryStore.record? at found
      rw [MemoryStore.records_register] at found
      exact .inl found

namespace Errand

def begin (node : Node) (step : Step) : Errand :=
  ⟨step, [], step.procedure node⟩

def phase (errand : Errand) : Phase :=
  .of errand.deeds

def isDone (errand : Errand) : Bool :=
  match errand.rest with
  | .done _ => true
  | .ask .. => false

/-- What is left to do keeps to the order of phases. -/
def Orderly (partner : Partner) (errand : Errand) : Prop :=
  Procedure.Keeps partner (Disciplined errand.step.operation.creates) errand.rest errand.deeds
    fun deeds _ => Phase.of deeds = .away

/-- Every save so far has succeeded. -/
def Faithful (errand : Errand) : Prop :=
  ∀ earlier world draft later,
    errand.deeds = earlier ++ ⟨world, .store (.save draft)⟩ :: later →
    Succeeds earlier world draft

theorem Orderly.away_of_isDone {partner : Partner} {errand : Errand}
    (orderly : errand.Orderly partner) (done : errand.isDone = true) : errand.phase = .away := by
  rcases errand with ⟨step, deeds, value | ⟨effect, next⟩⟩
  · exact orderly
  · cases done

theorem orderly_begin (partner : Partner) (node : Node) (step : Step) :
    (begin node step).Orderly partner := by
  unfold Orderly begin Step.procedure
  rw [Procedure.keeps_bind]
  have follows := Operation.follows_action partner node step.now step.operation [] rfl
  exact follows.mono (fun _ _ => id) fun _ _ away => away

theorem faithful_begin (node : Node) (step : Step) : (begin node step).Faithful := by
  intro earlier world draft later same
  simp [begin] at same

theorem Faithful.append {step : Step} {deeds : List Deed} {rest later : Procedure Unit}
    {world : World MemoryStore} {effect : Effect} (faithful : (Errand.mk step deeds rest).Faithful)
    (succeeds : ∀ draft, effect = .store (.save draft) → Succeeds deeds world draft) :
    (Errand.mk step (deeds ++ [⟨world, effect⟩]) later).Faithful := by
  intro earlier saving draft others same
  change deeds ++ [⟨world, effect⟩] = _ at same
  rcases others.eq_nil_or_concat with rfl | ⟨middle, last, rfl⟩
  · rcases List.append_inj' same rfl with ⟨rfl, last⟩
    cases last
    exact succeeds draft rfl
  · rw [List.concat_eq_append, ← List.cons_append, ← List.append_assoc] at same
    rcases List.append_inj' same rfl with ⟨split, _⟩
    exact faithful earlier saving draft middle split

end Errand

/-- A world, what others have done to its store so far, and the requests that have come in. -/
structure Traffic where
  world : World MemoryStore
  others : List Interference
  errands : List Errand

/-- Nobody waits for the effect. -/
def Effect.isReady (locks : Locks) : Effect → Bool
  | .take lock => locks.isFree lock
  | _ => true

namespace Traffic

/-- What can happen next: a request comes in, one that does not have to wait does its next
deed, or someone else uses the store. -/
inductive Next (deployment : Deployment) : Traffic → Traffic → Prop
  | begins (world : World MemoryStore) (others : List Interference) (errands : List Errand)
      (step : Step) :
      Next deployment ⟨world, others, errands⟩
        ⟨world, others, errands ++ [.begin deployment.node step]⟩
  | acts (world after : World MemoryStore) (others : List Interference)
      (earlier later : List Errand) (step : Step) (deeds : List Deed) (effect : Effect)
      (next : effect.Answer → Procedure Unit)
      (outcome : Outcome deployment.partner world effect after) :
      Next deployment ⟨world, others, earlier ++ ⟨step, deeds, .ask effect next⟩ :: later⟩
        ⟨after, others, earlier ++ ⟨step, deeds ++ [⟨world, effect⟩],
          next (world.perform deployment.partner effect).1⟩ :: later⟩
  | disturbed (world : World MemoryStore) (others : List Interference) (errands : List Errand)
      (interference : Interference) :
      Next deployment ⟨world, others, errands⟩
        ⟨{ world with store := Store.interfere world.store interference },
          others ++ [interference], errands⟩

/-- What can happen in the course of time. -/
def Leads (deployment : Deployment) : Traffic → Traffic → Prop :=
  Relation.ReflTransGen (Next deployment)

/-- Nobody else has saved a record. -/
def Unsaved (traffic : Traffic) : Prop :=
  ∀ id, .resave id ∉ traffic.others

/-- What holds while requests take turns. -/
structure Sound (deployment : Deployment) (start : MemoryStore) (traffic : Traffic) : Prop where
  orderly : ∀ errand ∈ traffic.errands, errand.Orderly deployment.partner
  serves : traffic.world.locks.Serves (traffic.errands.map (·.phase))
  current : ∀ errand ∈ traffic.errands, errand.phase.Current traffic.world.store
  faithful : ∀ errand ∈ traffic.errands, errand.Faithful
  origin : ∀ id record, traffic.world.store.record? id = some record →
    start.record? id = some record ∨
      ∃ errand ∈ traffic.errands, ∃ deed ∈ errand.deeds, deed.Stores record

variable {deployment : Deployment} {start : MemoryStore} {first second : Traffic}

theorem Next.unsaved (next : Next deployment first second) (unsaved : second.Unsaved) :
    first.Unsaved := by
  cases next with
  | begins => exact unsaved
  | acts => exact unsaved
  | disturbed => exact fun id member => unsaved id (List.mem_append_left _ member)

theorem forall_mem_middle {α : Type} {holds : α → Prop} {earlier later : List α} {value : α} :
    (∀ other ∈ earlier ++ value :: later, holds other) ↔
      holds value ∧ ∀ other ∈ earlier ++ later, holds other := by
  simp only [List.perm_middle.mem_iff, List.mem_cons, forall_eq_or_imp]

namespace Sound

theorem begins {world : World MemoryStore} {others : List Interference} {errands : List Errand}
    (sound : Sound deployment start ⟨world, others, errands⟩) (step : Step) :
    Sound deployment start ⟨world, others, errands ++ [.begin deployment.node step]⟩ where
  orderly := List.forall_mem_append.mpr ⟨sound.orderly,
    List.forall_mem_singleton.mpr (Errand.orderly_begin _ _ step)⟩
  serves := by
    rw [List.map_append]
    exact sound.serves.cons_away.perm (List.perm_append_singleton _ _).symm
  current := List.forall_mem_append.mpr ⟨sound.current, List.forall_mem_singleton.mpr trivial⟩
  faithful := List.forall_mem_append.mpr ⟨sound.faithful,
    List.forall_mem_singleton.mpr (Errand.faithful_begin _ step)⟩
  origin id record found := by
    rcases sound.origin id record found with stored | ⟨errand, member, deed, done, stores⟩
    · exact .inl stored
    · exact .inr ⟨errand, List.mem_append_left _ member, deed, done, stores⟩

theorem acts {world after : World MemoryStore} {others : List Interference}
    {earlier later : List Errand} {step : Step} {deeds : List Deed} {effect : Effect}
    {next : effect.Answer → Procedure Unit} (quiet : deployment.bank.Quiet)
    (outcome : Outcome deployment.partner world effect after)
    (sound : Sound deployment start
      ⟨world, others, earlier ++ ⟨step, deeds, .ask effect next⟩ :: later⟩) :
    Sound deployment start ⟨after, others, earlier ++ ⟨step, deeds ++ [⟨world, effect⟩],
      next (world.perform deployment.partner effect).1⟩ :: later⟩ := by
  rcases forall_mem_middle.mp sound.orderly with ⟨⟨permits, goesOn⟩, orderly⟩
  rcases forall_mem_middle.mp sound.current with ⟨current, currentOthers⟩
  rcases forall_mem_middle.mp sound.faithful with ⟨faithful, faithfulOthers⟩
  have change := Phase.Permits.change permits quiet current outcome
  have serves := sound.serves
  rw [List.map_append, List.map_cons] at serves
  replace serves := serves.perm List.perm_middle
  have moves : Phase.of (deeds ++ [⟨world, effect⟩]) = (Phase.of deeds).after ⟨world, effect⟩ :=
    Phase.of_append_singleton deeds _
  refine ⟨?_, ?_, ?_, ?_, ?_⟩
  · exact forall_mem_middle.mpr ⟨goesOn world, orderly⟩
  · rw [List.map_append, List.map_cons]
    apply Locks.Serves.perm _ List.perm_middle.symm
    rw [Errand.phase, moves]
    exact serves.shift (Phase.Permits.shift permits outcome)
  · refine forall_mem_middle.mpr ⟨?_, ?_⟩
    · rw [Errand.phase, moves]
      exact change.current_after permits current
    · intro errand member
      apply change.current_other (currentOthers errand member)
      intro id inside
      refine serves.apart ?_ inside
      rw [← List.map_append]
      exact List.mem_map_of_mem member
  · refine forall_mem_middle.mpr ⟨faithful.append ?_, faithfulOthers⟩
    rintro draft rfl
    exact Succeeds.of_permits permits current
  · intro id record found
    rcases change.origin world found with stored | stores
    · rcases sound.origin id record stored with first | ⟨errand, member, deed, done, stores⟩
      · exact .inl first
      · right
        rcases List.mem_cons.mp (List.perm_middle.mem_iff.mp member) with rfl | other
        · exact ⟨_, List.mem_append_right _ List.mem_cons_self, deed,
            List.mem_append_left _ done, stores⟩
        · exact ⟨errand, List.perm_middle.mem_iff.mpr (List.mem_cons_of_mem _ other), deed, done,
            stores⟩
    · exact .inr ⟨_, List.mem_append_right _ List.mem_cons_self, _,
        List.mem_append_right _ (List.mem_singleton_self _), stores⟩

theorem disturbed {world : World MemoryStore} {others : List Interference}
    {errands : List Errand} {interference : Interference}
    (unsaved : ∀ id, interference ≠ .resave id)
    (sound : Sound deployment start ⟨world, others, errands⟩) :
    Sound deployment start ⟨{ world with store := Store.interfere world.store interference },
      others ++ [interference], errands⟩ := by
  have same (id : String) :
      (Store.interfere world.store interference).record? id = world.store.record? id := by
    cases interference with
    | resave id => exact absurd rfl (unsaved id)
    | setStatus parent status =>
        dsimp only [Store.interfere, Store.setParentStatus]
        unfold MemoryStore.setParentStatus
        cases world.store.resource? parent <;> rfl
  refine ⟨sound.orderly, sound.serves, ?_, sound.faithful, ?_⟩
  · intro errand member
    exact (sound.current errand member).congr same
  · intro id record found
    rw [same] at found
    exact sound.origin id record found

end Sound

theorem Next.sound (next : Next deployment first second) (quiet : deployment.bank.Quiet)
    (unsaved : second.Unsaved) (sound : Sound deployment start first) :
    Sound deployment start second := by
  cases next with
  | begins world others errands step => exact sound.begins step
  | acts world after others earlier later step deeds effect next outcome =>
      exact sound.acts quiet outcome
  | disturbed world others errands interference =>
      apply sound.disturbed
      rintro id rfl
      exact unsaved id (List.mem_append_right _ (List.mem_singleton_self _))

theorem Leads.sound (leads : Leads deployment first second) (quiet : deployment.bank.Quiet)
    (unsaved : second.Unsaved) (sound : Sound deployment start first) :
    Sound deployment start second := by
  induction leads with
  | refl => exact sound
  | tail _ next induction => exact next.sound quiet unsaved (induction (next.unsaved unsaved))

/-- A node that has nothing to do yet. -/
def idle (world : World MemoryStore) : Traffic :=
  ⟨world, [], []⟩

theorem sound_idle {world : World MemoryStore} (unused : world.locks.Unused) :
    Sound deployment world.store (idle world) where
  orderly := List.forall_mem_nil _
  serves := unused.serves
  current := List.forall_mem_nil _
  faithful := List.forall_mem_nil _
  origin _ _ found := .inl found

/-- As long as nobody else saves records, requests for an authorisation find the same lock, at
most one of them is behind it, every save is accepted, and every record that is stored in a
new form was stored by a request, which made it of the very record that it replaced. -/
theorem requests_take_turns (deployment : Deployment) (quiet : deployment.bank.Quiet)
    {world : World MemoryStore} (unused : world.locks.Unused) {traffic : Traffic}
    (leads : Leads deployment (idle world) traffic) (unsaved : traffic.Unsaved) :
    (∀ errand ∈ traffic.errands, errand.phase.Listed traffic.world.locks.table) ∧
    (∀ id, traffic.errands.countP (·.phase.isInside id) ≤ 1) ∧
    (∀ errand ∈ traffic.errands, ∀ earlier saving draft later,
      errand.deeds = earlier ++ ⟨saving, .store (.save draft)⟩ :: later →
      ∃ lock record, Phase.of earlier = .inside draft.id lock (.reading (some record)) ∧
        record.Drafts draft ∧ saving.store.record? draft.id = some record ∧
        (Store.perform saving.store (.save draft)).1 =
          .ok { draft with version := record.version + 1 }) ∧
    ∀ id record, traffic.world.store.record? id = some record →
      world.store.record? id = some record ∨
        ∃ errand ∈ traffic.errands, ∃ deed ∈ errand.deeds, deed.Stores record := by
  have sound := leads.sound quiet unsaved (sound_idle unused)
  refine ⟨?_, ?_, sound.faithful, sound.origin⟩
  · intro errand member
    exact sound.serves.listed errand.phase (List.mem_map_of_mem member)
  · intro id
    have alone := sound.serves.isInside_le_one id
    rw [List.countP_map] at alone
    exact alone

/-! ## Schedules -/

/-- The next deed of the request at a position, if it does not have to wait. -/
def advance (deployment : Deployment) (traffic : Traffic) (position : Nat) : Option Traffic :=
  match traffic.errands[position]? with
  | some ⟨step, deeds, .ask effect next⟩ =>
      if effect.isReady traffic.world.locks then
        let (answer, after) := traffic.world.perform deployment.partner effect
        some { traffic with
          world := after
          errands := traffic.errands.set position
            ⟨step, deeds ++ [⟨traffic.world, effect⟩], next answer⟩ }
      else none
  | _ => none

/-- Requests come in together and do their deeds in a given order. -/
def schedule (deployment : Deployment) (world : World MemoryStore) (steps : List Step)
    (positions : List Nat) : Option Traffic :=
  positions.foldlM (advance deployment) ⟨world, [], steps.map (.begin deployment.node)⟩

theorem Next.of_advance {position : Nat}
    (advances : first.advance deployment position = some second) :
    Next deployment first second := by
  rcases first with ⟨world, others, errands⟩
  unfold advance at advances
  split at advances
  · next step deeds effect next found =>
      split at advances
      · next ready =>
          rcases List.getElem?_eq_some_iff.mp found with ⟨within, same⟩
          rcases List.exists_of_set within with ⟨earlier, later, split, _, replaced⟩
          cases advances
          dsimp only at split replaced same ⊢
          rw [replaced]
          rw [same] at split
          rw [split]
          exact .acts world _ others earlier later step deeds effect next
            (.performed effect (by rintro lock rfl; exact ready))
      · cases advances
  · cases advances

theorem leads_begin (world : World MemoryStore) (steps : List Step) (errands : List Errand) :
    Leads deployment ⟨world, [], errands⟩
      ⟨world, [], errands ++ steps.map (.begin deployment.node)⟩ := by
  induction steps generalizing errands with
  | nil =>
      rw [List.map_nil, List.append_nil]
      exact .refl
  | cons step steps induction =>
      rw [List.map_cons, List.append_cons]
      exact .head (.begins world [] errands step) (induction _)

theorem leads_schedule {world : World MemoryStore} {steps : List Step} {positions : List Nat}
    {traffic : Traffic} (scheduled : schedule deployment world steps positions = some traffic) :
    Leads deployment (idle world) traffic := by
  apply Relation.ReflTransGen.trans (leads_begin world steps [])
  unfold schedule at scheduled
  rw [List.nil_append]
  generalize (⟨world, [], steps.map (.begin deployment.node)⟩ : Traffic) = begun at scheduled ⊢
  induction positions generalizing begun with
  | nil =>
      cases scheduled
      exact .refl
  | cons position positions induction =>
      rw [List.foldlM_cons] at scheduled
      rcases Option.bind_eq_some_iff.mp scheduled with ⟨between, advances, scheduled⟩
      exact .head (.of_advance advances) (induction between scheduled)

/-- Password and code are sent together. The request with the code finds the lock taken and
goes on when the other one has stored its draft. -/
theorem code_waits_for_password :
    let deployment := Deployment.simulated .standard
    let world := deployment.play (embeddedMoves.take 2) (.fresh .empty)
    deployment.bank.Quiet ∧ world.locks.Unused ∧ ∃ traffic,
      Leads deployment (idle world) traffic ∧ traffic.Unsaved ∧
      traffic.errands.map (·.deeds.countP (·.effect.edits)) = [1, 2] ∧
      (traffic.world.store.record? "first").map (fun record => (record.status, record.version)) =
        some (.finalised, 2) ∧
      (∀ id, traffic.errands.countP (·.phase.isInside id) ≤ 1) ∧
      ∀ errand ∈ traffic.errands, errand.Faithful := by
  intro deployment world
  let steps : List Step := [
    ⟨.update "first" ⟨some ⟨some "anna", none, none, none, none⟩, some "secret", none, none,
      none⟩, .epoch⟩,
    ⟨.update "first" ⟨none, none, none, some "123456", none⟩, .epoch⟩]
  let positions := [0, 0, 1] ++ List.replicate 9 0 ++ List.replicate 13 1
  have quiet : deployment.bank.Quiet := SimulatedBank.standard.quiet
  have unused : world.locks.Unused := ⟨by decide +kernel, by decide +kernel⟩
  have goes : (schedule deployment world steps positions).map (fun traffic =>
      (traffic.others, traffic.errands.map (·.deeds.countP (·.effect.edits)),
        (traffic.world.store.record? "first").map fun record =>
          (record.status, record.version))) =
      some ([], [1, 2], some (.finalised, 2)) := by decide +kernel
  rcases Option.map_eq_some_iff.mp goes with ⟨traffic, scheduled, facts⟩
  simp only [Prod.mk.injEq] at facts
  have leads := leads_schedule scheduled
  have unsaved : traffic.Unsaved := by
    intro id
    rw [facts.1]
    exact List.not_mem_nil
  have turns := requests_take_turns deployment quiet unused leads unsaved
  exact ⟨quiet, unused, traffic, leads, unsaved, facts.2.1, facts.2.2, turns.2.1, turns.2.2.1⟩

end Traffic

end StrongAuth
