import StrongAuth.Proofs.Legibility
import StrongAuth.Proofs.Procedures
import StrongAuth.Proofs.Stage
import StrongAuth.Proofs.Sweep

/-! # The procedures of the node on any store

What a node does on a store is told by what the store answers to each call, faults included,
whatever others do to it while the bank is busy. Main statements: a request that comes to the
bank concludes what the stage of its record makes of the conversation, and a copy that is saved
as settled has the status of its resource derived once more, or ends in the fault that is in the
way of it. -/

namespace StrongAuth

/-! ## What a store owes -/

namespace Store

variable {σ : Type} [Store σ]

/-- The resource is there, whether or not it can be read. -/
def Knows (id : String) (store : σ) : Prop :=
  Store.resource id store ≠ .ok none

end Store

/-- What a node may rely on, whatever a store holds. -/
class LawfulStore (σ : Type) [Store σ] : Prop where
  id_of_get : ∀ {store : σ} {id : String} {record : Authorisation},
    Store.get id store = .ok (some record) → record.id = id
  /-- A copy of a record is accepted in the version in which the record is stored. -/
  save_of_get : ∀ {store : σ} {draft record : Authorisation},
    Store.get draft.id store = .ok (some record) → draft.version = record.version →
      ∃ result, Store.save draft store = .ok result
  /-- A save gives the copy back in its next version and leaves the resources alone. -/
  of_save : ∀ {store later : σ} {draft saved : Authorisation},
    Store.save draft store = .ok (saved, later) →
      saved = { draft with version := draft.version + 1 } ∧
        ∀ id, Store.resource id later = Store.resource id store
  /-- A new status removes no resource. -/
  knows_of_set : ∀ {store later : σ} {other : String} {status : ParentStatus},
    Store.setParentStatus other status store = .ok later →
      ∀ id, Store.Knows id store → Store.Knows id later

namespace Store

variable {σ : Type} [Store σ]

/-- What a projection brings about: the new status, how it is told, and the store after it. -/
structure Projection (σ : Type) where
  status? : Option ParentStatus
  told : List Event
  store : σ

/-- Derives the status of a resource once more and stores it if it changes. -/
def project (parent : String) (store : σ) : Except Fault (Projection σ) := do
  match ← (Store.resource parent store).mapError .storage with
  | none => .error (.invariant (.parentMissing parent))
  | some resource =>
      let records ← (Store.listByParent parent store).mapError .storage
      match resource.derive? (records.map (·.status)) with
      | none => return ⟨none, [], store⟩
      | some status =>
          let store ← (Store.setParentStatus parent status store).mapError .storage
          return ⟨some status, [.parentChanged parent resource.status.word status.word], store⟩

/-- Where the resource is there, only the store itself can be in the way. -/
theorem Knows.storage_of_project {parent : String} {store : σ} {fault : Fault}
    (knows : Knows parent store) (fails : project parent store = .error fault) :
    ∃ storage, fault = .storage storage := by
  unfold project at fails
  cases read : Store.resource parent store with
  | error storage =>
      rw [read] at fails
      exact ⟨storage, (Except.error.inj fails).symm⟩
  | ok found =>
      cases found with
      | none => exact absurd read knows
      | some resource =>
          rw [read] at fails
          cases listed : Store.listByParent parent store with
          | error storage =>
              rw [listed] at fails
              exact ⟨storage, (Except.error.inj fails).symm⟩
          | ok records =>
              rw [listed] at fails
              simp only [Except.mapError, bind, Except.bind] at fails
              split at fails
              · cases fails
              · next status _ =>
                  cases set : Store.setParentStatus parent status store with
                  | error storage =>
                      rw [set] at fails
                      exact ⟨storage, (Except.error.inj fails).symm⟩
                  | ok later =>
                      rw [set] at fails
                      cases fails

section

variable [LawfulStore σ] {store : σ} {id : String}

theorem exists_save_of_get {draft record : Authorisation} {now : Time.Timestamp}
    (read : Store.get draft.id store = .ok (some record))
    (current : draft.version = record.version) :
    ∃ later, Store.save { draft with updated := now } store = .ok (draft.saved now, later) := by
  let copy : Authorisation := { draft with updated := now }
  have reads : Store.get copy.id store = .ok (some record) := read
  rcases LawfulStore.save_of_get reads current with ⟨⟨saved, later⟩, saves⟩
  rcases LawfulStore.of_save saves with ⟨rfl, _⟩
  exact ⟨later, saves⟩

theorem Knows.interfere (knows : Knows id store) (interference : Interference) :
    Knows id (Store.interfere store interference) := by
  cases interference with
  | resave other =>
      unfold Store.interfere Store.resave
      cases read : Store.get other store with
      | error fault => simpa [read, bind, Except.bind] using knows
      | ok found =>
          cases found with
          | none => simpa [read, bind, Except.bind, pure, Except.pure] using knows
          | some record =>
              cases saves : Store.save record store with
              | error fault => simpa [read, saves, bind, Except.bind] using knows
              | ok result =>
                  have known : Knows id result.2 := by
                    unfold Knows
                    rw [(LawfulStore.of_save saves).2]
                    exact knows
                  simpa [read, saves, bind, Except.bind, pure, Except.pure] using known
  | setStatus other status =>
      unfold Store.interfere
      dsimp only
      cases restates : Store.setParentStatus other status store with
      | error fault => exact knows
      | ok later => exact LawfulStore.knows_of_set restates id knows

theorem Knows.foldl_interfere (interference : List Interference) (knows : Knows id store) :
    Knows id (interference.foldl Store.interfere store) := by
  induction interference generalizing store with
  | nil => exact knows
  | cons first others induction => exact induction (knows.interfere first)

end

end Store

/-! ## Both stores -/

namespace MemoryStore

instance : LawfulStore MemoryStore where
  id_of_get read := (mem_of_record? (Except.ok.inj read)).2
  save_of_get read current := ⟨_, save_of_current (Except.ok.inj read) current.symm⟩
  of_save saves := by
    rcases save_eq_ok saves with ⟨_, _, _, rfl, rfl⟩
    exact ⟨rfl, fun _ => rfl⟩
  knows_of_set := by
    intro store later other status restates id knows unknown
    change MemoryStore.setParentStatus other status store = .ok later at restates
    unfold MemoryStore.setParentStatus at restates
    split at restates
    · cases restates
      have missing := Except.ok.inj unknown
      rw [resource?_replaceResource] at missing
      refine knows (congrArg Except.ok ?_)
      split at missing
      · exact Option.map_eq_none_iff.mp missing
      · exact missing
    · cases restates

/-- In memory nothing is in the way of deriving the status of a resource that is there. -/
theorem project_of_resource? {store : MemoryStore} {parent : String} {resource : Resource}
    (found : store.resource? parent = some resource) :
    Store.project parent store =
      .ok ⟨resource.derive? (store.statuses parent), Node.parentChanges store parent,
        store.projected parent⟩ := by
  have reads : Store.resource parent store = .ok (some resource) := congrArg Except.ok found
  have lists : Store.listByParent parent store = .ok (store.listByParent parent) := rfl
  unfold Store.project Node.parentChanges projected
  rw [reads, lists, found]
  simp only [Except.mapError, bind, Except.bind, pure, Except.pure]
  rw [← statuses]
  cases resource.derive? (store.statuses parent) with
  | none => rfl
  | some status =>
      have sets : Store.setParentStatus parent status store =
          .ok (store.replaceResource { resource with status }) := by
        change MemoryStore.setParentStatus parent status store = _
        rw [MemoryStore.setParentStatus, found]
      dsimp only
      rw [sets]

end MemoryStore

namespace TableStore

theorem resource?_eq_none_iff {id : String} {store : TableStore} :
    store.resource? id = .ok none ↔ find? id store.resources = none := by
  unfold TableStore.resource?
  cases find? id store.resources with
  | none => simp [pure, Except.pure]
  | some row =>
      simp only [Option.mapM_some, Functor.map, Except.map]
      cases readResource row <;> simp

theorem id_of_readRecord {row : Row AuthorisationColumn} {record : Authorisation}
    (read : readRecord row = .ok record) : row .id = .text record.id := by
  simp only [readRecord, bind_eq_ok_iff] at read
  iterate 9 rcases read with ⟨_, _, read⟩
  rcases read with ⟨id, reads, read⟩
  iterate 10 rcases read with ⟨_, _, read⟩
  split at read
  · cases read
  · simp only [bind_eq_ok_iff] at read
    rcases read with ⟨_, _, _, _, _, _, _, _, _, _, same⟩
    cases same
    cases cell : row .id <;> rw [cell] at reads <;> cases reads
    rfl

theorem read_of_get {store : TableStore} {id : String} {record : Authorisation}
    (read : Store.get id store = .ok (some record)) :
    ∃ row, find? id store.authorisations = some row ∧ readRecord row = .ok record := by
  change (find? id store.authorisations).mapM readRecord = _ at read
  cases found : find? id store.authorisations with
  | none =>
      rw [found] at read
      cases read
  | some row =>
      rw [found, Option.mapM_some] at read
      rcases map_eq_ok_iff.mp read with ⟨_, reads, same⟩
      exact ⟨row, rfl, Option.some.inj same ▸ reads⟩

instance : LawfulStore TableStore where
  id_of_get := by
    intro store id record read
    rcases read_of_get read with ⟨row, found, reads⟩
    have keyed : row Schema.key = .text id := by simpa using List.find?_some found
    exact Cell.text.inj ((id_of_readRecord reads).symm.trans keyed)
  save_of_get := by
    intro store draft record read current
    rcases read_of_get read with ⟨row, found, reads⟩
    have version : (row .version == .integer draft.version) = true := by
      rw [version_of_readRecord reads, current]
      exact beq_self_eq_true _
    refine ⟨({ draft with version := draft.version + 1 }, { store with
      authorisations := change draft.id (updateRecord draft) store.authorisations }), ?_⟩
    change TableStore.save draft store = _
    unfold TableStore.save
    rw [found]
    dsimp only
    rw [if_pos version]
    rfl
  of_save := by
    intro store later draft saved saves
    rcases save_eq_ok saves with ⟨_, _, rfl, rfl⟩
    exact ⟨rfl, fun _ => rfl⟩
  knows_of_set := by
    intro store later other status restates id knows unknown
    refine knows (resource?_eq_none_iff.mpr ?_)
    have missing := resource?_eq_none_iff.mp unknown
    rw [find?_of_setParentStatus restates] at missing
    split at missing
    · exact Option.map_eq_none_iff.mp missing
    · exact missing

/-- All authorisations of a resource can be read. -/
def Listable (parent : String) (store : TableStore) : Prop :=
  ∀ row ∈ store.authorisations, row .parent = .text parent → ∃ record, readRecord row = .ok record

theorem exists_listByParent_iff {parent : String} {store : TableStore} :
    (∃ records, store.listByParent parent = .ok records) ↔ store.Listable parent := by
  unfold TableStore.listByParent
  rw [exists_mapM_iff]
  simp only [List.mem_mergeSort, List.mem_filter, beq_iff_eq, and_imp, Listable]

theorem listable_of_project {parent : String} {store : TableStore}
    {projection : Store.Projection TableStore}
    (projects : Store.project parent store = .ok projection) : store.Listable parent := by
  rcases bind_eq_ok_iff.mp projects with ⟨found, _, projects⟩
  cases found with
  | none => cases projects
  | some resource =>
      rcases bind_eq_ok_iff.mp projects with ⟨records, lists, _⟩
      exact exists_listByParent_iff.mp ⟨records, mapError_eq_ok_iff.mp lists⟩

/-- The status of a resource is derived once more exactly if all its authorisations can be
read. -/
theorem exists_project_iff {parent : String} {store : TableStore} {resource : Resource}
    (read : Store.resource parent store = .ok (some resource)) :
    (∃ projection, Store.project parent store = .ok projection) ↔ store.Listable parent := by
  refine ⟨fun ⟨_, projects⟩ => listable_of_project projects, fun listable => ?_⟩
  rcases exists_listByParent_iff.mpr listable with ⟨records, lists⟩
  have lists : Store.listByParent parent store = .ok records := lists
  unfold Store.project
  rw [read]
  simp only [Except.mapError, bind, Except.bind]
  rw [lists]
  dsimp only
  cases resource.derive? (records.map (·.status)) with
  | none => exact ⟨_, rfl⟩
  | some status =>
      have sets : ∃ later, Store.setParentStatus parent status store = .ok later := by
        change ∃ later, TableStore.setParentStatus parent status store = .ok later
        unfold TableStore.setParentStatus
        cases found : find? parent store.resources with
        | none => cases read.symm.trans (resource?_eq_none_iff.mpr found)
        | some row => exact ⟨_, rfl⟩
      rcases sets with ⟨later, sets⟩
      dsimp only
      rw [sets]
      exact ⟨_, rfl⟩

/-- A row that cannot be read outlasts the saves of other records, and is in the way of every
projection after them. -/
theorem project_error_of_save {store later : TableStore} {draft saved : Authorisation}
    {row : Row AuthorisationColumn} {parent : String} {fault : StoreFault}
    (saves : Store.save draft store = .ok (saved, later)) (member : row ∈ store.authorisations)
    (other : row .id ≠ .text draft.id) (ofParent : row .parent = .text parent)
    (unreadable : readRecord row = .error fault) :
    ∃ fault, Store.project parent later = .error fault := by
  rcases save_eq_ok saves with ⟨_, _, _, rfl⟩
  have stays : row ∈ change draft.id (updateRecord draft) store.authorisations :=
    List.mem_map.mpr ⟨row, member, if_neg (by simpa [Schema.key] using other)⟩
  cases projects : Store.project parent { store with
      authorisations := change draft.id (updateRecord draft) store.authorisations } with
  | error fault => exact ⟨fault, rfl⟩
  | ok projection =>
      rcases listable_of_project projects row stays ofParent with ⟨record, reads⟩
      cases unreadable.symm.trans reads

end TableStore

/-! ## Actions that leave the bank alone -/

variable {σ : Type} [Store σ] {α β : Type} {partner : Partner} {world : World σ}

theorem World.runAction_call (partner : Partner) (world : World σ) (call : StoreCall) :
    world.runAction partner (Action.call call) =
      ((Store.perform world.store call).1.mapError fun fault => .faulted (.storage fault),
        { world with store := (Store.perform world.store call).2 }) := by
  unfold Action.call
  rw [runAction_bind, runAction_perform]
  dsimp only [World.perform]
  cases (Store.perform world.store call).1 <;> rfl

namespace Action

/-- The action does not call the bank. -/
def Silent (partner : Partner) (σ : Type) [Store σ] (action : Action α) : Prop :=
  ∀ world : World σ, (world.runAction partner action).2.exchanges = world.exchanges

theorem silent_call (call : StoreCall) : Silent partner σ (Action.call call) := by
  intro world
  rw [World.runAction_call]

theorem Silent.bind {first : Action α} {second : α → Action β}
    (silent : Silent partner σ first) (next : ∀ value, Silent partner σ (second value)) :
    Silent partner σ (first >>= second) := by
  intro world
  have before := silent world
  rw [World.runAction_bind]
  rcases ran : world.runAction partner first with ⟨failure | value, later⟩
  · rw [ran] at before
    exact before
  · rw [ran] at before
    exact (next value later).trans before

/-- The action does not call the bank, or its result is one of some. -/
def AsksOnlyIf (partner : Partner) (world : World σ) (action : Action α)
    (told : Except Failure α × World σ → Prop) : Prop :=
  (world.runAction partner action).2.exchanges = world.exchanges ∨
    told (world.runAction partner action)

theorem Silent.asksOnlyIf {action : Action α} (silent : Silent partner σ action)
    (told : Except Failure α × World σ → Prop) : AsksOnlyIf partner world action told :=
  .inl (silent world)

/-- What is found before the bank is called may be used when it is. -/
theorem Silent.bind_asksOnlyIf {first : Action α} {second : α → Action β}
    {told : Except Failure β × World σ → Prop} (silent : Silent partner σ first)
    (next : ∀ value later, world.runAction partner first = (.ok value, later) →
      AsksOnlyIf partner later (second value) told) :
    AsksOnlyIf partner world (first >>= second) told := by
  have before := silent world
  unfold AsksOnlyIf
  rw [World.runAction_bind]
  rcases ran : world.runAction partner first with ⟨failure | value, later⟩
  · rw [ran] at before
    exact .inl before
  · rw [ran] at before
    exact (next value later ran).imp_left fun same => same.trans before

end Action

namespace Node

open StrongAuth.Action

variable {now : Time.Timestamp} {parent : String}

/-! ## Reading -/

theorem read_of_load {id : String} {record : Authorisation} {later : World σ}
    (ran : world.runAction partner (load id) = (.ok record, later)) :
    Store.get id world.store = .ok (some record) ∧ world = later := by
  unfold load at ran
  rw [World.runAction_bind, World.runAction_call] at ran
  dsimp only [Store.perform] at ran
  cases read : Store.get id world.store with
  | error fault =>
      rw [read] at ran
      cases ran
  | ok found =>
      rw [read] at ran
      cases found with
      | none => cases ran
      | some stored =>
          cases ran
          exact ⟨rfl, rfl⟩

theorem runAction_load_of_get {id : String} {record : Authorisation}
    (read : Store.get id world.store = .ok (some record)) :
    world.runAction partner (load id) = (.ok record, world) := by
  unfold load
  rw [World.runAction_bind, World.runAction_call]
  dsimp only [Store.perform]
  rw [read]
  rfl

theorem runAction_load_of_error {id : String} {fault : StoreFault}
    (unreadable : Store.get id world.store = .error fault) :
    world.runAction partner (load id) = (.error (.faulted (.storage fault)), world) := by
  unfold load
  rw [World.runAction_bind, World.runAction_call]
  dsimp only [Store.perform]
  rw [unreadable]
  rfl

theorem silent_load (id : String) : Silent partner σ (load id) := by
  refine (silent_call _).bind ?_
  rintro (_ | record) <;> exact fun _ => rfl

theorem read_of_call {id : String} {found : Option Resource} {later : World σ}
    (ran : world.runAction partner (call (.resource id)) = (.ok found, later)) :
    Store.resource id world.store = .ok found ∧ world = later := by
  rw [World.runAction_call] at ran
  refine ⟨?_, congrArg Prod.snd ran⟩
  have answers := congrArg Prod.fst ran
  dsimp only [Store.perform] at answers
  cases read : Store.resource id world.store with
  | error fault =>
      rw [read] at answers
      cases answers
  | ok value =>
      rw [read] at answers
      cases answers
      rfl

theorem world_of_list {parent : String} {records : List Authorisation} {later : World σ}
    (ran : world.runAction partner (call (.listByParent parent)) = (.ok records, later)) :
    world = later := by
  rw [World.runAction_call] at ran
  exact congrArg Prod.snd ran

/-! ## Saving -/

theorem runAction_persist_eq (partner : Partner) (world : World σ) (record : Authorisation)
    (now : Time.Timestamp) :
    world.runAction partner (persist record now) =
      match Store.save { record with updated := now } world.store with
      | .ok (saved, later) => (.ok saved, { world with store := later })
      | .error (.conflict ..) => (.error (.refused .modifiedConcurrently), world)
      | .error fault => (.error (.faulted (.storage fault)), world) := by
  have performs : Store.perform world.store (.save { record with updated := now }) =
      Store.settle world.store (Store.save { record with updated := now } world.store) := rfl
  unfold persist
  rw [World.runAction_bind, World.runAction_perform]
  simp only [World.perform, performs]
  rcases Store.save { record with updated := now } world.store with fault | ⟨saved, later⟩
  · cases fault <;> rfl
  · rfl

theorem silent_persist (record : Authorisation) : Silent partner σ (persist record now) := by
  intro world
  rw [runAction_persist_eq]
  split <;> rfl

theorem silent_publishChange (record : Authorisation) (earlier : Status) :
    Silent partner σ (publishChange record earlier) := by
  intro world
  rw [runAction_changes]

/-! ## Projections -/

theorem runAction_projectParent_eq (partner : Partner) (world : World σ) (parent : String) :
    world.runAction partner (projectParent parent) =
      match Store.project parent world.store with
      | .ok projection => (.ok projection.status?, { world with
          store := projection.store
          events := world.events ++ projection.told })
      | .error fault => (.error (.faulted fault), world) := by
  unfold projectParent Store.project
  rw [World.runAction_bind, World.runAction_call]
  dsimp only [Store.perform]
  cases Store.resource parent world.store with
  | error fault => rfl
  | ok found =>
      cases found with
      | none => rfl
      | some resource =>
          simp only [Except.mapError, bind, Except.bind]
          change World.runAction partner (call (.listByParent parent) >>= _) _ = _
          rw [World.runAction_bind, World.runAction_call]
          dsimp only [Store.perform]
          cases Store.listByParent parent world.store with
          | error fault => rfl
          | ok records =>
              simp only [Except.mapError]
              cases resource.derive? (records.map (·.status)) with
              | none =>
                  dsimp only [pure, Except.pure]
                  rw [List.append_nil]
                  rfl
              | some status =>
                  change World.runAction partner (call (.setParentStatus parent status) >>= _) _ = _
                  rw [World.runAction_bind, World.runAction_call]
                  dsimp only [Store.perform]
                  cases Store.setParentStatus parent status world.store <;> rfl

theorem silent_projectParent (parent : String) : Silent partner σ (projectParent parent) := by
  intro world
  rw [runAction_projectParent_eq]
  split <;> rfl

/-! ## Settling -/

theorem silent_settling (saved : Authorisation) (earlier : Status) {next : Action α}
    (silent : Silent partner σ next) :
    Silent partner σ (do
      publishChange saved earlier
      let _ ← projectParent saved.parent
      next) :=
  (silent_publishChange saved earlier).bind fun _ =>
    (silent_projectParent saved.parent).bind fun _ => silent

/-- A settled record is told of, and the status of its resource is derived once more. -/
theorem runAction_settling (partner : Partner) (world : World σ) (saved : Authorisation)
    (earlier : Status) (next : Action α) :
    let events := world.events ++ changes saved earlier
    world.runAction partner (do
        publishChange saved earlier
        let _ ← projectParent saved.parent
        next) =
      match Store.project saved.parent world.store with
      | .ok projection => World.runAction partner next { world with
          store := projection.store
          events := events ++ projection.told }
      | .error fault => (.error (.faulted fault), { world with events }) := by
  intro events
  rw [World.runAction_bind, runAction_changes]
  dsimp only
  rw [World.runAction_bind, runAction_projectParent_eq]
  dsimp only
  cases Store.project saved.parent world.store <;> rfl

theorem runAction_settle {draft saved : Authorisation} {stored : σ} (partner : Partner)
    (saves : Store.save { draft with updated := now } world.store = .ok (saved, stored))
    (earlier : Status) (next : Authorisation → Action α) :
    let events := world.events ++ changes saved earlier
    world.runAction partner (do
        let saved ← persist draft now
        publishChange saved earlier
        let _ ← projectParent saved.parent
        next saved) =
      match Store.project saved.parent stored with
      | .ok projection => World.runAction partner (next saved) { world with
          store := projection.store
          events := events ++ projection.told }
      | .error fault => (.error (.faulted fault), { world with store := stored, events }) := by
  have persists := runAction_persist_eq partner world draft now
  rw [saves] at persists
  rw [World.runAction_bind_of_ok partner persists]
  exact runAction_settling partner { world with store := stored } saved earlier (next saved)

/-! ## Expiry -/

variable {record : Authorisation}

theorem silent_expire (record : Authorisation) : Silent partner σ (expire record now) :=
  (silent_persist _).bind fun saved => Silent.bind (fun _ => rfl) fun _ =>
    silent_settling saved record.status fun _ => rfl

theorem runAction_expire_of_saves {saved : Authorisation} {stored : σ} (partner : Partner)
    (saves : Store.save { record with status := .failed, updated := now } world.store =
      .ok (saved, stored)) :
    let events := world.events ++ (.expired saved.id saved.parent :: changes saved record.status)
    world.runAction partner (expire record now) =
      match Store.project saved.parent stored with
      | .ok projection => (.ok saved, { world with
          store := projection.store
          events := events ++ projection.told })
      | .error fault => (.error (.faulted fault), { world with store := stored, events }) := by
  intro events
  have persists := runAction_persist_eq partner world { record with status := .failed } now
  rw [saves] at persists
  unfold expire
  rw [World.runAction_bind_of_ok partner persists, World.runAction_bind, World.runAction_publish]
  refine (runAction_settling partner _ saved record.status (pure saved)).trans ?_
  dsimp only
  rw [List.append_assoc, List.singleton_append]
  cases Store.project saved.parent stored <;> rfl

theorem runAction_process_of_late (partner : Partner) (node : Node) (request : Request)
    (read : Store.get record.id world.store = .ok (some record))
    (overdue : record.isOverdue now = true) :
    let expired := world.runAction partner (expire record now)
    world.runAction partner (node.process record.id request now) =
      (expired.1.bind fun _ => .error (.refused .expired), expired.2) := by
  rcases Bool.and_eq_true_iff.mp overdue with ⟨live, late⟩
  unfold process
  rw [World.runAction_bind_of_ok partner (runAction_load_of_get read),
    if_neg (by simpa using live), if_pos late, World.runAction_bind]
  dsimp only
  rcases world.runAction partner (expire record now) with ⟨failure | saved, later⟩ <;> rfl

theorem runAction_status_of_late (partner : Partner)
    (read : Store.get record.id world.store = .ok (some record))
    (overdue : record.isOverdue now = true) : ∃ busy idle,
    let expired := World.runAction partner (expire record now) { world with locks := busy }
    world.runAction partner (status record.id now) =
      (expired.1.map (·.status), { expired.2 with locks := idle }) := by
  have late : ¬ (!record.isOverdue now) = true := by rw [overdue]; simp
  have unsettled : ¬ record.status.isTerminal = true := by
    simpa using (Bool.and_eq_true_iff.mp overdue).1
  unfold status
  rw [World.runAction_bind_of_ok partner (runAction_load_of_get read), if_neg late]
  rcases runAction_withLock partner record.id _ world with ⟨busy, idle, locked⟩
  refine ⟨busy, idle, locked.trans ?_⟩
  let taken : World σ := { world with locks := busy }
  have reads : Store.get record.id taken.store = .ok (some record) := read
  rw [World.runAction_bind_of_ok partner (runAction_load_of_get reads), if_neg unsettled,
    World.runAction_bind]
  rcases World.runAction partner (expire record now) taken with ⟨failure | saved, later⟩ <;> rfl

theorem runAction_status_of_punctual (partner : Partner) {id : String}
    (read : Store.get id world.store = .ok (some record))
    (punctual : record.isOverdue now = false) :
    world.runAction partner (status id now) = (.ok record.status, world) := by
  unfold status
  rw [World.runAction_bind_of_ok partner (runAction_load_of_get read), if_pos (by simp [punctual])]
  rfl

theorem runAction_expireCandidate_of_late (partner : Partner)
    (read : Store.get record.id world.store = .ok (some record))
    (overdue : record.isOverdue now = true) :
    let expired := world.runAction partner (expire record now)
    world.runAction partner (expireCandidate record.id now) =
      (expired.1.map fun _ => true, expired.2) := by
  have late : ¬ (!record.isOverdue now) = true := by rw [overdue]; simp
  unfold expireCandidate
  rw [World.runAction_bind, World.runAction_call]
  dsimp only [Store.perform]
  rw [read]
  dsimp only [Except.mapError]
  rw [if_neg late, World.runAction_bind]
  rcases world.runAction partner (expire record now) with ⟨failure | saved, later⟩ <;> rfl

/-! ## Requests -/

/-- A verdict that completes its authorisation settles the copy. -/
theorem conclude_of_advance {node : Node} {verdict : Stage.Verdict} {earlier status : Status}
    (advances : verdict.outcome = .advance status)
    (accepted : Status.check node.policy.exemption earlier status = .ok ())
    (settles : status.isTerminal = true) :
    node.conclude earlier verdict now = (do
      let saved ← persist { verdict.record with status } now
      publishChange saved earlier
      let _ ← projectParent saved.parent
      return .of node.links saved) := by
  unfold conclude
  rw [advances]
  dsimp only
  rw [accepted]
  simp only [settles, if_true]

theorem conclude_of_fail {node : Node} {verdict : Stage.Verdict} {earlier : Status}
    {refusal : Refusal} (fails : verdict.outcome = .fail refusal) :
    node.conclude earlier verdict now = (do
      let saved ← persist { verdict.record with status := .failed } now
      publishChange saved earlier
      let _ ← projectParent saved.parent
      refuse refusal) := by
  unfold conclude
  rw [fails]

theorem silent_conclude (node : Node) (earlier : Status) (verdict : Stage.Verdict) :
    Silent partner σ (node.conclude earlier verdict now) := by
  unfold conclude
  cases verdict.outcome with
  | advance status =>
      dsimp only
      cases Status.check node.policy.exemption earlier status with
      | error refused => exact fun _ => rfl
      | ok accepted =>
          refine (silent_persist _).bind fun saved => ?_
          split
          · exact silent_settling saved earlier fun _ => rfl
          · exact (silent_publishChange saved earlier).bind fun _ _ => rfl
  | refuse refusal => exact fun _ => rfl
  | retry refusal => exact (silent_persist _).bind fun _ _ => rfl
  | fail refusal =>
      exact (silent_persist _).bind fun saved => silent_settling saved earlier fun _ => rfl

end Node

/-- The visit is what becomes of a request that comes to its stage, on any store. -/
structure Visit.Comes (visit : Visit) (partner : Partner) (node : Node) (id : String)
    (request : Request) (now : Time.Timestamp) (world : World σ)
    (result : Except Failure UpdateResponse × World σ) : Prop where
  loaded : Store.get id world.store = .ok (some visit.record)
  parent : Store.resource visit.record.parent world.store = .ok (some visit.resource)
  yields : Dialogue.Yields (Stage.handle visit.record.status
    (visit.input node.policy request) visit.record) visit.exchanges visit.verdict
  undisturbed : partner.bank.Quiet → visit.interference = []
  ran : result = (world.afterTalk visit.interference visit.exchanges).runAction partner
    (node.conclude visit.record.status visit.verdict now)

namespace Visit.Comes

variable {node : Node} {visit : Visit} {id : String} {request : Request} {now : Time.Timestamp}
  {result : Except Failure UpdateResponse × World σ}

theorem sound (comes : visit.Comes partner node id request now world result) :
    Stage.Sound (visit.input node.policy request) visit.record visit.exchanges visit.verdict :=
  (Stage.handle_sound _ _).of_yields comes.yields

theorem exchanges_eq (comes : visit.Comes partner node id request now world result) :
    result.2.exchanges = world.exchanges ++ visit.exchanges := by
  rw [comes.ran]
  exact Node.silent_conclude node _ _ _

end Visit.Comes

namespace Node

open StrongAuth.Action

variable {id : String} {request : Request} {now : Time.Timestamp}

theorem comes_of_admitted (partner : Partner) (node : Node) {record : Authorisation}
    {resource : Resource} (siblings : List Authorisation) (now : Time.Timestamp)
    (loaded : Store.get id world.store = .ok (some record))
    (parent : Store.resource record.parent world.store = .ok (some resource)) :
    ∃ visit : Visit, visit.Comes partner node id request now world
      (world.runAction partner (do
        let verdict ← converse (Stage.handle record.status
          ⟨request, resource, .ofApproach record.approach, node.policy⟩ record)
        node.conclude record.status verdict now)) := by
  rcases World.run_dialogue partner (Stage.handle record.status
    ⟨request, resource, .ofApproach record.approach, node.policy⟩ record) world
    with ⟨verdict, exchanges, interference, talked, yields, undisturbed⟩
  refine ⟨⟨record, resource, siblings, exchanges, verdict, interference⟩, loaded, parent, yields,
    undisturbed, ?_⟩
  rw [World.runAction_bind, converse, World.runAction_lift, talked]

theorem checked_comes (partner : Partner) (node : Node) {record : Authorisation}
    {resource : Resource} (siblings : List Authorisation) (now : Time.Timestamp)
    (loaded : Store.get id world.store = .ok (some record))
    (parent : Store.resource record.parent world.store = .ok (some resource)) :
    AsksOnlyIf partner world (do
      if let some refusal := Check.firstObjection node.checks
          ⟨request, record, resource, siblings⟩ then
        refuse refusal
      let verdict ← converse (Stage.handle record.status
        ⟨request, resource, .ofApproach record.approach, node.policy⟩ record)
      node.conclude record.status verdict now)
      fun result => ∃ visit : Visit, visit.Comes partner node id request now world result := by
  cases Check.firstObjection node.checks ⟨request, record, resource, siblings⟩ with
  | some refusal => exact .inl rfl
  | none => exact .inr (comes_of_admitted partner node siblings now loaded parent)

/-- A request that comes to the bank concludes its visit, whatever the store. -/
theorem process_comes (partner : Partner) (node : Node) (id : String) (request : Request)
    (now : Time.Timestamp) (world : World σ) :
    AsksOnlyIf partner world (node.process id request now)
      fun result => ∃ visit : Visit, visit.Comes partner node id request now world result := by
  unfold process
  refine (silent_load id).bind_asksOnlyIf fun record later ran => ?_
  rcases read_of_load ran with ⟨loaded, rfl⟩
  dsimp only
  split
  · exact .inl rfl
  · split
    · exact Silent.asksOnlyIf ((silent_expire record).bind fun _ _ => rfl) _
    · refine (silent_call _).bind_asksOnlyIf ?_
      rintro (_ | resource) later ran
      · exact .inl rfl
      · rcases read_of_call ran with ⟨parent, rfl⟩
        dsimp only
        split
        · refine (silent_call _).bind_asksOnlyIf fun siblings later ran => ?_
          cases world_of_list ran
          exact checked_comes partner node siblings now loaded parent
        · exact checked_comes partner node [] now loaded parent

/-- The bank is called in the same way whoever holds which lock. -/
theorem exchanges_converse {α : Type} (partner : Partner) (dialogue : Dialogue α)
    (world : World σ) (locks : Locks) :
    (World.runAction partner (converse dialogue) { world with locks }).2.exchanges =
      (world.runAction partner (converse dialogue)).2.exchanges := by
  simp only [converse, World.runAction_lift]
  induction dialogue generalizing world with
  | done value => rfl
  | ask call next induction => exact induction _ (world.consult partner call).2

/-- A request to which nothing objects calls the bank as the stage of its record does. -/
theorem exchanges_process_of_admitted {node : Node} {record : Authorisation} {resource : Resource}
    (loaded : Store.get id world.store = .ok (some record))
    (live : record.status.isTerminal = false) (punctual : record.isExpired now = false)
    (parent : Store.resource record.parent world.store = .ok (some resource))
    (single : resource.multilevel = false)
    (admitted : Check.firstObjection node.checks ⟨request, record, resource, []⟩ = none) :
    (world.runAction partner (node.process id request now)).2.exchanges =
      (world.runAction partner (converse (Stage.handle record.status
        ⟨request, resource, .ofApproach record.approach, node.policy⟩ record))).2.exchanges := by
  have finds : world.runAction partner (call (.resource record.parent)) =
      (.ok (some resource), world) := by
    rw [World.runAction_call]
    dsimp only [Store.perform]
    rw [parent]
    rfl
  unfold process
  rw [World.runAction_bind_of_ok partner (runAction_load_of_get loaded),
    if_neg (by simp [live]), if_neg (by simp [punctual]), World.runAction_bind_of_ok partner finds]
  dsimp only
  rw [single, if_neg Bool.false_ne_true]
  change (World.runAction partner (do
    if let some refusal := Check.firstObjection node.checks ⟨request, record, resource, []⟩ then
      refuse refusal
    let verdict ← converse (Stage.handle record.status
      ⟨request, resource, .ofApproach record.approach, node.policy⟩ record)
    node.conclude record.status verdict now) world).2.exchanges = _
  rw [admitted]
  dsimp only
  rw [World.runAction_bind]
  rcases talked : world.runAction partner (converse (Stage.handle record.status
    ⟨request, resource, .ofApproach record.approach, node.policy⟩ record))
    with ⟨failure | verdict, later⟩
  · rfl
  · exact silent_conclude node _ verdict later

end Node

theorem Deployment.exchanges_update_of_admitted (deployment : Deployment) {id : String}
    {request : Request} {now : Time.Timestamp} {record : Authorisation} {resource : Resource}
    (loaded : Store.get id world.store = .ok (some record))
    (live : record.status.isTerminal = false) (punctual : record.isExpired now = false)
    (parent : Store.resource record.parent world.store = .ok (some resource))
    (single : resource.multilevel = false)
    (admitted : Check.firstObjection deployment.node.checks ⟨request, record, resource, []⟩ =
      none) :
    (deployment.perform ⟨.update id request, now⟩ world).2.exchanges =
      (world.runAction deployment.partner (Action.converse (Stage.handle record.status
        ⟨request, resource, .ofApproach record.approach, deployment.node.policy⟩
        record))).2.exchanges := by
  rcases Node.runAction_update deployment.partner deployment.node id request now world
    with ⟨busy, idle, ran⟩
  let taken : World σ := { world with locks := busy }
  have loads : Store.get id taken.store = .ok (some record) := loaded
  have processed := @Node.exchanges_process_of_admitted σ _ deployment.partner taken id request now
    deployment.node record resource loads live punctual parent single admitted
  rw [Node.exchanges_converse] at processed
  exact (congrArg (fun result => World.exchanges result.2) ran).trans processed

end StrongAuth
