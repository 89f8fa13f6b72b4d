import StrongAuth.Aggregate
import StrongAuth.Store.Memory

/-! # Laws of the store in memory

What each change of the store does to the records and resources that can be looked up
afterwards, and to the number of records of any sort. -/

namespace StrongAuth

def Authorisation.saved (now : Time.Timestamp) (record : Authorisation) : Authorisation :=
  { record with updated := now, version := record.version + 1 }

namespace MemoryStore

variable {store : MemoryStore} {record stored : Authorisation} {resource : Resource}
  {id parent : String} {now : Time.Timestamp}

/-! ## Records -/

def Distinct (store : MemoryStore) : Prop :=
  (store.records.map (·.id)).Nodup

theorem mem_of_record? (found : store.record? id = some record) :
    record ∈ store.records ∧ record.id = id := by
  have matching := List.find?_some found
  exact ⟨List.mem_of_find?_eq_some found, by simpa using matching⟩

theorem record?_of_mem (distinct : store.Distinct) (member : record ∈ store.records) :
    store.record? record.id = some record := by
  rcases store with ⟨records, resources⟩
  induction records with
  | nil => cases member
  | cons head tail induction =>
      have parts := List.nodup_cons.mp distinct
      rcases List.mem_cons.mp member with equal | member
      · subst head
        simp [record?]
      · have different : head.id ≠ record.id := fun equal =>
          parts.1 (List.mem_map.mpr ⟨record, member, equal.symm⟩)
        simpa [record?, different] using induction parts.2 member

theorem record?_isSome_iff :
    (store.record? id).isSome = true ↔ id ∈ store.records.map (·.id) := by
  simp [record?]

@[simp] theorem record?_replace :
    (store.replace record).record? id =
      if id = record.id then (store.record? id).map fun _ => record else store.record? id := by
  rcases store with ⟨records, resources⟩
  simp only [record?, replace]
  induction records with
  | nil => simp
  | cons head tail induction =>
      simp only [List.map_cons, List.find?_cons]
      by_cases sameHead : head.id = record.id
      · by_cases sameId : id = record.id
        · simp [sameHead, sameId]
        · have otherRecord : (record.id == id) = false := by simpa using Ne.symm sameId
          rw [if_pos sameHead, otherRecord, sameHead, otherRecord]
          exact induction
      · rw [if_neg sameHead]
        cases found : head.id == id with
        | true =>
            have sameId : head.id = id := by simpa using found
            have different : id ≠ record.id := sameId ▸ sameHead
            simp [different]
        | false => exact induction

@[simp] theorem resource?_replace : (store.replace record).resource? id = store.resource? id :=
  rfl

@[simp] theorem ids_replace :
    (store.replace record).records.map (·.id) = store.records.map (·.id) := by
  simp only [replace, List.map_map]
  apply List.map_congr_left
  intro stored member
  simp only [Function.comp]
  split
  · next same => exact same.symm
  · rfl

theorem Distinct.replace (distinct : store.Distinct) : (store.replace record).Distinct := by
  unfold Distinct
  rw [ids_replace]
  exact distinct

/-- A replacement moves one record from those of its old sort to those of its new one. -/
theorem countP_replace (distinct : store.Distinct)
    (found : store.record? record.id = some stored) (sort : Authorisation → Bool) :
    (store.replace record).records.countP sort + (sort stored).toNat =
      store.records.countP sort + (sort record).toNat := by
  rcases store with ⟨records, resources⟩
  simp only [record?, replace] at found ⊢
  induction records with
  | nil => cases found
  | cons head tail induction =>
      have parts := List.nodup_cons.mp distinct
      simp only [List.find?_cons] at found
      by_cases sameHead : head.id = record.id
      · rw [sameHead, beq_self_eq_true] at found
        have headStored : head = stored := Option.some.inj found
        have kept : tail.map (fun other => if other.id = record.id then record else other) =
            tail := by
          refine (List.map_congr_left ?_).trans (List.map_id tail)
          intro other member
          have different : other.id ≠ record.id := fun equal =>
            parts.1 (List.mem_map.mpr ⟨other, member, equal.trans sameHead.symm⟩)
          exact if_neg different
        rw [List.map_cons, if_pos sameHead, kept, List.countP_cons, List.countP_cons,
          headStored]
        cases sort stored <;> cases sort record <;> simp
      · have different : (head.id == record.id) = false := by simpa using sameHead
        rw [different] at found
        have counted := induction parts.2 found
        simp only [List.map_cons, if_neg sameHead, List.countP_cons]
        omega

theorem countP_replace_of_eq (distinct : store.Distinct)
    (found : store.record? record.id = some stored) {sort : Authorisation → Bool}
    (same : sort record = sort stored) :
    (store.replace record).records.countP sort = store.records.countP sort := by
  have moved := countP_replace distinct found sort
  rw [same] at moved
  omega

/-! ## Insertion and saving -/

theorem insert_eq_ok {inserted : MemoryStore} (accepted : store.insert record = .ok inserted) :
    store.record? record.id = none ∧
      inserted = { store with records := store.records ++ [record] } := by
  unfold insert at accepted
  split at accepted
  · cases accepted
  · next unknown =>
      cases accepted
      exact ⟨unknown, rfl⟩

theorem record?_append (unknown : store.record? record.id = none) :
    ({ store with records := store.records ++ [record] } : MemoryStore).record? id =
      if id = record.id then some record else store.record? id := by
  simp only [record?, List.find?_append]
  by_cases same : id = record.id
  · subst same
    have missing : store.records.find? (fun stored => stored.id == record.id) = none := unknown
    simp [missing]
  · have different : (record.id == id) = false := by simpa using Ne.symm same
    simp [same, different]

theorem Distinct.append (distinct : store.Distinct)
    (unknown : store.record? record.id = none) :
    Distinct { store with records := store.records ++ [record] } := by
  have absent : record.id ∉ store.records.map (·.id) := by
    rw [← record?_isSome_iff, unknown]
    simp
  unfold Distinct
  rw [List.map_append, List.nodup_append]
  refine ⟨distinct, by simp, ?_⟩
  intro left leftMember right rightMember equal
  rw [List.map_singleton, List.mem_singleton] at rightMember
  exact absent (rightMember ▸ equal ▸ leftMember)

theorem save_eq_ok {saved : Authorisation} {later : MemoryStore}
    (accepted : store.save record = .ok (saved, later)) :
    ∃ stored, store.record? record.id = some stored ∧ stored.version = record.version ∧
      saved = { record with version := record.version + 1 } ∧ later = store.replace saved := by
  unfold save at accepted
  split at accepted
  · cases accepted
  · next stored found =>
      split at accepted
      · cases accepted
      · next sameVersion =>
          cases accepted
          exact ⟨stored, found, by simpa using sameVersion, rfl, rfl⟩

theorem save_of_current (found : store.record? record.id = some stored)
    (current : stored.version = record.version) :
    store.save record =
      .ok ({ record with version := record.version + 1 },
        store.replace { record with version := record.version + 1 }) := by
  simp [save, found, current]

/-! ## Resources -/

@[simp] theorem record?_replaceResource :
    (store.replaceResource resource).record? id = store.record? id := rfl

@[simp] theorem resource?_replaceResource :
    (store.replaceResource resource).resource? id =
      if id = resource.id then (store.resource? id).map fun _ => resource
      else store.resource? id := by
  rcases store with ⟨records, resources⟩
  simp only [resource?, replaceResource]
  induction resources with
  | nil => simp
  | cons head tail induction =>
      simp only [List.map_cons, List.find?_cons]
      by_cases sameHead : head.id = resource.id
      · by_cases sameId : id = resource.id
        · simp [sameHead, sameId]
        · have other : (resource.id == id) = false := by simpa using Ne.symm sameId
          rw [if_pos sameHead, other, sameHead, other]
          exact induction
      · rw [if_neg sameHead]
        cases found : head.id == id with
        | true =>
            have sameId : head.id = id := by simpa using found
            have different : id ≠ resource.id := sameId ▸ sameHead
            simp [different]
        | false => exact induction

theorem id_of_resource? (found : store.resource? id = some resource) : resource.id = id := by
  simpa using List.find?_some found

@[simp] theorem resource?_register :
    (store.register resource).resource? id =
      if id = resource.id then some resource else store.resource? id := by
  unfold register
  split
  · next earlier found =>
      rw [resource?_replaceResource]
      by_cases same : id = resource.id
      · simp [same, found]
      · simp [same]
  · next missing =>
      have absent : store.resources.find? (fun stored => stored.id == resource.id) = none :=
        missing
      simp only [resource?, List.find?_append]
      by_cases same : id = resource.id
      · subst same
        simp [absent]
      · have different : (resource.id == id) = false := by simpa using Ne.symm same
        simp [same, different]

@[simp] theorem records_register : (store.register resource).records = store.records := by
  unfold register
  split <;> rfl

/-! ## The authorisations of a resource -/

def statuses (store : MemoryStore) (parent : String) : List Status :=
  (store.listByParent parent).map (·.status)

theorem insertByCreation_perm (record : Authorisation) (sorted : List Authorisation) :
    (insertByCreation record sorted).Perm (record :: sorted) := by
  induction sorted with
  | nil => exact .refl _
  | cons first others induction =>
      unfold insertByCreation
      split
      · exact .refl _
      · exact (induction.cons first).trans (.swap record first others)

theorem listByParent_perm (store : MemoryStore) (parent : String) :
    (store.listByParent parent).Perm
      (store.records.filter fun record => record.parent == parent) := by
  have inserts (records sorted : List Authorisation) :
      (records.foldl (fun sorted record => insertByCreation record sorted) sorted).Perm
        (records ++ sorted) := by
    induction records generalizing sorted with
    | nil => exact .refl _
    | cons record records induction =>
        have moved : (records ++ record :: sorted).Perm (record :: (records ++ sorted)) :=
          List.perm_middle
        exact ((induction _).trans ((insertByCreation_perm record sorted).append_left _)).trans
          moved
  have sorts := inserts (store.records.filter fun record => record.parent == parent) []
  rw [List.append_nil] at sorts
  exact sorts

theorem mem_listByParent :
    record ∈ store.listByParent parent ↔ record ∈ store.records ∧ record.parent = parent := by
  rw [(listByParent_perm store parent).mem_iff]
  simp

theorem countP_statuses (store : MemoryStore) (parent : String) (sort : Status → Bool) :
    (store.statuses parent).countP sort =
      store.records.countP fun record => sort record.status && record.parent == parent := by
  rw [statuses, List.countP_map, (listByParent_perm store parent).countP_eq, List.countP_filter]
  rfl

/-! ## Projection -/

def projected (store : MemoryStore) (parent : String) : MemoryStore :=
  match store.resource? parent with
  | none => store
  | some resource =>
      match resource.derive? (store.statuses parent) with
      | none => store
      | some status => store.replaceResource { resource with status }

@[simp] theorem records_projected : (store.projected parent).records = store.records := by
  unfold projected
  split
  · rfl
  · split <;> rfl

@[simp] theorem record?_projected : (store.projected parent).record? id = store.record? id := by
  simp [record?]

theorem resource?_projected :
    (store.projected parent).resource? id =
      if id = parent then (store.resource? id).map fun resource =>
        { resource with
          status := (resource.derive? (store.statuses id)).getD resource.status }
      else store.resource? id := by
  unfold projected
  by_cases same : id = parent
  · subst same
    cases found : store.resource? id with
    | none => simp [found]
    | some resource =>
        cases derived : resource.derive? (store.statuses id) with
        | none => simp [found, derived]
        | some status => simp [found, derived, id_of_resource? found]
  · rw [if_neg same]
    cases found : store.resource? parent with
    | none => rfl
    | some resource =>
        have other : id ≠ resource.id := id_of_resource? found ▸ same
        cases derived : resource.derive? (store.statuses parent) with
        | none => simp [derived]
        | some status => simp [derived, other]

/-! ## Commits -/

/-- The store after the node has saved a copy of a record, and has derived the status of its
resource once more if the record is settled by it. A save that fails changes nothing. -/
def commit (store : MemoryStore) (now : Time.Timestamp) (record : Authorisation) :
    MemoryStore :=
  match store.save { record with updated := now } with
  | .error _ => store
  | .ok (saved, later) =>
      if saved.status.isTerminal then later.projected saved.parent else later

def Current (store : MemoryStore) (record : Authorisation) : Prop :=
  ∃ stored, store.record? record.id = some stored ∧ stored.version = record.version

theorem commit_of_current (current : store.Current record) :
    store.commit now record =
      if record.status.isTerminal then
        (store.replace (record.saved now)).projected record.parent
      else store.replace (record.saved now) := by
  rcases current with ⟨stored, found, sameVersion⟩
  have saves : store.save { record with updated := now } =
      .ok (record.saved now, store.replace (record.saved now)) :=
    save_of_current found sameVersion
  unfold commit
  rw [saves]
  rfl

theorem commit_of_not_current (stale : ¬ store.Current record) :
    store.commit now record = store := by
  unfold commit
  split
  · rfl
  · next saves =>
      rcases save_eq_ok saves with ⟨stored, found, sameVersion, _⟩
      exact absurd ⟨stored, found, sameVersion⟩ stale

theorem records_commit (current : store.Current record) :
    (store.commit now record).records = (store.replace (record.saved now)).records := by
  rw [commit_of_current current]
  split
  · exact records_projected
  · rfl

theorem record?_commit (current : store.Current record) :
    (store.commit now record).record? id =
      if id = record.id then some (record.saved now) else store.record? id := by
  have sameRecords : (store.commit now record).record? id =
      (store.replace (record.saved now)).record? id := by
    simp only [record?, records_commit current]
  rcases current with ⟨stored, found, _⟩
  rw [sameRecords, record?_replace]
  by_cases same : id = record.id
  · subst same
    simp [Authorisation.saved, found]
  · simp [Authorisation.saved, same]

theorem Distinct.commit (distinct : store.Distinct) : (store.commit now record).Distinct := by
  by_cases current : store.Current record
  · have replaced : (store.replace (record.saved now)).Distinct := distinct.replace
    unfold Distinct at replaced ⊢
    rw [records_commit current]
    exact replaced
  · rw [commit_of_not_current current]
    exact distinct

theorem countP_commit (now : Time.Timestamp) (distinct : store.Distinct)
    (found : store.record? record.id = some stored) (sameVersion : stored.version = record.version)
    (sort : Authorisation → Bool) :
    (store.commit now record).records.countP sort + (sort stored).toNat =
      store.records.countP sort + (sort (record.saved now)).toNat := by
  have savedFound : store.record? (record.saved now).id = some stored := found
  rw [records_commit ⟨stored, found, sameVersion⟩]
  exact countP_replace distinct savedFound sort

/-! ## Other users -/

theorem interfere_resave (store : MemoryStore) (id : String) :
    Store.interfere store (.resave id) =
      match store.record? id with
      | some record => store.replace { record with version := record.version + 1 }
      | none => store := by
  have gets : Store.get id store = .ok (store.record? id) := rfl
  simp only [Store.interfere, Store.resave, gets, bind, Except.bind]
  cases found : store.record? id with
  | none => rfl
  | some record =>
      have sameId := (mem_of_record? found).2
      have stored : store.record? record.id = some record := by rw [sameId, found]
      have saves : Store.save record store = _ := save_of_current stored rfl
      simp only [saves]
      rfl

theorem interfere_setStatus (store : MemoryStore) (id : String) (status : ParentStatus) :
    Store.interfere store (.setStatus id status) =
      match store.resource? id with
      | some resource => store.replaceResource { resource with status }
      | none => store := by
  have sets : Store.setParentStatus id status store = store.setParentStatus id status := rfl
  simp only [Store.interfere, sets, setParentStatus]
  cases store.resource? id with
  | none => rfl
  | some resource => rfl

@[simp] theorem records_interfere_setStatus (store : MemoryStore) (id : String)
    (status : ParentStatus) :
    (Store.interfere store (.setStatus id status)).records = store.records := by
  rw [interfere_setStatus]
  split <;> rfl

theorem resource?_interfere_setStatus (store : MemoryStore) (id other : String)
    (status : ParentStatus) :
    (Store.interfere store (.setStatus id status)).resource? other =
      if other = id then (store.resource? other).map fun resource => { resource with status }
      else store.resource? other := by
  rw [interfere_setStatus]
  by_cases same : other = id
  · subst same
    cases found : store.resource? other with
    | none => simp [found]
    | some resource => simp [found, id_of_resource? found]
  · rw [if_neg same]
    cases found : store.resource? id with
    | none => rfl
    | some resource =>
        have different : other ≠ resource.id := id_of_resource? found ▸ same
        simp [different]

/-- Other users change at most the version of a record. -/
theorem record?_interfere (store : MemoryStore) (interference : Interference) (id : String) :
    ∃ version : Authorisation → Int64, (Store.interfere store interference).record? id =
      (store.record? id).map fun record => { record with version := version record } := by
  have unchanged : store.record? id =
      (store.record? id).map fun record => { record with version := record.version } := by
    simp
  cases interference with
  | resave other =>
      rw [interfere_resave]
      cases found : store.record? other with
      | none => exact ⟨_, unchanged⟩
      | some record =>
          have sameId := (mem_of_record? found).2
          by_cases same : id = other
          · subst same
            refine ⟨fun record => record.version + 1, ?_⟩
            simp [sameId, found]
          · refine ⟨fun record => record.version, ?_⟩
            simp [sameId, same]
  | setStatus resource status =>
      rw [interfere_setStatus]
      split
      · exact ⟨_, unchanged⟩
      · exact ⟨_, unchanged⟩

theorem Distinct.of_records_eq {later : MemoryStore} (distinct : store.Distinct)
    (same : later.records = store.records) : later.Distinct := by
  unfold Distinct
  rw [same]
  exact distinct

theorem Distinct.foldl_interfere (distinct : store.Distinct)
    (interference : List Interference) :
    Distinct (interference.foldl Store.interfere store) := by
  induction interference generalizing store with
  | nil => exact distinct
  | cons first others induction =>
      apply induction
      cases first with
      | resave id =>
          rw [interfere_resave]
          split
          · exact distinct.replace
          · exact distinct
      | setStatus id status =>
          rw [interfere_setStatus]
          split
          · exact distinct.of_records_eq rfl
          · exact distinct

theorem record?_foldl_interfere (store : MemoryStore) (interference : List Interference)
    (id : String) :
    ∃ version : Authorisation → Int64, (interference.foldl Store.interfere store).record? id =
      (store.record? id).map fun record => { record with version := version record } := by
  induction interference generalizing store with
  | nil => exact ⟨fun record => record.version, by simp⟩
  | cons first others induction =>
      rcases record?_interfere store first id with ⟨raised, found⟩
      rcases induction (Store.interfere store first) with ⟨version, finds⟩
      refine ⟨fun record => version { record with version := raised record }, ?_⟩
      rw [List.foldl_cons, finds, found, Option.map_map]
      rfl

end MemoryStore

end StrongAuth
