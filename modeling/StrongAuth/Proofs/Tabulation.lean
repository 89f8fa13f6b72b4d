import Mathlib.Data.List.Sort
import StrongAuth.Proofs.Drafts
import StrongAuth.Proofs.Rows

/-! # A store as tables

The rows of everything that a store in memory holds. Main statement: a call to these tables
gives the answer that it gives in memory, and leaves the rows of what it leaves in memory, as
long as a save concerns only what may change about an authorisation, its version has a next
one, timestamps are written without loss, and no resource is registered twice or given the
status of another kind. -/

namespace StrongAuth

/-! ## Stable sorting -/

namespace MemoryStore

def notLater (first second : Authorisation) : Bool :=
  !second.created.before first.created

theorem notLater_iff {first second : Authorisation} :
    notLater first second = true ↔ first.created.second < second.created.second ∨
      first.created.second = second.created.second ∧
        first.created.nano ≤ second.created.nano := by
  simp only [notLater, Time.Timestamp.before, Bool.not_eq_true', Bool.or_eq_false_iff,
    decide_eq_false_iff_not, Bool.and_eq_false_iff, beq_eq_false_iff_ne]
  omega

theorem notLater_trans (first second third : Authorisation)
    (earlier : notLater first second = true) (later : notLater second third = true) :
    notLater first third = true := by
  rw [notLater_iff] at *
  omega

theorem notLater_total (first second : Authorisation) :
    (notLater first second || notLater second first) = true := by
  rw [Bool.or_eq_true, notLater_iff, notLater_iff]
  omega

theorem insertByCreation_cons (record head : Authorisation) (tail : List Authorisation) :
    insertByCreation record (head :: tail) =
      if notLater head record then head :: insertByCreation record tail
      else record :: head :: tail := by
  rw [insertByCreation]
  cases before : record.created.before head.created <;> simp [notLater, before]

/-- Two insertions may change places if one of them goes in front of its equals and the other
one behind them. -/
theorem insertByCreation_orderedInsert (first last : Authorisation)
    (records : List Authorisation) :
    insertByCreation last (records.orderedInsert (notLater · ·) first) =
      (insertByCreation last records).orderedInsert (notLater · ·) first := by
  induction records with
  | nil =>
      rw [List.orderedInsert_nil, insertByCreation_cons]
      simp only [insertByCreation, List.orderedInsert_cons, List.orderedInsert_nil]
  | cons head tail induction =>
      rw [List.orderedInsert_cons, insertByCreation_cons]
      by_cases ahead : notLater first head = true <;> by_cases behind : notLater head last = true
      · have between := notLater_trans first head last ahead behind
        simp [insertByCreation_cons, ahead, behind, between]
      · by_cases between : notLater first last = true <;>
          simp [insertByCreation_cons, ahead, behind, between]
      · simp [insertByCreation_cons, ahead, behind, induction]
      · have apart : ¬ notLater first last = true := fun between =>
          ahead (by rw [notLater_iff] at *; omega)
        simp [insertByCreation_cons, ahead, behind, apart]

theorem orderedInsert_append {first : Authorisation} {earlier later : List Authorisation}
    (front : ∀ record ∈ earlier, (!notLater first record) = true)
    (behind : ∀ record ∈ later, notLater first record = true) :
    (earlier ++ later).orderedInsert (notLater · ·) first = earlier ++ first :: later := by
  induction earlier with
  | nil =>
      cases later with
      | nil => rfl
      | cons record later =>
          exact List.orderedInsert_cons_of_le _ _ (behind record List.mem_cons_self)
  | cons record earlier induction =>
      have ahead : ¬ notLater first record = true := by
        simpa using front record List.mem_cons_self
      rw [List.cons_append, List.orderedInsert_cons, if_neg ahead, induction]
      · rfl
      · exact fun other member => front other (List.mem_cons_of_mem _ member)

/-- Authorisations that are inserted one after the other stand in stable order. -/
theorem foldl_insertByCreation (records : List Authorisation) :
    records.foldl (fun sorted record => insertByCreation record sorted) [] =
      records.mergeSort notLater := by
  have inserted (records before : List Authorisation) (first : Authorisation) :
      records.foldl (fun sorted record => insertByCreation record sorted)
          (before.orderedInsert (notLater · ·) first) =
        (records.foldl (fun sorted record => insertByCreation record sorted) before).orderedInsert
          (notLater · ·) first := by
    induction records generalizing before with
    | nil => rfl
    | cons record records induction =>
        rw [List.foldl_cons, insertByCreation_orderedInsert, induction]
        rfl
  induction records with
  | nil => exact List.mergeSort_nil.symm
  | cons first records induction =>
      have starts : records.foldl (fun sorted record => insertByCreation record sorted) [first] =
        _ := inserted records [] first
      rcases List.mergeSort_cons notLater_trans notLater_total first records
        with ⟨earlier, later, sorted, others, front⟩
      have behind := List.pairwise_mergeSort notLater_trans notLater_total (first :: records)
      rw [sorted] at behind
      rw [List.foldl_cons, sorted]
      change records.foldl (fun sorted record => insertByCreation record sorted) [first] = _
      rw [starts, induction, others]
      apply orderedInsert_append front
      exact (List.pairwise_cons.mp (List.pairwise_append.mp behind).2.1).1

/-! ## Tables -/

/-- The rows of everything in the store. -/
def tabulate (store : MemoryStore) : TableStore :=
  ⟨store.records.map TableStore.writeRecord, store.resources.map TableStore.writeResource⟩

/-- Everything in the store can be read back from its row, and has an id of its own. -/
structure Storable (store : MemoryStore) : Prop where
  distinct : store.Distinct
  distinctResources : (store.resources.map (·.id)).Nodup
  records : ∀ record ∈ store.records, record.Storable
  resources : ∀ resource ∈ store.resources, resource.Storable

end MemoryStore

/-- Tables take the call as it is meant. -/
def StoreCall.Storable (store : MemoryStore) : StoreCall → Prop
  | .insert record => store.record? record.id = none → record.Storable
  | .save draft => draft.updated.Storable ∧ ∀ stored, store.record? draft.id = some stored →
      stored.version = draft.version →
        stored.SameOpening draft ∧ draft.version ≠ Int64.maxValue
  | .listExpired now => now.Storable
  | .register registered => registered.Storable ∧ store.resource? registered.id = none
  | .setParentStatus id status => ∀ resource, store.resource? id = some resource →
      status.fits resource.kind = true
  | .get _ | .listByParent _ | .resource _ => True

namespace MemoryStore

open TableStore

variable {store : MemoryStore} {record draft stored : Authorisation} {resource : Resource}
  {id parent : String} {now : Time.Timestamp}

theorem text_beq (left right : String) : (Cell.text left == .text right) = (left == right) := by
  simp

/-! ## Reading -/

theorem mapM_readRecord {records : List Authorisation}
    (storable : ∀ record ∈ records, record.Storable) :
    (records.map writeRecord).mapM readRecord = .ok records := by
  induction records with
  | nil => rfl
  | cons record records induction =>
      have first := readRecord_writeRecord (storable record List.mem_cons_self)
      have others := induction fun other member => storable other (List.mem_cons_of_mem _ member)
      rw [List.map_cons, List.mapM_cons, first, others]
      rfl

theorem find?_records (store : MemoryStore) (id : String) :
    find? id store.tabulate.authorisations = (store.record? id).map writeRecord := by
  simp only [TableStore.find?, tabulate, List.find?_map, record?]
  congr 2
  funext record
  exact text_beq record.id id

theorem find?_resources (store : MemoryStore) (id : String) :
    find? id store.tabulate.resources = (store.resource? id).map writeResource := by
  simp only [TableStore.find?, tabulate, List.find?_map, resource?]
  congr 2
  funext resource
  exact text_beq resource.id id

theorem Storable.record? (storable : store.Storable) (found : store.record? id = some record) :
    record.Storable :=
  storable.records record (mem_of_record? found).1

theorem Storable.resource? (storable : store.Storable)
    (found : store.resource? id = some resource) : resource.Storable :=
  storable.resources resource (List.mem_of_find?_eq_some found)

theorem Storable.get_tabulate (storable : store.Storable) (id : String) :
    TableStore.get id store.tabulate = .ok (store.record? id) := by
  rw [TableStore.get, find?_records]
  cases found : store.record? id with
  | none => rfl
  | some record =>
      have read := readRecord_writeRecord (storable.record? found)
      rw [Option.map_some, Option.mapM_some, read]
      rfl

theorem Storable.resource?_tabulate (storable : store.Storable) (id : String) :
    TableStore.resource? id store.tabulate = .ok (store.resource? id) := by
  rw [TableStore.resource?, find?_resources]
  cases found : store.resource? id with
  | none => rfl
  | some resource =>
      have read := readResource_writeResource (storable.resource? found)
      rw [Option.map_some, Option.mapM_some, read]
      rfl

/-! ## Lists -/

theorem filter_parent (records : List Authorisation) (parent : String) :
    (records.map writeRecord).filter (fun row => row .parent == .text parent) =
      (records.filter fun record => record.parent == parent).map writeRecord := by
  rw [List.filter_map]
  congr 2
  funext record
  exact text_beq record.parent parent

theorem notLater_eq {first second : Authorisation} (firstStorable : first.Storable)
    (secondStorable : second.Storable) : notLater first second =
      decide ((writeRecord first .created).textOf ≤ (writeRecord second .created).textOf) := by
  have texts := secondStorable.created.microsText_lt_iff firstStorable.created
  have order : (writeRecord first .created).textOf ≤ (writeRecord second .created).textOf ↔
      ¬ second.created < first.created := by
    rw [← texts]
    exact Iff.rfl
  rw [decide_eq_decide.mpr order]
  change (!second.created.before first.created) = decide (¬ second.created.before first.created = true)
  cases second.created.before first.created <;> rfl

theorem Storable.listByParent_tabulate (storable : store.Storable) (parent : String) :
    TableStore.listByParent parent store.tabulate = .ok (store.listByParent parent) := by
  unfold TableStore.listByParent MemoryStore.listByParent
  rw [foldl_insertByCreation]
  dsimp only [tabulate]
  rw [filter_parent]
  have within : ∀ record ∈ store.records.filter fun record => record.parent == parent,
      record.Storable := fun record member =>
    storable.records record (List.mem_of_mem_filter member)
  generalize (store.records.filter fun record => record.parent == parent) = listed at within ⊢
  have sorted : (listed.map writeRecord).mergeSort (fun left right =>
      (left .created).textOf ≤ (right .created).textOf) =
      (listed.mergeSort notLater).map writeRecord := by
    symm
    apply List.map_mergeSort
    intro left leftMember right rightMember
    exact notLater_eq (within left leftMember) (within right rightMember)
  rw [sorted]
  apply mapM_readRecord
  intro record member
  exact within record (List.mem_mergeSort.mp member)

theorem terminalWords_contains (status : Status) :
    terminalWords.contains (.text (Vocabulary.word status)) = status.isTerminal := by
  cases status <;> decide

theorem isOverdue_writeRecord (storable : record.Storable) (reading : now.Storable) :
    isOverdue now.microsText (writeRecord record) = record.isOverdue now := by
  have redirects : (record.redirectDeadline.microsText < now.microsText) =
      (record.redirectDeadline < now) :=
    propext (storable.redirectDeadline.microsText_lt_iff reading)
  have ends : (record.deadline.microsText < now.microsText) = (record.deadline < now) :=
    propext (storable.deadline.microsText_lt_iff reading)
  simp only [isOverdue, writeRecord, writeTime, Cell.textOf, terminalWords_contains, redirects,
    ends, Authorisation.isOverdue, Authorisation.isExpired]

theorem Storable.listExpired_tabulate (storable : store.Storable) (reading : now.Storable) :
    TableStore.listExpired now store.tabulate = .ok (store.listExpired now) := by
  have rows : store.tabulate.authorisations.filter (isOverdue now.microsText) =
      (store.listExpired now).map writeRecord := by
    simp only [tabulate, List.filter_map, listExpired]
    congr 1
    apply List.filter_congr
    intro record member
    exact isOverdue_writeRecord (storable.records record member) reading
  rw [TableStore.listExpired, rows]
  apply mapM_readRecord
  intro record member
  exact storable.records record (List.mem_of_mem_filter member)

/-! ## Writing -/

theorem insert_tabulate (store : MemoryStore) (record : Authorisation) :
    TableStore.insert record store.tabulate = (store.insert record).map tabulate := by
  rw [TableStore.insert, find?_records, insert]
  cases store.record? record.id with
  | none => simp [tabulate, Except.map]
  | some stored => rfl

theorem Storable.insert (storable : store.Storable)
    (fits : store.record? record.id = none → record.Storable)
    {inserted : MemoryStore} (accepted : store.insert record = .ok inserted) :
    inserted.Storable := by
  rcases insert_eq_ok accepted with ⟨unknown, rfl⟩
  refine ⟨storable.distinct.append unknown, storable.distinctResources, ?_, storable.resources⟩
  intro other member
  rcases List.mem_append.mp member with member | member
  · exact storable.records other member
  · exact List.mem_singleton.mp member ▸ fits unknown

/-- What an update writes into the row of an authorisation is the row of what it saves. -/
theorem updateRecord_writeRecord (same : stored.SameOpening draft)
    (room : draft.version ≠ Int64.maxValue) :
    updateRecord draft (writeRecord stored) =
      writeRecord { draft with version := draft.version + 1 } := by
  rcases same with ⟨id, parent, kind, approach, redirectDeadline, deadline, created⟩
  funext column
  cases column <;>
    simp [updateRecord, writeRecord, id, parent, kind, approach, redirectDeadline, deadline,
      created, room]

theorem change_records {update : Row AuthorisationColumn → Row AuthorisationColumn}
    (changes : ∀ stored ∈ store.records, stored.id = record.id →
      update (writeRecord stored) = writeRecord record) :
    change record.id update store.tabulate.authorisations =
      (store.replace record).tabulate.authorisations := by
  simp only [change, tabulate, replace, List.map_map]
  apply List.map_congr_left
  intro stored member
  have key : (writeRecord stored Schema.key == .text record.id) = (stored.id == record.id) :=
    text_beq stored.id record.id
  simp only [Function.comp, key]
  by_cases same : stored.id = record.id
  · simp [same, changes stored member same]
  · simp [same]

theorem Storable.save_tabulate (storable : store.Storable)
    (same : ∀ stored, store.record? draft.id = some stored → stored.version = draft.version →
      stored.SameOpening draft ∧ draft.version ≠ Int64.maxValue) :
    TableStore.save draft store.tabulate =
      (store.save draft).map fun result => (result.1, result.2.tabulate) := by
  rw [TableStore.save, find?_records, save]
  cases found : store.record? draft.id with
  | none => rfl
  | some stored =>
      have read := readRecord_writeRecord (storable.record? found)
      have version : (writeRecord stored .version == .integer draft.version) =
          (stored.version == draft.version) := by
        simp [writeRecord]
      dsimp only [Option.map_some]
      rw [version]
      by_cases current : stored.version = draft.version
      · let saved := { draft with version := draft.version + 1 }
        have changes : change saved.id (updateRecord draft) store.tabulate.authorisations =
            (store.replace saved).tabulate.authorisations := by
          apply change_records
          intro other member sameId
          have finds := record?_of_mem storable.distinct member
          rw [sameId, found] at finds
          cases finds
          rcases same stored found current with ⟨opening, room⟩
          exact updateRecord_writeRecord opening room
        simp only [current, beq_self_eq_true, if_true, ne_eq, not_true_eq_false, if_false]
        rw [changes]
        rfl
      · simp [current, read]
        rfl

theorem Storable.replace (storable : store.Storable) (fits : record.Storable) :
    (store.replace record).Storable := by
  refine ⟨storable.distinct.replace, storable.distinctResources, ?_, storable.resources⟩
  intro other member
  rcases List.mem_map.mp member with ⟨earlier, earlierMember, replaced⟩
  split at replaced
  · exact replaced ▸ fits
  · exact replaced ▸ storable.records earlier earlierMember

theorem Storable.save (storable : store.Storable) (updated : draft.updated.Storable)
    (same : ∀ stored, store.record? draft.id = some stored → stored.version = draft.version →
      stored.SameOpening draft ∧ draft.version ≠ Int64.maxValue)
    {saved : Authorisation} {later : MemoryStore} (accepted : store.save draft = .ok (saved, later)) :
    later.Storable := by
  rcases save_eq_ok accepted with ⟨stored, found, current, rfl, rfl⟩
  have opening := (same stored found current).1
  have kept := storable.record? found
  exact storable.replace ⟨opening.redirectDeadline ▸ kept.redirectDeadline,
    opening.deadline ▸ kept.deadline, opening.created ▸ kept.created, updated⟩

theorem register_tabulate (unknown : store.resource? resource.id = none) :
    store.tabulate.register resource = (store.register resource).tabulate := by
  rw [TableStore.register, find?_resources, register, unknown]
  simp [tabulate]

theorem Storable.register (storable : store.Storable) (fits : resource.Storable)
    (unknown : store.resource? resource.id = none) : (store.register resource).Storable := by
  rw [MemoryStore.register, unknown]
  refine ⟨storable.distinct.of_records_eq rfl, ?_, storable.records, ?_⟩
  · have absent : resource.id ∉ store.resources.map (·.id) := by
      intro member
      rcases List.mem_map.mp member with ⟨other, listed, same⟩
      have differs := List.find?_eq_none.mp unknown other listed
      simp [same] at differs
    dsimp only
    rw [List.map_append, List.nodup_append]
    refine ⟨storable.distinctResources, by simp, ?_⟩
    intro left leftMember right rightMember same
    rw [List.map_singleton, List.mem_singleton] at rightMember
    exact absent (rightMember ▸ same ▸ leftMember)
  · intro other member
    rcases List.mem_append.mp member with member | member
    · exact storable.resources other member
    · exact List.mem_singleton.mp member ▸ fits

theorem eq_of_resource? (storable : store.Storable) (found : store.resource? id = some resource)
    {other : Resource} (member : other ∈ store.resources) (same : other.id = id) :
    other = resource := by
  have listed := List.mem_of_find?_eq_some found
  have sameId : other.id = resource.id := same.trans (id_of_resource? found).symm
  exact List.inj_on_of_nodup_map storable.distinctResources member listed sameId

theorem set_status (resource : Resource) (status : ParentStatus) :
    (writeResource resource).set .status (.text status.word) =
      writeResource { resource with status } := by
  funext column
  cases column <;> rfl

theorem ids_replaceResource :
    (store.replaceResource resource).resources.map (·.id) = store.resources.map (·.id) := by
  simp only [replaceResource, List.map_map]
  apply List.map_congr_left
  intro stored member
  simp only [Function.comp]
  split
  · next same => exact same.symm
  · rfl

theorem Storable.setParentStatus_tabulate (storable : store.Storable) (id : String)
    (status : ParentStatus) :
    TableStore.setParentStatus id status store.tabulate =
      (store.setParentStatus id status).map tabulate := by
  rw [TableStore.setParentStatus, find?_resources, setParentStatus]
  cases found : store.resource? id with
  | none => rfl
  | some resource =>
      have sameId := id_of_resource? found
      have changes : change id (fun row => row.set .status (.text status.word))
          store.tabulate.resources =
          (store.replaceResource { resource with status }).tabulate.resources := by
        simp only [change, tabulate, replaceResource, List.map_map]
        apply List.map_congr_left
        intro stored member
        have key : (writeResource stored Schema.key == .text id) = (stored.id == id) :=
          text_beq stored.id id
        simp only [Function.comp, key]
        by_cases same : stored.id = id
        · have equal := eq_of_resource? storable found member same
          subst equal
          simp only [same, beq_self_eq_true, if_true]
          rw [set_status, ← same]
        · have other : stored.id ≠ resource.id := sameId ▸ same
          simp [same, other]
      simp only [Option.map_some, Except.map]
      rw [changes]
      rfl

theorem Storable.setParentStatus (storable : store.Storable) {status : ParentStatus}
    (fits : ∀ resource, store.resource? id = some resource → status.fits resource.kind = true)
    {later : MemoryStore} (accepted : store.setParentStatus id status = .ok later) :
    later.Storable := by
  unfold MemoryStore.setParentStatus at accepted
  split at accepted
  · next resource found =>
      cases accepted
      refine ⟨storable.distinct.of_records_eq rfl, ?_, storable.records, ?_⟩
      · rw [ids_replaceResource]
        exact storable.distinctResources
      · intro other member
        rcases List.mem_map.mp member with ⟨earlier, earlierMember, replaced⟩
        split at replaced
        · exact replaced ▸ ⟨fits resource found, (storable.resource? found).created⟩
        · exact replaced ▸ storable.resources earlier earlierMember
  · cases accepted

/-! ## Calls -/

end MemoryStore

namespace Store

variable {store : MemoryStore} {α : Type}

theorem settle_tabulate (storable : store.Storable)
    {result : Except StoreFault (α × MemoryStore)}
    (keeps : ∀ answer later, result = .ok (answer, later) → later.Storable) :
    settle store.tabulate (result.map fun result => (result.1, result.2.tabulate)) =
        ((settle store result).1, (settle store result).2.tabulate) ∧
      (settle store result).2.Storable := by
  rcases result with fault | ⟨answer, later⟩
  · exact ⟨rfl, storable⟩
  · exact ⟨rfl, keeps answer later rfl⟩

theorem settle_tabulate_unit (storable : store.Storable)
    {result : Except StoreFault MemoryStore}
    (keeps : ∀ later, result = .ok later → later.Storable) :
    let attempt : Except StoreFault (Unit × MemoryStore) := result.map fun store => ((), store)
    settle store.tabulate ((result.map (·.tabulate)).map fun tables => ((), tables)) =
        ((settle store attempt).1, (settle store attempt).2.tabulate) ∧
      (settle store attempt).2.Storable := by
  rcases result with fault | later
  · exact ⟨rfl, storable⟩
  · exact ⟨rfl, keeps later rfl⟩

/-- A call to the tables of a store gives the answer and leaves the tables that it gives and
leaves in the store. -/
theorem perform_tabulate (storable : store.Storable)
    {call : StoreCall} (fits : call.Storable store) :
    perform store.tabulate call =
        ((perform store call).1, (perform store call).2.tabulate) ∧
      (perform store call).2.Storable := by
  cases call with
  | get id => exact ⟨congrArg (·, store.tabulate) (storable.get_tabulate id), storable⟩
  | listByParent parent =>
      exact ⟨congrArg (·, store.tabulate) (storable.listByParent_tabulate parent), storable⟩
  | listExpired now =>
      exact ⟨congrArg (·, store.tabulate) (storable.listExpired_tabulate fits), storable⟩
  | resource id => exact ⟨congrArg (·, store.tabulate) (storable.resource?_tabulate id), storable⟩
  | register resource =>
      have same := MemoryStore.register_tabulate fits.2
      exact ⟨congrArg (Except.ok (), ·) same, storable.register fits.1 fits.2⟩
  | insert record =>
      have settled := settle_tabulate_unit storable fun later accepted =>
        storable.insert fits accepted
      rw [← store.insert_tabulate] at settled
      exact settled
  | save draft =>
      have settled := settle_tabulate storable fun saved later accepted =>
        storable.save fits.1 fits.2 accepted
      rw [← storable.save_tabulate fits.2] at settled
      exact settled
  | setParentStatus id status =>
      have settled := settle_tabulate_unit storable fun later accepted =>
        storable.setParentStatus fits accepted
      rw [← storable.setParentStatus_tabulate] at settled
      exact settled

end Store

end StrongAuth
