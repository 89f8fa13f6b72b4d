import StrongAuth.Proofs.Procedures

/-! # The share of a resource

A resource and its records are the share of that resource in the store. A commit reads and
writes only in one share. Main statement: commits of records of different resources come to the
same store in either order. -/

namespace StrongAuth.MemoryStore

variable {store later last : MemoryStore} {record stored draft : Authorisation}
  {resource : Resource} {parent : String} {now : Time.Timestamp}

/-- Both stores have the same resource of an id, with the same records in the same order. -/
structure AgreesOn (parent : String) (store later : MemoryStore) : Prop where
  records : (later.records.filter fun record => record.parent == parent) =
    store.records.filter fun record => record.parent == parent
  resource : later.resource? parent = store.resource? parent

namespace AgreesOn

theorem refl (parent : String) (store : MemoryStore) : AgreesOn parent store store :=
  ⟨rfl, rfl⟩

theorem trans (first : AgreesOn parent store later) (second : AgreesOn parent later last) :
    AgreesOn parent store last :=
  ⟨second.records.trans first.records, second.resource.trans first.resource⟩

theorem listByParent (agrees : AgreesOn parent store later) :
    later.listByParent parent = store.listByParent parent := by
  unfold MemoryStore.listByParent
  rw [agrees.records]

theorem statuses (agrees : AgreesOn parent store later) :
    later.statuses parent = store.statuses parent := by
  unfold MemoryStore.statuses
  rw [agrees.listByParent]

theorem parentChanges (agrees : AgreesOn parent store later) :
    Node.parentChanges later parent = Node.parentChanges store parent := by
  unfold Node.parentChanges
  rw [agrees.resource, agrees.statuses]

theorem record? (agrees : AgreesOn record.parent store later) (distinct : later.Distinct)
    (found : store.record? record.id = some record) :
    later.record? record.id = some record := by
  have member : record ∈ store.records.filter fun other => other.parent == record.parent :=
    List.mem_filter.mpr ⟨(mem_of_record? found).1, beq_self_eq_true _⟩
  rw [← agrees.records] at member
  exact record?_of_mem distinct (List.mem_filter.mp member).1

end AgreesOn

/-! ## Copies of stored records -/

/-- A copy of a stored record that belongs to the same resource. -/
structure Revises (store : MemoryStore) (stored copy : Authorisation) : Prop where
  found : store.record? stored.id = some stored
  sameId : copy.id = stored.id
  sameParent : copy.parent = stored.parent

namespace Revises

variable {copy : Authorisation}

theorem of_agreesOn (revises : store.Revises stored copy)
    (agrees : AgreesOn stored.parent store later) (distinct : later.Distinct) :
    later.Revises stored copy :=
  { revises with found := agrees.record? distinct revises.found }

theorem eq_of_id_eq (revises : store.Revises stored copy) (distinct : store.Distinct)
    (member : record ∈ store.records) (same : record.id = copy.id) : record = stored := by
  have found := record?_of_mem distinct member
  rw [same, revises.sameId, revises.found] at found
  exact (Option.some.inj found).symm

theorem filter_replace (revises : store.Revises stored copy) (distinct : store.Distinct)
    (parent : String) :
    ((store.replace copy).records.filter fun record => record.parent == parent) =
      (store.records.filter fun record => record.parent == parent).map fun record =>
        if record.id = copy.id then copy else record := by
  simp only [replace, List.filter_map]
  congr 1
  apply List.filter_congr
  intro record member
  simp only [Function.comp]
  split
  · next same => rw [revises.eq_of_id_eq distinct member same, revises.sameParent]
  · rfl

theorem replace_agreesOn (revises : store.Revises stored copy) (distinct : store.Distinct)
    (agrees : AgreesOn stored.parent store later) (laterDistinct : later.Distinct) :
    AgreesOn stored.parent (store.replace copy) (later.replace copy) where
  records := by
    have laterRevises := revises.of_agreesOn agrees laterDistinct
    rw [revises.filter_replace distinct, laterRevises.filter_replace laterDistinct,
      agrees.records]
  resource := agrees.resource

theorem agreesOn_replace (revises : store.Revises stored copy) (distinct : store.Distinct)
    (other : stored.parent ≠ parent) : AgreesOn parent store (store.replace copy) where
  records := by
    rw [revises.filter_replace distinct]
    refine (List.map_congr_left ?_).trans (List.map_id _)
    intro record member
    rcases List.mem_filter.mp member with ⟨member, ours⟩
    apply if_neg
    intro same
    rw [revises.eq_of_id_eq distinct member same] at ours
    exact other (by simpa using ours)
  resource := rfl

end Revises

theorem agreesOn_projected {projected : String} (other : projected ≠ parent) :
    AgreesOn parent store (store.projected projected) where
  records := by rw [records_projected]
  resource := by rw [resource?_projected, if_neg (Ne.symm other)]

/-! ## Commits -/

/-- A copy that is to be committed is in the version of the stored record. -/
structure Drafts (store : MemoryStore) (stored draft : Authorisation) : Prop
    extends store.Revises stored draft where
  sameVersion : draft.version = stored.version

def restated? (store : MemoryStore) (parent : String) : Option Resource :=
  (store.resource? parent).bind fun resource =>
    (resource.derive? (store.statuses parent)).map fun status => { resource with status }

def written (store : MemoryStore) (record : Authorisation) : Option Resource → MemoryStore
  | none => store.replace record
  | some resource => (store.replace record).replaceResource resource

def recast? (store : MemoryStore) (now : Time.Timestamp) (draft : Authorisation) :
    Option Resource :=
  if draft.status.isTerminal then (store.replace (draft.saved now)).restated? draft.parent
  else none

theorem projected_eq (store : MemoryStore) (parent : String) :
    store.projected parent = (store.restated? parent).elim store store.replaceResource := by
  unfold projected restated?
  cases store.resource? parent with
  | none => rfl
  | some resource => cases derived : resource.derive? (store.statuses parent) <;> simp [derived]

theorem AgreesOn.restated? (agrees : AgreesOn parent store later) :
    later.restated? parent = store.restated? parent := by
  unfold MemoryStore.restated?
  rw [agrees.resource, agrees.statuses]

theorem id_of_restated? (restates : store.restated? parent = some resource) :
    resource.id = parent := by
  rcases Option.bind_eq_some_iff.mp restates with ⟨earlier, found, derives⟩
  rcases Option.map_eq_some_iff.mp derives with ⟨status, _, rfl⟩
  exact (id_of_resource? found : earlier.id = parent)

/-- Replacements under different keys can be exchanged. -/
theorem map_replace_comm {α : Type} (key : α → String) {first second : α}
    (different : key first ≠ key second) (items : List α) :
    (items.map fun item => if key item = key first then first else item).map
        (fun item => if key item = key second then second else item) =
      (items.map fun item => if key item = key second then second else item).map
        (fun item => if key item = key first then first else item) := by
  rw [List.map_map, List.map_map]
  apply List.map_congr_left
  intro item _
  by_cases left : key item = key first
  · simp [left, different]
  · by_cases right : key item = key second
    · simp [right, different.symm]
    · simp [left, right]

theorem replace_comm {first second : Authorisation} (different : first.id ≠ second.id) :
    (store.replace first).replace second = (store.replace second).replace first := by
  simp only [replace]
  rw [map_replace_comm (fun record : Authorisation => record.id) different]

theorem replaceResource_comm {first second : Resource} (different : first.id ≠ second.id) :
    (store.replaceResource first).replaceResource second =
      (store.replaceResource second).replaceResource first := by
  simp only [replaceResource]
  rw [map_replace_comm (fun resource : Resource => resource.id) different]

theorem written_comm {first second : Authorisation} {left right : Option Resource}
    (records : first.id ≠ second.id)
    (resources : ∀ one ∈ left, ∀ other ∈ right, one.id ≠ other.id) :
    (store.written first left).written second right =
      (store.written second right).written first left := by
  have swapped : (store.replace first).replace second = (store.replace second).replace first :=
    replace_comm records
  cases left with
  | none =>
      cases right with
      | none => exact swapped
      | some other => exact congrArg (replaceResource other) swapped
  | some one =>
      cases right with
      | none => exact congrArg (replaceResource one) swapped
      | some other =>
          have apart := resources one rfl other rfl
          exact (congrArg (fun both => (replaceResource one both).replaceResource other)
            swapped).trans (replaceResource_comm apart)

namespace Drafts

variable {left right first second : Authorisation}

theorem current (drafts : store.Drafts stored draft) : store.Current draft :=
  ⟨stored, drafts.sameId ▸ drafts.found, drafts.sameVersion.symm⟩

theorem saved (drafts : store.Drafts stored draft) (now : Time.Timestamp) :
    store.Revises stored (draft.saved now) :=
  ⟨drafts.found, drafts.sameId, drafts.sameParent⟩

theorem of_agreesOn (drafts : store.Drafts stored draft)
    (agrees : AgreesOn stored.parent store later) (distinct : later.Distinct) :
    later.Drafts stored draft :=
  { drafts with found := agrees.record? distinct drafts.found }

theorem commit_eq_written (drafts : store.Drafts stored draft) (now : Time.Timestamp) :
    store.commit now draft = store.written (draft.saved now) (store.recast? now draft) := by
  rw [commit_of_current drafts.current, recast?]
  cases draft.status.isTerminal with
  | false => rfl
  | true =>
      rw [if_pos rfl, if_pos rfl, projected_eq]
      cases (store.replace (draft.saved now)).restated? draft.parent <;> rfl

theorem recast?_eq (drafts : store.Drafts stored draft) (distinct : store.Distinct)
    (agrees : AgreesOn stored.parent store later) (laterDistinct : later.Distinct) :
    later.recast? now draft = store.recast? now draft := by
  have replaced := (drafts.saved now).replace_agreesOn distinct agrees laterDistinct
  unfold recast?
  rw [drafts.sameParent, replaced.restated?]

theorem agreesOn_commit (drafts : store.Drafts stored draft) (distinct : store.Distinct)
    (other : stored.parent ≠ parent) : AgreesOn parent store (store.commit now draft) := by
  have replaced := (drafts.saved now).agreesOn_replace distinct other
  rw [commit_of_current drafts.current]
  split
  · exact replaced.trans (agreesOn_projected (drafts.sameParent ▸ other))
  · exact replaced

/-- Commits for different resources can be exchanged. -/
theorem commit_comm {earlier : Time.Timestamp} (distinct : store.Distinct)
    (one : store.Drafts left first) (two : store.Drafts right second)
    (apart : left.parent ≠ right.parent) :
    (store.commit earlier first).commit now second =
      (store.commit now second).commit earlier first := by
  have keepsRight : AgreesOn right.parent store (store.commit earlier first) :=
    one.agreesOn_commit distinct apart
  have keepsLeft : AgreesOn left.parent store (store.commit now second) :=
    two.agreesOn_commit distinct apart.symm
  have records : first.id ≠ second.id := by
    intro same
    have found := two.found
    rw [← two.sameId, ← same, one.sameId, one.found] at found
    exact apart (congrArg Authorisation.parent (Option.some.inj found))
  have resources : ∀ resource ∈ store.recast? earlier first,
      ∀ other ∈ store.recast? now second, resource.id ≠ other.id := by
    have owner {now : Time.Timestamp} {draft : Authorisation} {resource : Resource}
        (recasts : store.recast? now draft = some resource) : resource.id = draft.parent := by
      unfold recast? at recasts
      split at recasts
      · exact id_of_restated? recasts
      · cases recasts
    intro resource recasts other recastsOther
    rw [owner recasts, owner recastsOther, one.sameParent, two.sameParent]
    exact apart
  rw [(two.of_agreesOn keepsRight distinct.commit).commit_eq_written,
    two.recast?_eq distinct keepsRight distinct.commit,
    (one.of_agreesOn keepsLeft distinct.commit).commit_eq_written,
    one.recast?_eq distinct keepsLeft distinct.commit, one.commit_eq_written,
    two.commit_eq_written]
  exact written_comm records resources

end Drafts

/-! ## Copies that may be missing -/

variable {left right : Authorisation} {first second : Option Authorisation}

theorem distinct_commit? (distinct : store.Distinct) (draft? : Option Authorisation) :
    (store.commit? now draft?).Distinct := by
  cases draft? with
  | none => exact distinct
  | some draft => exact distinct.commit

theorem agreesOn_commit? (distinct : store.Distinct)
    (drafts : ∀ draft ∈ first, store.Drafts stored draft) (other : stored.parent ≠ parent) :
    AgreesOn parent store (store.commit? now first) := by
  cases first with
  | none => exact .refl parent store
  | some draft => exact (drafts draft rfl).agreesOn_commit distinct other

theorem commit?_comm {earlier : Time.Timestamp} (distinct : store.Distinct)
    (one : ∀ draft ∈ first, store.Drafts left draft)
    (two : ∀ draft ∈ second, store.Drafts right draft) (apart : left.parent ≠ right.parent) :
    (store.commit? earlier first).commit? now second =
      (store.commit? now second).commit? earlier first := by
  cases first with
  | none => rfl
  | some draft =>
      cases second with
      | none => rfl
      | some other => exact (one draft rfl).commit_comm distinct (two other rfl) apart

theorem record?_commit? (drafts : ∀ draft ∈ first, store.Drafts stored draft) {id : String}
    (other : id ≠ stored.id) : (store.commit? now first).record? id = store.record? id := by
  cases first with
  | none => rfl
  | some draft =>
      have drafting := drafts draft rfl
      exact (record?_commit drafting.current).trans (if_neg (drafting.sameId ▸ other))

end StrongAuth.MemoryStore
