import StrongAuth.Proofs.Answers
import StrongAuth.Proofs.Coherence

/-! # Sweeps

What a sweep makes of records and resources, as functions of the store before. Main statement:
in every run a sweep fails exactly the overdue records and counts them, a resource that had one
ends with the status its records make up, the order of the candidates does not matter, and a
second sweep finds nothing to do. -/

namespace StrongAuth

/-- A record that was failed because it is overdue. -/
def Authorisation.lapsed (now : Time.Timestamp) (record : Authorisation) : Authorisation :=
  { record with status := .failed, version := record.version + 1, updated := now }

/-- A record after those of some ids were failed if they are overdue. -/
def Authorisation.lapse (now : Time.Timestamp) (ids : List String) (record : Authorisation) :
    Authorisation :=
  if record.isOverdue now && ids.contains record.id then record.lapsed now else record

def Resource.derived (resource : Resource) (statuses : List Status) : Resource :=
  { resource with status := (resource.derive? statuses).getD resource.status }

namespace Authorisation

variable {now : Time.Timestamp} {record : Authorisation} {ids : List String}

@[simp] theorem isOverdue_lapsed (record : Authorisation) :
    (record.lapsed now).isOverdue now = false := rfl

@[simp] theorem id_lapse : (record.lapse now ids).id = record.id := by
  unfold lapse
  split <;> rfl

@[simp] theorem parent_lapse : (record.lapse now ids).parent = record.parent := by
  unfold lapse
  split <;> rfl

theorem isOverdue_lapse :
    (record.lapse now ids).isOverdue now = (record.isOverdue now && !ids.contains record.id) := by
  unfold lapse
  cases overdue : record.isOverdue now <;> cases listed : ids.contains record.id <;>
    simp [overdue]

theorem lapse_eq_self (kept : (record.isOverdue now && ids.contains record.id) = false) :
    record.lapse now ids = record := by
  rw [lapse, kept]
  rfl

theorem lapse_cons (id : String) :
    record.lapse now (id :: ids) = (record.lapse now [id]).lapse now ids := by
  unfold lapse
  by_cases same : record.id = id
  · cases overdue : record.isOverdue now <;> simp [overdue, same]
  · simp [same]

end Authorisation

namespace Resource

theorem derived_of_status (resource : Resource) (status : ParentStatus) (statuses : List Status) :
    derived { resource with status } statuses = { resource with
      status := if status.isClosed then status
        else (resource.aggregate statuses).project resource.kind } := by
  unfold derived
  rw [derive?_getD]
  rfl

theorem derived_derived (resource : Resource) (earlier later : List Status) :
    (resource.derived earlier).derived later = resource.derived later := by
  have first := derived_of_status resource resource.status earlier
  have last := derived_of_status resource resource.status later
  rw [first, derived_of_status, last]
  cases closed : resource.status.isClosed with
  | true => simp [closed]
  | false => simp [Aggregate.isClosed_project]

/-- Deriving the status again changes nothing. -/
theorem derive?_derived (resource : Resource) (statuses : List Status) :
    (resource.derived statuses).derive? statuses = none := by
  have derives := derived_of_status resource resource.status statuses
  rw [derives]
  cases closed : resource.status.isClosed with
  | true => simp [derive?, closed]
  | false => exact derive?_eq_none rfl

end Resource

namespace MemoryStore

variable {store : MemoryStore} {now : Time.Timestamp} {id parent : String} {ids : List String}
  {record : Authorisation}

/-- No two records have the same id, and every record belongs to a stored resource. -/
structure Rooted (store : MemoryStore) : Prop where
  distinct : store.Distinct
  parent : ∀ record ∈ store.records, ∃ resource, store.resource? record.parent = some resource

/-- The store after the record of an id was failed if it is overdue. -/
def lapse (now : Time.Timestamp) (store : MemoryStore) (id : String) : MemoryStore :=
  match store.record? id with
  | none => store
  | some record =>
      if record.isOverdue now then store.commit now { record with status := .failed } else store

def lapseEvents (store : MemoryStore) (record : Authorisation) (now : Time.Timestamp) :
    List Event :=
  .expired record.id record.parent ::
    .statusChanged record.id record.parent (Vocabulary.word record.status)
      (Vocabulary.word Status.failed) ::
    Node.parentChanges (store.replace (record.lapsed now)) record.parent

def lapseTidings (now : Time.Timestamp) (store : MemoryStore) (id : String) : List Event :=
  match store.record? id with
  | none => []
  | some record => if record.isOverdue now then store.lapseEvents record now else []

def lapsesTidings (now : Time.Timestamp) : List String → MemoryStore → List Event
  | [], _ => []
  | id :: ids, store =>
      store.lapseTidings now id ++ lapsesTidings now ids (store.lapse now id)

def overdue (now : Time.Timestamp) (store : MemoryStore) (id : String) : Bool :=
  (store.record? id).any (·.isOverdue now)

/-- Whether some of the overdue records of a resource have one of the ids. -/
def touches (now : Time.Timestamp) (ids : List String) (store : MemoryStore) (parent : String) :
    Bool :=
  store.records.any fun record =>
    record.parent == parent && (record.isOverdue now && ids.contains record.id)

/-! ## One record -/

theorem lapse_of_not_overdue (idle : store.overdue now id = false) :
    store.lapse now id = store := by
  unfold overdue at idle
  unfold lapse
  cases found : store.record? id with
  | none => rfl
  | some record =>
      rw [found, Option.any_some] at idle
      dsimp only
      rw [idle]
      rfl

theorem lapseTidings_of_not_overdue (idle : store.overdue now id = false) :
    store.lapseTidings now id = [] := by
  unfold overdue at idle
  unfold lapseTidings
  cases found : store.record? id with
  | none => rfl
  | some record =>
      rw [found, Option.any_some] at idle
      dsimp only
      rw [idle]
      rfl

theorem lapseTidings_of_found (found : store.record? record.id = some record)
    (overdue : record.isOverdue now = true) :
    store.lapseTidings now record.id = store.lapseEvents record now := by
  unfold lapseTidings
  rw [found]
  exact if_pos overdue

theorem lapse_eq_commit (found : store.record? record.id = some record)
    (overdue : record.isOverdue now = true) :
    store.lapse now record.id = store.commit now { record with status := .failed } := by
  unfold lapse
  rw [found]
  exact if_pos overdue

theorem lapse_of_found (found : store.record? record.id = some record)
    (overdue : record.isOverdue now = true) :
    store.lapse now record.id =
      (store.replace (record.lapsed now)).projected record.parent := by
  have current : store.Current { record with status := .failed } := ⟨record, found, rfl⟩
  rw [lapse_eq_commit found overdue, commit_of_current current]
  rfl

/-- The one overdue record of an id, if there is any. -/
theorem overdue_eq_true (overdue : store.overdue now id = true) :
    ∃ record, record.id = id ∧ store.record? record.id = some record ∧
      record.isOverdue now = true := by
  rcases Option.any_eq_true _ _ |>.mp overdue with ⟨record, found, late⟩
  have sameId := (mem_of_record? found).2
  exact ⟨record, sameId, sameId ▸ found, late⟩

theorem touches_singleton (distinct : store.Distinct) :
    store.touches now [id] parent =
      (store.record? id).any fun record => record.parent == parent && record.isOverdue now := by
  rw [Bool.eq_iff_iff]
  simp only [touches, List.any_eq_true, Option.any_eq_true, Bool.and_eq_true, beq_iff_eq,
    List.contains_cons, List.contains_nil, Bool.or_false]
  constructor
  · rintro ⟨record, member, ours, late, rfl⟩
    exact ⟨record, record?_of_mem distinct member, ours, late⟩
  · rintro ⟨record, found, ours, late⟩
    rcases mem_of_record? found with ⟨member, sameId⟩
    exact ⟨record, member, ours, late, sameId⟩

theorem records_lapse (distinct : store.Distinct) :
    (store.lapse now id).records = store.records.map (·.lapse now [id]) := by
  cases late : store.overdue now id with
  | false =>
      rw [lapse_of_not_overdue late]
      symm
      refine (List.map_congr_left ?_).trans (List.map_id _)
      intro record member
      apply Authorisation.lapse_eq_self
      cases listed : [id].contains record.id with
      | false => rw [Bool.and_false]
      | true =>
          have sameId : record.id = id := by simpa using listed
          rw [overdue, ← sameId, record?_of_mem distinct member, Option.any_some] at late
          rw [late]
          rfl
  | true =>
      rcases overdue_eq_true late with ⟨record, rfl, found, late⟩
      rw [lapse_of_found found late, records_projected]
      apply List.map_congr_left
      intro stored member
      by_cases same : stored.id = record.id
      · have equal := record?_of_mem distinct member
        rw [same, found] at equal
        cases equal
        exact (if_pos rfl).trans (by simp [Authorisation.lapse, late])
      · exact (if_neg same).trans (Authorisation.lapse_eq_self (by simp [same])).symm

theorem resource?_lapse (distinct : store.Distinct) :
    (store.lapse now id).resource? parent =
      if store.touches now [id] parent then
        (store.resource? parent).map (·.derived ((store.lapse now id).statuses parent))
      else store.resource? parent := by
  rw [touches_singleton distinct]
  cases late : store.overdue now id with
  | false =>
      rw [lapse_of_not_overdue late]
      unfold overdue at late
      rw [if_neg]
      intro touched
      rcases Option.any_eq_true _ _ |>.mp touched with ⟨record, found, both⟩
      rw [found, Option.any_some] at late
      simp [late] at both
  | true =>
      rcases overdue_eq_true late with ⟨record, rfl, found, late⟩
      have sameStatuses : statuses _ parent = (store.replace (record.lapsed now)).statuses parent :=
        statuses_of_records_eq (@records_projected _ record.parent) parent
      rw [lapse_of_found found late, resource?_projected, sameStatuses, found, Option.any_some,
        late, Bool.and_true]
      simp only [beq_iff_eq, eq_comm (a := parent)]
      rfl

theorem Rooted.lapse (rooted : store.Rooted) (id : String) : (store.lapse now id).Rooted := by
  have sameIds (record : Authorisation) : (record.lapse now [id]).id = record.id :=
    Authorisation.id_lapse
  constructor
  · unfold Distinct
    rw [records_lapse rooted.distinct, List.map_map]
    exact (List.map_congr_left fun record _ => sameIds record) ▸ rooted.distinct
  · intro record member
    rw [records_lapse rooted.distinct] at member
    rcases List.mem_map.mp member with ⟨earlier, stored, rfl⟩
    rcases rooted.parent earlier stored with ⟨resource, found⟩
    rw [Authorisation.parent_lapse, resource?_lapse rooted.distinct, found]
    split
    · exact ⟨_, rfl⟩
    · exact ⟨_, rfl⟩

theorem lapseEvents_eq (store : MemoryStore) (overdue : record.isOverdue now = true) :
    store.lapseEvents record now = .expired record.id record.parent ::
      Node.announcements (store.replace (record.lapsed now)) (record.lapsed now)
        record.status := by
  have changed : (record.lapsed now).status ≠ record.status := by
    intro same
    have live := Authorisation.live_of_isOverdue overdue
    rw [← same] at live
    cases live
  rw [Node.announcements_of_settled _ rfl, Node.changes, if_neg changed]
  rfl

/-! ## Some records -/

theorem records_lapses (rooted : store.Rooted) (ids : List String) :
    (ids.foldl (lapse now) store).records = store.records.map (·.lapse now ids) := by
  induction ids generalizing store with
  | nil =>
      symm
      refine (List.map_congr_left ?_).trans (List.map_id _)
      intro record member
      exact Authorisation.lapse_eq_self (by simp)
  | cons id ids induction =>
      rw [List.foldl_cons, induction (rooted.lapse id), records_lapse rooted.distinct,
        List.map_map]
      apply List.map_congr_left
      intro record member
      exact (Authorisation.lapse_cons id).symm

/-- A resource that no overdue record touches keeps the statuses of its authorisations. -/
theorem statuses_lapses (rooted : store.Rooted)
    (untouched : store.touches now ids parent = false) :
    (ids.foldl (lapse now) store).statuses parent = store.statuses parent := by
  unfold statuses listByParent
  rw [records_lapses rooted, List.filter_map]
  have sameParent : ((fun record => record.parent == parent) ∘
      Authorisation.lapse now ids) = fun record : Authorisation => record.parent == parent := by
    funext record
    simp
  have kept : (store.records.filter fun record => record.parent == parent).map
      (Authorisation.lapse now ids) =
        store.records.filter fun record => record.parent == parent := by
    refine (List.map_congr_left ?_).trans (List.map_id _)
    intro record member
    rcases List.mem_filter.mp member with ⟨stored, ours⟩
    have spared := List.any_eq_false.mp untouched record stored
    rw [ours, Bool.true_and] at spared
    exact Authorisation.lapse_eq_self (by simpa using spared)
  rw [sameParent, kept]

theorem touches_cons (distinct : store.Distinct) (id : String) (ids : List String)
    (parent : String) :
    store.touches now (id :: ids) parent =
      (store.touches now [id] parent || (store.lapse now id).touches now ids parent) := by
  rw [Bool.eq_iff_iff]
  unfold touches
  rw [records_lapse distinct, List.any_map, Bool.or_eq_true, List.any_eq_true, List.any_eq_true,
    List.any_eq_true, ← exists_or]
  refine exists_congr fun record => ?_
  rw [← and_or_left, ← Bool.or_eq_true]
  refine and_congr_right fun _ => ?_
  simp only [Function.comp, Authorisation.parent_lapse, Authorisation.isOverdue_lapse,
    Authorisation.id_lapse, List.contains_cons, List.contains_nil]
  cases record.parent == parent <;> cases record.isOverdue now <;>
    cases record.id == id <;> simp

/-- A resource that is touched has its status derived from the statuses at the end, in whatever
order its records were failed. -/
theorem resource?_lapses (rooted : store.Rooted) (ids : List String) (parent : String) :
    (ids.foldl (lapse now) store).resource? parent =
      if store.touches now ids parent then
        (store.resource? parent).map
          (·.derived ((ids.foldl (lapse now) store).statuses parent))
      else store.resource? parent := by
  induction ids generalizing store with
  | nil =>
      have untouched : store.touches now [] parent = false := by simp [touches]
      rw [untouched]
      rfl
  | cons id ids induction =>
      rw [List.foldl_cons, induction (rooted.lapse id), touches_cons rooted.distinct,
        resource?_lapse rooted.distinct]
      cases first : store.touches now [id] parent with
      | false => rfl
      | true =>
          cases later : (store.lapse now id).touches now ids parent with
          | false =>
              rw [statuses_lapses (rooted.lapse id) later]
              rfl
          | true =>
              simp only [Bool.or_true, if_true, Option.map_map, Function.comp_def,
                Resource.derived_derived]

theorem countP_lapse (now : Time.Timestamp) (distinct : store.Distinct) (id : String) :
    (store.overdue now id).toNat + (store.lapse now id).records.countP (·.isOverdue now) =
      store.records.countP (·.isOverdue now) := by
  cases late : store.overdue now id with
  | false => simp [lapse_of_not_overdue late]
  | true =>
      rcases overdue_eq_true late with ⟨record, rfl, found, late⟩
      have saved : store.record? (record.lapsed now).id = some record := found
      have moved := countP_replace distinct saved (·.isOverdue now)
      rw [lapse_of_found found late, records_projected, Bool.toNat_true]
      rw [late, Authorisation.isOverdue_lapsed, Bool.toNat_true] at moved
      simp at moved
      omega

end MemoryStore

/-! ## Sweeps of a node -/

namespace Node

variable {world : World MemoryStore}

theorem runAction_expireCandidate (partner : Partner) (now : Time.Timestamp)
    (rooted : world.store.Rooted) (id : String) :
    world.runAction partner (expireCandidate id now) =
      (.ok (world.store.overdue now id), { world with
        store := world.store.lapse now id
        events := world.events ++ world.store.lapseTidings now id }) := by
  unfold expireCandidate
  rw [World.runAction_bind, World.runAction_get]
  dsimp only
  cases found : world.store.record? id with
  | none =>
      have idle : world.store.overdue now id = false := by rw [MemoryStore.overdue, found]; rfl
      rw [idle, MemoryStore.lapse_of_not_overdue idle,
        MemoryStore.lapseTidings_of_not_overdue idle, List.append_nil]
      rfl
  | some record =>
      have late : world.store.overdue now id = record.isOverdue now := by
        rw [MemoryStore.overdue, found, Option.any_some]
      dsimp only
      cases overdue : record.isOverdue now with
      | false =>
          rw [overdue] at late
          rw [late, MemoryStore.lapse_of_not_overdue late,
            MemoryStore.lapseTidings_of_not_overdue late, List.append_nil]
          rfl
      | true =>
          rw [overdue] at late
          rcases MemoryStore.mem_of_record? found with ⟨member, sameId⟩
          rcases rooted.parent record member with ⟨resource, present⟩
          subst sameId
          have fails := runAction_expire partner now found present
          rw [late, MemoryStore.lapse_eq_commit found overdue,
            MemoryStore.lapseTidings_of_found found overdue, world.store.lapseEvents_eq overdue]
          exact World.runAction_bind_of_ok partner fails fun _ => pure true

/-- The lock of one candidate after the other is taken and given back. -/
def passedBy (locks : Locks) : List String → Locks
  | [] => locks
  | id :: ids =>
      let handle := locks.obtain id
      passedBy (((handle.2.take handle.1).free handle.1).giveBack id handle.1) ids

theorem runAction_sweepCandidates (partner : Partner) (now : Time.Timestamp)
    (rooted : world.store.Rooted) (candidates : List Authorisation) :
    let ids := candidates.map (·.id)
    let store := ids.foldl (MemoryStore.lapse now) world.store
    ∃ count, world.runAction partner (sweepCandidates now candidates) =
        (.ok count, { world with
          store
          events := world.events ++ MemoryStore.lapsesTidings now ids world.store
          locks := passedBy world.locks ids }) ∧
      count + store.records.countP (·.isOverdue now) =
        world.store.records.countP (·.isOverdue now) := by
  induction candidates generalizing world with
  | nil => exact ⟨0, by rw [List.map_nil, MemoryStore.lapsesTidings, List.append_nil]; rfl,
      Nat.zero_add _⟩
  | cons candidate candidates induction =>
      have locked := World.runAction_withLock_eq partner candidate.id
        (expireCandidate candidate.id now) world
      dsimp only at locked
      rw [runAction_expireCandidate partner now (by exact rooted)] at locked
      let later : World MemoryStore := { world with
        store := world.store.lapse now candidate.id
        events := world.events ++ world.store.lapseTidings now candidate.id
        locks := (((world.locks.obtain candidate.id).2.take (world.locks.obtain candidate.id).1).free
          (world.locks.obtain candidate.id).1).giveBack candidate.id
            (world.locks.obtain candidate.id).1 }
      have laterRooted : later.store.Rooted := rooted.lapse candidate.id
      rcases induction laterRooted with ⟨count, sweeps, counted⟩
      have first := MemoryStore.countP_lapse now rooted.distinct candidate.id
      refine ⟨(world.store.overdue now candidate.id).toNat + count, ?_, ?_⟩
      · unfold sweepCandidates
        rw [World.runAction_bind, World.runAction_lift]
        change World.run _ _ _ = _ at locked
        rw [locked]
        dsimp only
        rw [World.runAction_bind, World.runAction_pure]
        dsimp only
        rw [World.runAction_bind_of_ok partner sweeps, List.map_cons, MemoryStore.lapsesTidings,
          ← List.append_assoc]
        cases world.store.overdue now candidate.id <;> rfl
      · rw [List.map_cons, List.foldl_cons, Nat.add_assoc, counted]
        exact first

end Node

/-- The store is what a sweep leaves of another one. -/
structure Swept (now : Time.Timestamp) (before after : MemoryStore) : Prop where
  records : after.records = before.records.map fun record =>
    if record.isOverdue now then record.lapsed now else record
  /-- Only resources of overdue records have their status derived once more. -/
  resources : ∀ id, after.resource? id =
    if before.records.any fun record => record.parent == id && record.isOverdue now then
      (before.resource? id).map (·.derived (after.statuses id))
    else before.resource? id

namespace Swept

variable {now : Time.Timestamp} {before after other : MemoryStore} {resource : Resource}

/-- A resource of an overdue record is closed, or has the status its records make up. -/
theorem settled (swept : Swept now before after)
    (found : after.resource? resource.id = some resource)
    (touched : ∃ record ∈ before.records,
      record.parent = resource.id ∧ record.isOverdue now = true) :
    resource.derive? (after.statuses resource.id) = none := by
  have derived := swept.resources resource.id
  rw [if_pos (by simpa using touched), found] at derived
  rcases Option.map_eq_some_iff.mp derived.symm with ⟨earlier, _, restated⟩
  generalize after.statuses resource.id = statuses at restated ⊢
  rw [← restated]
  exact earlier.derive?_derived statuses

theorem listExpired_eq_nil (swept : Swept now before after) : after.listExpired now = [] := by
  rw [MemoryStore.listExpired, swept.records, List.filter_eq_nil_iff]
  intro record member
  rcases List.mem_map.mp member with ⟨earlier, _, rfl⟩
  split
  · rw [Authorisation.isOverdue_lapsed]
    simp
  · assumption

theorem countP_eq_zero (swept : Swept now before after) :
    after.records.countP (·.isOverdue now) = 0 := by
  rw [List.countP_eq_length_filter]
  exact congrArg List.length swept.listExpired_eq_nil

/-- Records and resources after a sweep are determined by the store before it. -/
theorem unique (left : Swept now before after) (right : Swept now before other) :
    other.records = after.records ∧ ∀ id, other.resource? id = after.resource? id := by
  have sameRecords : other.records = after.records := right.records.trans left.records.symm
  refine ⟨sameRecords, fun id => ?_⟩
  rw [right.resources, left.resources, MemoryStore.statuses_of_records_eq sameRecords]

end Swept

/-- Candidates in any order make for a sweep. -/
theorem MemoryStore.swept_lapses {store : MemoryStore} {now : Time.Timestamp}
    {candidates : List Authorisation} (rooted : store.Rooted)
    (listed : candidates.Perm (store.listExpired now)) :
    Swept now store ((candidates.map (·.id)).foldl (lapse now) store) := by
  have candidate {record : Authorisation} (member : record ∈ store.records) :
      (record.isOverdue now && (candidates.map (·.id)).contains record.id) =
        record.isOverdue now := by
    cases overdue : record.isOverdue now with
    | false => rfl
    | true =>
        have expired : record ∈ candidates :=
          listed.mem_iff.mpr (List.mem_filter.mpr ⟨member, overdue⟩)
        simpa using ⟨record, expired, rfl⟩
  constructor
  · rw [records_lapses rooted]
    apply List.map_congr_left
    intro record member
    rw [Authorisation.lapse, candidate member]
  · intro id
    rw [resource?_lapses rooted]
    have touched : store.touches now (candidates.map (·.id)) id =
        store.records.any fun record => record.parent == id && record.isOverdue now := by
      rw [Bool.eq_iff_iff]
      simp only [touches, List.any_eq_true]
      refine exists_congr fun record => and_congr_right fun member => ?_
      rw [candidate member]
    rw [touched]

namespace Deployment

variable {deployment : Deployment}

theorem rooted_play (deployment : Deployment) (moves : List Move) :
    (deployment.play moves (.fresh .empty)).store.Rooted where
  distinct := deployment.distinct_play moves
  parent _ member :=
    parent_of_record? (MemoryStore.record?_of_mem (deployment.distinct_play moves) member)

/-- Every order of the candidates answers with the number of overdue records. -/
theorem runAction_candidates (deployment : Deployment) {world : World MemoryStore}
    (rooted : world.store.Rooted) {now : Time.Timestamp} {candidates : List Authorisation}
    (listed : candidates.Perm (world.store.listExpired now)) :
    ∃ after, world.runAction deployment.partner (Node.sweepCandidates now candidates) =
        (.ok (world.store.records.countP (·.isOverdue now)), after) ∧
      Swept now world.store after.store := by
  have swept := MemoryStore.swept_lapses rooted listed
  rcases Node.runAction_sweepCandidates deployment.partner now rooted candidates
    with ⟨count, sweeps, counted⟩
  rw [swept.countP_eq_zero, Nat.add_zero] at counted
  exact ⟨_, counted ▸ sweeps, swept⟩

/-- In a run that nobody else disturbs, a sweep leaves every resource with the status that its
records make up. -/
theorem coherent_of_sweep (quiet : deployment.bank.Quiet) {steps : List Step}
    (orderly : Orderly (steps.map .operate)) {now : Time.Timestamp} {after : World MemoryStore}
    (swept : (deployment.perform ⟨.sweep, now⟩
      (deployment.play (steps.map .operate) (.fresh .empty))).2 = after)
    {resource : Resource} (found : after.store.resource? resource.id = some resource) :
    after.store.Coherent resource := by
  let sweeping := steps ++ [⟨.sweep, now⟩]
  have played : deployment.play (sweeping.map .operate) (.fresh .empty) = after := by
    rw [List.map_append, play_append]
    exact swept
  have sameRegistrations : (sweeping.map Move.operate).filterMap Move.registered? =
      (steps.map Move.operate).filterMap Move.registered? := by
    rw [List.map_append, List.filterMap_append]
    exact List.append_nil _
  have stillOrderly : Orderly (sweeping.map .operate) := by
    constructor
    · rw [sameRegistrations]
      exact orderly.once
    · rw [sameRegistrations]
      exact orderly.initial
  have stands := stands_play quiet stillOrderly
  rw [played] at stands
  cases stands resource found with
  | outside set =>
      rw [outsideStatus_operate] at set
      cases set
  | derived unclosed coherent => exact coherent

/-- In whatever run, a sweep succeeds and fails exactly the overdue records. -/
theorem sweep_exact (deployment : Deployment) (moves : List Move) (now : Time.Timestamp) :
    let world := deployment.play moves (.fresh .empty)
    ∃ after, deployment.perform ⟨.sweep, now⟩ world =
        (.ok (world.store.records.countP (·.isOverdue now)), after) ∧
      Swept now world.store after.store ∧
      (∀ record ∈ world.store.records, record.isOverdue now = true →
        ∃ resource, after.store.resource? record.parent = some resource ∧
          resource.derive? (after.store.statuses resource.id) = none) ∧
      (∀ steps : List Step, moves = steps.map .operate → Orderly moves → deployment.bank.Quiet →
        ∀ resource, after.store.resource? resource.id = some resource →
          after.store.Coherent resource) ∧
      (∀ candidates, candidates.Perm (world.store.listExpired now) → ∃ other,
        world.runAction deployment.partner (Node.sweepCandidates now candidates) =
          (.ok (world.store.records.countP (·.isOverdue now)), other) ∧
        other.store.records = after.store.records ∧
        ∀ id, other.store.resource? id = after.store.resource? id) ∧
      deployment.perform ⟨.sweep, now⟩ after = (.ok 0, after) := by
  intro world
  have rooted := deployment.rooted_play moves
  have listing (before : World MemoryStore) : deployment.perform ⟨.sweep, now⟩ before =
      before.runAction deployment.partner
        (Node.sweepCandidates now (before.store.listExpired now)) := by
    change before.runAction _ (Node.sweep now) = _
    unfold Node.sweep
    rw [World.runAction_bind, World.runAction_listExpired]
  rcases deployment.runAction_candidates rooted (.refl _) with ⟨after, sweeps, swept⟩
  rw [← listing] at sweeps
  refine ⟨after, sweeps, swept, ?_, ?_, ?_, ?_⟩
  · intro record member overdue
    rcases rooted.parent record member with ⟨earlier, known⟩
    have remains : ∃ resource, after.store.resource? record.parent = some resource := by
      rw [swept.resources, known]
      split
      · exact ⟨_, rfl⟩
      · exact ⟨_, rfl⟩
    rcases remains with ⟨resource, found⟩
    have sameId := MemoryStore.id_of_resource? found
    rw [← sameId] at found ⊢
    exact ⟨resource, found, swept.settled found ⟨record, member, sameId.symm, overdue⟩⟩
  · rintro steps rfl orderly quiet resource found
    exact coherent_of_sweep quiet orderly (congrArg Prod.snd sweeps) found
  · intro candidates listed
    rcases deployment.runAction_candidates rooted listed with ⟨other, ran, alike⟩
    exact ⟨other, ran, swept.unique alike⟩
  · rw [listing, swept.listExpired_eq_nil]
    rfl

end Deployment

/-- A payment whose two authorisations were abandoned, and one that was started just now. -/
def abandonedSteps : List Step :=
  let evening : Time.Timestamp := ⟨20000, 500, by decide, by decide, by decide, by decide⟩
  let payment (id : String) : Resource :=
    ⟨id, .payment, .payment .received, false, false, false, [], .epoch⟩
  [⟨.register (payment "rent"), .epoch⟩, ⟨.register (payment "loan"), .epoch⟩,
    ⟨.start "first" "rent" none (some .embedded), .epoch⟩,
    ⟨.start "second" "rent" none (some .redirect), .epoch⟩,
    ⟨.start "third" "loan" none (some .embedded), evening⟩]

theorem abandoned_payment_rejected :
    let deployment := Deployment.simulated .standard
    let evening : Time.Timestamp := ⟨20000, 500, by decide, by decide, by decide, by decide⟩
    let world := deployment.play (abandonedSteps.map .operate) (.fresh .empty)
    ∃ after, deployment.perform ⟨.sweep, evening⟩ world = (.ok 2, after) ∧
      after.store.records.map (fun record => (record.id, record.status, record.version)) =
        [("first", .failed, 1), ("second", .failed, 1), ("third", .received, 0)] ∧
      after.store.resources.map (·.status) = [.payment .rejected, .payment .received] ∧
      (∀ resource, after.store.resource? resource.id = some resource →
        after.store.Coherent resource) ∧
      (∃ other, world.runAction deployment.partner
          (Node.sweepCandidates evening (world.store.listExpired evening).reverse) =
          (.ok 2, other) ∧ other.store.records = after.store.records) ∧
      deployment.perform ⟨.sweep, evening⟩ after = (.ok 0, after) := by
  intro deployment evening world
  rcases deployment.sweep_exact (abandonedSteps.map .operate) evening
    with ⟨after, sweeps, swept, _, coherent, reordered, again⟩
  have counted : (deployment.play (abandonedSteps.map .operate)
      (.fresh .empty)).store.records.countP (·.isOverdue evening) = 2 := by decide +kernel
  rw [counted] at sweeps reordered
  have reached : (deployment.perform ⟨.sweep, evening⟩ world).2 = after := by rw [sweeps]
  have orderly : Orderly (abandonedSteps.map .operate) :=
    ⟨by decide +kernel, by decide +kernel⟩
  rcases reordered _ (List.reverse_perm _) with ⟨other, ran, sameRecords, _⟩
  refine ⟨after, sweeps, ?_, ?_, ?_, ⟨other, ran, sameRecords⟩, again⟩
  · rw [swept.records]
    decide +kernel
  · rw [← reached]
    decide +kernel
  · exact coherent abandonedSteps rfl orderly SimulatedBank.standard.quiet

end StrongAuth
