import StrongAuth.Proofs.Origin

/-! # What happens to resources

No call of the node or of anyone else removes a resource or changes more of it than its
status, unless it is registered anew. Main statements: in an orderly run a stored resource is
the registered one up to its status, and every stored record belongs to a stored resource. -/

namespace StrongAuth

namespace MemoryStore

variable {store later last : MemoryStore} {record : Authorisation} {id parent : String}
  {now : Time.Timestamp}

/-! ## Resources up to their status -/

/-- Both stores have the same resources up to their statuses. -/
def SameResources (store later : MemoryStore) : Prop :=
  ∀ id, ∃ status : Resource → ParentStatus, later.resource? id =
    (store.resource? id).map fun resource => { resource with status := status resource }

namespace SameResources

theorem of_eq (same : ∀ id, later.resource? id = store.resource? id) :
    store.SameResources later := by
  intro id
  refine ⟨fun resource => resource.status, ?_⟩
  rw [same]
  simp

theorem trans (first : store.SameResources later) (second : later.SameResources last) :
    store.SameResources last := by
  intro id
  rcases first id with ⟨earlier, foundEarlier⟩
  rcases second id with ⟨status, found⟩
  refine ⟨fun resource => status { resource with status := earlier resource }, ?_⟩
  rw [found, foundEarlier, Option.map_map]
  rfl

theorem eq_some (same : store.SameResources later) {resource : Resource}
    (found : store.resource? id = some resource) :
    ∃ status, later.resource? id = some { resource with status } := by
  rcases same id with ⟨status, finds⟩
  exact ⟨status resource, by rw [finds, found]; rfl⟩

theorem earlier_eq_some (same : store.SameResources later) {resource : Resource}
    (found : later.resource? id = some resource) :
    ∃ earlier, store.resource? id = some earlier ∧
      resource = { earlier with status := resource.status } := by
  rcases same id with ⟨status, finds⟩
  rw [finds] at found
  rcases Option.map_eq_some_iff.mp found with ⟨earlier, foundEarlier, rfl⟩
  exact ⟨earlier, foundEarlier, rfl⟩

end SameResources

theorem sameResources_projected (store : MemoryStore) (parent : String) :
    store.SameResources (store.projected parent) := by
  intro id
  rw [resource?_projected]
  by_cases same : id = parent
  · rw [if_pos same]
    exact ⟨_, rfl⟩
  · rw [if_neg same]
    exact ⟨fun resource => resource.status, by simp⟩

theorem sameResources_commit (store : MemoryStore) (now : Time.Timestamp)
    (record : Authorisation) : store.SameResources (store.commit now record) := by
  by_cases current : store.Current record
  · rw [commit_of_current current]
    have replaced : store.SameResources (store.replace (record.saved now)) :=
      .of_eq fun _ => rfl
    split
    · exact replaced.trans (sameResources_projected _ _)
    · exact replaced
  · rw [commit_of_not_current current]
    exact .of_eq fun _ => rfl

theorem sameResources_interfere (store : MemoryStore) (interference : Interference) :
    store.SameResources (Store.interfere store interference) := by
  cases interference with
  | resave id =>
      rw [interfere_resave]
      split
      · exact .of_eq fun _ => rfl
      · exact .of_eq fun _ => rfl
  | setStatus other status =>
      rw [interfere_setStatus]
      split
      · next resource found =>
          intro id
          refine ⟨fun resource => if id = other then status else resource.status, ?_⟩
          rw [resource?_replaceResource]
          have sameId := id_of_resource? found
          dsimp only
          by_cases same : id = other
          · subst same
            simp [sameId, found]
          · simp [sameId, same]
      · exact .of_eq fun _ => rfl

theorem sameResources_foldl_interfere (store : MemoryStore) (interference : List Interference) :
    store.SameResources (interference.foldl Store.interfere store) := by
  induction interference generalizing store with
  | nil => exact .of_eq fun _ => rfl
  | cons first others induction => exact (sameResources_interfere store first).trans (induction _)

theorem sameResources_expires (expires : Expires now store later) :
    store.SameResources later := by
  induction expires with
  | refl store => exact .of_eq fun _ => rfl
  | step record found overdue rest induction =>
      exact (sameResources_commit _ _ _).trans induction

end MemoryStore

theorem Expires.distinct {store later : MemoryStore} {now : Time.Timestamp}
    (expires : Expires now store later) (distinct : store.Distinct) : later.Distinct := by
  induction expires with
  | refl store => exact distinct
  | step record found overdue rest induction => exact induction distinct.commit

namespace Deployment

variable (deployment : Deployment)

/-- A move that registers nothing keeps all resources up to their statuses. -/
theorem sameResources_make (before : World MemoryStore) {move : Move}
    (registersNone : move.registered? = none) :
    before.store.SameResources (deployment.make before move).store := by
  generalize made : deployment.make before move = after
  have unchanged (same : after.store = before.store) :
      before.store.SameResources after.store := by
    rw [same]
    exact .of_eq fun _ => rfl
  cases move with
  | outside interference =>
      subst made
      exact MemoryStore.sameResources_interfere _ _
  | operate step =>
      have course : Course deployment step before after := by
        subst made
        exact deployment.perform_course step before
      cases course with
      | idle state => exact unchanged state.store_eq
      | registered resource operation state =>
          rcases step with ⟨_, now⟩
          cases operation
          cases registersNone
      | opened newId resource psu preferred record operation opening state =>
          rw [state.store_eq]
          exact .of_eq fun _ => rfl
      | expired ages => exact MemoryStore.sameResources_expires ages.expires
      | projected parent state =>
          rw [state.store_eq]
          exact MemoryStore.sameResources_projected _ _
      | visited id request visit operation takes =>
          rw [takes.state.store_eq]
          have undisturbed := MemoryStore.sameResources_foldl_interfere before.store
            visit.interference
          cases visit.draft? deployment.node.policy with
          | none => exact undisturbed
          | some draft => exact undisturbed.trans (MemoryStore.sameResources_commit _ _ _)

theorem store_make_register (before : World MemoryStore) {move : Move} {resource : Resource}
    (registers : move.registered? = some resource) :
    (deployment.make before move).store = before.store.register resource := by
  rcases move with ⟨⟨operation, now⟩⟩ | interference
  · cases operation <;> cases registers
    rfl
  · cases registers

/-! ## Orderly runs -/

end Deployment

/-- Every resource is registered once, with the status of a new one. -/
structure Orderly (moves : List Move) : Prop where
  once : ((moves.filterMap Move.registered?).map (·.id)).Nodup
  initial : ∀ resource ∈ moves.filterMap Move.registered?,
    resource.status = .initial resource.kind

theorem Orderly.of_append {first second : List Move} (orderly : Orderly (first ++ second)) :
    Orderly first := by
  have once := orderly.once
  rw [List.filterMap_append, List.map_append] at once
  constructor
  · exact (List.nodup_append.mp once).1
  · intro resource member
    apply orderly.initial
    rw [List.filterMap_append]
    exact List.mem_append_left _ member

/-- The resource of an id is registered at most once. -/
def RegisteredOnce (moves : List Move) (id : String) : Prop :=
  ((moves.filterMap Move.registered?).map (·.id)).count id ≤ 1

theorem Orderly.registeredOnce {moves : List Move} (orderly : Orderly moves) (id : String) :
    RegisteredOnce moves id :=
  List.nodup_iff_count.mp orderly.once id

namespace RegisteredOnce

variable {first second moves : List Move} {move : Move} {resource : Resource} {id : String}

theorem of_append (once : RegisteredOnce (first ++ second) id) : RegisteredOnce first id := by
  unfold RegisteredOnce at once
  rw [List.filterMap_append, List.map_append, List.count_append] at once
  exact Nat.le_trans (Nat.le_add_right _ _) once

theorem not_mem (once : RegisteredOnce (moves ++ [move]) resource.id)
    (registers : move.registered? = some resource) :
    resource.id ∉ (moves.filterMap Move.registered?).map (·.id) := by
  intro member
  have earlier := List.count_pos_iff.mpr member
  unfold RegisteredOnce at once
  rw [List.filterMap_append, List.map_append, List.count_append] at once
  have last : (([move].filterMap Move.registered?).map (·.id)).count resource.id = 1 := by
    simp [registers]
  omega

end RegisteredOnce

namespace Deployment

variable {deployment : Deployment} {moves : List Move} {id : String}

theorem registered_of_resource? {resource : Resource}
    (found : (deployment.play moves (.fresh .empty)).store.resource? id = some resource) :
    ∃ registered ∈ moves.filterMap Move.registered?,
      registered.id = id ∧ resource = { registered with status := resource.status } := by
  have all : ∀ id resource,
      (deployment.play moves (.fresh .empty)).store.resource? id = some resource →
      ∃ registered ∈ moves.filterMap Move.registered?,
        registered.id = id ∧ resource = { registered with status := resource.status } := by
    apply play_induction (fun moves world => ∀ id resource,
      world.store.resource? id = some resource →
      ∃ registered ∈ moves.filterMap Move.registered?,
        registered.id = id ∧ resource = { registered with status := resource.status }) moves
    · intro id resource found
      cases found
    · intro moves before move _ induction id resource found
      rw [List.filterMap_append]
      cases registers : move.registered? with
      | none =>
          have same := deployment.sameResources_make before registers
          rcases same.earlier_eq_some found with ⟨earlier, foundEarlier, equal⟩
          rcases induction id earlier foundEarlier with ⟨registered, member, sameId, known⟩
          refine ⟨registered, List.mem_append_left _ member, sameId, ?_⟩
          rw [equal, known]
      | some registered =>
          rw [deployment.store_make_register before registers, MemoryStore.resource?_register]
            at found
          by_cases same : id = registered.id
          · rw [if_pos same] at found
            cases found
            exact ⟨resource, List.mem_append_right _ (by simp [registers]), same.symm, rfl⟩
          · rw [if_neg same] at found
            rcases induction id resource found with ⟨earlier, member, known⟩
            exact ⟨earlier, List.mem_append_left _ member, known⟩
  exact all id resource found

/-- What was not registered is not stored. -/
theorem resource?_eq_none (deployment : Deployment)
    (unregistered : id ∉ (moves.filterMap Move.registered?).map (·.id)) :
    (deployment.play moves (.fresh .empty)).store.resource? id = none := by
  rw [Option.eq_none_iff_forall_ne_some]
  intro known found
  rcases registered_of_resource? found with ⟨earlier, member, sameId, _⟩
  exact unregistered (List.mem_map.mpr ⟨earlier, member, sameId⟩)

theorem resource?_of_registeredOnce (deployment : Deployment) {registered : Resource}
    (once : RegisteredOnce moves registered.id)
    (member : registered ∈ moves.filterMap Move.registered?) :
    ∃ status, (deployment.play moves (.fresh .empty)).store.resource? registered.id =
      some { registered with status } := by
  revert once member
  apply play_induction (fun moves world => RegisteredOnce moves registered.id →
    registered ∈ moves.filterMap Move.registered? →
    ∃ status, world.store.resource? registered.id = some { registered with status }) moves
  · intro _ member
    cases member
  · intro moves before move _ induction once member
    rw [List.filterMap_append] at member
    cases registers : move.registered? with
    | none =>
        have earlier : registered ∈ moves.filterMap Move.registered? := by
          simpa [registers] using member
        rcases induction once.of_append earlier with ⟨status, found⟩
        have same := deployment.sameResources_make before registers
        rcases same.eq_some found with ⟨later, finds⟩
        exact ⟨later, finds⟩
    | some latest =>
        rw [deployment.store_make_register before registers, MemoryStore.resource?_register]
        rcases List.mem_append.mp member with earlier | last
        · have different : registered.id ≠ latest.id := by
            intro same
            rw [same] at once
            exact once.not_mem registers (same ▸ List.mem_map_of_mem earlier)
          rw [if_neg different]
          exact induction once.of_append earlier
        · have same : registered = latest := by simpa [registers] using last
          rw [same, if_pos rfl]
          exact ⟨latest.status, rfl⟩

theorem resource?_of_registered (deployment : Deployment) (orderly : Orderly moves)
    {registered : Resource} (member : registered ∈ moves.filterMap Move.registered?) :
    ∃ status, (deployment.play moves (.fresh .empty)).store.resource? registered.id =
      some { registered with status } :=
  deployment.resource?_of_registeredOnce (orderly.registeredOnce registered.id) member

theorem parent_of_record? {record : Authorisation}
    (found : (deployment.play moves (.fresh .empty)).store.record? id = some record) :
    ∃ resource, (deployment.play moves (.fresh .empty)).store.resource? record.parent =
      some resource := by
  have all : ∀ id record,
      (deployment.play moves (.fresh .empty)).store.record? id = some record →
      ∃ resource, (deployment.play moves (.fresh .empty)).store.resource? record.parent =
        some resource := by
    apply play_induction (fun _ world => ∀ id record, world.store.record? id = some record →
      ∃ resource, world.store.resource? record.parent = some resource) moves
    · intro id record found
      cases found
    · intro moves before move _ induction id record found
      have known : ∃ resource, before.store.resource? record.parent = some resource := by
        cases deployment.origin_of_record? move before found with
        | kept earlier foundEarlier same =>
            rw [same]
            exact induction id earlier foundEarlier
        | opened step operated newId resource psu preferred opening =>
            exact ⟨resource, opening.parent_eq ▸ opening.found⟩
        | failed earlier foundEarlier live failed same =>
            rw [same]
            exact induction id earlier foundEarlier
        | visited request now operated visit takes draft drafted saved =>
            have sameParent : record.parent = visit.record.parent := by
              rw [saved]
              exact (takes.draft_copies drafted).parent_eq
            exact ⟨visit.resource, sameParent ▸ takes.parent⟩
      rcases known with ⟨resource, foundResource⟩
      cases registers : move.registered? with
      | none =>
          rcases (deployment.sameResources_make before registers).eq_some foundResource
            with ⟨status, later⟩
          exact ⟨_, later⟩
      | some registered =>
          rw [deployment.store_make_register before registers, MemoryStore.resource?_register]
          split
          · exact ⟨_, rfl⟩
          · exact ⟨resource, foundResource⟩
  exact all id record found

theorem distinct_make (before : World MemoryStore) (move : Move)
    (distinct : before.store.Distinct) : (deployment.make before move).store.Distinct := by
  generalize made : deployment.make before move = after
  cases move with
  | outside interference =>
      subst made
      exact distinct.foldl_interfere [interference]
  | operate step =>
      have course : Course deployment step before after := by
        subst made
        exact deployment.perform_course step before
      cases course with
      | idle state => exact distinct.of_records_eq (by rw [state.store_eq])
      | registered resource operation state =>
          apply distinct.of_records_eq
          rw [state.store_eq, MemoryStore.records_register]
      | opened newId resource psu preferred record operation opening state =>
          rw [state.store_eq]
          exact distinct.append opening.unknown
      | expired ages => exact ages.expires.distinct distinct
      | projected parent state =>
          apply distinct.of_records_eq
          rw [state.store_eq, MemoryStore.records_projected]
      | visited id request visit operation takes =>
          rw [takes.state.store_eq]
          cases visit.draft? deployment.node.policy with
          | none => exact distinct.foldl_interfere _
          | some draft => exact (distinct.foldl_interfere _).commit

theorem distinct_play (deployment : Deployment) (moves : List Move) :
    (deployment.play moves (.fresh .empty)).store.Distinct := by
  apply play_induction (fun _ world => world.store.Distinct) moves
  · exact List.nodup_nil
  · intro moves before move _ distinct
    exact distinct_make before move distinct

theorem statuses_eq_nil (deployment : Deployment)
    (unknown : (deployment.play moves (.fresh .empty)).store.resource? id = none) :
    (deployment.play moves (.fresh .empty)).store.statuses id = [] := by
  rw [MemoryStore.statuses, List.map_eq_nil_iff, List.eq_nil_iff_forall_not_mem]
  intro record member
  rcases MemoryStore.mem_listByParent.mp member with ⟨stored, sameParent⟩
  have found := MemoryStore.record?_of_mem (deployment.distinct_play moves) stored
  rcases parent_of_record? found with ⟨parent, foundParent⟩
  rw [sameParent, unknown] at foundParent
  cases foundParent

end Deployment

end StrongAuth
