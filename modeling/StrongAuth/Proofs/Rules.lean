import StrongAuth.Proofs.Deeds
import StrongAuth.Proofs.Drafts

/-! # Rules of conduct

What the node permits itself, in view of what it has done and found earlier in the same
procedure: it stores only drafts of records that it has read, opens authorisations only for
resources that it has just found open, and sets only statuses that it has just derived. Main
statement: a record in whose place the deeds of a procedure have stored a draft was stored as
they had found it, and is stored as the draft afterwards, whatever others do meanwhile. -/

namespace StrongAuth

/-- The call asks for a change of the store. -/
def StoreCall.changes : StoreCall → Bool
  | .insert _ | .save _ | .register _ | .setParentStatus .. => true
  | .get _ | .listByParent _ | .listExpired _ | .resource _ => false

/-- The effect neither changes the store nor calls the bank. -/
def Effect.isIdle : Effect → Bool
  | .store call => !call.changes
  | .bank _ => false
  | _ => true

namespace Deed

/-- The deed has changed the store. -/
def writes : Deed → Bool
  | ⟨world, .store call⟩ => call.changes && (Store.perform world.store call).1.isOk
  | _ => false

@[simp] theorem writes_save (world : World MemoryStore) (draft : Authorisation) :
    writes ⟨world, .store (.save draft)⟩ = (Store.perform world.store (.save draft)).1.isOk :=
  rfl

def asks : Deed → Bool
  | ⟨_, .bank _⟩ => true
  | _ => false

/-- The deed is not about the content of a record. -/
def spares : Deed → Bool
  | ⟨_, .store (.insert _)⟩ | ⟨_, .store (.save _)⟩ => false
  | _ => true

end Deed

def Unwritten (deeds : List Deed) : Prop :=
  ∀ deed ∈ deeds, deed.writes = false

def Unasked (deeds : List Deed) : Prop :=
  ∀ deed ∈ deeds, deed.asks = false

def Spared (deeds : List Deed) : Prop :=
  ∀ deed ∈ deeds, deed.spares = true

/-- The deeds neither change the store nor call the bank. -/
def Idle (deeds : List Deed) : Prop :=
  ∀ deed ∈ deeds, deed.effect.isIdle = true

/-- The record was read under its id, and nothing was stored about records since then. -/
def Loaded (past : List Deed) (record : Authorisation) : Prop :=
  ∃ (earlier since : List Deed) (world : World MemoryStore),
    past = earlier ++ ⟨world, .store (.get record.id)⟩ :: since ∧ Spared since ∧
    world.store.record? record.id = some record

/-- The resource was found open for authorisations, and at most listed since then. -/
def FoundOpen (past : List Deed) (parent : String) : Prop :=
  ∃ (earlier listed : List Deed) (world : World MemoryStore) (resource : Resource),
    past = earlier ++ ⟨world, .store (.resource parent)⟩ :: listed ∧
    (∀ deed ∈ listed, deed.effect = .store (.listByParent parent)) ∧
    world.store.resource? parent = some resource ∧
    resource.status.acceptsAuthorisation = true

/-- The record is new and belongs to a resource that was just found open. -/
structure Opens (past : List Deed) (record : Authorisation) : Prop where
  received : record.status = .received
  version : record.version = 0
  shaped : record.Shaped
  accepting : FoundOpen past record.parent

/-- The status was just derived for the resource. -/
def Derives (past : List Deed) (parent : String) (status : ParentStatus) : Prop :=
  ∃ (earlier : List Deed) (world later : World MemoryStore) (resource : Resource),
    past = earlier ++
      [⟨world, .store (.resource parent)⟩, ⟨later, .store (.listByParent parent)⟩] ∧
    world.store.resource? parent = some resource ∧
    resource.derive? (later.store.statuses parent) = some status

/-- What the node permits itself after some deeds. Resources are registered from outside. -/
def Proper (past : List Deed) : Effect → Prop
  | .store (.save draft) => ∃ record, Loaded past record ∧ record.Drafts draft
  | .store (.insert record) => Opens past record
  | .store (.setParentStatus parent status) => Derives past parent status
  | .store (.register _) => False
  | _ => True

/-- The deeds have stored a draft of a record that they have found, and nothing else about
records. -/
inductive Replaces (record draft : Authorisation) : List Deed → Prop
  | intro {first rest : List Deed} {world : World MemoryStore} (loaded : Loaded first record)
      (drafts : record.Drafts draft)
      (accepted : Deed.writes ⟨world, .store (.save draft)⟩ = true)
      (spared : Spared (first ++ rest)) :
      Replaces record draft (first ++ ⟨world, .store (.save draft)⟩ :: rest)

variable {partner : Partner} {past more : List Deed} {record draft : Authorisation}
  {now : Time.Timestamp}

/-! ## Sparing deeds -/

/-- Whatever happens during a deed that spares the records, these are at most saved as they
are. -/
theorem World.resaves_of_spares (partner : Partner) (world : World MemoryStore) {effect : Effect}
    (spares : Deed.spares ⟨world, effect⟩ = true) :
    world.store.Resaves (world.perform partner effect).2.store := by
  cases effect with
  | bank call => exact .foldl_interfere world.store _
  | store call =>
      apply MemoryStore.Resaves.of_record?_eq
      intro id
      cases call with
      | insert record | save record => cases spares
      | register resource =>
          have sameRecords : (world.store.register resource).records = world.store.records :=
            MemoryStore.records_register
          exact congrArg (List.find? _) sameRecords
      | setParentStatus parent status =>
          dsimp only [World.perform, Store.perform, Store.setParentStatus]
          unfold MemoryStore.setParentStatus
          cases world.store.resource? parent <;> rfl
      | _ => rfl
  | _ => exact .of_record?_eq fun _ => rfl

/-! ## More deeds -/

theorem Loaded.of_get {world : World MemoryStore} {id : String}
    (found : world.store.record? id = some record) (past : List Deed) :
    Loaded (past ++ [⟨world, .store (.get id)⟩]) record := by
  have sameId : record.id = id := (MemoryStore.mem_of_record? found).2
  refine ⟨past, [], world, ?_, List.forall_mem_nil _, ?_⟩
  · rw [sameId]
  · rw [sameId, found]

theorem Spared.append (spared : Spared past) (aside : Spared more) : Spared (past ++ more) :=
  List.forall_mem_append.mpr ⟨spared, aside⟩

theorem Loaded.append (loaded : Loaded past record) (aside : Spared more) :
    Loaded (past ++ more) record := by
  rcases loaded with ⟨earlier, since, world, rfl, spared, found⟩
  refine ⟨earlier, since ++ more, world, ?_, spared.append aside, found⟩
  rw [List.append_assoc, List.cons_append]

/-- What was read last was read just now, or before a deed that spares the records. -/
theorem Loaded.of_append_singleton {deed : Deed} (loaded : Loaded (past ++ [deed]) record) :
    Loaded past record ∧ deed.spares = true ∨
      deed.effect = .store (.get record.id) ∧ deed.world.store.record? record.id = some record := by
  rcases loaded with ⟨earlier, since, world, same, spared, found⟩
  rcases List.eq_nil_or_concat since with rfl | ⟨before, last, rfl⟩
  · rcases List.append_inj' same rfl with ⟨_, last⟩
    cases last
    exact .inr ⟨rfl, found⟩
  · rw [List.concat_eq_append, ← List.cons_append, ← List.append_assoc] at same
    rcases List.append_inj' same rfl with ⟨rfl, last⟩
    cases last
    rw [List.concat_eq_append] at spared
    rcases List.forall_mem_append.mp spared with ⟨aside, spares⟩
    have spares := spares deed (List.mem_singleton_self _)
    exact .inl ⟨⟨earlier, before, world, rfl, aside, found⟩, spares⟩

theorem Unwritten.append (unwritten : Unwritten past) (silent : Unwritten more) :
    Unwritten (past ++ more) :=
  List.forall_mem_append.mpr ⟨unwritten, silent⟩

theorem Unasked.append (unasked : Unasked past) (silent : Unasked more) :
    Unasked (past ++ more) :=
  List.forall_mem_append.mpr ⟨unasked, silent⟩

namespace Idle

theorem append (idle : Idle past) (still : Idle more) : Idle (past ++ more) :=
  List.forall_mem_append.mpr ⟨idle, still⟩

theorem read (idle : Idle past) (world : World MemoryStore) {call : StoreCall}
    (reads : call.changes = false) : Idle (past ++ [⟨world, .store call⟩]) := by
  apply idle.append
  simp [Idle, Effect.isIdle, reads]

theorem unwritten (idle : Idle past) : Unwritten past := by
  rintro ⟨world, effect⟩ member
  have still := idle _ member
  cases effect <;> simp_all [Effect.isIdle, Deed.writes]

theorem unasked (idle : Idle past) : Unasked past := by
  rintro ⟨world, effect⟩ member
  have still := idle _ member
  cases effect <;> first | rfl | cases still

theorem spared (idle : Idle past) : Spared past := by
  rintro ⟨world, effect⟩ member
  have still := idle _ member
  rcases effect with ⟨_ | _ | _⟩ | _ <;> first | rfl | cases still

end Idle

theorem Loaded.read (loaded : Loaded past record) (world : World MemoryStore) {call : StoreCall}
    (reads : call.changes = false) : Loaded (past ++ [⟨world, .store call⟩]) record := by
  apply loaded.append
  have nothing : Idle [] := List.forall_mem_nil _
  exact (nothing.read world reads).spared

theorem Replaces.append (replaces : Replaces record draft past) (aside : Spared more) :
    Replaces record draft (past ++ more) := by
  rcases replaces with ⟨loaded, drafts, accepted, spared⟩
  rw [List.append_assoc, List.cons_append]
  refine .intro loaded drafts accepted ?_
  rw [← List.append_assoc]
  exact spared.append aside

/-! ## Worlds along deeds -/

theorem World.stored_of_writes (partner : Partner) (world : World MemoryStore)
    (accepted : Deed.writes ⟨world, .store (.save draft)⟩ = true) :
    (world.perform partner (.store (.save draft))).2.store.record? draft.id =
      some { draft with version := draft.version + 1 } := by
  have performs : Store.perform world.store (.save draft) =
    Store.settle world.store (world.store.save draft) := rfl
  rw [Deed.writes_save] at accepted
  dsimp only [World.perform]
  rw [performs] at accepted ⊢
  cases saves : world.store.save draft with
  | error fault =>
      rw [saves] at accepted
      cases accepted
  | ok result =>
      rcases MemoryStore.save_eq_ok saves with ⟨earlier, finds, _, saved, replaced⟩
      change result.2.record? draft.id = _
      rw [replaced, saved, MemoryStore.record?_replace, if_pos rfl, finds]
      rfl

namespace World.Passes

variable {lets : Interference → Prop} {before after : World MemoryStore} {deeds : List Deed}

theorem resaves (passes : Passes partner lets before deeds after) (spared : Spared deeds) :
    before.store.Resaves after.store := by
  induction passes with
  | start => exact .of_record?_eq fun _ => rfl
  | interfered interference allowed passes induction =>
      exact (induction spared).trans (.interfere _ interference)
  | performed effect passes induction =>
      rcases List.forall_mem_append.mp spared with ⟨earlier, last⟩
      apply (induction earlier).trans
      apply resaves_of_spares partner
      exact last _ (List.mem_singleton_self _)

/-- What was read last is still stored, at most in another version. -/
theorem still_stored (passes : Passes partner lets before deeds after)
    (loaded : Loaded deeds record) :
    ∃ version, after.store.record? record.id = some { record with version } := by
  rcases loaded with ⟨start, since, reading, rfl, spared, found⟩
  rcases passes.split.2.resaves spared record.id with ⟨version, finds⟩
  have read : (reading.perform partner (.store (.get record.id))).2.store.record? record.id =
    some record := found
  rw [read] at finds
  exact ⟨_, finds⟩

theorem stored_of_loaded (passes : Passes partner lets before deeds after)
    (spared : Spared deeds) (loaded : Loaded deeds record) :
    ∃ version, before.store.record? record.id = some { record with version } := by
  rcases loaded with ⟨start, others, reading, rfl, _, found⟩
  rcases List.forall_mem_append.mp spared with ⟨startSpared, _⟩
  rcases passes.split.1.resaves startSpared record.id with ⟨version, finds⟩
  rw [found] at finds
  rcases Option.map_eq_some_iff.mp finds.symm with ⟨stored, kept, raised⟩
  refine ⟨stored.version, ?_⟩
  rw [kept, ← raised]

/-- A record that is replaced was stored before in the form in which it was found, and is
stored afterwards in the form of its draft. -/
theorem of_replaces (passes : Passes partner lets before deeds after)
    (replaces : Replaces record draft deeds) :
    (∃ version, before.store.record? record.id = some { record with version }) ∧
      ∃ version, after.store.record? record.id = some { draft with version } := by
  rcases replaces with @⟨first, rest, world, loaded, drafts, accepted, spared⟩
  rcases List.forall_mem_append.mp spared with ⟨firstSpared, restSpared⟩
  rcases passes.split with ⟨earlier, later⟩
  refine ⟨earlier.stored_of_loaded firstSpared loaded, ?_⟩
  rcases later.resaves restSpared draft.id with ⟨version, finds⟩
  rw [world.stored_of_writes partner accepted] at finds
  rw [← drafts.id_eq]
  exact ⟨_, finds⟩

end World.Passes

end StrongAuth
