import StrongAuth.Proofs.Forward

/-! # What records never change

Id, resource, kind, approach, deadlines and time of creation are settled when an authorisation
is opened. Main statement: whatever a procedure finds and others do meanwhile, what the node
permits itself leaves every record stored and these parts of it alone, also if its version
comes round to one that was read long ago. -/

namespace StrongAuth

/-! ## Stores -/

namespace MemoryStore

/-- Every record that was stored is still stored, opened as it was. -/
def KeepsOpenings (earlier later : MemoryStore) : Prop :=
  ∀ id record, earlier.record? id = some record →
    ∃ stored, later.record? id = some stored ∧ record.SameOpening stored

theorem KeepsOpenings.refl (store : MemoryStore) : KeepsOpenings store store :=
  fun _ record found => ⟨record, found, .refl record⟩

theorem KeepsOpenings.trans {first second third : MemoryStore}
    (earlier : KeepsOpenings first second) (later : KeepsOpenings second third) :
    KeepsOpenings first third := by
  intro id record found
  rcases earlier id record found with ⟨between, finds, same⟩
  rcases later id between finds with ⟨stored, kept, still⟩
  exact ⟨stored, kept, same.trans still⟩

theorem KeepsOpenings.record?_eq_none {earlier later : MemoryStore} {id : String}
    (keeps : KeepsOpenings earlier later) (unknown : later.record? id = none) :
    earlier.record? id = none := by
  cases found : earlier.record? id with
  | none => rfl
  | some record =>
      rcases keeps id record found with ⟨stored, finds, _⟩
      rw [unknown] at finds
      cases finds

theorem Resaves.keepsOpenings {earlier later : MemoryStore} (resaves : Resaves earlier later) :
    KeepsOpenings earlier later := by
  intro id record found
  rcases resaves id with ⟨version, finds⟩
  rw [found] at finds
  exact ⟨_, finds, ⟨rfl, rfl, rfl, rfl, rfl, rfl, rfl⟩⟩

end MemoryStore

/-! ## Deeds -/

/-- What was read is still stored, opened as it was. -/
def Remembered (past : List Deed) (store : MemoryStore) : Prop :=
  ∀ record, Loaded past record →
    ∃ stored, store.record? record.id = some stored ∧ record.SameOpening stored

variable {partner : Partner} {past : List Deed} {world : World MemoryStore} {effect : Effect}
  {store later : MemoryStore} {record draft : Authorisation}

namespace Remembered

theorem nil (store : MemoryStore) : Remembered [] store := by
  rintro record ⟨earlier, since, _, same, _⟩
  cases earlier <;> cases same

theorem trans (remembered : Remembered past store) (keeps : store.KeepsOpenings later) :
    Remembered past later := by
  intro record loaded
  rcases remembered record loaded with ⟨between, found, same⟩
  rcases keeps record.id between found with ⟨stored, finds, still⟩
  exact ⟨stored, finds, same.trans still⟩

theorem append (remembered : Remembered past world.store)
    (keeps : world.store.KeepsOpenings (world.perform partner effect).2.store) :
    Remembered (past ++ [⟨world, effect⟩]) (world.perform partner effect).2.store := by
  intro record loaded
  rcases loaded.of_append_singleton with ⟨before, _⟩ | ⟨reads, found⟩
  · exact remembered.trans keeps record before
  · cases reads
    exact ⟨record, found, .refl record⟩

/-- A draft of a record that was read is opened as the record in whose place it is stored. -/
theorem sameOpening (remembered : Remembered past store) (loaded : Loaded past record)
    (drafts : record.Drafts draft) {stored : Authorisation}
    (found : store.record? draft.id = some stored) : stored.SameOpening draft := by
  rcases remembered record loaded with ⟨current, finds, same⟩
  rw [← drafts.id_eq, found] at finds
  cases finds
  exact same.symm.trans drafts.sameOpening

end Remembered

namespace World

theorem keepsOpenings_save (partner : Partner) (remembered : Remembered past world.store)
    (loaded : Loaded past record) (drafts : record.Drafts draft) :
    world.store.KeepsOpenings (world.perform partner (.store (.save draft))).2.store := by
  have performs : (world.perform partner (.store (.save draft))).2.store =
    (Store.settle world.store (world.store.save draft)).2 := rfl
  rw [performs]
  cases saves : world.store.save draft with
  | error fault => exact .refl world.store
  | ok result =>
      rcases MemoryStore.save_eq_ok saves with ⟨stored, found, _, saved, replaced⟩
      have opening := remembered.sameOpening loaded drafts found
      intro id earlier finds
      change ∃ later, result.2.record? id = some later ∧ earlier.SameOpening later
      rw [replaced, saved, MemoryStore.record?_replace]
      split
      · next same =>
          have equal : earlier = stored := Option.some.inj (finds.symm.trans (same ▸ found))
          rw [finds, equal]
          exact ⟨_, rfl, opening.trans ⟨rfl, rfl, rfl, rfl, rfl, rfl, rfl⟩⟩
      · exact ⟨earlier, finds, .refl earlier⟩

theorem record?_of_insert (partner : Partner) (world : World MemoryStore)
    (record : Authorisation) {id : String} {earlier : Authorisation}
    (finds : world.store.record? id = some earlier) :
    (world.perform partner (.store (.insert record))).2.store.record? id = some earlier := by
  have performs : (world.perform partner (.store (.insert record))).2.store =
    (Store.settle world.store
      ((world.store.insert record).map fun store => ((), store))).2 := rfl
  rw [performs]
  cases inserts : world.store.insert record with
  | error fault => exact finds
  | ok inserted =>
      rcases MemoryStore.insert_eq_ok inserts with ⟨unknown, rfl⟩
      change MemoryStore.record? id
        { world.store with records := world.store.records ++ [record] } = some earlier
      rw [MemoryStore.record?_append unknown, if_neg, finds]
      rintro rfl
      rw [unknown] at finds
      cases finds

/-- What the node permits itself changes nothing that was settled at the opening. -/
theorem keepsOpenings_of_permitted (partner : Partner) (permitted : Permitted past effect)
    (remembered : Remembered past world.store) :
    world.store.KeepsOpenings (world.perform partner effect).2.store := by
  by_cases spares : Deed.spares ⟨world, effect⟩ = true
  · exact (resaves_of_spares partner world spares).keepsOpenings
  · rcases permitted with proper | ⟨resource, rfl⟩
    · cases effect with
      | store call =>
          cases call with
          | save draft =>
              rcases proper with ⟨record, loaded, drafts⟩
              exact keepsOpenings_save partner remembered loaded drafts
          | insert record =>
              exact fun id earlier found =>
                ⟨earlier, world.record?_of_insert partner record found, .refl earlier⟩
          | _ => exact absurd rfl spares
      | _ => exact absurd rfl spares
    · exact absurd rfl spares

end World

/-- Whatever a procedure is that permits itself no more, the records that it finds it leaves
behind, opened as they were. -/
theorem Procedure.Keeps.keepsOpenings_run {α : Type} {procedure : Procedure α}
    {required : List Deed → α → Prop}
    (keeps : Procedure.Keeps partner Permitted procedure past required)
    (remembered : Remembered past world.store) :
    world.store.KeepsOpenings (world.run partner procedure).2.store := by
  induction procedure generalizing past world with
  | done value => exact .refl _
  | ask effect next induction =>
      have first := world.keepsOpenings_of_permitted partner keeps.1 remembered
      exact first.trans (induction _ (keeps.2 world) (remembered.append first))

namespace Deployment

theorem keepsOpenings_perform (deployment : Deployment) (step : Step)
    (world : World MemoryStore) :
    world.store.KeepsOpenings (deployment.perform step world).2.store := by
  have keeps := (Scene.keeps_procedure deployment.partner deployment.node step).keepsOpenings_run
    (.nil world.store)
  unfold Step.procedure at keeps
  rw [World.run_bind] at keeps
  exact keeps

theorem keepsOpenings_make (deployment : Deployment) (move : Move) (world : World MemoryStore) :
    world.store.KeepsOpenings (deployment.make world move).store := by
  cases move with
  | operate step => exact deployment.keepsOpenings_perform step world
  | outside interference =>
      exact (MemoryStore.Resaves.interfere world.store interference).keepsOpenings

theorem keepsOpenings_run (deployment : Deployment) (steps : List Step)
    (world : World MemoryStore) :
    world.store.KeepsOpenings (deployment.run steps world).2.store := by
  induction steps generalizing world with
  | nil => exact .refl _
  | cons step steps induction =>
      exact (deployment.keepsOpenings_perform step world).trans (induction _)

end Deployment

end StrongAuth
