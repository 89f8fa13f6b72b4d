import Mathlib.Logic.Relation
import Mathlib.Tactic.Ring
import StrongAuth.Proofs.Conduct
import StrongAuth.Proofs.Execution

/-! # Records go forward

A node works on many requests at a time: each of them does its deeds one after the other, and
between them the others do theirs, and other users of the store theirs. Locks are not waited
for here, so that more runs are considered than can happen. Main statement: between any two
points of such a run every record goes forward only, as long as its versions do not run out,
and no request that is under way can change one whose status is terminal. -/

namespace StrongAuth

/-! ## Stores -/

/-- How many saves someone asks for. -/
def Interference.saves : Interference → Nat
  | .resave _ => 1
  | .setStatus .. => 0

namespace MemoryStore

/-- Every record that was stored is still stored, as one that it precedes. -/
def Precedes (earlier later : MemoryStore) : Prop :=
  ∀ id record, earlier.record? id = some record →
    ∃ stored, later.record? id = some stored ∧ record.Precedes stored

theorem Precedes.refl (store : MemoryStore) : Precedes store store :=
  fun _ record found => ⟨record, found, .refl record⟩

theorem Precedes.trans {first second third : MemoryStore} (earlier : Precedes first second)
    (later : Precedes second third) : Precedes first third := by
  intro id record found
  rcases earlier id record found with ⟨between, finds, forward⟩
  rcases later id between finds with ⟨stored, kept, further⟩
  exact ⟨stored, kept, forward.trans further⟩

def Shaped (store : MemoryStore) : Prop :=
  ∀ id record, store.record? id = some record → record.Shaped

theorem Resaves.shaped {earlier later : MemoryStore} (resaves : Resaves earlier later)
    (shaped : earlier.Shaped) : later.Shaped := by
  intro id record found
  rcases resaves id with ⟨version, finds⟩
  rw [found] at finds
  rcases Option.map_eq_some_iff.mp finds.symm with ⟨stored, kept, same⟩
  rw [← same]
  exact shaped id stored kept

/-! ### Versions -/

/-- A version that is raised stays in order if it does not come to its end. -/
theorem toInt_add_ofNat {version : Int64} {saves : Nat} (room : version.toInt + saves < 2 ^ 63) :
    (version + Int64.ofNat saves).toInt = version.toInt + saves := by
  have above := version.le_toInt
  have size : Int64.size = 2 ^ 64 := rfl
  rw [Int64.toInt_add, Int64.toInt_ofNat', size]
  push_cast
  rw [Int.add_bmod_bmod]
  exact Int.bmod_eq_of_le (by omega) (by omega)

/-- Versions have been counted from zero, and no further than to `saves`. -/
def Counted (saves : Nat) (store : MemoryStore) : Prop :=
  ∀ id record, store.record? id = some record →
    0 ≤ record.version.toInt ∧ record.version.toInt ≤ saves

/-- Every record is stored as it was, saved at most some times. -/
def Raises (saves : Nat) (before after : MemoryStore) : Prop :=
  ∀ id, ∃ times ≤ saves, after.record? id = (before.record? id).map fun record =>
    { record with version := record.version + Int64.ofNat times }

theorem Raises.refl (store : MemoryStore) : Raises 0 store store := by
  intro id
  refine ⟨0, Nat.le_refl _, ?_⟩
  simp

theorem Raises.mono {before after : MemoryStore} {saves others : Nat}
    (raises : Raises saves before after) (few : saves ≤ others) : Raises others before after := by
  intro id
  rcases raises id with ⟨times, within, found⟩
  exact ⟨times, Nat.le_trans within few, found⟩

theorem Raises.trans {first second third : MemoryStore} {saves others : Nat}
    (earlier : Raises saves first second) (later : Raises others second third) :
    Raises (saves + others) first third := by
  intro id
  rcases earlier id with ⟨times, few, found⟩
  rcases later id with ⟨further, alsoFew, finds⟩
  refine ⟨times + further, by omega, ?_⟩
  rw [finds, found, Option.map_map]
  simp [Function.comp_def, Int64.add_assoc]

theorem raises_interfere (store : MemoryStore) (interference : Interference) :
    Raises interference.saves store (Store.interfere store interference) := by
  intro id
  cases interference with
  | setStatus resource status =>
      rcases Raises.refl store id with ⟨times, few, found⟩
      refine ⟨times, few, ?_⟩
      unfold record? at found ⊢
      rw [records_interfere_setStatus]
      exact found
  | resave other =>
      rw [interfere_resave]
      split
      · next record found =>
          have sameId := (mem_of_record? found).2
          by_cases same : id = other
          · subst same
            refine ⟨1, Nat.le_refl 1, ?_⟩
            simp [sameId, found]
          · refine ⟨0, Nat.zero_le 1, ?_⟩
            simp [sameId, same]
      · exact (Raises.refl store).mono (Nat.zero_le 1) id

theorem raises_foldl_interfere (store : MemoryStore) (others : List Interference) :
    Raises (others.map Interference.saves).sum store (others.foldl Store.interfere store) := by
  induction others generalizing store with
  | nil => exact .refl store
  | cons first others induction =>
      rw [List.map_cons, List.sum_cons]
      exact (raises_interfere store first).trans (induction _)

section

variable {saves others : Nat} {earlier later : MemoryStore}

/-- Saves leave versions within what was counted. -/
theorem Raises.counted (raises : Raises others earlier later) (counted : earlier.Counted saves)
    (few : saves + others < 2 ^ 63) : later.Counted (saves + others) := by
  intro id record found
  rcases raises id with ⟨times, within, finds⟩
  rw [found] at finds
  rcases Option.map_eq_some_iff.mp finds.symm with ⟨stored, kept, rfl⟩
  have range := counted id stored kept
  dsimp only
  rw [toInt_add_ofNat (by omega)]
  omega

/-- A record that may be saved once more has a next version. -/
theorem Counted.room {store : MemoryStore} (counted : store.Counted saves)
    (few : saves + 1 < 2 ^ 63) {id : String} {record : Authorisation}
    (found : store.record? id = some record) : record.version ≠ Int64.maxValue := by
  have range := counted id record found
  intro top
  have greatest : Int64.maxValue.toInt = 2 ^ 63 - 1 := by decide
  rw [top, greatest] at range
  omega

theorem toInt_add_one_of_counted {version : Int64}
    (range : 0 ≤ version.toInt ∧ version.toInt ≤ saves) (few : saves + 1 < 2 ^ 63) :
    (version + 1).toInt = version.toInt + 1 :=
  toInt_add_ofNat (by push_cast; omega)

theorem lt_add_one_of_counted {version : Int64}
    (range : 0 ≤ version.toInt ∧ version.toInt ≤ saves) (few : saves + 1 < 2 ^ 63) :
    version < version + 1 := by
  rw [Int64.lt_iff_toInt_lt, toInt_add_one_of_counted range few]
  omega

theorem Raises.precedes (raises : Raises others earlier later) (counted : earlier.Counted saves)
    (few : saves + others < 2 ^ 63) : earlier.Precedes later := by
  intro id record found
  rcases raises id with ⟨times, within, finds⟩
  have range := counted id record found
  rw [found] at finds
  refine ⟨_, finds, .resaved record ?_⟩
  rw [Int64.le_iff_toInt_le, toInt_add_ofNat (by omega)]
  omega

end

end MemoryStore

/-! ## A single deed -/

/-- What is stored in the version that was read is what was read. -/
def AsRead (past : List Deed) (store : MemoryStore) : Prop :=
  ∀ record stored, Loaded past record → store.record? record.id = some stored →
    stored.version = record.version → stored = record

/-- What the operations of the node permit themselves. -/
def Permitted (past : List Deed) (effect : Effect) : Prop :=
  Proper past effect ∨ ∃ resource, effect = .store (.register resource)

theorem Procedure.Keeps.permitted {α : Type} {partner : Partner} {procedure : Procedure α}
    {past : List Deed} {required : List Deed → α → Prop}
    (keeps : Procedure.Keeps partner Proper procedure past required) :
    Procedure.Keeps partner Permitted procedure past required :=
  keeps.mono (fun _ _ => .inl) fun _ _ => id

variable {partner : Partner} {past : List Deed} {world : World MemoryStore} {effect : Effect}
  {store later : MemoryStore} {record draft saved stored : Authorisation} {id : String}

/-- A save is accepted only if the record is stored as it was read. -/
theorem AsRead.stored_of_save (asRead : AsRead past store) (loaded : Loaded past record)
    (drafts : record.Drafts draft) (saves : store.save draft = .ok (saved, later)) :
    store.record? draft.id = some record ∧
      saved = { draft with version := draft.version + 1 } ∧ later = store.replace saved := by
  rcases MemoryStore.save_eq_ok saves with ⟨stored, found, sameVersion, rfl, rfl⟩
  rw [drafts.id_eq] at found
  have unchanged := asRead record stored loaded found (sameVersion.trans drafts.version_eq)
  rw [drafts.id_eq, found, unchanged]
  exact ⟨rfl, rfl, rfl⟩

/-- As long as a procedure is at work alone, others save its records at most as they are. -/
theorem World.Passes.asRead {lets : Interference → Prop} {start : World MemoryStore}
    (passes : World.Passes partner lets start past world) : AsRead past world.store := by
  intro record stored loaded found sameVersion
  rcases passes.still_stored loaded with ⟨version, finds⟩
  rw [found] at finds
  cases finds
  cases sameVersion
  rfl

def World.meanwhile (partner : Partner) (world : World MemoryStore) : Effect → MemoryStore
  | .bank call => (partner.bank world.exchanges call).interference.foldl Store.interfere world.store
  | _ => world.store

def World.saves (partner : Partner) (world : World MemoryStore) : Effect → Nat
  | .bank call => ((partner.bank world.exchanges call).interference.map Interference.saves).sum
  | .store (.save _) => 1
  | _ => 0

theorem World.raises_meanwhile (partner : Partner) (world : World MemoryStore)
    (effect : Effect) : world.store.Raises (world.saves partner effect)
      (world.meanwhile partner effect) := by
  cases effect with
  | bank call => exact world.store.raises_foldl_interfere _
  | _ => exact (MemoryStore.Raises.refl world.store).mono (Nat.zero_le _)

theorem World.resaves_meanwhile (partner : Partner) (world : World MemoryStore)
    (effect : Effect) : world.store.Resaves (world.meanwhile partner effect) := by
  cases effect with
  | bank call => exact .foldl_interfere world.store _
  | _ => exact .of_record?_eq fun _ => rfl

/-- What a permitted deed does to the store. -/
inductive Turn (partner : Partner) (past : List Deed) (world : World MemoryStore) :
    Effect → MemoryStore → Prop
  | idle (effect : Effect) : Turn partner past world effect (world.meanwhile partner effect)
  | replaced (record draft : Authorisation) (loaded : Loaded past record)
      (drafts : record.Drafts draft) (found : world.store.record? draft.id = some record) :
      Turn partner past world (.store (.save draft))
        (world.store.replace { draft with version := draft.version + 1 })
  | opened (record : Authorisation) (opens : Opens past record)
      (unknown : world.store.record? record.id = none) :
      Turn partner past world (.store (.insert record))
        { world.store with records := world.store.records ++ [record] }
  | derived (parent : String) (status : ParentStatus) (resource : Resource)
      (derives : Derives past parent status)
      (found : world.store.resource? parent = some resource) :
      Turn partner past world (.store (.setParentStatus parent status))
        (world.store.replaceResource { resource with status })
  | registered (resource : Resource) : Turn partner past world (.store (.register resource))
      (world.store.register resource)

namespace World

theorem turn_save (partner : Partner) (asRead : AsRead past world.store)
    (loaded : Loaded past record) (drafts : record.Drafts draft) :
    Turn partner past world (.store (.save draft))
      (world.perform partner (.store (.save draft))).2.store := by
  have performs : (world.perform partner (.store (.save draft))).2.store =
    (Store.settle world.store (world.store.save draft)).2 := rfl
  rw [performs]
  cases saves : world.store.save draft with
  | error fault => exact .idle (.store (.save draft))
  | ok result =>
      rcases asRead.stored_of_save loaded drafts saves with ⟨found, same, replaced⟩
      change Turn partner past world _ result.2
      rw [replaced, same]
      exact .replaced record draft loaded drafts found

theorem turn_insert (partner : Partner) (world : World MemoryStore) (opens : Opens past record) :
    Turn partner past world (.store (.insert record))
      (world.perform partner (.store (.insert record))).2.store := by
  have performs : (world.perform partner (.store (.insert record))).2.store =
    (Store.settle world.store
      ((world.store.insert record).map fun store => ((), store))).2 := rfl
  rw [performs]
  cases inserts : world.store.insert record with
  | error fault => exact .idle (.store (.insert record))
  | ok inserted =>
      rcases MemoryStore.insert_eq_ok inserts with ⟨unknown, rfl⟩
      exact .opened record opens unknown

theorem turn_setParentStatus (partner : Partner) (world : World MemoryStore) {parent : String}
    {status : ParentStatus} (derives : Derives past parent status) :
    Turn partner past world (.store (.setParentStatus parent status))
      (world.perform partner (.store (.setParentStatus parent status))).2.store := by
  let call : StoreCall := .setParentStatus parent status
  have performs : (world.perform partner (.store call)).2.store =
    (Store.settle world.store
      ((world.store.setParentStatus parent status).map fun store => ((), store))).2 := rfl
  rw [performs]
  unfold MemoryStore.setParentStatus
  cases found : world.store.resource? parent with
  | none => exact .idle (.store call)
  | some resource => exact .derived parent status resource derives found

theorem turn_of_permitted (partner : Partner) (permitted : Permitted past effect)
    (asRead : AsRead past world.store) :
    Turn partner past world effect (world.perform partner effect).2.store := by
  rcases permitted with proper | ⟨resource, rfl⟩
  · cases effect with
    | bank call => exact .idle (.bank call)
    | store call =>
        cases call with
        | save draft =>
            rcases proper with ⟨record, loaded, drafts⟩
            exact turn_save partner asRead loaded drafts
        | insert record => exact turn_insert partner world proper
        | setParentStatus parent status => exact turn_setParentStatus partner world proper
        | register resource => exact proper.elim
        | get id => exact .idle (.store (.get id))
        | listByParent parent => exact .idle (.store (.listByParent parent))
        | listExpired now => exact .idle (.store (.listExpired now))
        | resource id => exact .idle (.store (.resource id))
    | publish event => exact .idle (.publish event)
    | obtain id => exact .idle (.obtain id)
    | take lock => exact .idle (.take lock)
    | free lock => exact .idle (.free lock)
    | giveBack id lock => exact .idle (.giveBack id lock)
  · exact .registered resource

end World

namespace Turn

theorem precedes (turn : Turn partner past world effect later) (shaped : world.store.Shaped)
    {saves : Nat} (counted : world.store.Counted saves)
    (few : saves + world.saves partner effect < 2 ^ 63) : world.store.Precedes later := by
  cases turn with
  | idle => exact (world.raises_meanwhile partner effect).precedes counted few
  | replaced record draft loaded drafts found =>
      intro id earlier finds
      rw [MemoryStore.record?_replace]
      dsimp only
      split
      · next same =>
          rw [same, found] at finds
          cases finds
          refine ⟨_, by rw [same, found]; rfl, drafts.precedes (shaped _ _ found) ?_⟩
          have range := counted _ _ found
          exact MemoryStore.lt_add_one_of_counted (drafts.version_eq ▸ range) few
      · exact ⟨earlier, finds, .refl earlier⟩
  | opened record opens unknown =>
      intro id earlier finds
      rw [MemoryStore.record?_append unknown]
      split
      · next same =>
          rw [same, unknown] at finds
          cases finds
      · exact ⟨earlier, finds, .refl earlier⟩
  | derived => exact .refl _
  | registered resource =>
      intro id earlier finds
      refine ⟨earlier, ?_, .refl earlier⟩
      unfold MemoryStore.record?
      rw [MemoryStore.records_register]
      exact finds

theorem shaped (turn : Turn partner past world effect later) (shaped : world.store.Shaped) :
    later.Shaped := by
  cases turn with
  | idle => exact (world.resaves_meanwhile partner effect).shaped shaped
  | replaced record draft loaded drafts found =>
      intro id stored finds
      rw [MemoryStore.record?_replace] at finds
      split at finds
      · rcases Option.map_eq_some_iff.mp finds with ⟨_, _, rfl⟩
        exact drafts.chooses.shaped (shaped _ _ found)
      · exact shaped id stored finds
  | opened record opens unknown =>
      intro id stored finds
      rw [MemoryStore.record?_append unknown] at finds
      split at finds
      · cases finds
        exact opens.shaped
      · exact shaped id stored finds
  | derived => exact shaped
  | registered resource =>
      intro id stored finds
      unfold MemoryStore.record? at finds
      rw [MemoryStore.records_register] at finds
      exact shaped id stored finds

theorem counted (turn : Turn partner past world effect later) {saves : Nat}
    (counted : world.store.Counted saves) (few : saves + world.saves partner effect < 2 ^ 63) :
    later.Counted (saves + world.saves partner effect) := by
  cases turn with
  | idle => exact (world.raises_meanwhile partner effect).counted counted few
  | replaced record draft loaded drafts found =>
      intro id stored finds
      rw [MemoryStore.record?_replace] at finds
      split at finds
      · rcases Option.map_eq_some_iff.mp finds with ⟨_, _, rfl⟩
        have range := counted _ _ found
        have raised := MemoryStore.toInt_add_one_of_counted range few
        dsimp only
        rw [drafts.version_eq, raised]
        exact ⟨by omega, by push_cast; exact Int.add_le_add_right range.2 1⟩
      · have range := counted id stored finds
        exact ⟨range.1, by omega⟩
  | opened record opens unknown =>
      intro id stored finds
      rw [MemoryStore.record?_append unknown] at finds
      split at finds
      · cases finds
        rw [opens.version]
        exact ⟨Int.le_refl 0, Int.natCast_nonneg _⟩
      · exact counted id stored finds
  | derived => exact counted
  | registered resource =>
      intro id stored finds
      unfold MemoryStore.record? at finds
      rw [MemoryStore.records_register] at finds
      exact counted id stored finds

theorem record?_of_terminal (turn : Turn partner past world effect later)
    (found : world.store.record? id = some stored)
    (terminal : stored.status.isTerminal = true) :
    later.record? id = (world.meanwhile partner effect).record? id := by
  cases turn with
  | idle | derived => rfl
  | replaced record draft loaded drafts finds =>
      rw [MemoryStore.record?_replace]
      split
      · next same =>
          rw [same, finds] at found
          cases found
          rw [drafts.live] at terminal
          cases terminal
      · rfl
  | opened record opens unknown =>
      rw [MemoryStore.record?_append unknown]
      split
      · next same =>
          rw [same, unknown] at found
          cases found
      · rfl
  | registered resource =>
      unfold MemoryStore.record?
      rw [MemoryStore.records_register]
      rfl

end Turn

/-! ## What others may have changed -/

/-- What was read is still stored, as something that it precedes. -/
def Known (past : List Deed) (store : MemoryStore) : Prop :=
  ∀ record, Loaded past record →
    ∃ stored, store.record? record.id = some stored ∧ record.Precedes stored

namespace Known

theorem nil (store : MemoryStore) : Known [] store := by
  rintro record ⟨earlier, since, _, same, _⟩
  cases earlier <;> cases same

theorem trans (known : Known past store) (forward : store.Precedes later) :
    Known past later := by
  intro record loaded
  rcases known record loaded with ⟨between, found, precedes⟩
  rcases forward record.id between found with ⟨stored, finds, further⟩
  exact ⟨stored, finds, precedes.trans further⟩

/-- What was read before and during a deed is known after it. -/
theorem append (known : Known past world.store)
    (forward : world.store.Precedes (world.perform partner effect).2.store) :
    Known (past ++ [⟨world, effect⟩]) (world.perform partner effect).2.store := by
  intro record loaded
  rcases loaded.of_append_singleton with ⟨before, _⟩ | ⟨reads, found⟩
  · exact known.trans forward record before
  · cases reads
    exact ⟨record, found, .refl record⟩

theorem asRead (known : Known past store) : AsRead past store := by
  intro record stored loaded found sameVersion
  rcases known record loaded with ⟨current, finds, precedes⟩
  rw [found] at finds
  cases finds
  exact precedes.unique sameVersion

end Known

/-! ## Requests side by side -/

/-- What a node does for a step, without the answer. -/
def Step.procedure (node : Node) (step : Step) : Procedure Unit := do
  let _ ← (step.operation.action node step.now).run
  return ()

/-- A world, and what is left to do of the requests that are under way. -/
structure Scene where
  world : World MemoryStore
  pending : List (Procedure Unit)
  /-- How many saves the store was asked for so far, by whomever. -/
  saves : Nat

namespace Scene

def start : Scene := ⟨.fresh .empty, [], 0⟩

/-- What can happen next: a request comes in, one that is under way does its next deed, or
someone else uses the store. -/
inductive Next (deployment : Deployment) : Scene → Scene → Prop
  | begins (world : World MemoryStore) (pending : List (Procedure Unit)) (saves : Nat)
      (step : Step) :
      Next deployment ⟨world, pending, saves⟩
        ⟨world, pending ++ [step.procedure deployment.node], saves⟩
  | acts (world : World MemoryStore) (earlier others : List (Procedure Unit)) (saves : Nat)
      (effect : Effect) (next : effect.Answer → Procedure Unit) :
      Next deployment ⟨world, earlier ++ .ask effect next :: others, saves⟩
        ⟨(world.perform deployment.partner effect).2,
          earlier ++ next (world.perform deployment.partner effect).1 :: others,
          saves + world.saves deployment.partner effect⟩
  | disturbed (world : World MemoryStore) (pending : List (Procedure Unit)) (saves : Nat)
      (interference : Interference) :
      Next deployment ⟨world, pending, saves⟩
        ⟨{ world with store := Store.interfere world.store interference }, pending,
          saves + interference.saves⟩

/-- What can happen in the course of time. -/
def Leads (deployment : Deployment) : Scene → Scene → Prop :=
  Relation.ReflTransGen (Next deployment)

/-- Every request under way keeps to the rules, and what it has read is known. -/
structure Sound (deployment : Deployment) (scene : Scene) : Prop where
  shaped : scene.world.store.Shaped
  counted : scene.world.store.Counted scene.saves
  conduct : ∀ procedure ∈ scene.pending, ∃ past,
    Procedure.Keeps deployment.partner Permitted procedure past (fun _ _ => True) ∧
      Known past scene.world.store

variable {deployment : Deployment} {first second : Scene}

theorem keeps_procedure (partner : Partner) (node : Node) (step : Step) :
    Procedure.Keeps partner Permitted (step.procedure node) [] (fun _ _ => True) := by
  rcases step with ⟨operation, now⟩
  unfold Step.procedure
  rw [Procedure.keeps_bind]
  by_cases registers : ∃ resource, operation = .register resource
  · rcases registers with ⟨resource, rfl⟩
    have registers : Action.Keeps partner Permitted (Node.register resource) []
        (fun _ _ => True) (fun _ _ => True) :=
      Action.keeps_call.mpr ⟨.inr ⟨resource, rfl⟩, fun _ _ _ => trivial⟩
    exact Procedure.Keeps.mono registers (fun _ _ => id) fun _ _ _ => trivial
  · have operates := @Node.behaves_operation partner node now operation
      fun resource same => registers ⟨resource, same⟩
    exact Procedure.Keeps.mono operates (fun _ _ => .inl) fun _ _ _ => trivial

theorem sound_start : Sound deployment start where
  shaped _ _ := nofun
  counted _ _ := nofun
  conduct _ := nofun

theorem Sound.waits (sound : Sound deployment first) {store : MemoryStore}
    (forward : first.world.store.Precedes store) {procedure : Procedure Unit}
    (member : procedure ∈ first.pending) : ∃ past,
    Procedure.Keeps deployment.partner Permitted procedure past (fun _ _ => True) ∧
      Known past store := by
  rcases sound.conduct procedure member with ⟨past, keeps, known⟩
  exact ⟨past, keeps, known.trans forward⟩

theorem Next.saves_le (next : Next deployment first second) : first.saves ≤ second.saves := by
  cases next with
  | begins => exact Nat.le_refl _
  | acts | disturbed => exact Nat.le_add_right _ _

theorem Leads.saves_le (leads : Leads deployment first second) : first.saves ≤ second.saves := by
  induction leads with
  | refl => exact Nat.le_refl _
  | tail _ next induction => exact Nat.le_trans induction next.saves_le

theorem Next.precedes (next : Next deployment first second) (few : second.saves < 2 ^ 63)
    (sound : Sound deployment first) :
    first.world.store.Precedes second.world.store ∧ Sound deployment second := by
  cases next with
  | begins world pending saves step =>
      refine ⟨.refl _, sound.shaped, sound.counted, ?_⟩
      intro procedure member
      rcases List.mem_append.mp member with earlier | now
      · exact sound.conduct procedure earlier
      · rw [List.mem_singleton.mp now]
        exact ⟨[], keeps_procedure _ _ step, .nil _⟩
  | acts world earlier others saves effect next =>
      rcases sound.conduct _ (List.mem_append_right _ List.mem_cons_self)
        with ⟨past, ⟨permitted, keeps⟩, known⟩
      have turn := world.turn_of_permitted deployment.partner permitted known.asRead
      have forward := turn.precedes sound.shaped sound.counted few
      refine ⟨forward, turn.shaped sound.shaped, turn.counted sound.counted few, ?_⟩
      intro procedure member
      rcases List.mem_append.mp member with before | member
      · exact sound.waits forward (List.mem_append_left _ before)
      · rcases List.mem_cons.mp member with rfl | after
        · exact ⟨_, keeps world, known.append forward⟩
        · apply sound.waits forward
          exact List.mem_append_right earlier (List.mem_cons_of_mem (.ask effect next) after)
  | disturbed world pending saves interference =>
      have resaves := MemoryStore.Resaves.interfere world.store interference
      have raises := MemoryStore.raises_interfere world.store interference
      have forward := raises.precedes sound.counted few
      refine ⟨forward, resaves.shaped sound.shaped, raises.counted sound.counted few, ?_⟩
      intro procedure member
      exact sound.waits forward member

theorem Leads.precedes (leads : Leads deployment first second) (few : second.saves < 2 ^ 63)
    (sound : Sound deployment first) :
    first.world.store.Precedes second.world.store ∧ Sound deployment second := by
  induction leads with
  | refl => exact ⟨.refl _, sound⟩
  | tail _ next induction =>
      rcases induction (Nat.lt_of_le_of_lt next.saves_le few) with ⟨earlier, between⟩
      rcases next.precedes few between with ⟨forward, sound⟩
      exact ⟨earlier.trans forward, sound⟩

/-- Between any two points of a run every record goes forward only, unless so many saves were
asked for that versions of sixty-four bits run out. Once its status is terminal, whatever deed
comes next leaves it as others make it meanwhile. -/
theorem records_precede (deployment : Deployment) {first second : Scene}
    (reached : Leads deployment start first) (leads : Leads deployment first second)
    (few : second.saves < 2 ^ 63) {id : String} {record : Authorisation}
    (found : first.world.store.record? id = some record) :
    ∃ later, second.world.store.record? id = some later ∧ record.Precedes later ∧
      (later.status.isTerminal = true → ∀ effect next, .ask effect next ∈ second.pending →
        (second.world.perform deployment.partner effect).2.store.record? id =
          (second.world.meanwhile deployment.partner effect).record? id) := by
  have sound := (reached.precedes (Nat.lt_of_le_of_lt leads.saves_le few) sound_start).2
  rcases leads.precedes few sound with ⟨forward, soundLater⟩
  rcases forward id record found with ⟨later, finds, precedes⟩
  refine ⟨later, finds, precedes, ?_⟩
  intro terminal effect next member
  rcases soundLater.conduct _ member with ⟨past, ⟨permitted, _⟩, known⟩
  have turn := second.world.turn_of_permitted deployment.partner permitted known.asRead
  exact turn.record?_of_terminal finds terminal

/-! ## One request at a time -/

end Scene

/-- How many saves the store is asked for while a procedure is at work alone. -/
def World.savesDuring {α : Type} (partner : Partner) (world : World MemoryStore)
    (procedure : Procedure α) : Nat :=
  ((world.deeds partner procedure).map fun deed => deed.world.saves partner deed.effect).sum

theorem World.savesDuring_ask {α : Type} (partner : Partner) (world : World MemoryStore)
    (effect : Effect) (next : effect.Answer → Procedure α) :
    world.savesDuring partner (.ask effect next) = world.saves partner effect +
      (world.perform partner effect).2.savesDuring partner
        (next (world.perform partner effect).1) :=
  rfl

/-- How many saves the store is asked for during some moves. -/
def Deployment.saves (deployment : Deployment) : List Move → World MemoryStore → Nat
  | [], _ => 0
  | move :: moves, world =>
      (match move with
        | .outside interference => interference.saves
        | .operate step =>
            world.savesDuring deployment.partner (step.procedure deployment.node)) +
        deployment.saves moves (deployment.make world move)

namespace Scene

theorem leads_run (deployment : Deployment) (procedure : Procedure Unit)
    (world : World MemoryStore) (earlier : List (Procedure Unit)) (saves : Nat) :
    Leads deployment ⟨world, earlier ++ [procedure], saves⟩
      ⟨(world.run deployment.partner procedure).2, earlier ++ [.done ()],
        saves + world.savesDuring deployment.partner procedure⟩ := by
  induction procedure generalizing world saves with
  | done value => exact .refl
  | ask effect next induction =>
      refine .head (.acts world earlier [] saves effect next) ?_
      rw [World.savesDuring_ask, ← Nat.add_assoc]
      exact induction _ _ _

theorem leads_play (deployment : Deployment) (moves : List Move) (world : World MemoryStore)
    (pending : List (Procedure Unit)) (saves : Nat) : ∃ waiting,
    Leads deployment ⟨world, pending, saves⟩
      ⟨deployment.play moves world, waiting, saves + deployment.saves moves world⟩ := by
  induction moves generalizing world pending saves with
  | nil => exact ⟨pending, .refl⟩
  | cons move moves induction =>
      cases move with
      | outside interference =>
          rcases induction (deployment.make world (.outside interference)) pending
            (saves + interference.saves) with ⟨waiting, leads⟩
          rw [Nat.add_assoc] at leads
          exact ⟨waiting, .head (.disturbed world pending saves interference) leads⟩
      | operate step =>
          have runs := leads_run deployment (step.procedure deployment.node) world pending saves
          have ends : (world.run deployment.partner (step.procedure deployment.node)).2 =
              (deployment.perform step world).2 := by
            unfold Step.procedure
            rw [World.run_bind]
            rfl
          rw [ends] at runs
          rcases induction (deployment.perform step world).2 (pending ++ [.done ()])
            (saves + world.savesDuring deployment.partner (step.procedure deployment.node))
            with ⟨waiting, leads⟩
          rw [Nat.add_assoc] at leads
          exact ⟨waiting, .head (.begins world pending saves step) (runs.trans leads)⟩

/-- An authorisation that was started goes on until the payment is executed. -/
theorem started_precedes_executed :
    let deployment := Deployment.simulated .standard
    let started := deployment.play (embeddedMoves.take 2) (.fresh .empty)
    let executed := deployment.play (embeddedMoves.drop 2) started
    ∃ record later, started.store.record? "first" = some record ∧
      executed.store.record? "first" = some later ∧ record.Precedes later ∧
      record.status = .received ∧ later.status = .finalised := by
  intro deployment started executed
  have received : (started.store.record? "first").map (·.status) = some .received := by
    decide +kernel
  have finalised : (executed.store.record? "first").map (·.status) = some .finalised := by
    decide +kernel
  rcases Option.map_eq_some_iff.mp received with ⟨record, found, status⟩
  rcases leads_play deployment (embeddedMoves.take 2) (.fresh .empty) [] 0
    with ⟨waiting, reached⟩
  rcases leads_play deployment (embeddedMoves.drop 2) started waiting _
    with ⟨_, leads⟩
  have few : 0 + deployment.saves (embeddedMoves.take 2) (.fresh .empty) +
      deployment.saves (embeddedMoves.drop 2) started < 2 ^ 63 := by decide +kernel
  rcases records_precede deployment reached leads few found with ⟨later, finds, precedes, _⟩
  change executed.store.record? "first" = some later at finds
  rw [finds] at finalised
  exact ⟨record, later, found, finds, precedes, status, Option.some.inj finalised⟩

end Scene

end StrongAuth
