import StrongAuth.Proofs.Phases

/-! # Who has which lock

The table of locks, seen together with the phases of all requests: every handle belongs to a
request and every lock that is taken to one behind it, and the lock of a request is the one
that the table has for the authorisation. An entry goes with the last handle only, so that no
request is left with a lock that others do not find. Main statement: at most one request is
behind the lock of an authorisation. -/

namespace StrongAuth

namespace Phase

def hasHandle (lock : Nat) : Phase → Bool
  | .away => false
  | .waiting _ other | .inside _ other _ | .leaving _ other => other == lock

def hasTaken (lock : Nat) : Phase → Bool
  | .inside _ other _ => other == lock
  | _ => false

def isInside (id : String) : Phase → Bool
  | .inside other _ _ => other == id
  | _ => false

/-- The lock of the request is the one that the table has. -/
def Listed (table : List (String × Nat)) : Phase → Prop
  | .away => True
  | .waiting id lock | .inside id lock _ | .leaving id lock => table.lookup id = some lock

/-- What becomes of the table matters only for the lock of which the request has a handle. -/
theorem Listed.mono {table later : List (String × Nat)} {phase : Phase}
    (listed : phase.Listed table)
    (keeps : ∀ id lock, phase.hasHandle lock = true → table.lookup id = some lock →
      later.lookup id = some lock) : phase.Listed later := by
  cases phase with
  | away => trivial
  | waiting id lock | inside id lock | leaving id lock =>
      exact keeps id lock (beq_self_eq_true lock) listed

theorem isInside_iff {id : String} {phase : Phase} :
    phase.isInside id = true ↔ ∃ lock progress, phase = .inside id lock progress := by
  cases phase <;> simp [isInside]

end Phase

/-- What may become of the world through an effect. A lock is taken only when it is free. Its
handle is looked at before it is dropped, so that an entry may stay without any. -/
inductive Outcome (partner : Partner) (world : World MemoryStore) :
    Effect → World MemoryStore → Prop
  | performed (effect : Effect)
      (ready : ∀ lock, effect = .take lock → world.locks.isFree lock = true) :
      Outcome partner world effect (world.perform partner effect).2
  | left (id : String) (lock : Nat) : Outcome partner world (.giveBack id lock)
      { world with locks := { world.locks with handles := world.locks.handles.erase lock } }

/-- How locks and the phase of one request change together. -/
inductive Shift (locks : Locks) : Phase → Phase → Locks → Prop
  | away : Shift locks .away .away locks
  | inside (id : String) (lock : Nat) (progress later : Progress) :
      Shift locks (.inside id lock progress) (.inside id lock later) locks
  | obtains (id : String) :
      Shift locks .away (.waiting id (locks.obtain id).1) (locks.obtain id).2
  | takes (id : String) (lock : Nat) (free : locks.isFree lock = true) :
      Shift locks (.waiting id lock) (.inside id lock (.reading none)) (locks.take lock)
  | frees (id : String) (lock : Nat) (progress : Progress) :
      Shift locks (.inside id lock progress) (.leaving id lock) (locks.free lock)
  | givesBack (id : String) (lock : Nat) :
      Shift locks (.leaving id lock) .away (locks.giveBack id lock)
  | leaves (id : String) (lock : Nat) :
      Shift locks (.leaving id lock) .away { locks with handles := locks.handles.erase lock }

theorem Phase.Permits.shift {partner : Partner} {creates : Bool} {phase : Phase}
    {world after : World MemoryStore} {effect : Effect} (permits : phase.Permits creates effect)
    (outcome : Outcome partner world effect after) :
    Shift world.locks phase (phase.after ⟨world, effect⟩) after.locks := by
  cases phase with
  | away =>
      cases outcome with
      | left id lock => cases permits
      | performed effect ready =>
          cases effect with
          | obtain id => exact .obtains id
          | take lock | free lock | giveBack id lock => cases permits
          | store call | bank call | publish event => exact .away
  | waiting id lock =>
      cases permits
      cases outcome with
      | performed effect ready => exact .takes id lock (ready lock rfl)
  | inside id lock progress =>
      cases outcome with
      | left id lock => cases progress <;> cases permits
      | performed effect ready =>
          cases effect with
          | free other =>
              rcases permits with ⟨rfl, _⟩
              exact .frees id other progress
          | obtain other | take other | giveBack other lock => cases progress <;> cases permits
          | store call | bank call | publish event => exact .inside id lock progress _
  | leaving id lock =>
      cases permits
      cases outcome with
      | performed effect ready => exact .givesBack id lock
      | left id lock => exact .leaves id lock

theorem lookup_filter_of_ne {table : List (String × Nat)} {id other : String} {lock found : Nat}
    (listed : table.lookup other = some found) (different : other = id → found ≠ lock) :
    (table.filter fun entry => !(entry.1 == id && entry.2 == lock)).lookup other =
      some found := by
  induction table with
  | nil => cases listed
  | cons entry table induction =>
      rcases entry with ⟨key, value⟩
      by_cases same : other = key
      · subst same
        have equal : value = found := by simpa [List.lookup_cons] using listed
        have kept : (!(other == id && value == lock)) = true := by
          rw [equal]
          by_cases sameId : other = id
          · simp [different sameId]
          · simp [sameId]
        rw [List.filter_cons, if_pos kept, List.lookup_cons, beq_self_eq_true, equal]
      · have unlike : (other == key) = false := by simpa using same
        rw [List.lookup_cons, unlike] at listed
        rw [List.filter_cons]
        split
        · rw [List.lookup_cons, unlike]
          exact induction listed
        · exact induction listed

namespace Locks

/-- The locks serve requests in some phases. -/
structure Serves (locks : Locks) (phases : List Phase) : Prop where
  handed : ∀ lock, locks.handles.count lock = phases.countP (·.hasHandle lock)
  taken : ∀ lock, locks.taken.count lock = phases.countP (·.hasTaken lock)
  once : ∀ lock, locks.taken.count lock ≤ 1
  listed : ∀ phase ∈ phases, phase.Listed locks.table

/-- No request has a lock. -/
structure Unused (locks : Locks) : Prop where
  handles : locks.handles = []
  taken : locks.taken = []

theorem Unused.serves {locks : Locks} (unused : locks.Unused) : locks.Serves [] where
  handed lock := by rw [unused.handles]; rfl
  taken lock := by rw [unused.taken]; rfl
  once lock := by rw [unused.taken]; exact Nat.zero_le 1
  listed := List.forall_mem_nil _

namespace Serves

variable {locks shifted : Locks} {phase later : Phase} {phases others : List Phase}

theorem perm (serves : locks.Serves phases) (same : phases.Perm others) :
    locks.Serves others where
  handed lock := by rw [serves.handed, same.countP_eq]
  taken lock := by rw [serves.taken, same.countP_eq]
  once := serves.once
  listed phase member := serves.listed phase (same.mem_iff.mpr member)

theorem listed_cons (serves : locks.Serves (phase :: others)) :
    phase.Listed locks.table ∧ ∀ other ∈ others, other.Listed locks.table :=
  List.forall_mem_cons.mp serves.listed

/-- Whoever has no handle yet can come in at any time. -/
theorem cons_away (serves : locks.Serves phases) : locks.Serves (.away :: phases) where
  handed lock := by rw [serves.handed, List.countP_cons_of_neg Bool.false_ne_true]
  taken lock := by rw [serves.taken, List.countP_cons_of_neg Bool.false_ne_true]
  once := serves.once
  listed := List.forall_mem_cons.mpr ⟨trivial, serves.listed⟩

theorem isInside_le_one (serves : locks.Serves phases) (id : String) :
    phases.countP (·.isInside id) ≤ 1 := by
  have finds {phase : Phase} (member : phase ∈ phases) (inside : phase.isInside id = true) :
      ∃ lock progress, phase = .inside id lock progress ∧
        locks.table.lookup id = some lock := by
    rcases Phase.isInside_iff.mp inside with ⟨lock, progress, rfl⟩
    exact ⟨lock, progress, rfl, serves.listed _ member⟩
  cases found : locks.table.lookup id with
  | none =>
      have nobody : phases.countP (·.isInside id) = 0 := by
        rw [List.countP_eq_zero]
        intro phase member inside
        rcases finds member inside with ⟨lock, progress, _, listed⟩
        rw [found] at listed
        cases listed
      omega
  | some lock =>
      have fewer : phases.countP (·.isInside id) ≤ phases.countP (·.hasTaken lock) := by
        apply List.countP_mono_left
        intro phase member inside
        rcases finds member inside with ⟨other, progress, rfl, listed⟩
        rw [found] at listed
        cases listed
        simp [Phase.hasTaken]
      rw [← serves.taken] at fewer
      exact Nat.le_trans fewer (serves.once lock)

theorem apart (serves : locks.Serves (phase :: others)) {other : Phase}
    (member : other ∈ others) {id : String} (inside : other.isInside id = true) :
    phase.isInside id = false := by
  rw [Bool.eq_false_iff]
  intro alsoInside
  have some := List.countP_pos_iff.mpr ⟨other, member, inside⟩
  have most := serves.isInside_le_one id
  rw [List.countP_cons_of_pos alsoInside] at most
  omega

theorem obtain (serves : locks.Serves (.away :: others)) (id : String) :
    (locks.obtain id).2.Serves (.waiting id (locks.obtain id).1 :: others) := by
  have handed (lock other : Nat) : (lock :: locks.handles).count other =
      (Phase.waiting id lock :: others).countP (·.hasHandle other) := by
    have before := serves.handed other
    simp only [List.countP_cons, Phase.hasHandle, List.count_cons] at before ⊢
    simpa using before
  have taken (lock other : Nat) : locks.taken.count other =
      (Phase.waiting id lock :: others).countP (·.hasTaken other) := serves.taken other
  unfold Locks.obtain
  cases found : locks.table.lookup id with
  | some lock =>
      exact ⟨handed lock, taken lock, serves.once,
        List.forall_mem_cons.mpr ⟨found, serves.listed_cons.2⟩⟩
  | none =>
      refine ⟨handed _, taken _, serves.once, List.forall_mem_cons.mpr ⟨?_, ?_⟩⟩
      · simp [Phase.Listed]
      · intro phase member
        apply (serves.listed_cons.2 phase member).mono
        intro other lock _ listed
        have different : (other == id) = false := by
          rw [beq_eq_false_iff_ne]
          rintro rfl
          rw [found] at listed
          cases listed
        rw [List.lookup_cons, different]
        exact listed

theorem take {id : String} {lock : Nat} (serves : locks.Serves (.waiting id lock :: others))
    (free : locks.isFree lock = true) :
    (locks.take lock).Serves (.inside id lock (.reading Option.none) :: others) := by
  have unused : locks.taken.count lock = 0 := by
    rw [List.count_eq_zero]
    simpa [isFree] using free
  refine ⟨serves.handed, ?_, ?_, ?_⟩
  · intro other
    have before := serves.taken other
    simp only [Locks.take, List.countP_cons, Phase.hasTaken, List.count_cons] at before ⊢
    simpa using before
  · intro other
    have before := serves.once other
    simp only [Locks.take, List.count_cons]
    split
    · next same =>
        rw [beq_iff_eq] at same
        subst same
        omega
    · omega
  · exact List.forall_mem_cons.mpr ⟨serves.listed_cons.1, serves.listed_cons.2⟩

theorem free {id : String} {lock : Nat} {progress : Progress}
    (serves : locks.Serves (.inside id lock progress :: others)) :
    (locks.free lock).Serves (.leaving id lock :: others) := by
  refine ⟨serves.handed, ?_, ?_, ?_⟩
  · intro other
    have before := serves.taken other
    simp only [Locks.free, List.countP_cons, Phase.hasTaken, List.count_erase] at before ⊢
    simp [before]
  · intro other
    exact Nat.le_trans (List.erase_sublist.count_le other) (serves.once other)
  · exact List.forall_mem_cons.mpr ⟨serves.listed_cons.1, serves.listed_cons.2⟩

theorem leave {id : String} {lock : Nat} (serves : locks.Serves (.leaving id lock :: others)) :
    Serves { locks with handles := locks.handles.erase lock } (.away :: others) := by
  refine ⟨?_, serves.taken, serves.once, ?_⟩
  · intro other
    have before := serves.handed other
    simp only [List.countP_cons, Phase.hasHandle, List.count_erase] at before ⊢
    simp [before]
  · exact List.forall_mem_cons.mpr ⟨trivial, serves.listed_cons.2⟩

theorem giveBack {id : String} {lock : Nat}
    (serves : locks.Serves (.leaving id lock :: others)) :
    (locks.giveBack id lock).Serves (.away :: others) := by
  have left := serves.leave
  refine ⟨left.handed, left.taken, left.once, ?_⟩
  intro phase member
  apply (left.listed phase member).mono
  intro other found has listed
  simp only [Locks.giveBack]
  split
  · exact listed
  · next last =>
      apply lookup_filter_of_ne listed
      rintro _ rfl
      -- Whoever has a handle of the lock has one that is left over.
      have some := List.countP_pos_iff.mpr ⟨phase, member, has⟩
      rw [← left.handed, List.count_pos_iff] at some
      exact last (List.contains_iff_mem.mpr some)

theorem shift (serves : locks.Serves (phase :: others)) (shift : Shift locks phase later shifted) :
    shifted.Serves (later :: others) := by
  cases shift with
  | away => exact serves
  | inside id lock progress later =>
      exact ⟨serves.handed, serves.taken, serves.once,
        List.forall_mem_cons.mpr ⟨serves.listed_cons.1, serves.listed_cons.2⟩⟩
  | obtains id => exact serves.obtain id
  | takes id lock free => exact serves.take free
  | frees id lock progress => exact serves.free
  | givesBack id lock => exact serves.giveBack
  | leaves id lock => exact serves.leave

end Serves

end Locks

/-! ## One request at a time -/

/-- The locks are those of a single request, whatever was made before. -/
def Locks.Alone (locks : Locks) : Phase → Prop
  | .away => locks = ⟨locks.fresh, [], [], []⟩
  | .waiting id lock | .leaving id lock => locks = ⟨locks.fresh, [(id, lock)], [lock], []⟩
  | .inside id lock _ => locks = ⟨locks.fresh, [(id, lock)], [lock], [lock]⟩

theorem Locks.Alone.unused {locks : Locks} (alone : locks.Alone .away) : locks.Unused := by
  rw [show locks = ⟨locks.fresh, [], [], []⟩ from alone]
  exact ⟨rfl, rfl⟩

/-- What is permitted keeps the table to the lock that the request has, if it has one. -/
theorem Phase.Permits.alone {partner : Partner} {creates : Bool} {phase : Phase}
    {world : World MemoryStore} {effect : Effect} (permits : phase.Permits creates effect)
    (alone : world.locks.Alone phase) :
    (world.perform partner effect).2.locks.Alone (phase.after ⟨world, effect⟩) := by
  rcases world with ⟨store, exchanges, events, locks⟩
  cases phase with
  | away =>
      cases effect with
      | obtain id =>
          have vacant : locks = ⟨locks.fresh, [], [], []⟩ := alone
          rw [vacant]
          rfl
      | take lock | free lock | giveBack id lock => cases permits
      | store call | bank call | publish event => exact alone
  | waiting id lock =>
      cases permits
      have waits : locks = ⟨locks.fresh, [(id, lock)], [lock], []⟩ := alone
      rw [waits]
      rfl
  | inside id lock progress =>
      cases effect with
      | free other =>
          rcases permits with ⟨rfl, _⟩
          have holds : locks = ⟨locks.fresh, [(id, other)], [other], [other]⟩ := alone
          rw [holds]
          simp [World.perform, Phase.after, Locks.Alone, Locks.free]
      | obtain other | take other | giveBack other lock => cases progress <;> cases permits
      | store call | bank call | publish event => exact alone
  | leaving id lock =>
      cases permits
      have leaves : locks = ⟨locks.fresh, [(id, lock)], [lock], []⟩ := alone
      rw [leaves]
      simp [World.perform, Phase.after, Locks.Alone, Locks.giveBack]

theorem Procedure.Keeps.alone_run {α : Type} {partner : Partner} {creates : Bool}
    {procedure : Procedure α} {past : List Deed} {required : List Deed → α → Prop}
    {world : World MemoryStore}
    (keeps : Procedure.Keeps partner (Disciplined creates) procedure past required)
    (alone : world.locks.Alone (Phase.of past)) :
    (world.run partner procedure).2.locks.Alone
      (Phase.of (past ++ world.deeds partner procedure)) := by
  induction procedure generalizing past world with
  | done value =>
      rw [World.deeds, List.append_nil]
      exact alone
  | ask effect next induction =>
      rw [World.run_ask, World.deeds, List.append_cons]
      apply induction _ (keeps.2 world)
      rw [Phase.of_append_singleton]
      exact Phase.Permits.alone keeps.1 alone

namespace Deployment

theorem alone_perform (deployment : Deployment) (step : Step) {world : World MemoryStore}
    (alone : world.locks.Alone .away) :
    (deployment.perform step world).2.locks.Alone .away := by
  have follows := Operation.follows_action deployment.partner deployment.node step.now
    step.operation [] rfl
  have ends := Procedure.Keeps.of_does follows (World.does_deeds _ _ world)
  have stays := follows.alone_run alone
  rw [ends] at stays
  exact stays

end Deployment

end StrongAuth
