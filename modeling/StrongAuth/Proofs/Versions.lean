import Mathlib.Data.List.Chain
import Mathlib.Tactic.Ring
import StrongAuth.Proofs.Memory
import StrongAuth.Store.Table
import StrongAuth.Proofs.Outcome

/-! # Versions guard the records

Any number of clients call one store, in any order. A save is accepted only with the version
that was stored last, so the versions of a record form one chain, and a copy that was read
before somebody else has saved is worth nothing until it is read anew. Versions are words: the
greatest is followed by the least, and a copy is good again once they have gone all the way
round. Main statement: so it is for the store in memory and for the tables alike. -/

namespace StrongAuth

/-! ## Calls of clients -/

/-- A call that some client makes. -/
structure ClientCall where
  client : Nat
  call : StoreCall
  deriving DecidableEq, Repr

/-- A call of a client with the store that it finds. -/
structure Served (σ : Type) where
  client : Nat
  call : StoreCall
  store : σ

namespace Served

variable {σ : Type} [Store σ]

def answer (served : Served σ) : Except StoreFault served.call.Answer :=
  (Store.perform served.store served.call).1

def later (served : Served σ) : σ :=
  (Store.perform served.store served.call).2

end Served

def serve {σ : Type} [Store σ] : List ClientCall → σ → List (Served σ)
  | [], _ => []
  | ⟨client, call⟩ :: calls, store =>
      ⟨client, call, store⟩ :: serve calls (Store.perform store call).2

def StoreCall.stored? (id : String) : (call : StoreCall) → Except StoreFault call.Answer →
    Option Int64
  | .insert record, .ok _ => if record.id = id then some record.version else none
  | .save draft, .ok saved => if draft.id = id then some saved.version else none
  | _, _ => none

/-- The version of the copy that a call gives to its client: the one that was read, or the one
that was stored just now. -/
def StoreCall.given? (id : String) : (call : StoreCall) → Except StoreFault call.Answer →
    Option Int64
  | .get other, .ok (some record) => if other = id then some record.version else none
  | call, answer => call.stored? id answer

/-- What a store holds under an id. -/
inductive Held
  | nothing
  /-- A record whose version is no number. -/
  | unversioned
  | version (number : Int64)
  deriving DecidableEq, Repr

namespace Held

def version? : Held → Option Int64
  | .version number => some number
  | _ => none

/-- Whether this may be held once a record was stored under a version. Some stores have no
number for what follows the greatest version. -/
def Carries (held : Held) (version : Int64) : Prop :=
  held = .version version ∨ held = .unversioned ∧ version = Int64.minValue

/-- What may be held after a call that has stored a version, or none. -/
def Becomes (held later : Held) : (stored : Option Int64) → Prop
  | none => later = held
  | some number => later.Carries number

@[simp] theorem becomes_none {held later : Held} : held.Becomes later none ↔ later = held :=
  Iff.rfl

@[simp] theorem becomes_some {held later : Held} {number : Int64} :
    held.Becomes later (some number) ↔ later.Carries number :=
  Iff.rfl

theorem becomes_elim (held : Held) (stored : Option Int64) :
    held.Becomes (stored.elim held .version) stored := by
  cases stored with
  | none => rfl
  | some version => exact .inl rfl

theorem Carries.ne_nothing {held : Held} {version : Int64} (carries : held.Carries version) :
    held ≠ .nothing := by
  rcases carries with rfl | ⟨rfl, _⟩ <;> exact nofun

/-- Where a number is held, it is the version that was stored. -/
theorem Carries.eq {stored number : Int64} (carries : (version number).Carries stored) :
    number = stored := by
  rcases carries with same | ⟨other, _⟩
  · exact Held.version.inj same
  · cases other

end Held

namespace Served

variable {σ : Type} [Store σ]

def stored? (id : String) (served : Served σ) : Option Int64 :=
  served.call.stored? id served.answer

def given? (id : String) (served : Served σ) : Option Int64 :=
  served.call.given? id served.answer

def saves (id : String) (served : Served σ) : Bool :=
  match served.call with
  | .save _ => (served.stored? id).isSome
  | _ => false

def reads (id : String) (served : Served σ) : Bool :=
  match served.call with
  | .get _ => (served.given? id).isSome
  | _ => false

end Served

def versions {σ : Type} [Store σ] (held : Held) (id : String) (trace : List (Served σ)) :
    List Int64 :=
  held.version?.toList ++ trace.filterMap (·.stored? id)

/-- A client saves nothing but edited copies: each with the version of a copy it was given. -/
def Copies {σ : Type} [Store σ] (client : Nat) (id : String) (trace : List (Served σ)) : Prop :=
  ∀ earlier own rest draft, trace = earlier ++ own :: rest → own.client = client →
    own.call = .save draft → draft.id = id →
    ∃ source ∈ earlier, source.client = client ∧ source.given? id = some draft.version

/-- No update of a record gets lost. -/
structure LosesNoUpdate {σ : Type} [Store σ] (held : Held) (id : String)
    (trace : List (Served σ)) : Prop where
  /-- A save that is accepted carried the version that was stored last, and raises it by one. -/
  save : ∀ earlier own rest draft version, trace = earlier ++ own :: rest →
    own.call = .save draft → draft.id = id → own.stored? id = some version →
    (versions held id earlier).getLast? = some draft.version ∧ version = draft.version + 1
  /-- It is accepted if it carries that version, unless the versions have just started over. -/
  accepted : ∀ earlier own rest draft, trace = earlier ++ own :: rest →
    own.call = .save draft → draft.id = id →
    (versions held id earlier).getLast? = some draft.version → draft.version ≠ Int64.minValue →
    own.stored? id = some (draft.version + 1)
  /-- A record is inserted only if none was stored before. -/
  insert : ∀ earlier own rest record, trace = earlier ++ own :: rest →
    own.call = .insert record → record.id = id →
    own.stored? id = if held = .nothing ∧ versions held id earlier = []
      then some record.version else none
  chain : (versions held id trace).IsChain fun earlier later => later = earlier + 1
  /-- A copy is stale once the record was saved, until its version comes round again. -/
  stale : ∀ earlier source middle own rest version draft,
    trace = earlier ++ source :: (middle ++ own :: rest) → source.given? id = some version →
    ¬2 ^ 64 ∣ middle.countP (·.saves id) → own.call = .save draft → draft.id = id →
    draft.version = version → own.stored? id = none
  /-- Whoever saves copies has to read anew after somebody else has saved, while there are
  fewer saves than versions. -/
  fresh : ∀ client, Copies client id trace → trace.countP (·.saves id) < 2 ^ 64 →
    ∀ earlier foreign middle own rest, trace = earlier ++ foreign :: (middle ++ own :: rest) →
    foreign.saves id = true → foreign.client ≠ client → own.client = client →
    own.saves id = true → ∃ read ∈ middle, read.client = client ∧ read.reads id = true
  /-- A call that fails changes nothing. -/
  failed : ∀ served ∈ trace, ∀ fault, served.answer = .error fault → served.later = served.store

/-! ## Stores with versions -/

/-- What a store has to do with the versions of its records, if `held` tells what it holds under
an id. -/
structure Versioned {σ : Type} [Store σ] (held : String → σ → Held) : Prop where
  insert : ∀ store record, StoreCall.stored? record.id _ (Store.perform store (.insert record)).1 =
    if held record.id store = .nothing then some record.version else none
  save : ∀ store draft, StoreCall.stored? draft.id _ (Store.perform store (.save draft)).1 =
    if held draft.id store = .version draft.version then some (draft.version + 1) else none
  get : ∀ store id record, (Store.perform store (.get id)).1 = .ok (some record) →
    held id store = .version record.version
  later : ∀ store call id, (held id store).Becomes (held id (Store.perform store call).2)
    (StoreCall.stored? id call (Store.perform store call).1)

namespace Store

variable {σ : Type}

theorem settle_of_error {α : Type} {store : σ} {result : Except StoreFault (α × σ)}
    {fault : StoreFault} (fails : (settle store result).1 = .error fault) :
    (settle store result).2 = store := by
  cases result with
  | error fault => rfl
  | ok result => cases fails

variable [Store σ]

theorem perform_of_error {store : σ} {call : StoreCall} {fault : StoreFault}
    (fails : (perform store call).1 = .error fault) : (perform store call).2 = store := by
  cases call with
  | insert record | save record | register resource | setParentStatus id status =>
      exact settle_of_error fails
  | get id | listByParent parent | listExpired now | resource id => rfl

end Store

/-! ## Traces -/

section Traces

variable {σ : Type} [Store σ] {held : String → σ → Held} {store : σ} {id : String}
  {earlier rest : List (Served σ)} {own : Served σ}

/-- Each call finds the store that the one before it leaves behind. -/
def Consecutive (store : σ) : List (Served σ) → Prop
  | [] => True
  | served :: rest => served.store = store ∧ Consecutive served.later rest

def storeAfter (store : σ) (trace : List (Served σ)) : σ :=
  trace.foldl (fun _ served => served.later) store

theorem consecutive_serve (calls : List ClientCall) (store : σ) :
    Consecutive store (serve calls store) := by
  induction calls generalizing store with
  | nil => trivial
  | cons call calls induction => exact ⟨rfl, induction _⟩

theorem Consecutive.split (consecutive : Consecutive store (earlier ++ rest)) :
    Consecutive store earlier ∧ Consecutive (storeAfter store earlier) rest := by
  induction earlier generalizing store with
  | nil => exact ⟨trivial, consecutive⟩
  | cons served earlier induction =>
      rcases induction consecutive.2 with ⟨first, second⟩
      exact ⟨⟨consecutive.1, first⟩, second⟩

@[simp] theorem versions_nil (held : Held) (id : String) :
    versions held id ([] : List (Served σ)) = held.version?.toList := by
  simp [versions]

theorem versions_append (held : Held) (id : String) (first second : List (Served σ)) :
    versions held id (first ++ second) = versions held id first ++
      second.filterMap (·.stored? id) := by
  simp [versions]

theorem Served.stores_of_stored? {served : Served σ} {version : Int64}
    (stored : served.stored? id = some version) :
    (∃ record, served.call = .insert record ∧ record.id = id) ∨
      ∃ draft, served.call = .save draft ∧ draft.id = id := by
  rcases served with ⟨client, call, found⟩
  unfold stored? at stored
  generalize Served.answer ⟨client, call, found⟩ = answer at stored
  rcases answer with fault | answer
  · cases call <;> cases stored
  · cases call with
    | insert record =>
        simp only [StoreCall.stored?, Option.ite_none_right_eq_some] at stored
        exact .inl ⟨record, rfl, stored.1⟩
    | save draft =>
        simp only [StoreCall.stored?, Option.ite_none_right_eq_some] at stored
        exact .inr ⟨draft, rfl, stored.1⟩
    | _ => cases stored

theorem Served.eq_save_of_saves {served : Served σ} (saves : served.saves id = true) :
    ∃ draft version, served.call = .save draft ∧ draft.id = id ∧
      served.stored? id = some version := by
  unfold Served.saves at saves
  split at saves
  · next draft saving =>
      rcases Option.isSome_iff_exists.mp saves with ⟨version, stored⟩
      rcases served.stores_of_stored? stored with ⟨record, inserting, _⟩ | ⟨_, same, sameId⟩
      · rw [saving] at inserting
        cases inserting
      · exact ⟨_, version, same, sameId, stored⟩
  · cases saves

/-- A copy is given by reading the record or by storing it. -/
theorem Served.reads_or_stores_of_given? {served : Served σ} {version : Int64}
    (given : served.given? id = some version) :
    (∃ record, served.call = .get id ∧
      (Store.perform served.store (.get id)).1 = .ok (some record) ∧
      record.version = version) ∨ served.stored? id = some version := by
  rcases served with ⟨client, call, found⟩
  cases call with
  | get other =>
      unfold given? at given
      cases answered : Served.answer ⟨client, .get other, found⟩ with
      | error fault =>
          rw [answered] at given
          cases given
      | ok answer =>
          rw [answered] at given
          cases answer with
          | none => cases given
          | some record =>
              simp only [StoreCall.given?, Option.ite_none_right_eq_some,
                Option.some.injEq] at given
              rcases given with ⟨rfl, same⟩
              exact .inl ⟨record, rfl, answered, same⟩
  | _ => exact .inr given

namespace Versioned

theorem becomes (versioned : Versioned held) (served : Served σ) (id : String) :
    (held id served.store).Becomes (held id served.later) (served.stored? id) :=
  versioned.later served.store served.call id

theorem held_of_stored? (versioned : Versioned held) {served : Served σ} {version : Int64}
    (stored : served.stored? id = some version) : (held id served.later).Carries version := by
  have becomes := versioned.becomes served id
  rwa [stored] at becomes

theorem held_of_stored?_eq_none (versioned : Versioned held) {served : Served σ}
    (stored : served.stored? id = none) : held id served.later = held id served.store := by
  have becomes := versioned.becomes served id
  rwa [stored] at becomes

/-- What is held is what was stored last. -/
theorem held_storeAfter (versioned : Versioned held) (consecutive : Consecutive store earlier)
    (id : String) : (held id store).Becomes (held id (storeAfter store earlier))
      (earlier.filterMap (·.stored? id)).getLast? := by
  induction earlier using List.reverseRecOn with
  | nil => rfl
  | append_singleton earlier own induction =>
      rcases consecutive.split with ⟨before, sameStore, _⟩
      have kept := induction before
      rw [← sameStore] at kept
      rw [storeAfter, List.foldl_append, List.filterMap_append]
      change (held id store).Becomes (held id own.later) _
      cases stored : own.stored? id with
      | none =>
          rw [versioned.held_of_stored?_eq_none stored]
          simpa [stored] using kept
      | some version => simpa [stored] using versioned.held_of_stored? stored

/-- The version that was stored last is what is held, if that is a number. -/
theorem getLast?_of_held (versioned : Versioned held) (consecutive : Consecutive store earlier)
    {version : Int64} (holds : held id (storeAfter store earlier) = .version version) :
    (versions (held id store) id earlier).getLast? = some version := by
  have becomes := versioned.held_storeAfter consecutive id
  rw [holds] at becomes
  rw [versions, List.getLast?_append]
  cases last : (earlier.filterMap (·.stored? id)).getLast? with
  | none =>
      rw [last, Held.becomes_none] at becomes
      simp [← becomes, Held.version?]
  | some number =>
      rw [last] at becomes
      simp [Held.Carries.eq becomes]

theorem carries_of_getLast? (versioned : Versioned held)
    (consecutive : Consecutive store earlier) {version : Int64}
    (last : (versions (held id store) id earlier).getLast? = some version) :
    (held id (storeAfter store earlier)).Carries version := by
  have becomes := versioned.held_storeAfter consecutive id
  rw [versions, List.getLast?_append] at last
  cases later : (earlier.filterMap (·.stored? id)).getLast? with
  | none =>
      rw [later] at becomes last
      rw [Held.becomes_none.mp becomes]
      cases kept : held id store with
      | version number =>
          rw [kept] at last
          exact .inl (congrArg _ (by simpa [Held.version?] using last))
      | nothing | unversioned =>
          rw [kept] at last
          cases last
  | some number =>
      rw [later] at becomes last
      cases last
      exact becomes

theorem held_eq_nothing_iff (versioned : Versioned held)
    (consecutive : Consecutive store earlier) (id : String) :
    held id (storeAfter store earlier) = .nothing ↔
      held id store = .nothing ∧ versions (held id store) id earlier = [] := by
  have becomes := versioned.held_storeAfter consecutive id
  cases later : (earlier.filterMap (·.stored? id)).getLast? with
  | none =>
      rw [later] at becomes
      rw [Held.becomes_none.mp becomes]
      rw [List.getLast?_eq_none_iff] at later
      refine ⟨fun empty => ⟨empty, ?_⟩, And.left⟩
      rw [versions, later, empty]
      rfl
  | some number =>
      rw [later] at becomes
      refine ⟨fun empty => absurd empty (Held.Carries.ne_nothing becomes), fun empty => ?_⟩
      have stored : earlier.filterMap (·.stored? id) = [] := (List.append_eq_nil_iff.mp empty.2).2
      rw [stored] at later
      cases later

theorem stored?_of_save (versioned : Versioned held) {draft : Authorisation}
    (saving : own.call = .save draft) (sameId : draft.id = id) :
    own.stored? id =
      if held id own.store = .version draft.version then some (draft.version + 1) else none := by
  rcases own with ⟨client, call, found⟩
  cases saving
  subst sameId
  exact versioned.save found draft

theorem stored?_of_insert (versioned : Versioned held) {record : Authorisation}
    (inserting : own.call = .insert record) (sameId : record.id = id) :
    own.stored? id = if held id own.store = .nothing then some record.version else none := by
  rcases own with ⟨client, call, found⟩
  cases inserting
  subst sameId
  exact versioned.insert found record

theorem save_split (versioned : Versioned held)
    (consecutive : Consecutive store (earlier ++ own :: rest)) {draft : Authorisation}
    {version : Int64} (saving : own.call = .save draft) (sameId : draft.id = id)
    (stored : own.stored? id = some version) :
    held id own.store = .version draft.version ∧
      (versions (held id store) id earlier).getLast? = some draft.version ∧
      version = draft.version + 1 := by
  rcases consecutive.split with ⟨before, sameStore, _⟩
  rw [versioned.stored?_of_save saving sameId, Option.ite_none_right_eq_some] at stored
  rcases stored with ⟨holds, same⟩
  refine ⟨holds, versioned.getLast?_of_held before ?_, (Option.some.inj same).symm⟩
  rw [← sameStore, holds]

theorem accepted_split (versioned : Versioned held)
    (consecutive : Consecutive store (earlier ++ own :: rest)) {draft : Authorisation}
    (saving : own.call = .save draft) (sameId : draft.id = id)
    (last : (versions (held id store) id earlier).getLast? = some draft.version)
    (started : draft.version ≠ Int64.minValue) : own.stored? id = some (draft.version + 1) := by
  rcases consecutive.split with ⟨before, sameStore, _⟩
  rw [versioned.stored?_of_save saving sameId, sameStore]
  rcases versioned.carries_of_getLast? before last with holds | ⟨_, least⟩
  · rw [if_pos holds]
  · exact absurd least started

theorem insert_split (versioned : Versioned held)
    (consecutive : Consecutive store (earlier ++ own :: rest)) {record : Authorisation}
    (inserting : own.call = .insert record) (sameId : record.id = id) :
    own.stored? id = if held id store = .nothing ∧ versions (held id store) id earlier = []
      then some record.version else none := by
  rcases consecutive.split with ⟨before, sameStore, _⟩
  have first := versioned.held_eq_nothing_iff before id
  rw [← sameStore] at first
  exact (versioned.stored?_of_insert inserting sameId).trans (if_congr first rfl rfl)

/-- What is stored continues the chain of versions. -/
theorem stored_continues (versioned : Versioned held)
    (consecutive : Consecutive store (earlier ++ own :: rest)) {version last : Int64}
    (stored : own.stored? id = some version)
    (before : (versions (held id store) id earlier).getLast? = some last) :
    version = last + 1 := by
  rcases own.stores_of_stored? stored with ⟨record, inserting, sameId⟩ | ⟨draft, saving, sameId⟩
  · have inserts := versioned.insert_split consecutive inserting sameId
    rw [stored] at inserts
    split at inserts
    · next empty =>
        rw [empty.2] at before
        cases before
    · cases inserts
  · rcases versioned.save_split consecutive saving sameId stored with ⟨_, same, raised⟩
    rw [before] at same
    cases same
    exact raised

theorem isChain_versions (versioned : Versioned held) (consecutive : Consecutive store earlier)
    (id : String) : (versions (held id store) id earlier).IsChain
      fun first second => second = first + 1 := by
  induction earlier using List.reverseRecOn with
  | nil =>
      rw [versions_nil]
      cases (held id store).version? <;> simp
  | append_singleton earlier own induction =>
      rw [versions_append, List.isChain_append]
      refine ⟨induction consecutive.split.1, ?_, ?_⟩
      · cases stored : own.stored? id <;> simp [stored]
      · intro last before version after
        refine versioned.stored_continues consecutive ?_ before
        cases stored : own.stored? id with
        | none => simp [stored] at after
        | some number => simpa [stored] using after

theorem held_of_given? (versioned : Versioned held) {served : Served σ} {version : Int64}
    (given : served.given? id = some version) : (held id served.later).Carries version := by
  rcases served.reads_or_stores_of_given? given with ⟨record, reading, read, same⟩ | stored
  · rcases served with ⟨client, call, found⟩
    cases reading
    rw [← same]
    exact .inl (versioned.get found id record read)
  · exact versioned.held_of_stored? stored

theorem held_grows (versioned : Versioned held) (consecutive : Consecutive store earlier)
    {version : Int64} (carries : (held id store).Carries version) :
    (held id (storeAfter store earlier)).Carries
      (version + Int64.ofNat (earlier.countP (·.saves id))) := by
  induction earlier generalizing store version with
  | nil => simpa [storeAfter] using carries
  | cons served earlier induction =>
      rcases consecutive with ⟨rfl, following⟩
      have single : Consecutive served.store ([] ++ served :: []) := ⟨rfl, trivial⟩
      change (held id (storeAfter served.later earlier)).Carries _
      cases stored : served.stored? id with
      | none =>
          have idle : served.saves id = false := by
            unfold Served.saves
            rw [stored]
            split <;> rfl
          rw [← versioned.held_of_stored?_eq_none stored] at carries
          simpa [idle] using induction following carries
      | some next =>
          rcases served.stores_of_stored? stored with
            ⟨record, inserting, sameId⟩ | ⟨draft, saving, sameId⟩
          · rw [versioned.stored?_of_insert inserting sameId, if_neg carries.ne_nothing] at stored
            cases stored
          · rcases versioned.save_split single saving sameId stored with ⟨holds, _, rfl⟩
            rw [holds] at carries
            have counted : served.saves id = true := by simp [Served.saves, saving, stored]
            have grown := induction following (versioned.held_of_stored? stored)
            rw [carries.eq, Int64.add_assoc, Int64.add_comm 1] at grown
            simpa [counted, Int64.ofNat_add] using grown

/-- A version comes back after as many saves as there are versions. -/
theorem ofNat_eq_zero_iff {saves : Nat} : Int64.ofNat saves = 0 ↔ 2 ^ 64 ∣ saves := by
  rw [← Int64.toBitVec_inj, Int64.toBitVec_ofNat', ← BitVec.toNat_inj, BitVec.toNat_ofNat,
    Nat.dvd_iff_mod_eq_zero]
  rfl

/-- A copy that was given before a save is not accepted after it. -/
theorem stale_split (versioned : Versioned held) {source : Served σ} {middle : List (Served σ)}
    (consecutive : Consecutive store (earlier ++ source :: (middle ++ own :: rest)))
    {draft : Authorisation} (given : source.given? id = some draft.version)
    (saved : ¬2 ^ 64 ∣ middle.countP (·.saves id)) (saving : own.call = .save draft)
    (sameId : draft.id = id) : own.stored? id = none := by
  have following := consecutive.split.2.2
  rcases following.split with ⟨between, sameStore, _⟩
  have grown := versioned.held_grows between (versioned.held_of_given? given)
  rw [versioned.stored?_of_save saving sameId, if_neg]
  intro holds
  rw [← sameStore, holds] at grown
  have none : Int64.ofNat (middle.countP (·.saves id)) = 0 := by
    have same := grown.eq
    simpa using same.symm
  exact saved (ofNat_eq_zero_iff.mp none)

/-- What a client saves after a save of somebody else is a copy that it was given in between. -/
theorem source_between (versioned : Versioned held) {client : Nat} {foreign : Served σ}
    {middle : List (Served σ)}
    (consecutive : Consecutive store (earlier ++ foreign :: (middle ++ own :: rest)))
    (copies : Copies client id (earlier ++ foreign :: (middle ++ own :: rest)))
    (few : (earlier ++ foreign :: (middle ++ own :: rest)).countP (·.saves id) < 2 ^ 64)
    (saved : foreign.saves id = true) (different : foreign.client ≠ client)
    (mine : own.client = client) (accepted : own.saves id = true) :
    ∃ source ∈ middle, source.client = client ∧
      (source.reads id = true ∨ source.saves id = true) := by
  rcases own.eq_save_of_saves accepted with ⟨draft, version, saving, sameId, stored⟩
  rcases copies (earlier ++ foreign :: middle) own rest draft (by simp) mine saving sameId
    with ⟨source, member, sameClient, given⟩
  rcases List.mem_append.mp member with before | after
  · rcases List.append_of_mem before with ⟨first, second, rfl⟩
    have since : ¬2 ^ 64 ∣ (second ++ foreign :: middle).countP (·.saves id) := by
      refine Nat.not_dvd_of_pos_of_lt ?_ (Nat.lt_of_le_of_lt ?_ few)
      · rw [List.countP_pos_iff]
        exact ⟨foreign, by simp, saved⟩
      · simp only [List.countP_append, List.countP_cons]
        omega
    have reaches : Consecutive store
        (first ++ source :: ((second ++ foreign :: middle) ++ own :: rest)) := by
      simpa using consecutive
    have stale := versioned.stale_split reaches given since saving sameId
    rw [stale] at stored
    cases stored
  · rcases List.mem_cons.mp after with rfl | between
    · exact absurd sameClient different
    · refine ⟨source, between, sameClient, ?_⟩
      rcases source.reads_or_stores_of_given? given with ⟨record, reading, _⟩ | storing
      · exact .inl (by simp [Served.reads, reading, given])
      · rcases List.append_of_mem between with ⟨first, second, rfl⟩
        have following : Consecutive foreign.later
            (first ++ source :: (second ++ own :: rest)) := by
          simpa using consecutive.split.2.2
        rcases source.stores_of_stored? storing with ⟨record, inserting, same⟩ | ⟨draft, _, _⟩
        · rcases foreign.eq_save_of_saves saved with ⟨_, _, _, _, raised⟩
          rcases following.split with ⟨start, sameStore, _⟩
          have grown := versioned.held_grows start (versioned.held_of_stored? raised)
          rw [← sameStore] at grown
          rw [versioned.stored?_of_insert inserting same, if_neg grown.ne_nothing] at storing
          cases storing
        · exact .inr (by simp [Served.saves, *])

/-- Between a save of somebody else and a save of its own, a client that saves copies has read
the record. -/
theorem fresh_split (versioned : Versioned held) {client : Nat} {foreign : Served σ}
    {middle : List (Served σ)}
    (consecutive : Consecutive store (earlier ++ foreign :: (middle ++ own :: rest)))
    (copies : Copies client id (earlier ++ foreign :: (middle ++ own :: rest)))
    (few : (earlier ++ foreign :: (middle ++ own :: rest)).countP (·.saves id) < 2 ^ 64)
    (saved : foreign.saves id = true) (different : foreign.client ≠ client)
    (mine : own.client = client) (accepted : own.saves id = true) :
    ∃ read ∈ middle, read.client = client ∧ read.reads id = true := by
  -- A copy that was itself saved in between has a source of its own, which is nearer.
  induction length : middle.length using Nat.strongRecOn generalizing middle own rest with
  | ind count induction =>
      subst length
      rcases versioned.source_between consecutive copies few saved different mine accepted
        with ⟨source, between, sameClient, reading | saving⟩
      · exact ⟨source, between, sameClient, reading⟩
      · rcases List.append_of_mem between with ⟨first, second, rfl⟩
        have same : (first ++ source :: second) ++ own :: rest =
            first ++ source :: (second ++ own :: rest) := by simp
        rw [same] at consecutive copies few
        rcases induction first.length (by simp) consecutive copies few sameClient saving rfl
          with ⟨read, member, mine⟩
        exact ⟨read, List.mem_append_left _ member, mine⟩

theorem losesNoUpdate (versioned : Versioned held) (calls : List ClientCall) (store : σ)
    (id : String) : LosesNoUpdate (held id store) id (serve calls store) := by
  have consecutive := consecutive_serve calls store
  generalize serve calls store = trace at consecutive
  constructor
  · rintro earlier own rest draft version rfl saving sameId stored
    exact (versioned.save_split consecutive saving sameId stored).2
  · rintro earlier own rest draft rfl saving sameId last started
    exact versioned.accepted_split consecutive saving sameId last started
  · rintro earlier own rest record rfl inserting sameId
    exact versioned.insert_split consecutive inserting sameId
  · exact versioned.isChain_versions consecutive id
  · rintro earlier source middle own rest version draft rfl given saved saving sameId rfl
    exact versioned.stale_split consecutive given saved saving sameId
  · rintro client copies few earlier foreign middle own rest rfl saved different mine accepted
    exact versioned.fresh_split consecutive copies few saved different mine accepted
  · intro served _ fault fails
    exact Store.perform_of_error fails

end Versioned

end Traces

/-! ## The stores -/

namespace MemoryStore

def held (id : String) (store : MemoryStore) : Held :=
  match store.record? id with
  | none => .nothing
  | some record => .version record.version

theorem held_congr {store later : MemoryStore} {id : String}
    (same : later.record? id = store.record? id) : later.held id = store.held id := by
  rw [held, held, same]

theorem held_insert (store : MemoryStore) (record : Authorisation) (id : String) :
    held id (Store.perform store (.insert record)).2 =
      (StoreCall.stored? id _ (Store.perform store (.insert record)).1).elim (store.held id)
        .version := by
  have performs : Store.perform store (.insert record) =
      Store.settle store ((store.insert record).map fun store => ((), store)) := rfl
  rw [performs]
  cases inserts : store.insert record with
  | error fault => rfl
  | ok later =>
      rcases insert_eq_ok inserts with ⟨unknown, rfl⟩
      simp only [Except.map, Store.settle, StoreCall.stored?, held, record?_append unknown]
      by_cases same : record.id = id
      · simp [same]
      · simp [same, Ne.symm same]

theorem held_save (store : MemoryStore) (draft : Authorisation) (id : String) :
    held id (Store.perform store (.save draft)).2 =
      (StoreCall.stored? id _ (Store.perform store (.save draft)).1).elim (store.held id)
        .version := by
  have performs : Store.perform store (.save draft) = Store.settle store (store.save draft) := rfl
  rw [performs]
  cases saves : store.save draft with
  | error fault => rfl
  | ok result =>
      rcases save_eq_ok saves with ⟨stored, found, _, saved, later⟩
      simp only [Store.settle, StoreCall.stored?, held, saved, later, record?_replace]
      by_cases same : draft.id = id
      · subst same
        simp [found]
      · simp [same, Ne.symm same]

theorem versioned : Versioned held where
  insert store record := by
    have performs : Store.perform store (.insert record) =
        Store.settle store ((store.insert record).map fun store => ((), store)) := rfl
    rw [performs, insert, held]
    cases store.record? record.id <;> simp [Except.map, Store.settle, StoreCall.stored?]
  save store draft := by
    have performs : Store.perform store (.save draft) = Store.settle store (store.save draft) :=
      rfl
    rw [performs, save, held]
    cases store.record? draft.id with
    | none => simp [Store.settle, StoreCall.stored?]
    | some stored =>
        by_cases same : stored.version = draft.version <;>
          simp [same, Store.settle, StoreCall.stored?]
  get store id record read := by
    have found : store.record? id = some record := Except.ok.inj read
    rw [held, found]
  later store call id := by
    cases call with
    | insert record =>
        rw [store.held_insert record id]
        exact Held.becomes_elim _ _
    | save draft =>
        rw [store.held_save draft id]
        exact Held.becomes_elim _ _
    | register resource =>
        have kept : (store.register resource).records = store.records := records_register
        exact held_congr (congrArg (List.find? _) kept)
    | setParentStatus parent status =>
        apply held_congr
        dsimp only [Store.perform, Store.setParentStatus]
        unfold setParentStatus
        cases store.resource? parent <;> rfl
    | _ => rfl

end MemoryStore

namespace TableStore

def heldIn (row : Row AuthorisationColumn) : Held :=
  match row .version with
  | .integer version => .version version
  | _ => .unversioned

theorem heldIn_ne_nothing (row : Row AuthorisationColumn) : heldIn row ≠ .nothing := by
  unfold heldIn
  split <;> simp

theorem heldIn_eq_version_iff {row : Row AuthorisationColumn} {version : Int64} :
    heldIn row = .version version ↔ row .version = .integer version := by
  unfold heldIn
  split
  · next number same => simp [same]
  · next other => simpa using other version

def held (id : String) (store : TableStore) : Held :=
  match find? id store.authorisations with
  | none => .nothing
  | some row => heldIn row

theorem find?_append {κ : Type} [Schema κ] {row : Row κ} {rows : List (Row κ)} {key id : String}
    (keyed : row Schema.key = .text key) (missing : find? key rows = none) :
    find? id (rows ++ [row]) = if key = id then some row else find? id rows := by
  unfold find? at missing ⊢
  rw [List.find?_append]
  by_cases same : key = id
  · subst same
    simp [missing, keyed]
  · simp [keyed, same]

theorem find?_change {κ : Type} [Schema κ] {update : Row κ → Row κ} {key id : String}
    (keeps : ∀ row, update row Schema.key = row Schema.key) (rows : List (Row κ)) :
    find? id (change key update rows) =
      if key = id then (find? id rows).map update else find? id rows := by
  have kept : ((fun row : Row κ => row Schema.key == .text id) ∘
      fun row => if row Schema.key == .text key then update row else row) =
      fun row => row Schema.key == .text id := by
    funext row
    simp only [Function.comp]
    split <;> simp [keeps]
  unfold find? change
  rw [List.find?_map, kept]
  cases found : rows.find? fun row => row Schema.key == .text id with
  | none => simp
  | some row =>
      have keyed : row Schema.key = .text id := by simpa using List.find?_some found
      by_cases same : key = id
      · simp [keyed, same]
      · simp [keyed, same, Ne.symm same]

theorem insert_eq_ok {store later : TableStore} {record : Authorisation}
    (accepted : insert record store = .ok later) :
    find? record.id store.authorisations = none ∧
      later = { store with authorisations := store.authorisations ++ [writeRecord record] } := by
  unfold insert at accepted
  cases found : find? record.id store.authorisations with
  | none =>
      rw [found] at accepted
      cases accepted
      exact ⟨rfl, rfl⟩
  | some row =>
      rw [found] at accepted
      cases accepted

theorem save_eq_ok {store later : TableStore} {draft saved : Authorisation}
    (accepted : save draft store = .ok (saved, later)) :
    ∃ row, find? draft.id store.authorisations = some row ∧
      saved = { draft with version := draft.version + 1 } ∧
      later = { store with
        authorisations := change draft.id (updateRecord draft) store.authorisations } := by
  unfold save at accepted
  cases found : find? draft.id store.authorisations with
  | none =>
      rw [found] at accepted
      cases accepted
  | some row =>
      rw [found] at accepted
      dsimp only at accepted
      split at accepted
      · cases accepted
        exact ⟨row, rfl, rfl, rfl⟩
      · rcases bind_eq_ok_iff.mp accepted with ⟨_, _, conflict⟩
        cases conflict

theorem find?_of_setParentStatus {store later : TableStore} {other : String}
    {status : ParentStatus} (accepted : setParentStatus other status store = .ok later)
    (id : String) : find? id later.resources =
      if other = id then
        (find? id store.resources).map fun row => row.set .status (.text status.word)
      else find? id store.resources := by
  have keyed (row : Row ResourceColumn) :
      row.set .status (.text status.word) Schema.key = row Schema.key := rfl
  unfold setParentStatus at accepted
  split at accepted
  · cases accepted
  · cases accepted
    exact find?_change keyed store.resources

theorem version_of_readRecord {row : Row AuthorisationColumn} {record : Authorisation}
    (read : readRecord row = .ok record) : row .version = .integer record.version := by
  simp only [readRecord, bind_eq_ok_iff] at read
  -- Twenty values are read before the number of attempts is checked.
  iterate 20 rcases read with ⟨_, _, read⟩
  split at read
  · cases read
  · simp only [bind_eq_ok_iff] at read
    rcases read with ⟨_, _, _, _, version, reads, _, _, _, _, same⟩
    cases same
    cases cell : row .version <;> rw [cell] at reads <;> cases reads
    rfl

theorem held_insert (store : TableStore) (record : Authorisation) (id : String) :
    held id (Store.perform store (.insert record)).2 =
      (StoreCall.stored? id _ (Store.perform store (.insert record)).1).elim (store.held id)
        .version := by
  have performs : Store.perform store (.insert record) =
      Store.settle store ((store.insert record).map fun store => ((), store)) := rfl
  rw [performs, insert]
  cases missing : find? record.id store.authorisations with
  | some row => rfl
  | none =>
      have keyed : writeRecord record Schema.key = .text record.id := rfl
      simp only [Except.map, Store.settle, StoreCall.stored?, held, find?_append keyed missing]
      by_cases same : record.id = id
      · simp [same, heldIn, writeRecord]
      · simp [same]

theorem carries_updateRecord (draft : Authorisation) (row : Row AuthorisationColumn) :
    (heldIn (updateRecord draft row)).Carries (draft.version + 1) := by
  unfold heldIn updateRecord
  by_cases top : draft.version = Int64.maxValue
  · simp only [top, if_true]
    exact .inr ⟨rfl, by decide⟩
  · simp only [top, if_false]
    exact .inl rfl

theorem held_save (store : TableStore) (draft : Authorisation) (id : String) :
    (store.held id).Becomes (held id (Store.perform store (.save draft)).2)
      (StoreCall.stored? id _ (Store.perform store (.save draft)).1) := by
  have performs : Store.perform store (.save draft) = Store.settle store (store.save draft) := rfl
  rw [performs, save]
  cases found : find? draft.id store.authorisations with
  | none => rfl
  | some row =>
      dsimp only
      split
      · have keeps (row : Row AuthorisationColumn) :
            updateRecord draft row Schema.key = row Schema.key := rfl
        simp only [Store.settle, StoreCall.stored?, held, find?_change keeps, pure, Except.pure]
        by_cases same : draft.id = id
        · subst same
          simpa [found] using carries_updateRecord draft row
        · simp [same, Held.Becomes]
      · cases readRecord row <;> rfl

theorem versioned : Versioned held where
  insert store record := by
    have performs : Store.perform store (.insert record) =
        Store.settle store ((store.insert record).map fun store => ((), store)) := rfl
    rw [performs, insert, held]
    cases find? record.id store.authorisations with
    | none => simp [Except.map, Store.settle, StoreCall.stored?]
    | some row => simp [Except.map, Store.settle, StoreCall.stored?, heldIn_ne_nothing]
  save store draft := by
    have performs : Store.perform store (.save draft) = Store.settle store (store.save draft) :=
      rfl
    rw [performs, save, held]
    cases find? draft.id store.authorisations with
    | none => rfl
    | some row =>
        simp only [heldIn_eq_version_iff]
        by_cases same : row .version = .integer draft.version
        · simp [same, Store.settle, StoreCall.stored?, pure, Except.pure]
        · simp only [same, beq_iff_eq, if_false]
          cases readRecord row <;> rfl
  get store id record read := by
    have gets : (find? id store.authorisations).mapM readRecord = .ok (some record) := read
    rw [held]
    cases found : find? id store.authorisations with
    | none =>
        rw [found] at gets
        cases gets
    | some row =>
        rw [found, Option.mapM_some] at gets
        rcases bind_eq_ok_iff.mp gets with ⟨_, reads, same⟩
        cases same
        exact heldIn_eq_version_iff.mpr (version_of_readRecord reads)
  later store call id := by
    cases call with
    | insert record =>
        rw [store.held_insert record id]
        exact Held.becomes_elim _ _
    | save draft => exact store.held_save draft id
    | setParentStatus parent status =>
        dsimp only [Store.perform, Store.setParentStatus]
        unfold setParentStatus
        cases find? parent store.resources <;> rfl
    | _ => rfl

end TableStore

/-- Two clients read one record. The second one saves too late, and again after reading anew. -/
example :
    let record : Authorisation := { (default : Authorisation) with id := "first" }
    let calls : List ClientCall := [⟨0, .insert record⟩, ⟨1, .get "first"⟩, ⟨0, .save record⟩,
      ⟨1, .save record⟩, ⟨1, .get "first"⟩, ⟨1, .save { record with version := 1 }⟩]
    (serve calls MemoryStore.empty).map (·.stored? "first") =
        [some 0, none, some 1, none, none, some 2] ∧
      (serve calls TableStore.empty).map (·.stored? "first") =
        [some 0, none, some 1, none, none, some 2] := by
  decide +kernel

end StrongAuth
