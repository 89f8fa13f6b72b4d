import StrongAuth.Proofs.Memory
import StrongAuth.Proofs.Stage

/-! # Drafts of a record

What the node may make of a record, and how two stored forms of one record are related.
Main statement: a record that is stored anew from a draft of it goes forward only, and what
it had to say once it does not say otherwise later. -/

namespace StrongAuth

/-- Once there is a value, it stays. -/
def WrittenOnce {α : Type} (earlier later : Option α) : Prop :=
  ∀ value, earlier = some value → later = some value

namespace WrittenOnce

variable {α : Type} {first second third : Option α}

theorem refl (value : Option α) : WrittenOnce value value := fun _ same => same

theorem trans (earlier : WrittenOnce first second) (later : WrittenOnce second third) :
    WrittenOnce first third := fun value known => later value (earlier value known)

theorem of_eq_none (unknown : first = none) (value : Option α) : WrittenOnce first value := by
  rw [unknown]
  intro _ known
  cases known

theorem or (value other : Option α) : WrittenOnce value (value.or other) := by
  intro known same
  rw [same]
  rfl

end WrittenOnce

theorem Status.rank_le (status : Status) : status.rank ≤ 4 := by
  cases status <;> decide

namespace Authorisation

/-! ## Choices -/

/-- What a record says about method, challenge, confirmation code and bank. -/
def choice (record : Authorisation) :
    Option Method × Option Challenge × Option String × Option (List UInt8) :=
  (record.chosen, record.challenge, record.codeHash, record.bankData)

/-- The choice of a copy is that of its record, or was made in the copy. -/
def Chooses (record copy : Authorisation) : Prop :=
  copy.choice = record.choice ∨ record.chosen = none ∧ copy.chosen.isSome = true

/-- Nothing is known of a challenge before a method is chosen. -/
def Shaped (record : Authorisation) : Prop :=
  record.chosen = none →
    record.challenge = none ∧ record.codeHash = none ∧ record.bankData = none

theorem Chooses.shaped {record copy : Authorisation} (chooses : Chooses record copy)
    (shaped : record.Shaped) : copy.Shaped := by
  intro unchosen
  rcases chooses with same | ⟨_, chosen⟩
  · simp only [choice, Prod.mk.injEq] at same
    rcases same with ⟨chosen, challenge, codeHash, bankData⟩
    rw [challenge, codeHash, bankData]
    exact shaped (chosen.symm.trans unchosen)
  · rw [unchosen] at chosen
    cases chosen

/-! ## Openings -/

/-- Both are forms of one authorisation, and differ at most in what changes in its course. -/
structure SameOpening (first second : Authorisation) : Prop where
  id : second.id = first.id
  parent : second.parent = first.parent
  kind : second.kind = first.kind
  approach : second.approach = first.approach
  redirectDeadline : second.redirectDeadline = first.redirectDeadline
  deadline : second.deadline = first.deadline
  created : second.created = first.created

namespace SameOpening

variable {first second third : Authorisation}

theorem refl (record : Authorisation) : SameOpening record record :=
  ⟨rfl, rfl, rfl, rfl, rfl, rfl, rfl⟩

theorem symm (same : SameOpening first second) : SameOpening second first where
  id := same.id.symm
  parent := same.parent.symm
  kind := same.kind.symm
  approach := same.approach.symm
  redirectDeadline := same.redirectDeadline.symm
  deadline := same.deadline.symm
  created := same.created.symm

theorem trans (earlier : SameOpening first second) (later : SameOpening second third) :
    SameOpening first third where
  id := later.id.trans earlier.id
  parent := later.parent.trans earlier.parent
  kind := later.kind.trans earlier.kind
  approach := later.approach.trans earlier.approach
  redirectDeadline := later.redirectDeadline.trans earlier.redirectDeadline
  deadline := later.deadline.trans earlier.deadline
  created := later.created.trans earlier.created

end SameOpening

/-! ## Drafts -/

/-- A copy that the node may ask to store in place of a live record: the record but for the
PSU, the status and the data of the dialogue. -/
structure Drafts (record draft : Authorisation) : Prop where
  live : record.status.isTerminal = false
  kept : draft = { record with
    psu := draft.psu
    status := draft.status
    chosen := draft.chosen
    offered := draft.offered
    challenge := draft.challenge
    codeHash := draft.codeHash
    bankData := draft.bankData
    failedAttempts := draft.failedAttempts
    updated := draft.updated }
  psu : WrittenOnce record.psu draft.psu
  chooses : Chooses record draft
  rank : record.status.rank ≤ draft.status.rank

/-- What a stored record may have become later. -/
structure Precedes (earlier later : Authorisation) : Prop where
  kept : later = { earlier with
    psu := later.psu
    status := later.status
    chosen := later.chosen
    offered := later.offered
    challenge := later.challenge
    codeHash := later.codeHash
    bankData := later.bankData
    failedAttempts := later.failedAttempts
    version := later.version
    updated := later.updated }
  psu : WrittenOnce earlier.psu later.psu
  chosen : WrittenOnce earlier.chosen later.chosen
  challenge : WrittenOnce earlier.challenge later.challenge
  codeHash : WrittenOnce earlier.codeHash later.codeHash
  bankData : WrittenOnce earlier.bankData later.bankData
  rank : earlier.status.rank ≤ later.status.rank
  version : earlier.version ≤ later.version
  /-- A version is stored in one form only. -/
  unique : later.version = earlier.version → later = earlier
  /-- From a terminal status on nothing but the version changes. -/
  settled : earlier.status.isTerminal = true → later = { earlier with version := later.version }

namespace Precedes

variable {first second third record draft : Authorisation}

theorem refl (record : Authorisation) : Precedes record record where
  kept := rfl
  psu := .refl _
  chosen := .refl _
  challenge := .refl _
  codeHash := .refl _
  bankData := .refl _
  rank := Nat.le_refl _
  version := Int64.le_refl _
  unique _ := rfl
  settled _ := rfl

theorem trans (earlier : Precedes first second) (later : Precedes second third) :
    Precedes first third where
  kept := by rw [later.kept, earlier.kept]
  psu := earlier.psu.trans later.psu
  chosen := earlier.chosen.trans later.chosen
  challenge := earlier.challenge.trans later.challenge
  codeHash := earlier.codeHash.trans later.codeHash
  bankData := earlier.bankData.trans later.bankData
  rank := Nat.le_trans earlier.rank later.rank
  version := Int64.le_trans earlier.version later.version
  unique same := by
    have between : second.version = first.version :=
      Int64.le_antisymm (same ▸ later.version) earlier.version
    rw [later.unique (same.trans between.symm), earlier.unique between]
  settled terminal := by
    have kept := earlier.settled terminal
    have still : second.status.isTerminal = true := by
      rw [kept]
      exact terminal
    rw [later.settled still, kept]

theorem resaved (record : Authorisation) {version : Int64} (raised : record.version ≤ version) :
    Precedes record { record with version } where
  kept := rfl
  psu := .refl _
  chosen := .refl _
  challenge := .refl _
  codeHash := .refl _
  bankData := .refl _
  rank := Nat.le_refl _
  version := raised
  unique := by
    rintro rfl
    rfl
  settled _ := rfl

end Precedes

namespace Drafts

variable {record draft : Authorisation}

theorem id_eq (drafts : Drafts record draft) : draft.id = record.id := by
  rw [drafts.kept]

theorem parent_eq (drafts : Drafts record draft) : draft.parent = record.parent := by
  rw [drafts.kept]

theorem version_eq (drafts : Drafts record draft) : draft.version = record.version := by
  rw [drafts.kept]

theorem sameOpening (drafts : Drafts record draft) : SameOpening record draft := by
  rw [drafts.kept]
  exact ⟨rfl, rfl, rfl, rfl, rfl, rfl, rfl⟩

theorem choice_writtenOnce (drafts : Drafts record draft) (shaped : record.Shaped) :
    WrittenOnce record.chosen draft.chosen ∧ WrittenOnce record.challenge draft.challenge ∧
      WrittenOnce record.codeHash draft.codeHash ∧ WrittenOnce record.bankData draft.bankData := by
  rcases drafts.chooses with same | ⟨unchosen, _⟩
  · simp only [choice, Prod.mk.injEq] at same
    rcases same with ⟨chosen, challenge, codeHash, bankData⟩
    rw [chosen, challenge, codeHash, bankData]
    exact ⟨.refl _, .refl _, .refl _, .refl _⟩
  · rcases shaped unchosen with ⟨unchallenged, uncoded, unspoken⟩
    exact ⟨.of_eq_none unchosen _, .of_eq_none unchallenged _, .of_eq_none uncoded _,
      .of_eq_none unspoken _⟩

theorem precedes (drafts : Drafts record draft) (shaped : record.Shaped)
    (raised : draft.version < draft.version + 1) :
    Precedes record { draft with version := draft.version + 1 } where
  kept := by
    rw [drafts.kept]
  psu := drafts.psu
  chosen := (drafts.choice_writtenOnce shaped).1
  challenge := (drafts.choice_writtenOnce shaped).2.1
  codeHash := (drafts.choice_writtenOnce shaped).2.2.1
  bankData := (drafts.choice_writtenOnce shaped).2.2.2
  rank := drafts.rank
  version := by
    rw [← drafts.version_eq]
    exact Int64.le_of_lt raised
  unique same := by
    rw [← drafts.version_eq] at same
    exact absurd same (Int64.ne_of_lt raised).symm
  settled terminal := by
    rw [drafts.live] at terminal
    cases terminal

end Drafts

end Authorisation

/-! ## Records that are saved as they are -/

namespace MemoryStore

/-- Every record is stored as it was, except for its version. -/
def Resaves (before after : MemoryStore) : Prop :=
  ∀ id, ∃ version : Authorisation → Int64,
    after.record? id = (before.record? id).map fun record =>
      { record with version := version record }

namespace Resaves

variable {first second third : MemoryStore}

theorem of_record?_eq (same : ∀ id, second.record? id = first.record? id) :
    Resaves first second := by
  intro id
  refine ⟨(·.version), ?_⟩
  simp [same]

theorem trans (earlier : Resaves first second) (later : Resaves second third) :
    Resaves first third := by
  intro id
  rcases earlier id with ⟨raised, found⟩
  rcases later id with ⟨version, finds⟩
  refine ⟨fun record => version { record with version := raised record }, ?_⟩
  rw [finds, found, Option.map_map]
  rfl

theorem interfere (store : MemoryStore) (interference : Interference) :
    Resaves store (Store.interfere store interference) :=
  record?_interfere store interference

theorem foldl_interfere (store : MemoryStore) (interference : List Interference) :
    Resaves store (interference.foldl Store.interfere store) :=
  record?_foldl_interfere store interference

end Resaves

end MemoryStore

end StrongAuth
