import StrongAuth.Config
import StrongAuth.Proofs.Tabulation
import StrongAuth.Proofs.Versions

/-! # What tables read back

Tables take every authorisation, and read back what has timestamps in the years 0 to 9999 only.
Main statement: an authorisation that was inserted is read back cut to the microsecond if it is
legible in this sense; otherwise every look at it, at the authorisations of its parent or at the
expired ones among which it counts fails. What is saved is read back in the same way. -/

namespace StrongAuth

/-! ## Legible authorisations -/

namespace Authorisation

variable {record : Authorisation}

/-- The timestamps in the order in which they are read. -/
def instants (record : Authorisation) : List Time.Timestamp :=
  [record.redirectDeadline, record.deadline, record.created, record.updated]

/-- All timestamps lie in the years 0 to 9999. -/
def Legible (record : Authorisation) : Prop :=
  ∀ instant ∈ record.instants, instant.FourDigits

instance (record : Authorisation) : Decidable record.Legible :=
  inferInstanceAs (Decidable (∀ _ ∈ _, _))

def truncated (record : Authorisation) : Authorisation :=
  { record with
    redirectDeadline := record.redirectDeadline.truncateMicros
    deadline := record.deadline.truncateMicros
    created := record.created.truncateMicros
    updated := record.updated.truncateMicros }

theorem Legible.storable_truncated (legible : record.Legible) : record.truncated.Storable where
  redirectDeadline := .of_truncateMicros (legible _ (by simp [instants]))
  deadline := .of_truncateMicros (legible _ (by simp [instants]))
  created := .of_truncateMicros (legible _ (by simp [instants]))
  updated := .of_truncateMicros (legible _ (by simp [instants]))

/-- What tables read of the authorisation: the first timestamp with a sign is a fault. -/
def reading (record : Authorisation) : Except StoreFault Authorisation :=
  match record.instants.find? fun instant => ¬ instant.FourDigits with
  | none => .ok record.truncated
  | some instant => .error (.invalidData (.timestamp instant.microsText .invalid))

theorem reading_of_legible (legible : record.Legible) :
    record.reading = .ok record.truncated := by
  have signed : record.instants.find? (fun instant => ¬ instant.FourDigits) = none := by
    rw [List.find?_eq_none]
    intro instant member
    simpa using legible instant member
  rw [reading, signed]

theorem reading_of_illegible (illegible : ¬ record.Legible) : ∃ instant ∈ record.instants,
    ¬ instant.FourDigits ∧
      record.reading = .error (.invalidData (.timestamp instant.microsText .invalid)) := by
  unfold reading
  cases signed : record.instants.find? fun instant => ¬ instant.FourDigits with
  | none =>
      refine absurd ?_ illegible
      intro instant member
      simpa using List.find?_eq_none.mp signed instant member
  | some instant =>
      exact ⟨instant, List.mem_of_find?_eq_some signed, by simpa using List.find?_some signed, rfl⟩

end Authorisation

namespace TableStore

open Time

theorem readTime_of_fourDigits {instant : Timestamp} (year : instant.FourDigits) :
    readTime instant.microsText = .ok instant.truncateMicros := by
  rw [readTime, Timestamp.readStrict_microsText year]
  rfl

theorem readTime_of_signed {instant : Timestamp} (signed : ¬ instant.FourDigits) :
    readTime instant.microsText =
      .error (.invalidData (.timestamp instant.microsText .invalid)) := by
  rw [readTime, Timestamp.readStrict_microsText_of_signed signed]
  rfl

theorem writeRecord_truncated (record : Authorisation) :
    writeRecord record.truncated = writeRecord record := by
  funext column
  cases column <;>
    simp [writeRecord, writeTime, Authorisation.truncated, Timestamp.microsText_truncateMicros]

theorem readRecord_writeRecord_reading (record : Authorisation) :
    readRecord (writeRecord record) = record.reading := by
  rw [readRecord_writeRecord_eq]
  unfold Authorisation.reading Authorisation.instants
  by_cases redirectDeadline : record.redirectDeadline.FourDigits
  · by_cases deadline : record.deadline.FourDigits
    · by_cases created : record.created.FourDigits
      · by_cases updated : record.updated.FourDigits
        · simp [redirectDeadline, deadline, created, updated, readTime_of_fourDigits]
          rfl
        · simp [redirectDeadline, deadline, created, updated, readTime_of_fourDigits,
            readTime_of_signed]
          rfl
      · simp [redirectDeadline, deadline, created, readTime_of_fourDigits, readTime_of_signed]
        rfl
    · simp [redirectDeadline, deadline, readTime_of_fourDigits, readTime_of_signed]
      rfl
  · simp [redirectDeadline, readTime_of_signed]
    rfl

/-! ## Lists of rows -/

section Lists

variable {α β ε : Type} {read : α → Except ε β} {first : α} {rows others : List α}
  {answers : List β}

theorem mapM_cons_eq_ok_iff :
    (first :: rows).mapM read = .ok answers ↔
      ∃ answer rest, read first = .ok answer ∧ rows.mapM read = .ok rest ∧
        answers = answer :: rest := by
  rw [List.mapM_cons]
  cases read first with
  | error fault => simp [bind, Except.bind]
  | ok answer =>
      cases rows.mapM read with
      | error fault => simp [bind, Except.bind]
      | ok rest => simp [bind, Except.bind, pure, Except.pure, eq_comm]

theorem mapM_perm (same : rows.Perm others) (reads : rows.mapM read = .ok answers) :
    ∃ listed, others.mapM read = .ok listed ∧ listed.Perm answers := by
  induction same generalizing answers with
  | nil => exact ⟨answers, reads, .refl _⟩
  | cons row same induction =>
      rcases mapM_cons_eq_ok_iff.mp reads with ⟨answer, rest, readsFirst, readsRest, rfl⟩
      rcases induction readsRest with ⟨listed, readsOthers, perm⟩
      exact ⟨answer :: listed,
        mapM_cons_eq_ok_iff.mpr ⟨answer, listed, readsFirst, readsOthers, rfl⟩, perm.cons answer⟩
  | swap left right rows =>
      rcases mapM_cons_eq_ok_iff.mp reads with ⟨answer, tail, readsRight, readsTail, rfl⟩
      rcases mapM_cons_eq_ok_iff.mp readsTail with ⟨second, rest, readsLeft, readsRest, rfl⟩
      refine ⟨second :: answer :: rest, ?_, .swap _ _ _⟩
      exact mapM_cons_eq_ok_iff.mpr ⟨second, _, readsLeft,
        mapM_cons_eq_ok_iff.mpr ⟨answer, rest, readsRight, readsRest, rfl⟩, rfl⟩
  | trans first second inductionFirst inductionSecond =>
      rcases inductionFirst reads with ⟨middle, readsMiddle, permFirst⟩
      rcases inductionSecond readsMiddle with ⟨listed, readsListed, permSecond⟩
      exact ⟨listed, readsListed, permSecond.trans permFirst⟩

theorem exists_mapM_iff :
    (∃ answers, rows.mapM read = .ok answers) ↔ ∀ row ∈ rows, ∃ answer, read row = .ok answer := by
  induction rows with
  | nil => exact iff_of_true ⟨[], rfl⟩ (List.forall_mem_nil _)
  | cons first rows induction =>
      rw [List.forall_mem_cons, ← induction]
      constructor
      · rintro ⟨_, reads⟩
        rcases mapM_cons_eq_ok_iff.mp reads with ⟨answer, rest, readsFirst, readsRest, _⟩
        exact ⟨⟨answer, readsFirst⟩, rest, readsRest⟩
      · rintro ⟨⟨answer, readsFirst⟩, rest, readsRest⟩
        exact ⟨_, mapM_cons_eq_ok_iff.mpr ⟨answer, rest, readsFirst, readsRest, rfl⟩⟩

theorem mapM_error_of_mem {row : α} (member : row ∈ rows) {fault : ε}
    (fails : read row = .error fault) : ∃ fault, rows.mapM read = .error fault := by
  cases reads : rows.mapM read with
  | error fault => exact ⟨fault, rfl⟩
  | ok answers =>
      rcases exists_mapM_iff.mp ⟨answers, reads⟩ row member with ⟨answer, readsRow⟩
      cases fails.symm.trans readsRow

end Lists

/-! ## Saved rows -/

variable {store later : TableStore} {record draft loaded saved : Authorisation}

/-- The time of its change is among what is read of a row. -/
theorem updated_of_readRecord {row : Row AuthorisationColumn}
    (reads : readRecord row = .ok loaded) :
    ∃ text, (row .updated).readText = .ok text ∧ readTime text = .ok loaded.updated := by
  simp only [readRecord, bind_eq_ok_iff] at reads
  rcases reads with ⟨_, _, _, _, _, _, _, _, _, _, _, _, _, _, _, _, text, cell, reads⟩
  iterate 11 rcases reads with ⟨_, _, reads⟩
  split at reads
  · cases reads
  · simp only [bind_eq_ok_iff] at reads
    rcases reads with ⟨_, _, _, _, _, _, _, _, _, updated, whole⟩
    cases whole
    exact ⟨text, cell, updated⟩

/-- From a row that is updated what was saved is read back, as long as the rest of it is as it was
loaded and there is a version after that of the draft. -/
theorem readRecord_updateRecord {row : Row AuthorisationColumn}
    (reads : readRecord row = .ok loaded) (same : loaded.SameOpening draft)
    (year : draft.updated.FourDigits) (room : draft.version ≠ Int64.maxValue) :
    readRecord (updateRecord draft row) = .ok { draft with
      version := draft.version + 1
      updated := draft.updated.truncateMicros } := by
  simp only [readRecord, bind_eq_ok_iff] at reads
  rcases reads with ⟨kindText, kindCell, _, _, approachText, approachCell, _, _, _, _,
    redirectText, redirectCell, deadlineText, deadlineCell, createdText, createdCell, _, _,
    id, idCell, parent, parentCell, kind, kindRead, _, _, _, _, approach, approachRead,
    _, _, _, _, _, _, _, _, _, _, reads⟩
  split at reads
  · cases reads
  · simp only [bind_eq_ok_iff] at reads
    rcases reads with ⟨redirectDeadline, redirectRead, deadline, deadlineRead, _, _,
      created, createdRead, _, _, whole⟩
    cases whole
    have status : readWord (Status.parse (Vocabulary.word draft.status)) = .ok draft.status := by
      rw [Status.parse, Vocabulary.parse_word]
      rfl
    simp only [readRecord, bind_eq_ok_iff]
    refine ⟨kindText, kindCell, _, rfl, approachText, approachCell, _, rfl, _, rfl,
      redirectText, redirectCell, deadlineText, deadlineCell, createdText, createdCell, _, rfl,
      id, idCell, parent, parentCell, kind, kindRead, _, readOptionalJson_ofOption _,
      _, status, approach, approachRead, _, readOptionalJson_ofOption _, _, readJson_encode _,
      _, readOptionalJson_ofOption _, _, readOptionalText_ofOption _,
      _, readOptionalBytes_ofOption _, ?_⟩
    have version : (updateRecord draft row .version).readInteger = .ok (draft.version + 1) := by
      rw [updateRecord, if_neg room]
      rfl
    rw [if_neg (attempts_within _)]
    simp only [bind_eq_ok_iff]
    refine ⟨_, redirectRead, _, deadlineRead, _, version, _, createdRead, _,
      readTime_of_fourDigits year, ?_⟩
    rcases same with ⟨sameId, sameParent, sameKind, sameApproach, sameRedirect, sameDeadline,
      sameCreated⟩
    dsimp only at sameId sameParent sameKind sameApproach sameRedirect sameDeadline sameCreated
    simp only [sameId, sameParent, sameKind, sameApproach, sameRedirect, sameDeadline,
      sameCreated, ofNat_toNatClampNeg]
    rfl

/-- Nothing is read of a row that was changed at a time with a sign in front. -/
theorem readRecord_updateRecord_of_signed {row : Row AuthorisationColumn}
    (signed : ¬ draft.updated.FourDigits) :
    ∃ fault, readRecord (updateRecord draft row) = .error fault := by
  cases read : readRecord (updateRecord draft row) with
  | error fault => exact ⟨fault, rfl⟩
  | ok record =>
      rcases updated_of_readRecord read with ⟨text, cell, readsUpdated⟩
      have sameText : draft.updated.microsText = text := Except.ok.inj cell
      rw [← sameText, readTime_of_signed signed] at readsUpdated
      cases readsUpdated

/-- From a row whose version is past the greatest nothing is read. -/
theorem readRecord_updateRecord_of_top {row : Row AuthorisationColumn}
    (top : draft.version = Int64.maxValue) :
    ∃ fault, readRecord (updateRecord draft row) = .error fault := by
  cases read : readRecord (updateRecord draft row) with
  | error fault => exact ⟨fault, rfl⟩
  | ok record =>
      have version := version_of_readRecord read
      rw [updateRecord, if_pos top] at version
      cases version

/-! ## The tables -/

theorem get_of_find? {id : String} {row : Row AuthorisationColumn}
    (found : find? id store.authorisations = some row) :
    get id store = (readRecord row).map some := by
  rw [get, found, Option.mapM_some]
  cases readRecord row <;> rfl

theorem isOverdue_writeRecord_of_legible {now : Timestamp} (legible : record.Legible)
    (year : now.FourDigits) : isOverdue now.microsText (writeRecord record) =
      record.truncated.isOverdue now.truncateMicros := by
  rw [← writeRecord_truncated, ← Timestamp.microsText_truncateMicros now]
  exact MemoryStore.isOverdue_writeRecord legible.storable_truncated (.of_truncateMicros year)

/-- A live authorisation counts as expired at all times if a deadline has a sign in front. -/
theorem isOverdue_writeRecord_of_signed {now : Timestamp}
    (live : record.status.isTerminal = false)
    (signed : ¬ record.redirectDeadline.FourDigits ∨ ¬ record.deadline.FourDigits)
    (year : now.FourDigits) : isOverdue now.microsText (writeRecord record) = true := by
  have passed : record.redirectDeadline.microsText < now.microsText ∨
      record.deadline.microsText < now.microsText := by
    rcases signed with signed | signed
    · exact .inl (Timestamp.microsText_lt_of_signed signed year)
    · exact .inr (Timestamp.microsText_lt_of_signed signed year)
  simp only [isOverdue, writeRecord, writeTime, Cell.textOf, MemoryStore.terminalWords_contains,
    live]
  simpa using passed

theorem readRecord_writeRecord_of_illegible (illegible : ¬ record.Legible) :
    ∃ fault, readRecord (writeRecord record) = .error fault := by
  rcases Authorisation.reading_of_illegible illegible with ⟨_, _, _, fails⟩
  exact ⟨_, (readRecord_writeRecord_reading record).trans fails⟩

theorem readRecord_writeRecord_of_legible (legible : record.Legible) :
    readRecord (writeRecord record) = .ok record.truncated :=
  (readRecord_writeRecord_reading record).trans (Authorisation.reading_of_legible legible)

/-! ## Insertions -/

theorem get_of_insert (accepted : insert record store = .ok later) :
    get record.id later = record.reading.map some := by
  rcases insert_eq_ok accepted with ⟨missing, rfl⟩
  have keyed : writeRecord record Schema.key = .text record.id := rfl
  have found : find? record.id (store.authorisations ++ [writeRecord record]) =
      some (writeRecord record) := by
    rw [find?_append keyed missing, if_pos rfl]
  rw [get_of_find? found, readRecord_writeRecord_reading]

theorem rowsOfParent_of_insert (accepted : insert record store = .ok later)
    (notLater : Row AuthorisationColumn → Row AuthorisationColumn → Bool) :
    ((later.authorisations.filter fun row => row .parent == .text record.parent).mergeSort
      notLater).Perm (writeRecord record ::
        (store.authorisations.filter fun row => row .parent == .text record.parent).mergeSort
          notLater) := by
  rcases insert_eq_ok accepted with ⟨_, rfl⟩
  have filed : (store.authorisations ++ [writeRecord record]).filter
      (fun row => row .parent == .text record.parent) =
      store.authorisations.filter (fun row => row .parent == .text record.parent) ++
        [writeRecord record] := by
    rw [List.filter_append]
    simp [writeRecord]
  dsimp only
  rw [filed]
  exact ((List.mergeSort_perm _ _).trans (List.perm_append_singleton _ _)).trans
    ((List.mergeSort_perm _ _).symm.cons _)

theorem listByParent_of_insert (accepted : insert record store = .ok later)
    (legible : record.Legible) {records : List Authorisation}
    (reads : listByParent record.parent store = .ok records) :
    ∃ listed, listByParent record.parent later = .ok listed ∧
      listed.Perm (record.truncated :: records) :=
  mapM_perm (rowsOfParent_of_insert accepted _).symm
    (mapM_cons_eq_ok_iff.mpr ⟨_, records, readRecord_writeRecord_of_legible legible, reads, rfl⟩)

theorem listByParent_of_insert_of_illegible (accepted : insert record store = .ok later)
    (illegible : ¬ record.Legible) : ∃ fault, listByParent record.parent later = .error fault := by
  rcases readRecord_writeRecord_of_illegible illegible with ⟨fault, fails⟩
  exact mapM_error_of_mem ((rowsOfParent_of_insert accepted _).mem_iff.mpr List.mem_cons_self)
    fails

theorem overdueRows_of_insert (accepted : insert record store = .ok later) {now : String}
    (counts : isOverdue now (writeRecord record) = true) :
    later.authorisations.filter (isOverdue now) =
      store.authorisations.filter (isOverdue now) ++ [writeRecord record] := by
  rcases insert_eq_ok accepted with ⟨_, rfl⟩
  dsimp only
  rw [List.filter_append]
  simp [counts]

theorem listExpired_of_insert (accepted : insert record store = .ok later)
    (legible : record.Legible) {now : Timestamp}
    (counts : isOverdue now.microsText (writeRecord record) = true)
    {records : List Authorisation} (reads : listExpired now store = .ok records) :
    listExpired now later = .ok (records ++ [record.truncated]) := by
  unfold listExpired at reads ⊢
  rw [overdueRows_of_insert accepted counts, List.mapM_append, reads, List.mapM_cons,
    readRecord_writeRecord_of_legible legible]
  rfl

theorem listExpired_of_insert_of_illegible (accepted : insert record store = .ok later)
    (illegible : ¬ record.Legible) {now : Timestamp}
    (counts : isOverdue now.microsText (writeRecord record) = true) :
    ∃ fault, listExpired now later = .error fault := by
  rcases readRecord_writeRecord_of_illegible illegible with ⟨fault, fails⟩
  unfold listExpired
  rw [overdueRows_of_insert accepted counts]
  exact mapM_error_of_mem (by simp) fails

/-- What is read of tables after an authorisation was inserted. -/
structure ReadsBack (record : Authorisation) (store later : TableStore) : Prop where
  got : get record.id later = record.reading.map some
  listed : record.Legible → ∀ records, listByParent record.parent store = .ok records →
    ∃ listed, listByParent record.parent later = .ok listed ∧
      listed.Perm (record.truncated :: records)
  unlisted : ¬ record.Legible → ∃ fault, listByParent record.parent later = .error fault
  expired : record.Legible → ∀ now : Timestamp,
    isOverdue now.microsText (writeRecord record) = true →
      ∀ records, listExpired now store = .ok records →
        listExpired now later = .ok (records ++ [record.truncated])
  unexpired : ¬ record.Legible → ∀ now : Timestamp,
    isOverdue now.microsText (writeRecord record) = true →
      ∃ fault, listExpired now later = .error fault

theorem readsBack_of_insert (accepted : insert record store = .ok later) :
    ReadsBack record store later where
  got := get_of_insert accepted
  listed legible _ reads := listByParent_of_insert accepted legible reads
  unlisted illegible := listByParent_of_insert_of_illegible accepted illegible
  expired legible _ counts _ reads := listExpired_of_insert accepted legible counts reads
  unexpired illegible _ counts := listExpired_of_insert_of_illegible accepted illegible counts

/-! ## Saves -/

/-- What is read of a record after it was saved, with all that a save does not change as it was
loaded. -/
theorem get_of_save (accepted : save draft store = .ok (saved, later))
    (loads : get draft.id store = .ok (some loaded)) (same : loaded.SameOpening draft) :
    saved = { draft with version := draft.version + 1 } ∧
      (draft.updated.FourDigits ∧ draft.version ≠ Int64.maxValue → get draft.id later =
        .ok (some { saved with updated := saved.updated.truncateMicros })) ∧
      (¬ (draft.updated.FourDigits ∧ draft.version ≠ Int64.maxValue) →
        ∃ fault, get draft.id later = .error fault) := by
  rcases save_eq_ok accepted with ⟨row, found, rfl, rfl⟩
  have reads : readRecord row = .ok loaded := by
    rw [get_of_find? found, map_eq_ok_iff] at loads
    rcases loads with ⟨record, reads, whole⟩
    exact Option.some.inj whole ▸ reads
  have keyed (row : Row AuthorisationColumn) :
      updateRecord draft row Schema.key = row Schema.key := rfl
  have finds : find? draft.id (change draft.id (updateRecord draft) store.authorisations) =
      some (updateRecord draft row) := by
    rw [find?_change keyed, if_pos rfl, found]
    rfl
  refine ⟨rfl, ?_, ?_⟩
  · rintro ⟨year, room⟩
    rw [get_of_find? finds, readRecord_updateRecord reads same year room]
    rfl
  · intro unreadable
    rw [get_of_find? finds]
    suffices fails : ∃ fault, readRecord (updateRecord draft row) = .error fault by
      rcases fails with ⟨fault, fails⟩
      exact ⟨fault, by rw [fails]; rfl⟩
    rcases Classical.not_and_iff_not_or_not.mp unreadable with signed | top
    · exact readRecord_updateRecord_of_signed signed
    · exact readRecord_updateRecord_of_top (Classical.not_not.mp top)

/-- Tables read back what was inserted if it is legible, and fail for it otherwise wherever it
comes up; with a sign in front of a deadline it comes up in every sweep as long as it is live.
What is saved is read back exactly if the time of the save is legible and its version is not the
greatest. -/
theorem reads_back_legible (store : TableStore) (record : Authorisation) :
    (∀ later, insert record store = .ok later → ReadsBack record store later) ∧
    (∀ now : Timestamp, now.FourDigits →
      (record.Legible → isOverdue now.microsText (writeRecord record) =
        record.truncated.isOverdue now.truncateMicros) ∧
      (record.status.isTerminal = false →
        ¬ record.redirectDeadline.FourDigits ∨ ¬ record.deadline.FourDigits →
        isOverdue now.microsText (writeRecord record) = true)) ∧
    ∀ (later : TableStore) (loaded saved : Authorisation),
      save record store = .ok (saved, later) → get record.id store = .ok (some loaded) →
      loaded.SameOpening record →
        saved = { record with version := record.version + 1 } ∧
        (record.updated.FourDigits ∧ record.version ≠ Int64.maxValue → get record.id later =
          .ok (some { saved with updated := saved.updated.truncateMicros })) ∧
        (¬ (record.updated.FourDigits ∧ record.version ≠ Int64.maxValue) →
          ∃ fault, get record.id later = .error fault) := by
  refine ⟨fun later accepted => readsBack_of_insert accepted, ?_, ?_⟩
  · intro now year
    exact ⟨fun legible => isOverdue_writeRecord_of_legible legible year,
      fun live signed => isOverdue_writeRecord_of_signed live signed year⟩
  · intro later loaded saved accepted loads same
    exact get_of_save accepted loads same

/-- A configuration may ask for authorisations that last for more than twelve thousand years. Such
an authorisation is inserted, and then neither it nor any list with it can be read, those of all
sweeps included. One that lasts for a day is read, and read again after a save. -/
theorem endless_authorisation_unreadable :
    let config : Config := { Config.standard with authorisationLifetime := 400000000000 }
    let payment : Resource :=
      ⟨"payment", .payment, .payment .received, false, false, false, [], .epoch⟩
    let opened? (seconds : Int) : Option Authorisation :=
      Authorisation.open? "first" payment none .embedded 600000000000 (seconds * 1000000000)
        .epoch
    config.validate = .ok () ∧ Config.duration? config.authorisationLifetime = some 400000000000 ∧
      (∃ record later, opened? 400000000000 = some record ∧
        insert record empty = .ok later ∧
        get "first" later = .error (.invalidData
          (.timestamp "+14645-06-30T15:06:40.000000Z" .invalid)) ∧
        (∃ fault, listByParent "payment" later = .error fault) ∧
        ∀ now : Timestamp, now.FourDigits → ∃ fault, listExpired now later = .error fault) ∧
      ∃ record later saved last, opened? 86400 = some record ∧ insert record empty = .ok later ∧
        get "first" later = .ok (some record) ∧ save record later = .ok (saved, last) ∧
        get "first" last = .ok (some saved) := by
  intro config payment opened?
  have endless : (opened? 400000000000).map (fun record => (record.id, record.parent,
      record.status, decide record.deadline.FourDigits, record.reading)) =
      some ("first", "payment", .received, false, .error (.invalidData
        (.timestamp "+14645-06-30T15:06:40.000000Z" .invalid))) := by decide +kernel
  have daily : (opened? 86400).map (fun record => (record.id, decide record.Legible,
      decide (record.truncated = record), record.version)) = some ("first", true, true, 0) := by
    decide +kernel
  refine ⟨by decide +kernel, by decide +kernel, ?_, ?_⟩
  · rcases Option.map_eq_some_iff.mp endless with ⟨record, opened, facts⟩
    simp only [Prod.mk.injEq, decide_eq_false_iff_not] at facts
    rcases facts with ⟨sameId, sameParent, received, signed, unread⟩
    have illegible : ¬ record.Legible := fun legible =>
      signed (legible _ (by simp [Authorisation.instants]))
    have accepted : insert record empty = .ok ⟨[writeRecord record], []⟩ := rfl
    have back := (reads_back_legible empty record).1 _ accepted
    refine ⟨record, _, opened, accepted, ?_, ?_, ?_⟩
    · rw [← sameId, back.got, unread]
      rfl
    · rw [← sameParent]
      exact back.unlisted illegible
    · intro now year
      have live : record.status.isTerminal = false := by rw [received]; rfl
      exact back.unexpired illegible now
        (((reads_back_legible empty record).2.1 now year).2 live (.inr signed))
  · rcases Option.map_eq_some_iff.mp daily with ⟨record, opened, facts⟩
    simp only [Prod.mk.injEq, decide_eq_true_eq] at facts
    rcases facts with ⟨sameId, legible, exact, initial⟩
    have room : record.version ≠ Int64.maxValue := by rw [initial]; decide
    have accepted : insert record empty = .ok ⟨[writeRecord record], []⟩ := rfl
    have got := ((reads_back_legible empty record).1 _ accepted).got
    rw [Authorisation.reading_of_legible legible, exact] at got
    have found : find? record.id [writeRecord record] = some (writeRecord record) := by
      simp [find?, writeRecord, Schema.key]
    have saves : save record ⟨[writeRecord record], []⟩ =
        .ok ({ record with version := record.version + 1 },
          ⟨change record.id (updateRecord record) [writeRecord record], []⟩) := by
      rw [save, found]
      simp [writeRecord, pure, Except.pure]
    have again := ((reads_back_legible ⟨[writeRecord record], []⟩ record).2.2 _ record _ saves got
      ⟨rfl, rfl, rfl, rfl, rfl, rfl, rfl⟩).2.1
        ⟨legible _ (by simp [Authorisation.instants]), room⟩
    have same : record.updated.truncateMicros = record.updated :=
      congrArg Authorisation.updated exact
    rw [same] at again
    refine ⟨record, _, _, _, opened, accepted, ?_, saves, ?_⟩
    · rw [← sameId]
      exact got
    · rw [← sameId]
      exact again

end TableStore

end StrongAuth
