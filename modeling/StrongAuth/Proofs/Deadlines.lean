import StrongAuth.Proofs.Legibility
import StrongAuth.Proofs.Registrations

/-! # Deadlines compared as text

Main statement: written timestamps of the years 0 to 9999, leap seconds included, have the byte
order of what is read of them, which is the timestamp cut to the microsecond; so after any calls
the tables find the live authorisations that are expired at the reading of the clock, cut in the
same way, and no others. -/

namespace StrongAuth

/-! ## The order of bytes -/

namespace Text

/-- The bytes of a character, one to four of them, hold its code in digits to the base 64. -/
theorem exists_utf8EncodeChar_eq (char : Char) : ∃ first second third fourth : Nat,
    char.toNat = 262144 * first + 4096 * second + 64 * third + fourth ∧
      first < 8 ∧ second < 64 ∧ third < 64 ∧ fourth < 64 ∧
      String.utf8EncodeChar char = List.map UInt8.ofNat
        (if char.toNat ≤ 127 then [char.toNat]
        else if char.toNat ≤ 2047 then [third + 192, fourth + 128]
        else if char.toNat ≤ 65535 then [second + 224, third + 128, fourth + 128]
        else [first + 240, second + 128, third + 128, fourth + 128]) := by
  have bound : char.toNat < 1114112 := by
    rcases char.valid with small | ⟨_, small⟩
    · exact Nat.lt_trans small (by decide)
    · exact small
  refine ⟨char.toNat / 262144, char.toNat / 4096 % 64, char.toNat / 64 % 64, char.toNat % 64,
    by omega, by omega, by omega, by omega, by omega, ?_⟩
  have code : char.val.toNat = char.toNat := rfl
  simp only [String.utf8EncodeChar, code]
  split
  · rfl
  split
  · have lead : char.toNat / 64 % 32 = char.toNat / 64 % 64 := by omega
    rw [lead]
    rfl
  split
  · have lead : char.toNat / 4096 % 16 = char.toNat / 4096 % 64 := by omega
    rw [lead]
    rfl
  · have lead : char.toNat / 262144 % 8 = char.toNat / 262144 := by omega
    rw [lead]
    rfl

theorem ofNat_cons_lt_iff {byte other : Nat} (byteSmall : byte < 256) (otherSmall : other < 256)
    {rest others : List UInt8} : UInt8.ofNat byte :: rest < UInt8.ofNat other :: others ↔
      byte < other ∨ byte = other ∧ rest < others := by
  rw [List.cons_lt_cons_iff, UInt8.lt_iff_toNat_lt, ← UInt8.toNat_inj, UInt8.toNat_ofNat',
    UInt8.toNat_ofNat', Nat.mod_eq_of_lt byteSmall, Nat.mod_eq_of_lt otherSmall]

theorem utf8EncodeChar_append_lt {char other : Char} (less : char < other)
    (rest others : List UInt8) :
    String.utf8EncodeChar char ++ rest < String.utf8EncodeChar other ++ others := by
  have codes : char.toNat < other.toNat := less
  rcases exists_utf8EncodeChar_eq char with ⟨_, _, _, _, code, _, _, _, _, bytes⟩
  rcases exists_utf8EncodeChar_eq other with ⟨_, _, _, _, otherCode, _, _, _, _, otherBytes⟩
  rw [bytes, otherBytes]
  -- Of two lengths, the first byte of the longer is greater; at one length, the digits decide.
  split_ifs <;>
    simp (disch := omega) only [List.map_cons, List.map_nil, List.cons_append, List.nil_append,
      ofNat_cons_lt_iff] <;>
    grind

theorem flatMap_utf8EncodeChar_lt : ∀ {left right : List Char}, left < right →
    left.flatMap String.utf8EncodeChar < right.flatMap String.utf8EncodeChar
  | left, [], less => absurd less (List.not_lt_nil left)
  | [], char :: right, _ => by
      have encoded : String.utf8EncodeChar char ≠ [] :=
        List.ne_nil_of_length_pos (String.length_utf8EncodeChar char ▸ char.utf8Size_pos)
      rw [List.flatMap_cons, ← List.cons_head_tail encoded]
      exact List.nil_lt_cons _ _
  | char :: left, other :: right, less => by
      rw [List.flatMap_cons, List.flatMap_cons]
      rcases List.cons_lt_cons_iff.mp less with smaller | ⟨rfl, behind⟩
      · exact utf8EncodeChar_append_lt smaller _ _
      · exact List.append_left_lt (flatMap_utf8EncodeChar_lt behind)

/-- Texts are in the order of their bytes. -/
theorem utf8_lt_iff {left right : String} : utf8 left < utf8 right ↔ left < right := by
  rw [String.lt_iff]
  constructor
  · intro less
    rcases lt_trichotomy left.toList right.toList with smaller | same | greater
    · exact smaller
    · rw [utf8, utf8, same] at less
      exact absurd less (List.lt_irrefl _)
    · exact absurd (flatMap_utf8EncodeChar_lt greater) (List.lt_asymm less)
  · exact flatMap_utf8EncodeChar_lt

end Text

/-- The byte order of written timestamps is chronological, up to what lies below a microsecond. -/
theorem Time.Timestamp.utf8_microsText_lt_iff {left right : Timestamp}
    (leftYear : left.FourDigits) (rightYear : right.FourDigits) :
    Text.utf8 left.microsText < Text.utf8 right.microsText ↔
      left.truncateMicros < right.truncateMicros :=
  Text.utf8_lt_iff.trans (microsText_lt_iff leftYear rightYear)

/-! ## Tables of legible authorisations -/

/-- What the call writes of timestamps lies in the years 0 to 9999, and there is a version after
that of a draft. -/
def StoreCall.Legible : StoreCall → Prop
  | .insert record => record.Legible
  | .save draft => draft.updated.FourDigits ∧ draft.version ≠ Int64.maxValue
  | _ => True

instance : (call : StoreCall) → Decidable call.Legible
  | .insert record => inferInstanceAs (Decidable record.Legible)
  | .save draft => inferInstanceAs (Decidable (draft.updated.FourDigits ∧ draft.version ≠ Int64.maxValue))
  | .get _ | .listByParent _ | .listExpired _ | .register _ | .resource _ | .setParentStatus .. =>
      isTrue trivial

/-- A stored authorisation after a save: what a save does not change is as it was. -/
def Authorisation.resaved (stored draft : Authorisation) : Authorisation :=
  { draft with
    parent := stored.parent
    kind := stored.kind
    approach := stored.approach
    redirectDeadline := stored.redirectDeadline
    deadline := stored.deadline
    version := draft.version + 1
    created := stored.created
    updated := draft.updated.truncateMicros }

namespace TableStore

variable {tables later : TableStore} {memory : MemoryStore} {record draft saved : Authorisation}

/-- The rows are those of the authorisations in memory, which can be read back from them. -/
structure Holds (tables : TableStore) (memory : MemoryStore) : Prop where
  rows : tables.authorisations = memory.tabulate.authorisations
  storable : memory.Storable

theorem updateRecord_writeRecord_resaved {stored : Authorisation} (same : stored.id = draft.id)
    (room : draft.version ≠ Int64.maxValue) :
    updateRecord draft (writeRecord stored) = writeRecord (stored.resaved draft) := by
  funext column
  cases column <;>
    simp [updateRecord, writeRecord, writeTime, Authorisation.resaved, same, room,
      Time.Timestamp.microsText_truncateMicros]

namespace Holds

theorem empty : Holds .empty .empty where
  rows := rfl
  storable := ⟨List.nodup_nil, List.nodup_nil, List.forall_mem_nil _, List.forall_mem_nil _⟩

theorem find? (holds : tables.Holds memory) (id : String) :
    TableStore.find? id tables.authorisations = (memory.record? id).map writeRecord := by
  rw [holds.rows]
  exact memory.find?_records id

theorem insert (holds : tables.Holds memory) (legible : record.Legible)
    (accepted : TableStore.insert record tables = .ok later) : ∃ filed, later.Holds filed := by
  rcases insert_eq_ok accepted with ⟨missing, rfl⟩
  have unknown : memory.record? record.id = none := by
    rw [holds.find?, Option.map_eq_none_iff] at missing
    exact missing
  have inserted : memory.insert record.truncated =
      .ok { memory with records := memory.records ++ [record.truncated] } := by
    rw [MemoryStore.insert, show memory.record? record.truncated.id = none from unknown]
  refine ⟨_, ?_, holds.storable.insert (fun _ => legible.storable_truncated) inserted⟩
  simp [holds.rows, MemoryStore.tabulate, writeRecord_truncated]

theorem save (holds : tables.Holds memory) (year : draft.updated.FourDigits)
    (room : draft.version ≠ Int64.maxValue)
    (accepted : TableStore.save draft tables = .ok (saved, later)) : ∃ filed, later.Holds filed := by
  rcases save_eq_ok accepted with ⟨row, found, _, rfl⟩
  rw [holds.find?, Option.map_eq_some_iff] at found
  rcases found with ⟨stored, finds, _⟩
  have kept := holds.storable.record? finds
  have fits : (stored.resaved draft).Storable :=
    ⟨kept.redirectDeadline, kept.deadline, kept.created, .of_truncateMicros year⟩
  refine ⟨memory.replace (stored.resaved draft), ?_, holds.storable.replace fits⟩
  have changed := @MemoryStore.change_records memory (stored.resaved draft) (updateRecord draft)
    fun other member sameId => by
      have single := MemoryStore.record?_of_mem holds.storable.distinct member
      rw [sameId, show (stored.resaved draft).id = draft.id from rfl, finds] at single
      cases single
      exact updateRecord_writeRecord_resaved sameId room
  rw [← changed, ← holds.rows]
  rfl

/-- The tables hold legible authorisations after a call that writes nothing else. -/
theorem perform {call : StoreCall} (holds : tables.Holds memory) (legible : call.Legible) :
    ∃ filed, (Store.perform tables call).2.Holds filed := by
  cases call with
  | insert record =>
      have performs : Store.perform tables (.insert record) =
        Store.settle tables ((TableStore.insert record tables).map fun later => ((), later)) := rfl
      rw [performs]
      cases accepted : TableStore.insert record tables with
      | error fault => exact ⟨memory, holds⟩
      | ok later => exact holds.insert legible accepted
  | save draft =>
      have performs : Store.perform tables (.save draft) =
        Store.settle tables (TableStore.save draft tables) := rfl
      rw [performs]
      cases accepted : TableStore.save draft tables with
      | error fault => exact ⟨memory, holds⟩
      | ok result => exact holds.save legible.1 legible.2 accepted
  | setParentStatus id status =>
      refine ⟨memory, ?_, holds.storable⟩
      rw [← holds.rows]
      dsimp only [Store.perform, Store.setParentStatus]
      unfold setParentStatus
      cases TableStore.find? id tables.resources <;> rfl
  | _ => exact ⟨memory, holds.rows, holds.storable⟩

theorem performAll {calls : List StoreCall} (holds : tables.Holds memory)
    (legible : ∀ call ∈ calls, call.Legible) :
    ∃ filed, (Store.performAll tables calls).Holds filed := by
  induction calls generalizing tables memory with
  | nil => exact ⟨memory, holds⟩
  | cons call calls induction =>
      rcases List.forall_mem_cons.mp legible with ⟨first, others⟩
      rcases holds.perform first with ⟨filed, later⟩
      exact induction later others

/-! ## Looking for what is overdue -/

theorem get (holds : tables.Holds memory) (id : String) :
    TableStore.get id tables = .ok (memory.record? id) := by
  rw [TableStore.get, holds.rows]
  exact holds.storable.get_tabulate id

theorem listExpired (holds : tables.Holds memory) {now : Time.Timestamp}
    (year : now.FourDigits) :
    TableStore.listExpired now tables = .ok (memory.listExpired now.truncateMicros) := by
  rw [TableStore.listExpired, holds.rows, ← now.microsText_truncateMicros]
  exact holds.storable.listExpired_tabulate (.of_truncateMicros year)

theorem mem_listExpired_iff (holds : tables.Holds memory) {now : Time.Timestamp} :
    record ∈ memory.listExpired now ↔ TableStore.get record.id tables = .ok (some record) ∧
      record.status.isTerminal = false ∧ record.isExpired now = true := by
  have stored : record ∈ memory.records ↔ memory.record? record.id = some record :=
    ⟨MemoryStore.record?_of_mem holds.storable.distinct,
      fun found => (MemoryStore.mem_of_record? found).1⟩
  rw [MemoryStore.listExpired, List.mem_filter, stored, holds.get, Except.ok.injEq,
    Authorisation.isOverdue, Bool.and_eq_true, Bool.not_eq_true']

theorem nodup_listExpired (holds : tables.Holds memory) (now : Time.Timestamp) :
    ((memory.listExpired now).map (·.id)).Nodup :=
  holds.storable.distinct.sublist (List.filter_sublist.map _)

end Holds

/-- Written timestamps have the byte order of what is read of them. After any calls that write
timestamps of the years 0 to 9999 and leave numbers as versions, tables list each authorisation that they give as live and
expired at the reading of the clock, cut to the microsecond, and list it once. -/
theorem text_order_chronological :
    (∀ left right : Time.Timestamp, left.FourDigits → right.FourDigits →
      (Text.utf8 left.microsText < Text.utf8 right.microsText ↔
        left.truncateMicros < right.truncateMicros)) ∧
    (∀ instant : Time.Timestamp, instant.FourDigits →
      readTime instant.microsText = .ok instant.truncateMicros) ∧
    ∀ calls : List StoreCall, (∀ call ∈ calls, call.Legible) →
      ∀ now : Time.Timestamp, now.FourDigits →
        let tables := Store.performAll TableStore.empty calls
        ∃ expired, Store.listExpired now tables = .ok expired ∧ (expired.map (·.id)).Nodup ∧
          ∀ record, record ∈ expired ↔ Store.get record.id tables = .ok (some record) ∧
            record.status.isTerminal = false ∧ record.isExpired now.truncateMicros = true := by
  refine ⟨fun left right => Time.Timestamp.utf8_microsText_lt_iff,
    fun instant => readTime_of_fourDigits, ?_⟩
  intro calls legible now year tables
  rcases Holds.empty.performAll legible with ⟨memory, holds⟩
  exact ⟨memory.listExpired now.truncateMicros, holds.listExpired year,
    holds.nodup_listExpired _, fun record => holds.mem_listExpired_iff⟩

/-- A deadline within a leap second, in nanoseconds, as it passes: the microsecond of the deadline
is not late, the one after it is, and the next minute as well. What is done is not late any more. -/
theorem leap_second_deadline_passes :
    let leap (nano : Fin 1000000000) : Time.Timestamp :=
      ⟨1483228799, 1000000000 + nano, by decide, by decide, by omega, fun _ => by decide⟩
    let deadline := leap 123456789
    let minute : Time.Timestamp := ⟨1483228800, 0, by decide, by decide, by decide, by decide⟩
    let opened (id : String) : Authorisation := { (default : Authorisation) with
      id, redirectDeadline := minute, deadline }
    let calls : List StoreCall := [.insert (opened "live"), .insert (opened "done"),
      .save { opened "done" with status := .finalised, updated := minute }]
    let tables := Store.performAll TableStore.empty calls
    (∀ call ∈ calls, call.Legible) ∧ deadline.FourDigits ∧ minute.FourDigits ∧
      Text.utf8 deadline.microsText < Text.utf8 minute.microsText ∧
      readTime "2016-12-31T23:59:60.123456Z" = .ok deadline.truncateMicros ∧
      (∀ now ∈ [leap 123456999, leap 123457000, minute], now.FourDigits ∧
        ∃ expired, Store.listExpired now tables = .ok expired ∧ (expired.map (·.id)).Nodup ∧
          ∀ record, record ∈ expired ↔ Store.get record.id tables = .ok (some record) ∧
            record.status.isTerminal = false ∧ record.isExpired now.truncateMicros = true) ∧
      [leap 123456999, leap 123457000, minute].map (fun now =>
        (Store.listExpired now tables).map fun expired => expired.map (·.id)) =
        [.ok [], .ok ["live"], .ok ["live"]] := by
  intro leap deadline minute opened calls tables
  have legible : ∀ call ∈ calls, call.Legible := by decide +kernel
  have years : ∀ now ∈ [leap 123456999, leap 123457000, minute], now.FourDigits := by
    decide +kernel
  have deadlineYear : deadline.FourDigits := by decide +kernel
  have minuteYear : minute.FourDigits := by decide +kernel
  have written : deadline.microsText = "2016-12-31T23:59:60.123456Z" := by decide +kernel
  rcases text_order_chronological with ⟨ordered, reads, lists⟩
  refine ⟨legible, deadlineYear, minuteYear, ?_, ?_, ?_, by decide +kernel⟩
  · exact (ordered deadline minute deadlineYear minuteYear).mpr (by decide +kernel)
  · exact written ▸ reads deadline deadlineYear
  · exact fun now member => ⟨years now member, lists calls legible now (years now member)⟩

end TableStore

end StrongAuth
