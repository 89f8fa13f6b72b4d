import StrongAuth.Proofs.Codecs
import StrongAuth.Proofs.WrittenTime
import StrongAuth.Store.Table

/-! # Rows of authorisations and resources

Main statements: the row of an authorisation reads back as that authorisation if the text of a
timestamp says all of its timestamps, and the row of a resource as that resource if moreover its
status belongs to its kind. -/

namespace StrongAuth

/-- The text of a timestamp says all of every timestamp of the authorisation. -/
structure Authorisation.Storable (record : Authorisation) : Prop where
  redirectDeadline : record.redirectDeadline.Storable
  deadline : record.deadline.Storable
  created : record.created.Storable
  updated : record.updated.Storable

/-- The status is one of the kind, and the text of a timestamp says all of the creation. -/
structure Resource.Storable (resource : Resource) : Prop where
  fits : resource.status.fits resource.kind = true
  created : resource.created.Storable

instance (resource : Resource) : Decidable resource.Storable :=
  decidable_of_iff (resource.status.fits resource.kind = true ∧ resource.created.Storable)
    ⟨fun both => ⟨both.1, both.2⟩, fun storable => ⟨storable.fits, storable.created⟩⟩

namespace TableStore

open Time

/-! ## Cells -/

theorem readTime_microsText {instant : Timestamp} (storable : instant.Storable) :
    readTime instant.microsText = .ok instant := by
  rw [readTime, storable.readStrict]
  rfl

theorem readJson_encode {α : Type} [Codec α] [LawfulCodec α] (value : α) :
    (readJson (Codec.encode value) : Except StoreFault α) = .ok value := by
  rw [readJson, Codec.decode_encode]
  rfl

theorem readOptionalJson_ofOption {α : Type} [Codec α] [LawfulCodec α] (value : Option α) :
    readOptionalJson (.ofOption writeJson value) = .ok value := by
  cases value with
  | none => rfl
  | some value =>
      have read := readJson_encode value
      simp only [readOptionalJson, Cell.ofOption, writeJson, Cell.readOptionalText, bind,
        Except.bind, read]
      rfl

theorem readOptionalText_ofOption (value : Option String) :
    (Cell.ofOption .text value).readOptionalText = .ok value := by
  cases value <;> rfl

theorem readOptionalBytes_ofOption (value : Option (List UInt8)) :
    (Cell.ofOption .blob value).readOptionalBytes = .ok value := by
  cases value <;> rfl

theorem readBool_ofBool (value : Bool) : (Cell.ofBool value).readBool = .ok value := by
  cases value <;> rfl

section Attempts

variable (count : UInt32)

theorem toInt_ofAttempts : (Int64.ofNat count.toNat).toInt = count.toNat :=
  Int64.toInt_ofNat_of_lt (by have := count.toNat_lt; omega)

theorem attempts_within :
    ¬ (Int64.ofNat count.toNat < 0 ∨ 4294967295 < Int64.ofNat count.toNat) := by
  have bound := count.toNat_lt
  simp only [Int64.lt_iff_toInt_lt, toInt_ofAttempts]
  change ¬ ((count.toNat : Int) < 0 ∨ 4294967295 < (count.toNat : Int))
  omega

theorem ofNat_toNatClampNeg : UInt32.ofNat (Int64.ofNat count.toNat).toNatClampNeg = count := by
  rw [Int64.toNatClampNeg, toInt_ofAttempts, Int.toNat_natCast, UInt32.ofNat_toNat]

end Attempts

/-! ## Whole rows -/

theorem readRecord_writeRecord_eq (record : Authorisation) :
    readRecord (writeRecord record) = do
      let redirectDeadline ← readTime record.redirectDeadline.microsText
      let deadline ← readTime record.deadline.microsText
      let created ← readTime record.created.microsText
      let updated ← readTime record.updated.microsText
      return { record with redirectDeadline, deadline, created, updated } := by
  have kind : readWord (ResourceKind.parse (Vocabulary.word record.kind)) = .ok record.kind := by
    rw [ResourceKind.parse, Vocabulary.parse_word]
    rfl
  have status : readWord (Status.parse (Vocabulary.word record.status)) = .ok record.status := by
    rw [Status.parse, Vocabulary.parse_word]
    rfl
  have approach : readWord (Approach.parse (Vocabulary.word record.approach)) =
      .ok record.approach := by
    rw [Approach.parse, Vocabulary.parse_word]
    rfl
  simp only [readRecord, writeRecord, writeTime, Cell.readText, Cell.readInteger, writeJson, bind,
    Except.bind, kind, readOptionalJson_ofOption, status, approach, readJson_encode,
    readOptionalText_ofOption, readOptionalBytes_ofOption, attempts_within, if_false, pure,
    Except.pure, ofNat_toNatClampNeg]

theorem readRecord_writeRecord {record : Authorisation} (storable : record.Storable) :
    readRecord (writeRecord record) = .ok record := by
  rw [readRecord_writeRecord_eq, readTime_microsText storable.redirectDeadline,
    readTime_microsText storable.deadline, readTime_microsText storable.created,
    readTime_microsText storable.updated]
  rfl

theorem readResource_writeResource_eq (resource : Resource) :
    readResource (writeResource resource) = do
      let status ← readWord (ParentStatus.parse resource.kind resource.status.word)
      let created ← readTime resource.created.microsText
      return { resource with status, created } := by
  have kind : readWord (ResourceKind.parse (Vocabulary.word resource.kind)) =
      .ok resource.kind := by
    rw [ResourceKind.parse, Vocabulary.parse_word]
    rfl
  simp only [readResource, writeResource, writeTime, Cell.readText, writeJson, bind, Except.bind,
    kind, readBool_ofBool, readJson_encode, pure, Except.pure]

theorem readResource_writeResource {resource : Resource} (storable : resource.Storable) :
    readResource (writeResource resource) = .ok resource := by
  rw [readResource_writeResource_eq, ParentStatus.parse_word storable.fits,
    readTime_microsText storable.created]
  rfl

end TableStore

end StrongAuth
