import Mathlib.Data.List.Nodup
import StrongAuth.Codec.Authorisation
import StrongAuth.Proofs.MemberOrder

/-! # Values and their JSON forms

A codec is lawful if it reads what it writes, in whatever order the members of objects come.
Main statement: the text of a value of a lawful codec decodes to that value; the codecs of words,
numbers, lists and of the values that authorisations and resources hold are lawful. -/

namespace StrongAuth

open Json

/-- What is written is read again, in whatever order its members come, and is never taken for
a missing value. -/
class LawfulCodec (α : Type) [Codec α] : Prop where
  fits : ∀ value : α, (Codec.toJson value).Fits
  reads : ∀ (value : α) {json : Json}, (Codec.toJson value).Rearranged json →
    Codec.reader (.ofJson json) = .ok value
  present : ∀ value : α, Codec.toJson value ≠ .null

namespace Codec

variable {α : Type} [Codec α] [LawfulCodec α]

theorem decode_encode (value : α) : decode (encode value) = .ok value := by
  unfold decode encode
  rw [decode_compact _ (LawfulCodec.fits value), LawfulCodec.reads value (.refl _)]

/-! ## Options -/

theorem fits_option (value : Option α) : (toJson value).Fits := by
  cases value with
  | none => trivial
  | some value => exact LawfulCodec.fits value

theorem reads_option (value : Option α) {json : Json} (same : (toJson value).Rearranged json) :
    Reader.option Codec.reader (.ofJson json) = .ok value := by
  cases value with
  | none =>
      cases same
      rfl
  | some value =>
      change (toJson value : Json).Rearranged json at same
      have reads := LawfulCodec.reads value same
      cases json with
      | null =>
          generalize written : (toJson value : Json) = form at same
          cases same
          exact absurd written (LawfulCodec.present value)
      | bool | number | text | array | object =>
          simp only [Raw.ofJson, Reader.option] at reads ⊢
          rw [reads]
          rfl

/-! ## Lists -/

theorem fitItems_map (values : List α) : FitItems (values.map toJson) := by
  induction values with
  | nil => trivial
  | cons value values induction => exact ⟨LawfulCodec.fits value, induction⟩

theorem items_map {values : List α} {others : List Json}
    (same : RearrangedItems (values.map toJson) others) :
    Reader.items Codec.reader (Raw.ofItems others) = .ok values := by
  induction values generalizing others with
  | nil =>
      cases same
      rfl
  | cons value values induction =>
      cases same with
      | cons first rest =>
          rw [Raw.ofItems, Reader.items, LawfulCodec.reads value first, induction rest]
          rfl

theorem list_array {values : List α} {others : List Json}
    (same : RearrangedItems (values.map toJson) others) :
    Codec.reader (.ofJson (.array others)) = .ok values := by
  change Reader.list Codec.reader (.array (Raw.ofItems others) none) = _
  rw [Reader.list, items_map same]
  rfl

instance : LawfulCodec (List α) where
  fits values := fitItems_map values
  reads values _ same := by
    change Rearranged (.array (values.map toJson)) _ at same
    cases same with
    | refl => exact list_array (.refl _)
    | array same => exact list_array same
  present _ := nofun

/-! ## Simple values -/

theorem reads_text {text : String} {json : Json} (same : Rearranged (.text text) json) :
    json = .text text := by
  cases same
  rfl

instance : LawfulCodec String where
  fits _ := trivial
  reads _ _ same := reads_text same ▸ rfl
  present _ := nofun

instance : LawfulCodec Bool where
  fits _ := trivial
  reads value _ same := by
    change Rearranged (.bool value) _ at same
    cases same
    rfl
  present _ := nofun

theorem reads_natural {value high : Nat} (small : value ≤ high) {json : Json}
    (same : Rearranged (.number value) json) :
    Reader.natural high (.ofJson json) = .ok value := by
  have positive : ¬ (value : Int) < 0 := by omega
  have within : (0 : Int) ≤ value ∧ (value : Int) ≤ high := by omega
  cases same
  simp [Reader.natural, Reader.integer, Raw.ofJson, Numeral.ofInt, Numeral.finite, Numeral.int?,
    positive, within, Except.map]

instance : LawfulCodec UInt32 where
  fits value := by
    have small := value.toNat_lt
    change (value.toNat : Int).natAbs < Nat.pow 2 64
    rw [Int.natAbs_natCast]
    exact Nat.lt_trans small (by decide)
  reads value json same := by
    have small := value.toNat_lt
    change (Reader.natural 4294967295 (.ofJson json)).map UInt32.ofNat = _
    rw [reads_natural (by omega) same]
    simp [Except.map]
  present _ := nofun

end Codec

/-! ## Records -/

namespace Json

/-- What was found is what was written, up to the order of members in it. -/
def Holds (found : Found) (members : List (String × Json)) : Prop :=
  ∀ name, ∃ value, SameValue (members.lookup name) value ∧
    found.lookup name = value.map Raw.ofJson

theorem Holds.finds {found : Found} {members : List (String × Json)}
    (holds : Holds found members) {name : String} {json : Json}
    (written : members.lookup name = some json) :
    ∃ other, json.Rearranged other ∧ found.lookup name = some (.ofJson other) := by
  rcases holds name with ⟨value, same, finds⟩
  rw [written] at same
  cases same with
  | some same => exact ⟨_, same, finds⟩

theorem Holds.misses {found : Found} {members : List (String × Json)}
    (holds : Holds found members) {name : String} (absent : members.lookup name = none) :
    found.lookup name = none := by
  rcases holds name with ⟨value, same, finds⟩
  rw [absent] at same
  cases same
  exact finds

namespace Shape

variable {α β : Type}

/-- Everything that was found passes its check, and a value is built from it. -/
structure Builds (shape : Shape α) (found : Found) (value : α) : Prop where
  checks : ∀ field ∈ shape.fields, ∀ raw, found.lookup field.name = some raw →
    field.check raw = .ok ()
  builds : shape.build found = .ok value

namespace Builds

variable {found : Found} {members : List (String × Json)} {name : String}

theorem seq {shape : Shape (α → β)} {other : Shape α} {step : α → β} {value : α}
    (first : Builds shape found step) (second : Builds other found value) :
    Builds (shape <*> other) found (step value) where
  checks field member := by
    rcases List.mem_append.mp member with member | member
    · exact first.checks field member
    · exact second.checks field member
  builds := by
    change (do
      let step ← shape.build found
      let value ← other.build found
      return step value) = _
    rw [first.builds, second.builds]
    rfl

theorem map {shape : Shape α} {value : α} (step : α → β) (builds : Builds shape found value) :
    Builds (step <$> shape) found (step value) := by
  have steps : Builds (pure step) found step := ⟨nofun, rfl⟩
  exact steps.seq builds

theorem ofField {absence : Absence} {reader : Reader α} {missing : Except Fault α} {raw : Raw}
    {value : α} (finds : found.lookup name = some raw) (reads : reader raw = .ok value) :
    Builds (.ofField name absence reader missing) found value where
  checks field member other same := by
    rw [List.mem_singleton.mp member] at same ⊢
    rw [finds] at same
    cases same
    simp [reads, Except.map]
  builds := by
    simp [Shape.ofField, finds, reads]

theorem ofWritten {absence : Absence} {reader : Reader α} {missing : Except Fault α} {value : α}
    {json : Json} (holds : Holds found members) (written : members.lookup name = some json)
    (reads : ∀ {other : Json}, json.Rearranged other → reader (.ofJson other) = .ok value) :
    Builds (.ofField name absence reader missing) found value := by
  rcases holds.finds written with ⟨other, same, finds⟩
  exact ofField finds (reads same)

theorem ofAbsent {absence : Absence} {reader : Reader α} {value : α} (holds : Holds found members)
    (absent : members.lookup name = none) :
    Builds (.ofField name absence reader (.ok value)) found value where
  checks field member raw found := by
    rw [List.mem_singleton.mp member, holds.misses absent] at found
    cases found
  builds := by simp [Shape.ofField, holds.misses absent]

variable [Codec α] [LawfulCodec α]

theorem require {value : α} (holds : Holds found members)
    (written : members.lookup name = some (Codec.toJson value)) :
    Builds (.require name) found value :=
  ofWritten holds written (LawfulCodec.reads value)

theorem allow {value : Option α} (holds : Holds found members)
    (written : members.lookup name = some (Codec.toJson value)) :
    Builds (.allow name) found value :=
  ofWritten holds written (Codec.reads_option value)

theorem default {fallback value : α} (holds : Holds found members)
    (written : members.lookup name = some (Codec.toJson value)) :
    Builds (.default name fallback) found value :=
  ofWritten holds written (LawfulCodec.reads value)

end Builds

/-! ### Whole objects -/

theorem ofMembers_eq_map (members : List (String × Json)) :
    Raw.ofMembers members =
      members.map fun member => (.text (.ok member.1), .ofJson member.2) := by
  induction members with
  | nil => rfl
  | cons member members induction => rw [Raw.ofMembers, induction, List.map_cons]

/-- The members that were written, as they are found. -/
def foundOf (members : List (String × Json)) : Found :=
  (members.map fun member => (member.1, .ofJson member.2)).reverse

theorem lookup_foundOf {members : List (String × Json)}
    (distinct : (members.map Prod.fst).Nodup) (name : String) :
    (foundOf members).lookup name = (members.lookup name).map Raw.ofJson := by
  have names : (foundOf members).map Prod.fst = (members.map Prod.fst).reverse := by
    simp [foundOf]
  have distinctFound : ((foundOf members).map Prod.fst).Nodup := by
    rw [names]
    exact List.nodup_reverse.mpr distinct
  apply Option.ext
  intro raw
  rw [lookup_eq_some_iff distinctFound, Option.map_eq_some_iff, foundOf, List.mem_reverse,
    List.mem_map]
  constructor
  · rintro ⟨⟨other, value⟩, member, same⟩
    cases same
    exact ⟨value, (lookup_eq_some_iff distinct).mpr member, rfl⟩
  · rintro ⟨value, finds, rfl⟩
    exact ⟨(name, value), (lookup_eq_some_iff distinct).mp finds, rfl⟩

/-- Members with names of their own that pass their checks are all found. -/
theorem collect_map {shape : Shape α} {members : List (String × Json)} {before : Found}
    (distinct : (members.map Prod.fst).Nodup)
    (fresh : ∀ name ∈ members.map Prod.fst, before.lookup name = none)
    (passes : ∀ member ∈ members, ∃ field, shape.field? member.1 = some field ∧
      field.check (.ofJson member.2) = .ok ()) :
    shape.collect before (members.map fun member => (.text (.ok member.1), .ofJson member.2)) =
      .ok (foundOf members ++ before) := by
  induction members generalizing before with
  | nil => rfl
  | cons member members induction =>
      rcases member with ⟨name, value⟩
      have parts := List.nodup_cons.mp distinct
      rcases passes _ List.mem_cons_self with ⟨field, known, checked⟩
      have unknown : before.lookup name = none := fresh name List.mem_cons_self
      have others := @induction ((name, .ofJson value) :: before) parts.2 (by
        intro other member
        have different : (other == name) = false := by
          rw [beq_eq_false_iff_ne]
          rintro rfl
          exact parts.1 member
        rw [List.lookup_cons, different]
        exact fresh other (List.mem_cons_of_mem _ member))
        fun member later => passes member (List.mem_cons_of_mem _ later)
      rw [List.map_cons, collect, known]
      simp [unknown, checked, others, foundOf, bind, Except.bind]

/-- An object whose members are fields of a shape, each of them once and in any order, is read
as the value that the shape builds from them. -/
theorem reader_object {shape : Shape α} {members : List (String × Json)} {value : α}
    (distinct : (members.map Prod.fst).Nodup)
    (known : ∀ name ∈ members.map Prod.fst, name ∈ shape.fields.map Field.name)
    (builds : ∀ found, Holds found members → Builds shape found value) {json : Json}
    (same : Rearranged (.object members) json) : shape.reader (.ofJson json) = .ok value := by
  rcases same.of_object distinct with ⟨shuffled, rfl, names, values⟩
  have distinctShuffled : (shuffled.map Prod.fst).Nodup := names.nodup_iff.mp distinct
  have found := lookup_foundOf distinctShuffled
  have built := builds (foundOf shuffled) fun name => ⟨_, values name, found name⟩
  have collects := @collect_map _ shape shuffled [] distinctShuffled (fun _ _ => rfl) (by
    rintro ⟨name, json⟩ member
    have listed : name ∈ members.map Prod.fst :=
      names.mem_iff.mpr (List.mem_map.mpr ⟨_, member, rfl⟩)
    cases finds : shape.field? name with
    | none =>
        rcases List.mem_map.mp (known name listed) with ⟨field, listed, same⟩
        have differs := List.find?_eq_none.mp finds field listed
        simp [same] at differs
    | some field =>
        have same : field.name = name := by simpa using List.find?_some finds
        refine ⟨field, rfl, built.checks field (List.mem_of_find?_eq_some finds) _ ?_⟩
        rw [same, found, (lookup_eq_some_iff distinctShuffled).mpr member]
        rfl)
  rw [List.append_nil] at collects
  rw [Raw.ofJson, ofMembers_eq_map, Shape.reader, collects]
  exact built.builds

end Shape

end Json

/-! ## PSUs, methods and challenges -/

instance : LawfulCodec Psu where
  fits psu := fitMembers_iff.mpr (by simp [field, Codec.fits_option])
  reads psu _ := by
    refine Shape.reader_object (by simp [field]) (fun _ => id) ?_
    intro found holds
    exact ((((Shape.Builds.map Psu.mk (.allow holds rfl)).seq (.allow holds rfl)).seq
      (.allow holds rfl)).seq (.allow holds rfl)).seq (.allow holds rfl)
  present _ := nofun

instance : LawfulCodec Method where
  fits method := fitMembers_iff.mpr (by simp [field, Codec.fits_option, LawfulCodec.fits])
  reads method _ := by
    refine Shape.reader_object (by simp [field]) (fun _ => id) ?_
    intro found holds
    exact (((Shape.Builds.map Method.mk (.require holds rfl)).seq (.require holds rfl)).seq
      (.allow holds rfl)).seq (.default holds rfl)
  present _ := nofun

instance : LawfulCodec Challenge where
  fits challenge := fitMembers_iff.mpr (by simp [field, Codec.fits_option])
  reads challenge _ := by
    refine Shape.reader_object (by simp [field]) (fun _ => id) ?_
    intro found holds
    exact (((Shape.Builds.map Challenge.mk (.allow holds rfl)).seq (.allow holds rfl)).seq
      (.allow holds rfl)).seq (.allow holds rfl)
  present _ := nofun

end StrongAuth
