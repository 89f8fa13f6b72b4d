import StrongAuth.Codec.Config
import StrongAuth.Codec.Event
import StrongAuth.Codec.Exchange
import StrongAuth.Proofs.Codecs
import StrongAuth.Proofs.LenientTime

/-! # Values recovered from their JSON text

Main statement: authorisations, resources, requests, responses, code grants, events and
configurations are read back from their text, in whatever order the members of objects come. -/

namespace StrongAuth

open Json

/-! ## Simple values -/

namespace Codec

theorem reads_variant {α : Type} [Vocabulary α] (value : α) {json : Json}
    (same : Rearranged (.text (Vocabulary.word value)) json) :
    Reader.variant (.ofJson json) = .ok value := by
  rw [reads_text same]
  simp [Raw.ofJson, Reader.variant, Reader.word, Reader.text, Vocabulary.read?_word, bind,
    Except.bind, pure, Except.pure]

instance (priority := low) {α : Type} [Vocabulary α] : LawfulCodec α where
  fits _ := trivial
  reads value _ same := reads_variant value same
  present _ := nofun

instance : LawfulCodec UInt64 where
  fits value := by
    change (value.toNat : Int).natAbs < Nat.pow 2 64
    rw [Int.natAbs_natCast]
    exact value.toNat_lt
  reads value json same := by
    have small := value.toNat_lt
    change (Reader.natural 18446744073709551615 (.ofJson json)).map UInt64.ofNat = _
    rw [reads_natural (by omega) same]
    simp [Except.map]
  present _ := nofun

instance : LawfulCodec UInt8 where
  fits value := by
    change (value.toNat : Int).natAbs < Nat.pow 2 64
    rw [Int.natAbs_natCast]
    exact Nat.lt_trans value.toNat_lt (by decide)
  reads value json same := by
    have small := value.toNat_lt
    change (Reader.natural 255 (.ofJson json)).map UInt8.ofNat = _
    rw [reads_natural (by omega) same]
    simp [Except.map]
  present _ := nofun

instance : LawfulCodec Time.Timestamp where
  fits _ := trivial
  reads value json same := by
    change Rearranged (.text value.text) json at same
    rw [reads_text same]
    simp [Codec.reader, Raw.ofJson, Reader.text, Time.Timestamp.readLenient_text, bind,
      Except.bind, pure, Except.pure]
  present _ := nofun

end Codec

/-! ## Resources -/

namespace ParentStatus

theorem read?_consent_of_payment (status : PaymentStatus) :
    (Vocabulary.read? (Vocabulary.word status) : Option ConsentStatus) = none := by
  cases status <;> decide

/-- No word is a status of a consent and of a payment, so neither is taken for the other. -/
theorem keptReader_word (status : ParentStatus) :
    keptReader (.text (.ok status.word)) = .ok status := by
  cases status with
  | consent status =>
      simp [keptReader, word, Reader.keptVariant, Reader.word, Reader.text,
        Vocabulary.read?_word, bind, Except.bind, pure, Except.pure, Except.mapError]
  | payment status =>
      simp [keptReader, word, Reader.keptVariant, Reader.word, Reader.text,
        Vocabulary.read?_word, read?_consent_of_payment, bind, Except.bind, pure, Except.pure,
        Except.mapError, Except.map]

theorem reads_word (room : Nat) (status : ParentStatus) {json : Json}
    (same : Rearranged (.text status.word) json) :
    readerWithin room (.ofJson json) = .ok status := by
  have kept : (Raw.text (.ok status.word)).keep room = .ok () := by
    cases room <;> rfl
  rw [Codec.reads_text same, Raw.ofJson, readerWithin, kept]
  exact keptReader_word status

end ParentStatus

instance : LawfulCodec ParentStatus where
  fits _ := trivial
  reads status _ same := status.reads_word _ same
  present _ := nofun

instance : LawfulCodec Resource where
  fits resource := fitMembers_iff.mpr (by simp [field, LawfulCodec.fits])
  reads resource _ := by
    refine Shape.reader_object (by simp [field]) (fun _ => id) ?_
    intro found holds
    exact (((((((Shape.Builds.map Resource.mk (.require holds rfl)).seq (.require holds rfl)).seq
      (.ofWritten holds rfl (resource.status.reads_word _))).seq (.require holds rfl)).seq (.require holds rfl)).seq (.require holds rfl)).seq
      (.require holds rfl)).seq (.require holds rfl)
  present _ := nofun

/-! ## Requests and responses -/

instance : LawfulCodec Request where
  fits request := fitMembers_iff.mpr (by simp [field, Codec.fits_option])
  reads request _ := by
    refine Shape.reader_object (by simp [field]) (fun _ => id) ?_
    intro found holds
    exact ((((Shape.Builds.map Request.mk (.allow holds rfl)).seq (.allow holds rfl)).seq
      (.allow holds rfl)).seq (.allow holds rfl)).seq (.allow holds rfl)
  present _ := nofun

instance : LawfulCodec NextLink where
  fits link := fitMembers_iff.mpr (by simp [field, LawfulCodec.fits])
  reads link _ := by
    refine Shape.reader_object (by simp [field]) (fun _ => id) ?_
    intro found holds
    exact (Shape.Builds.map NextLink.mk (.require holds rfl)).seq (.require holds rfl)
  present _ := nofun

instance : LawfulCodec StartResponse where
  fits response := fitMembers_iff.mpr (by simp [field, LawfulCodec.fits])
  reads response _ := by
    refine Shape.reader_object (by simp [field]) (fun _ => id) ?_
    intro found holds
    exact (((Shape.Builds.map StartResponse.mk (.require holds rfl)).seq
      (.require holds rfl)).seq (.require holds rfl)).seq (.require holds rfl)
  present _ := nofun

instance : LawfulCodec UpdateResponse where
  fits response := fitMembers_iff.mpr (by
    cases methods : response.methods <;> simp [field, Codec.fits_option, LawfulCodec.fits])
  reads response _ same := by
    rcases response with ⟨authorisation, status, approach, psu, methods, chosen, challenge, nextLink⟩
    cases methods with
    | nil =>
        refine Shape.reader_object ?_ ?_ ?_ same
        · simp [field]
        · -- The fifth field is left out.
          exact fun _ listed => List.mem_of_mem_eraseIdx (i := 4) listed
        intro found holds
        exact (((((((Shape.Builds.map UpdateResponse.mk (.require holds rfl)).seq
          (.require holds rfl)).seq (.require holds rfl)).seq (.allow holds rfl)).seq
          (.ofAbsent holds rfl)).seq (.allow holds rfl)).seq (.allow holds rfl)).seq
          (.require holds rfl)
    | cons method methods =>
        refine Shape.reader_object ?_ ?_ ?_ same
        · simp [field]
        · exact fun _ => id
        intro found holds
        exact (((((((Shape.Builds.map UpdateResponse.mk (.require holds rfl)).seq
          (.require holds rfl)).seq (.require holds rfl)).seq (.allow holds rfl)).seq
          (.default holds rfl)).seq (.allow holds rfl)).seq (.allow holds rfl)).seq
          (.require holds rfl)
  present _ := nofun

instance : LawfulCodec CodeGrant where
  fits grant := fitMembers_iff.mpr (by simp [field, Codec.fits_option, LawfulCodec.fits])
  reads grant _ := by
    refine Shape.reader_object (by simp [field]) (fun _ => id) ?_
    intro found holds
    exact (((Shape.Builds.map CodeGrant.mk (.allow holds rfl)).seq (.require holds rfl)).seq
      (.allow holds rfl)).seq (.allow holds rfl)
  present _ := nofun

/-! ## Configurations -/

namespace StageRestrictions

theorem of_set (restrictions : StageRestrictions) (approach other : Approach)
    (statuses : List Status) : (restrictions.set approach statuses).of other =
      if other = approach then some statuses else restrictions.of other := by
  cases approach <;> cases other <;> rfl

theorem ext_of {left right : StageRestrictions}
    (same : ∀ approach, left.of approach = right.of approach) : left = right := by
  rcases left with ⟨embedded, redirect, decoupled⟩
  simp only [show embedded = right.embedded from same .embedded,
    show redirect = right.redirect from same .redirect,
    show decoupled = right.decoupled from same .decoupled]

theorem mem_members_iff (restrictions : StageRestrictions) {name : String} {value : Json} :
    (name, value) ∈ restrictions.members ↔ ∃ approach statuses,
      restrictions.of approach = some statuses ∧ name = Vocabulary.word approach ∧
        value = Codec.toJson statuses := by
  simp only [members, List.mem_filterMap, Option.map_eq_some_iff, field, Prod.mk.injEq]
  constructor
  · rintro ⟨approach, _, statuses, listed, rfl, rfl⟩
    exact ⟨approach, statuses, listed, rfl, rfl⟩
  · rintro ⟨approach, statuses, listed, rfl, rfl⟩
    exact ⟨approach, Vocabulary.mem_values approach, statuses, listed, rfl, rfl⟩

theorem distinct_members (restrictions : StageRestrictions) :
    (restrictions.members.map Prod.fst).Nodup := by
  rcases restrictions with ⟨embedded, redirect, decoupled⟩
  cases embedded <;> cases redirect <;> cases decoupled <;>
    simp [members, Vocabulary.values, of, field, Vocabulary.word]

/-- Lists of some restrictions, in any order, replace those that were read before. -/
theorem readMembers_of (restrictions before : StageRestrictions) {members : List (String × Json)}
    (lists : ∀ name json, (name, json) ∈ members → ∃ approach statuses,
      restrictions.of approach = some statuses ∧ name = Vocabulary.word approach ∧
        (Codec.toJson statuses).Rearranged json) :
    ∃ after, readMembers before (Raw.ofMembers members) = .ok after ∧ ∀ approach,
      (Vocabulary.word approach ∈ members.map Prod.fst →
        after.of approach = restrictions.of approach) ∧
      (Vocabulary.word approach ∉ members.map Prod.fst →
        after.of approach = before.of approach) := by
  induction members generalizing before with
  | nil => exact ⟨before, rfl, fun _ => ⟨nofun, fun _ => rfl⟩⟩
  | cons member members induction =>
      rcases member with ⟨name, json⟩
      rcases lists name json List.mem_cons_self with ⟨approach, statuses, listed, rfl, same⟩
      rcases induction (before.set approach statuses) fun name json later =>
        lists name json (List.mem_cons_of_mem _ later) with ⟨after, read, holds⟩
      refine ⟨after, ?_, fun other => ?_⟩
      · have statusesRead := LawfulCodec.reads statuses same
        simp only [Raw.ofMembers, readMembers, Reader.word, Reader.text, Vocabulary.read?_word,
          bind, Except.bind, pure, Except.pure, statusesRead, read]
      · by_cases last : Vocabulary.word other ∈ members.map Prod.fst
        · exact ⟨fun _ => (holds other).1 last, fun absent =>
            absurd (List.mem_cons_of_mem _ last) absent⟩
        · have kept := (holds other).2 last
          rw [of_set] at kept
          by_cases same : other = approach
          · rw [if_pos same, ← listed, ← same] at kept
            exact ⟨fun _ => kept, fun absent => absurd (same ▸ List.mem_cons_self) absent⟩
          · rw [if_neg same] at kept
            refine ⟨fun listed => ?_, fun _ => kept⟩
            rcases List.mem_cons.mp listed with words | later
            · exact absurd (Vocabulary.word_injective _ _ words) same
            · exact absurd later last

theorem readLists_members (restrictions : StageRestrictions) {json : Json}
    (same : Rearranged (.object restrictions.members) json) :
    readLists (.ofJson json) = .ok restrictions := by
  rcases same.of_object restrictions.distinct_members with ⟨shuffled, rfl, names, values⟩
  have distinct : (shuffled.map Prod.fst).Nodup :=
    names.nodup_iff.mp restrictions.distinct_members
  rcases @readMembers_of restrictions .none shuffled (by
    intro name json member
    have found := values name
    rw [(lookup_eq_some_iff distinct).mpr member] at found
    generalize written : restrictions.members.lookup name = stored at found
    cases found with
    | some same =>
        rcases restrictions.mem_members_iff.mp
          ((lookup_eq_some_iff restrictions.distinct_members).mp written)
          with ⟨approach, statuses, listed, named, rfl⟩
        exact ⟨approach, statuses, listed, named, same⟩) with ⟨after, read, holds⟩
  have whole : after = restrictions := by
    refine ext_of fun approach => ?_
    by_cases written : Vocabulary.word approach ∈ shuffled.map Prod.fst
    · exact (holds approach).1 written
    · rw [(holds approach).2 written]
      cases listed : restrictions.of approach with
      | none => cases approach <;> rfl
      | some statuses =>
          have member := restrictions.mem_members_iff.mpr ⟨approach, statuses, listed, rfl, rfl⟩
          exact absurd (names.mem_iff.mp (List.mem_map.mpr ⟨_, member, rfl⟩)) written
  simp only [Raw.ofJson, readLists, read, bind, Except.bind, closing, pure, Except.pure, whole]

end StageRestrictions

instance : LawfulCodec StageRestrictions where
  fits restrictions := by
    refine fitMembers_iff.mpr fun member listed => ?_
    rw [List.mem_singleton.mp listed]
    refine fitMembers_iff.mpr fun member listed => ?_
    rcases restrictions.mem_members_iff.mp listed with ⟨approach, statuses, _, _, value⟩
    rw [value]
    exact LawfulCodec.fits statuses
  reads restrictions _ := by
    refine Shape.reader_object (by simp) (fun _ => id) ?_
    intro found holds
    exact .ofWritten holds rfl restrictions.readLists_members
  present _ := nofun

instance : LawfulCodec Config where
  fits config := fitMembers_iff.mpr (by simp [field, Codec.fits_option, LawfulCodec.fits])
  reads config _ := by
    refine Shape.reader_object (by simp [field]) (fun _ => id) ?_
    intro found holds
    exact (((((((((((Shape.Builds.map Config.mk (.default holds rfl)).seq
      (.default holds rfl)).seq (.default holds rfl)).seq (.default holds rfl)).seq
      (.default holds rfl)).seq (.default holds rfl)).seq (.default holds rfl)).seq
      (.default holds rfl)).seq (.default holds rfl)).seq (.default holds rfl)).seq
      (.default holds rfl)).seq (.ofWritten holds rfl (Codec.reads_option config.sweepInterval))
  present _ := nofun

/-! ## Events -/

namespace Event

def fields (event : Event) : List (String × Json) :=
  match Codec.toJson event with
  | .object (_ :: fields) => fields
  | _ => []

theorem toJson_eq (event : Event) :
    Codec.toJson event = .object (("type", .text event.tag) :: event.fields) := by
  cases event <;> rfl

theorem fields_eq_text (event : Event) : ∀ member ∈ event.fields, ∃ text, member.2 = .text text := by
  cases event <;> simp [fields, Codec.toJson, field]

theorem distinct_members (event : Event) :
    ((("type", Json.text event.tag) :: event.fields).map Prod.fst).Nodup := by
  cases event <;> simp [fields, Codec.toJson, field]

theorem reads_kind (kind : RefusalKind) {json : Json}
    (same : Rearranged (Codec.toJson kind) json) :
    Reader.keptVariant true (.ofJson json) = .ok kind := by
  rw [Codec.reads_text same]
  simp [Raw.ofJson, Reader.keptVariant, Reader.word, Reader.text, Vocabulary.read?_word, bind,
    Except.bind, pure, Except.pure, Except.mapError]

/-- The tag tells how the other members are read, in any order. -/
theorem shape?_tag (event : Event) : ∃ shape, shape? event.tag = some shape ∧
    ∀ {json : Json}, Rearranged (.object event.fields) json →
      shape.reader (.ofJson json) = .ok event := by
  cases event with
  | created authorisation parent approach =>
      refine ⟨_, rfl, Shape.reader_object (by simp [fields, Codec.toJson, field])
        (fun _ => id) ?_⟩
      intro found holds
      exact ((Shape.Builds.map Event.created (.require holds rfl)).seq
        (.require holds rfl)).seq (.require holds rfl)
  | statusChanged authorisation parent earlier later =>
      refine ⟨_, rfl, Shape.reader_object (by simp [fields, Codec.toJson, field])
        (fun _ => id) ?_⟩
      intro found holds
      exact (((Shape.Builds.map Event.statusChanged (.require holds rfl)).seq
        (.require holds rfl)).seq (.require holds rfl)).seq (.require holds rfl)
  | refused authorisation kind message =>
      refine ⟨_, rfl, Shape.reader_object (by simp [fields, Codec.toJson, field])
        (fun _ => id) ?_⟩
      intro found holds
      exact ((Shape.Builds.map Event.refused (.require holds rfl)).seq
        (.ofWritten holds rfl (reads_kind kind))).seq (.require holds rfl)
  | expired authorisation parent =>
      refine ⟨_, rfl, Shape.reader_object (by simp [fields, Codec.toJson, field])
        (fun _ => id) ?_⟩
      intro found holds
      exact (Shape.Builds.map Event.expired (.require holds rfl)).seq (.require holds rfl)
  | parentChanged parent earlier later =>
      refine ⟨_, rfl, Shape.reader_object (by simp [fields, Codec.toJson, field])
        (fun _ => id) ?_⟩
      intro found holds
      exact ((Shape.Builds.map Event.parentChanged (.require holds rfl)).seq
        (.require holds rfl)).seq (.require holds rfl)

end Event

namespace EventReader

/-- Members other than the tag are kept at their places. -/
theorem collect_append (shape : Option (Shape Event)) (kept : List (Key × Raw))
    {members : List (String × Json)} (rest : List (Key × Raw))
    (texts : ∀ member ∈ members, ∃ text, member.2 = .text text)
    (untagged : "type" ∉ members.map Prod.fst) :
    collect shape kept (Raw.ofMembers members ++ rest) =
      collect shape ((Raw.ofMembers members).reverse ++ kept) rest := by
  induction members generalizing kept with
  | nil => rfl
  | cons member members induction =>
      rcases member with ⟨name, value⟩
      rcases texts _ List.mem_cons_self with ⟨text, rfl⟩
      have other : name ≠ "type" := fun same => untagged (same ▸ List.mem_cons_self)
      have later := induction ((.text (.ok name), .text (.ok text)) :: kept)
        (fun member later => texts member (List.mem_cons_of_mem _ later))
        fun listed => untagged (List.mem_cons_of_mem _ listed)
      rw [Raw.ofMembers, Raw.ofJson, List.cons_append]
      simpa [collect, other, Raw.keep, bind, Except.bind] using later

theorem ofMembers_append (left right : List (String × Json)) :
    Raw.ofMembers (left ++ right) = Raw.ofMembers left ++ Raw.ofMembers right := by
  simp [Shape.ofMembers_eq_map]

/-- The tag may stand anywhere among the members. -/
theorem read_members (event : Event) {front back : List (String × Json)}
    (order : event.fields.Perm (front ++ back)) :
    read (.ofJson (.object (front ++ ("type", .text event.tag) :: back))) = .ok event := by
  have texts : ∀ member ∈ front ++ back, ∃ text, member.2 = .text text := fun member listed =>
    event.fields_eq_text member (order.mem_iff.mpr listed)
  have untagged : "type" ∉ (front ++ back).map Prod.fst := fun listed =>
    (List.nodup_cons.mp event.distinct_members).1 ((order.map Prod.fst).mem_iff.mpr listed)
  rw [List.map_append, List.mem_append, not_or] at untagged
  rcases event.shape?_tag with ⟨shape, tagged, reads⟩
  have tag : readTag (.text (.ok event.tag)) = .ok shape := by
    simp [readTag, Reader.text, tagged, bind, Except.bind, pure, Except.pure]
  have before := collect_append none []
    ((.text (.ok "type"), .text (.ok event.tag)) :: (Raw.ofMembers back ++ []))
    (fun member listed => texts member (List.mem_append_left _ listed)) untagged.1
  have after := collect_append (some shape) ((Raw.ofMembers front).reverse ++ []) []
    (fun member listed => texts member (List.mem_append_right _ listed)) untagged.2
  have collected : collect none [] (Raw.ofMembers (front ++ ("type", .text event.tag) :: back)) =
      .ok (some shape, Raw.ofMembers (front ++ back)) := by
    rw [ofMembers_append, Raw.ofMembers, Raw.ofJson, ← List.append_nil (Raw.ofMembers back), before]
    simp only [collect, if_true, tag, bind, Except.bind, after]
    simp [ofMembers_append]
  simp only [Raw.ofJson, read, collected, bind, Except.bind, closing, Shape.keptReader]
  have whole := reads (.of_perm order)
  simp only [Raw.ofJson] at whole
  rw [whole]
  rfl

end EventReader

instance : LawfulCodec Event where
  fits event := by
    rw [event.toJson_eq]
    refine fitMembers_iff.mpr fun member listed => ?_
    rcases List.mem_cons.mp listed with rfl | listed
    · trivial
    · rcases event.fields_eq_text member listed with ⟨text, value⟩
      rw [value]
      trivial
  reads event json same := by
    rw [event.toJson_eq] at same
    rcases same.of_texts (by simpa using event.fields_eq_text) with ⟨shuffled, rfl, order⟩
    rcases List.append_of_mem (order.mem_iff.mp List.mem_cons_self) with ⟨front, back, rfl⟩
    exact EventReader.read_members event (order.trans List.perm_middle).cons_inv
  present event := by
    rw [event.toJson_eq]
    exact nofun

/-! ## Authorisations -/

namespace Authorisation

theorem readInteger_number {number least greatest : Int} (above : least ≤ number)
    (below : number ≤ greatest) :
    Reader.integer least greatest (.ofJson (.number number)) = .ok number := by
  have within : least ≤ number ∧ number ≤ greatest := ⟨above, below⟩
  cases number with
  | ofNat number =>
      have positive : ¬ (number : Int) < 0 := by omega
      simpa [Reader.integer, Raw.ofJson, Numeral.ofInt, Numeral.int?, Numeral.finite,
        positive] using within
  | negSucc predecessor =>
      have same : -((predecessor : Int) + 1) = Int.negSucc predecessor := by omega
      simp [Reader.integer, Raw.ofJson, Numeral.ofInt, Numeral.int?, Numeral.finite,
        same, within]

theorem reads_version (version : Int64) {json : Json}
    (same : Rearranged (.number version.toInt) json) :
    readVersion (.ofJson json) = .ok version := by
  cases same
  have above := version.le_toInt
  have below := version.toInt_lt
  rw [readVersion, readInteger_number (by omega) (by omega), Except.map, Int64.ofInt_toInt]

instance : LawfulCodec Authorisation where
  fits record := by
    have version : (Json.number record.version.toInt).Fits := by
      have range : (2 : Nat).pow 64 = 18446744073709551616 := by decide
      have above := record.version.le_toInt
      have below := record.version.toInt_lt
      simp only [Fits, range]
      omega
    exact fitMembers_iff.mpr (by simp [field, Codec.fits_option, LawfulCodec.fits, version])
  reads record json same := by
    refine Shape.reader_object ?_ ?_ ?_ same
    · simp [field]
    · exact fun _ listed => listed
    intro found holds
    exact ((((((((((((((((Shape.Builds.map Authorisation.mk (.require holds rfl)).seq
      (.require holds rfl)).seq (.require holds rfl)).seq (.allow holds rfl)).seq
      (.require holds rfl)).seq (.require holds rfl)).seq (.allow holds rfl)).seq
      (.require holds rfl)).seq (.allow holds rfl)).seq (.allow holds rfl)).seq
      (.allow holds rfl)).seq (.require holds rfl)).seq (.require holds rfl)).seq
      (.require holds rfl)).seq (.ofWritten holds rfl (reads_version record.version))).seq
      (.require holds rfl)).seq (.require holds rfl)
  present record := nofun

end Authorisation

/-! ## Whole texts -/

/-- Whether the value is read from its text, and from every text that differs from it in nothing
but the order of the members of objects. -/
structure Codec.Recovered {α : Type} [Codec α] (value : α) : Prop where
  decodes : Codec.decode (Codec.encode value) = .ok value
  rearranged : ∀ json, (Codec.toJson value).Rearranged json →
    Codec.decode json.compact = .ok value

theorem Codec.recovered {α : Type} [Codec α] [LawfulCodec α] (value : α) : Recovered value := by
  have rearranged (json : Json) (same : (toJson value).Rearranged json) :
      decode json.compact = .ok value := by
    rw [decode, decode_compact _ (same.fits (LawfulCodec.fits value)),
      LawfulCodec.reads value same]
  exact ⟨rearranged _ (.refl _), rearranged⟩

/-- The methods of a response are written exactly if there are any. -/
theorem UpdateResponse.writes_methods_iff (response : UpdateResponse) {members : List (String × Json)}
    (written : Codec.toJson response = .object members) :
    "scaMethods" ∈ members.map Prod.fst ↔ response.methods ≠ [] := by
  cases written
  cases methods : response.methods <;> simp [field]

/-- Every value that has a JSON form is recovered from its text, whatever its strings, bytes and
timestamps, and in whatever order the members of its objects are written: authorisations,
resources, requests, responses, code grants, events and configurations. A status is never taken for one of the other vocabulary, and methods are left out
exactly if there are none. -/
theorem every_value_recovered :
    (∀ record : Authorisation, Codec.Recovered record) ∧
    (∀ resource : Resource, Codec.Recovered resource) ∧
    (∀ request : Request, Codec.Recovered request) ∧
    (∀ response : UpdateResponse, Codec.Recovered response) ∧
    (∀ response : StartResponse, Codec.Recovered response) ∧
    (∀ grant : CodeGrant, Codec.Recovered grant) ∧
    (∀ event : Event, Codec.Recovered event) ∧
    (∀ config : Config, Codec.Recovered config) ∧
    (∀ status : ParentStatus, Codec.Recovered status) ∧
    ∀ (response : UpdateResponse) (members : List (String × Json)),
      Codec.toJson response = .object members →
        ("scaMethods" ∈ members.map Prod.fst ↔ response.methods ≠ []) :=
  ⟨Codec.recovered, Codec.recovered, Codec.recovered, Codec.recovered, Codec.recovered,
    Codec.recovered, Codec.recovered, Codec.recovered, Codec.recovered,
    fun response _ => response.writes_methods_iff⟩

/-- An authorisation of the least version whose deadline lies in a leap second, whose other
deadline is the last moment of the calendar, and whose strings call for escapes; and a response
without methods. -/
theorem leap_second_recovered :
    let leap : Time.Timestamp :=
      ⟨1483228799, 1500000000, by decide, by decide, by decide, by decide⟩
    let last : Time.Timestamp :=
      ⟨8210266876799, 999999999, by decide, by decide, by decide, by decide⟩
    let record : Authorisation := { (default : Authorisation) with
      id := "a\"b\\c\n\u0001é"
      bankData := some [0, 255]
      version := -9223372036854775808
      redirectDeadline := last
      deadline := leap }
    let response : UpdateResponse :=
      ⟨"a", .received, .embedded, none, [], none, none, ⟨.scaStatus, "/a"⟩⟩
    leap.text = "2016-12-31T23:59:60.500Z" ∧ last.text = "+262142-12-31T23:59:59.999999999Z" ∧
      Codec.decode (Codec.encode record) = .ok record ∧
      Codec.decode (Codec.encode response) = .ok response ∧
      ∀ members, Codec.toJson response = .object members → "scaMethods" ∉ members.map Prod.fst := by
  intro leap last record response
  refine ⟨by decide +kernel, by decide +kernel,
    (every_value_recovered.1 record).decodes,
    (every_value_recovered.2.2.2.1 response).decodes, fun members written listed => ?_⟩
  exact (every_value_recovered.2.2.2.2.2.2.2.2.2 response members written).mp listed rfl

end StrongAuth
