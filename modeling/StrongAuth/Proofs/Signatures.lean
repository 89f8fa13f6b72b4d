import Mathlib.Data.List.Perm.Subperm
import StrongAuth.Proofs.Coherence
import StrongAuth.Proofs.Identity
import StrongAuth.Proofs.Settlement

/-! # Who has signed

A PSU signs a resource by a successful authorisation that knows of it. The identity check
lets only co-signers sign, and nobody twice; but it lets everyone pass of whom nothing is
known. Main statement: a multilevel resource that is authorised has as many successful
authorisations as co-signers, and all co-signers have signed exactly if as many of these
know of a PSU; those that do not were reported by the bank. -/

namespace StrongAuth

/-! ## Lists of PSUs -/

/-- A list without repetitions that lies within another one covers it exactly if it is as
long. -/
theorem subset_iff_length_eq {α : Type} {left right : List α} (leftDistinct : left.Nodup)
    (rightDistinct : right.Nodup) (within : left ⊆ right) :
    right ⊆ left ↔ left.length = right.length := by
  have shorter := List.subperm_of_subset leftDistinct within
  constructor
  · intro covered
    have longer := List.subperm_of_subset rightDistinct covered
    exact Nat.le_antisymm shorter.length_le longer.length_le
  · intro sameLength
    exact (shorter.perm_of_length_le (Nat.le_of_eq sameLength.symm)).symm.subset

namespace Psu

/-- A PSU apart from the address it comes from. -/
def person (psu : Psu) : Psu :=
  { psu with ipAddress := none }

theorem sameAs_iff_person {left right : Psu} :
    left.sameAs right = true ↔ left.person = right.person := by
  rw [sameAs_iff]
  simp [person]

theorem nodup_person {psus : List Psu} :
    (psus.map person).Nodup ↔ psus.Pairwise fun left right => left.sameAs right = false := by
  rw [List.Nodup, List.pairwise_map]
  simp only [ne_eq, ← sameAs_iff_person, Bool.not_eq_true]

/-- If nobody stands in either list twice, and only people of the second one in the first
one, then all of them do exactly if the first one is as long. -/
theorem all_present_iff {present expected : List Psu}
    (once : present.Pairwise fun left right => left.sameAs right = false)
    (different : expected.Pairwise fun left right => left.sameAs right = false)
    (invited : ∀ psu ∈ present, expected.any (·.sameAs psu) = true) :
    (∀ psu ∈ expected, ∃ other ∈ present, other.sameAs psu = true) ↔
      present.length = expected.length := by
  have within : present.map person ⊆ expected.map person := by
    intro someone member
    rcases List.mem_map.mp member with ⟨psu, psuMember, rfl⟩
    rcases List.any_eq_true.mp (invited psu psuMember) with ⟨other, otherMember, same⟩
    exact List.mem_map.mpr ⟨other, otherMember, sameAs_iff_person.mp same⟩
  have counted := subset_iff_length_eq (nodup_person.mpr once) (nodup_person.mpr different) within
  rw [List.length_map, List.length_map] at counted
  rw [← counted]
  constructor
  · intro all someone member
    rcases List.mem_map.mp member with ⟨psu, psuMember, rfl⟩
    rcases all psu psuMember with ⟨other, otherMember, same⟩
    exact List.mem_map.mpr ⟨other, otherMember, sameAs_iff_person.mp same⟩
  · intro covered psu member
    rcases List.mem_map.mp (covered (List.mem_map_of_mem member))
      with ⟨other, otherMember, same⟩
    exact ⟨other, otherMember, sameAs_iff_person.mpr same⟩

end Psu

/-! ## Signatures -/

namespace MemoryStore

variable {store : MemoryStore} {record : Authorisation} {resource : Resource}
  {id parent : String} {psu : Psu}

def signatures (store : MemoryStore) (parent : String) : List Psu :=
  ((store.listByParent parent).filter (·.status.isSuccessful)).filterMap (·.psu)

def anonymous (store : MemoryStore) (parent : String) : Nat :=
  ((store.listByParent parent).filter (·.status.isSuccessful)).countP (·.psu.isNone)

theorem length_signatures_add_anonymous (store : MemoryStore) (parent : String) :
    (store.signatures parent).length + store.anonymous parent = store.successes parent := by
  have counted : store.successes parent =
      ((store.listByParent parent).filter (·.status.isSuccessful)).length := by
    rw [successes, statuses, List.countP_map, List.countP_eq_length_filter]
    rfl
  rw [counted, signatures, anonymous]
  induction (store.listByParent parent).filter (·.status.isSuccessful) with
  | nil => rfl
  | cons record records induction =>
      cases known : record.psu with
      | none => simp [known, ← induction, Nat.add_assoc]
      | some psu => simp [known, ← induction, Nat.add_right_comm]

/-- An authorisation by which a PSU has signed a resource. -/
def Signs (store : MemoryStore) (parent : String) (psu : Psu) (id : String) : Prop :=
  ∃ record, store.record? id = some record ∧ record.parent = parent ∧
    record.status.isSuccessful = true ∧ record.psu = some psu

theorem signs_of_listed (distinct : store.Distinct)
    (member : record ∈ (store.listByParent parent).filter (·.status.isSuccessful))
    (known : record.psu = some psu) : store.Signs parent psu record.id := by
  rcases List.mem_filter.mp member with ⟨listed, successful⟩
  rcases mem_listByParent.mp listed with ⟨stored, ours⟩
  exact ⟨record, record?_of_mem distinct stored, ours, successful, known⟩

theorem pairwise_listByParent (distinct : store.Distinct) (parent : String) :
    (store.listByParent parent).Pairwise fun left right => left.id ≠ right.id := by
  rw [← List.pairwise_map]
  apply ((store.listByParent_perm parent).map (·.id)).nodup_iff.mpr
  exact distinct.sublist (List.filter_sublist.map _)

/-- Only co-signers have signed, and nobody has signed twice. -/
structure Attested (store : MemoryStore) (resource : Resource) : Prop where
  accepted : ∀ psu id, store.Signs resource.id psu id → resource.acceptsSigner psu = true
  once : ∀ left right first second, store.Signs resource.id left first →
    store.Signs resource.id right second → left.sameAs right = true → first = second

namespace Attested

theorem of_mem_signatures (attested : store.Attested resource) (distinct : store.Distinct)
    (member : psu ∈ store.signatures resource.id) : resource.acceptsSigner psu = true := by
  rcases List.mem_filterMap.mp member with ⟨record, listed, known⟩
  exact attested.accepted psu record.id (signs_of_listed distinct listed known)

theorem pairwise_signatures (attested : store.Attested resource) (distinct : store.Distinct) :
    (store.signatures resource.id).Pairwise fun left right => left.sameAs right = false := by
  unfold signatures
  rw [List.pairwise_filterMap]
  apply ((pairwise_listByParent distinct resource.id).filter _).imp_of_mem
  intro first second firstListed secondListed different left leftKnown right rightKnown
  cases same : left.sameAs right with
  | false => rfl
  | true =>
      have firstSigns := signs_of_listed distinct firstListed leftKnown
      have secondSigns := signs_of_listed distinct secondListed rightKnown
      exact absurd (attested.once left right _ _ firstSigns secondSigns same) different

/-- A resource without authorisations was signed by nobody. -/
theorem of_unused (unused : store.statuses resource.id = []) : store.Attested resource := by
  have nobody (psu : Psu) (id : String) : ¬ store.Signs resource.id psu id := by
    rintro ⟨record, found, ours, _⟩
    have listed := mem_listByParent.mpr ⟨(mem_of_record? found).1, ours⟩
    have member : record.status ∈ store.statuses resource.id := List.mem_map_of_mem listed
    rw [unused] at member
    cases member
  constructor
  · intro psu id signs
    exact (nobody psu id signs).elim
  · intro left right first second signs
    exact (nobody left first signs).elim

end Attested

end MemoryStore

/-! ## Signatures in a run -/

open MemoryStore

/-- Who is known to a visit of a multilevel resource may sign and has not signed with another
authorisation. -/
theorem Visit.Takes.entitled {deployment : Deployment} {id : String} {request : Request}
    {now : Time.Timestamp} {before after : World MemoryStore} {visit : Visit} {psu : Psu}
    (takes : visit.Takes deployment id request now before after)
    (checked : .identity ∈ deployment.node.checks)
    (multilevel : visit.resource.multilevel = true)
    (known : visit.record.psu.or request.submittedPsu = some psu) :
    visit.resource.acceptsSigner psu = true ∧
      ∀ signer other, before.store.Signs visit.record.parent signer other →
        signer.sameAs psu = true → other = id := by
  have passes := Check.identityObjection_eq_none checked takes.admitted
  rcases Check.entitled_of_identityObjection passes multilevel known with ⟨accepted, unsigned⟩
  refine ⟨accepted, ?_⟩
  rintro signer other ⟨record, found, ours, successful, signed⟩ same
  rcases mem_of_record? found with ⟨stored, sameId⟩
  have listed : record ∈ visit.siblings := by
    rw [takes.siblings, if_pos multilevel]
    exact mem_listByParent.mpr ⟨stored, ours⟩
  by_contra different
  have unlike : record.id ≠ visit.record.id := by rwa [sameId, takes.id_eq]
  have unsigned := unsigned record listed unlike successful
  rw [Authorisation.isOf, signed] at unsigned
  exact absurd same (by simpa using unsigned)

namespace Deployment

variable {deployment : Deployment}

/-- Where a signature comes from that stands after a move. -/
inductive Signing (deployment : Deployment) (move : Move) (before after : World MemoryStore)
    (parent : String) (psu : Psu) (id : String) : Prop
  | earlier (signs : before.store.Signs parent psu id)
  | visited (request : Request) (now : Time.Timestamp)
      (operated : move = .operate ⟨.update id request, now⟩) (visit : Visit)
      (takes : visit.Takes deployment id request now before after)
      (ours : visit.record.parent = parent)
      (known : visit.record.psu.or request.submittedPsu = some psu)

theorem signing_of_signs (deployment : Deployment) (move : Move) (before : World MemoryStore)
    {parent : String} {psu : Psu} {id : String}
    (signs : (deployment.make before move).store.Signs parent psu id) :
    Signing deployment move before (deployment.make before move) parent psu id := by
  rcases signs with ⟨record, found, ours, successful, known⟩
  cases deployment.origin_of_record? move before found with
  | kept earlier foundEarlier same =>
      rw [same] at ours successful known
      exact .earlier ⟨earlier, foundEarlier, ours, successful, known⟩
  | opened step operated newId resource other preferred opening =>
      rw [opening.received] at successful
      cases successful
  | failed earlier foundEarlier live failed same =>
      rw [failed] at successful
      cases successful
  | visited request now operated visit takes draft drafted saved =>
      subst saved
      have copies := takes.draft_copies drafted
      exact .visited request now operated visit takes (copies.parent_eq.symm.trans ours)
        (copies.known known)

theorem attested_make (checked : .identity ∈ deployment.node.checks)
    (before : World MemoryStore) (move : Move) {resource : Resource}
    (found : before.store.resource? resource.id = some resource)
    (multilevel : resource.multilevel = true) (attested : before.store.Attested resource) :
    (deployment.make before move).store.Attested resource := by
  have entitled {id : String} {request : Request} {now : Time.Timestamp} {visit : Visit}
      {psu : Psu} (takes : visit.Takes deployment id request now before
        (deployment.make before move)) (ours : visit.record.parent = resource.id)
      (known : visit.record.psu.or request.submittedPsu = some psu) :
      resource.acceptsSigner psu = true ∧ ∀ signer other,
        before.store.Signs resource.id signer other → signer.sameAs psu = true → other = id := by
    have parent := takes.parent
    rw [ours, found] at parent
    cases parent
    rw [← ours]
    exact takes.entitled checked multilevel known
  constructor
  · intro psu id signs
    cases deployment.signing_of_signs move before signs with
    | earlier signs => exact attested.accepted psu id signs
    | visited request now operated visit takes ours known => exact (entitled takes ours known).1
  · intro left right first second leftSigns rightSigns same
    cases deployment.signing_of_signs move before leftSigns with
    | earlier leftSigned =>
        cases deployment.signing_of_signs move before rightSigns with
        | earlier rightSigned =>
            exact attested.once left right first second leftSigned rightSigned same
        | visited request now operated visit takes ours known =>
            exact (entitled takes ours known).2 left first leftSigned same
    | visited request now operated visit takes ours known =>
        cases deployment.signing_of_signs move before rightSigns with
        | earlier rightSigned =>
            have sameBack := Psu.sameAs_symm same
            exact ((entitled takes ours known).2 right second rightSigned sameBack).symm
        | visited other later updated =>
            rw [operated] at updated
            cases updated
            rfl

/-- Only co-signers sign a multilevel resource that is registered once, and each of them
once. -/
theorem attested_of_registeredOnce (checked : .identity ∈ deployment.node.checks)
    {moves : List Move} {resource : Resource} (once : RegisteredOnce moves resource.id)
    (found : (deployment.play moves (.fresh .empty)).store.resource? resource.id =
      some resource) (multilevel : resource.multilevel = true) :
    (deployment.play moves (.fresh .empty)).store.Attested resource := by
  have all : ∀ resource, RegisteredOnce moves resource.id →
      (deployment.play moves (.fresh .empty)).store.resource? resource.id = some resource →
      resource.multilevel = true →
      (deployment.play moves (.fresh .empty)).store.Attested resource := by
    apply play_induction (fun moves world => ∀ resource, RegisteredOnce moves resource.id →
      world.store.resource? resource.id = some resource → resource.multilevel = true →
      world.store.Attested resource) moves
    · intro resource _ found
      cases found
    · rintro moves before move rfl induction resource once found multilevel
      cases registers : move.registered? with
      | none =>
          have same := deployment.sameResources_make (deployment.play moves (.fresh .empty))
            registers
          rcases same.earlier_eq_some found with ⟨earlier, foundEarlier, restated⟩
          have sameId : earlier.id = resource.id := id_of_resource? foundEarlier
          rw [restated] at multilevel ⊢
          rw [← sameId] at foundEarlier once
          have attested := induction earlier once.of_append foundEarlier multilevel
          have kept := attested_make checked _ move foundEarlier multilevel attested
          exact ⟨kept.accepted, kept.once⟩
      | some registered =>
          have store_eq := deployment.store_make_register
            (deployment.play moves (.fresh .empty)) registers
          have kept := found
          rw [store_eq, resource?_register] at kept
          by_cases same : resource.id = registered.id
          · apply Attested.of_unused
            rw [same] at once
            rw [store_eq, statuses_of_records_eq records_register, same]
            exact deployment.statuses_eq_nil
              (deployment.resource?_eq_none (once.not_mem registers))
          · rw [if_neg same] at kept
            have attested := induction resource once.of_append kept multilevel
            exact attested_make checked _ move kept multilevel attested
  exact all resource once found multilevel

/-- In an orderly run only co-signers sign a multilevel resource, and each of them once. -/
theorem attested_play (checked : .identity ∈ deployment.node.checks) {moves : List Move}
    (orderly : Orderly moves) {resource : Resource}
    (found : (deployment.play moves (.fresh .empty)).store.resource? resource.id =
      some resource) (multilevel : resource.multilevel = true) :
    (deployment.play moves (.fresh .empty)).store.Attested resource :=
  attested_of_registeredOnce checked (orderly.registeredOnce resource.id) found multilevel

/-! ## Authorised resources -/

/-- If nobody else has set its status, an authorised multilevel resource has at least as many
successful authorisations as co-signers. All co-signers have signed it exactly if as many of
them know of a PSU; the others were taken on by a report of the bank that named nobody. -/
theorem all_signed_iff (deployment : Deployment) (quiet : deployment.bank.Quiet)
    (checked : .identity ∈ deployment.node.checks) {moves : List Move}
    (orderly : Orderly moves) {resource : Resource}
    (found : (deployment.play moves (.fresh .empty)).store.resource? resource.id =
      some resource)
    (multilevel : resource.multilevel = true) (named : resource.coSigners ≠ [])
    (different : resource.coSigners.Pairwise fun left right => left.sameAs right = false)
    (authorised : resource.status = .consent .valid ∨ resource.status = .payment .settling)
    (derived : outsideStatus moves resource.id ≠ some resource.status) :
    let store := (deployment.play moves (.fresh .empty)).store
    ((∀ signer ∈ resource.coSigners,
        ∃ psu ∈ store.signatures resource.id, psu.sameAs signer = true) ↔
      (store.signatures resource.id).length = resource.coSigners.length) ∧
    resource.coSigners.length ≤
      (store.signatures resource.id).length + store.anonymous resource.id ∧
    ∀ id record, store.record? id = some record → record.status.isSuccessful = true →
      record.psu = none → HasUpdate id (deployment.history moves (.fresh .empty))
        fun request earlier _ _ => Unidentified request earlier := by
  intro store
  have distinct : store.Distinct := deployment.distinct_play moves
  have attested : store.Attested resource := attested_play checked orderly found multilevel
  refine ⟨?_, ?_, ?_⟩
  · apply Psu.all_present_iff (attested.pairwise_signatures distinct) different
    intro psu member
    have accepted := attested.of_mem_signatures distinct member
    simpa [Resource.acceptsSigner, named] using accepted
  · cases stands_play quiet orderly resource found with
    | outside set => exact absurd set derived
    | derived unclosed coherent =>
        rw [coherent] at authorised
        have enough := Resource.requiredSigners_le_of_authorised multilevel authorised
        rw [length_signatures_add_anonymous]
        exact Nat.le_trans (Nat.le_max_right 1 _) enough
  · intro id record stored successful unknown
    exact unidentified_of_unknown deployment moves stored unknown successful

end Deployment

/-- A consent of two people that the bank reports to be authorised twice, without saying by
whom. -/
def unnamedMoves : List Move :=
  let person (id : String) : Psu := ⟨some id, none, none, none, none⟩
  let consent : Resource := ⟨"consent", .accountConsent, .consent .received, true, false, false,
    [person "anna", person "bert"], .epoch⟩
  let confirmed : Request := ⟨none, none, none, none, some .confirmed⟩
  [.register consent, .start "first" "consent" none (some .redirect),
    .start "second" "consent" none (some .redirect), .update "first" confirmed,
    .update "first" confirmed, .update "second" confirmed, .update "second" confirmed].map
    fun operation => .operate ⟨operation, .epoch⟩

theorem authorised_without_signature :
    let deployment := Deployment.simulated .standard
    Node.ofConfig .standard none = .ok deployment.node ∧
      .identity ∈ deployment.node.checks ∧ deployment.bank.Quiet ∧ Orderly unnamedMoves ∧
      ∃ resource, (deployment.play unnamedMoves (.fresh .empty)).store.resource? resource.id =
          some resource ∧
        resource.multilevel = true ∧ resource.coSigners ≠ [] ∧
        resource.coSigners.Pairwise (fun left right => left.sameAs right = false) ∧
        resource.status = .consent .valid ∧
        outsideStatus unnamedMoves resource.id ≠ some resource.status ∧
        ¬ ∀ signer ∈ resource.coSigners, ∃ psu ∈
          (deployment.play unnamedMoves (.fresh .empty)).store.signatures resource.id,
          psu.sameAs signer = true := by
  intro deployment
  have checked : .identity ∈ deployment.node.checks := by decide
  have quiet : deployment.bank.Quiet := SimulatedBank.standard.quiet
  have orderly : Orderly unnamedMoves := ⟨by decide +kernel, by decide +kernel⟩
  let person (id : String) : Psu := ⟨some id, none, none, none, none⟩
  let consent : Resource := ⟨"consent", .accountConsent, .consent .valid, true, false, false,
    [person "anna", person "bert"], .epoch⟩
  have found : (deployment.play unnamedMoves (.fresh .empty)).store.resource? consent.id =
      some consent := by decide +kernel
  have different : consent.coSigners.Pairwise fun left right => left.sameAs right = false := by
    decide +kernel
  have derived : outsideStatus unnamedMoves consent.id ≠ some consent.status := by
    decide +kernel
  have signed := deployment.all_signed_iff quiet checked orderly found rfl (by simp [consent])
    different (.inl rfl) derived
  refine ⟨Node.ofConfig_standard, checked, quiet, orderly, consent, found, rfl,
    by simp [consent], different, rfl, derived, ?_⟩
  rw [signed.1]
  decide +kernel

end StrongAuth
