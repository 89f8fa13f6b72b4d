import StrongAuth.Proofs.Signatures

/-! # One authorisation for each signer

Starting an authorisation of a multilevel resource asks whether the PSU has another one that
has not failed. An update that says who the PSU is only asks whether it has signed already.
Main statements: a PSU signs with one authorisation at most, and if it has two that have not
failed, then it claimed one of them after that was started without a PSU. -/

namespace StrongAuth

namespace Resource

variable {resource : Resource} {psu : Psu}

theorem exists_coSigner (accepted : resource.acceptsSigner psu = true)
    (named : resource.coSigners ≠ []) :
    ∃ signer ∈ resource.coSigners, signer.sameAs psu = true := by
  have invited : resource.coSigners.any (·.sameAs psu) = true := by
    simpa [acceptsSigner, named] using accepted
  exact List.any_eq_true.mp invited

end Resource

namespace MemoryStore

variable {store : MemoryStore} {parent id : String} {psu : Psu}

instance : Decidable (store.Signs parent psu id) :=
  decidable_of_iff ((store.record? id).any fun record =>
      decide (record.parent = parent ∧ record.status.isSuccessful = true ∧ record.psu = some psu))
    (by simp [Signs, Option.any_eq_true])

/-- An authorisation of a resource that belongs to a PSU and has not failed. -/
def Occupies (store : MemoryStore) (parent : String) (psu : Psu) (id : String) : Prop :=
  ∃ record, store.record? id = some record ∧ record.parent = parent ∧
    record.status ≠ .failed ∧ record.psu = some psu

instance : Decidable (store.Occupies parent psu id) :=
  decidable_of_iff ((store.record? id).any fun record =>
      decide (record.parent = parent ∧ record.status ≠ .failed ∧ record.psu = some psu))
    (by simp [Occupies, Option.any_eq_true])

theorem Occupies.isBusy {other : Psu}
    (occupies : store.Occupies parent psu id) (same : psu.sameAs other = true) :
    Node.isBusy other (store.listByParent parent) = true := by
  rcases occupies with ⟨record, found, ours, standing, known⟩
  have listed := mem_listByParent.mpr ⟨(mem_of_record? found).1, ours⟩
  refine List.any_eq_true.mpr ⟨record, listed, ?_⟩
  simp [Authorisation.isOf, known, standing, same]

end MemoryStore

open MemoryStore

namespace Deployment

variable {deployment : Deployment} {moves : List Move}

/-! ## Signing once -/

/-- Who signs a multilevel resource that is registered once is one of its co-signers, and
signs with no other authorisation, whatever others do to the store. -/
theorem signs_once (deployment : Deployment) (checked : .identity ∈ deployment.node.checks)
    {registered : Resource} (member : registered ∈ moves.filterMap Move.registered?)
    (once : RegisteredOnce moves registered.id) (multilevel : registered.multilevel = true)
    (named : registered.coSigners ≠ []) {psu : Psu} {id : String}
    (signs : (deployment.play moves (.fresh .empty)).store.Signs registered.id psu id) :
    (∃ signer ∈ registered.coSigners, signer.sameAs psu = true) ∧
      ∀ other another,
        (deployment.play moves (.fresh .empty)).store.Signs registered.id other another →
        psu.sameAs other = true → another = id := by
  rcases deployment.resource?_of_registeredOnce once member with ⟨status, found⟩
  have attested : (deployment.play moves (.fresh .empty)).store.Attested
      { registered with status } := attested_of_registeredOnce checked once found multilevel
  constructor
  · exact Resource.exists_coSigner (attested.accepted psu id signs) named
  · intro other another alsoSigns same
    exact (attested.once psu other id another signs alsoSigns same).symm

end Deployment

/-- A consent that anna and bert have to authorise. Anna signs with an authorisation that was
started for her. She may not claim another one that was started for nobody, and bert signs
with it. -/
def claimedMoves : List Move :=
  let person (id : String) : Psu := ⟨some id, none, none, none, none⟩
  let consent : Resource := ⟨"consent", .accountConsent, .consent .received, true, false, false,
    [person "anna", person "bert"], .epoch⟩
  let password (id : String) : Request := ⟨some (person id), some "secret", none, none, none⟩
  let code : Request := ⟨none, none, none, some "123456", none⟩
  [.register consent, .start "first" "consent" (some (person "anna")) (some .embedded),
    .update "first" (password "anna"), .update "first" code,
    .start "second" "consent" none (some .embedded), .update "second" (password "anna"),
    .update "second" (password "bert"), .update "second" code].map
    fun operation => .operate ⟨operation, .epoch⟩

theorem signed_once_by_each :
    let deployment := Deployment.simulated .standard
    let anna : Psu := ⟨some "anna", none, none, none, none⟩
    let bert : Psu := ⟨some "bert", none, none, none, none⟩
    let consent : Resource := ⟨"consent", .accountConsent, .consent .received, true, false, false,
      [anna, bert], .epoch⟩
    let store := (deployment.play claimedMoves (.fresh .empty)).store
    .identity ∈ deployment.node.checks ∧
      consent ∈ claimedMoves.filterMap Move.registered? ∧
      RegisteredOnce claimedMoves "consent" ∧
      store.Signs "consent" anna "first" ∧ store.Signs "consent" bert "second" ∧
      (∀ other another, store.Signs "consent" other another →
        anna.sameAs other = true → another = "first") ∧
      ∀ other another, store.Signs "consent" other another →
        bert.sameAs other = true → another = "second" := by
  intro deployment anna bert consent store
  have checked : .identity ∈ deployment.node.checks := by decide
  have member : consent ∈ claimedMoves.filterMap Move.registered? := by decide +kernel
  have once : RegisteredOnce claimedMoves "consent" := by
    unfold RegisteredOnce
    decide +kernel
  have annaSigns : store.Signs "consent" anna "first" := by decide +kernel
  have bertSigns : store.Signs "consent" bert "second" := by decide +kernel
  have named : consent.coSigners ≠ [] := by simp [consent]
  exact ⟨checked, member, once, annaSigns, bertSigns,
    (deployment.signs_once checked member once rfl named annaSigns).2,
    (deployment.signs_once checked member once rfl named bertSigns).2⟩

namespace Deployment

variable {deployment : Deployment} {moves : List Move}

/-! ## Claiming another authorisation -/

/-- Where an authorisation that has not failed after a move has its PSU from. -/
inductive Occupying (deployment : Deployment) (move : Move) (before after : World MemoryStore)
    (parent : String) (psu : Psu) (id : String) : Prop
  | earlier (occupies : before.store.Occupies parent psu id)
  | started (resource : Resource) (signer : Option Psu) (preferred : Option Approach)
      (now : Time.Timestamp)
      (operated : move = .operate ⟨.start id parent signer preferred, now⟩)
      (record : Authorisation)
      (opening : Opening deployment.node now id resource
        (signer.filter fun psu => !psu.isEmpty) preferred before.store record)
      (ours : resource.id = parent)
      (known : (signer.filter fun psu => !psu.isEmpty) = some psu)
  | claimed (request : Request) (now : Time.Timestamp)
      (operated : move = .operate ⟨.update id request, now⟩) (visit : Visit)
      (takes : visit.Takes deployment id request now before after)
      (ours : visit.record.parent = parent) (unknown : visit.record.psu = none)
      (known : request.submittedPsu = some psu)

theorem occupying_of_occupies (deployment : Deployment) (move : Move)
    (before : World MemoryStore) {parent : String} {psu : Psu} {id : String}
    (occupies : (deployment.make before move).store.Occupies parent psu id) :
    Occupying deployment move before (deployment.make before move) parent psu id := by
  rcases occupies with ⟨record, found, ours, standing, known⟩
  cases deployment.origin_of_record? move before found with
  | kept earlier foundEarlier same =>
      rw [same] at ours standing known
      exact .earlier ⟨earlier, foundEarlier, ours, standing, known⟩
  | opened step operated newId resource signer preferred opening operation =>
      rcases step with ⟨_, now⟩
      have opened := opening.record_eq
      have sameId : newId = id := by
        rw [← (mem_of_record? found).2, opened]
      have sameParent := opening.parent_eq.symm.trans ours
      subst sameId sameParent operated
      cases operation
      refine .started resource signer preferred now rfl record opening rfl ?_
      rw [opened] at known
      exact (Option.filter_eq_some_iff.mp known).1
  | failed earlier foundEarlier live failed same => exact absurd failed standing
  | visited request now operated visit takes draft drafted saved =>
      subst saved
      have copies := takes.draft_copies drafted
      have sameParent : visit.record.parent = parent := copies.parent_eq.symm.trans ours
      rcases Option.or_eq_some_iff.mp (copies.known known) with identified | ⟨unknown, named⟩
      · exact .earlier ⟨visit.record, takes.found, sameParent, takes.ne_failed, identified⟩
      · exact .claimed request now operated visit takes sameParent unknown named

/-- Some update claimed an authorisation that knew of no PSU for one that had signed with no
other. -/
def Claimed (parent : String) (psu : Psu) (id : String) (passages : List Passage) : Prop :=
  ∃ passage ∈ passages, ∃ request record,
    passage.request? id = some request ∧ passage.before.store.record? id = some record ∧
    record.psu = none ∧ request.submittedPsu = some psu ∧
    ∀ signer other, passage.before.store.Signs parent signer other →
      signer.sameAs psu = true → other = id

theorem Claimed.append {parent id : String} {psu : Psu} {passages : List Passage}
    (claimed : Claimed parent psu id passages) (others : List Passage) :
    Claimed parent psu id (passages ++ others) := by
  rcases claimed with ⟨passage, member, details⟩
  exact ⟨passage, List.mem_append_left _ member, details⟩

theorem Claimed.of_takes {before after : World MemoryStore} {parent id : String} {psu : Psu}
    {request : Request} {now : Time.Timestamp} {visit : Visit}
    (takes : visit.Takes deployment id request now before after)
    (checked : .identity ∈ deployment.node.checks)
    (multilevel : visit.resource.multilevel = true) (ours : visit.record.parent = parent)
    (unknown : visit.record.psu = none) (named : request.submittedPsu = some psu)
    (passages : List Passage) :
    Claimed parent psu id
      (passages ++ [⟨.operate ⟨.update id request, now⟩, before, after⟩]) := by
  have known : visit.record.psu.or request.submittedPsu = some psu := by
    rw [unknown]
    exact named
  refine ⟨_, List.mem_append_right _ (.head _), request, visit.record,
    by simp [Passage.request?], takes.found, unknown, named, ?_⟩
  rw [← ours]
  exact (takes.entitled checked multilevel known).2

/-- What is started for a PSU is its only authorisation that has not failed. -/
theorem not_occupies_of_opening {before : World MemoryStore} {resource : Resource}
    {now : Time.Timestamp} {newId : String} {signer : Option Psu} {preferred : Option Approach}
    {record : Authorisation} {psu other : Psu} {id : String}
    (opening : Opening deployment.node now newId resource signer preferred before.store record)
    (multilevel : resource.multilevel = true) (known : signer = some psu)
    (same : other.sameAs psu = true) : ¬ before.store.Occupies resource.id other id := by
  intro occupies
  have free := (opening.admitted multilevel psu known).2
  rw [occupies.isBusy same] at free
  cases free

/-- If a PSU has two authorisations that have not failed after a move, it had them before, or
it claimed one of them by that move. -/
theorem occupies_twice_make (checked : .identity ∈ deployment.node.checks)
    (before : World MemoryStore) (move : Move) (passages : List Passage) {parent : String}
    (multilevel : ∀ resource, before.store.resource? parent = some resource →
      resource.multilevel = true)
    {left right : Psu} {first second : String}
    (leftOccupies : (deployment.make before move).store.Occupies parent left first)
    (rightOccupies : (deployment.make before move).store.Occupies parent right second)
    (same : left.sameAs right = true) (different : first ≠ second) :
    let later := passages ++ [⟨move, before, deployment.make before move⟩]
    before.store.Occupies parent left first ∧ before.store.Occupies parent right second ∨
      Claimed parent left first later ∨ Claimed parent right second later := by
  intro later
  cases deployment.occupying_of_occupies move before leftOccupies with
  | claimed request now operated visit takes ours unknown named =>
      subst operated
      have needed := multilevel visit.resource (ours ▸ takes.parent)
      exact .inr (.inl (.of_takes takes checked needed ours unknown named passages))
  | started resource signer preferred now operated record opening ours known =>
      subst operated ours
      cases deployment.occupying_of_occupies _ before rightOccupies with
      | claimed request now operated => cases operated
      | started resource signer preferred now operated =>
          cases operated
          exact absurd rfl different
      | earlier occupies =>
          have needed := multilevel resource opening.found
          exact absurd occupies
            (not_occupies_of_opening opening needed known (Psu.sameAs_symm same))
  | earlier leftStood =>
      cases deployment.occupying_of_occupies move before rightOccupies with
      | claimed request now operated visit takes ours unknown named =>
          subst operated
          have needed := multilevel visit.resource (ours ▸ takes.parent)
          exact .inr (.inr (.of_takes takes checked needed ours unknown named passages))
      | started resource signer preferred now operated record opening ours known =>
          subst ours
          have needed := multilevel resource opening.found
          exact absurd leftStood (not_occupies_of_opening opening needed known same)
      | earlier rightStood => exact .inl ⟨leftStood, rightStood⟩

/-- If a PSU has two authorisations of a multilevel resource that have not failed, it claimed
one of them after that was started without a PSU. -/
theorem claimed_of_occupies_twice (deployment : Deployment)
    (checked : .identity ∈ deployment.node.checks) {parent : String}
    (multilevel : ∀ registered ∈ moves.filterMap Move.registered?, registered.id = parent →
      registered.multilevel = true)
    {left right : Psu} {first second : String}
    (leftOccupies :
      (deployment.play moves (.fresh .empty)).store.Occupies parent left first)
    (rightOccupies :
      (deployment.play moves (.fresh .empty)).store.Occupies parent right second)
    (same : left.sameAs right = true) (different : first ≠ second) :
    Claimed parent left first (deployment.history moves (.fresh .empty)) ∨
      Claimed parent right second (deployment.history moves (.fresh .empty)) := by
  revert multilevel leftOccupies rightOccupies
  apply play_induction (fun moves world =>
    (∀ registered ∈ moves.filterMap Move.registered?, registered.id = parent →
      registered.multilevel = true) →
    world.store.Occupies parent left first → world.store.Occupies parent right second →
    Claimed parent left first (deployment.history moves (.fresh .empty)) ∨
      Claimed parent right second (deployment.history moves (.fresh .empty))) moves
  · rintro _ ⟨record, found, _⟩
    cases found
  · rintro moves before move rfl induction multilevel leftOccupies rightOccupies
    rw [List.filterMap_append] at multilevel
    have earlier := fun registered member =>
      multilevel registered (List.mem_append_left _ member)
    have needed : ∀ resource,
        (deployment.play moves (.fresh .empty)).store.resource? parent = some resource →
        resource.multilevel = true := by
      intro resource found
      rcases registered_of_resource? found with ⟨registered, member, sameId, restated⟩
      rw [restated]
      exact earlier registered member sameId
    rw [history_append]
    rcases occupies_twice_make checked _ move (deployment.history moves (.fresh .empty))
      needed leftOccupies rightOccupies same different with ⟨leftStood, rightStood⟩ | claimed
    · rcases induction earlier leftStood rightStood with left | right
      · exact .inl (left.append _)
      · exact .inr (right.append _)
    · exact claimed

end Deployment

/-- Anna starts an authorisation of the same consent. Another one is started for nobody, and
she claims it. -/
def duplicateMoves : List Move :=
  let person (id : String) : Psu := ⟨some id, none, none, none, none⟩
  let consent : Resource := ⟨"consent", .accountConsent, .consent .received, true, false, false,
    [person "anna", person "bert"], .epoch⟩
  [.register consent, .start "first" "consent" (some (person "anna")) (some .embedded),
    .start "second" "consent" none (some .embedded),
    .update "second" ⟨some (person "anna"), none, none, none, none⟩].map
    fun operation => .operate ⟨operation, .epoch⟩

theorem claimed_where_start_refuses :
    let deployment := Deployment.simulated .standard
    let anna : Psu := ⟨some "anna", none, none, none, none⟩
    let world := deployment.play duplicateMoves (.fresh .empty)
    .identity ∈ deployment.node.checks ∧
      (deployment.perform ⟨.start "third" "consent" (some anna) (some .embedded), .epoch⟩
        world).1 = .error (.refused .psuBusy) ∧
      (∀ registered ∈ duplicateMoves.filterMap Move.registered?, registered.id = "consent" →
        registered.multilevel = true) ∧
      world.store.Occupies "consent" anna "first" ∧
      world.store.Occupies "consent" anna "second" ∧
      (Deployment.Claimed "consent" anna "first"
          (deployment.history duplicateMoves (.fresh .empty)) ∨
        Deployment.Claimed "consent" anna "second"
          (deployment.history duplicateMoves (.fresh .empty))) := by
  intro deployment anna world
  have checked : .identity ∈ deployment.node.checks := by decide
  have multilevel : ∀ registered ∈ duplicateMoves.filterMap Move.registered?,
      registered.id = "consent" → registered.multilevel = true := by decide +kernel
  have first : world.store.Occupies "consent" anna "first" := by decide +kernel
  have second : world.store.Occupies "consent" anna "second" := by decide +kernel
  exact ⟨checked, by decide +kernel, multilevel, first, second,
    deployment.claimed_of_occupies_twice checked multilevel first second
      (Psu.sameAs_refl anna) (by decide)⟩

end StrongAuth
