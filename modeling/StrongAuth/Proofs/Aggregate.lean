import StrongAuth.Aggregate

/-! # What decides the status of a resource

The aggregate depends only on how many authorisations there are and how many of them are
finalised, exempted or failed. Main statements: a live authorisation more leaves an open
resource as it is; a resource with a live authorisation is decided exactly if another one
has overtaken it; a multilevel resource is authorised only by enough successes; settling
authorisations moves the status of their resource forward only. -/

namespace StrongAuth

/-- A sort of statuses that does not tell the live ones apart. -/
def Status.Blunt (sort : Status → Bool) : Prop :=
  ∀ left right : Status, left.isTerminal = false → right.isTerminal = false →
    sort left = sort right

theorem Status.blunt_beq_of_terminal {status : Status} (terminal : status.isTerminal = true) :
    Status.Blunt (· == status) := by
  have apart (other : Status) (live : other.isTerminal = false) : (other == status) = false := by
    rw [beq_eq_false_iff_ne]
    rintro rfl
    rw [terminal] at live
    cases live
  intro left right leftLive rightLive
  exact (apart left leftLive).trans (apart right rightLive).symm

namespace Aggregate

/-! ## Projection -/

theorem isClosed_project (aggregate : Aggregate) (kind : ResourceKind) :
    (aggregate.project kind).isClosed = false := by
  cases aggregate <;> cases kind <;> rfl

theorem acceptsAuthorisation_project (aggregate : Aggregate) (kind : ResourceKind) :
    (aggregate.project kind).acceptsAuthorisation =
      (aggregate == .received || aggregate == .partiallyAuthorised) := by
  cases aggregate <;> cases kind <;> rfl

theorem project_received (kind : ResourceKind) :
    Aggregate.received.project kind = .initial kind := by
  cases kind <;> rfl

/-! ## Counting -/

theorem countP_isTerminal (statuses : List Status) :
    statuses.countP Status.isTerminal =
      statuses.count .finalised + statuses.count .exempted + statuses.count .failed := by
  induction statuses with
  | nil => rfl
  | cons status statuses induction =>
      rw [List.countP_cons, List.count_cons, List.count_cons, List.count_cons, induction]
      cases status <;> simp [Status.isTerminal] <;> omega

theorem countP_isSuccessful (statuses : List Status) :
    statuses.countP Status.isSuccessful =
      statuses.count .finalised + statuses.count .exempted := by
  induction statuses with
  | nil => rfl
  | cons status statuses induction =>
      rw [List.countP_cons, List.count_cons, List.count_cons, induction]
      cases status <;> simp [Status.isSuccessful] <;> omega

theorem countP_isTerminal_lt {statuses : List Status} {status : Status}
    (member : status ∈ statuses) (live : status.isTerminal = false) :
    statuses.countP Status.isTerminal < statuses.length := by
  have bound : statuses.countP Status.isTerminal ≤ statuses.length := List.countP_le_length
  have strict : statuses.countP Status.isTerminal ≠ statuses.length := by
    intro all
    have terminal := List.countP_eq_length.mp all status member
    rw [live] at terminal
    cases terminal
  omega

theorem count_terminal_le (statuses : List Status) :
    statuses.count .finalised + statuses.count .exempted + statuses.count .failed ≤
      statuses.length := by
  rw [← countP_isTerminal]
  exact List.countP_le_length

theorem singleLevel_eq (statuses : List Status) :
    singleLevel statuses =
      if 0 < statuses.count .finalised then .finalised
      else if 0 < statuses.count .exempted then .exempted
      else if 0 < statuses.length ∧ statuses.count .failed = statuses.length then .failed
      else .received := by
  have allFailed : (!statuses.isEmpty && statuses.all (· == .failed)) = true ↔
      0 < statuses.length ∧ statuses.count .failed = statuses.length := by
    rw [List.count_eq_length]
    have swap (status : Status) : Status.failed = status ↔ status = .failed :=
      ⟨Eq.symm, Eq.symm⟩
    cases statuses with
    | nil => simp
    | cons status statuses => simp [swap]
  simp only [singleLevel, List.contains_iff_mem, List.count_pos_iff, allFailed]

theorem multilevel_eq (required : Nat) (partialAllowed : Bool) (statuses : List Status) :
    multilevel required partialAllowed statuses =
      if statuses.length = 0 then .received
      else if 0 < statuses.count .failed ∧ partialAllowed = false then .failed
      else if statuses.count .failed = statuses.length then .failed
      else if statuses.count .finalised + statuses.count .exempted =
          statuses.length - statuses.count .failed ∧
          required ≤ statuses.count .finalised + statuses.count .exempted then
        if 0 < statuses.count .exempted then .exempted else .finalised
      else if 0 < statuses.count .finalised + statuses.count .exempted then .partiallyAuthorised
      else .received := by
  simp only [multilevel, List.isEmpty_iff_length_eq_zero, Bool.and_eq_true, decide_eq_true_eq,
    Bool.not_eq_true']

end Aggregate

/-! ## Settling -/

/-- The changes of a status that authorisations bring about. -/
def ParentStatus.mayBecome : ParentStatus → ParentStatus → Bool
  | .consent .received, .consent .partiallyAuthorised
  | .consent .received, .consent .valid
  | .consent .received, .consent .rejected
  | .consent .partiallyAuthorised, .consent .valid
  | .consent .partiallyAuthorised, .consent .rejected => true
  | .payment .received, .payment .partiallyAccepted
  | .payment .received, .payment .settling
  | .payment .received, .payment .rejected
  | .payment .partiallyAccepted, .payment .settling
  | .payment .partiallyAccepted, .payment .rejected => true
  | _, _ => false

/-- As many authorisations as before have some status, and of those that were settled none has
another one. -/
structure Settles (earlier later : List Status) : Prop where
  length : later.length = earlier.length
  count : ∀ status : Status, status.isTerminal = true →
    earlier.count status ≤ later.count status

namespace Settles

variable {first second third : List Status}

theorem refl (statuses : List Status) : Settles statuses statuses :=
  ⟨rfl, fun _ _ => Nat.le_refl _⟩

theorem trans (earlier : Settles first second) (later : Settles second third) :
    Settles first third where
  length := later.length.trans earlier.length
  count status terminal :=
    Nat.le_trans (earlier.count status terminal) (later.count status terminal)

end Settles

/-- One aggregate may follow another one. -/
def Aggregate.Leads : Aggregate → Aggregate → Prop
  | .received, _ => True
  | .partiallyAuthorised, later => later ≠ .received
  | .finalised, later | .exempted, later => later = .finalised ∨ later = .exempted
  | .failed, later => later = .failed

theorem Aggregate.Leads.project {earlier later : Aggregate} (leads : earlier.Leads later)
    (kind : ResourceKind) : later.project kind = earlier.project kind ∨
      (earlier.project kind).mayBecome (later.project kind) = true := by
  cases earlier <;> cases later <;> cases kind <;> first | decide | simp [Leads] at leads

/-! ## Laws of combining -/

namespace Aggregate

section Counts

variable {left right : List Status}

/-- Where no sort but that of live statuses is told apart, length and terminal statuses are. -/
theorem counts_of_blunt
    (same : ∀ sort, Status.Blunt sort → left.countP sort = right.countP sort) :
    left.length = right.length ∧
      ∀ status : Status, status.isTerminal = true → left.count status = right.count status := by
  refine ⟨?_, fun status terminal => same _ (Status.blunt_beq_of_terminal terminal)⟩
  simpa using same (fun _ => true) fun _ _ _ _ => rfl

/-- One more that is received is live. -/
theorem counts_of_received_more
    (more : ∀ sort : Status → Bool,
      right.countP sort = left.countP sort + (sort .received).toNat) :
    right.length = left.length + 1 ∧
      ∀ status : Status, status.isTerminal = true → right.count status = left.count status := by
  refine ⟨by simpa using more fun _ => true, fun status terminal => ?_⟩
  have other : (Status.received == status) = false := by
    rw [beq_eq_false_iff_ne]
    rintro rfl
    cases terminal
  have counted := more (· == status)
  rw [other] at counted
  exact counted

end Counts

/-- What a way to combine statuses makes of it when they change. -/
structure Steady (combine : List Status → Aggregate) : Prop where
  /-- Neither the order of statuses nor the differences of live ones count. -/
  congr : ∀ {left right : List Status},
    (∀ sort, Status.Blunt sort → left.countP sort = right.countP sort) →
      combine left = combine right
  leads : ∀ {earlier later : List Status}, Settles earlier later →
    (combine earlier).Leads (combine later)
  /-- What is open to authorisations stays as it is by one more that is received. -/
  received : ∀ {kind : ResourceKind} {left right : List Status},
    ((combine left).project kind).acceptsAuthorisation = true →
      (∀ sort : Status → Bool, right.countP sort = left.countP sort + (sort .received).toNat) →
        combine right = combine left

theorem steady_multilevel (required : Nat) (partialAllowed : Bool) :
    Steady (multilevel required partialAllowed) where
  congr {left right} same := by
    rcases counts_of_blunt same with ⟨length, count⟩
    rw [multilevel_eq, multilevel_eq, length, count .finalised rfl, count .exempted rfl,
      count .failed rfl]
  leads {earlier later} settles := by
    have length := settles.length
    have finalised := settles.count .finalised rfl
    have exempted := settles.count .exempted rfl
    have failed := settles.count .failed rfl
    have bound := count_terminal_le later
    rw [multilevel_eq, multilevel_eq]
    grind [Leads]
  received {kind left right} accepting more := by
    rcases counts_of_received_more more with ⟨length, count⟩
    have bound := count_terminal_le left
    rw [acceptsAuthorisation_project, multilevel_eq] at accepting
    rw [multilevel_eq, multilevel_eq, length, count .finalised rfl, count .exempted rfl,
      count .failed rfl]
    grind

theorem steady_singleLevel : Steady singleLevel where
  congr {left right} same := by
    rcases counts_of_blunt same with ⟨length, count⟩
    rw [singleLevel_eq, singleLevel_eq, length, count .finalised rfl, count .exempted rfl,
      count .failed rfl]
  leads {earlier later} settles := by
    have length := settles.length
    have finalised := settles.count .finalised rfl
    have exempted := settles.count .exempted rfl
    have failed := settles.count .failed rfl
    have bound := count_terminal_le later
    rw [singleLevel_eq, singleLevel_eq]
    grind [Leads]
  received {kind left right} accepting more := by
    rcases counts_of_received_more more with ⟨length, count⟩
    have bound := count_terminal_le left
    rw [acceptsAuthorisation_project, singleLevel_eq] at accepting
    rw [singleLevel_eq, singleLevel_eq, length, count .finalised rfl, count .exempted rfl,
      count .failed rfl]
    grind

end Aggregate

/-! ## Resources -/

namespace Resource

variable {resource : Resource} {left right statuses : List Status}

@[simp] theorem aggregate_nil (resource : Resource) : resource.aggregate [] = .received := by
  unfold aggregate
  split <;> rfl

theorem steady_aggregate (resource : Resource) : Aggregate.Steady resource.aggregate := by
  cases multilevel : resource.multilevel with
  | true =>
      have same : resource.aggregate =
          .multilevel resource.requiredSigners resource.partialAllowed := by
        funext statuses
        rw [aggregate, multilevel, if_pos rfl]
      rw [same]
      exact Aggregate.steady_multilevel _ _
  | false =>
      have same : resource.aggregate = .singleLevel := by
        funext statuses
        rw [aggregate, multilevel, if_neg Bool.false_ne_true]
      rw [same]
      exact Aggregate.steady_singleLevel

/-- The aggregate does not tell live statuses apart, and does not depend on the order. -/
theorem aggregate_congr (resource : Resource)
    (same : ∀ sort, Status.Blunt sort → left.countP sort = right.countP sort) :
    resource.aggregate left = resource.aggregate right :=
  resource.steady_aggregate.congr same

theorem aggregate_perm (resource : Resource) (perm : left.Perm right) :
    resource.aggregate left = resource.aggregate right :=
  resource.aggregate_congr fun sort _ => perm.countP_eq sort

/-- A resource that is open to authorisations stays as it is if one more is received. -/
theorem aggregate_of_received_more {kind : ResourceKind}
    (accepting : ((resource.aggregate left).project kind).acceptsAuthorisation = true)
    (more : ∀ sort : Status → Bool,
      right.countP sort = left.countP sort + (sort .received).toNat) :
    resource.aggregate right = resource.aggregate left :=
  resource.steady_aggregate.received accepting more

theorem aggregate_leads (resource : Resource) {earlier later : List Status}
    (settles : Settles earlier later) :
    (resource.aggregate earlier).Leads (resource.aggregate later) :=
  resource.steady_aggregate.leads settles

/-- The authorisations of a resource have decided it while some of them are live. -/
inductive Overtaken (resource : Resource) (statuses : List Status) : Prop
  | succeeded (single : resource.multilevel = false) (status : Status)
      (member : status ∈ statuses) (successful : status.isSuccessful = true)
  | failed (multilevel : resource.multilevel = true) (strict : resource.partialAllowed = false)
      (member : .failed ∈ statuses)

theorem overtaken_iff {kind : ResourceKind} {status : Status} (member : status ∈ statuses)
    (live : status.isTerminal = false) :
    ((resource.aggregate statuses).project kind).acceptsAuthorisation = false ↔
      resource.Overtaken statuses := by
  have bound := Aggregate.countP_isTerminal_lt member live
  rw [Aggregate.countP_isTerminal] at bound
  rw [Aggregate.acceptsAuthorisation_project]
  unfold aggregate
  cases multilevel : resource.multilevel with
  | true =>
      have undone : resource.Overtaken statuses ↔
          resource.partialAllowed = false ∧ 0 < statuses.count .failed := by
        rw [List.count_pos_iff]
        constructor
        · rintro (⟨single, _⟩ | ⟨_, strict, member⟩)
          · rw [multilevel] at single
            cases single
          · exact ⟨strict, member⟩
        · rintro ⟨strict, member⟩
          exact .failed multilevel strict member
      rw [undone, if_pos rfl, Aggregate.multilevel_eq]
      grind
  | false =>
      have done : resource.Overtaken statuses ↔
          0 < statuses.countP Status.isSuccessful := by
        rw [List.countP_pos_iff]
        constructor
        · rintro (⟨_, status, member, successful⟩ | ⟨several, _, _⟩)
          · exact ⟨status, member, successful⟩
          · rw [multilevel] at several
            cases several
        · rintro ⟨status, member, successful⟩
          exact .succeeded multilevel status member successful
      rw [done, if_neg (by simp), Aggregate.countP_isSuccessful, Aggregate.singleLevel_eq]
      grind

/-- An authorised multilevel resource has as many successes as it needs. -/
theorem requiredSigners_le_of_authorised {kind : ResourceKind}
    (multilevel : resource.multilevel = true)
    (authorised : (resource.aggregate statuses).project kind = .consent .valid ∨
      (resource.aggregate statuses).project kind = .payment .settling) :
    resource.requiredSigners ≤ statuses.countP Status.isSuccessful := by
  have complete : resource.aggregate statuses = .finalised ∨
      resource.aggregate statuses = .exempted := by
    revert authorised
    cases resource.aggregate statuses <;> cases kind <;>
      simp [Aggregate.project, ResourceKind.isConsent]
  rw [aggregate, if_pos multilevel, Aggregate.multilevel_eq] at complete
  rw [Aggregate.countP_isSuccessful]
  grind

theorem derive?_getD (resource : Resource) (statuses : List Status) :
    (resource.derive? statuses).getD resource.status =
      if resource.status.isClosed then resource.status
      else (resource.aggregate statuses).project resource.kind := by
  unfold derive?
  cases resource.status.isClosed with
  | true => rfl
  | false =>
      dsimp only
      cases same : (resource.aggregate statuses).project resource.kind == resource.status with
      | true => exact (eq_of_beq same).symm
      | false => rfl

theorem derive?_eq_none (coherent :
    resource.status = (resource.aggregate statuses).project resource.kind) :
    resource.derive? statuses = none := by
  simp [derive?, ← coherent]

theorem derive?_eq_some {status : ParentStatus}
    (derives : resource.derive? statuses = some status) :
    resource.status.isClosed = false ∧
      status = (resource.aggregate statuses).project resource.kind ∧
      status ≠ resource.status := by
  simp only [derive?] at derives
  split at derives
  · cases derives
  · next due =>
      rw [Bool.or_eq_true, not_or, Bool.not_eq_true, beq_iff_eq] at due
      cases derives
      exact ⟨due.1, rfl, due.2⟩

end Resource

end StrongAuth
