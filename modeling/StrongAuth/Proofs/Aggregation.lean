import StrongAuth.Proofs.Aggregate

/-! # Statuses combined, one change at a time

Main statement: the aggregate of any statuses, for one signature as for any number of co-signers,
does not depend on their order; a status that changes as the transition table allows takes the
status of the resource forward only, and leaves the aggregate as it is while it stays live; and
one more that is received leaves open what is open. -/

namespace StrongAuth

variable {statuses : List Status} {index : Nat} {current requested : Status}

/-! ## One status replaced -/

/-- A live status that is replaced takes no settled one away. -/
theorem settles_set (found : statuses[index]? = some current)
    (live : current.isTerminal = false) (requested : Status) :
    Settles statuses (statuses.set index requested) where
  length := List.length_set
  count status terminal := by
    rcases List.getElem?_eq_some_iff.mp found with ⟨within, same⟩
    have other : (current == status) = false := by
      rw [beq_eq_false_iff_ne]
      rintro rfl
      rw [terminal] at live
      cases live
    rw [List.count_set within, same, other, if_neg Bool.false_ne_true, Nat.sub_zero]
    exact Nat.le_add_right _ _

/-- A sort that does not tell live statuses apart counts as many when one of them replaces
another one. -/
theorem countP_set_of_live (found : statuses[index]? = some current)
    (live : current.isTerminal = false) (stays : requested.isTerminal = false)
    {sort : Status → Bool} (blunt : Status.Blunt sort) :
    (statuses.set index requested).countP sort = statuses.countP sort := by
  rcases List.getElem?_eq_some_iff.mp found with ⟨within, same⟩
  rw [List.countP_set within, same, blunt requested current stays live]
  by_cases sorted : sort current = true
  · have counted : 0 < statuses.countP sort :=
      List.countP_pos_iff.mpr ⟨current, List.mem_of_getElem? found, sorted⟩
    rw [if_pos sorted]
    omega
  · rw [if_neg sorted, Nat.sub_zero, Nat.add_zero]

namespace Aggregate

/-! ## Changes of a combination -/

/-- Combined statuses take no heed of their order and go forward as each of them does. -/
structure Progressive (combine : List Status → Aggregate) : Prop where
  perm : ∀ left right : List Status, left.Perm right → combine left = combine right
  /-- The resource goes from received to partially authorised and from either to authorised or
  rejected, if it changes. -/
  forward : ∀ (policy : ExemptionPolicy) (statuses : List Status) (index : Nat)
    (current requested : Status), statuses[index]? = some current →
      Status.check policy current requested = .ok () → ∀ kind : ResourceKind,
        let earlier := (combine statuses).project kind
        let later := (combine (statuses.set index requested)).project kind
        later = earlier ∨ earlier.mayBecome later = true
  live : ∀ (policy : ExemptionPolicy) (statuses : List Status) (index : Nat)
    (current requested : Status), statuses[index]? = some current →
      Status.check policy current requested = .ok () → requested.isTerminal = false →
        combine (statuses.set index requested) = combine statuses
  received : ∀ (statuses : List Status) (kind : ResourceKind),
    ((combine statuses).project kind).acceptsAuthorisation = true →
      combine (statuses ++ [.received]) = combine statuses

theorem Steady.progressive {combine : List Status → Aggregate} (steady : Steady combine) :
    Progressive combine where
  perm left right perm := steady.congr fun sort _ => perm.countP_eq sort
  forward policy statuses index current requested found accepted kind := by
    have live := (Status.rank_le_of_check accepted).1
    exact (steady.leads (settles_set found live requested)).project kind
  live policy statuses index current requested found accepted stays := by
    have live := (Status.rank_le_of_check accepted).1
    exact steady.congr fun sort blunt => countP_set_of_live found live stays blunt
  received statuses kind accepting := by
    apply steady.received accepting
    intro sort
    rw [List.countP_append, List.countP_singleton]
    cases sort .received <;> rfl

/-- So it is for every number of signatures required, whether or not failures are tolerated, and
for resources that need only one. -/
theorem aggregates_progressive (required : Nat) (partialAllowed : Bool) :
    Progressive (multilevel required partialAllowed) ∧ Progressive singleLevel :=
  ⟨(steady_multilevel required partialAllowed).progressive, steady_singleLevel.progressive⟩

/-- More authorisations are live than signatures are missing, and one has failed. The second of
two signatures leaves the consent partially authorised as long as another authorisation is live;
that one decides it by failing. -/
theorem last_live_authorisation_decides :
    let statuses : List Status := [.finalised, .psuIdentified, .failed, .scaMethodSelected]
    let signed := statuses.set 3 .finalised
    let decided := signed.set 1 .failed
    let status (statuses : List Status) := (multilevel 2 true statuses).project .accountConsent
    multilevel 2 true statuses.reverse = multilevel 2 true statuses ∧
      multilevel 2 true (statuses.set 1 .psuAuthenticated) = multilevel 2 true statuses ∧
      (status signed = status statuses ∨ (status statuses).mayBecome (status signed) = true) ∧
      (status decided = status signed ∨ (status signed).mayBecome (status decided) = true) ∧
      multilevel 2 true (signed ++ [.received]) = multilevel 2 true signed ∧
      [statuses, signed, decided].map status =
        [.consent .partiallyAuthorised, .consent .partiallyAuthorised, .consent .valid] := by
  intro statuses signed decided status
  have progressive := (aggregates_progressive 2 true).1
  refine ⟨progressive.perm _ _ statuses.reverse_perm, ?_, ?_, ?_, ?_, by decide⟩
  · exact progressive.live .anyNonTerminal statuses 1 .psuIdentified .psuAuthenticated rfl rfl rfl
  · exact progressive.forward .anyNonTerminal statuses 3 .scaMethodSelected .finalised rfl rfl _
  · exact progressive.forward .anyNonTerminal signed 1 .psuIdentified .failed rfl rfl _
  · exact progressive.received signed .accountConsent rfl

end Aggregate

end StrongAuth
