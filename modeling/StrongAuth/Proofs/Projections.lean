import StrongAuth.Proofs.Coherence
import StrongAuth.Proofs.Traffic

/-! # Requests that derive the status of one resource

A request that stores a terminal status derives the status of the resource anew: it reads the
resource, lists the authorisations, and sets the status, and others may do the same between
these deeds. Main statement: when all requests are done, the resource has the status that its
authorisations make up, or the one with which someone else has closed it, unless a request has
set a status that was outdated by then. -/

namespace StrongAuth

/-- The status that the authorisations of a resource make up. -/
def MemoryStore.due (store : MemoryStore) (resource : Resource) : ParentStatus :=
  (resource.aggregate (store.statuses resource.id)).project resource.kind

/-- The deed sets the status of a resource that is closed, or another one than is due. -/
def Deed.IsBelated (parent : String) : Deed → Prop
  | ⟨world, .store (.setParentStatus other status)⟩ => other = parent ∧
      ∃ resource, world.store.resource? parent = some resource ∧
        (resource.status.isClosed = true ∨ status ≠ world.store.due resource)
  | _ => False

/-- What the request is going to do puts a resource right, if its status is left alone. -/
def Phase.Owes (resource : Resource) (status due : ParentStatus) : Phase → Prop
  | .inside _ _ (.owing parent) => parent = resource.id
  | .inside _ _ (.projecting parent read) =>
      parent = resource.id ∧ read = { resource with status }
  | .inside _ _ (.setting parent derived) => parent = resource.id ∧ derived = due
  | _ => False

/-- How the status of a resource compares to the one that is due: someone else has closed the
resource with it, or it is due, or some request owes the one that is. -/
inductive Tracks (resource : Resource) (last : Option ParentStatus)
    (status due : ParentStatus) (phases : List Phase) : Prop
  | closed (set : last = some status) (closes : status.isClosed = true)
  | current (unset : last = none) (same : status = due)
  | owed (unset : last = none) (unclosed : status.isClosed = false) (phase : Phase)
      (member : phase ∈ phases) (owes : phase.Owes resource status due)

/-! ## A single deed -/

variable {creates : Bool} {phase : Phase} {phases others : List Phase}
  {world : World MemoryStore} {store later : MemoryStore} {effect : Effect}
  {resource : Resource} {last : Option ParentStatus} {status due : ParentStatus}

theorem Tracks.mono (tracks : Tracks resource last status due phases)
    (within : phases ⊆ others) : Tracks resource last status due others := by
  cases tracks with
  | closed set closes => exact .closed set closes
  | current unset same => exact .current unset same
  | owed unset unclosed phase member owes =>
      exact .owed unset unclosed phase (within member) owes

/-- While the status of a resource has to follow, a request goes on with that. -/
theorem Phase.Permits.of_unsettled {id : String} {lock : Nat} {progress : Progress}
    (permits : (Phase.inside id lock progress).Permits creates effect)
    (unsettled : progress.isSettled = false) :
    (∃ event, effect = .publish event) ∨
      ∃ call, effect = .store call ∧ progress.PermitsCall id call := by
  cases effect with
  | publish event => exact .inl ⟨event, rfl⟩
  | store call => exact .inr ⟨call, rfl, permits⟩
  | bank call =>
      rcases permits with ⟨record, rfl⟩
      cases unsettled
  | free freed =>
      rw [permits.2] at unsettled
      cases unsettled
  | obtain other | take other | giveBack other handle => cases permits

/-- A request that owes a status gets on with it unless it sets one. -/
theorem Phase.Owes.after (owes : phase.Owes resource status (world.store.due resource))
    (permits : phase.Permits creates effect) (editless : effect.edits = false)
    (found : world.store.resource? resource.id = some { resource with status })
    (unclosed : status.isClosed = false) :
    status = world.store.due resource ∨
      (phase.after ⟨world, effect⟩).Owes resource status (world.store.due resource) := by
  rcases phase with _ | _ | ⟨id, lock, _ | parent | ⟨parent, read⟩ | ⟨parent, derived⟩ | _⟩ | _
  case inside.owing =>
    have ours : parent = resource.id := owes
    subst ours
    right
    rcases permits.of_unsettled rfl with ⟨event, rfl⟩ | ⟨call, rfl, rfl⟩
    · exact owes
    · change Phase.Owes _ _ _ (.inside id lock
        ((world.store.resource? resource.id).elim .closed (.projecting resource.id)))
      rw [found]
      exact ⟨rfl, rfl⟩
  case inside.projecting =>
    rcases owes with ⟨rfl, rfl⟩
    rcases permits.of_unsettled rfl with ⟨event, rfl⟩ | ⟨call, rfl, rfl⟩
    · exact .inr ⟨rfl, rfl⟩
    · have derives := Resource.derive?_getD { resource with status }
        (world.store.statuses resource.id)
      rw [if_neg (by simp [unclosed])] at derives
      change _ ∨ Phase.Owes _ _ _ (.inside id lock
        ((Resource.derive? { resource with status } (world.store.statuses resource.id)).elim
          .closed (.setting resource.id)))
      cases derived : Resource.derive? { resource with status }
          (world.store.statuses resource.id) with
      | none =>
          rw [derived] at derives
          exact .inl derives
      | some next =>
          rw [derived] at derives
          exact .inr ⟨rfl, derives⟩
  case inside.setting =>
    rcases permits.of_unsettled rfl with ⟨event, rfl⟩ | ⟨call, rfl, rfl⟩
    · exact .inr owes
    · cases editless
  all_goals cases owes

theorem Phase.Owes.of_sets {parent : String} {set : ParentStatus}
    (owes : phase.Owes resource status due)
    (permits : phase.Permits creates (.store (.setParentStatus parent set))) :
    parent = resource.id := by
  rcases phase with _ | _ | ⟨id, lock, _ | other | ⟨other, read⟩ | ⟨other, derived⟩ | _⟩ | _
  case inside.owing => cases permits
  case inside.projecting => cases permits
  case inside.setting =>
    rcases owes with ⟨rfl, _⟩
    cases permits
    rfl
  all_goals cases owes

namespace MemoryStore

theorem due_of_records_eq (same : later.records = store.records) (resource : Resource) :
    later.due resource = store.due resource := by
  unfold due
  rw [statuses_of_records_eq same]

/-- Only a terminal status of an authorisation of the resource changes what is due. -/
theorem due_replace {record draft : Authorisation} {version : Int64} (distinct : store.Distinct)
    (drafts : record.Drafts draft) (found : store.record? draft.id = some record)
    (aside : draft.parent = resource.id → draft.status.isTerminal = false) :
    (store.replace { draft with version }).due resource = store.due resource := by
  unfold due
  rw [resource.aggregate_congr]
  intro sort blunt
  exact @countP_statuses_replace store { draft with version } record resource.id distinct found
    drafts.parent_eq sort fun ours => blunt _ _ (aside ours) drafts.live

end MemoryStore

namespace Tracks

/-- The status is as before, and so is what is due: what counts is whether the request that
does the deed still owes what it owed. -/
theorem goesOn {after : Phase} (tracks : Tracks resource last status due (phase :: others))
    (owes : phase.Owes resource status due → status.isClosed = false →
      status = due ∨ after.Owes resource status due) :
    Tracks resource last status due (after :: others) := by
  cases tracks with
  | closed set closes => exact .closed set closes
  | current unset same => exact .current unset same
  | owed unset unclosed owing member owed =>
      rcases List.mem_cons.mp member with rfl | other
      · rcases owes owed unclosed with same | owed
        · exact .current unset same
        · exact .owed unset unclosed after List.mem_cons_self owed
      · exact .owed unset unclosed owing (List.mem_cons_of_mem _ other) owed

theorem saved {record draft : Authorisation} {lock : Nat}
    (tracks : Tracks resource last status (world.store.due resource) phases)
    (drafts : record.Drafts draft) (found : world.store.record? draft.id = some record)
    (ours : draft.parent = resource.id) (terminal : draft.status.isTerminal = true)
    (due : ParentStatus) :
    Tracks resource last status due ((Phase.inside draft.id lock (.reading (some record))).after
      ⟨world, .store (.save draft)⟩ :: others) := by
  have accepted : Deed.writes ⟨world, .store (.save draft)⟩ = true := by
    rw [drafts.id_eq] at found
    rw [Deed.writes_save, (save_of_drafts drafts found).2]
    rfl
  have owes : (Phase.inside draft.id lock (.reading (some record))).after
      ⟨world, .store (.save draft)⟩ = .inside draft.id lock (.owing resource.id) := by
    change Phase.inside _ _ (if _ then .owing draft.parent else .closed) = _
    rw [accepted, terminal, ours]
    rfl
  rw [owes]
  cases tracks with
  | closed set closes => exact .closed set closes
  | current unset same =>
      have unclosed : status.isClosed = false := by
        rw [same]
        exact Aggregate.isClosed_project _ _
      exact .owed unset unclosed _ List.mem_cons_self rfl
  | owed unset unclosed => exact .owed unset unclosed _ List.mem_cons_self rfl

theorem acts (tracks : Tracks resource last status (world.store.due resource) (phase :: others))
    (found : world.store.resource? resource.id = some { resource with status })
    (distinct : world.store.Distinct) (permits : phase.Permits false effect)
    (change : Change world.store phase effect later)
    (timely : ¬ Deed.IsBelated resource.id ⟨world, effect⟩) :
    later.Distinct ∧ ∃ next, later.resource? resource.id = some { resource with status := next } ∧
      Tracks resource last next (later.due resource) (phase.after ⟨world, effect⟩ :: others) := by
  cases change with
  | idle phase effect editless =>
      refine ⟨distinct, status, found, tracks.goesOn ?_⟩
      intro owes unclosed
      exact owes.after permits editless found unclosed
  | missed phase parent set missing =>
      refine ⟨distinct, status, found, tracks.goesOn ?_⟩
      intro owes _
      rw [owes.of_sets permits, found] at missing
      cases missing
  | inserted added unknown => cases permits
  | registered added => cases permits
  | saved lock record draft drafts finds =>
      refine ⟨distinct.replace, status, found, ?_⟩
      by_cases settles : draft.parent = resource.id ∧ draft.status.isTerminal = true
      · exact tracks.saved drafts finds settles.1 settles.2 _
      · rw [MemoryStore.due_replace distinct drafts finds (by simpa using settles)]
        exact tracks.goesOn nofun
  | derived phase parent set stored finds =>
      have sameDue : (world.store.replaceResource { stored with status := set }).due resource =
          world.store.due resource := MemoryStore.due_of_records_eq rfl resource
      rw [sameDue]
      have sameId : stored.id = parent := MemoryStore.id_of_resource? finds
      by_cases ours : parent = resource.id
      · subst ours
        rw [found] at finds
        cases finds
        have late (belated : status.isClosed = true ∨ set ≠ world.store.due resource) :
            Deed.IsBelated resource.id
              ⟨world, .store (.setParentStatus resource.id set)⟩ :=
          ⟨rfl, _, found, belated⟩
        refine ⟨distinct.of_records_eq rfl, set, ?_, ?_⟩
        · rw [MemoryStore.resource?_replaceResource, if_pos rfl, found]
          rfl
        · cases tracks with
          | closed _ closes => exact absurd (late (.inl closes)) timely
          | current unset | owed unset =>
              apply Tracks.current unset
              by_contra other
              exact timely (late (.inr other))
      · refine ⟨distinct.of_records_eq rfl, status, ?_, tracks.goesOn ?_⟩
        · rw [MemoryStore.resource?_replaceResource, if_neg (by rw [sameId]; exact Ne.symm ours),
            found]
        · intro owes _
          exact absurd (owes.of_sets permits) ours

end Tracks

/-! ## Requests side by side -/

namespace Traffic

/-- No request has set a belated status, and the status of a resource is tracked. -/
structure Timely (resource : Resource) (traffic : Traffic) : Prop where
  distinct : traffic.world.store.Distinct
  tracked : ∃ status, traffic.world.store.resource? resource.id = some { resource with status } ∧
    Tracks resource (outsideStatus (traffic.others.map .outside) resource.id) status
      (traffic.world.store.due resource) (traffic.errands.map (·.phase))

/-- All that others do meanwhile is to close resources. -/
def Closing (traffic : Traffic) : Prop :=
  ∀ interference ∈ traffic.others,
    ∃ id status, interference = .setStatus id status ∧ status.isClosed = true

/-- Some request has set a status of the resource that was outdated by then. -/
def Belated (resource : Resource) (traffic : Traffic) : Prop :=
  ∃ errand ∈ traffic.errands, ∃ deed ∈ errand.deeds, deed.IsBelated resource.id

variable {deployment : Deployment} {start : MemoryStore} {first second : Traffic}

theorem Closing.unsaved (closing : first.Closing) : first.Unsaved := by
  intro id member
  rcases closing _ member with ⟨_, _, same, _⟩
  cases same

theorem Belated.next (belated : Belated resource first) (next : Next deployment first second) :
    Belated resource second := by
  rcases belated with ⟨errand, member, deed, done, late⟩
  cases next with
  | begins => exact ⟨errand, List.mem_append_left _ member, deed, done, late⟩
  | acts =>
      rcases List.mem_cons.mp (List.perm_middle.mem_iff.mp member) with rfl | other
      · exact ⟨_, List.mem_append_right _ List.mem_cons_self, deed,
          List.mem_append_left _ done, late⟩
      · exact ⟨errand, List.perm_middle.mem_iff.mpr (List.mem_cons_of_mem _ other), deed, done,
          late⟩
  | disturbed => exact ⟨errand, member, deed, done, late⟩

namespace Timely

theorem begins {world : World MemoryStore} {others : List Interference} {errands : List Errand}
    (timely : Timely resource ⟨world, others, errands⟩) (node : Node) (step : Step) :
    Timely resource ⟨world, others, errands ++ [.begin node step]⟩ := by
  rcases timely.tracked with ⟨status, found, tracks⟩
  refine ⟨timely.distinct, status, found, tracks.mono ?_⟩
  rw [List.map_append]
  exact List.subset_append_left _ _

theorem acts {world after : World MemoryStore} {others : List Interference}
    {earlier later : List Errand} {step : Step} {deeds : List Deed} {effect : Effect}
    {next : effect.Answer → Procedure Unit} (quiet : deployment.bank.Quiet)
    (outcome : Outcome deployment.partner world effect after)
    (reuses : step.operation.creates = false)
    (sound : Sound deployment start
      ⟨world, others, earlier ++ ⟨step, deeds, .ask effect next⟩ :: later⟩)
    (timely : Timely resource
      ⟨world, others, earlier ++ ⟨step, deeds, .ask effect next⟩ :: later⟩) :
    let acted : Traffic := ⟨after, others, earlier ++ ⟨step, deeds ++ [⟨world, effect⟩],
      next (world.perform deployment.partner effect).1⟩ :: later⟩
    Belated resource acted ∨ Timely resource acted := by
  intro acted
  by_cases late : Deed.IsBelated resource.id ⟨world, effect⟩
  · exact .inl ⟨_, List.mem_append_right _ List.mem_cons_self, _,
      List.mem_append_right _ (List.mem_singleton_self _), late⟩
  · right
    rcases forall_mem_middle.mp sound.orderly with ⟨⟨permits, _⟩, _⟩
    rcases forall_mem_middle.mp sound.current with ⟨current, _⟩
    have change := Phase.Permits.change permits quiet current outcome
    change (Phase.of deeds).Permits step.operation.creates effect at permits
    rw [reuses] at permits
    rcases timely.tracked with ⟨status, found, tracks⟩
    rw [List.map_append, List.map_cons] at tracks
    rcases (tracks.mono List.perm_middle.subset).acts found timely.distinct permits change late
      with ⟨distinct, following, finds, tracks⟩
    refine ⟨distinct, following, finds, ?_⟩
    rw [List.map_append, List.map_cons, Errand.phase, Phase.of_append_singleton]
    exact tracks.mono List.perm_middle.symm.subset

theorem disturbed {world : World MemoryStore} {others : List Interference}
    {errands : List Errand} {id : String} {set : ParentStatus} (closes : set.isClosed = true)
    (timely : Timely resource ⟨world, others, errands⟩) :
    Timely resource ⟨{ world with store := Store.interfere world.store (.setStatus id set) },
      others ++ [.setStatus id set], errands⟩ := by
  rcases timely.tracked with ⟨status, found, tracks⟩
  have sameRecords := MemoryStore.records_interfere_setStatus world.store id set
  have marks :
      outsideStatus ((others ++ [Interference.setStatus id set]).map .outside) resource.id =
        if id = resource.id then some set
        else outsideStatus (others.map .outside) resource.id := by
    rw [List.map_append]
    exact Deployment.outsideStatus_append _ _ _
  refine ⟨timely.distinct.of_records_eq sameRecords, ?_⟩
  dsimp only at found tracks ⊢
  rw [marks, MemoryStore.resource?_interfere_setStatus,
    MemoryStore.due_of_records_eq sameRecords, found]
  by_cases ours : resource.id = id
  · subst ours
    rw [if_pos rfl, if_pos rfl]
    exact ⟨set, rfl, .closed rfl closes⟩
  · rw [if_neg ours, if_neg (Ne.symm ours)]
    exact ⟨status, rfl, tracks⟩

end Timely

theorem Next.timely (next : Next deployment first second) (quiet : deployment.bank.Quiet)
    (closing : second.Closing)
    (reuses : ∀ errand ∈ second.errands, errand.step.operation.creates = false)
    (sound : Sound deployment start first) (timely : Timely resource first) :
    Belated resource second ∨ Timely resource second := by
  cases next with
  | begins world others errands step => exact .inr (timely.begins deployment.node step)
  | acts world after others earlier later step deeds effect next outcome =>
      exact timely.acts quiet outcome (forall_mem_middle.mp reuses).1 sound
  | disturbed world others errands interference =>
      rcases closing _ (List.mem_append_right _ (List.mem_singleton_self _)) with
        ⟨id, status, rfl, closes⟩
      exact .inr (timely.disturbed closes)

theorem Next.closing (next : Next deployment first second) (closing : second.Closing) :
    first.Closing := by
  cases next with
  | begins | acts => exact closing
  | disturbed => exact fun _ member => closing _ (List.mem_append_left _ member)

theorem Next.reuses (next : Next deployment first second)
    (reuses : ∀ errand ∈ second.errands, errand.step.operation.creates = false) :
    ∀ errand ∈ first.errands, errand.step.operation.creates = false := by
  cases next with
  | begins => exact fun _ member => reuses _ (List.mem_append_left _ member)
  | acts =>
      rcases forall_mem_middle.mp reuses with ⟨own, others⟩
      exact forall_mem_middle.mpr ⟨own, others⟩
  | disturbed => exact reuses

theorem Leads.timely (leads : Leads deployment first second) (quiet : deployment.bank.Quiet)
    (closing : second.Closing)
    (reuses : ∀ errand ∈ second.errands, errand.step.operation.creates = false)
    (sound : Sound deployment start first) (timely : Timely resource first) :
    Belated resource second ∨ Timely resource second := by
  induction leads with
  | refl => exact .inr timely
  | tail leads next induction =>
      have earlierClosing := next.closing closing
      rcases induction earlierClosing (next.reuses reuses) with belated | timely
      · exact .inl (belated.next next)
      · have stillSound := Leads.sound leads quiet earlierClosing.unsaved sound
        exact next.timely quiet closing reuses stillSound timely

/-- When all requests are done, a resource has the status with which it was last closed from
outside, or else the one that its authorisations make up; unless some request has set a status
that was outdated by then. -/
theorem settled_unless_belated (deployment : Deployment) (quiet : deployment.bank.Quiet)
    {world : World MemoryStore} (unused : world.locks.Unused) (distinct : world.store.Distinct)
    (found : world.store.resource? resource.id = some resource)
    (coherent : world.store.Coherent resource) {traffic : Traffic}
    (leads : Leads deployment (idle world) traffic)
    (closing : traffic.Closing)
    (reuses : ∀ errand ∈ traffic.errands, errand.step.operation.creates = false)
    (done : ∀ errand ∈ traffic.errands, errand.isDone = true) :
    Belated resource traffic ∨ ∃ status,
      traffic.world.store.resource? resource.id = some { resource with status } ∧
      status = (outsideStatus (traffic.others.map .outside) resource.id).getD
        (traffic.world.store.due resource) := by
  have sound := leads.sound quiet closing.unsaved (sound_idle unused)
  have timely : Timely resource (idle world) :=
    ⟨distinct, resource.status, found, .current rfl coherent⟩
  rcases leads.timely quiet closing reuses (sound_idle unused) timely with belated | timely
  · exact .inl belated
  · right
    rcases timely.tracked with ⟨status, finds, tracks⟩
    refine ⟨status, finds, ?_⟩
    cases tracks with
    | closed set closes => rw [set, Option.getD_some]
    | current unset same => rw [unset, same, Option.getD_none]
    | owed unset unclosed phase member owes =>
        rcases List.mem_map.mp member with ⟨errand, stands, rfl⟩
        rw [(sound.orderly errand stands).away_of_isDone (done errand stands)] at owes
        cases owes

/-- A consent with an authorisation of anna and one of bert, for both of which only the code is
missing. -/
def cosignedMoves : List Move :=
  let person (id : String) : Psu := ⟨some id, none, none, none, none⟩
  let consent : Resource := ⟨"consent", .accountConsent, .consent .received, true, false, false,
    [person "anna", person "bert"], .epoch⟩
  let password (id : String) : Request := ⟨some (person id), some "secret", none, none, none⟩
  [.register consent, .start "first" "consent" (some (person "anna")) (some .embedded),
    .start "second" "consent" (some (person "bert")) (some .embedded),
    .update "first" (password "anna"), .update "second" (password "bert")].map
    fun operation => .operate ⟨operation, .epoch⟩

/-- Both codes are sent together. Anna's request has listed the authorisations before bert's
stores its draft, and sets the status after it. -/
theorem settled_consent_reopened :
    let deployment := Deployment.simulated .standard
    let world := deployment.play cosignedMoves (.fresh .empty)
    let consent : Resource := ⟨"consent", .accountConsent, .consent .received, true, false, false,
      [⟨some "anna", none, none, none, none⟩, ⟨some "bert", none, none, none, none⟩], .epoch⟩
    deployment.bank.Quiet ∧ world.locks.Unused ∧ world.store.Distinct ∧
      world.store.resource? consent.id = some consent ∧ world.store.Coherent consent ∧
      ∃ traffic, Leads deployment (idle world) traffic ∧ traffic.others = [] ∧
        (∀ errand ∈ traffic.errands, errand.step.operation.creates = false) ∧
        (∀ errand ∈ traffic.errands, errand.isDone = true) ∧
        (traffic.world.store.resource? consent.id).map (·.status) =
          some (.consent .partiallyAuthorised) ∧
        traffic.world.store.due consent = .consent .valid ∧ Belated consent traffic := by
  intro deployment world consent
  let code : Request := ⟨none, none, none, some "123456", none⟩
  let steps : List Step := [⟨.update "first" code, .epoch⟩, ⟨.update "second" code, .epoch⟩]
  let positions := List.replicate 11 0 ++ List.replicate 15 1 ++ List.replicate 4 0
  have quiet : deployment.bank.Quiet := SimulatedBank.standard.quiet
  have unused : world.locks.Unused := ⟨by decide +kernel, by decide +kernel⟩
  have distinct : world.store.Distinct := deployment.distinct_play cosignedMoves
  have found : world.store.resource? consent.id = some consent := by decide +kernel
  have coherent : world.store.Coherent consent := by
    unfold MemoryStore.Coherent
    decide +kernel
  have goes : (schedule deployment world steps positions).map (fun traffic =>
      (traffic.others, traffic.errands.all (!·.step.operation.creates),
        traffic.errands.all (·.isDone),
        (traffic.world.store.resource? consent.id).map (·.status),
        traffic.world.store.due consent)) =
      some ([], true, true, some (.consent .partiallyAuthorised), .consent .valid) := by
    decide +kernel
  rcases Option.map_eq_some_iff.mp goes with ⟨traffic, scheduled, facts⟩
  simp only [Prod.mk.injEq, List.all_eq_true, Bool.not_eq_true'] at facts
  rcases facts with ⟨others, reuses, done, status, due⟩
  have leads := leads_schedule scheduled
  have closing : traffic.Closing := by
    intro interference member
    rw [others] at member
    cases member
  have settles := settled_unless_belated deployment quiet unused distinct found coherent leads
    closing reuses done
  refine ⟨quiet, unused, distinct, found, coherent, traffic, leads, others, reuses, done, status,
    due, settles.resolve_right ?_⟩
  rintro ⟨final, finds, same⟩
  rw [others, due] at same
  rw [finds, same] at status
  cases status

end Traffic

end StrongAuth
