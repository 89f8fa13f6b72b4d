import StrongAuth.Proofs.Course
import StrongAuth.Proofs.Rules
import StrongAuth.Proofs.Verdicts

/-! # The conduct of the node

Main statements: every operation keeps to the rules whatever others do between its deeds, and
an update that is refused has done what the kind of its refusal tells. -/

namespace StrongAuth

variable {partner : Partner} {past more : List Deed} {record draft : Authorisation}
  {now : Time.Timestamp}

/-- The action keeps to the rules, however it ends. -/
def Action.Behaves {α : Type} (partner : Partner) (action : Action α) (past : List Deed) : Prop :=
  Action.Keeps partner Proper action past (fun _ _ => True) fun _ _ => True

namespace Action.Behaves

variable {α β : Type} {first : Action α} {second : α → Action β} {done : List Deed → α → Prop}
  {refused : List Deed → Refusal → Prop}

theorem of_keeps (keeps : Action.Keeps partner Proper first past done refused) :
    Action.Behaves partner first past :=
  keeps.mono (fun _ _ _ => trivial) fun _ _ _ => trivial

theorem bind (keeps : Action.Keeps partner Proper first past done refused)
    (goesOn : ∀ past value, done past value → Action.Behaves partner (second value) past) :
    Action.Behaves partner (first >>= second) past :=
  (keeps_bind first second _).mpr (keeps.mono goesOn fun _ _ _ => trivial)

end Action.Behaves

theorem Action.behaves_call {α : Type} {call : StoreCall} {second : call.Answer → Action α} :
    Action.Behaves partner (Action.call call >>= second) past ↔ Proper past (.store call) ∧
      ∀ (world : World MemoryStore) answer, (Store.perform world.store call).1 = .ok answer →
        Action.Behaves partner (second answer) (past ++ [⟨world, .store call⟩]) :=
  (keeps_bind _ _ _).trans keeps_call

/-! ## Refused updates -/

/-- What the deeds of an update are as far as its refusal tells. -/
def Refusal.Accounts (id : String) (deeds : List Deed) (refusal : Refusal) : Prop :=
  refusal.kind.Tells (Unwritten deeds) (Unasked deeds)
    (∃ record draft, record.id = id ∧ draft.status = .failed ∧ Replaces record draft deeds)
    (∃ record draft, record.id = id ∧ draft.status = record.status ∧
      draft.failedAttempts = record.failedAttempts + 1 ∧ Replaces record draft deeds)

theorem Refusal.Accounts.append {id : String} {refusal : Refusal}
    (accounts : refusal.Accounts id past) (idle : Idle more) :
    refusal.Accounts id (past ++ more) := by
  apply RefusalKind.Tells.mono accounts
  · intro unwritten
    exact unwritten.append idle.unwritten
  · intro unasked
    exact unasked.append idle.unasked
  · rintro ⟨record, draft, sameId, failed, replaces⟩
    exact ⟨record, draft, sameId, failed, replaces.append idle.spared⟩
  · rintro ⟨record, draft, sameId, sameStatus, counted, replaces⟩
    exact ⟨record, draft, sameId, sameStatus, counted, replaces.append idle.spared⟩

/-- The checks of the node have turned a request down, and that was all. -/
structure Objects (node : Node) (deeds : List Deed) (refusal : Refusal) : Prop where
  unwritten : Unwritten deeds
  unasked : Unasked deeds
  objected : ∃ candidate, Check.firstObjection node.checks candidate = some refusal

theorem Objects.append {node : Node} {refusal : Refusal} (objects : Objects node past refusal)
    (idle : Idle more) : Objects node (past ++ more) refusal where
  unwritten := objects.unwritten.append idle.unwritten
  unasked := objects.unasked.append idle.unasked
  objected := objects.objected

def Node.Answers (node : Node) (id : String) (deeds : List Deed) (refusal : Refusal) : Prop :=
  refusal.Accounts id deeds ∨ Objects node deeds refusal

theorem Node.Answers.append {node : Node} {id : String} {refusal : Refusal}
    (answers : node.Answers id past refusal) (idle : Idle more) :
    node.Answers id (past ++ more) refusal :=
  answers.imp (fun accounts => accounts.append idle) fun objects => objects.append idle

namespace Node

open StrongAuth.Action

/-! ## Reading and saving -/

theorem keeps_load {id : String} {done : List Deed → Authorisation → Prop}
    {refused : List Deed → Refusal → Prop}
    (unknown : ∀ world, refused (past ++ [⟨world, .store (.get id)⟩]) (.authorisationUnknown id))
    (found : ∀ world record, record.id = id →
      Loaded (past ++ [⟨world, .store (.get id)⟩]) record →
      done (past ++ [⟨world, .store (.get id)⟩]) record) :
    Action.Keeps partner Proper (load id) past done refused := by
  unfold load
  rw [keeps_bind, keeps_call]
  refine ⟨trivial, ?_⟩
  rintro world answer answered
  have finds : world.store.record? id = answer := Except.ok.inj answered
  cases answer with
  | none => exact unknown world
  | some record =>
      exact found world record (MemoryStore.mem_of_record? finds).2 (.of_get finds past)

theorem keeps_persist {done : List Deed → Authorisation → Prop}
    {refused : List Deed → Refusal → Prop} (loaded : Loaded past record)
    (drafts : record.Drafts { draft with updated := now })
    (saves : ∀ world saved,
      Deed.writes ⟨world, .store (.save { draft with updated := now })⟩ = true →
      done (past ++ [⟨world, .store (.save { draft with updated := now })⟩]) saved)
    (conflicts : ∀ world,
      Deed.writes ⟨world, .store (.save { draft with updated := now })⟩ = false →
      refused (past ++ [⟨world, .store (.save { draft with updated := now })⟩])
        .modifiedConcurrently) :
    Action.Keeps partner Proper (persist draft now) past done refused := by
  unfold persist
  rw [keeps_bind, keeps_perform]
  refine ⟨⟨record, loaded, drafts⟩, ?_⟩
  intro world
  have saves := saves world
  have conflicts := conflicts world
  rw [Deed.writes_save] at saves conflicts
  dsimp only [World.perform]
  generalize (Store.perform world.store (.save { draft with updated := now })).1 = answer
    at saves conflicts ⊢
  rcases answer with fault | saved
  · cases fault <;> first | exact conflicts rfl | exact trivial
  · exact saves saved rfl

theorem keeps_publishChange {earlier : Status} {done : List Deed → Unit → Prop}
    {refused : List Deed → Refusal → Prop}
    (holds : ∀ more, Spared more → done (past ++ more) ()) :
    Action.Keeps partner Proper (publishChange record earlier) past done refused := by
  unfold publishChange
  split
  · have ends := holds [] (List.forall_mem_nil _)
    rw [List.append_nil] at ends
    exact ends
  · refine ⟨trivial, ?_⟩
    intro world
    refine holds _ ?_
    simp [Spared, Deed.spares]

theorem keeps_projectParent {parent : String} {done : List Deed → Option ParentStatus → Prop}
    {refused : List Deed → Refusal → Prop}
    (holds : ∀ more derived, Spared more → done (past ++ more) derived) :
    Action.Keeps partner Proper (projectParent parent) past done refused := by
  unfold projectParent
  rw [keeps_bind, keeps_call]
  refine ⟨trivial, ?_⟩
  intro world answer answered
  have finds : world.store.resource? parent = answer := Except.ok.inj answered
  cases answer with
  | none => exact keeps_fault _
  | some resource =>
      dsimp only
      rw [keeps_bind, keeps_call]
      refine ⟨trivial, ?_⟩
      intro later records listed
      have lists : later.store.listByParent parent = records := Except.ok.inj listed
      rw [List.append_assoc]
      cases derived : resource.derive? (records.map (·.status)) with
      | none =>
          refine holds _ none ?_
          simp [Spared, Deed.spares]
      | some status =>
          dsimp only
          rw [keeps_bind, keeps_call]
          refine ⟨⟨past, world, later, resource, rfl, finds, ?_⟩, ?_⟩
          · rw [MemoryStore.statuses, lists]
            exact derived
          · intro final _ _
            refine ⟨trivial, ?_⟩
            intro last
            rw [List.append_assoc, List.append_assoc]
            refine holds _ (some status) ?_
            simp [Spared, Deed.spares]

theorem keeps_announce {α : Type} {saved : Authorisation} {earlier : Status}
    {next : Option ParentStatus → Action α} {done : List Deed → α → Prop}
    {refused : List Deed → Refusal → Prop}
    (goesOn : ∀ more derived, Spared more →
      Action.Keeps partner Proper (next derived) (past ++ more) done refused) :
    Action.Keeps partner Proper (do
      publishChange saved earlier
      let derived ← projectParent saved.parent
      next derived) past done refused := by
  rw [keeps_bind]
  apply keeps_publishChange
  intro more spared
  rw [keeps_bind]
  apply keeps_projectParent
  intro others derived aside
  rw [List.append_assoc]
  exact goesOn (more ++ others) derived (spared.append aside)

/-! ## Expiry -/

theorem failed_drafts (live : record.status.isTerminal = false) (now : Time.Timestamp) :
    record.Drafts { record with status := .failed, updated := now } where
  live := live
  kept := rfl
  psu := .refl _
  chooses := .inl rfl
  rank := record.status.rank_le

theorem keeps_expire {done : List Deed → Authorisation → Prop}
    {refused : List Deed → Refusal → Prop} (loaded : Loaded past record)
    (live : record.status.isTerminal = false)
    (expires : ∀ draft world rest saved, record.Drafts draft → draft.status = .failed →
      Deed.writes ⟨world, .store (.save draft)⟩ = true → Spared rest →
      done (past ++ ⟨world, .store (.save draft)⟩ :: rest) saved)
    (conflicts : ∀ draft world, Deed.writes ⟨world, .store (.save draft)⟩ = false →
      refused (past ++ [⟨world, .store (.save draft)⟩]) .modifiedConcurrently) :
    Action.Keeps partner Proper (expire record now) past done refused := by
  unfold expire
  rw [keeps_bind]
  apply keeps_persist loaded (failed_drafts live now)
  · intro world saved accepted
    rw [keeps_bind, keeps_publish]
    refine ⟨trivial, ?_⟩
    intro later
    apply keeps_announce
    intro more derived spared
    rw [List.append_assoc, List.append_assoc, List.singleton_append]
    refine expires _ world _ saved (failed_drafts live now) rfl accepted (.append ?_ spared)
    simp [Spared, Deed.spares]
  · exact conflicts _

theorem behaves_withLock {α : Type} {id : String} {action : Action α}
    (behaves : ∀ past, Action.Behaves partner action past) :
    Action.Behaves partner (withLock id action) past := by
  apply keeps_withLock
  · intro past lock
    exact ⟨trivial, trivial, trivial, trivial⟩
  · intro world later lock
    exact (behaves _).mono (fun _ _ _ _ _ => trivial) fun _ _ _ _ _ => trivial

theorem behaves_expire (loaded : Loaded past record) (live : record.status.isTerminal = false) :
    Action.Behaves partner (expire record now) past := by
  apply keeps_expire loaded live
  · intros
    trivial
  · intros
    trivial

theorem behaves_status (id : String) : Action.Behaves partner (status id now) past := by
  unfold status
  refine (keeps_bind _ _ _).mpr (keeps_load (fun _ => trivial) ?_)
  intro world record sameId loaded
  split
  · trivial
  · apply behaves_withLock
    intro past
    -- What counts is the record as it is read once more under the lock.
    refine (keeps_bind _ _ _).mpr (keeps_load (fun _ => trivial) ?_)
    intro world record sameId loaded
    split
    · trivial
    · next live =>
        apply Action.Behaves.bind (behaves_expire loaded (by simpa using live))
        intros
        trivial

theorem behaves_expireCandidate (id : String) :
    Action.Behaves partner (expireCandidate id now) past := by
  refine behaves_call.mpr ⟨trivial, ?_⟩
  intro world answer answered
  have finds : world.store.record? id = answer := Except.ok.inj answered
  cases answer with
  | none => trivial
  | some record =>
      dsimp only
      cases overdue : record.isOverdue now with
      | false => trivial
      | true =>
          have live := Authorisation.live_of_isOverdue overdue
          apply Action.Behaves.bind (behaves_expire (.of_get finds past) live)
          intros
          trivial

theorem behaves_sweepCandidates (candidates : List Authorisation) (past : List Deed) :
    Action.Behaves partner (sweepCandidates now candidates) past := by
  induction candidates generalizing past with
  | nil => trivial
  | cons candidate candidates induction =>
      have expires := @behaves_withLock partner past Bool candidate.id
        (expireCandidate candidate.id now) fun _ => behaves_expireCandidate candidate.id
      -- A candidate that is refused is passed over, so that the others come after every answer.
      have others (expired : Bool) (past : List Deed) :
          Action.Behaves partner (do
            let others ← sweepCandidates now candidates
            return (if expired then 1 else 0) + others) past :=
        .bind (induction past) fun _ _ _ => trivial
      unfold sweepCandidates
      apply keeps_lift_bind expires
      · intro past expired _
        exact others expired past
      · intro past refusal _
        exact others false past
      · intro past reason
        trivial

theorem behaves_sweep : Action.Behaves partner (sweep now) past := by
  refine behaves_call.mpr ⟨trivial, ?_⟩
  intro world candidates _
  exact behaves_sweepCandidates candidates _

/-! ## Start -/

theorem behaves_open {node : Node} {newId : String} {resource : Resource} {signer : Option Psu}
    {approach : Approach} (found : FoundOpen past resource.id) {α : Type}
    (event : Authorisation → Event) (answer : Authorisation → α) :
    Action.Behaves partner
      (match Authorisation.open? newId resource signer approach node.redirectLifetime
          node.lifetime now with
        | none => Action.fault .beyondCalendar
        | some record => do
            Action.call (.insert record)
            Action.publish (event record)
            pure (answer record)) past := by
  cases opens : Authorisation.open? newId resource signer approach node.redirectLifetime
      node.lifetime now with
  | none => trivial
  | some record =>
      have new := Authorisation.eq_of_open? opens
      have shaped : record.Shaped := by
        intro _
        rw [new]
        exact ⟨rfl, rfl, rfl⟩
      have sameParent : record.parent = resource.id := by
        rw [new]
      have received : record.status = .received := by
        rw [new]
      have version : record.version = 0 := by
        rw [new]
      refine behaves_call.mpr ⟨⟨received, version, shaped, sameParent ▸ found⟩, ?_⟩
      intro world _ _
      exact ⟨trivial, fun _ => trivial⟩

theorem behaves_start (node : Node) (newId resourceId : String) (psu : Option Psu)
    (preferred : Option Approach) :
    Action.Behaves partner (node.start newId resourceId psu preferred now) past := by
  refine behaves_call.mpr ⟨trivial, ?_⟩
  intro world answer answered
  have finds : world.store.resource? resourceId = answer := Except.ok.inj answered
  cases answer with
  | none => trivial
  | some resource =>
      have sameId : resource.id = resourceId := MemoryStore.id_of_resource? finds
      subst sameId
      dsimp only
      cases accepting : resource.status.acceptsAuthorisation with
      | false => trivial
      | true =>
          rw [if_neg (by simp)]
          generalize psu.filter (fun psu => !psu.isEmpty) = signer
          -- At most the check of the signer lists authorisations in between.
          have found (listed : List Deed)
              (lists : ∀ deed ∈ listed, deed.effect = .store (.listByParent resource.id)) :
              FoundOpen (past ++ [⟨world, .store (.resource resource.id)⟩] ++ listed)
                resource.id := by
            refine ⟨past, listed, world, resource, ?_, lists, finds, accepting⟩
            rw [List.append_assoc, List.singleton_append]
          have foundNow := found [] (List.forall_mem_nil _)
          rw [List.append_nil] at foundNow
          split
          · cases signer with
            | none => exact behaves_open foundNow _ _
            | some psu =>
                dsimp only
                refine (keeps_bind _ _ _).mpr ?_
                unfold checkSigner
                split
                · trivial
                · rw [keeps_bind, keeps_call]
                  refine ⟨trivial, ?_⟩
                  intro later records _
                  split
                  · trivial
                  · apply behaves_open (found _ ?_)
                    simp
          · exact behaves_open foundNow _ _

/-! ## Updates -/

theorem copies_drafts {request : Request} {copy : Authorisation}
    (copies : Stage.Copies request record copy) (chooses : record.Chooses copy)
    (live : record.status.isTerminal = false) {status : Status}
    (rank : record.status.rank ≤ status.rank) :
    record.Drafts { copy with status, updated := now } where
  live := live
  kept := by
    rw [copies.kept]
  psu := by
    rcases copies.psu with same | bound
    · exact same ▸ .refl _
    · exact bound ▸ .or _ _
  chooses := chooses
  rank := rank

theorem keeps_conclude (node : Node) {request : Request} {verdict : Stage.Verdict}
    {unasked : Prop} (loaded : Loaded past record) (live : record.status.isTerminal = false)
    (copies : Stage.Copies request record verdict.record)
    (candid : Stage.Candid unasked record verdict) (asks : unasked → Unasked past)
    (unwritten : Unwritten past) (spared : Spared past) :
    Action.Keeps partner Proper (node.conclude record.status verdict now) past
      (fun _ _ => True) fun deeds refusal => refusal.Accounts record.id deeds := by
  have tells := candid.tells
  have drafts (status : Status) (rank : record.status.rank ≤ status.rank) :
      record.Drafts { verdict.record with status, updated := now } :=
    copies_drafts copies candid.chooses live rank
  have conflicts {draft : Authorisation} (world : World MemoryStore)
      (rejected : Deed.writes ⟨world, .store (.save draft)⟩ = false) :
      Refusal.modifiedConcurrently.Accounts record.id
        (past ++ [⟨world, .store (.save draft)⟩]) :=
    unwritten.append (List.forall_mem_singleton.mpr rejected)
  unfold conclude
  unfold Stage.Verdict.Tells at tells
  cases decided : verdict.outcome with
  | advance status =>
      dsimp only
      cases checked : Status.check node.policy.exemption record.status status with
      | error refused => trivial
      | ok _ =>
          dsimp only
          rw [keeps_bind]
          refine keeps_persist loaded ?_ ?_ ?_
          · exact drafts status (Status.rank_le_of_check checked).2
          · intro world saved accepted
            rw [keeps_bind]
            apply keeps_publishChange
            intro more aside
            split
            · rw [keeps_bind]
              apply keeps_projectParent
              intros
              trivial
            · trivial
          · exact fun world => conflicts world
  | refuse refusal =>
      rw [decided] at tells
      exact tells.mono (fun _ => unwritten) asks False.elim False.elim
  | retry refusal =>
      rw [decided] at tells
      dsimp only
      rw [keeps_bind]
      have stays := drafts record.status (Nat.le_refl _)
      refine keeps_persist loaded stays ?_ ?_
      · intro world saved accepted
        apply RefusalKind.Tells.mono tells False.elim False.elim False.elim
        intro counted
        refine ⟨record, { verdict.record with status := record.status, updated := now }, rfl,
          rfl, counted, .intro loaded stays accepted ?_⟩
        rw [List.append_nil]
        exact spared
      · exact fun world => conflicts world
  | fail refusal =>
      rw [decided] at tells
      dsimp only
      rw [keeps_bind]
      have fails := drafts .failed record.status.rank_le
      refine keeps_persist loaded fails ?_ ?_
      · intro world saved accepted
        apply keeps_announce
        intro more derived aside
        apply RefusalKind.Tells.mono tells False.elim False.elim _ False.elim
        intro _
        rw [List.append_assoc, List.singleton_append]
        exact ⟨record, { verdict.record with status := .failed, updated := now }, rfl, rfl,
          .intro loaded fails accepted (spared.append aside)⟩
      · exact fun world => conflicts world

theorem keeps_converse_conclude (node : Node) (request : Request) (resource : Resource)
    (loaded : Loaded past record) (live : record.status.isTerminal = false) (idle : Idle past) :
    Action.Keeps partner Proper (do
      let verdict ← converse (Stage.handle record.status
        ⟨request, resource, .ofApproach record.approach, node.policy⟩ record)
      node.conclude record.status verdict now) past
      (fun _ _ => True) (Answers node record.id) := by
  rw [keeps_bind]
  apply keeps_converse (fun _ _ => trivial)
  intro exchanges verdict calls yields sameCalls
  have sound := (Stage.handle_sound _ record).of_yields yields
  have candid := (Stage.handle_candid _ record).of_yields yields
  have consults (deed : Deed) (member : deed ∈ calls) : ∃ call, deed.effect = .bank call := by
    have called : deed.effect ∈ calls.map Deed.effect := List.mem_map_of_mem member
    rw [sameCalls] at called
    rcases List.mem_map.mp called with ⟨exchange, _, same⟩
    exact ⟨exchange.call, same.symm⟩
  have unwritten : Unwritten calls := by
    rintro ⟨world, effect⟩ member
    rcases consults _ member with ⟨call, rfl⟩
    rfl
  have spared : Spared calls := by
    rintro ⟨world, effect⟩ member
    rcases consults _ member with ⟨call, rfl⟩
    rfl
  have unasked (silent : exchanges = []) : Unasked (past ++ calls) := by
    rw [silent, List.map_nil, List.map_eq_nil_iff] at sameCalls
    rw [sameCalls, List.append_nil]
    exact idle.unasked
  apply (keeps_conclude node (loaded.append spared) live sound.copies candid unasked
    (idle.unwritten.append unwritten) (idle.spared.append spared)).mono
  · intros
    trivial
  · intro deeds refusal
    exact .inl

/-- After the checks the node goes on likewise whether it has listed siblings or not. -/
theorem keeps_checked (node : Node) (request : Request) (resource : Resource)
    (siblings : List Authorisation) (loaded : Loaded past record)
    (live : record.status.isTerminal = false) (idle : Idle past) :
    Action.Keeps partner Proper (do
      if let some refusal := Check.firstObjection node.checks
          ⟨request, record, resource, siblings⟩ then
        refuse refusal
      let verdict ← converse (Stage.handle record.status
        ⟨request, resource, .ofApproach record.approach, node.policy⟩ record)
      node.conclude record.status verdict now) past (fun _ _ => True)
      (Answers node record.id) := by
  dsimp only
  cases objected : Check.firstObjection node.checks ⟨request, record, resource, siblings⟩ with
  | some refusal => exact .inr ⟨idle.unwritten, idle.unasked, _, objected⟩
  | none => exact keeps_converse_conclude node request resource loaded live idle

theorem keeps_process (node : Node) (id : String) (request : Request) (idle : Idle past) :
    Action.Keeps partner Proper (node.process id request now) past (fun _ _ => True)
      (Answers node id) := by
  unfold process
  rw [keeps_bind]
  apply keeps_load
  · intro world
    have unknown : Idle (past ++ [⟨world, .store (.get id)⟩]) := idle.read world rfl
    exact .inl ⟨unknown.unwritten, unknown.unasked⟩
  intro world record sameId loaded
  subst sameId
  have idle : Idle (past ++ [⟨world, .store (.get record.id)⟩]) := idle.read world rfl
  generalize past ++ [⟨world, .store (.get record.id)⟩] = past at loaded idle
  dsimp only
  split
  · exact .inl idle.unwritten
  · next unsettled =>
      have live : record.status.isTerminal = false := by simpa using unsettled
      split
      · rw [keeps_bind]
        apply keeps_expire loaded live
        · intro draft world rest saved drafts failed accepted spared
          exact .inl ⟨record, draft, rfl, failed, .intro loaded drafts accepted
            (idle.spared.append spared)⟩
        · intro draft world rejected
          exact .inl (idle.unwritten.append (List.forall_mem_singleton.mpr rejected))
      · rw [keeps_bind, keeps_call]
        refine ⟨trivial, ?_⟩
        intro world answer answered
        have loaded : Loaded (past ++ [⟨world, .store (.resource record.parent)⟩]) record :=
          loaded.read world rfl
        have idle : Idle (past ++ [⟨world, .store (.resource record.parent)⟩]) :=
          idle.read world rfl
        cases answer with
        | none => exact .inl ⟨idle.unwritten, idle.unasked⟩
        | some resource =>
            dsimp only
            split
            · rw [keeps_bind, keeps_call]
              refine ⟨trivial, ?_⟩
              intro world siblings _
              exact keeps_checked node request resource siblings (loaded.read world rfl) live
                (idle.read world rfl)
            · exact keeps_checked node request resource [] loaded live idle

theorem keeps_update (node : Node) (id : String) (request : Request) :
    Action.Keeps partner Proper (node.update id request now) [] (fun _ _ => True)
      (Answers node id) := by
  unfold update
  have held : Action.Keeps partner Proper (withLock id (node.process id request now)) []
      (fun _ _ => True) (Answers node id) := by
    apply keeps_withLock
    · intro past lock
      exact ⟨trivial, trivial, trivial, trivial⟩
    · intro world later lock
      have idle : Idle [⟨world, .obtain id⟩, ⟨later, .take lock⟩] := by
        simp [Idle, Effect.isIdle]
      apply (keeps_process node id request idle).mono
      · intros
        trivial
      · intro deeds refusal answers world later
        apply answers.append
        simp [Idle, Effect.isIdle]
  apply keeps_lift_bind held
  · intros
    trivial
  · intro past refusal answers
    dsimp only
    rw [keeps_bind, keeps_publish]
    refine ⟨trivial, ?_⟩
    intro world
    apply answers.append
    simp [Idle, Effect.isIdle]
  · intros
    trivial

/-! ## All operations -/

theorem behaves_list (resourceId : String) :
    Action.Behaves partner (list resourceId) past := by
  refine behaves_call.mpr ⟨trivial, ?_⟩
  intro world answer _
  cases answer with
  | none => trivial
  | some resource => exact behaves_call.mpr ⟨trivial, fun _ _ _ => trivial⟩

theorem behaves_operation (node : Node) (now : Time.Timestamp) (operation : Operation)
    (registersNone : ∀ resource, operation ≠ .register resource) :
    Action.Behaves partner (operation.action node now) [] := by
  cases operation with
  | register resource => exact absurd rfl (registersNone resource)
  | start newId resource psu preferred => exact behaves_start node newId resource psu preferred
  | update id request => exact .of_keeps (node.keeps_update id request)
  | status id => exact behaves_status id
  | list resource => exact behaves_list resource
  | project resource => exact keeps_projectParent fun _ _ _ => trivial
  | sweep => exact behaves_sweep

end Node

end StrongAuth
