import StrongAuth.Proofs.Openings
import StrongAuth.Proofs.Traffic

/-! # Questions for a status

A question for the status of an authorisation reads the record without the lock, and once more
behind it if it was overdue; the second time it does not look at the deadlines. Main statement:
whatever others do meanwhile, all that such a question changes about records is to fail one
that is live and overdue at that moment. -/

namespace StrongAuth

/-- What a question for a status permits itself: to fail a record that it has found live, after
it has found it overdue, and what has to follow that. -/
def Lapses (id : String) (now : Time.Timestamp) (past : List Deed) : Effect → Prop
  | .bank _ | .store (.insert _) | .store (.register _) => False
  | .store (.save draft) => ∃ overdue lock record, Loaded past overdue ∧ overdue.id = id ∧
      overdue.isOverdue now = true ∧
      Phase.of past = .inside id lock (.reading (some record)) ∧
      record.status.isTerminal = false ∧
      draft = { record with status := .failed, updated := now }
  | _ => True

/-- The deed does not call the bank, makes no record, and saves at most a record as failed that
is live and overdue. -/
structure Deed.FailsOverdue (now : Time.Timestamp) (deed : Deed) : Prop where
  unasked : deed.asks = false
  uninserted : ∀ record, deed.effect ≠ .store (.insert record)
  saved : ∀ draft, deed.effect = .store (.save draft) → deed.writes = true →
    ∃ record, deed.world.store.record? draft.id = some record ∧
      record.isOverdue now = true ∧ draft = { record with status := .failed, updated := now }

/-! ## The question -/

/-- The answer is terminal, or it is the status of a record that was read once and was not
overdue. -/
def Replies (id : String) (now : Time.Timestamp) (deeds : List Deed) (status : Status) : Prop :=
  status.isTerminal = true ∨ ∃ (world : World MemoryStore) (record : Authorisation),
    deeds = [⟨world, .store (.get id)⟩] ∧ world.store.record? id = some record ∧
    record.isOverdue now = false ∧ status = record.status

namespace Node

open StrongAuth.Action

variable {partner : Partner} {past : List Deed} {id : String} {now : Time.Timestamp}
  {record draft : Authorisation}

theorem keeps_load_found {permitted : List Deed → Effect → Prop}
    {done : List Deed → Authorisation → Prop} {refused : List Deed → Refusal → Prop}
    (permits : permitted past (.store (.get id)))
    (unknown : ∀ deeds refusal, refused deeds refusal)
    (found : ∀ (world : World MemoryStore) record, world.store.record? id = some record →
      done (past ++ [⟨world, .store (.get id)⟩]) record) :
    Action.Keeps partner permitted (load id) past done refused := by
  unfold load
  rw [keeps_bind, keeps_call]
  refine ⟨permits, ?_⟩
  intro world answer answered
  have finds : world.store.record? id = answer := Except.ok.inj answered
  cases answer with
  | none => exact unknown _ _
  | some record => exact found world record finds

theorem lapses_projectParent (parent : String) :
    Action.Keeps partner (Lapses id now) (projectParent parent) past (fun _ _ => True)
      fun _ _ => True := by
  unfold projectParent
  rw [keeps_bind, keeps_call]
  refine ⟨trivial, ?_⟩
  intro _ resource _
  cases resource with
  | none => trivial
  | some resource =>
      dsimp only
      rw [keeps_bind, keeps_call]
      refine ⟨trivial, ?_⟩
      intro _ records _
      cases resource.derive? (records.map (·.status)) with
      | none => trivial
      | some status =>
          dsimp only
          rw [keeps_bind, keeps_call]
          exact ⟨trivial, fun _ _ _ => ⟨trivial, fun _ => trivial⟩⟩

theorem lapses_publishChange (earlier : Status) :
    Action.Keeps partner (Lapses id now) (publishChange record earlier) past (fun _ _ => True)
      fun _ _ => True := by
  unfold publishChange
  split
  · trivial
  · exact ⟨trivial, fun _ => trivial⟩

theorem lapses_persist
    (permits : Lapses id now past (.store (.save { draft with updated := now }))) :
    Action.Keeps partner (Lapses id now) (persist draft now) past
      (fun _ saved => saved.status = draft.status) fun _ _ => True := by
  unfold persist
  rw [keeps_bind, keeps_perform]
  refine ⟨permits, ?_⟩
  intro world
  have performs : Store.perform world.store (.save { draft with updated := now }) =
    Store.settle world.store (world.store.save { draft with updated := now }) := rfl
  dsimp only [World.perform]
  rw [performs]
  cases saves : world.store.save { draft with updated := now } with
  | error fault => cases fault <;> trivial
  | ok result =>
      have sameStatus := status_of_save saves
      exact sameStatus

theorem lapses_expire (permits : Lapses id now past
      (.store (.save { record with status := .failed, updated := now }))) :
    Action.Keeps partner (Lapses id now) (expire record now) past
      (fun _ saved => saved.status = .failed) fun _ _ => True := by
  unfold expire
  rw [keeps_bind]
  refine (lapses_persist permits).mono ?_ fun _ _ _ => trivial
  intro past saved failed
  rw [keeps_bind, keeps_publish]
  refine ⟨trivial, ?_⟩
  intro _
  rw [keeps_bind]
  refine (lapses_publishChange record.status).mono ?_ fun _ _ _ => trivial
  intro past _ _
  rw [keeps_bind]
  exact (lapses_projectParent saved.parent).mono (fun _ _ _ => failed) fun _ _ _ => trivial

/-- Whatever worlds a question for a status comes to, it fails at most a record that it has
found live and overdue, and only a record that is not overdue gives it a live answer. -/
theorem lapses_status (partner : Partner) (id : String) (now : Time.Timestamp) :
    Action.Keeps partner (Lapses id now) (status id now) [] (Replies id now)
      fun _ _ => True := by
  unfold status
  rw [keeps_bind]
  apply keeps_load_found trivial fun _ _ => trivial
  intro world seen found
  have sameId : seen.id = id := (MemoryStore.mem_of_record? found).2
  cases overdue : seen.isOverdue now with
  | false =>
      rw [if_pos (by rfl)]
      exact .inr ⟨world, seen, rfl, found, overdue, rfl⟩
  | true =>
      rw [if_neg (by simp)]
      apply keeps_withLock
      · intro past lock
        exact ⟨trivial, trivial, trivial, trivial⟩
      intro obtained taken lock
      have spared : Spared [⟨obtained, .obtain id⟩, ⟨taken, .take lock⟩] := by
        simp [Spared, Deed.spares]
      have loaded := (Loaded.of_get found []).append spared
      have locked : Phase.of ([] ++ [Deed.mk world (.store (.get id))] ++
          [⟨obtained, .obtain id⟩, ⟨taken, .take lock⟩]) =
        .inside id (obtained.locks.obtain id).1 (.reading none) := rfl
      generalize [] ++ [Deed.mk world (.store (.get id))] ++
        [⟨obtained, .obtain id⟩, ⟨taken, .take lock⟩] = past at loaded locked ⊢
      rw [keeps_bind]
      apply keeps_load_found trivial fun _ _ _ _ => trivial
      intro later record finds
      split
      · next terminal => exact fun _ _ => .inl terminal
      · next live =>
          rw [keeps_bind]
          have reads : Phase.of (past ++ [⟨later, .store (.get id)⟩]) =
              .inside id (obtained.locks.obtain id).1 (.reading (some record)) := by
            rw [Phase.of_append_singleton, locked, ← finds]
            rfl
          refine (lapses_expire ?_).mono ?_ fun _ _ _ _ _ => trivial
          · exact ⟨seen, _, record, loaded.read later rfl, sameId, overdue, reads,
              by simpa using live, rfl⟩
          · intro _ saved failed _ _
            left
            rw [failed]
            rfl

end Node

/-! ## Among other requests -/

/-- What the request has read under its lock is still stored, at most in another version. -/
def Phase.StillStored (store : MemoryStore) : Phase → Prop
  | .inside id _ (.reading (some record)) =>
      ∃ version, store.record? id = some { record with version }
  | _ => True

section

variable {partner : Partner} {creates : Bool} {phase : Phase} {world : World MemoryStore}
  {effect : Effect} {store later : MemoryStore} {record draft : Authorisation} {id : String}
  {now : Time.Timestamp} {past : List Deed}

theorem MemoryStore.Resaves.stillStored (resaves : store.Resaves later)
    (still : ∃ version, store.record? id = some { record with version }) :
    ∃ version, later.record? id = some { record with version } := by
  rcases still with ⟨version, found⟩
  rcases resaves id with ⟨raised, finds⟩
  rw [found] at finds
  exact ⟨_, finds⟩

theorem Phase.StillStored.resaves (still : phase.StillStored store)
    (resaves : store.Resaves later) : phase.StillStored later := by
  rcases phase with _ | _ | ⟨id, lock, ⟨_ | record⟩ | _ | _ | _ | _⟩ | _ <;> try trivial
  exact resaves.stillStored still

theorem Phase.Permits.id_of_save (permits : phase.Permits creates (.store (.save draft)))
    (still : phase.StillStored world.store) : phase.isInside draft.id = true := by
  rcases permits.reads_of_save with ⟨id, lock, record, rfl, drafts⟩
  rcases still with ⟨version, found⟩
  have sameId : record.id = id := (MemoryStore.mem_of_record? found).2
  rw [drafts.id_eq, sameId]
  exact Phase.isInside_iff.mpr ⟨lock, _, rfl⟩

/-- What a request does leaves the records behind the locks of others as they are. -/
theorem Phase.Permits.stillStored_apart (partner : Partner)
    (permits : phase.Permits creates effect) (acting : phase.StillStored world.store)
    (outside : phase.isInside id = false)
    (still : ∃ version, world.store.record? id = some { record with version }) :
    ∃ version, (world.perform partner effect).2.store.record? id =
      some { record with version } := by
  by_cases spares : Deed.spares ⟨world, effect⟩ = true
  · exact (World.resaves_of_spares partner world spares).stillStored still
  rcases still with ⟨version, found⟩
  refine ⟨version, ?_⟩
  cases effect with
  | store call =>
      cases call with
      | save draft =>
          have inside := permits.id_of_save acting
          have different : id ≠ draft.id := by
            rintro rfl
            rw [outside] at inside
            cases inside
          have performs : (world.perform partner (.store (.save draft))).2.store =
            (Store.settle world.store (world.store.save draft)).2 := rfl
          rw [performs]
          cases saves : world.store.save draft with
          | error fault => exact found
          | ok result =>
              rcases MemoryStore.save_eq_ok saves with ⟨_, _, _, saved, replaced⟩
              change result.2.record? id = _
              rw [replaced, saved, MemoryStore.record?_replace, if_neg different, found]
      | insert inserted => exact world.record?_of_insert partner inserted found
      | _ => exact absurd rfl spares
  | _ => exact absurd rfl spares

/-- What a request has read stays, until it stores a draft of it. -/
theorem Phase.Permits.stillStored_after (partner : Partner)
    (permits : phase.Permits creates effect) (acting : phase.StillStored world.store) :
    (phase.after ⟨world, effect⟩).StillStored (world.perform partner effect).2.store := by
  rcases reads : phase.after ⟨world, effect⟩ with
    _ | _ | ⟨id, lock, ⟨_ | record⟩ | _ | _ | _ | _⟩ | _ <;> try trivial
  rcases Phase.reads_of_after permits reads with ⟨rfl, found⟩ | rfl
  · exact ⟨record.version, found⟩
  · by_cases spares : Deed.spares ⟨world, effect⟩ = true
    · exact (World.resaves_of_spares partner world spares).stillStored acting
    -- A save ends the reading.
    · cases effect with
      | store call =>
          cases call with
          | save draft =>
              change Phase.inside _ _ (if _ then .owing _ else .closed) = _ at reads
              split at reads <;> cases reads
          | insert inserted => cases permits.away_of_adds (.inl ⟨inserted, rfl⟩)
          | _ => exact absurd rfl spares
      | _ => exact absurd rfl spares

/-- A record that is failed as overdue is so when it is saved: it is stored as it was read under
the lock, and its deadlines are those that were read the first time. -/
theorem Lapses.failsOverdue (lapses : Lapses id now past effect)
    (still : (Phase.of past).StillStored world.store)
    (remembered : Remembered past world.store) : Deed.FailsOverdue now ⟨world, effect⟩ where
  unasked := by
    cases effect with
    | bank call => cases lapses
    | _ => rfl
  uninserted := by
    rintro record rfl
    exact lapses
  saved := by
    rintro draft rfl accepted
    rcases lapses with ⟨overdue, lock, record, loaded, rfl, late, reads, live, rfl⟩
    rw [reads] at still
    rcases still with ⟨version, found⟩
    have sameId : record.id = overdue.id := (MemoryStore.mem_of_record? found).2
    have performs : Store.perform world.store
        (.save { record with status := .failed, updated := now }) = Store.settle world.store
          (world.store.save { record with status := .failed, updated := now }) := rfl
    rw [Deed.writes_save, performs] at accepted
    cases saves : world.store.save { record with status := .failed, updated := now } with
    | error fault =>
        rw [saves] at accepted
        cases accepted
    | ok result =>
        rcases MemoryStore.save_eq_ok saves with ⟨stored, finds, sameVersion, _, _⟩
        have finds : world.store.record? overdue.id = some stored := sameId ▸ finds
        rw [found] at finds
        cases finds
        cases sameVersion
        rcases remembered overdue loaded with ⟨stored, finds, opening⟩
        rw [found] at finds
        cases finds
        refine ⟨record, sameId ▸ found, ?_, rfl⟩
        have expired := (Bool.and_eq_true_iff.mp late).2
        rw [Authorisation.isExpired, ← opening.redirectDeadline, ← opening.deadline] at expired
        rw [Authorisation.isOverdue, live]
        exact expired

end

/-- What holds of a request whatever others save meanwhile. -/
structure Errand.Lasting (partner : Partner) (store : MemoryStore) (errand : Errand) : Prop where
  permitted : Procedure.Keeps partner Permitted errand.rest errand.deeds fun _ _ => True
  orderly : errand.Orderly partner
  remembered : Remembered errand.deeds store
  still : errand.phase.StillStored store
  lapses : ∀ id now, errand.step = ⟨.status id, now⟩ →
    Procedure.Keeps partner (Lapses id now) errand.rest errand.deeds fun _ _ => True
  failsOverdue : ∀ id now, errand.step = ⟨.status id, now⟩ →
    ∀ deed ∈ errand.deeds, deed.FailsOverdue now

namespace Errand

variable {partner : Partner} {errand : Errand}

theorem lasting_begin (partner : Partner) (node : Node) (step : Step) (store : MemoryStore) :
    (begin node step).Lasting partner store where
  permitted := Scene.keeps_procedure partner node step
  orderly := orderly_begin partner node step
  remembered := .nil store
  still := trivial
  lapses := by
    rintro id now same
    cases step
    cases same
    unfold begin Step.procedure
    rw [Procedure.keeps_bind]
    exact Procedure.Keeps.mono (Node.lapses_status partner id now) (fun _ _ permits => permits)
      fun _ _ _ => trivial
  failsOverdue _ _ _ := List.forall_mem_nil _

theorem Lasting.acts {step : Step} {deeds : List Deed} {effect : Effect}
    {next : effect.Answer → Procedure Unit} {world : World MemoryStore}
    (lasting : (Errand.mk step deeds (.ask effect next)).Lasting partner world.store) :
    (Errand.mk step (deeds ++ [⟨world, effect⟩]) (next (world.perform partner effect).1)).Lasting
      partner (world.perform partner effect).2.store where
  permitted := lasting.permitted.2 world
  orderly := lasting.orderly.2 world
  remembered := lasting.remembered.append
    (world.keepsOpenings_of_permitted partner lasting.permitted.1 lasting.remembered)
  still := by
    rw [Errand.phase, Phase.of_append_singleton]
    exact Phase.Permits.stillStored_after partner lasting.orderly.1 lasting.still
  lapses id now same := (lasting.lapses id now same).2 world
  failsOverdue id now same := List.forall_mem_append.mpr ⟨lasting.failsOverdue id now same,
    List.forall_mem_singleton.mpr
      ((lasting.lapses id now same).1.failsOverdue lasting.still lasting.remembered)⟩

end Errand

namespace Traffic

variable {deployment : Deployment} {first second : Traffic}

structure Lasting (deployment : Deployment) (traffic : Traffic) : Prop where
  serves : traffic.world.locks.Serves (traffic.errands.map (·.phase))
  errands : ∀ errand ∈ traffic.errands, errand.Lasting deployment.partner traffic.world.store

theorem lasting_idle {world : World MemoryStore} (unused : world.locks.Unused) :
    Lasting deployment (idle world) :=
  ⟨unused.serves, List.forall_mem_nil _⟩

/-- What a request does leaves the others to go on. -/
theorem Lasting.waits {world : World MemoryStore} {effect : Effect} {errand : Errand}
    {creates : Bool} {phase : Phase} (permits : phase.Permits creates effect)
    (acting : phase.StillStored world.store)
    (apart : ∀ id, errand.phase.isInside id = true → phase.isInside id = false)
    (keeps : world.store.KeepsOpenings (world.perform deployment.partner effect).2.store)
    (waiting : errand.Lasting deployment.partner world.store) :
    errand.Lasting deployment.partner (world.perform deployment.partner effect).2.store := by
  refine { waiting with remembered := waiting.remembered.trans keeps, still := ?_ }
  have still := waiting.still
  revert apart still
  rcases errand.phase with _ | _ | ⟨id, lock, ⟨_ | record⟩ | _ | _ | _ | _⟩ | _ <;>
    intro apart still <;> try trivial
  have outside := apart id (Phase.isInside_iff.mpr ⟨lock, _, rfl⟩)
  exact permits.stillStored_apart deployment.partner acting outside still

theorem Next.lasting (next : Next deployment first second) (lasting : Lasting deployment first) :
    Lasting deployment second := by
  cases next with
  | begins world others errands step =>
      refine ⟨?_, List.forall_mem_append.mpr ⟨lasting.errands, ?_⟩⟩
      · rw [List.map_append]
        exact lasting.serves.cons_away.perm (List.perm_append_singleton _ _).symm
      · exact List.forall_mem_singleton.mpr (Errand.lasting_begin _ _ step _)
  | acts world after others earlier later step deeds effect next outcome =>
      rcases forall_mem_middle.mp lasting.errands with ⟨acting, waiting⟩
      have permits : (Phase.of deeds).Permits step.operation.creates effect := acting.orderly.1
      have keeps := world.keepsOpenings_of_permitted deployment.partner acting.permitted.1
        acting.remembered
      have sameStore : after.store = (world.perform deployment.partner effect).2.store := by
        cases outcome <;> rfl
      have serves := lasting.serves
      rw [List.map_append, List.map_cons] at serves
      replace serves := serves.perm List.perm_middle
      refine ⟨?_, forall_mem_middle.mpr ⟨?_, ?_⟩⟩
      · rw [List.map_append, List.map_cons]
        apply Locks.Serves.perm _ List.perm_middle.symm
        rw [Errand.phase, Phase.of_append_singleton]
        exact serves.shift (permits.shift outcome)
      · exact sameStore ▸ acting.acts
      · intro errand member
        rw [sameStore]
        refine Lasting.waits permits acting.still ?_ keeps (waiting errand member)
        intro id inside
        refine serves.apart ?_ inside
        rw [← List.map_append]
        exact List.mem_map_of_mem member
  | disturbed world others errands interference =>
      have resaves := MemoryStore.Resaves.interfere world.store interference
      refine ⟨lasting.serves, fun errand member => ?_⟩
      have waiting := lasting.errands errand member
      exact { waiting with
        remembered := waiting.remembered.trans resaves.keepsOpenings
        still := waiting.still.resaves resaves }

theorem Leads.lasting (leads : Leads deployment first second)
    (lasting : Lasting deployment first) : Lasting deployment second := by
  induction leads with
  | refl => exact lasting
  | tail _ next induction => exact next.lasting induction

end Traffic

end StrongAuth
