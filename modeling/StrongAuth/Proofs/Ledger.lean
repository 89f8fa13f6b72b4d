import StrongAuth.Proofs.Answers

/-! # Events tell the statuses

A ledger is what a listener knows of all statuses from the events alone. Main statement: in a
run that nobody disturbs every event fits the ledger so far, and the ledger is at any time
what is stored; every refused update is told of once, and every expiry is followed by the
change of status that it brings about. -/

namespace StrongAuth

/-- The statuses of authorisations and of their parents, as words. -/
structure Ledger where
  authorisation : String → Option String
  parent : String → Option String

namespace Ledger

def empty : Ledger := ⟨fun _ => none, fun _ => none⟩

def setAuthorisation (ledger : Ledger) (id word : String) : Ledger :=
  { ledger with authorisation := fun other =>
      if other = id then some word else ledger.authorisation other }

def setParent (ledger : Ledger) (id word : String) : Ledger :=
  { ledger with parent := fun other => if other = id then some word else ledger.parent other }

/-- The ledger after an event, if the event fits: an authorisation is created with an id that is
new, and a change of status is one and starts from the status that is known. -/
def apply (ledger : Ledger) : Event → Option Ledger
  | .created id _ _ =>
      if ledger.authorisation id = none then
        some (ledger.setAuthorisation id (Vocabulary.word Status.received))
      else none
  | .statusChanged id _ earlier later =>
      if ledger.authorisation id = some earlier ∧ earlier ≠ later then
        some (ledger.setAuthorisation id later)
      else none
  | .parentChanged id earlier later =>
      if ledger.parent id = some earlier ∧ earlier ≠ later then some (ledger.setParent id later)
      else none
  | .refused .. | .expired .. => some ledger

/-- The ledger after some events, if all of them fit. -/
def replay (ledger : Ledger) (events : List Event) : Option Ledger :=
  events.foldlM apply ledger

variable {ledger later : Ledger}

@[simp] theorem replay_nil (ledger : Ledger) : ledger.replay [] = some ledger := rfl

@[simp] theorem replay_cons (ledger : Ledger) (event : Event) (events : List Event) :
    ledger.replay (event :: events) = (ledger.apply event).bind (·.replay events) := rfl

theorem replay_append {first second : List Event} (replays : ledger.replay first = some later) :
    ledger.replay (first ++ second) = later.replay second := by
  unfold replay at replays ⊢
  rw [List.foldlM_append, replays]
  rfl

end Ledger

def MemoryStore.ledger (store : MemoryStore) : Ledger where
  authorisation id := (store.record? id).map fun record => Vocabulary.word record.status
  parent id := (store.resource? id).map fun resource => resource.status.word

/-! ## Words -/

theorem ParentStatus.word_injective {left right : ParentStatus}
    (same : left.word = right.word) : left = right := by
  cases left with
  | consent left =>
      cases right with
      | consent right => exact congrArg _ (Vocabulary.word_injective _ _ same)
      | payment right => cases left <;> cases right <;> simp [word, Vocabulary.word] at same
  | payment left =>
      cases right with
      | consent right => cases left <;> cases right <;> simp [word, Vocabulary.word] at same
      | payment right => exact congrArg _ (Vocabulary.word_injective _ _ same)

/-! ## Stores -/

namespace MemoryStore

variable {store : MemoryStore} {record stored : Authorisation} {resource : Resource}
  {parent : String}

/-- A ledger is made up of the statuses that can be looked up. -/
theorem ledger_congr {later : MemoryStore}
    (records : ∀ id, (later.record? id).map (·.status) = (store.record? id).map (·.status))
    (resources : ∀ id, (later.resource? id).map (·.status) =
      (store.resource? id).map (·.status)) : later.ledger = store.ledger := by
  have words (id : String) : later.ledger.authorisation id = store.ledger.authorisation id := by
    have same := congrArg (Option.map Vocabulary.word) (records id)
    rw [Option.map_map, Option.map_map] at same
    exact same
  have parents (id : String) : later.ledger.parent id = store.ledger.parent id := by
    have same := congrArg (Option.map ParentStatus.word) (resources id)
    rw [Option.map_map, Option.map_map] at same
    exact same
  exact congrArg₂ Ledger.mk (funext words) (funext parents)

theorem ledger_replace (found : store.record? record.id = some stored) :
    (store.replace record).ledger =
      store.ledger.setAuthorisation record.id (Vocabulary.word record.status) := by
  apply congrArg₂ Ledger.mk
  · funext id
    simp only [record?_replace, ledger]
    by_cases same : id = record.id
    · simp [same, found]
    · simp [same]
  · rfl

theorem ledger_replaceResource {earlier : Resource}
    (found : store.resource? resource.id = some earlier) :
    (store.replaceResource resource).ledger =
      store.ledger.setParent resource.id resource.status.word := by
  apply congrArg₂ Ledger.mk
  · rfl
  · funext id
    simp only [resource?_replaceResource, ledger]
    by_cases same : id = resource.id
    · simp [same, found]
    · simp [same]

theorem ledger_append (unknown : store.record? record.id = none) :
    ledger { store with records := store.records ++ [record] } =
      store.ledger.setAuthorisation record.id (Vocabulary.word record.status) := by
  apply congrArg₂ Ledger.mk
  · funext id
    rw [record?_append unknown]
    by_cases same : id = record.id
    · simp [same]
    · simp [same, ledger]
  · rfl

theorem ledger_register (store : MemoryStore) (resource : Resource) :
    (store.register resource).ledger =
      store.ledger.setParent resource.id resource.status.word := by
  apply congrArg₂ Ledger.mk
  · funext id
    simp [record?, ledger]
  · funext id
    rw [resource?_register]
    by_cases same : id = resource.id
    · simp [same]
    · simp [same, ledger]

theorem replay_changes (found : store.record? record.id = some stored) :
    store.ledger.replay (Node.changes record stored.status) =
      some (store.replace record).ledger := by
  have known : store.ledger.authorisation record.id = some (Vocabulary.word stored.status) := by
    simp [ledger, found]
  unfold Node.changes
  split
  · next same =>
      refine congrArg some (Eq.symm (ledger_congr ?_ fun _ => rfl))
      intro id
      rw [record?_replace]
      by_cases ours : id = record.id
      · simp [ours, found, same]
      · simp [ours]
  · next different =>
      have words : Vocabulary.word stored.status ≠ Vocabulary.word record.status :=
        fun same => different (Vocabulary.word_injective _ _ same).symm
      rw [ledger_replace found]
      simp [Ledger.apply, known, words]

theorem replay_parentChanges (store : MemoryStore) (parent : String) :
    store.ledger.replay (Node.parentChanges store parent) =
      some (store.projected parent).ledger := by
  unfold Node.parentChanges projected
  cases found : store.resource? parent with
  | none => rfl
  | some resource =>
      dsimp only
      cases derived : resource.derive? (store.statuses parent) with
      | none => rfl
      | some status =>
          have sameId := id_of_resource? found
          have known : store.ledger.parent parent = some resource.status.word := by
            simp [ledger, found]
          have words : resource.status.word ≠ status.word := by
            intro same
            rw [← ParentStatus.word_injective same] at derived
            simp only [Resource.derive?, Option.ite_none_left_eq_some, Option.some.injEq] at derived
            simp [derived.2] at derived
          dsimp only
          rw [ledger_replaceResource (by dsimp only; rw [sameId, found])]
          simp [Ledger.apply, known, words, sameId]

theorem replay_announcements {draft : Authorisation} (now : Time.Timestamp)
    (found : store.record? draft.id = some stored) (sameVersion : stored.version = draft.version) :
    store.ledger.replay (Node.announcements (store.replace (draft.saved now)) (draft.saved now)
      stored.status) = some (store.commit now draft).ledger := by
  have known : store.record? (draft.saved now).id = some stored := found
  rw [commit_of_current ⟨stored, found, sameVersion⟩]
  cases settled : draft.status.isTerminal with
  | true =>
      rw [Node.announcements_of_settled (draft.saved now) settled,
        Ledger.replay_append (replay_changes known), if_pos rfl]
      exact replay_parentChanges _ _
  | false =>
      rw [Node.announcements_of_live (draft.saved now) settled, if_neg (by simp)]
      exact replay_changes known

end MemoryStore

/-! ## Kinds of events -/

namespace Event

def isRefusal : Event → Bool
  | .refused .. => true
  | _ => false

def isChange : Event → Bool
  | .statusChanged .. | .parentChanged .. => true
  | _ => false

end Event

namespace Node

variable {store : MemoryStore} {saved : Authorisation} {earlier : Status} {parent : String}
  {event : Event}

theorem isChange_of_mem_changes (member : event ∈ changes saved earlier) :
    event.isChange = true := by
  unfold changes at member
  split at member
  · cases member
  · cases List.mem_singleton.mp member
    rfl

theorem isChange_of_mem_parentChanges (member : event ∈ parentChanges store parent) :
    event.isChange = true := by
  unfold parentChanges at member
  split at member
  · cases member
  · split at member
    · cases member
    · cases List.mem_singleton.mp member
      rfl

theorem isChange_of_mem_announcements (member : event ∈ announcements store saved earlier) :
    event.isChange = true := by
  unfold announcements at member
  rcases List.mem_append.mp member with changed | derived
  · exact isChange_of_mem_changes changed
  · split at derived
    · exact isChange_of_mem_parentChanges derived
    · cases derived

end Node

theorem Event.filter_isRefusal_of_changes {events : List Event}
    (changes : ∀ event ∈ events, event.isChange = true) : events.filter isRefusal = [] := by
  rw [List.filter_eq_nil_iff]
  intro event member
  have change := changes event member
  cases event <;> simp_all [isChange, isRefusal]

/-- Every expiry is immediately followed by the failing of the authorisation. -/
def ExpiriesFail (events : List Event) : Prop :=
  ∀ (position : Nat) (id parent : String), events[position]? = some (.expired id parent) →
    ∃ earlier, events[position + 1]? =
      some (.statusChanged id parent earlier (Vocabulary.word Status.failed))

namespace ExpiriesFail

variable {first second : List Event}

theorem nil : ExpiriesFail [] := by
  intro position id parent found
  cases found

theorem append (earlier : ExpiriesFail first) (later : ExpiriesFail second) :
    ExpiriesFail (first ++ second) := by
  intro position id parent found
  by_cases inside : position < first.length
  · rw [List.getElem?_append_left inside] at found
    rcases earlier position id parent found with ⟨status, next⟩
    have further : position + 1 < first.length := (List.getElem?_eq_some_iff.mp next).1
    exact ⟨status, by rw [List.getElem?_append_left further, next]⟩
  · have outside : first.length ≤ position := Nat.le_of_not_lt inside
    rw [List.getElem?_append_right outside] at found
    rcases later _ id parent found with ⟨status, next⟩
    refine ⟨status, ?_⟩
    rw [List.getElem?_append_right (Nat.le_succ_of_le outside),
      Nat.succ_sub outside, next]

theorem of_changes (changes : ∀ event ∈ first, event.isChange = true) :
    ExpiriesFail first := by
  intro position id parent found
  have change := changes _ (List.mem_of_getElem? found)
  cases change

theorem cons {event : Event} (unexpired : ∀ id parent, event ≠ .expired id parent)
    (fail : ExpiriesFail first) : ExpiriesFail (event :: first) := by
  intro position id parent found
  cases position with
  | zero => exact absurd (Option.some.inj found) (unexpired id parent)
  | succ position => exact fail position id parent found

theorem expired {id parent : String} (earlier : String) (fail : ExpiriesFail first) :
    ExpiriesFail (.expired id parent ::
      .statusChanged id parent earlier (Vocabulary.word Status.failed) :: first) := by
  have rest : ExpiriesFail
      (.statusChanged id parent earlier (Vocabulary.word Status.failed) :: first) :=
    cons (by simp) fail
  intro position other otherParent found
  cases position with
  | zero =>
      cases found
      exact ⟨earlier, rfl⟩
  | succ position => exact rest position other otherParent found

end ExpiriesFail

/-! ## Worlds -/

/-- From one world to another some events are published: they tell what the ledger is
afterwards, and among them are some refusals. -/
structure Tells (known : Ledger) (before after : World MemoryStore) (refusals told : List Event) :
    Prop where
  published : after.events = before.events ++ told
  replays : known.replay told = some after.store.ledger
  expiries : ExpiriesFail told
  refusals : told.filter Event.isRefusal = refusals

/-- All changes of statuses are told, and no refusal is. -/
def Reports (before after : World MemoryStore) : Prop :=
  ∃ told, Tells before.store.ledger before after [] told

namespace Reports

variable {first second third : World MemoryStore}

theorem of_eq (same : second.store = first.store) (silent : second.events = first.events) :
    Reports first second :=
  ⟨[], by rw [silent, List.append_nil], by rw [same]; rfl, .nil, rfl⟩

theorem refl (world : World MemoryStore) : Reports world world := .of_eq rfl rfl

theorem trans (earlier : Reports first second) (later : Reports second third) :
    Reports first third := by
  rcases earlier with ⟨told, published, replays, expiries, refusals⟩
  rcases later with ⟨next, publishes, replaysNext, expiriesNext, refusalsNext⟩
  refine ⟨told ++ next, ?_, ?_, expiries.append expiriesNext, ?_⟩
  · rw [publishes, published, List.append_assoc]
  · rw [Ledger.replay_append replays, replaysNext]
  · rw [List.filter_append, refusals, refusalsNext]
    rfl

theorem of_changes {told : List Event} (published : second.events = first.events ++ told)
    (replays : first.store.ledger.replay told = some second.store.ledger)
    (changes : ∀ event ∈ told, event.isChange = true) : Reports first second :=
  ⟨told, published, replays, .of_changes changes, Event.filter_isRefusal_of_changes changes⟩

end Reports

namespace Node

variable {partner : Partner} {now : Time.Timestamp} {world : World MemoryStore}
  {record : Authorisation}

theorem expire_reports (found : world.store.record? record.id = some record)
    (live : record.status.isTerminal = false) :
    Reports world (world.runAction partner (expire record now)).2 := by
  let failed := { record with status := .failed }
  have different : (failed.saved now).status ≠ record.status := by
    intro same
    rw [← same] at live
    cases live
  have changed : changes (failed.saved now) record.status =
      [.statusChanged record.id record.parent (Vocabulary.word record.status)
        (Vocabulary.word Status.failed)] := if_neg different
  have stored : world.store.record? failed.id = some record := found
  rw [world_expire partner now found]
  refine ⟨_, rfl, MemoryStore.replay_announcements now stored rfl, ?_, ?_⟩
  · rw [announcements, changed]
    apply ExpiriesFail.expired
    apply ExpiriesFail.of_changes
    intro event member
    split at member
    · exact isChange_of_mem_parentChanges member
    · cases member
  · rw [List.filter_cons_of_neg (by simp [Event.isRefusal])]
    exact Event.filter_isRefusal_of_changes fun _ => isChange_of_mem_announcements

theorem expiry_reports (partner : Partner) (now : Time.Timestamp) :
    Expiry partner now Reports where
  refl := .refl
  trans := Reports.trans
  locked _ _ reports := by
    rcases reports with ⟨told, published, replays, expiries, refusals⟩
    exact ⟨told, published, replays, expiries, refusals⟩
  expire found overdue := expire_reports found (Authorisation.live_of_isOverdue overdue)

theorem projectParent_reports (partner : Partner) (world : World MemoryStore) (parent : String) :
    Reports world (world.runAction partner (projectParent parent)).2 := by
  rw [world_projectParent]
  exact .of_changes rfl (MemoryStore.replay_parentChanges world.store parent) fun _ =>
    isChange_of_mem_parentChanges

end Node

theorem Started.reports {node : Node} {now : Time.Timestamp} {newId resourceId : String}
    {signer : Option Psu} {preferred : Option Approach} {before after : World MemoryStore}
    (started : Started node now newId resourceId signer preferred before after) :
    Reports before after := by
  cases started with
  | idle state silent => exact .of_eq state.store_eq silent
  | opened resource record sameId opening state told =>
      have unknown : before.store.ledger.authorisation record.id = none := by
        simp [MemoryStore.ledger, opening.unknown]
      refine ⟨_, told, ?_, .cons (by simp) .nil, rfl⟩
      rw [state.store_eq, MemoryStore.ledger_append opening.unknown, opening.received]
      simp [Ledger.apply, unknown]

/-! ## Updates -/

theorem Visit.Takes.reports {deployment : Deployment} {id : String} {request : Request}
    {now : Time.Timestamp} {before after : World MemoryStore} {visit : Visit}
    (takes : visit.Takes deployment id request now before after)
    (quiet : deployment.bank.Quiet) :
    Reports before ((before.afterTalk visit.interference visit.exchanges).runAction
      deployment.partner
      (deployment.node.conclude visit.record.status visit.verdict now)).2 := by
  have unchanged : (before.afterTalk visit.interference visit.exchanges).store = before.store := by
    rw [takes.undisturbed quiet]
    rfl
  cases takes.concluded with
  | refused refusal refuses ran =>
      rw [ran]
      exact .of_eq unchanged rfl
  | overtaken version raised found ran =>
      rw [ran]
      exact .of_eq unchanged rfl
  | stored draft drafted current ran =>
      rw [ran]
      have copies := takes.draft_copies drafted
      have found : before.store.record? draft.id = some visit.record := by
        rw [takes.draft_id drafted, takes.found]
      have replays := MemoryStore.replay_announcements now found copies.version_eq.symm
      rw [← unchanged] at replays
      refine .of_changes rfl ?_ fun _ => Node.isChange_of_mem_announcements
      rw [← unchanged]
      exact replays

namespace Node

variable {deployment : Deployment} {id : String} {request : Request} {now : Time.Timestamp}

theorem process_reports (quiet : deployment.bank.Quiet) (world : World MemoryStore) :
    Reports world (world.runAction deployment.partner
      (deployment.node.process id request now)).2 := by
  cases process_processed deployment id request now world with
  | refused refusal cause ran =>
      rw [ran]
      exact .refl world
  | expired record found overdue ran =>
      rw [ran]
      exact (expiry_reports deployment.partner now).bind found overdue fun _ _ => rfl
  | visited visit takes ran =>
      rw [ran]
      exact takes.reports quiet

theorem replay_rejections {α : Type} (ledger : Ledger) (id : String)
    (answer : Except Failure α) : ledger.replay (rejections id answer) = some ledger := by
  rcases answer with (refusal | fault) | value <;> rfl

theorem filter_rejections {α : Type} (id : String) (answer : Except Failure α) :
    (rejections id answer).filter Event.isRefusal = rejections id answer := by
  rcases answer with (refusal | fault) | value <;> rfl

theorem expiriesFail_rejections {α : Type} (id : String) (answer : Except Failure α) :
    ExpiriesFail (rejections id answer) := by
  rcases answer with (refusal | fault) | value
  · exact .cons (by simp) .nil
  · exact .nil
  · exact .nil

/-- An update tells of all changes, and then of its refusal if it is refused. -/
theorem update_tells (quiet : deployment.bank.Quiet) (world : World MemoryStore) :
    let updated := world.runAction deployment.partner (deployment.node.update id request now)
    ∃ told, Tells world.store.ledger world updated.2 (rejections id updated.1) told := by
  intro updated
  rcases runAction_update deployment.partner deployment.node id request now world
    with ⟨busy, idle, ran⟩
  let locked : World MemoryStore := { world with locks := busy }
  let processed := locked.runAction deployment.partner
    (deployment.node.process id request now)
  have sameAnswer : updated.1 = processed.1 := congrArg (·.1) ran
  have sameStore : updated.2.store = processed.2.store := congrArg (·.2.store) ran
  have sameEvents : updated.2.events = processed.2.events ++ rejections id processed.1 :=
    congrArg (·.2.events) ran
  rcases process_reports quiet locked with ⟨told, published, replays, expiries, refusals⟩
  refine ⟨told ++ rejections id processed.1, ?_, ?_, ?_, ?_⟩
  · rw [sameEvents, ← List.append_assoc]
    exact congrArg (· ++ rejections id processed.1) published
  · rw [Ledger.replay_append replays, replay_rejections, sameStore]
  · exact expiries.append (expiriesFail_rejections id processed.1)
  · rw [List.filter_append, refusals, filter_rejections, sameAnswer]
    rfl

end Node

/-! ## Runs -/

/-- The ledger after it is learnt what an operation registers. -/
def Ledger.enter (ledger : Ledger) : Operation → Ledger
  | .register resource => ledger.setParent resource.id resource.status.word
  | _ => ledger

def Operation.rejections (operation : Operation) (answer : Except Failure operation.Answer) :
    List Event :=
  match operation with
  | .update id _ => Node.rejections id answer
  | _ => []

namespace Deployment

variable {deployment : Deployment}

theorem perform_tells (quiet : deployment.bank.Quiet) (step : Step) (world : World MemoryStore) :
    let performed := deployment.perform step world
    ∃ told, Tells (world.store.ledger.enter step.operation) world performed.2
      (step.operation.rejections performed.1) told := by
  intro performed
  rcases step with ⟨operation, now⟩
  cases operation with
  | register resource =>
      refine ⟨[], (List.append_nil _).symm, ?_, .nil, rfl⟩
      exact congrArg some (MemoryStore.ledger_register world.store resource).symm
  | start newId resource psu preferred =>
      exact (Node.start_started deployment.partner deployment.node now world newId resource psu
        preferred).reports
  | update id request => exact Node.update_tells quiet world
  | status id => exact (Node.expiry_reports _ now).status world id
  | list resource =>
      have unchanged : performed.2 = world := Node.world_list deployment.partner world resource
      rw [unchanged]
      exact Reports.refl world
  | project resource => exact Node.projectParent_reports _ world resource
  | sweep => exact (Node.expiry_reports _ now).sweep world

end Deployment

def Passage.told (passage : Passage) : List Event :=
  passage.after.events.drop passage.before.events.length

def Passage.recount (ledger : Ledger) (passage : Passage) : Option Ledger :=
  match passage.move with
  | .operate step => (ledger.enter step.operation).replay passage.told
  | .outside _ => ledger.replay passage.told

/-- The ledger after a history, if every event in it fits. -/
def recount (passages : List Passage) : Option Ledger :=
  passages.foldlM Passage.recount .empty

/-- What is told in a history. -/
structure Recounts (deployment : Deployment) (passages : List Passage)
    (world : World MemoryStore) : Prop where
  /-- The events of the history are all events. -/
  events : world.events = passages.flatMap Passage.told
  /-- They fit, and tell the statuses that are stored. -/
  ledger : recount passages = some world.store.ledger
  expiries : ExpiriesFail world.events
  /-- An operation tells of its refusal once if it is a refused update, and of none otherwise. -/
  refusals : ∀ passage ∈ passages, ∀ step, passage.move = .operate step →
    passage.told.filter Event.isRefusal =
      step.operation.rejections (deployment.perform step passage.before).1

theorem Recounts.append {deployment : Deployment} (quiet : deployment.bank.Quiet)
    {passages : List Passage} {before : World MemoryStore}
    (recounts : Recounts deployment passages before) (step : Step) :
    Recounts deployment
      (passages ++ [⟨.operate step, before, deployment.make before (.operate step)⟩])
      (deployment.make before (.operate step)) := by
  rcases deployment.perform_tells quiet step before with
    ⟨told, published, replays, expiries, refusals⟩
  let passage : Passage := ⟨.operate step, before, deployment.make before (.operate step)⟩
  have publishes : passage.after.events = passage.before.events ++ told := published
  have same : passage.told = told := by
    rw [Passage.told, publishes, List.drop_left]
  constructor
  · rw [List.flatMap_append, List.flatMap_singleton, ← recounts.events]
    change passage.after.events = passage.before.events ++ passage.told
    rw [same, publishes]
  · have counted : passages.foldlM Passage.recount .empty = some before.store.ledger :=
      recounts.ledger
    have next : passage.recount before.store.ledger = some passage.after.store.ledger := by
      rw [Passage.recount]
      dsimp only [passage]
      rw [same]
      exact replays
    unfold recount
    rw [List.foldlM_append, counted]
    change (passage.recount before.store.ledger).bind pure = _
    rw [next]
    rfl
  · change ExpiriesFail passage.after.events
    rw [publishes]
    exact recounts.expiries.append expiries
  · intro other member performed moved
    rcases List.mem_append.mp member with earlier | last
    · exact recounts.refusals other earlier performed moved
    · cases List.mem_singleton.mp last
      cases moved
      change passage.told.filter Event.isRefusal = _
      rw [same]
      exact refusals

/-- In every run of operations that nobody disturbs the events replay what is stored, and so they
do after each operation of it. -/
theorem Deployment.events_recount (deployment : Deployment) (quiet : deployment.bank.Quiet)
    (steps : List Step) :
    let moves := steps.map Move.operate
    Recounts deployment (deployment.history moves (.fresh .empty))
      (deployment.play moves (.fresh .empty)) := by
  intro moves
  induction steps using List.reverseRecOn with
  | nil => exact ⟨rfl, rfl, .nil, by simp [moves, history]⟩
  | append_singleton steps step induction =>
      have parts : moves = steps.map Move.operate ++ [.operate step] := by simp [moves]
      rw [parts, history_append, play_append]
      exact induction.append quiet step

/-- A payment that is given a wrong password, and expires an hour later. -/
def expiringSteps : List Step :=
  let payment : Resource :=
    ⟨"payment", .payment, .payment .received, false, false, false, [], .epoch⟩
  let anna : Psu := ⟨some "anna", none, none, none, none⟩
  [⟨.register payment, .epoch⟩, ⟨.start "first" "payment" none (some .embedded), .epoch⟩,
    ⟨.update "first" ⟨some anna, some "guess", none, none, none⟩, .epoch⟩,
    ⟨.status "first", ⟨3600, 1000000, by decide, by decide, by decide, by decide⟩⟩]

theorem expiry_recounted :
    let deployment := Deployment.simulated .standard
    let moves := expiringSteps.map Move.operate
    let world := deployment.play moves (.fresh .empty)
    Recounts deployment (deployment.history moves (.fresh .empty)) world ∧
      world.events = [.created "first" "payment" "EMBEDDED",
        .refused "first" .credentialsInvalid "PSU credentials invalid, 2 attempt(s) left",
        .expired "first" "payment", .statusChanged "first" "payment" "received" "failed",
        .parentChanged "payment" "RCVD" "RJCT"] := by
  intro deployment moves world
  exact ⟨deployment.events_recount SimulatedBank.standard.quiet expiringSteps,
    by decide +kernel⟩

end StrongAuth
