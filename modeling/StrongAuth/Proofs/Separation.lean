import StrongAuth.Proofs.AnyStore
import StrongAuth.Proofs.Resources
import StrongAuth.Proofs.Shares

/-! # Operations on different resources

An update and a question for a status see and change nothing but the share of one resource, if
the bank answers by the calls of the operation itself. Main statement: two of them on
authorisations of different resources come to the same in either order. -/

namespace StrongAuth

/-! ## Banks of single operations -/

/-- A bank that does not know of the first exchanges. -/
def Bank.since (count : Nat) (bank : Bank) : Bank :=
  fun exchanges call => bank (exchanges.drop count) call

/-- A world holds a conversation in the same way whatever was exchanged before, if the bank does
not know of that. -/
theorem World.run_dialogue_since {α : Type} {bank : Bank} (quiet : bank.Quiet)
    (limit : Time.Span) (dialogue : Dialogue α) (told : List Exchange) :
    ∃ result exchanges, dialogue.Yields exchanges result ∧
      ∀ (past : List Exchange) (world : World MemoryStore), world.exchanges = past ++ told →
        world.run ⟨bank.since past.length, limit⟩
            (dialogue.translate fun call => Interaction.query (.bank call)) =
          (result, { world with exchanges := world.exchanges ++ exchanges }) := by
  induction dialogue generalizing told with
  | done value =>
      refine ⟨value, [], ⟨rfl, rfl⟩, fun past world _ => ?_⟩
      rw [List.append_nil]
      rfl
  | ask call next induction =>
      let reply := bank told call
      let answer := BankFault.within (Vocabulary.word call.query.task) limit reply.delay
        reply.answer
      rcases induction answer (told ++ [⟨call, answer⟩]) with ⟨result, exchanges, yields, runs⟩
      refine ⟨result, ⟨call, answer⟩ :: exchanges, ⟨answer, exchanges, rfl, yields⟩, ?_⟩
      intro past world spoken
      have known : (bank.since past.length) world.exchanges call = reply := by
        rw [Bank.since, spoken, List.drop_left]
      have consults : world.consult ⟨bank.since past.length, limit⟩ call =
          (answer, { world with exchanges := world.exchanges ++ [⟨call, answer⟩] }) := by
        unfold World.consult
        dsimp only
        rw [known, quiet told call]
        rfl
      have continues := runs past { world with exchanges := world.exchanges ++ [⟨call, answer⟩] }
        (by rw [spoken, List.append_assoc])
      change World.run _ _ (world.consult ⟨bank.since past.length, limit⟩ call).2 = _
      change World.run _ (Interaction.translate _
        (next (world.consult ⟨bank.since past.length, limit⟩ call).1)) _ = _
      rw [consults]
      exact continues.trans (by rw [List.append_assoc]; rfl)

def World.runAlone {α : Type} (bank : Bank) (limit : Time.Span) (action : Action α)
    (world : World MemoryStore) : Except Failure α × World MemoryStore :=
  world.runAction ⟨bank.since world.exchanges.length, limit⟩ action

def Node.performAlone (node : Node) (bank : Bank) (step : Step) (world : World MemoryStore) :
    Except Failure step.operation.Answer × World MemoryStore :=
  Deployment.perform ⟨node, bank.since world.exchanges.length⟩ step world

/-! ## Events of an authorisation -/

namespace Event

def authorisation? : Event → Option String
  | .created id .. | .statusChanged id .. | .refused id .. | .expired id _ => some id
  | .parentChanged .. => none

def parent? : Event → Option String
  | .created _ parent _ | .statusChanged _ parent .. | .expired _ parent => some parent
  | .parentChanged parent .. => some parent
  | .refused .. => none

/-- The event tells of an authorisation or of its resource. -/
structure Concerns (record : Authorisation) (event : Event) : Prop where
  authorisation : ∀ id ∈ event.authorisation?, id = record.id
  parent : ∀ id ∈ event.parent?, id = record.parent

end Event

open Event in
theorem Node.concerns_changes {record saved : Authorisation} (sameId : saved.id = record.id)
    (sameParent : saved.parent = record.parent) (earlier : Status) :
    ∀ event ∈ changes saved earlier, Concerns record event := by
  intro event member
  unfold changes at member
  split at member
  · cases member
  · rw [List.mem_singleton] at member
    subst member
    exact ⟨fun id told => sameId ▸ (Option.some.inj told).symm,
      fun id told => sameParent ▸ (Option.some.inj told).symm⟩

theorem Node.concerns_parentChanges {record : Authorisation} (store : MemoryStore) :
    ∀ event ∈ parentChanges store record.parent, event.Concerns record := by
  intro event member
  unfold parentChanges at member
  split at member
  · cases member
  · split at member
    · cases member
    · rw [List.mem_singleton] at member
      subst member
      exact ⟨fun _ told => (by cases told), fun _ told => (Option.some.inj told).symm⟩

theorem Node.concerns_rejections {α : Type} {record : Authorisation}
    (answer : Except Failure α) :
    ∀ event ∈ rejections record.id answer, event.Concerns record := by
  intro event member
  rcases answer with (refusal | fault) | value
  · have told : event = .refused record.id refusal.kind refusal.message := by
      simpa [rejections] using member
    subst told
    exact ⟨fun _ told => (Option.some.inj told).symm, fun _ told => (by cases told)⟩
  · cases member
  · cases member

/-! ## Undertakings -/

/-- What an operation on an authorisation comes to: its answer, the copy it commits, its calls
to the bank, and what it tells before and after it has told of the copy. -/
structure Undertaking (α : Type) where
  answer : Except Failure α
  draft? : Option Authorisation
  exchanges : List Exchange
  before : List Event
  after : List Event

/-- The events by which a copy is told of when it is committed, if there is one. -/
def MemoryStore.tidings (store : MemoryStore) (now : Time.Timestamp) (earlier : Status) :
    Option Authorisation → List Event
  | none => []
  | some draft => Node.announcements (store.replace (draft.saved now)) (draft.saved now) earlier

def World.afterExpiry (world : World MemoryStore) (record : Authorisation)
    (now : Time.Timestamp) : World MemoryStore :=
  let failed := { record with status := .failed }
  { world with
    store := world.store.commit now failed
    events := world.events ++ (.expired record.id record.parent ::
      world.store.tidings now record.status (some failed)) }

/-! ## Overdue records -/

namespace Node

variable {world : World MemoryStore} {record : Authorisation} {resource : Resource}
  {now : Time.Timestamp}

theorem runAction_process_of_overdue (partner : Partner) (node : Node) (request : Request)
    (found : world.store.record? record.id = some record)
    (present : world.store.resource? record.parent = some resource)
    (overdue : record.isOverdue now = true) :
    world.runAction partner (node.process record.id request now) =
      (.error (.refused .expired), world.afterExpiry record now) := by
  have read : Store.get record.id world.store = .ok (some record) := congrArg Except.ok found
  have processes := runAction_process_of_late partner node request read overdue
  rw [runAction_expire partner now found present] at processes
  exact processes

theorem runAction_status_of_overdue (partner : Partner)
    (found : world.store.record? record.id = some record)
    (present : world.store.resource? record.parent = some resource)
    (overdue : record.isOverdue now = true) : ∃ locks,
    world.runAction partner (status record.id now) =
      (.ok .failed, { world.afterExpiry record now with locks }) := by
  have read : Store.get record.id world.store = .ok (some record) := congrArg Except.ok found
  rcases runAction_status_of_late partner read overdue with ⟨busy, idle, answers⟩
  have expires := @runAction_expire { world with locks := busy } record resource partner now found
    present
  rw [expires] at answers
  exact ⟨idle, answers⟩

end Node

namespace Undertaking

variable {α : Type}

def events (undertaking : Undertaking α) (record : Authorisation) (now : Time.Timestamp)
    (store : MemoryStore) : List Event :=
  undertaking.before ++ store.tidings now record.status undertaking.draft? ++ undertaking.after

def result (undertaking : Undertaking α) (record : Authorisation) (now : Time.Timestamp)
    (world : World MemoryStore) : World MemoryStore :=
  { world with
    store := world.store.commit? now undertaking.draft?
    exchanges := world.exchanges ++ undertaking.exchanges
    events := world.events ++ undertaking.events record now world.store }

/-- A run comes to the undertaking in every world that has the same share of the resource of a
record. -/
structure Confines (undertaking : Undertaking α) (store : MemoryStore) (record : Authorisation)
    (now : Time.Timestamp)
    (run : World MemoryStore → Except Failure α × World MemoryStore) : Prop where
  drafts : ∀ draft ∈ undertaking.draft?, store.Drafts record draft
  concerns : ∀ event ∈ undertaking.before ++ undertaking.after, event.Concerns record
  runs : ∀ world : World MemoryStore, store.AgreesOn record.parent world.store →
    world.store.Distinct → ∃ locks, run world =
      (undertaking.answer, { undertaking.result record now world with locks })

theorem Confines.idle {store : MemoryStore} {record : Authorisation} {now : Time.Timestamp}
    {run : World MemoryStore → Except Failure α × World MemoryStore} (answer : Except Failure α)
    (runs : ∀ world : World MemoryStore, store.AgreesOn record.parent world.store →
      world.store.Distinct → run world = (answer, world)) :
    Confines ⟨answer, none, [], [], []⟩ store record now run where
  drafts _ member := by cases member
  concerns _ member := by cases member
  runs world agrees distinct := by
    refine ⟨world.locks, (runs world agrees distinct).trans ?_⟩
    simp [result, events, MemoryStore.commit?, MemoryStore.tidings]

end Undertaking

namespace Node

variable {store : MemoryStore} {record : Authorisation} {resource : Resource}
  {bank : Bank} {limit : Time.Span} {request : Request} {now : Time.Timestamp}

open Undertaking

theorem expire_confined {α : Type} (found : store.record? record.id = some record)
    (present : store.resource? record.parent = some resource) {answer : Except Failure α}
    {run : World MemoryStore → Except Failure α × World MemoryStore}
    (expires : ∀ world : World MemoryStore, world.store.record? record.id = some record →
      world.store.resource? record.parent = some resource →
      ∃ locks, run world = (answer, { world.afterExpiry record now with locks })) :
    Confines ⟨answer, some { record with status := .failed }, [],
      [.expired record.id record.parent], []⟩ store record now run where
  drafts draft member := by
    cases member
    exact ⟨⟨found, rfl, rfl⟩, rfl⟩
  concerns event member := by
    rw [List.append_nil, List.mem_singleton] at member
    subst member
    exact ⟨fun id told => (Option.some.inj told).symm, fun id told => (Option.some.inj told).symm⟩
  runs world agrees distinct := by
    have stored := agrees.record? distinct found
    rcases expires world stored (agrees.resource.trans present) with ⟨locks, ran⟩
    refine ⟨locks, ran.trans ?_⟩
    simp [World.afterExpiry, result, events, MemoryStore.commit?]

theorem converse_confined (quiet : bank.Quiet) (node : Node) (limit : Time.Span)
    (request : Request) (now : Time.Timestamp)
    (found : store.record? record.id = some record)
    (present : store.resource? record.parent = some resource)
    (live : record.status.isTerminal = false) :
    ∃ undertaking, Confines undertaking store record now
      (World.runAlone bank limit (do
        let verdict ← Action.converse (Stage.handle record.status
          ⟨request, resource, .ofApproach record.approach, node.policy⟩ record)
        node.conclude record.status verdict now)) := by
  let input : Stage.Input := ⟨request, resource, .ofApproach record.approach, node.policy⟩
  rcases World.run_dialogue_since quiet limit (Stage.handle record.status input record) []
    with ⟨verdict, exchanges, yields, holds⟩
  have sound := (Stage.handle_sound input record).of_yields yields
  have talks (world : World MemoryStore) :
      World.runAlone bank limit (do
        let verdict ← Action.converse (Stage.handle record.status input record)
        node.conclude record.status verdict now) world =
      World.runAction ⟨bank.since world.exchanges.length, limit⟩
        (node.conclude record.status verdict now)
        { world with exchanges := world.exchanges ++ exchanges } := by
    unfold World.runAlone Action.converse
    rw [World.runAction_bind, World.runAction_lift,
      holds world.exchanges world (List.append_nil _).symm]
  cases drafted : verdict.draft? node.policy.exemption record.status with
  | none =>
      rcases sound.refuses_of_draft?_eq_none drafted with ⟨refusal, refuses⟩
      refine ⟨⟨.error (.refused refusal), none, exchanges, [], []⟩, fun _ member => ?_,
        fun _ member => ?_, fun world agrees distinct => ?_⟩
      · cases member
      · cases member
      · refine ⟨world.locks, (talks world).trans ?_⟩
        unfold conclude
        rw [refuses]
        simp [result, events, MemoryStore.commit?, MemoryStore.tidings]
  | some draft =>
      have copies := sound.draft_copies drafted
      refine ⟨⟨verdict.answer node.links (draft.saved now), some draft, exchanges, [], []⟩,
        fun _ member => ?_, fun _ member => ?_, fun world agrees distinct => ?_⟩
      · cases member
        exact ⟨⟨found, copies.id_eq, copies.parent_eq⟩, copies.version_eq⟩
      · cases member
      · have drafts : world.store.Drafts record draft :=
          ⟨⟨agrees.record? distinct found, copies.id_eq, copies.parent_eq⟩, copies.version_eq⟩
        let talked : World MemoryStore :=
          { world with exchanges := world.exchanges ++ exchanges }
        have parent : talked.store.resource? draft.parent = some resource := by
          rw [drafts.sameParent]
          exact agrees.resource.trans present
        have current : talked.store.Current draft := drafts.current
        refine ⟨world.locks, (talks world).trans
          ((runAction_conclude_of_current node live drafted current parent).trans ?_)⟩
        simp [talked, result, events, MemoryStore.commit?, MemoryStore.tidings]

theorem process_confined (quiet : bank.Quiet) (node : Node) (limit : Time.Span)
    (request : Request) (now : Time.Timestamp)
    (found : store.record? record.id = some record)
    (present : store.resource? record.parent = some resource) :
    ∃ undertaking, Confines undertaking store record now
      (World.runAlone bank limit (node.process record.id request now)) := by
  let siblings := if resource.multilevel then store.listByParent record.parent else []
  have processes (world : World MemoryStore) (agrees : store.AgreesOn record.parent world.store)
      (distinct : world.store.Distinct) :=
    runAction_process ⟨bank.since world.exchanges.length, limit⟩ node request now
      (agrees.record? distinct found) (agrees.resource.trans present)
  cases terminal : record.status.isTerminal with
  | true =>
      refine ⟨_, .idle (.error (.refused (.settled record.status))) ?_⟩
      intro world agrees distinct
      exact (processes world agrees distinct).trans (if_pos terminal)
  | false =>
      have unsettled : ¬ record.status.isTerminal = true := by rw [terminal]; simp
      cases expired : record.isExpired now with
      | true =>
          have overdue : record.isOverdue now = true := by
            rw [Authorisation.isOverdue, terminal, expired]
            rfl
          refine ⟨_, @expire_confined store record resource now _ found present
            (.error (.refused .expired)) _ ?_⟩
          intro world stored parent
          exact ⟨world.locks, runAction_process_of_overdue _ node request stored parent overdue⟩
      | false =>
          have punctual : ¬ record.isExpired now = true := by rw [expired]; simp
          cases objects : Check.firstObjection node.checks
              ⟨request, record, resource, siblings⟩ with
          | some refusal =>
              refine ⟨_, .idle (.error (.refused refusal)) ?_⟩
              intro world agrees distinct
              refine (processes world agrees distinct).trans ?_
              rw [if_neg unsettled, if_neg punctual, agrees.listByParent, objects]
          | none =>
              rcases converse_confined quiet node limit request now found present terminal
                with ⟨undertaking, confines⟩
              refine ⟨undertaking, confines.drafts, confines.concerns, ?_⟩
              intro world agrees distinct
              rcases confines.runs world agrees distinct with ⟨locks, ran⟩
              refine ⟨locks, (processes world agrees distinct).trans ?_⟩
              rw [if_neg unsettled, if_neg punctual, agrees.listByParent, objects]
              exact ran

theorem update_confined (quiet : bank.Quiet) (node : Node) (limit : Time.Span)
    (request : Request) (now : Time.Timestamp)
    (found : store.record? record.id = some record)
    (present : store.resource? record.parent = some resource) :
    ∃ undertaking, Confines undertaking store record now
      (World.runAlone bank limit (node.update record.id request now)) := by
  rcases process_confined quiet node limit request now found present
    with ⟨undertaking, confines⟩
  refine ⟨{ undertaking with
    after := undertaking.after ++ rejections record.id undertaking.answer },
    confines.drafts, ?_, ?_⟩
  · intro event member
    rw [← List.append_assoc, List.mem_append] at member
    rcases member with member | member
    · exact confines.concerns event member
    · exact concerns_rejections undertaking.answer event member
  · intro world agrees distinct
    rcases runAction_update ⟨bank.since world.exchanges.length, limit⟩ node record.id request now
      world with ⟨busy, idle, ran⟩
    rcases confines.runs { world with locks := busy } agrees distinct with ⟨locks, processes⟩
    refine ⟨idle, ran.trans ?_⟩
    change World.runAction ⟨bank.since world.exchanges.length, limit⟩ _ _ = _ at processes
    rw [processes]
    simp [result, events]

theorem status_confined (limit : Time.Span) (now : Time.Timestamp)
    (found : store.record? record.id = some record)
    (present : store.resource? record.parent = some resource) :
    ∃ undertaking, Confines undertaking store record now
      (World.runAlone bank limit (status record.id now)) := by
  cases overdue : record.isOverdue now with
  | false =>
      refine ⟨_, .idle (.ok record.status) ?_⟩
      intro world agrees distinct
      exact runAction_status_of_punctual _ (congrArg Except.ok (agrees.record? distinct found)) overdue
  | true =>
      refine ⟨_, @expire_confined store record resource now _ found present (.ok .failed) _ ?_⟩
      intro world stored parent
      exact runAction_status_of_overdue _ stored parent overdue

end Node

/-! ## Two operations -/

/-- Two runs come to the same in either order: the same store, the same answers, and the same
events of every authorisation and of every resource. -/
structure Commute {α β : Type} (first : World MemoryStore → Except Failure α × World MemoryStore)
    (second : World MemoryStore → Except Failure β × World MemoryStore)
    (world : World MemoryStore) : Prop where
  store : (second (first world).2).2.store = (first (second world).2).2.store
  firstAnswer : (first world).1 = (first (second world).2).1
  secondAnswer : (second (first world).2).1 = (second world).1
  ofAuthorisation : ∀ id, (second (first world).2).2.events.filter (·.authorisation? == some id) =
    (first (second world).2).2.events.filter (·.authorisation? == some id)
  ofParent : ∀ parent, (second (first world).2).2.events.filter (·.parent? == some parent) =
    (first (second world).2).2.events.filter (·.parent? == some parent)

/-- A run changes at most one record and its resource. -/
structure Leaves {α : Type} (run : World MemoryStore → Except Failure α × World MemoryStore)
    (record : Authorisation) (world : World MemoryStore) : Prop where
  records : ∀ id ≠ record.id, (run world).2.store.record? id = world.store.record? id
  resources : ∀ parent ≠ record.parent,
    (run world).2.store.resource? parent = world.store.resource? parent

def Operation.subject? : Operation → Option String
  | .update id _ | .status id => some id
  | _ => none

theorem Node.performAlone_confined {store : MemoryStore} {record : Authorisation}
    {resource : Resource} {bank : Bank} (node : Node) (quiet : bank.Quiet) {step : Step}
    (works : step.operation.subject? = some record.id)
    (found : store.record? record.id = some record)
    (present : store.resource? record.parent = some resource) :
    ∃ undertaking, Undertaking.Confines undertaking store record step.now
      (node.performAlone bank step) := by
  rcases step with ⟨operation, now⟩
  cases operation with
  | update id request =>
      cases works
      exact update_confined quiet node node.bankLimit request now found present
  | status id =>
      cases works
      exact status_confined node.bankLimit now found present
  | _ => cases works

/-- What concerns different things can be told in either order. -/
theorem Event.filter_append_comm (key : Event → Option String) {left right : String}
    {one two : List Event} (apart : left ≠ right)
    (ones : ∀ event ∈ one, ∀ id ∈ key event, id = left)
    (twos : ∀ event ∈ two, ∀ id ∈ key event, id = right) (id : String) :
    (one ++ two).filter (fun event => key event == some id) =
      (two ++ one).filter fun event => key event == some id := by
  have none_of {events : List Event} {owner : String} (other : id ≠ owner)
      (owned : ∀ event ∈ events, ∀ id ∈ key event, id = owner) :
      events.filter (fun event => key event == some id) = [] := by
    rw [List.filter_eq_nil_iff]
    intro event member same
    exact other (owned event member id (by simpa using same))
  rw [List.filter_append, List.filter_append]
  by_cases ours : id = left
  · rw [none_of (ours ▸ apart) twos, List.append_nil, List.nil_append]
  · rw [none_of ours ones, List.append_nil, List.nil_append]

namespace MemoryStore

variable {store later : MemoryStore} {record : Authorisation} {draft? : Option Authorisation}
  {now : Time.Timestamp} {earlier : Status}

theorem tidings_eq (drafts : ∀ draft ∈ draft?, store.Drafts record draft)
    (distinct : store.Distinct) (agrees : AgreesOn record.parent store later)
    (laterDistinct : later.Distinct) :
    later.tidings now earlier draft? = store.tidings now earlier draft? := by
  cases draft? with
  | none => rfl
  | some draft =>
      have drafting := drafts draft rfl
      have replaced := (drafting.saved now).replace_agreesOn distinct agrees laterDistinct
      have sameParent : (draft.saved now).parent = record.parent := drafting.sameParent
      simp only [tidings, Node.announcements, sameParent, replaced.parentChanges]

theorem concerns_tidings (drafts : ∀ draft ∈ draft?, store.Drafts record draft) :
    ∀ event ∈ store.tidings now earlier draft?, event.Concerns record := by
  cases draft? with
  | none =>
      intro event member
      cases member
  | some draft =>
      have drafting := drafts draft rfl
      have sameParent : (draft.saved now).parent = record.parent := drafting.sameParent
      intro event member
      rcases List.mem_append.mp member with member | member
      · exact Node.concerns_changes drafting.sameId sameParent earlier event member
      · split at member
        · rw [sameParent] at member
          exact Node.concerns_parentChanges _ event member
        · cases member

end MemoryStore

namespace Undertaking.Confines

variable {α β : Type} {one : Undertaking α} {two : Undertaking β} {store : MemoryStore}
  {left right : Authorisation} {now later : Time.Timestamp}
  {first : World MemoryStore → Except Failure α × World MemoryStore}
  {second : World MemoryStore → Except Failure β × World MemoryStore}

theorem concerns_events (confines : Confines one store left now first) :
    ∀ event ∈ one.events left now store, event.Concerns left := by
  intro event member
  rcases List.mem_append.mp member with member | member
  · rcases List.mem_append.mp member with member | member
    · exact confines.concerns event (List.mem_append_left _ member)
    · exact MemoryStore.concerns_tidings confines.drafts event member
  · exact confines.concerns event (List.mem_append_right _ member)

theorem leaves {world : World MemoryStore} (confines : Confines one world.store left now first)
    (distinct : world.store.Distinct) : Leaves first left world := by
  rcases confines.runs world (.refl _ _) distinct with ⟨locks, ran⟩
  constructor
  · intro id other
    rw [ran]
    exact MemoryStore.record?_commit? confines.drafts other
  · intro parent other
    rw [ran]
    exact (MemoryStore.agreesOn_commit? distinct confines.drafts other.symm).resource

/-- After an undertaking for one resource, an undertaking for another one is what it was. -/
theorem runs_after {world : World MemoryStore} (ones : Confines one world.store left now first)
    (twos : Confines two world.store right later second) (apart : left.parent ≠ right.parent)
    (distinct : world.store.Distinct) :
    ∃ locks, second (first world).2 = (two.answer,
      { store := (world.store.commit? now one.draft?).commit? later two.draft?
        exchanges := world.exchanges ++ one.exchanges ++ two.exchanges
        events := world.events ++
          (one.events left now world.store ++ two.events right later world.store)
        locks }) := by
  have agrees : MemoryStore.AgreesOn right.parent world.store
      (world.store.commit? now one.draft?) :=
    MemoryStore.agreesOn_commit? distinct ones.drafts apart
  have stillDistinct : (world.store.commit? now one.draft?).Distinct :=
    MemoryStore.distinct_commit? distinct one.draft?
  rcases ones.runs world (.refl _ _) distinct with ⟨busy, ran⟩
  rcases twos.runs { one.result left now world with locks := busy } agrees stillDistinct
    with ⟨locks, follows⟩
  have told : two.events right later (world.store.commit? now one.draft?) =
      two.events right later world.store := by
    unfold events
    rw [MemoryStore.tidings_eq twos.drafts distinct agrees stillDistinct]
  refine ⟨locks, ?_⟩
  rw [ran]
  refine follows.trans ?_
  simp [result, told]

/-- Undertakings for different resources can be exchanged. -/
theorem commute {world : World MemoryStore} (ones : Confines one world.store left now first)
    (twos : Confines two world.store right later second) (ids : left.id ≠ right.id)
    (apart : left.parent ≠ right.parent) (distinct : world.store.Distinct) :
    Commute first second world := by
  rcases ones.runs world (.refl _ _) distinct with ⟨_, ranFirst⟩
  rcases twos.runs world (.refl _ _) distinct with ⟨_, ranSecond⟩
  rcases ones.runs_after twos apart distinct with ⟨_, ranAfterFirst⟩
  rcases twos.runs_after ones apart.symm distinct with ⟨_, ranAfterSecond⟩
  constructor
  · rw [ranAfterFirst, ranAfterSecond]
    exact MemoryStore.commit?_comm distinct ones.drafts twos.drafts apart
  · rw [ranAfterSecond, ranFirst]
  · rw [ranAfterFirst, ranSecond]
  · intro id
    rw [ranAfterFirst, ranAfterSecond, List.filter_append,
      Event.filter_append_comm Event.authorisation? ids
        (fun event member => (ones.concerns_events event member).authorisation)
        (fun event member => (twos.concerns_events event member).authorisation),
      ← List.filter_append]
  · intro parent
    rw [ranAfterFirst, ranAfterSecond, List.filter_append,
      Event.filter_append_comm Event.parent? apart
        (fun event member => (ones.concerns_events event member).parent)
        (fun event member => (twos.concerns_events event member).parent),
      ← List.filter_append]

end Undertaking.Confines

/-- Two operations on authorisations of different resources come to the same in either order, if
the bank answers each of them by its own calls. -/
theorem Deployment.operations_commute (deployment : Deployment) (moves : List Move)
    {first second : Step} {left right : Authorisation} {firstBank secondBank : Bank}
    (firstQuiet : firstBank.Quiet) (secondQuiet : secondBank.Quiet)
    (worksLeft : first.operation.subject? = some left.id)
    (worksRight : second.operation.subject? = some right.id)
    (foundLeft : (deployment.play moves (.fresh .empty)).store.record? left.id = some left)
    (foundRight : (deployment.play moves (.fresh .empty)).store.record? right.id = some right)
    (apart : left.parent ≠ right.parent) :
    let world := deployment.play moves (.fresh .empty)
    let one := deployment.node.performAlone firstBank first
    let two := deployment.node.performAlone secondBank second
    Commute one two world ∧ Leaves one left world ∧ Leaves two right world := by
  intro world one two
  have distinct : world.store.Distinct := deployment.distinct_play moves
  rcases parent_of_record? foundLeft with ⟨leftResource, presentLeft⟩
  rcases parent_of_record? foundRight with ⟨rightResource, presentRight⟩
  rcases deployment.node.performAlone_confined firstQuiet worksLeft foundLeft presentLeft
    with ⟨lefts, confinesLeft⟩
  rcases deployment.node.performAlone_confined secondQuiet worksRight foundRight presentRight
    with ⟨rights, confinesRight⟩
  have differ : left.id ≠ right.id := by
    intro same
    rw [same, foundRight] at foundLeft
    exact apart (congrArg Authorisation.parent (Option.some.inj foundLeft)).symm
  exact ⟨confinesLeft.commute confinesRight differ apart distinct, confinesLeft.leaves distinct,
    confinesRight.leaves distinct⟩

/-- Two payments with an authorisation each. -/
def twoPayments : List Step :=
  let payment (id : String) : Resource :=
    ⟨id, .payment, .payment .received, false, true, false, [], .epoch⟩
  [.register (payment "rent"), .register (payment "loan"),
    .start "first" "rent" none (some .embedded),
    .start "second" "loan" none (some .embedded)].map fun operation => ⟨operation, .epoch⟩

theorem payment_commutes_with_expiry :
    let deployment := Deployment.simulated .standard
    let bank := SimulatedBank.standard.toBank
    let world := deployment.play (twoPayments.map .operate) (.fresh .empty)
    let anna : Psu := ⟨some "anna", none, none, none, none⟩
    let later : Time.Timestamp := ⟨30000, 700, by decide, by decide, by decide, by decide⟩
    let request : Step := ⟨.update "first" ⟨some anna, some "secret", none, none, none⟩, .epoch⟩
    let question : Step := ⟨.status "second", later⟩
    let one := deployment.node.performAlone bank request
    let two := deployment.node.performAlone bank question
    (two (one world).2).2.store = (one (two world).2).2.store ∧
      (two (one world).2).2.store.records.map (fun record => (record.id, record.status)) =
        [("first", .finalised), ("second", .failed)] ∧
      (two (one world).2).2.store.resources.map (fun resource => (resource.id, resource.status)) =
        [("rent", .payment .settling), ("loan", .payment .rejected)] ∧
      (two (one world).2).2.events.filter (·.parent? == some "loan") =
        (one (two world).2).2.events.filter (·.parent? == some "loan") := by
  intro deployment bank world anna later request question one two
  have quiet : bank.Quiet := SimulatedBank.standard.quiet
  have parents : (world.store.record? "first").map (·.parent) = some "rent" ∧
      (world.store.record? "second").map (·.parent) = some "loan" := by decide +kernel
  rcases Option.map_eq_some_iff.mp parents.1 with ⟨left, foundLeft, leftParent⟩
  rcases Option.map_eq_some_iff.mp parents.2 with ⟨right, foundRight, rightParent⟩
  have leftId : left.id = "first" := (MemoryStore.mem_of_record? foundLeft).2
  have rightId : right.id = "second" := (MemoryStore.mem_of_record? foundRight).2
  have worksLeft : request.operation.subject? = some left.id := by rw [leftId]; rfl
  have worksRight : question.operation.subject? = some right.id := by rw [rightId]; rfl
  have apart : left.parent ≠ right.parent := by
    rw [leftParent, rightParent]
    decide
  rw [← leftId] at foundLeft
  rw [← rightId] at foundRight
  have commute : Commute one two world :=
    (deployment.operations_commute (twoPayments.map .operate) quiet quiet worksLeft worksRight
      foundLeft foundRight apart).1
  exact ⟨commute.store, by decide +kernel, by decide +kernel, commute.ofParent "loan"⟩

end StrongAuth
