import Mathlib.Data.List.Forall2
import StrongAuth.Proofs.History
import StrongAuth.Proofs.Run
import StrongAuth.Proofs.Secrecy

/-! # Two runs

Updates whose requests differ in a password or in a code, run side by side. Main statement: they
leave the same store, answers and events, if the bank answers both alike; a confirmation code of
the bank shows only in its hash. -/

namespace StrongAuth

theorem Node.runAction_load_eq {σ : Type} [Store σ] (partner : Partner) (id : String)
    (world : World σ) :
    world.runAction partner (Node.load id) =
      (match Store.get id world.store with
        | .ok (some record) => .ok record
        | .ok none => .error (.refused (.authorisationUnknown id))
        | .error fault => .error (.faulted (.storage fault)), world) := by
  unfold Node.load Action.call
  rw [World.runAction_bind, World.runAction_bind, World.runAction_perform]
  simp only [World.perform, Store.perform]
  rcases Store.get id world.store with fault | _ | record
  · rfl
  · rfl
  · rfl

/-- Two runs to compare: what each of them is asked for, its bank, and the exchanges before both. -/
structure Comparison (node : Node) where
  left : Request
  right : Request
  requests : left.Alike node right
  past : List Exchange
  bank : Bank
  other : Bank
  banks : Bank.Alike left right past bank other

namespace Comparison

variable {node : Node} {σ α β : Type}

def one (runs : Comparison node) : Partner :=
  ⟨runs.bank, node.bankLimit⟩

def two (runs : Comparison node) : Partner :=
  ⟨runs.other, node.bankLimit⟩

/-- Both worlds are the same up to passwords and codes in what was exchanged with the bank. -/
structure Resembles (runs : Comparison node) (here there : World σ) : Prop where
  store : there.store = here.store
  events : there.events = here.events
  locks : there.locks = here.locks
  exchanges : ∃ earlier later, here.exchanges = runs.past ++ earlier ∧
    there.exchanges = runs.past ++ later ∧
    List.Forall₂ (Exchange.Alike runs.left runs.right) earlier later

/-- Both runs end in the same result, and in worlds that are the same up to passwords and codes. -/
structure Indistinct (runs : Comparison node) (here there : α × World σ) : Prop where
  result : there.1 = here.1
  world : runs.Resembles here.2 there.2

/-- Run in worlds that resemble each other, both actions come to the same. -/
def Agree (runs : Comparison node) (σ : Type) [Store σ] (first second : Action α) : Prop :=
  ∀ here there : World σ, runs.Resembles here there →
    runs.Indistinct (here.runAction runs.one first) (there.runAction runs.two second)

variable [Store σ] {runs : Comparison node} {here there : World σ}

theorem Resembles.dialogue (worlds : runs.Resembles here there) {first second : Dialogue α}
    (alike : first.Alike runs.left runs.right second) :
    runs.Indistinct (here.hold runs.one first) (there.hold runs.two second) := by
  unfold World.hold
  induction alike generalizing here there with
  | done value => exact ⟨rfl, worlds⟩
  | @ask query other psu resource bankData next otherNext queries goesOn induction =>
      rcases worlds.exchanges with ⟨earlier, later, before, after, exchanged⟩
      have replies := runs.banks earlier later exchanged query other queries psu resource bankData
      rw [← before, ← after] at replies
      rcases replies with ⟨interference, delay, answers⟩
      have last : Exchange.Alike runs.left runs.right
          ⟨⟨query, psu, resource, bankData⟩, (here.consult runs.one _).1⟩
          ⟨⟨other, psu, resource, bankData⟩, (there.consult runs.two _).1⟩ := by
        unfold World.consult
        dsimp only [one, two]
        rw [delay]
        exact answers.within _ _
      refine induction _ _ last ⟨?_, worlds.events, worlds.locks, ?_⟩
      · change List.foldl _ there.store _ = List.foldl _ here.store _
        dsimp only [one, two]
        rw [interference, worlds.store]
      · refine ⟨earlier ++ [_], later ++ [_], ?_, ?_, List.rel_append exchanged (.cons last .nil)⟩
        · rw [← List.append_assoc, ← before]
          rfl
        · rw [← List.append_assoc, ← after]
          rfl

namespace Agree

variable {first second : Action α} {next otherNext : α → Action β}

theorem pure (value : α) : runs.Agree σ (Pure.pure value) (Pure.pure value) :=
  fun _ _ worlds => ⟨rfl, worlds⟩

theorem throw (failure : Failure) :
    runs.Agree σ (MonadExcept.throw failure : Action α) (MonadExcept.throw failure) :=
  fun _ _ worlds => ⟨rfl, worlds⟩

theorem bind (agree : runs.Agree σ first second)
    (goesOn : ∀ value, runs.Agree σ (next value) (otherNext value)) :
    runs.Agree σ (first >>= next) (second >>= otherNext) := by
  intro here there worlds
  have ran := agree here there worlds
  rw [World.runAction_bind, World.runAction_bind]
  generalize World.runAction runs.one first here = ending at ran
  generalize World.runAction runs.two second there = other at ran
  rcases ending with ⟨_, here⟩
  rcases other with ⟨answer, there⟩
  rcases ran with ⟨rfl, later⟩
  cases answer with
  | error failure => exact ⟨rfl, later⟩
  | ok value => exact goesOn value here there later

theorem refuse_bind (refusal : Refusal) :
    runs.Agree σ (Action.refuse refusal >>= next) (Action.refuse refusal >>= otherNext) :=
  fun _ _ worlds => ⟨rfl, worlds⟩

theorem store (call : StoreCall) :
    runs.Agree σ (Action.perform (.store call)) (Action.perform (.store call)) := by
  intro here there worlds
  rw [World.runAction_perform, World.runAction_perform]
  simp only [World.perform, worlds.store]
  exact ⟨rfl, rfl, worlds.events, worlds.locks, worlds.exchanges⟩

theorem call (call : StoreCall) : runs.Agree σ (Action.call call) (Action.call call) := by
  unfold Action.call
  refine .bind (.store call) fun answer => ?_
  cases answer with
  | ok value => exact .pure value
  | error fault => exact .throw _

theorem publish (event : Event) : runs.Agree σ (Action.publish event) (Action.publish event) := by
  intro here there worlds
  refine ⟨rfl, worlds.store, ?_, worlds.locks, worlds.exchanges⟩
  exact congrArg (· ++ [event]) worlds.events

theorem converse {first second : Dialogue α} (alike : first.Alike runs.left runs.right second) :
    runs.Agree σ (Action.converse first) (Action.converse second) := by
  intro here there worlds
  have talks := worlds.dialogue alike
  unfold Action.converse
  rw [World.runAction_lift, World.runAction_lift]
  exact ⟨congrArg Except.ok talks.result, talks.world⟩

end Agree

theorem Resembles.withLock (worlds : runs.Resembles here there) {first second : Action α}
    (holds : ∀ locks, runs.Indistinct (World.runAction runs.one first { here with locks })
      (World.runAction runs.two second { there with locks })) (id : String) :
    runs.Indistinct (here.runAction runs.one (Action.withLock id first))
      (there.runAction runs.two (Action.withLock id second)) := by
  rw [World.runAction_withLock_eq, World.runAction_withLock_eq, worlds.locks]
  have inner := holds ((here.locks.obtain id).2.take (here.locks.obtain id).1)
  refine ⟨inner.result, inner.world.store, inner.world.events, ?_, inner.world.exchanges⟩
  dsimp only
  rw [inner.world.locks]

theorem Indistinct.attempt {first second : Action α}
    (ran : runs.Indistinct (here.runAction runs.one first) (there.runAction runs.two second))
    {next otherNext : Except Failure α → Action β}
    (goesOn : ∀ answer, runs.Agree σ (next answer) (otherNext answer)) :
    runs.Indistinct (here.runAction runs.one (ExceptT.lift first.run >>= next))
      (there.runAction runs.two (ExceptT.lift second.run >>= otherNext)) := by
  rw [World.runAction_bind, World.runAction_bind, World.runAction_lift, World.runAction_lift]
  change runs.Indistinct (World.runAction _ _ (World.runAction _ first here).2)
    (World.runAction _ _ (World.runAction _ second there).2)
  rw [show (World.run _ second.run there).1 = _ from ran.result]
  exact goesOn _ _ _ ran.world

/-! ## Updates -/

open StrongAuth.Action Node

theorem agree_persist (record : Authorisation) (now : Time.Timestamp) :
    runs.Agree σ (persist record now) (persist record now) := by
  unfold persist
  refine .bind (.store _) fun answer => ?_
  cases answer with
  | ok saved => exact .pure saved
  | error fault => cases fault <;> exact .throw _

theorem agree_publishChange (record : Authorisation) (earlier : Status) :
    runs.Agree σ (publishChange record earlier) (publishChange record earlier) := by
  unfold publishChange
  split
  · exact .pure ()
  · exact .publish _

theorem agree_projectParent (parent : String) :
    runs.Agree σ (projectParent parent) (projectParent parent) := by
  unfold projectParent
  refine .bind (.call _) fun answer => ?_
  cases answer with
  | none => exact .throw _
  | some resource =>
      refine .bind (.call _) fun records => ?_
      cases resource.derive? (records.map (·.status)) with
      | none => exact .pure none
      | some status =>
          exact .bind (.call _) fun _ => .bind (.publish _) fun _ => .pure _

theorem agree_expire (record : Authorisation) (now : Time.Timestamp) :
    runs.Agree σ (expire record now) (expire record now) :=
  .bind (agree_persist _ now) fun saved => .bind (.publish _) fun _ =>
    .bind (agree_publishChange saved _) fun _ => .bind (agree_projectParent _) fun _ => .pure saved

theorem agree_conclude (earlier : Status) (verdict : Stage.Verdict) (now : Time.Timestamp) :
    runs.Agree σ (node.conclude earlier verdict now) (node.conclude earlier verdict now) := by
  unfold conclude
  cases verdict.outcome with
  | advance status =>
      dsimp only
      cases Status.check node.policy.exemption earlier status with
      | error refused => exact .throw _
      | ok accepted =>
          refine .bind (agree_persist _ now) fun saved =>
            .bind (agree_publishChange saved earlier) fun _ => ?_
          split
          · exact .bind (agree_projectParent _) fun _ => .pure _
          · exact .pure _
  | refuse refusal => exact .throw _
  | retry refusal => exact .bind (agree_persist _ now) fun _ => .throw _
  | fail refusal =>
      exact .bind (agree_persist _ now) fun saved =>
        .bind (agree_publishChange saved earlier) fun _ =>
          .bind (agree_projectParent _) fun _ => .throw _

theorem agree_checked {record : Authorisation} (codes : runs.left.SameMatch runs.right record)
    (resource : Resource) (siblings : List Authorisation) (now : Time.Timestamp) :
    runs.Agree σ
      (do
        if let some refusal := Check.firstObjection node.checks
            ⟨runs.left, record, resource, siblings⟩ then
          refuse refusal
        let verdict ← Action.converse (Stage.handle record.status
          ⟨runs.left, resource, .ofApproach record.approach, node.policy⟩ record)
        node.conclude record.status verdict now)
      (do
        if let some refusal := Check.firstObjection node.checks
            ⟨runs.right, record, resource, siblings⟩ then
          refuse refusal
        let verdict ← Action.converse (Stage.handle record.status
          ⟨runs.right, resource, .ofApproach record.approach, node.policy⟩ record)
        node.conclude record.status verdict now) := by
  rw [runs.requests.firstObjection]
  cases Check.firstObjection node.checks ⟨runs.left, record, resource, siblings⟩ with
  | some refusal => exact .refuse_bind _
  | none => exact .bind (.converse (Stage.handle_alike runs.requests codes)) fun verdict =>
      agree_conclude _ verdict now

theorem Resembles.load {next otherNext : Authorisation → Action α} (id : String)
    (worlds : runs.Resembles here there)
    (goesOn : ∀ record, Store.get id here.store = .ok (some record) →
      runs.Agree σ (next record) (otherNext record)) :
    runs.Indistinct (here.runAction runs.one (load id >>= next))
      (there.runAction runs.two (load id >>= otherNext)) := by
  rw [World.runAction_bind, World.runAction_bind, runAction_load_eq, runAction_load_eq,
    worlds.store]
  rcases found : Store.get id here.store with fault | _ | record
  · exact ⟨rfl, worlds⟩
  · exact ⟨rfl, worlds⟩
  · exact goesOn record found here there worlds

/-- Both requests are processed alike. The codes matter only against the authorisation that is in
the store at the beginning. -/
theorem Resembles.process (worlds : runs.Resembles here there) (id : String)
    (now : Time.Timestamp)
    (codes : ∀ record, Store.get id here.store = .ok (some record) →
      runs.left.SameMatch runs.right record) :
    runs.Indistinct (here.runAction runs.one (node.process id runs.left now))
      (there.runAction runs.two (node.process id runs.right now)) := by
  unfold Node.process
  refine worlds.load id fun record stored => ?_
  cases record.status.isTerminal with
  | true => exact .refuse_bind _
  | false =>
      cases record.isExpired now with
      | true => exact .bind (agree_expire record now) fun _ => .refuse_bind _
      | false =>
          refine .bind (.call _) fun answer => ?_
          cases answer with
          | none => exact .throw _
          | some resource =>
              dsimp only
              split
              · exact .bind (.call _) fun siblings =>
                  agree_checked (codes record stored) resource siblings now
              · exact agree_checked (codes record stored) resource [] now

theorem Resembles.update (worlds : runs.Resembles here there) (id : String)
    (now : Time.Timestamp)
    (codes : ∀ record, Store.get id here.store = .ok (some record) →
      runs.left.SameMatch runs.right record) :
    runs.Indistinct (here.runAction runs.one (node.update id runs.left now))
      (there.runAction runs.two (node.update id runs.right now)) := by
  unfold Node.update
  refine .attempt (worlds.withLock (fun locks => ?_) id) fun answer => ?_
  · have locked : runs.Resembles { here with locks } { there with locks } :=
      ⟨worlds.store, worlds.events, rfl, worlds.exchanges⟩
    exact locked.process id now codes
  · rcases answer with (refusal | fault) | response
    · exact .bind (.publish _) fun _ => .throw _
    · exact .throw _
    · exact .pure _

end Comparison

/-- The text of a password or of a code leaves no trace. Updates of the same state whose requests
differ only in such texts give the same answer or the same error and leave the same store,
events and locks, if the banks answer alike; of a confirmation code that a bank grants, only
the hash matters. -/
theorem Deployment.secrets_leave_no_trace {σ : Type} [Store σ] {node : Node} {world : World σ}
    {left right : Request} {one two : Bank} (requests : left.Alike node right)
    (banks : Bank.Alike left right world.exchanges one two) (id : String) (now : Time.Timestamp)
    (codes : ∀ record, Store.get id world.store = .ok (some record) →
      left.SameMatch right record) :
    let first := Deployment.perform ⟨node, one⟩ ⟨.update id left, now⟩ world
    let second := Deployment.perform ⟨node, two⟩ ⟨.update id right, now⟩ world
    second.1 = first.1 ∧ second.2.store = first.2.store ∧ second.2.events = first.2.events ∧
      second.2.locks = first.2.locks := by
  let runs : Comparison node := ⟨left, right, requests, world.exchanges, one, two, banks⟩
  have start : runs.Resembles world world :=
    ⟨rfl, rfl, rfl, [], [], (List.append_nil _).symm, (List.append_nil _).symm, .nil⟩
  have same := start.update id now codes
  exact ⟨same.result, same.world.store, same.world.events, same.world.locks⟩

/-- The standard node lets texts pass that are not blank and not too long. -/
theorem Node.standard_passes {field : TextField} {limit : FormatLimits → Nat} {text : String}
    (given : Text.blank text = false) (short : text.length ≤ limit .standard) :
    Node.standard.Passes field limit text := by
  refine ⟨given, ?_⟩
  intro limits checked
  have same : limits = .standard := by
    simpa [Node.standard, Check.standard] using checked
  subst same
  simp only [FormatLimits.checkField, given, Nat.not_lt.mpr short, if_false, Bool.false_eq_true]

/-- A payment whose authorisation waits for a confirmation code of the bank. -/
def challengedSteps : List Step :=
  let anna : Psu := ⟨some "anna", none, none, none, none⟩
  [.register ⟨"rent", .payment, .payment .received, false, false, false, [], .epoch⟩,
    .start "first" "rent" (some anna) (some .embedded),
    .update "first" ⟨none, some "secret", none, none, none⟩].map fun operation =>
      ⟨operation, .epoch⟩

theorem wrong_codes_leave_no_trace :
    let bank : SimulatedBank := { SimulatedBank.standard with confirmationCode := some "314159" }
    let deployment : Deployment := ⟨.standard, bank.toBank⟩
    let world := (deployment.run challengedSteps (.fresh MemoryStore.empty)).2
    let guess : Request := ⟨none, some "password", none, some "000000", none⟩
    let other : Request := ⟨none, some "letmein", none, some "271828", none⟩
    let first := deployment.perform ⟨.update "first" guess, .epoch⟩ world
    let second := deployment.perform ⟨.update "first" other, .epoch⟩ world
    (world.store.record? "first").map (·.codeHash) = some (some (codeHash "314159")) ∧
      first.2.store.records.map (·.status) = [.failed] ∧ second.1 = first.1 ∧
      second.2.store = first.2.store ∧ second.2.events = first.2.events ∧
      second.2.locks = first.2.locks := by
  intro bank deployment world guess other first second
  have kept : (world.store.record? "first").map (·.codeHash) =
      some (some (codeHash "314159")) := by decide +kernel
  have requests : guess.Alike Node.standard other :=
    ⟨rfl, .passing (Node.standard_passes rfl (by decide)) (Node.standard_passes rfl (by decide)),
      .passing (Node.standard_passes rfl (by decide)) (Node.standard_passes rfl (by decide))⟩
  have banks : Bank.Alike guess other world.exchanges bank.toBank bank.toBank :=
    SimulatedBank.alike bank
      (by rintro _ ⟨⟩ _ ⟨⟩; decide) (by rintro _ ⟨⟩ _ ⟨⟩; decide) _
  have wrong : codeHash "000000" ≠ codeHash "314159" ∧ codeHash "271828" ≠ codeHash "314159" := by
    decide +kernel
  have codes : ∀ record, Store.get "first" world.store = .ok (some record) →
      guess.SameMatch other record := by
    intro record found hash expected _ given _ text
    have stored : world.store.record? "first" = some record := Except.ok.inj found
    rw [stored] at kept
    have hashed : record.codeHash = some (codeHash "314159") := Option.some.inj kept
    cases given
    cases text
    rw [Option.some.inj (expected.symm.trans hashed)]
    exact ⟨fun hit => absurd hit wrong.1, fun hit => absurd hit wrong.2⟩
  have same := Deployment.secrets_leave_no_trace requests banks "first" .epoch codes
  refine ⟨kept, by decide +kernel, ?_⟩
  subst first second deployment
  exact same

end StrongAuth
