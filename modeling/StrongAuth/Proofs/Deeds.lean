import StrongAuth.Proofs.Procedures

/-! # Deeds

A deed is an effect in the world in which it is performed. What a procedure keeps to is said
without regard to what others do between its deeds: each of them may find any world at all.
Main statements: one law for each way in which actions are built, and that everything kept to
holds of the deeds of every run, of one that is left alone as of one that is disturbed. -/

namespace StrongAuth

/-- An effect in the world in which it is performed. -/
structure Deed where
  world : World MemoryStore
  effect : Effect

namespace Procedure

variable {α β : Type} (partner : Partner)

/-- The procedure can do some deeds, in whatever worlds it comes to them, and end with a
value. -/
def Does : Procedure α → List Deed → α → Prop
  | .done result, deeds, value => deeds = [] ∧ value = result
  | .ask effect next, deeds, value => ∃ (world : World MemoryStore) (rest : List Deed),
      deeds = ⟨world, effect⟩ :: rest ∧ Does (next (world.perform partner effect).1) rest value

/-- In whatever worlds the procedure comes to its effects, each of them is permitted after the
deeds before it, and the end is as required. -/
def Keeps (permitted : List Deed → Effect → Prop) :
    Procedure α → List Deed → (List Deed → α → Prop) → Prop
  | .done value, past, required => required past value
  | .ask effect next, past, required => permitted past effect ∧
      ∀ world : World MemoryStore, Keeps permitted (next (world.perform partner effect).1)
        (past ++ [⟨world, effect⟩]) required

variable {partner} {permitted : List Deed → Effect → Prop} {past : List Deed}

theorem keeps_bind (first : Procedure α) (second : α → Procedure β)
    (required : List Deed → β → Prop) :
    Keeps partner permitted (first >>= second) past required ↔
      Keeps partner permitted first past fun past value =>
        Keeps partner permitted (second value) past required := by
  induction first generalizing past with
  | done value => rfl
  | ask effect next induction =>
      rw [Interaction.ask_bind]
      exact and_congr_right fun _ => forall_congr' fun world => induction _

namespace Keeps

variable {procedure : Procedure α} {required : List Deed → α → Prop}

theorem mono {weaker : List Deed → α → Prop} {lenient : List Deed → Effect → Prop}
    (keeps : Keeps partner permitted procedure past required)
    (permits : ∀ past effect, permitted past effect → lenient past effect)
    (implies : ∀ deeds value, required deeds value → weaker deeds value) :
    Keeps partner lenient procedure past weaker := by
  induction procedure generalizing past with
  | done value => exact implies past value keeps
  | ask effect next induction =>
      refine ⟨permits past effect keeps.1, ?_⟩
      intro world
      exact induction _ (keeps.2 world)

theorem of_does (keeps : Keeps partner permitted procedure past required) {deeds : List Deed}
    {value : α} (does : Does partner procedure deeds value) : required (past ++ deeds) value := by
  induction procedure generalizing past deeds with
  | done result =>
      rcases does with ⟨rfl, rfl⟩
      rw [List.append_nil]
      exact keeps
  | ask effect next induction =>
      rcases does with ⟨world, rest, rfl, does⟩
      rw [List.append_cons]
      exact induction _ (keeps.2 world) does

end Keeps

end Procedure

/-! ## Actions -/

namespace Action

variable {α β : Type}

/-- An action keeps to what is permitted, and its end is as required if it is done or refused.
Nothing is required of a fault. -/
def Keeps (partner : Partner) (permitted : List Deed → Effect → Prop) (action : Action α)
    (past : List Deed) (done : List Deed → α → Prop) (refused : List Deed → Refusal → Prop) :
    Prop :=
  Procedure.Keeps partner permitted action.run past fun deeds answer => match answer with
    | .ok value => done deeds value
    | .error (.refused refusal) => refused deeds refusal
    | .error (.faulted _) => True

variable {partner : Partner} {permitted : List Deed → Effect → Prop} {past : List Deed}
  {done : List Deed → α → Prop} {refused : List Deed → Refusal → Prop}

theorem keeps_fault (reason : Fault) :
    Keeps partner permitted (fault reason) past done refused := trivial

theorem Keeps.mono {action : Action α} {weaklyDone : List Deed → α → Prop}
    {weaklyRefused : List Deed → Refusal → Prop}
    (keeps : Keeps partner permitted action past done refused)
    (implies : ∀ deeds value, done deeds value → weaklyDone deeds value)
    (refuses : ∀ deeds refusal, refused deeds refusal → weaklyRefused deeds refusal) :
    Keeps partner permitted action past weaklyDone weaklyRefused := by
  refine Procedure.Keeps.mono keeps (fun _ _ permits => permits) ?_
  rintro deeds (⟨refusal | fault⟩ | value) holds
  · exact refuses deeds refusal holds
  · trivial
  · exact implies deeds value holds

theorem keeps_bind (first : Action α) (second : α → Action β) (done : List Deed → β → Prop) :
    Keeps partner permitted (first >>= second) past done refused ↔
      Keeps partner permitted first past
        (fun past value => Keeps partner permitted (second value) past done refused)
        refused := by
  unfold Keeps
  change Procedure.Keeps partner permitted (first.run >>= _) past _ ↔ _
  rw [Procedure.keeps_bind]
  refine iff_of_eq (congrArg _ ?_)
  funext past answer
  rcases answer with ⟨refusal | fault⟩ | value <;> rfl

theorem keeps_lift_bind {action : Action α} {second : Except Failure α → Action β}
    {lastly : List Deed → β → Prop} {lastlyRefused : List Deed → Refusal → Prop}
    (keeps : Keeps partner permitted action past done refused)
    (goesOn : ∀ past value, done past value →
      Keeps partner permitted (second (.ok value)) past lastly lastlyRefused)
    (refuses : ∀ past refusal, refused past refusal →
      Keeps partner permitted (second (.error (.refused refusal))) past lastly lastlyRefused)
    (fails : ∀ past reason,
      Keeps partner permitted (second (.error (.faulted reason))) past lastly lastlyRefused) :
    Keeps partner permitted (ExceptT.lift action.run >>= second) past lastly
      lastlyRefused := by
  rw [keeps_bind]
  refine (Procedure.keeps_bind action.run
    (fun answer => (pure (.ok answer) : Procedure (Except Failure (Except Failure α)))) _).mpr ?_
  refine Procedure.Keeps.mono keeps (fun _ _ permits => permits) ?_
  rintro deeds (⟨refusal | fault⟩ | value) holds
  · exact refuses deeds refusal holds
  · exact fails deeds fault
  · exact goesOn deeds value holds

theorem keeps_perform {effect : Effect} {done : List Deed → effect.Answer → Prop} :
    Keeps partner permitted (perform effect) past done refused ↔
      permitted past effect ∧ ∀ world : World MemoryStore,
        done (past ++ [⟨world, effect⟩]) (world.perform partner effect).1 := Iff.rfl

@[simp] theorem keeps_publish (event : Event) {done : List Deed → Unit → Prop} :
    Keeps partner permitted (publish event) past done refused ↔
      permitted past (.publish event) ∧ ∀ world : World MemoryStore,
        done (past ++ [⟨world, .publish event⟩]) () := Iff.rfl

theorem keeps_call {call : StoreCall} {done : List Deed → call.Answer → Prop} :
    Keeps partner permitted (Action.call call) past done refused ↔
      permitted past (.store call) ∧ ∀ (world : World MemoryStore) answer,
        (Store.perform world.store call).1 = .ok answer →
          done (past ++ [⟨world, .store call⟩]) answer := by
  unfold Action.call
  rw [keeps_bind, keeps_perform]
  apply and_congr_right
  intro _
  apply forall_congr'
  intro world
  change Keeps partner permitted
    (match (Store.perform world.store call).1 with
      | .ok answer => pure answer
      | .error fault => throw (.faulted (.storage fault))) _ done refused ↔ _
  cases (Store.perform world.store call).1 with
  | error fault => exact iff_of_true trivial nofun
  | ok answer =>
      constructor
      · intro holds other same
        cases same
        exact holds
      · intro holds
        exact holds answer rfl

theorem keeps_release {id : String} {lock : Nat} (answer : Except Failure α)
    (permits : ∀ past, permitted past (.free lock) ∧ permitted past (.giveBack id lock))
    (holds : ∀ world later : World MemoryStore,
      Keeps partner permitted (match answer with
        | .ok value => pure value
        | .error failure => throw failure)
        (past ++ [⟨world, .free lock⟩, ⟨later, .giveBack id lock⟩]) done refused) :
    Keeps partner permitted (do
      perform (.free lock)
      perform (.giveBack id lock)
      match answer with
      | .ok value => return value
      | .error failure => throw failure) past done refused := by
  rw [keeps_bind, keeps_perform]
  refine ⟨(permits _).1, ?_⟩
  intro world
  rw [keeps_bind, keeps_perform]
  refine ⟨(permits _).2, ?_⟩
  intro later
  rw [List.append_assoc]
  exact holds world later

theorem keeps_withLock {id : String} {action : Action α}
    (permits : ∀ past lock, permitted past (.obtain id) ∧ permitted past (.take lock) ∧
      permitted past (.free lock) ∧ permitted past (.giveBack id lock))
    (keeps : ∀ (world later : World MemoryStore) lock,
      Keeps partner permitted action (past ++ [⟨world, .obtain id⟩, ⟨later, .take lock⟩])
        (fun deeds value => ∀ (world later : World MemoryStore),
          done (deeds ++ [⟨world, .free lock⟩, ⟨later, .giveBack id lock⟩]) value)
        (fun deeds refusal => ∀ (world later : World MemoryStore),
          refused (deeds ++ [⟨world, .free lock⟩, ⟨later, .giveBack id lock⟩]) refusal)) :
    Keeps partner permitted (withLock id action) past done refused := by
  unfold withLock
  rw [keeps_bind, keeps_perform]
  refine ⟨(permits past 0).1, ?_⟩
  intro world
  rw [keeps_bind, keeps_perform]
  refine ⟨(permits _ _).2.1, ?_⟩
  intro later
  rw [List.append_assoc]
  apply keeps_lift_bind (keeps world later _)
  · intro past value holds
    exact keeps_release (.ok value) (fun past => (permits past _).2.2) holds
  · intro past refusal holds
    exact keeps_release (.error (.refused refusal)) (fun past => (permits past _).2.2) holds
  · intro past reason
    exact keeps_release (.error (.faulted reason)) (fun past => (permits past _).2.2)
      fun _ _ => trivial

theorem keeps_converse {dialogue : Dialogue α} (permits : ∀ past call, permitted past (.bank call))
    (holds : ∀ exchanges result calls, dialogue.Yields exchanges result →
      calls.map Deed.effect = exchanges.map (fun exchange => .bank exchange.call) →
      done (past ++ calls) result) :
    Keeps partner permitted (converse dialogue) past done refused := by
  unfold converse
  refine (Procedure.keeps_bind (dialogue.translate fun call => Interaction.query (.bank call))
    (fun value => (pure (.ok value) : Procedure (Except Failure α))) _).mpr ?_
  induction dialogue generalizing past with
  | done value =>
      have ends := holds [] value [] ⟨rfl, rfl⟩ rfl
      rw [List.append_nil] at ends
      exact ends
  | ask call next induction =>
      refine ⟨permits past call, ?_⟩
      intro world
      apply induction
      intro exchanges result calls yields sameCalls
      rw [← List.append_cons]
      refine holds (⟨call, _⟩ :: exchanges) result (⟨world, .bank call⟩ :: calls)
        ⟨_, exchanges, rfl, yields⟩ ?_
      rw [List.map_cons, List.map_cons, sameCalls]

end Action

/-! ## Runs -/

namespace World

variable {α : Type} (partner : Partner)

/-- The deeds of a procedure that is left alone. -/
def deeds : Procedure α → World MemoryStore → List Deed
  | .done _, _ => []
  | .ask effect next, world => ⟨world, effect⟩ ::
      deeds (next (world.perform partner effect).1) (world.perform partner effect).2

theorem does_deeds (procedure : Procedure α) (world : World MemoryStore) :
    Procedure.Does partner procedure (world.deeds partner procedure)
      (world.run partner procedure).1 := by
  induction procedure generalizing world with
  | done value => exact ⟨rfl, rfl⟩
  | ask effect next induction => exact ⟨world, _, rfl, induction _ _⟩

/-- Some deeds lead from one world to another. Others may use the store before, between and
after them, as far as they are let. -/
inductive Passes (lets : Interference → Prop) (before : World MemoryStore) :
    List Deed → World MemoryStore → Prop
  | start : Passes lets before [] before
  | interfered {deeds : List Deed} {world : World MemoryStore} (interference : Interference)
      (allowed : lets interference) (passes : Passes lets before deeds world) :
      Passes lets before deeds { world with store := Store.interfere world.store interference }
  | performed {deeds : List Deed} {world : World MemoryStore} (effect : Effect)
      (passes : Passes lets before deeds world) :
      Passes lets before (deeds ++ [⟨world, effect⟩]) (world.perform partner effect).2

variable {partner}

theorem Passes.split {lets : Interference → Prop} {before after : World MemoryStore}
    {first rest : List Deed} {deed : Deed}
    (passes : Passes partner lets before (first ++ deed :: rest) after) :
    Passes partner lets before first deed.world ∧
      Passes partner lets (deed.world.perform partner deed.effect).2 rest after := by
  generalize same : first ++ deed :: rest = deeds at passes
  induction passes generalizing rest with
  | start => simp at same
  | interfered interference allowed passes induction =>
      rcases induction same with ⟨earlier, later⟩
      exact ⟨earlier, later.interfered interference allowed⟩
  | @performed deeds world effect passes induction =>
      rcases rest.eq_nil_or_concat with rfl | ⟨middle, last, rfl⟩
      · rcases List.append_inj' same rfl with ⟨rfl, last⟩
        cases last
        exact ⟨passes, .start⟩
      · rw [List.concat_eq_append, ← List.cons_append, ← List.append_assoc] at same
        rcases List.append_inj' same rfl with ⟨rfl, last⟩
        cases last
        rcases induction rfl with ⟨earlier, later⟩
        rw [List.concat_eq_append]
        exact ⟨earlier, later.performed effect⟩

theorem Passes.run {lets : Interference → Prop} {before world : World MemoryStore}
    {past : List Deed} (passes : Passes partner lets before past world)
    (procedure : Procedure α) :
    Passes partner lets before (past ++ world.deeds partner procedure)
      (world.run partner procedure).2 := by
  induction procedure generalizing past world with
  | done value =>
      rw [deeds, List.append_nil]
      exact passes
  | ask effect next induction =>
      rw [deeds, List.append_cons]
      exact induction _ (passes.performed effect)

end World

end StrongAuth
