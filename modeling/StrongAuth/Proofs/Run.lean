import StrongAuth.Node.World

/-! # Runs of procedures

How a world runs a procedure that is put together from parts: one law for each way in
which procedures and actions are built. -/

namespace StrongAuth

namespace World

variable {σ : Type} [Store σ] {α β : Type} (partner : Partner)

@[simp] theorem run_done (value : α) (world : World σ) :
    world.run partner (.done value) = (value, world) := rfl

@[simp] theorem run_pure (value : α) (world : World σ) :
    world.run partner (pure value) = (value, world) := rfl

@[simp] theorem run_ask (effect : Effect) (next : effect.Answer → Procedure α)
    (world : World σ) :
    world.run partner (.ask effect next) =
      (world.perform partner effect).2.run partner
        (next (world.perform partner effect).1) := rfl

@[simp] theorem run_bind (first : Procedure α) (second : α → Procedure β)
    (world : World σ) :
    world.run partner (first >>= second) =
      (world.run partner first).2.run partner (second (world.run partner first).1) := by
  induction first generalizing world with
  | done value => rfl
  | ask effect next induction =>
      rw [Interaction.ask_bind, run_ask, run_ask]
      exact induction _ _

/-! ## Actions -/

@[simp] theorem runAction_pure (value : α) (world : World σ) :
    world.runAction partner (pure value) = (.ok value, world) := rfl

@[simp] theorem runAction_throw (failure : Failure) (world : World σ) :
    world.runAction partner (throw failure : Action α) = (.error failure, world) := rfl

@[simp] theorem runAction_refuse (refusal : Refusal) (world : World σ) :
    world.runAction partner (Action.refuse refusal : Action α) =
      (.error (.refused refusal), world) := rfl

@[simp] theorem runAction_fault (fault : Fault) (world : World σ) :
    world.runAction partner (Action.fault fault : Action α) =
      (.error (.faulted fault), world) := rfl

@[simp] theorem runAction_lift (procedure : Procedure α) (world : World σ) :
    world.runAction partner (ExceptT.lift procedure) =
      (.ok (world.run partner procedure).1, (world.run partner procedure).2) := by
  change world.run partner (procedure >>= fun value => pure (Except.ok value)) = _
  rw [run_bind]
  rfl

@[simp] theorem runAction_perform (effect : Effect) (world : World σ) :
    world.runAction partner (Action.perform effect) =
      (.ok (world.perform partner effect).1, (world.perform partner effect).2) :=
  runAction_lift partner (Interaction.query effect) world

@[simp] theorem runAction_publish (event : Event) (world : World σ) :
    world.runAction partner (Action.publish event) =
      (.ok (), { world with events := world.events ++ [event] }) := rfl

theorem runAction_answer (answer : Except Failure α) (world : World σ) :
    world.runAction partner (match answer with
      | .ok value => pure value
      | .error failure => throw failure) = (answer, world) := by
  cases answer with
  | ok value => rfl
  | error failure => rfl

theorem runAction_bind (first : Action α) (second : α → Action β) (world : World σ) :
    world.runAction partner (first >>= second) =
      match world.runAction partner first with
      | (.ok value, later) => later.runAction partner (second value)
      | (.error failure, later) => (.error failure, later) := by
  change world.run partner (first.run >>= _) = _
  rw [run_bind]
  unfold runAction
  rcases world.run partner first.run with ⟨answer, later⟩
  cases answer with
  | ok value => rfl
  | error failure => rfl

theorem runAction_bind_of_ok {first : Action α} {value : α} {world later : World σ}
    (holds : world.runAction partner first = (.ok value, later))
    (second : α → Action β) :
    world.runAction partner (first >>= second) = later.runAction partner (second value) := by
  rw [runAction_bind, holds]

theorem runAction_bind_of_error {first : Action α} {failure : Failure}
    {world later : World σ}
    (holds : world.runAction partner first = (.error failure, later))
    (second : α → Action β) :
    world.runAction partner (first >>= second) = (.error failure, later) := by
  rw [runAction_bind, holds]

theorem runAction_withLock_eq (id : String) (action : Action α) (world : World σ) :
    let handle := world.locks.obtain id
    let after := runAction partner action { world with locks := handle.2.take handle.1 }
    world.runAction partner (Action.withLock id action) =
      (after.1, { after.2 with
        locks := (after.2.locks.free handle.1).giveBack id handle.1 }) := by
  unfold Action.withLock
  rw [runAction_bind, runAction_perform]
  dsimp only
  rw [runAction_bind, runAction_perform]
  dsimp only
  rw [runAction_bind, runAction_lift]
  dsimp only
  rw [runAction_bind, runAction_perform]
  dsimp only
  rw [runAction_bind, runAction_perform]
  exact runAction_answer partner _ _

end World

end StrongAuth
