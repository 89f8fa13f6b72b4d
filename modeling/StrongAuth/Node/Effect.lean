import StrongAuth.Event
import StrongAuth.Interaction
import StrongAuth.Store

/-! # Effects

Everything the node does to its surroundings, one atomic step at a time: calls to the
store and to the bank, events, and steps on the table of locks. -/

namespace StrongAuth

inductive Effect
  | store (call : StoreCall)
  | bank (call : BankCall)
  | publish (event : Event)
  /-- Get a handle of the lock of an authorisation. -/
  | obtain (id : String)
  /-- Wait until the lock is free and take it. -/
  | take (lock : Nat)
  | free (lock : Nat)
  | giveBack (id : String) (lock : Nat)

@[reducible] def Effect.Answer : Effect → Type
  | .store call => Except StoreFault call.Answer
  | .bank call => call.Answer
  | .publish _ => Unit
  | .obtain _ => Nat
  | .take _ => Unit
  | .free _ => Unit
  | .giveBack .. => Unit

/-- A course of effects that ends in a value. -/
abbrev Procedure := Interaction Effect Effect.Answer

abbrev Action := ExceptT Failure Procedure

namespace Action

def perform (effect : Effect) : Action effect.Answer :=
  ExceptT.lift (Interaction.query effect)

def refuse {α : Type} (refusal : Refusal) : Action α :=
  throw (.refused refusal)

def fault {α : Type} (fault : Fault) : Action α :=
  throw (.faulted fault)

/-- Makes a call to the store; its faults are faults of the node. -/
def call (call : StoreCall) : Action call.Answer := do
  match ← perform (.store call) with
  | .ok answer => return answer
  | .error fault => throw (.faulted (.storage fault))

def publish (event : Event) : Action Unit :=
  perform (.publish event)

def converse {α : Type} (dialogue : Dialogue α) : Action α :=
  ExceptT.lift (dialogue.translate fun call => Interaction.query (.bank call))

/-- Runs an action while no other request is busy with an authorisation. The lock is freed and
given back however the action ends. -/
def withLock {α : Type} (id : String) (action : Action α) : Action α := do
  let lock ← perform (.obtain id)
  perform (.take lock)
  let result ← ExceptT.lift action.run
  perform (.free lock)
  perform (.giveBack id lock)
  match result with
  | .ok value => return value
  | .error failure => throw failure

end Action

end StrongAuth
