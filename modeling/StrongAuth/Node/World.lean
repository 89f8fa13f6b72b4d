import StrongAuth.Node.Effect
import StrongAuth.Node.Locks

/-! # The world of a node

What effects do if one procedure runs at a time: the store changes, the bank replies
after all exchanges before, events and exchanges are recorded in their order. -/

namespace StrongAuth

/-- The state of everything around a node. -/
structure World (σ : Type) where
  store : σ
  /-- All exchanges with the bank, the earliest first. -/
  exchanges : List Exchange
  /-- All published events, the earliest first. -/
  events : List Event
  locks : Locks

structure Partner where
  bank : Bank
  limit : Time.Span

namespace World

variable {σ : Type}

def fresh (store : σ) : World σ :=
  ⟨store, [], [], .none⟩

variable [Store σ]

/-- Calls the bank. What other users of the store do in the meantime has happened even if the
call takes too long. -/
def consult (partner : Partner) (world : World σ) (call : BankCall) : call.Answer × World σ :=
  let reply := partner.bank world.exchanges call
  let answer := BankFault.within (Vocabulary.word call.query.task) partner.limit reply.delay
    reply.answer
  (answer, { world with
    store := reply.interference.foldl Store.interfere world.store
    exchanges := world.exchanges ++ [⟨call, answer⟩] })

/-- Performs an effect. A lock is always free, since no other procedure runs. -/
def perform (partner : Partner) (world : World σ) : (effect : Effect) → effect.Answer × World σ
  | .store call =>
      let (answer, store) := Store.perform world.store call
      (answer, { world with store })
  | .bank call => world.consult partner call
  | .publish event => ((), { world with events := world.events ++ [event] })
  | .obtain id =>
      let (lock, locks) := world.locks.obtain id
      (lock, { world with locks })
  | .take lock => ((), { world with locks := world.locks.take lock })
  | .free lock => ((), { world with locks := world.locks.free lock })
  | .giveBack id lock => ((), { world with locks := world.locks.giveBack id lock })

def run {α : Type} (partner : Partner) : Procedure α → World σ → α × World σ
  | .done value, world => (value, world)
  | .ask effect next, world =>
      let (answer, world) := world.perform partner effect
      run partner (next answer) world

def runAction {α : Type} (partner : Partner) (action : Action α) (world : World σ) :
    Except Failure α × World σ :=
  world.run partner action.run

def hold {α : Type} (partner : Partner) (dialogue : Dialogue α) (world : World σ) :
    α × World σ :=
  world.run partner (dialogue.translate fun call => Interaction.query (.bank call))

end World

end StrongAuth
