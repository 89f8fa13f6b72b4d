/-! # Interactions

A program that asks its surroundings and goes on with the answers, as a value: who
answers, and what else happens meanwhile, is left open. The type of an answer
depends on the query. Main statement: interactions are a lawful monad. -/

namespace StrongAuth

/-- Ends with a value, or asks a query and goes on with its answer. -/
inductive Interaction (Query : Type) (Answer : Query → Type) (α : Type)
  | done (value : α)
  | ask (query : Query) (next : Answer query → Interaction Query Answer α)

namespace Interaction

variable {Query : Type} {Answer : Query → Type} {α β γ : Type}

/-- Goes on with a second interaction where the first one ends. -/
def andThen (first : Interaction Query Answer α)
    (second : α → Interaction Query Answer β) : Interaction Query Answer β :=
  match first with
  | .done value => second value
  | .ask query next => .ask query fun answer => (next answer).andThen second

instance : Monad (Interaction Query Answer) where
  pure := .done
  bind := andThen

def query (query : Query) : Interaction Query Answer (Answer query) :=
  .ask query .done

@[simp] theorem done_bind (value : α) (second : α → Interaction Query Answer β) :
    Interaction.done value >>= second = second value := rfl

@[simp] theorem ask_bind (query : Query) (next : Answer query → Interaction Query Answer α)
    (second : α → Interaction Query Answer β) :
    Interaction.ask query next >>= second = .ask query fun answer => next answer >>= second :=
  rfl

private theorem bind_done (first : Interaction Query Answer α) :
    first >>= Interaction.done = first := by
  induction first with
  | done value => rfl
  | ask query next induction =>
      rw [ask_bind]
      exact congrArg _ (funext induction)

private theorem bind_bind (first : Interaction Query Answer α)
    (second : α → Interaction Query Answer β) (third : β → Interaction Query Answer γ) :
    first >>= second >>= third = first >>= fun value => second value >>= third := by
  induction first with
  | done value => rfl
  | ask query next induction =>
      rw [ask_bind, ask_bind, ask_bind]
      exact congrArg _ (funext induction)

instance : LawfulMonad (Interaction Query Answer) :=
  LawfulMonad.mk' _ (fun first => bind_done first) (fun _ _ => rfl) bind_bind

/-- Asks every query through another interaction. -/
def translate {Outer : Type} {Reply : Outer → Type}
    (ask : (query : Query) → Interaction Outer Reply (Answer query)) :
    Interaction Query Answer α → Interaction Outer Reply α
  | .done value => .done value
  | .ask query next => (ask query).andThen fun answer => (next answer).translate ask

end Interaction

end StrongAuth
