import StrongAuth.Proofs.Run

/-! # Conversations with the bank

What can be said about a conversation whatever the bank answers. `Dialogue.Yields` tells
which exchanges a conversation can consist of and where it ends, `Dialogue.Ensures` what
holds of all of them. Main statement: a world holds a conversation by one of its yields,
and touches nothing but the exchanges and what others do to the store meanwhile. -/

namespace StrongAuth

namespace Dialogue

variable {α : Type}

/-- The conversation can consist of some exchanges and end in a result. -/
def Yields : Dialogue α → List Exchange → α → Prop
  | .done value, exchanges, result => exchanges = [] ∧ result = value
  | .ask call next, exchanges, result => ∃ answer rest,
      exchanges = ⟨call, answer⟩ :: rest ∧ Yields (next answer) rest result

/-- Whatever the bank answers, the exchanges and the result are as required. -/
def Ensures : Dialogue α → (List Exchange → α → Prop) → Prop
  | .done value, required => required [] value
  | .ask call next, required => ∀ answer,
      Ensures (next answer) fun exchanges => required (⟨call, answer⟩ :: exchanges)

@[simp] theorem ensures_done (value : α) (required : List Exchange → α → Prop) :
    Ensures (.done value) required ↔ required [] value := Iff.rfl

@[simp] theorem ensures_pure (value : α) (required : List Exchange → α → Prop) :
    Ensures (pure value) required ↔ required [] value := Iff.rfl

@[simp] theorem ensures_ask (call : BankCall) (next : call.Answer → Dialogue α)
    (required : List Exchange → α → Prop) :
    Ensures (.ask call next) required ↔ ∀ answer,
      Ensures (next answer) fun exchanges => required (⟨call, answer⟩ :: exchanges) :=
  Iff.rfl

theorem Ensures.of_yields {dialogue : Dialogue α} {required : List Exchange → α → Prop}
    (ensured : Ensures dialogue required) {exchanges : List Exchange} {result : α}
    (yields : Yields dialogue exchanges result) : required exchanges result := by
  induction dialogue generalizing required exchanges with
  | done value =>
      rcases yields with ⟨rfl, rfl⟩
      exact ensured
  | ask call next induction =>
      rcases yields with ⟨answer, rest, rfl, yields⟩
      exact induction answer (ensured answer) yields

theorem Ensures.mono {dialogue : Dialogue α} {required weaker : List Exchange → α → Prop}
    (ensured : Ensures dialogue required)
    (implies : ∀ exchanges result, required exchanges result → weaker exchanges result) :
    Ensures dialogue weaker := by
  induction dialogue generalizing required weaker with
  | done value => exact implies [] value ensured
  | ask call next induction =>
      intro answer
      exact induction answer (ensured answer) fun exchanges => implies _

/-- What holds of all exchanges and results is ensured by every conversation. -/
theorem ensures_of_forall {required : List Exchange → α → Prop}
    (always : ∀ exchanges result, required exchanges result) (dialogue : Dialogue α) :
    Ensures dialogue required := by
  induction dialogue generalizing required with
  | done value => exact always [] value
  | ask call next induction =>
      intro answer
      exact induction answer fun exchanges => always _

end Dialogue

/-! ## Holding a conversation -/

/-- Nobody else uses the store while the bank is busy. -/
def Bank.Quiet (bank : Bank) : Prop :=
  ∀ exchanges call, (bank exchanges call).interference = []

namespace World

variable {σ : Type} [Store σ] {α : Type}

def afterTalk (world : World σ) (interference : List Interference)
    (exchanges : List Exchange) : World σ :=
  { world with
    store := interference.foldl Store.interfere world.store
    exchanges := world.exchanges ++ exchanges }

/-- A world holds a conversation by one of its yields. -/
theorem run_dialogue (partner : Partner) (dialogue : Dialogue α) (world : World σ) :
    ∃ result exchanges interference,
      world.run partner (dialogue.translate fun call => Interaction.query (.bank call)) =
        (result, world.afterTalk interference exchanges) ∧
      dialogue.Yields exchanges result ∧
      (partner.bank.Quiet → interference = []) := by
  induction dialogue generalizing world with
  | done value =>
      refine ⟨value, [], [], ?_, ⟨rfl, rfl⟩, fun _ => rfl⟩
      simp [afterTalk, Interaction.translate]
  | ask call next induction =>
      let answered := world.consult partner call
      rcases induction answered.1 answered.2 with
        ⟨result, exchanges, interference, ran, yields, quiet⟩
      let first := (partner.bank world.exchanges call).interference
      refine ⟨result, ⟨call, answered.1⟩ :: exchanges, first ++ interference, ?_,
        ⟨answered.1, exchanges, rfl, yields⟩, ?_⟩
      · refine Eq.trans ran ?_
        simp [afterTalk, answered, first, consult, List.foldl_append]
      · intro silent
        simp [first, silent world.exchanges call, quiet silent]

end World

end StrongAuth
