import Mathlib.Data.List.Induction
import StrongAuth.Bank.Simulated
import StrongAuth.Proofs.Course

/-! # Runs and their histories

A run is a list of moves: steps of the node, and changes that someone else makes to the
store between them. Its history keeps the worlds around every move. Main statement: what
holds of a fresh world and is kept by every move holds of every run. -/

namespace StrongAuth

/-- A step of the node, or a change by someone else. -/
inductive Move
  | operate (step : Step)
  | outside (interference : Interference)
  deriving DecidableEq, Repr

def Move.registered? : Move → Option Resource
  | .operate ⟨.register resource, _⟩ => some resource
  | _ => none

/-- A move with the worlds before and after it. -/
structure Passage where
  move : Move
  before : World MemoryStore
  after : World MemoryStore

namespace Passage

def calls (passage : Passage) : List Exchange :=
  passage.after.exchanges.drop passage.before.exchanges.length

def request? (id : String) (passage : Passage) : Option Request :=
  match passage.move with
  | .operate ⟨.update updated request, _⟩ => if updated = id then some request else none
  | _ => none

theorem calls_eq {passage : Passage} {exchanges : List Exchange}
    (added : passage.after.exchanges = passage.before.exchanges ++ exchanges) :
    passage.calls = exchanges := by
  rw [calls, added]
  exact List.drop_left

end Passage

namespace Deployment

def make (deployment : Deployment) (world : World MemoryStore) : Move → World MemoryStore
  | .operate step => (deployment.perform step world).2
  | .outside interference => { world with store := Store.interfere world.store interference }

def play (deployment : Deployment) (moves : List Move) (world : World MemoryStore) :
    World MemoryStore :=
  moves.foldl deployment.make world

def history (deployment : Deployment) : List Move → World MemoryStore → List Passage
  | [], _ => []
  | move :: moves, world =>
      ⟨move, world, deployment.make world move⟩ ::
        deployment.history moves (deployment.make world move)

variable (deployment : Deployment)

theorem play_append (first second : List Move) (world : World MemoryStore) :
    deployment.play (first ++ second) world =
      deployment.play second (deployment.play first world) := by
  simp [play]

theorem history_append (first second : List Move) (world : World MemoryStore) :
    deployment.history (first ++ second) world =
      deployment.history first world ++
        deployment.history second (deployment.play first world) := by
  induction first generalizing world with
  | nil => rfl
  | cons move moves induction =>
      simp only [List.cons_append, history, induction]
      rfl

/-- A run of steps is a run of moves without changes by others. -/
theorem play_operate (steps : List Step) (world : World MemoryStore) :
    deployment.play (steps.map .operate) world = (deployment.run steps world).2 := by
  induction steps generalizing world with
  | nil => rfl
  | cons step steps induction => exact induction _

variable {deployment}

/-- What holds at the start and is kept by every move holds of a run and its history. -/
theorem history_induction (holds : List Passage → World MemoryStore → Prop)
    {world : World MemoryStore} (moves : List Move) (initial : holds [] world)
    (kept : ∀ passages before move, holds passages before →
      holds (passages ++ [⟨move, before, deployment.make before move⟩])
        (deployment.make before move)) :
    holds (deployment.history moves world) (deployment.play moves world) := by
  induction moves using List.reverseRecOn with
  | nil => exact initial
  | append_singleton moves move induction =>
      rw [history_append, play_append]
      exact kept _ _ move induction

/-- What holds at the start and is kept by every move holds of a run and its moves. -/
theorem play_induction (holds : List Move → World MemoryStore → Prop)
    {world : World MemoryStore} (moves : List Move) (initial : holds [] world)
    (kept : ∀ moves before move, before = deployment.play moves world → holds moves before →
      holds (moves ++ [move]) (deployment.make before move)) :
    holds moves (deployment.play moves world) := by
  induction moves using List.reverseRecOn with
  | nil => exact initial
  | append_singleton moves move induction =>
      rw [play_append]
      exact kept _ _ move rfl induction

end Deployment

/-! ## The standard node -/

/-- The node of the standard configuration. -/
def Node.standard : Node where
  links := {
    apiBase := ⟨"http".toList, [], [], some (.domain "localhost".toList), some 8080,
      .segments [[]], none, none⟩
    redirectBase := ⟨"http".toList, [], [], some (.domain "localhost".toList), some 4200,
      .segments ["authorisation".toList], none, none⟩ }
  approaches := Config.standard.approachChoice
  policy := Config.standard.stagePolicy
  checks := Check.standard .none
  redirectLifetime := 600000000000
  lifetime := 86400000000000
  bankLimit := .ofSeconds 30
  sweepInterval := some 60

theorem Node.ofConfig_standard : Node.ofConfig .standard none = .ok .standard := rfl

/-- The standard node with a simulated bank. -/
def Deployment.simulated (bank : SimulatedBank) : Deployment :=
  ⟨.standard, bank.toBank⟩

theorem SimulatedBank.quiet (bank : SimulatedBank) : bank.toBank.Quiet :=
  fun _ _ => rfl

end StrongAuth
