import StrongAuth.Node.Basic
import StrongAuth.Node.World

/-! # Runs of a node

The operations of a node as values, what each of them answers, and runs of several of
them, one after the other. -/

namespace StrongAuth

inductive Operation
  | register (resource : Resource)
  | start (newId resource : String) (psu : Option Psu) (preferred : Option Approach)
  | update (id : String) (request : Request)
  | status (id : String)
  | list (resource : String)
  | project (resource : String)
  | sweep
  deriving DecidableEq, Repr

namespace Operation

@[reducible] def Answer : Operation → Type
  | .register _ => Unit
  | .start .. => StartResponse
  | .update .. => UpdateResponse
  | .status _ => Status
  | .list _ => List String
  | .project _ => Option ParentStatus
  | .sweep => Nat

/-- What a node does for an operation at a given time. -/
def action (node : Node) (now : Time.Timestamp) : (operation : Operation) →
    Action operation.Answer
  | .register resource => Node.register resource
  | .start newId resource psu preferred => node.start newId resource psu preferred now
  | .update id request => node.update id request now
  | .status id => Node.status id now
  | .list resource => Node.list resource
  | .project resource => Node.projectParent resource
  | .sweep => Node.sweep now

end Operation

structure Step where
  operation : Operation
  now : Time.Timestamp
  deriving DecidableEq, Repr

structure Completed where
  step : Step
  answer : Except Failure step.operation.Answer

structure Deployment where
  node : Node
  bank : Bank

namespace Deployment

def partner (deployment : Deployment) : Partner :=
  ⟨deployment.bank, deployment.node.bankLimit⟩

variable {σ : Type} [Store σ]

def perform (deployment : Deployment) (step : Step) (world : World σ) :
    Except Failure step.operation.Answer × World σ :=
  world.runAction deployment.partner (step.operation.action deployment.node step.now)

def run (deployment : Deployment) : List Step → World σ → List Completed × World σ
  | [], world => ([], world)
  | step :: steps, world =>
      let (answer, world) := deployment.perform step world
      let (completed, world) := deployment.run steps world
      (⟨step, answer⟩ :: completed, world)

end Deployment

end StrongAuth
