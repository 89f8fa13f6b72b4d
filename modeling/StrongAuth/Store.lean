import StrongAuth.Authorisation
import StrongAuth.Bank.Call
import StrongAuth.Fault

/-! # Stores

What the node needs of a store of authorisations and their resources. A call either
fails, and then the store is as it was, or gives an answer and the store after it. -/

namespace StrongAuth

class Store (σ : Type) where
  /-- Adds an authorisation whose id is not taken. -/
  insert : Authorisation → σ → Except StoreFault σ
  get : (id : String) → σ → Except StoreFault (Option Authorisation)
  /-- Replaces an authorisation of the same id and version and raises the version; gives the
  authorisation as it is now. -/
  save : Authorisation → σ → Except StoreFault (Authorisation × σ)
  /-- The authorisations of a resource, the oldest first. -/
  listByParent : (parent : String) → σ → Except StoreFault (List Authorisation)
  /-- The live authorisations with a deadline before an instant. -/
  listExpired : (now : Time.Timestamp) → σ → Except StoreFault (List Authorisation)
  /-- Adds a resource or replaces the one of the same id. -/
  register : Resource → σ → Except StoreFault σ
  resource : (id : String) → σ → Except StoreFault (Option Resource)
  setParentStatus : (id : String) → ParentStatus → σ → Except StoreFault σ

inductive StoreCall
  | insert (record : Authorisation)
  | get (id : String)
  | save (record : Authorisation)
  | listByParent (parent : String)
  | listExpired (now : Time.Timestamp)
  | register (resource : Resource)
  | resource (id : String)
  | setParentStatus (id : String) (status : ParentStatus)
  deriving DecidableEq, Repr

@[reducible] def StoreCall.Answer : StoreCall → Type
  | .insert _ => Unit
  | .get _ => Option Authorisation
  | .save _ => Authorisation
  | .listByParent _ => List Authorisation
  | .listExpired _ => List Authorisation
  | .register _ => Unit
  | .resource _ => Option Resource
  | .setParentStatus .. => Unit

namespace Store

variable {σ : Type} [Store σ]

/-- Keeps the store if a call fails. -/
def settle {α : Type} (store : σ) : Except StoreFault (α × σ) → Except StoreFault α × σ
  | .ok (answer, store) => (.ok answer, store)
  | .error fault => (.error fault, store)

def perform (store : σ) : (call : StoreCall) → Except StoreFault call.Answer × σ
  | .insert record => settle store ((insert record store).map fun store => ((), store))
  | .get id => (get id store, store)
  | .save record => settle store (save record store)
  | .listByParent parent => (listByParent parent store, store)
  | .listExpired now => (listExpired now store, store)
  | .register resource => settle store ((register resource store).map fun store => ((), store))
  | .resource id => (resource id store, store)
  | .setParentStatus id status =>
      settle store ((setParentStatus id status store).map fun store => ((), store))

def multilevel (id : String) (store : σ) : Except StoreFault Bool := do
  match ← resource id store with
  | some resource => return resource.multilevel
  | none => .error (.notFound id)

/-- Saves an authorisation as it is stored. -/
def resave (id : String) (store : σ) : Except StoreFault σ := do
  match ← get id store with
  | some record => return (← save record store).2
  | none => return store

/-- The store after another user was at it. What that user does not achieve is left undone. -/
def interfere (store : σ) (interference : Interference) : σ :=
  let result := match interference with
    | .resave id => resave id store
    | .setStatus id status => setParentStatus id status store
  match result with
  | .ok store => store
  | .error _ => store

end Store

end StrongAuth
