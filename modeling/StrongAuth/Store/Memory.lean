import StrongAuth.Store

/-! # The store in memory

Authorisations and resources in lists, in the order in which they came. Only the order of the
authorisations that have expired means nothing: a store in memory may list them in any. -/

namespace StrongAuth

structure MemoryStore where
  records : List Authorisation
  resources : List Resource
  deriving DecidableEq, Repr

namespace MemoryStore

def empty : MemoryStore := ⟨[], []⟩

instance : Inhabited MemoryStore := ⟨empty⟩

def record? (id : String) (store : MemoryStore) : Option Authorisation :=
  store.records.find? fun record => record.id == id

def resource? (id : String) (store : MemoryStore) : Option Resource :=
  store.resources.find? fun resource => resource.id == id

def replace (record : Authorisation) (store : MemoryStore) : MemoryStore :=
  { store with records := store.records.map fun stored =>
      if stored.id = record.id then record else stored }

def replaceResource (resource : Resource) (store : MemoryStore) : MemoryStore :=
  { store with resources := store.resources.map fun stored =>
      if stored.id = resource.id then resource else stored }

def insert (record : Authorisation) (store : MemoryStore) : Except StoreFault MemoryStore :=
  match store.record? record.id with
  | some _ => .error (.duplicate record.id)
  | none => .ok { store with records := store.records ++ [record] }

def save (record : Authorisation) (store : MemoryStore) :
    Except StoreFault (Authorisation × MemoryStore) :=
  match store.record? record.id with
  | none => .error (.notFound record.id)
  | some stored =>
      if stored.version ≠ record.version then .error (.conflict record.id record.version)
      else
        let saved := { record with version := record.version + 1 }
        .ok (saved, store.replace saved)

/-- Puts an authorisation in front of those that were created after it. -/
def insertByCreation (record : Authorisation) : List Authorisation → List Authorisation
  | [] => [record]
  | first :: others =>
      if record.created.before first.created then record :: first :: others
      else first :: insertByCreation record others

/-- The authorisations of a resource by the time of their creation; of those created at one
time, the first inserted comes first. -/
def listByParent (parent : String) (store : MemoryStore) : List Authorisation :=
  (store.records.filter fun record => record.parent == parent).foldl
    (fun sorted record => insertByCreation record sorted) []

def listExpired (now : Time.Timestamp) (store : MemoryStore) : List Authorisation :=
  store.records.filter fun record => record.isOverdue now

def register (resource : Resource) (store : MemoryStore) : MemoryStore :=
  match store.resource? resource.id with
  | some _ => store.replaceResource resource
  | none => { store with resources := store.resources ++ [resource] }

def setParentStatus (id : String) (status : ParentStatus) (store : MemoryStore) :
    Except StoreFault MemoryStore :=
  match store.resource? id with
  | some resource => .ok (store.replaceResource { resource with status })
  | none => .error (.notFound id)

instance : Store MemoryStore where
  insert := insert
  get id store := .ok (store.record? id)
  save := save
  listByParent parent store := .ok (store.listByParent parent)
  listExpired now store := .ok (store.listExpired now)
  register resource store := .ok (store.register resource)
  resource id store := .ok (store.resource? id)
  setParentStatus := setParentStatus

end MemoryStore

end StrongAuth
