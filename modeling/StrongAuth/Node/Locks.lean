/-! # Locks

Requests against one authorisation take turns. A table holds one lock for every
authorisation that some request is busy with. A request gets a handle of the lock from
the table, takes the lock, frees it, and gives the handle back; with the last handle
the lock leaves the table. -/

namespace StrongAuth

structure Locks where
  fresh : Nat
  /-- The lock of each authorisation in use. -/
  table : List (String × Nat)
  /-- The handles that requests have; a lock occurs once for each of them. -/
  handles : List Nat
  taken : List Nat
  deriving DecidableEq, Repr

namespace Locks

def none : Locks := ⟨0, [], [], []⟩

instance : Inhabited Locks := ⟨none⟩

/-- The number of authorisations that requests are busy with. -/
def active (locks : Locks) : Nat :=
  locks.table.length

/-- A handle of the lock of an authorisation, which is made if there is none. -/
def obtain (id : String) (locks : Locks) : Nat × Locks :=
  match locks.table.lookup id with
  | some lock => (lock, { locks with handles := lock :: locks.handles })
  | .none => (locks.fresh, { locks with
      fresh := locks.fresh + 1
      table := (id, locks.fresh) :: locks.table
      handles := locks.fresh :: locks.handles })

/-- Whether a lock can be taken at once. -/
def isFree (lock : Nat) (locks : Locks) : Bool :=
  !locks.taken.contains lock

def take (lock : Nat) (locks : Locks) : Locks :=
  { locks with taken := lock :: locks.taken }

def free (lock : Nat) (locks : Locks) : Locks :=
  { locks with taken := locks.taken.erase lock }

/-- Gives a handle back. If it was the last one, the entry of the table goes too. -/
def giveBack (id : String) (lock : Nat) (locks : Locks) : Locks :=
  let handles := locks.handles.erase lock
  let table := if handles.contains lock then locks.table
    else locks.table.filter fun entry => !(entry.1 == id && entry.2 == lock)
  { locks with table, handles }

end Locks

end StrongAuth
