import StrongAuth.Json.Reader

/-! # Shapes of records

A shape lists the fields of a record in their order and says how a value is built
from them. The record is written as an object, whose members may come in any order
and may include unknown ones, or as an array of its fields in their order. -/

namespace StrongAuth.Json

inductive Absence
  /-- Nothing: the field has to be there. -/
  | refused
  /-- In an object, `null`. -/
  | nullable
  /-- A default, also at the end of an array. -/
  | defaulted
  deriving DecidableEq, Repr

/-- A field by its name, and the reader of its value without the value. -/
structure Field where
  name : String
  absence : Absence
  check : Reader Unit

/-- The values found for the fields of a record, by name. -/
abbrev Found := List (String × Raw)

/-- The fields of a record and how its value is built from what was found. -/
structure Shape (α : Type) where
  fields : List Field
  build : Found → Except Fault α

namespace Shape

variable {α β : Type}

instance : Applicative Shape where
  pure value := ⟨[], fun _ => .ok value⟩
  seq first second :=
    let second := second ()
    { fields := first.fields ++ second.fields
      build := fun found => do
        let step ← first.build found
        let value ← second.build found
        return step value }

/-! ## Single fields -/

/-- A field that is checked by `reader`, and what a missing one stands for. -/
def ofField (name : String) (absence : Absence) (reader : Reader α)
    (missing : Except Fault α) : Shape α where
  fields := [⟨name, absence, fun raw => (reader raw).map fun _ => ()⟩]
  build found := match found.lookup name with
    | some raw => reader raw
    | none => missing

def required (name : String) (reader : Reader α) : Shape α :=
  ofField name .refused reader (.error .data)

/-- A field that may be `null` and may be missing from an object. -/
def nullable (name : String) (reader : Reader α) : Shape (Option α) :=
  ofField name .nullable reader.option (.ok none)

def defaulted (name : String) (fallback : α) (reader : Reader α) : Shape α :=
  ofField name .defaulted reader (.ok fallback)

/-! ## Records -/

def field? (shape : Shape α) (name : String) : Option Field :=
  shape.fields.find? fun field => field.name == name

/-- Goes through the members of an object in their order. A known member is checked at its
place and may come once; an unknown one is passed over. -/
def collect (shape : Shape α) : (found : Found) → List (Key × Raw) → Except Fault Found
  | found, [] => .ok found
  | _, (.absent reading _, _) :: _ => .error reading
  | _, (.text (.error fault), _) :: _ => .error fault
  | found, (.text (.ok name), value) :: members =>
      match shape.field? name with
      | none => do
          value.skip
          shape.collect found members
      | some field => do
          if (found.lookup name).isSome then throw .data
          field.check value
          shape.collect ((name, value) :: found) members

/-- Goes through the items of an array, one for each field. Only defaulted fields may be
missing at its end, and nothing may follow the last field. -/
def align : List Field → List Raw → (ending : Option Fault) → Except Fault Found
  | [], [], ending => do closing ending; return []
  | [], _ :: _, _ => .error .malformed
  | field :: fields, item :: items, ending => do
      field.check item
      return (field.name, item) :: (← align fields items ending)
  | field :: fields, [], ending => do
      closing ending
      if (field :: fields).all (·.absence == .defaulted) then return [] else .error .data

def reader (shape : Shape α) : Reader α
  | .object members ending => do
      let found ← shape.collect [] members
      closing ending
      shape.build found
  | .array items ending => do shape.build (← align shape.fields items ending)
  | raw => .error raw.mismatch

/-- Reads a record from the members of a kept object, where every fault is one of shape. -/
def keptReader (shape : Shape α) : Reader α := fun raw =>
  (shape.reader raw).mapError fun _ => .data

end Shape

end StrongAuth.Json
