import StrongAuth.Json.Raw
import StrongAuth.Vocabulary

/-! # Typed readers of JSON

A reader takes a typed value from the tree of a text, or the first fault on its
way through the text. A member nobody asks for is passed over; a value whose type
shows only later is checked first and read afterwards. -/

namespace StrongAuth.Json

abbrev Reader (α : Type) := Raw → Except Fault α

/-- The end of an array or an object: complete, or the fault found there. -/
def closing : Option Fault → Except Fault Unit
  | none => .ok ()
  | some fault => .error fault

namespace Raw

/-- The fault of a value that is not of the wanted kind. A number has to be read before
it can be refused, and a string has to be complete. -/
def mismatch : Raw → Fault
  | .broken place => place.reading
  | .text (.error fault) => fault
  | .number numeral => if numeral.finite then .data else .malformed
  | _ => .data

/-! ## Values nobody asks for -/

mutual

/-- Passes over a value. Neither the size of numbers nor the pairing of surrogates is
looked at. -/
def skip : Raw → Except Fault Unit
  | .broken place => .error place.skipping
  | .array items ending => do skipItems items; closing ending
  | .object members ending => do skipMembers members; closing ending
  | .null | .bool _ | .number _ | .text _ => .ok ()

def skipItems : List Raw → Except Fault Unit
  | [] => .ok ()
  | item :: items => do item.skip; skipItems items

def skipMembers : List (Key × Raw) → Except Fault Unit
  | [] => .ok ()
  | (.absent _ skipping, _) :: _ => .error skipping
  | (.text _, value) :: members => do value.skip; skipMembers members

end

/-! ## Values that are read later -/

mutual

/-- Checks a value that is kept for later: everything in it has to be sound, and arrays
and objects may nest at most `room` deep. -/
def keep : (room : Nat) → Raw → Except Fault Unit
  | _, .broken place => .error place.reading
  | _, .text (.error fault) => .error fault
  | _, .number numeral => if numeral.finite then .ok () else .error .malformed
  | 0, .array _ _ | 0, .object _ _ => .error .malformed
  | room + 1, .array items ending => do keepItems room items; closing ending
  | room + 1, .object members ending => do keepMembers room members; closing ending
  | _, .null | _, .bool _ | _, .text (.ok _) => .ok ()

def keepItems : (room : Nat) → List Raw → Except Fault Unit
  | _, [] => .ok ()
  | room, item :: items => do item.keep room; keepItems room items

def keepMembers : (room : Nat) → List (Key × Raw) → Except Fault Unit
  | _, [] => .ok ()
  | _, (.absent reading _, _) :: _ => .error reading
  | _, (.text (.error fault), _) :: _ => .error fault
  | room, (.text (.ok _), value) :: members => do value.keep room; keepMembers room members

end

/-- The depth to which a kept value may nest at the top of a text. -/
def topRoom : Nat := 127

end Raw

namespace Reader

/-! ## Simple values -/

def text : Reader String
  | .text content => content
  | raw => .error raw.mismatch

def bool : Reader Bool
  | .bool value => .ok value
  | raw => .error raw.mismatch

def integer (low high : Int) : Reader Int
  | .number numeral =>
      if !numeral.finite then .error .malformed
      else match numeral.int? with
        | some value => if low ≤ value ∧ value ≤ high then .ok value else .error .data
        | none => .error .data
  | raw => .error raw.mismatch

def natural (high : Nat) : Reader Nat := fun raw =>
  (integer 0 high raw).map Int.toNat

/-- A value of a vocabulary given as its bare word, in a string. -/
def word {α : Type} [Vocabulary α] : Reader α := fun raw => do
  match Vocabulary.read? (← text raw) with
  | some value => return value
  | none => .error .data

/-! ## Compound values -/

/-- A value, or none for `null`. -/
def option {α : Type} (reader : Reader α) : Reader (Option α)
  | .null => .ok none
  | .broken place =>
      if place.lead = some 'n' then .error place.reading
      else (reader (.broken place)).map some
  | raw => (reader raw).map some

def items {α : Type} (reader : Reader α) : List Raw → Except Fault (List α)
  | [] => .ok []
  | item :: rest => do
      let value ← reader item
      let values ← items reader rest
      return value :: values

def list {α : Type} (reader : Reader α) : Reader (List α)
  | .array values ending => do
      let values ← items reader values
      closing ending
      return values
  | raw => .error raw.mismatch

/-! ## Variants -/

/-- Where an object that names a variant should end: at once, and any further member is
out of place. -/
def variantEnd (ending : Option Fault) : List (Key × Raw) → Except Fault Unit
  | [] => closing ending
  | _ :: _ => .error .malformed

/-- A value of a vocabulary: its word in a string, or an object whose only member is the
word with the value `null`. -/
def variant {α : Type} [Vocabulary α] : Reader α
  | .text content => word (.text content)
  | .object [] ending => .error (ending.getD .malformed)
  | .object ((.absent reading _, _) :: _) _ => .error reading
  | .object ((.text name, value) :: members) ending => do
      let named ← word (.text name)
      match value with
      | .null => variantEnd ending members
      | value => .error value.mismatch
      return named
  | .broken place =>
      if place.lead = none ∨ place.lead = some '"' then .error place.reading
      else .error .malformed
  | _ => .error .malformed

/-- A value of a vocabulary inside a kept value, where every fault is one of shape. The
member of an object may also be an empty object if `loose` holds. -/
def keptVariant {α : Type} [Vocabulary α] (loose : Bool) : Reader α
  | .object [(.text (.ok name), value)] none =>
      match Vocabulary.read? name, value with
      | some named, .null => .ok named
      | some named, .object [] none => if loose then .ok named else .error .data
      | _, _ => .error .data
  | raw => (word raw).mapError fun _ => .data

end Reader

/-! ## Whole texts -/

/-- Reads a text that holds one value and nothing after it but gaps. A fault inside the
value comes before anything that follows it. -/
def decode {α : Type} (reader : Reader α) (text : String) : Except Fault α := do
  let parsed := parse text
  let value ← reader parsed.raw
  match parsed.rest with
  | some rest => if (skipGap rest).isEmpty then return value else .error .malformed
  | none => .error .incomplete

end StrongAuth.Json
