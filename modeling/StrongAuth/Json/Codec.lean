import StrongAuth.Json.Shape
import StrongAuth.Json.Value
import StrongAuth.Time.Reading
import StrongAuth.Time.Written

/-! # Types with a JSON form

How the values of a type are written as JSON and read from it. Values of a
vocabulary are written as their words, bytes as numbers, and timestamps as text. -/

namespace StrongAuth

/-- A JSON form for the values of `α`. -/
class Codec (α : Type) where
  toJson : α → Json
  reader : Json.Reader α

namespace Codec

open Json

def encode {α : Type} [Codec α] (value : α) : String :=
  (toJson value).compact

def decode {α : Type} [Codec α] (text : String) : Except Json.Fault α :=
  Json.decode reader text

instance : Codec String := ⟨.text, Reader.text⟩

instance : Codec Bool := ⟨.bool, Reader.bool⟩

instance (priority := low) {α : Type} [Vocabulary α] : Codec α :=
  ⟨fun value => .text (Vocabulary.word value), Reader.variant⟩

instance : Codec UInt32 where
  toJson value := .number value.toNat
  reader raw := (Reader.natural 4294967295 raw).map UInt32.ofNat

instance : Codec UInt64 where
  toJson value := .number value.toNat
  reader raw := (Reader.natural 18446744073709551615 raw).map UInt64.ofNat

instance : Codec UInt8 where
  toJson value := .number value.toNat
  reader raw := (Reader.natural 255 raw).map UInt8.ofNat

instance {α : Type} [Codec α] : Codec (Option α) :=
  ⟨Json.ofOption toJson, reader.option⟩

instance {α : Type} [Codec α] : Codec (List α) :=
  ⟨Json.ofList toJson, reader.list⟩

instance : Codec Time.Timestamp where
  toJson value := .text value.text
  reader raw := do
    match Time.readLenient (← Reader.text raw) with
    | .ok value => return value
    | .error _ => .error .data

end Codec

/-! ## Fields -/

namespace Json

def field {α : Type} [Codec α] (name : String) (value : α) : String × Json :=
  (name, Codec.toJson value)

/-- A field that has to be there. -/
def Shape.require {α : Type} [Codec α] (name : String) : Shape α :=
  .required name Codec.reader

/-- A field that may be `null` or missing. -/
def Shape.allow {α : Type} [Codec α] (name : String) : Shape (Option α) :=
  .nullable name Codec.reader

/-- A field with a default. -/
def Shape.default {α : Type} [Codec α] (name : String) (fallback : α) : Shape α :=
  .defaulted name fallback Codec.reader

end Json

end StrongAuth
