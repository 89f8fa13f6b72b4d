import StrongAuth.Event
import StrongAuth.Json.Codec

/-! # The JSON form of events

An event is an object whose member `type` tells which event it is, or an array that
begins with that word. The other members are kept until the type is known. -/

namespace StrongAuth

open Json

def Event.textField (name : String) : Shape String :=
  .require name

def Event.shape? (tag : String) : Option (Shape Event) :=
  match tag with
  | "authorisation_created" => some <|
      Event.created <$> textField "authorisation_id" <*> textField "parent_id" <*>
        textField "sca_approach"
  | "sca_status_changed" => some <|
      Event.statusChanged <$> textField "authorisation_id" <*> textField "parent_id" <*>
        textField "old_status" <*> textField "new_status"
  | "authorisation_rejected" => some <|
      Event.refused <$> textField "authorisation_id" <*>
        .required "error" (Reader.keptVariant true) <*> textField "message"
  | "authorisation_expired" => some <|
      Event.expired <$> textField "authorisation_id" <*> textField "parent_id"
  | "parent_status_changed" => some <|
      Event.parentChanged <$> textField "parent_id" <*> textField "old_status" <*>
        textField "new_status"
  | _ => none

namespace EventReader

/-- Reads the tag of an event at its place. -/
def readTag (raw : Raw) : Except Json.Fault (Shape Event) := do
  match Event.shape? (← Reader.text raw) with
  | some shape => return shape
  | none => .error .data

/-- Goes through the members of an event. All but the tag are checked and kept. -/
def collect : (shape : Option (Shape Event)) → (kept : List (Key × Raw)) →
    List (Key × Raw) → Except Json.Fault (Option (Shape Event) × List (Key × Raw))
  | shape, kept, [] => .ok (shape, kept.reverse)
  | _, _, (.absent reading _, _) :: _ => .error reading
  | _, _, (.text (.error fault), _) :: _ => .error fault
  | shape, kept, (.text (.ok name), value) :: members =>
      if name = "type" then
        match shape with
        | some _ => .error .data
        | none => do collect (some (← readTag value)) kept members
      else do
        value.keep (Raw.topRoom - 1)
        collect shape ((.text (.ok name), value) :: kept) members

def read : Reader Event
  | .object members ending => do
      let (shape, kept) ← collect none [] members
      closing ending
      match shape with
      | some shape => shape.keptReader (.object kept none)
      | none => .error .data
  | .array [] ending => do
      closing ending
      .error .data
  | .array (tag :: items) ending => do
      let shape ← readTag tag
      Raw.keepItems (Raw.topRoom - 1) items
      closing ending
      shape.keptReader (.array items none)
  | raw => .error raw.mismatch

end EventReader

instance : Codec Event where
  toJson event :=
    .object <| field "type" event.tag :: match event with
      | .created authorisation parent approach => [
          field "authorisation_id" authorisation,
          field "parent_id" parent,
          field "sca_approach" approach]
      | .statusChanged authorisation parent earlier later => [
          field "authorisation_id" authorisation,
          field "parent_id" parent,
          field "old_status" earlier,
          field "new_status" later]
      | .refused authorisation kind message => [
          field "authorisation_id" authorisation,
          field "error" kind,
          field "message" message]
      | .expired authorisation parent => [
          field "authorisation_id" authorisation,
          field "parent_id" parent]
      | .parentChanged parent earlier later => [
          field "parent_id" parent,
          field "old_status" earlier,
          field "new_status" later]
  reader := EventReader.read

end StrongAuth
