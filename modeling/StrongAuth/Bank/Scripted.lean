import StrongAuth.Bank.Call

/-! # A scripted bank

A bank that answers every task from a list of entries, one after the other, and in a
usual way once the list is used up. -/

namespace StrongAuth

/-- What the bank makes of one call. -/
structure ScriptEntry (task : Task) where
  interference : List Interference
  delay : Time.Span
  answer : Except BankFault task.Answer

abbrev Script := (task : Task) → List (ScriptEntry task)

namespace Script

/-- The answer of a bank that has nothing special to say. -/
def usual : (task : Task) → task.Answer
  | .authenticate => .success
  | .listMethods => [⟨"sms", "SMS_OTP", none, false⟩]
  | .requestCode => ⟨none, false, none, none⟩
  | .confirm => .success
  | .execute => ()

def turn (task : Task) (exchanges : List Exchange) : Nat :=
  exchanges.countP fun exchange => exchange.call.query.task == task

def toBank (script : Script) : Bank := fun exchanges call =>
  let task := call.query.task
  match (script task)[turn task exchanges]? with
  | some entry => ⟨entry.interference, entry.delay, entry.answer⟩
  | none => ⟨[], ⟨0⟩, .ok (usual task)⟩

end Script

end StrongAuth
