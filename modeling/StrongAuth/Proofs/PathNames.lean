import StrongAuth.Proofs.LinkAddresses

/-! # Paths tell authorisations apart

Main statement: two authorisations have one path only if they are of one kind and parent and have
one id; an id is written in unreserved characters and escapes only, and read from them again. -/

namespace StrongAuth

namespace Percent

/-! ## Written segments -/

def unreserved : String :=
  "ABCDEFGHIJKLMNOPQRSTUVWXYZabcdefghijklmnopqrstuvwxyz0123456789-_.~"

def hexDigits : String :=
  "0123456789ABCDEF"

/-- Unreserved characters and escapes, in any order. -/
inductive Escaped : List Char → Prop
  | nil : Escaped []
  | plain {char : Char} {rest : List Char} (listed : char ∈ unreserved.toList)
      (escaped : Escaped rest) : Escaped (char :: rest)
  | escape {high low : Char} {rest : List Char} (upper : high ∈ hexDigits.toList)
      (lower : low ∈ hexDigits.toList) (escaped : Escaped rest) :
      Escaped ('%' :: high :: low :: rest)

theorem mem_unreserved {char : Char} (kept : isUnreserved char = true) :
    char ∈ unreserved.toList := by
  have table : ∀ code < 128, isUnreserved (Char.ofNat code) = true →
      Char.ofNat code ∈ unreserved.toList := by decide +kernel
  exact @Url.of_ascii (fun char => isUnreserved char = true → char ∈ unreserved.toList) table char
    (Url.isUnreserved_ascii kept) kept

theorem mem_hexDigits {digit : Nat} (small : digit < 16) :
    Hexadecimal.upperDigit digit ∈ hexDigits.toList := by
  have table : ∀ digit < 16, Hexadecimal.upperDigit digit ∈ hexDigits.toList := by decide
  exact table digit small

theorem Escaped.escapes (bytes : List UInt8) {rest : List Char} (escaped : Escaped rest) :
    Escaped (bytes.flatMap escapeByte ++ rest) := by
  induction bytes with
  | nil => exact escaped
  | cons byte bytes induction =>
      have bound := byte.toNat_lt
      exact .escape (mem_hexDigits (by omega)) (mem_hexDigits (by omega)) induction

theorem escaped_encodeChars (chars : List Char) : Escaped (encodeChars isUnreserved chars) := by
  induction chars with
  | nil => exact .nil
  | cons char chars induction =>
      rw [encodeChars, List.flatMap_cons, ← encodeChars, encodeChar]
      split
      · next kept => exact .plain (mem_unreserved kept) induction
      · exact induction.escapes _

theorem escaped_encodeSegment (text : String) : Escaped (encodeSegment text).toList := by
  rw [encodeSegment, String.toList_ofList]
  exact escaped_encodeChars text.toList

theorem encodeSegment_injective : Function.Injective encodeSegment := by
  intro left right same
  have decoded := congrArg decode? same
  rw [decode?_encodeSegment, decode?_encodeSegment] at decoded
  exact Option.some.inj decoded

end Percent

namespace Url

/-! ## Names of a path -/

theorem encoded_injective : Function.Injective encoded :=
  List.map_injective_iff.mpr fun _ _ same =>
    Percent.encodeSegment_injective (String.toList_injective same)

/-- No encoded name holds a slash, so the slashes part the names. -/
theorem segmentsText_encoded_inj {left right : List String}
    (same : segmentsText (encoded left) = segmentsText (encoded right)) : left = right := by
  have whole (names : List String) :
      ∀ segment ∈ encoded names, ∀ char ∈ segment, (char == '/') = false := by
    intro segment member char inside
    have noSlash := whole_of_stands (stands_encoded names) segment member
    exact beq_eq_false_iff_ne.mpr fun slash => noSlash (slash ▸ inside)
  exact encoded_injective
    (@segments_injective (· == '/') '/' rfl _ _ (whole left) (whole right) same)

end Url

namespace Authorisation

/-- Of the three kinds, no path begins as one of another kind. -/
theorem names_inj {leftKind rightKind : ResourceKind} {left right : List String}
    (same : leftKind.names ++ left = rightKind.names ++ right) :
    leftKind = rightKind ∧ left = right := by
  cases leftKind <;> cases rightKind <;> simp_all [ResourceKind.names]

theorem eq_of_path_eq {left right : Authorisation} (same : left.path = right.path) :
    left.kind = right.kind ∧ left.parent = right.parent ∧ left.id = right.id := by
  have texts := congrArg String.toList same
  rw [path_toList, path_toList] at texts
  rcases names_inj (Url.segmentsText_encoded_inj texts) with ⟨sameKind, sameNames⟩
  simp only [List.cons.injEq, and_true, true_and] at sameNames
  exact ⟨sameKind, sameNames⟩

/-- The path of an authorisation tells its kind, its parent and its id, whatever texts these are;
and each id is read from the unreserved characters and the escapes that are written for it. -/
theorem paths_tell_apart :
    (∀ left right : Authorisation, left.path = right.path ↔
      left.kind = right.kind ∧ left.parent = right.parent ∧ left.id = right.id) ∧
    ∀ id : String, Percent.Escaped (Percent.encodeSegment id).toList ∧
      Percent.decode? (Percent.encodeSegment id) = some id := by
  refine ⟨fun left right => ⟨eq_of_path_eq, ?_⟩, fun id => ?_⟩
  · rintro ⟨sameKind, sameParent, sameId⟩
    rw [path, path, sameKind, sameParent, sameId]
  · exact ⟨Percent.escaped_encodeSegment id, Percent.decode?_encodeSegment id⟩

/-- An id that looks like a path, and one that looks encoded. -/
example : path { (default : Authorisation) with
      kind := .payment, parent := "a/authorisations/b", id := "100%2Fé" } =
    "/v1/payments/a%2Fauthorisations%2Fb/authorisations/100%252F%C3%A9" := by decide

end Authorisation

end StrongAuth
