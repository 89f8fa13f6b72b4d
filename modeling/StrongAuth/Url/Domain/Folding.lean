import StrongAuth.Text.Canonical
import StrongAuth.Url.Domain.Table

/-! # Spelling of domain names

Domain names that differ only in case, width or style of letters are the same name. Its
folded form has small letters of the usual width, no characters that count as nothing, and
is composed. Main statement: a text in ASCII is folded letter by letter. -/

namespace StrongAuth.Domain

/-- How a code point is spelled that does not stand for a sequence. -/
def foldCode (code : Nat) : List Nat :=
  if code < 128 then [(Char.ofNat code).toLower.toNat] else (foldTable.find? code).getD [code]

/-- How a character is spelled, if a domain name may have it. A character that stands for a
sequence is spelled like it, unless it has a spelling of its own. -/
def foldChar? (char : Char) : Option (List Nat) :=
  let code := char.toNat
  if code < 128 then some (foldCode code)
  else if ignoredTable.contains code then some []
  else if refusedTable.contains code then none
  else match foldTable.find? code with
    | some codes => some codes
    | none => some ((Canonical.decompose code).flatMap foldCode)

/-- The folded form of a text, if a domain name may have all its characters. -/
def fold? (text : List Char) : Option (List Char) := do
  let codes ← text.mapM foldChar?
  return (Canonical.composed codes.flatten).map Char.ofNat

/-- Whether a text is in its folded form and shows all its characters. -/
def isFolded (text : List Char) : Bool :=
  fold? text == some text && !text.any fun char =>
    128 ≤ char.toNat && ignoredTable.contains char.toNat

theorem foldChar?_of_ascii {char : Char} (ascii : char.toNat < 128) :
    foldChar? char = some [char.toLower.toNat] := by
  simp [foldChar?, foldCode, ascii]

theorem toNat_toLower_lt {char : Char} (ascii : char.toNat < 128) :
    char.toLower.toNat < 128 := by
  have table : ∀ code < 128, (Char.ofNat code).toLower.toNat < 128 := by decide
  simpa using table char.toNat ascii

/-- A text in ASCII is folded letter by letter. -/
theorem fold?_of_ascii {text : List Char} (ascii : ∀ char ∈ text, char.toNat < 128) :
    fold? text = some (text.map Char.toLower) := by
  have codes : text.mapM foldChar? = some (text.map fun char => [char.toLower.toNat]) := by
    induction text with
    | nil => rfl
    | cons char text induction =>
        have first := foldChar?_of_ascii (ascii char List.mem_cons_self)
        have rest := induction fun other member => ascii other (List.mem_cons_of_mem _ member)
        simp [List.mapM_cons, first, rest]
  have small : ∀ code ∈ text.map fun char => char.toLower.toNat, code < 0xC0 := by
    intro code member
    obtain ⟨char, place, rfl⟩ := List.mem_map.mp member
    exact Nat.lt_trans (toNat_toLower_lt (ascii char place)) (by decide)
  have flat (text : List Char) : (text.map fun char => [char.toLower.toNat]).flatten =
      text.map fun char => char.toLower.toNat := by
    induction text with
    | nil => rfl
    | cons char text induction => simp [induction]
  simp [fold?, codes, flat, Canonical.composed_of_lt small, Function.comp_def]

end StrongAuth.Domain
