/-! # Vocabularies

A vocabulary is a finite type whose values are written as words: status names,
error codes, link relations. Main statement: the word of a value reads back as
that value, and a word is read only as the value it names.
-/

namespace StrongAuth

/-- Every value of `α` in a fixed order, each under a word of its own. -/
class Vocabulary (α : Type) where
  values : List α
  word : α → String
  mem_values : ∀ value, value ∈ values
  word_injective : ∀ left right, word left = word right → left = right

namespace Vocabulary

variable {α : Type} [Vocabulary α]

/-- The value a word stands for. Words are compared exactly, case included. -/
def read? (text : String) : Option α :=
  values.find? fun value => word value == text

theorem word_of_read? {text : String} {value : α}
    (found : read? text = some value) : word value = text := by
  have matched := List.find?_some found
  simpa using matched

theorem read?_word (value : α) : read? (word value) = some value := by
  cases found : (read? (word value) : Option α) with
  | none =>
      have absent := List.find?_eq_none.mp found value (mem_values value)
      simp at absent
  | some other =>
      rw [word_injective other value (word_of_read? found)]

end Vocabulary

/-- A word that names nothing in a vocabulary. -/
structure WordFault where
  /-- What the word should have named. -/
  noun : String
  text : String
  deriving DecidableEq, Repr

def WordFault.message (fault : WordFault) : String :=
  "Invalid " ++ fault.noun ++ ": " ++ fault.text

/-- The value a word stands for, or the fault that nothing of this noun has the name. -/
def Vocabulary.parse {α : Type} [Vocabulary α] (noun text : String) : Except WordFault α :=
  match Vocabulary.read? text with
  | some value => .ok value
  | none => .error ⟨noun, text⟩

theorem Vocabulary.parse_word {α : Type} [Vocabulary α] (noun : String) (value : α) :
    Vocabulary.parse noun (Vocabulary.word value) = .ok value := by
  simp [Vocabulary.parse, Vocabulary.read?_word]

end StrongAuth
