import StrongAuth.Vocabulary

/-! # SCA approaches

How a PSU proves itself: through the third party, on the bank's own pages, or on a
separate device. -/

namespace StrongAuth

inductive Approach
  /-- The third party collects credentials and codes and forwards them. -/
  | embedded
  /-- The PSU authenticates on the bank's own pages. -/
  | redirect
  /-- The PSU confirms on a separate device. -/
  | decoupled
  deriving DecidableEq, Repr, Inhabited

instance : Vocabulary Approach where
  values := [.embedded, .redirect, .decoupled]
  word
    | .embedded => "EMBEDDED"
    | .redirect => "REDIRECT"
    | .decoupled => "DECOUPLED"
  mem_values value := by cases value <;> simp
  word_injective left right equal := by
    cases left <;> cases right <;> simp at equal ⊢

def Approach.parse (text : String) : Except WordFault Approach :=
  Vocabulary.parse "SCA approach" text

structure ApproachChoice where
  supported : List Approach
  standard : Approach
  deriving DecidableEq, Repr

/-- The approach of a new authorisation: the preferred one if it is supported. -/
def ApproachChoice.resolve (choice : ApproachChoice) : (preferred : Option Approach) → Approach
  | some preferred => if choice.supported.contains preferred then preferred else choice.standard
  | none => choice.standard

end StrongAuth
