import StrongAuth.Text.Canonical.Table

/-! # Canonical composition

Texts that look the same can be written with different code points: a letter with its
accent, or the letter and a combining accent behind it. The composed form is the same for
all of them. It is reached in three steps: every character is replaced by its sequence,
combining marks that follow each other are put in the order of their classes, and
characters are composed where a single one stands for them. Main statement: a text without
accents and the like is its own composed form. -/

namespace StrongAuth.Canonical

/-- The class of a combining mark; zero for all else. -/
def combiningClass (code : Nat) : Nat :=
  if code < 0x300 then 0 else ((classTable.find? code).bind List.head?).getD 0

/-! ## Sequences -/

/-- The letters of a Hangul syllable, which are numbered by leading consonant, vowel and
trailing consonant. -/
def syllableLetters (code : Nat) : List Nat :=
  let index := code - 0xAC00
  let letters := [0x1100 + index / 588, 0x1161 + index % 588 / 28]
  if index % 28 = 0 then letters else letters ++ [0x11A7 + index % 28]

def decompose (code : Nat) : List Nat :=
  if code < 0xC0 then [code]
  else if 0xAC00 ≤ code ∧ code ≤ 0xD7A3 then syllableLetters code
  else ((composedTable.find? code).or (replacedTable.find? code)).getD [code]

/-! ## Order -/

/-- Puts a mark of some class behind the others, given last first, but in front of those
right before it that are of a greater class. -/
def insertMark (rank mark : Nat) : List Nat → List Nat
  | [] => [mark]
  | last :: before =>
      if rank < combiningClass last then last :: insertMark rank mark before
      else mark :: last :: before

/-- Puts the marks behind each character in the order of their classes. Marks of one class
keep their order. -/
def order (codes : List Nat) : List Nat :=
  (codes.foldl (fun before code =>
    let rank := combiningClass code
    if rank = 0 then code :: before else insertMark rank code before) []).reverse

/-! ## Composition -/

/-- The syllable of a leading consonant and a vowel, or of a syllable without trailing
consonant and one. -/
def syllable? (first second : Nat) : Option Nat :=
  if 0x1100 ≤ first ∧ first < 0x1113 ∧ 0x1161 ≤ second ∧ second < 0x1176 then
    some (0xAC00 + ((first - 0x1100) * 21 + (second - 0x1161)) * 28)
  else if 0xAC00 ≤ first ∧ first ≤ 0xD7A3 ∧ (first - 0xAC00) % 28 = 0 ∧
      0x11A8 ≤ second ∧ second < 0x11C3 then
    some (first + (second - 0x11A7))
  else none

def compose? (first second : Nat) : Option Nat :=
  if second < 0x300 then none
  else (syllable? first second).or (composedTable.source? (decompose first ++ [second]))

/-- Composes a character with what follows it. `marks` are the marks kept behind it so far,
the last of them first, and `rank` is the class of that one. A mark behind one of the same
or a greater class is out of reach. -/
def composeFrom (first : Nat) (marks : List Nat) (rank : Nat) : List Nat → List Nat
  | [] => first :: marks.reverse
  | code :: codes =>
      let next := combiningClass code
      let within := marks.isEmpty || rank < next
      match if within then compose? first code else none with
      | some composed => composeFrom composed marks rank codes
      | none =>
          if next = 0 then first :: marks.reverse ++ composeFrom code [] 0 codes
          else composeFrom first (code :: marks) next codes

/-- Composes characters where one stands for several. -/
def compose : List Nat → List Nat
  | [] => []
  | first :: codes => composeFrom first [] 0 codes

def composed (codes : List Nat) : List Nat :=
  compose (order (codes.flatMap decompose))

/-! ## Plain text -/

theorem combiningClass_of_lt {code : Nat} (small : code < 0x300) : combiningClass code = 0 := by
  simp [combiningClass, small]

theorem decompose_of_lt {code : Nat} (small : code < 0xC0) : decompose code = [code] := by
  simp [decompose, small]

theorem order_of_lt {codes : List Nat} (small : ∀ code ∈ codes, code < 0x300) :
    order codes = codes := by
  have settled : ∀ before : List Nat, codes.foldl (fun before code =>
      let rank := combiningClass code
      if rank = 0 then code :: before else insertMark rank code before) before =
      codes.reverse ++ before := by
    induction codes with
    | nil => intro before; rfl
    | cons code codes induction =>
        intro before
        have first := combiningClass_of_lt (small code List.mem_cons_self)
        have rest := induction fun other member => small other (List.mem_cons_of_mem _ member)
        simp [first, rest]
  simp [order, settled]

theorem composeFrom_of_lt {first : Nat} {codes : List Nat}
    (small : ∀ code ∈ codes, code < 0x300) : composeFrom first [] 0 codes = first :: codes := by
  induction codes generalizing first with
  | nil => rfl
  | cons code codes induction =>
      have next := small code List.mem_cons_self
      have rest := @induction code fun other member =>
        small other (List.mem_cons_of_mem _ member)
      simp [composeFrom, compose?, next, combiningClass_of_lt next, rest]

/-- A text without accents and the like is its own composed form. -/
theorem composed_of_lt {codes : List Nat} (small : ∀ code ∈ codes, code < 0xC0) :
    composed codes = codes := by
  have single : codes.flatMap decompose = codes := by
    induction codes with
    | nil => rfl
    | cons code codes induction =>
        have first := decompose_of_lt (small code List.mem_cons_self)
        have rest := induction fun other member => small other (List.mem_cons_of_mem _ member)
        simp [first, rest]
  have below : ∀ code ∈ codes, code < 0x300 := fun code member =>
    Nat.lt_trans (small code member) (by decide)
  rw [composed, single, order_of_lt below]
  cases codes with
  | nil => rfl
  | cons first codes =>
      exact composeFrom_of_lt fun code member => below code (List.mem_cons_of_mem _ member)

end StrongAuth.Canonical
