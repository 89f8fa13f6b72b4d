import Mathlib.Tactic.Common
import StrongAuth.Json.Reader

/-! # JSON text of values

Main statement: whatever a value is, as long as its numbers fit sixty-four bits, the tree of
its compact text is the tree of the value, and nothing is left of the text. -/

namespace StrongAuth

/-! ## Digits -/

namespace Decimal

theorem digitValue_zero_iff {digit : Nat} : digitChar digit = '0' ↔ digit % 10 = 0 := by
  have table : ∀ small < 10, Char.ofNat (48 + small) = '0' ↔ small = 0 := by decide
  exact table (digit % 10) (Nat.mod_lt _ (by decide))

theorem head?_digits (number : Nat) :
    (digits number).head? = some '0' → (digits number).length = 1 := by
  fun_induction digits number with
  | case1 number _ => exact fun _ => rfl
  | case2 number large induction =>
      intro zero
      have filled : digits (number / 10) ≠ [] := digits_ne_nil _
      rw [List.head?_append, List.head?_eq_some_head filled, Option.some_or,
        ← List.head?_eq_some_head filled] at zero
      have single := induction zero
      -- A single zero in front stands for a number below ten.
      rw [digits] at zero single
      split at zero
      · next small =>
          rw [List.head?_singleton, Option.some.injEq, digitValue_zero_iff] at zero
          omega
      · next deep =>
          rw [if_neg deep, List.length_append, List.length_singleton] at single
          exact absurd (List.length_eq_zero_iff.mp (by omega)) (digits_ne_nil (number / 10 / 10))

end Decimal

namespace Json

open Decimal

/-! ## Numbers -/

theorem le_foldl_digits (total : Nat) (numeral : List Char) :
    total ≤ numeral.foldl (fun total digit => total * 10 + digitValue digit) total := by
  induction numeral generalizing total with
  | nil => exact Nat.le_refl _
  | cons digit numeral induction =>
      have grown := induction (total * 10 + digitValue digit)
      rw [List.foldl_cons]
      omega

theorem leading_eq {total : Nat} {numeral : List Char}
    (fits : numeral.foldl (fun total digit => total * 10 + digitValue digit) total < Nat.pow 2 64) :
    leading total numeral =
      (numeral.foldl (fun total digit => total * 10 + digitValue digit) total, 0) := by
  induction numeral generalizing total with
  | nil => rfl
  | cons digit numeral induction =>
      have next : total * 10 + digitValue digit < Nat.pow 2 64 :=
        Nat.lt_of_le_of_lt (le_foldl_digits _ numeral) fits
      unfold leading
      rw [if_pos next]
      exact induction fits

theorem leading_digits {number : Nat} (fits : number < Nat.pow 2 64) :
    leading 0 (digits number) = (number, 0) := by
  have all : (digits number).foldl (fun total digit => total * 10 + digitValue digit) 0 =
      number := value_digits number
  rw [leading_eq (all.symm ▸ fits), all]

/-- No character stands in front that would go on with a numeral. -/
def Bounds (rest : List Char) : Prop :=
  ∀ char ∈ rest.head?, isDigit char = false ∧ char ≠ '.' ∧ char ≠ 'e' ∧ char ≠ 'E'

theorem bounds_nil : Bounds [] := nofun

theorem bounds_cons {char : Char} {rest : List Char} (other : isDigit char = false)
    (point : char ≠ '.') (lower : char ≠ 'e') (upper : char ≠ 'E') : Bounds (char :: rest) := by
  rintro _ ⟨⟩
  exact ⟨other, point, lower, upper⟩

theorem readScale_of_bounds {rest : List Char} (bounds : Bounds rest) (lead : Char)
    (numeral : Option Int → Numeral) :
    readScale lead numeral rest = ⟨.number (numeral none), some rest⟩ := by
  unfold readScale
  split
  · exact absurd rfl (bounds _ rfl).2.2.1
  · exact absurd rfl (bounds _ rfl).2.2.2
  · rfl

theorem takeWhile_digits {rest : List Char} (bounds : Bounds rest) (number : Nat) :
    (digits number ++ rest).takeWhile isDigit = digits number := by
  rw [List.takeWhile_append_of_pos (isDigit_of_mem_digits number)]
  cases rest with
  | nil => exact List.append_nil _
  | cons char rest => rw [List.takeWhile_cons_of_neg (by simp [(bounds char rfl).1]), List.append_nil]

theorem readDigits_digits {number : Nat} (fits : number < Nat.pow 2 64) {rest : List Char}
    (bounds : Bounds rest) (lead : Char) (negative : Bool) :
    readDigits lead negative (digits number ++ rest) =
      ⟨.number (.integer negative number), some rest⟩ := by
  have filled : (digits number).isEmpty = false := by
    simpa using digits_ne_nil number
  have proper : ¬ ((digits number).head? = some '0' ∧ 1 < (digits number).length) := by
    rintro ⟨zero, long⟩
    rw [head?_digits number zero] at long
    omega
  simp only [readDigits, takeWhile_digits bounds, List.drop_left, filled]
  rw [if_neg Bool.false_ne_true, if_neg proper]
  split
  · exact absurd rfl (bounds _ rfl).2.1
  · rw [readScale_of_bounds bounds]
    simp [Numeral.ofParts, leading_digits fits]

/-! ## Strings -/

def pieceOf (char : Char) : Piece :=
  if char.toNat < 32 ∧ char.toNat ∉ [8, 9, 10, 12, 13] then .unit char.toNat else .char char

theorem eq_of_toNat_eq {char : Char} {code : Nat} (same : char.toNat = code) :
    char = Char.ofNat code := by
  rw [← same, Char.ofNat_toNat]

/-- Each character of a written string is scanned on its own. -/
theorem scanText_writeChar (char : Char) (chars : List Char) :
    scanText (writeChar char ++ chars) =
      { scanText chars with pieces := pieceOf char :: (scanText chars).pieces } := by
  unfold writeChar
  split_ifs with quote slash backspace tab line feed carriage control
  · subst quote
    rfl
  · subst slash
    rfl
  · rw [eq_of_toNat_eq backspace]
    rfl
  · rw [eq_of_toNat_eq tab]
    rfl
  · rw [eq_of_toNat_eq line]
    rfl
  · rw [eq_of_toNat_eq feed]
    rfl
  · rw [eq_of_toNat_eq carriage]
    rfl
  · have upper : Hexadecimal.value? (Hexadecimal.lowerDigit (char.toNat / 16)) =
        some (char.toNat / 16) := Hexadecimal.value?_lowerDigit (by omega)
    have lower : Hexadecimal.value? (Hexadecimal.lowerDigit (char.toNat % 16)) =
        some (char.toNat % 16) := Hexadecimal.value?_lowerDigit (by omega)
    have zero : Hexadecimal.value? '0' = some 0 := rfl
    have unit : unitValue? '0' '0' (Hexadecimal.lowerDigit (char.toNat / 16))
        (Hexadecimal.lowerDigit (char.toNat % 16)) = some char.toNat := by
      simp only [unitValue?, upper, lower, zero, Option.bind_eq_bind, Option.bind_some,
        Option.pure_def, Option.some.injEq]
      omega
    have piece : pieceOf char = .unit char.toNat := by
      simp [pieceOf, control, backspace, tab, line, feed, carriage]
    rw [piece]
    simp only [List.cons_append, List.nil_append, scanText, unit]
    rfl
  · have piece : pieceOf char = .char char := by
      simp [pieceOf, control]
    rw [piece, List.singleton_append, scanText.eq_def]
    simp only [if_neg quote, if_neg slash, if_neg control]

theorem scanText_writeChars (text rest : List Char) :
    scanText (text.flatMap writeChar ++ '"' :: rest) = ⟨text.map pieceOf, .ok rest⟩ := by
  induction text with
  | nil =>
      rw [List.flatMap_nil, List.nil_append, scanText.eq_def]
      rfl
  | cons char text induction =>
      rw [List.flatMap_cons, List.append_assoc, scanText_writeChar, induction]
      rfl

theorem joinPieces_pieceOf (text : List Char) :
    joinPieces none (text.map pieceOf) = .ok text := by
  induction text with
  | nil => rfl
  | cons char text induction =>
      rw [List.map_cons, pieceOf, joinPieces.eq_def]
      split_ifs with control
      · have low : char.toNat < 0xD800 ∨ 0xE000 ≤ char.toNat := by omega
        simp only [if_pos low, induction, Char.ofNat_toNat]
        rfl
      · simp only [induction]
        rfl

theorem scanText_writeText (text : String) (rest : List Char) :
    scanText (text.toList.flatMap writeChar ++ '"' :: rest) =
        ⟨text.toList.map pieceOf, .ok rest⟩ ∧
      (Scan.mk (text.toList.map pieceOf) (.ok rest)).content = .ok text := by
  refine ⟨scanText_writeChars text.toList rest, ?_⟩
  simp only [Scan.content, joinPieces_pieceOf]
  simp [Except.map]

theorem readText_writeText (text : String) (rest : List Char) :
    readText (text.toList.flatMap writeChar ++ '"' :: rest) = ⟨.text (.ok text), some rest⟩ := by
  rcases scanText_writeText text rest with ⟨scans, content⟩
  rw [readText, scans]
  dsimp only
  rw [content]

theorem readKey_writeText (name : String) (rest : List Char) :
    readKey (writeText name ++ rest) = (.text (.ok name), some rest) := by
  rcases scanText_writeText name rest with ⟨scans, content⟩
  simp only [writeText, List.cons_append, List.append_assoc, List.nil_append, readKey, scans,
    content]

/-! ## Values -/

mutual

def Fits : Json → Prop
  | .number value => value.natAbs < Nat.pow 2 64
  | .array items => FitItems items
  | .object members => FitMembers members
  | .null | .bool _ | .text _ => True

def FitItems : List Json → Prop
  | [] => True
  | item :: items => item.Fits ∧ FitItems items

def FitMembers : List (String × Json) → Prop
  | [] => True
  | (_, value) :: members => value.Fits ∧ FitMembers members

end

theorem skipGap_cons {char : Char} (solid : isGap char = false) (chars : List Char) :
    skipGap (char :: chars) = char :: chars := by
  rw [skipGap, List.dropWhile_cons_of_neg (by simp [solid])]

/-- What is neither a string nor an array nor an object is a word or a number. -/
theorem readValue_scalar {char : Char} (solid : isGap char = false) (text : char ≠ '"')
    (array : char ≠ '[') (object : char ≠ '\x7b') (fuel : Nat) (chars : List Char) :
    readValue (fuel + 1) (char :: chars) = readScalar (char :: chars) := by
  rw [readValue, skipGap_cons solid]
  split
  · next same => exact absurd (List.cons.inj same).1 text
  · next same => exact absurd (List.cons.inj same).1 array
  · next same => exact absurd (List.cons.inj same).1 object
  · rfl

theorem ne_of_isDigit {char other : Char} (digit : isDigit char = true)
    (differs : isDigit other = false) : char ≠ other := by
  rintro rfl
  rw [digit] at differs
  cases differs

theorem isGap_of_isDigit {char : Char} (digit : isDigit char = true) : isGap char = false := by
  have space : char ≠ ' ' := ne_of_isDigit digit (by decide)
  have line : char ≠ '\n' := ne_of_isDigit digit (by decide)
  have tab : char ≠ '\t' := ne_of_isDigit digit (by decide)
  have carriage : char ≠ '\r' := ne_of_isDigit digit (by decide)
  simp [isGap, space, line, tab, carriage]

theorem readValue_number {value : Int} (fits : value.natAbs < Nat.pow 2 64) {rest : List Char}
    (bounds : Bounds rest) (fuel : Nat) :
    readValue (fuel + 1) (Decimal.ofInt value ++ rest) =
      ⟨.number (.ofInt value), some rest⟩ := by
  cases value with
  | ofNat number =>
      rw [Decimal.ofInt]
      have digit : ∀ char ∈ digits number, isDigit char = true := isDigit_of_mem_digits number
      cases written : digits number with
      | nil => exact absurd written (digits_ne_nil number)
      | cons char chars =>
          rw [written] at digit
          have first := digit char List.mem_cons_self
          have apart {other : Char} (differs : isDigit other = false) : char ≠ other :=
            ne_of_isDigit first differs
          have shown : readDigits char false (digits number ++ rest) = _ :=
            readDigits_digits fits bounds char false
          rw [written] at shown
          rw [List.cons_append, readValue_scalar (isGap_of_isDigit first) (apart (by decide))
            (apart (by decide)) (apart (by decide)), readScalar, if_neg (apart (by decide)),
            if_neg (apart (by decide)), if_neg (apart (by decide)), if_neg (apart (by decide)),
            if_pos first]
          have positive : ¬ (number : Int) < 0 := by omega
          simpa [Numeral.ofInt, positive] using shown
  | negSucc predecessor =>
      have shown : readDigits '-' true (digits (predecessor + 1) ++ rest) = _ :=
        readDigits_digits fits bounds '-' true
      rw [Decimal.ofInt, List.cons_append,
        readValue_scalar (by decide) (by decide) (by decide) (by decide), readScalar,
        if_neg (by decide), if_neg (by decide), if_neg (by decide), if_pos rfl, shown,
        Numeral.ofInt, decide_eq_true (Int.negSucc_lt_zero predecessor)]

theorem readWord_append (lead : Char) (value : Raw) (letters rest : List Char) :
    readWord lead value letters (letters ++ rest) = ⟨value, some rest⟩ := by
  induction letters with
  | nil => rfl
  | cons letter letters induction =>
      rw [List.cons_append, readWord, if_pos rfl]
      exact induction

theorem bounds_writeItems (items : List Json) (rest : List Char) :
    Bounds (writeItems items ++ rest) := by
  cases items <;> exact bounds_cons (by decide) (by decide) (by decide) (by decide)

theorem bounds_writeMembers (members : List (String × Json)) (rest : List Char) :
    Bounds (writeMembers members ++ rest) := by
  rcases members with _ | ⟨⟨name, value⟩, members⟩ <;>
    exact bounds_cons (by decide) (by decide) (by decide) (by decide)

theorem write_eq_cons (json : Json) :
    ∃ char chars, write json = char :: chars ∧ isGap char = false ∧ char ≠ ']' := by
  match json with
  | .null | .bool true | .bool false | .text _ | .array [] | .array (_ :: _) | .object []
  | .object (_ :: _) => exact ⟨_, _, rfl, by decide, by decide⟩
  | .number (.negSucc _) => exact ⟨_, _, rfl, by decide, by decide⟩
  | .number (.ofNat count) =>
      have digit : ∀ char ∈ digits count, isDigit char = true := isDigit_of_mem_digits count
      cases written : digits count with
      | nil => exact absurd written (digits_ne_nil count)
      | cons char chars =>
          rw [written] at digit
          have first := digit char List.mem_cons_self
          exact ⟨char, chars, written, isGap_of_isDigit first, ne_of_isDigit first (by decide)⟩

theorem length_write_pos (json : Json) : 0 < (write json).length := by
  rcases write_eq_cons json with ⟨char, chars, written, _⟩
  rw [written]
  exact Nat.succ_pos _

theorem skipGap_writeText (name : String) (rest : List Char) :
    skipGap (writeText name ++ rest) = writeText name ++ rest :=
  skipGap_cons (by decide) _

/-! ## Single steps -/

section

variable {fuel : Nat} {chars after rest : List Char} {raw : Raw} {key : Key}

theorem readValue_bracket {char : Char} (solid : isGap char = false) (other : char ≠ ']') :
    readValue (fuel + 1) ('[' :: char :: rest) = readItems fuel [] (char :: rest) := by
  have opening : isGap '[' = false := by decide
  simp only [readValue, skipGap_cons opening, skipGap_cons solid]
  split
  · next same => cases same
  · next same => exact absurd (List.cons.inj same).1 other
  · rfl

theorem readItems_last (before : List Raw)
    (first : readValue fuel chars = ⟨raw, some (']' :: rest)⟩) :
    readItems (fuel + 1) before chars = ⟨.array (before.reverse ++ [raw]) none, some rest⟩ := by
  rw [readItems, first, ← List.reverse_cons]
  rfl

theorem readItems_next (before : List Raw)
    (first : readValue fuel chars = ⟨raw, some (',' :: rest)⟩) :
    readItems (fuel + 1) before chars = readItems fuel (raw :: before) rest := by
  rw [readItems, first]
  rfl

theorem skipGap_colon (chars : List Char) : skipGap (':' :: chars) = ':' :: chars :=
  skipGap_cons (by decide) chars

theorem readMembers_last (before : List (Key × Raw))
    (named : readKey (skipGap chars) = (key, some (':' :: after)))
    (first : readValue fuel after = ⟨raw, some ('\x7d' :: rest)⟩) :
    readMembers (fuel + 1) before chars =
      ⟨.object (before.reverse ++ [(key, raw)]) none, some rest⟩ := by
  simp only [readMembers, named, skipGap_colon, first, ← List.reverse_cons]
  rfl

theorem readMembers_next (before : List (Key × Raw))
    (named : readKey (skipGap chars) = (key, some (':' :: after)))
    (first : readValue fuel after = ⟨raw, some (',' :: rest)⟩) :
    readMembers (fuel + 1) before chars = readMembers fuel ((key, raw) :: before) rest := by
  simp only [readMembers, named, skipGap_colon, first]
  rfl

end

/-! ## Whole values -/

/-- With this much fuel, what is written is read up to its end. -/
structure Reads (fuel : Nat) : Prop where
  value : ∀ (json : Json) (rest : List Char), json.Fits → (write json).length ≤ fuel →
    Bounds rest → readValue fuel (write json ++ rest) = ⟨.ofJson json, some rest⟩
  items : ∀ (item : Json) (items : List Json) (before : List Raw) (rest : List Char),
    item.Fits → FitItems items → (write item).length + (writeItems items).length ≤ fuel →
      readItems fuel before (write item ++ (writeItems items ++ rest)) =
        ⟨.array (before.reverse ++ Raw.ofItems (item :: items)) none, some rest⟩
  members : ∀ (name : String) (value : Json) (members : List (String × Json))
    (before : List (Key × Raw)) (rest : List Char), value.Fits → FitMembers members →
      (write value).length + (writeMembers members).length ≤ fuel →
        readMembers fuel before
            (writeText name ++ ':' :: (write value ++ (writeMembers members ++ rest))) =
          ⟨.object (before.reverse ++ Raw.ofMembers ((name, value) :: members)) none, some rest⟩

namespace Reads

variable {fuel : Nat}

theorem zero : Reads 0 where
  value json _ _ room _ := absurd room (Nat.not_le_of_lt (length_write_pos json))
  items item _ _ _ _ _ room := by
    have := length_write_pos item
    omega
  members _ value _ _ _ _ _ room := by
    have := length_write_pos value
    omega

theorem value_succ (reads : Reads fuel) (json : Json) (rest : List Char) (fits : json.Fits)
    (room : (write json).length ≤ fuel + 1) (bounds : Bounds rest) :
    readValue (fuel + 1) (write json ++ rest) = ⟨.ofJson json, some rest⟩ := by
  match json with
  | .null => exact readWord_append 'n' .null "ull".toList rest
  | .bool true => exact readWord_append 't' (.bool true) "rue".toList rest
  | .bool false => exact readWord_append 'f' (.bool false) "alse".toList rest
  | .number value => exact readValue_number fits bounds fuel
  | .text value =>
      have shown := readText_writeText value rest
      simpa [write, writeText, readValue, skipGap_cons (show isGap '"' = false by decide),
        Raw.ofJson] using shown
  | .array [] | .object [] => rfl
  | .array (item :: items) =>
      have shown := reads.items item items [] rest fits.1 fits.2 (by
        rw [write, List.length_cons, List.length_append] at room
        omega)
      rcases write_eq_cons item with ⟨char, chars, written, solid, other⟩
      rw [written, List.cons_append] at shown
      rw [write, written, List.cons_append, List.cons_append, List.cons_append,
        List.append_assoc, readValue_bracket solid other]
      exact shown
  | .object ((name, value) :: members) =>
      have shown := reads.members name value members [] rest fits.1 fits.2 (by
        rw [write, List.length_cons, List.length_append, List.length_cons,
          List.length_append] at room
        omega)
      rw [write, List.cons_append, List.append_assoc, List.cons_append, List.append_assoc]
      exact shown

theorem length_writeItems_pos (items : List Json) : 0 < (writeItems items).length := by
  cases items <;> exact Nat.succ_pos _

theorem length_writeMembers_pos (members : List (String × Json)) :
    0 < (writeMembers members).length := by
  rcases members with _ | ⟨⟨name, value⟩, members⟩ <;> exact Nat.succ_pos _

theorem items_succ (reads : Reads fuel) (item : Json) (items : List Json) (before : List Raw)
    (rest : List Char) (fits : item.Fits) (others : FitItems items)
    (room : (write item).length + (writeItems items).length ≤ fuel + 1) :
    readItems (fuel + 1) before (write item ++ (writeItems items ++ rest)) =
      ⟨.array (before.reverse ++ Raw.ofItems (item :: items)) none, some rest⟩ := by
  have follows := length_writeItems_pos items
  have first := reads.value item (writeItems items ++ rest) fits (by omega)
    (bounds_writeItems items rest)
  cases items with
  | nil => exact readItems_last before first
  | cons next items =>
      rw [writeItems, List.cons_append, List.append_assoc] at first ⊢
      rw [readItems_next before first, reads.items next items _ rest others.1 others.2]
      · simp [Raw.ofItems]
      · rw [writeItems, List.length_cons, List.length_append] at room
        omega

theorem members_succ (reads : Reads fuel) (name : String) (value : Json)
    (members : List (String × Json)) (before : List (Key × Raw)) (rest : List Char)
    (fits : value.Fits) (others : FitMembers members)
    (room : (write value).length + (writeMembers members).length ≤ fuel + 1) :
    readMembers (fuel + 1) before
        (writeText name ++ ':' :: (write value ++ (writeMembers members ++ rest))) =
      ⟨.object (before.reverse ++ Raw.ofMembers ((name, value) :: members)) none, some rest⟩ := by
  have follows := length_writeMembers_pos members
  have first := reads.value value (writeMembers members ++ rest) fits (by omega)
    (bounds_writeMembers members rest)
  have named := readKey_writeText name (':' :: (write value ++ (writeMembers members ++ rest)))
  rw [← skipGap_writeText] at named
  rcases members with _ | ⟨⟨nextName, next⟩, members⟩
  · exact readMembers_last before named first
  · rw [writeMembers, List.cons_append, List.append_assoc, List.cons_append,
      List.append_assoc] at first named ⊢
    rw [readMembers_next before named first,
      reads.members nextName next members _ rest others.1 others.2]
    · simp [Raw.ofMembers]
    · rw [writeMembers, List.length_cons, List.length_append, List.length_cons,
        List.length_append] at room
      omega

end Reads

/-- Fuel for each character is enough. -/
theorem reads (fuel : Nat) : Reads fuel := by
  induction fuel with
  | zero => exact .zero
  | succ fuel induction =>
      exact ⟨induction.value_succ, induction.items_succ, induction.members_succ⟩

theorem parse_compact {json : Json} (fits : json.Fits) :
    parse json.compact = ⟨.ofJson json, some []⟩ := by
  have chars : json.compact.toList = write json := by simp [compact]
  have length : json.compact.length = (write json).length := by simp [compact]
  have shown := (reads (2 * json.compact.length + 2)).value json [] fits (by omega) bounds_nil
  rw [List.append_nil] at shown
  rw [parse, chars]
  exact shown

theorem decode_compact {α : Type} (reader : Reader α) {json : Json} (fits : json.Fits) :
    decode reader json.compact = reader (.ofJson json) := by
  unfold decode
  rw [parse_compact fits]
  cases read : reader (.ofJson json) with
  | error fault => simp [read, bind, Except.bind]
  | ok value => simp [read, bind, Except.bind, pure, Except.pure, skipGap]

end Json

end StrongAuth
