import Mathlib.Data.List.Basic
import StrongAuth.Url.Reading

/-! # Percent-encoded text

Main statements: text that is encoded with the percent sign among the escaped characters is
decoded again; encoding leaves only kept characters and escapes, and makes no dot segment that was
none before. -/

namespace StrongAuth

/-! ## UTF-8 -/

namespace Text

theorem ofUtf8?_flatMap (chars : List Char) :
    ofUtf8? (chars.flatMap String.utf8EncodeChar) = some (String.ofList chars) := by
  have bytes : (⟨(chars.flatMap String.utf8EncodeChar).toArray⟩ : ByteArray) =
      chars.utf8Encode := ByteArray.ext List.data_toByteArray.symm
  have valid : chars.utf8Encode.IsValidUTF8 := ⟨chars, rfl⟩
  rw [ofUtf8?, bytes, String.fromUTF8?, dif_pos valid]
  rfl

theorem utf8EncodeChar_eq_cons (char : Char) : ∃ byte bytes,
    String.utf8EncodeChar char = byte :: bytes ∧ (byte.toNat = 46 → char = '.') := by
  have bound : char.val.toNat < 1114112 := by
    rcases char.valid with small | ⟨_, small⟩
    · exact Nat.lt_trans small (by decide)
    · exact small
  simp only [String.utf8EncodeChar]
  split
  · next small =>
      refine ⟨_, _, rfl, fun dot => ?_⟩
      rw [UInt8.toNat_ofNat', Nat.mod_eq_of_lt (by omega)] at dot
      rw [← Char.ofNat_toNat char, show char.toNat = 46 from dot]
  · -- The first byte of several is at least 192.
    split
    · refine ⟨_, _, rfl, fun dot => ?_⟩
      rw [UInt8.toNat_ofNat'] at dot
      omega
    · split
      · refine ⟨_, _, rfl, fun dot => ?_⟩
        rw [UInt8.toNat_ofNat'] at dot
        omega
      · refine ⟨_, _, rfl, fun dot => ?_⟩
        rw [UInt8.toNat_ofNat'] at dot
        omega

end Text

namespace Percent

variable {keep : Char → Bool}

/-! ## Decoding -/

theorem decodeBytes_cons {char : Char} (other : char ≠ '%') (rest : List Char) :
    decodeBytes (char :: rest) = String.utf8EncodeChar char ++ decodeBytes rest := by
  rw [decodeBytes]
  intro high low more same
  exact absurd same other

theorem decodeBytes_of_not_mem {chars : List Char} (plain : '%' ∉ chars) :
    decodeBytes chars = chars.flatMap String.utf8EncodeChar := by
  induction chars with
  | nil => rfl
  | cons char chars induction =>
      have other : char ≠ '%' := fun same => plain (same ▸ List.mem_cons_self)
      rw [decodeBytes_cons other, induction fun later => plain (List.mem_cons_of_mem _ later),
        List.flatMap_cons]

theorem decode?_of_not_mem {chars : List Char} (plain : '%' ∉ chars) :
    decode? (String.ofList chars) = some (String.ofList chars) := by
  rw [decode?, String.toList_ofList, decodeBytes_of_not_mem plain, Text.ofUtf8?_flatMap]

theorem decodeBytes_escapes (bytes : List UInt8) (rest : List Char) :
    decodeBytes (bytes.flatMap escapeByte ++ rest) = bytes ++ decodeBytes rest := by
  induction bytes with
  | nil => rfl
  | cons byte bytes induction =>
      have bound := byte.toNat_lt
      have high : Hexadecimal.value? (Hexadecimal.upperDigit (byte.toNat / 16)) = _ :=
        Hexadecimal.value?_upperDigit (by omega)
      have low : Hexadecimal.value? (Hexadecimal.upperDigit (byte.toNat % 16)) = _ :=
        Hexadecimal.value?_upperDigit (by omega)
      have whole : byte.toNat / 16 * 16 + byte.toNat % 16 = byte.toNat := by omega
      rw [List.flatMap_cons, List.append_assoc, escapeByte]
      simp only [List.cons_append, List.nil_append, decodeBytes, high, low, whole,
        UInt8.ofNat_toNat, induction]

/-- Where percent signs are escaped, what is encoded is decoded. -/
theorem decodeBytes_encodeChars (escapes : keep '%' = false) (chars : List Char) :
    decodeBytes (encodeChars keep chars) = chars.flatMap String.utf8EncodeChar := by
  induction chars with
  | nil => rfl
  | cons char chars induction =>
      rw [encodeChars, List.flatMap_cons, ← encodeChars, List.flatMap_cons, encodeChar]
      split
      · next kept =>
          have other : char ≠ '%' := by
            rintro rfl
            rw [escapes] at kept
            cases kept
          rw [List.singleton_append, decodeBytes_cons other, induction]
      · rw [decodeBytes_escapes, induction]

theorem decode?_encodeSegment (text : String) : decode? (encodeSegment text) = some text := by
  rw [decode?, encodeSegment, String.toList_ofList, decodeBytes_encodeChars (by decide),
    Text.ofUtf8?_flatMap, String.ofList_toList]

/-! ## What encoding leaves -/

theorem encodeChars_of_kept {chars : List Char} (kept : ∀ char ∈ chars, keep char = true) :
    encodeChars keep chars = chars := by
  induction chars with
  | nil => rfl
  | cons char chars induction =>
      rw [encodeChars, List.flatMap_cons, ← encodeChars,
        induction fun other later => kept other (List.mem_cons_of_mem _ later), encodeChar,
        if_pos (kept char List.mem_cons_self), List.singleton_append]

theorem of_mem_escapes {bytes : List UInt8} {char : Char}
    (member : char ∈ bytes.flatMap escapeByte) :
    char = '%' ∨ ∃ digit < 16, char = Hexadecimal.upperDigit digit := by
  rcases List.mem_flatMap.mp member with ⟨byte, _, written⟩
  have bound := byte.toNat_lt
  simp only [escapeByte, List.mem_cons, List.not_mem_nil, or_false] at written
  rcases written with percent | high | low
  · exact .inl percent
  · exact .inr ⟨_, by omega, high⟩
  · exact .inr ⟨_, by omega, low⟩

theorem of_mem_encodeChars {chars : List Char} {char : Char}
    (member : char ∈ encodeChars keep chars) :
    (char ∈ chars ∧ keep char = true) ∨ char = '%' ∨
      ∃ digit < 16, char = Hexadecimal.upperDigit digit := by
  rcases List.mem_flatMap.mp member with ⟨source, listed, written⟩
  rw [encodeChar] at written
  split at written
  · next kept =>
      rw [List.mem_singleton.mp written]
      exact .inl ⟨listed, kept⟩
  · exact .inr (of_mem_escapes written)

/-- The characters of an encoded text have every property that the kept characters and those of
escapes have. -/
theorem forall_encodeChars {property : Char → Prop} {chars : List Char}
    (kept : ∀ char ∈ chars, keep char = true → property char) (percent : property '%')
    (digits : ∀ digit < 16, property (Hexadecimal.upperDigit digit)) :
    ∀ char ∈ encodeChars keep chars, property char := by
  intro char member
  rcases of_mem_encodeChars member with ⟨listed, stays⟩ | rfl | ⟨digit, small, rfl⟩
  · exact kept char listed stays
  · exact percent
  · exact digits digit small

/-- Where percent signs and digits are kept, all that is written is kept. -/
theorem kept_encodeChars (percent : keep '%' = true)
    (digits : ∀ digit < 16, keep (Hexadecimal.upperDigit digit) = true) (chars : List Char) :
    ∀ char ∈ encodeChars keep chars, keep char = true :=
  forall_encodeChars (fun _ _ kept => kept) percent digits

/-! ## Dots -/

/-- Dots, each as it is or escaped. -/
inductive Dots : List Char → Prop
  | nil : Dots []
  | plain {rest : List Char} (dots : Dots rest) : Dots ('.' :: rest)
  | escaped {digit : Char} {rest : List Char} (fourteen : digit = 'e' ∨ digit = 'E')
      (dots : Dots rest) : Dots ('%' :: '2' :: digit :: rest)

theorem upperDigit_two {digit : Nat} (small : digit < 16)
    (two : Hexadecimal.upperDigit digit = '2') : digit = 2 := by
  have table : ∀ digit < 16, Hexadecimal.upperDigit digit = '2' → digit = 2 := by decide
  exact table digit small two

theorem upperDigit_fourteen {digit : Nat} (small : digit < 16)
    (fourteen : Hexadecimal.upperDigit digit = 'e' ∨ Hexadecimal.upperDigit digit = 'E') :
    digit = 14 := by
  have table : ∀ digit < 16, Hexadecimal.upperDigit digit = 'e' ∨
      Hexadecimal.upperDigit digit = 'E' → digit = 14 := by decide
  exact table digit small fourteen

/-- A character that is escaped does not read as a dot. -/
theorem encodeChars_of_escaped (keepsDot : keep '.' = true) {char : Char}
    (lost : keep char ≠ true) (chars : List Char) : ∃ high low rest,
      encodeChars keep (char :: chars) = '%' :: high :: low :: rest ∧
        ¬ (high = '2' ∧ (low = 'e' ∨ low = 'E')) := by
  rcases Text.utf8EncodeChar_eq_cons char with ⟨byte, bytes, encoded, dot⟩
  have bound := byte.toNat_lt
  refine ⟨Hexadecimal.upperDigit (byte.toNat / 16), Hexadecimal.upperDigit (byte.toNat % 16),
    bytes.flatMap escapeByte ++ encodeChars keep chars, ?_, ?_⟩
  · rw [encodeChars, List.flatMap_cons, encodeChar, if_neg lost, encoded, List.flatMap_cons,
      escapeByte]
    rfl
  · rintro ⟨two, fourteen⟩
    have high := upperDigit_two (by omega) two
    have low := upperDigit_fourteen (by omega) fourteen
    rw [dot (by omega)] at lost
    exact lost keepsDot

theorem encodeChars_cons_of_kept {char : Char} (kept : keep char = true) (chars : List Char) :
    encodeChars keep (char :: chars) = char :: encodeChars keep chars := by
  rw [encodeChars, List.flatMap_cons, encodeChar, if_pos kept]
  rfl

theorem eq_cons_of_encodeChars {chars rest : List Char} {char : Char} (other : char ≠ '%')
    (keepsDot : keep '.' = true) (same : encodeChars keep chars = char :: rest) :
    ∃ more, chars = char :: more ∧ encodeChars keep more = rest := by
  cases chars with
  | nil => cases same
  | cons first more =>
      by_cases kept : keep first = true
      · rw [encodeChars_cons_of_kept kept] at same
        rcases List.cons.inj same with ⟨rfl, behind⟩
        exact ⟨more, rfl, behind⟩
      · rcases encodeChars_of_escaped keepsDot kept more with ⟨high, low, tail, written, _⟩
        rw [written] at same
        exact absurd (List.cons.inj same).1.symm other

/-- What is encoded as dots is written so. -/
theorem eq_of_encodeChars_dots (keepsDot : keep '.' = true) {chars dots : List Char}
    (shape : Dots dots) (same : encodeChars keep chars = dots) : chars = dots := by
  induction shape generalizing chars with
  | nil =>
      cases chars with
      | nil => rfl
      | cons char chars =>
          by_cases kept : keep char = true
          · rw [encodeChars_cons_of_kept kept] at same
            cases same
          · rcases encodeChars_of_escaped keepsDot kept chars with ⟨high, low, tail, written, _⟩
            rw [written] at same
            cases same
  | plain dots induction =>
      rcases eq_cons_of_encodeChars (by decide) keepsDot same with ⟨more, rfl, behind⟩
      rw [induction behind]
  | @escaped digit rest fourteen dots induction =>
      have noPercent : digit ≠ '%' := by rcases fourteen with rfl | rfl <;> decide
      cases chars with
      | nil => cases same
      | cons char chars =>
          by_cases kept : keep char = true
          · rw [encodeChars_cons_of_kept kept] at same
            rcases List.cons.inj same with ⟨rfl, behind⟩
            rcases eq_cons_of_encodeChars (by decide) keepsDot behind with ⟨more, rfl, two⟩
            rcases eq_cons_of_encodeChars noPercent keepsDot two with ⟨last, rfl, fourteen⟩
            rw [induction fourteen]
          · rcases encodeChars_of_escaped keepsDot kept chars
              with ⟨high, low, tail, written, noDot⟩
            rw [written] at same
            simp only [List.cons.injEq] at same
            rcases same with ⟨_, rfl, rfl, _⟩
            exact absurd ⟨rfl, fourteen⟩ noDot

end Percent

/-! ## Dot segments -/

namespace Url

open Percent

theorem eq_or_of_toLower {char lower : Char} (same : char.toLower = lower) :
    char = lower ∨ (65 ≤ char.toNat ∧ char.toNat ≤ 90 ∧ char.toNat + 32 = lower.toNat) := by
  delta Char.toLower at same
  split at same
  · next capital =>
      have least : 65 ≤ char.toNat := capital.1
      have greatest : char.toNat ≤ 90 := capital.2
      have fits : char.val.toNat + 32 < 2 ^ 32 :=
        Nat.lt_of_le_of_lt (Nat.add_le_add_right greatest 32) (by decide)
      refine .inr ⟨least, greatest, ?_⟩
      rw [← same]
      exact ((UInt32.toNat_add char.val 32).trans (Nat.mod_eq_of_lt fits)).symm
  · exact .inl same

theorem eq_of_toLower {char lower : Char} (small : lower.toNat < 97)
    (same : char.toLower = lower) : char = lower := by
  rcases eq_or_of_toLower same with equal | ⟨_, _, _⟩
  · exact equal
  · omega

theorem letter_of_toLower {char digit : Char} (fourteen : digit = 'e' ∨ digit = 'E')
    (same : char.toLower = digit) : char = 'e' ∨ char = 'E' := by
  rcases fourteen with rfl | rfl
  · rcases eq_or_of_toLower same with equal | ⟨_, _, shifted⟩
    · exact .inl equal
    · have capital : char.toNat = 69 := Nat.add_right_cancel shifted
      exact .inr (by rw [← Char.ofNat_toNat char, capital])
  · exact .inr (eq_of_toLower (by decide) same)

/-- Text whose small letters are dots is dots. -/
theorem dots_of_toLower {chars dots : List Char} (shape : Dots dots)
    (same : chars.map Char.toLower = dots) : Dots chars := by
  induction shape generalizing chars with
  | nil => exact List.map_eq_nil_iff.mp same ▸ .nil
  | plain _ induction =>
      rcases List.map_eq_cons_iff.mp same with ⟨first, rest, rfl, dot, behind⟩
      rw [eq_of_toLower (by decide) dot]
      exact .plain (induction behind)
  | escaped fourteen _ induction =>
      rcases List.map_eq_cons_iff.mp same with ⟨first, rest, rfl, percent, behind⟩
      rcases List.map_eq_cons_iff.mp behind with ⟨second, rest, rfl, two, behind'⟩
      rcases List.map_eq_cons_iff.mp behind' with ⟨third, rest, rfl, digit, last⟩
      rw [eq_of_toLower (by decide) percent, eq_of_toLower (by decide) two]
      exact .escaped (letter_of_toLower fourteen digit) (induction last)

def isDot (segment : List Char) : Bool :=
  isDoubleDot segment || isSingleDot segment

/-- The dot segments in small letters. -/
def dotSegments : List String :=
  ["..", ".%2e", "%2e.", "%2e%2e", ".", "%2e"]

theorem toLower_of_isDot {segment : List Char} (dot : isDot segment = true) :
    ∃ text ∈ dotSegments, segment.map Char.toLower = text.toList := by
  have listed : String.ofList (segment.map Char.toLower) ∈ dotSegments := by
    simp only [isDot, isDoubleDot, isSingleDot, Bool.or_eq_true, List.contains_iff_mem,
      List.mem_cons, List.not_mem_nil, or_false] at dot
    simp only [dotSegments, List.mem_cons, List.not_mem_nil, or_false]
    grind
  exact ⟨_, listed, String.toList_ofList.symm⟩

theorem dots_of_isDot {segment : List Char} (dot : isDot segment = true) : Dots segment := by
  have escape : Dots ['%', '2', 'e'] := .escaped (.inl rfl) .nil
  rcases toLower_of_isDot dot with ⟨text, listed, same⟩
  refine dots_of_toLower ?_ same
  simp only [dotSegments, List.mem_cons, List.not_mem_nil, or_false] at listed
  rcases listed with rfl | rfl | rfl | rfl | rfl | rfl
  · exact .plain (.plain .nil)
  · exact .plain escape
  · exact .escaped (.inl rfl) (.plain .nil)
  · exact .escaped (.inl rfl) escape
  · exact .plain .nil
  · exact escape

/-- No dot segment comes about by encoding. -/
theorem isDot_encodeChars {keep : Char → Bool} (keepsDot : keep '.' = true) {segment : List Char}
    (dot : isDot (encodeChars keep segment) = true) :
    isDot segment = true ∧ encodeChars keep segment = segment := by
  have same := eq_of_encodeChars_dots keepsDot (dots_of_isDot dot) rfl
  exact ⟨same ▸ dot, same.symm⟩

/-- Where percent signs are escaped, dots stay the same only without escapes. -/
theorem eq_replicate_of_dots {keep : Char → Bool} (keepsDot : keep '.' = true)
    (escapes : keep '%' = false) {dots : List Char} (shape : Dots dots)
    (same : encodeChars keep dots = dots) : dots = List.replicate dots.length '.' := by
  induction shape with
  | nil => rfl
  | plain _ induction =>
      rw [encodeChars_cons_of_kept keepsDot] at same
      rw [List.length_cons, List.replicate_succ, ← induction (List.cons.inj same).2]
  | @escaped digit rest fourteen _ _ =>
      have written : encodeChars keep ('%' :: '2' :: digit :: rest) =
          '%' :: '2' :: '5' :: encodeChars keep ('2' :: digit :: rest) := by
        rw [encodeChars, List.flatMap_cons, encodeChar, if_neg (by rw [escapes]; decide)]
        rfl
      rw [written] at same
      simp only [List.cons.injEq, true_and] at same
      rcases fourteen with rfl | rfl
      · exact absurd same.1 (by decide)
      · exact absurd same.1 (by decide)

theorem isDot_encodeSegment {text : String} :
    isDot (encodeSegment text).toList = true ↔ text = "." ∨ text = ".." := by
  constructor
  · intro dot
    rw [encodeSegment, String.toList_ofList] at dot
    rcases isDot_encodeChars (by decide) dot with ⟨source, same⟩
    have dots := eq_replicate_of_dots (by decide) (by decide) (dots_of_isDot source) same
    have unchanged : text.toList.map Char.toLower = text.toList := by
      rw [dots, List.map_replicate]
      rfl
    rcases toLower_of_isDot source with ⟨other, listed, lower⟩
    have equal : text = other := String.toList_injective (unchanged.symm.trans lower)
    subst equal
    have plain : '%' ∉ text.toList := fun percent => by
      rw [dots] at percent
      exact absurd (List.eq_of_mem_replicate percent) (by decide)
    have table : ∀ text ∈ dotSegments, '%' ∉ text.toList → text = "." ∨ text = ".." := by decide
    exact table text listed plain
  · rintro (rfl | rfl)
    · decide
    · decide

end Url

end StrongAuth
