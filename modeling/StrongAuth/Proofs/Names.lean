import Mathlib.Data.List.Forall2
import StrongAuth.Proofs.Rereading

/-! # Names in a path

Main statement: names that are encoded behind the segments of a path are found there when the path
is walked along again, if and only if none of all segments is a dot. -/

namespace StrongAuth.Url

open Percent

variable {kind : SchemeKind}

/-! ## Names -/

/-- The segment stands for the text. -/
structure Stands (segment : List Char) (text : String) : Prop where
  whole : '/' ∉ segment
  decoded : decode? (String.ofList segment) = some text

def encoded (names : List String) : List (List Char) :=
  names.map fun name => (encodeSegment name).toList

theorem isUnreserved_ascii {char : Char} (unreserved : isUnreserved char = true) :
    char.toNat < 128 := by
  simp only [isUnreserved, Bool.or_eq_true, beq_iff_eq] at unreserved
  rcases unreserved with (((alphanum | rfl) | rfl) | rfl) | rfl
  · exact isAlphanum_ascii alphanum
  all_goals decide

theorem fits_encodeSegment (name : String) : Fits kind (encodeSegment name).toList ∧
    ':' ∉ (encodeSegment name).toList ∧ '|' ∉ (encodeSegment name).toList := by
  have table : ∀ code < 128, isUnreserved (Char.ofNat code) = true →
      keptInPath (Char.ofNat code) = true ∧ Char.ofNat code ≠ '/' ∧ Char.ofNat code ≠ '\\' ∧
        Char.ofNat code ≠ ':' ∧ Char.ofNat code ≠ '|' := by decide
  have digits : ∀ digit < 16, keptInPath (Hexadecimal.upperDigit digit) = true ∧
      Hexadecimal.upperDigit digit ≠ '/' ∧ Hexadecimal.upperDigit digit ≠ '\\' ∧
        Hexadecimal.upperDigit digit ≠ ':' ∧ Hexadecimal.upperDigit digit ≠ '|' := by decide
  have all : ∀ char ∈ (encodeSegment name).toList, keptInPath char = true ∧ char ≠ '/' ∧
      char ≠ '\\' ∧ char ≠ ':' ∧ char ≠ '|' := by
    rw [encodeSegment, String.toList_ofList]
    exact forall_encodeChars (fun char _ kept => @of_ascii (fun char => isUnreserved char = true →
      keptInPath char = true ∧ char ≠ '/' ∧ char ≠ '\\' ∧ char ≠ ':' ∧ char ≠ '|') table char
      (isUnreserved_ascii kept) kept) (by decide) digits
  refine ⟨⟨fun char member => (all char member).1, fun char member => ?_⟩,
    fun member => (all ':' member).2.2.2.1 rfl, fun member => (all '|' member).2.2.2.2 rfl⟩
  simp [isSlash, (all char member).2.1, (all char member).2.2.1]

theorem fits_encoded (names : List String) : ∀ segment ∈ encoded names, Fits kind segment :=
  List.forall_mem_map.mpr fun name _ => (fits_encodeSegment name).1

theorem noSlash_of_fits {segment : List Char} (fits : Fits kind segment) : '/' ∉ segment :=
  fun member => by
    have other := fits.whole '/' member
    rw [isSlash_slash] at other
    cases other

theorem stands_encodeSegment (name : String) : Stands (encodeSegment name).toList name where
  whole := noSlash_of_fits (@fits_encodeSegment ⟨false, false, none⟩ name).1
  decoded := by rw [String.ofList_toList, decode?_encodeSegment]

theorem stands_encoded (names : List String) : List.Forall₂ Stands (encoded names) names := by
  induction names with
  | nil => exact .nil
  | cons name names induction => exact .cons (stands_encodeSegment name) induction

theorem isDriveLetter_encoded (names : List String) :
    ∀ segment ∈ encoded names, isDriveLetter segment = false := by
  refine List.forall_mem_map.mpr fun name _ => Bool.eq_false_iff.mpr fun drive => ?_
  rcases isDriveLetter_eq drive with ⟨letter, mark, written, _, marked⟩
  rcases @fits_encodeSegment ⟨false, false, none⟩ name with ⟨_, noColon, noBar⟩
  rw [written] at noColon noBar
  rcases marked with rfl | rfl
  · exact noColon (List.mem_cons_of_mem _ List.mem_cons_self)
  · exact noBar (List.mem_cons_of_mem _ List.mem_cons_self)

theorem isDot_encoded {names : List String} :
    (∀ segment ∈ encoded names, isDot segment = false) ↔
      ∀ name ∈ names, name ≠ "." ∧ name ≠ ".." := by
  rw [encoded, List.forall_mem_map]
  refine forall_congr' fun name => forall_congr' fun _ => ?_
  rw [← not_or, ← isDot_encodeSegment, Bool.not_eq_true]

/-! ## Names behind a path -/

theorem segmentsText_append (front back : List (List Char)) :
    segmentsText (front ++ back) = segmentsText front ++ segmentsText back :=
  List.flatMap_append

theorem whole_of_stands {segments : List (List Char)} {names : List String}
    (stands : List.Forall₂ Stands segments names) : ∀ segment ∈ segments, '/' ∉ segment := by
  induction stands with
  | nil => exact fun _ none => absurd none List.not_mem_nil
  | cons first _ induction => exact List.forall_mem_cons.mpr ⟨first.whole, induction⟩

theorem last_of_stands {segments : List (List Char)} {names : List String}
    (stands : List.Forall₂ Stands segments names) (last : segments.getLast? = some []) :
    names.getLast? = some "" := by
  induction stands with
  | nil => cases last
  | @cons segment name segments names first rest induction =>
      cases rest with
      | nil =>
          obtain rfl : segment = [] := Option.some.inj last
          have decoded := first.decoded
          obtain rfl : "" = name := Option.some.inj (show some "" = some name from decoded)
          rfl
      | cons second others =>
          rw [List.getLast?_cons_cons] at last ⊢
          exact induction last

/-- Of segments that are walked along: without dots they stay, and with a dot there are fewer of
them or the last one is empty. -/
structure Resolves (all left : List (List Char)) : Prop where
  keeps : (∀ segment ∈ all, isDot segment = false) → left = all
  loses : ∀ segment ∈ all, isDot segment = true →
    left.length < all.length ∨ (segment ∈ all.getLast? ∧ left.getLast? = some [])
  whole : ∀ segment ∈ left, '/' ∉ segment

/-- Names are found behind a path if and only if none of all segments is a dot. -/
theorem Resolves.stands_iff {front left : List (List Char)} {names : List String}
    (nonempty : names ≠ []) (whole : ∀ segment ∈ front, '/' ∉ segment)
    (resolves : Resolves (front ++ encoded names) left) :
    (∃ segments, segmentsText left = segmentsText front ++ segmentsText segments ∧
        List.Forall₂ Stands segments names) ↔
      (∀ segment ∈ front, isDot segment = false) ∧ ∀ name ∈ names, name ≠ "." ∧ name ≠ ".." := by
  rw [← isDot_encoded, ← List.forall_mem_append]
  constructor
  · rintro ⟨segments, same, stands⟩ segment member
    have slash : ∀ {segment : List Char}, '/' ∉ segment →
        ∀ char ∈ segment, (char == '/') = false := fun without char member =>
      beq_eq_false_iff_ne.mpr fun same => without (same ▸ member)
    rw [← segmentsText_append] at same
    have equal : left = front ++ segments :=
      @segments_injective (· == '/') '/' rfl left (front ++ segments)
        (fun segment member => slash (resolves.whole segment member))
        (fun segment member => slash
          (List.forall_mem_append.mpr ⟨whole, whole_of_stands stands⟩ segment member)) same
    have count : segments.length = (encoded names).length := by
      rw [stands.length_eq, encoded, List.length_map]
    have someName : encoded names ≠ [] := by rwa [encoded, ne_eq, List.map_eq_nil_iff]
    refine Bool.eq_false_iff.mpr fun dot => ?_
    rcases resolves.loses segment member dot with fewer | ⟨last, empty⟩
    · rw [equal, List.length_append, List.length_append, count] at fewer
      exact absurd fewer (Nat.lt_irrefl _)
    · have some' : segments ≠ [] := List.length_pos_iff.mp
        (count ▸ List.length_pos_iff.mpr someName)
      rw [equal, List.getLast?_append_of_ne_nil _ some'] at empty
      rw [List.getLast?_append_of_ne_nil _ someName, encoded, List.getLast?_map,
        last_of_stands stands empty] at last
      obtain rfl : [] = segment := Option.some.inj last
      exact absurd dot (by decide)
  · intro noDots
    refine ⟨encoded names, ?_, stands_encoded names⟩
    rw [resolves.keeps noDots, segmentsText_append]

theorem whole_walked {segments : List (List Char)} (fits : ∀ segment ∈ segments, Fits kind segment) :
    ∀ segment ∈ walked kind segments, '/' ∉ segment := fun segment member =>
  noSlash_of_fits (Walk.fits_along (fun _ none => absurd none List.not_mem_nil)
    (fun segment member => (fits segment member).whole) segment (List.mem_reverse.mp member))

theorem whole_trimSegments {segments : List (List Char)}
    (whole : ∀ segment ∈ segments, '/' ∉ segment) :
    ∀ segment ∈ trimSegments segments, '/' ∉ segment := fun segment member => by
  rcases mem_of_mem_trimSegments member with rfl | listed
  · exact List.not_mem_nil
  · exact whole segment listed

section Resolving

variable {all : List (List Char)} (fits : ∀ segment ∈ all, Fits kind segment)

include fits in
theorem walked_of_fits (noDots : ∀ segment ∈ all, isDot segment = false)
    (takes : kind.isFile = true → ∀ segment ∈ all.head?, isDriveLetter segment = false) :
    Walk.along kind ⟨[], false⟩ all = ⟨all.reverse, false⟩ := by
  have along := @Walk.along_of_fits kind ⟨[], false⟩ all fits noDots
    fun segment member isFile _ => takes isFile segment member
  rw [along, List.append_nil]

include fits in
theorem resolves_walked (noFile : kind.isFile = false) : Resolves all (walked kind all) where
  keeps := fun noDots => by
    have noDrive : kind.isFile = true → ∀ segment ∈ all.head?, isDriveLetter segment = false :=
      fun isFile => by
        rw [noFile] at isFile
        cases isFile
    rw [walked, walked_of_fits fits noDots noDrive, List.reverse_reverse]
  loses := fun segment member dot => by
    have lost := along_loses fits member dot ⟨[], false⟩
    rwa [List.length_nil, Nat.zero_add, ← List.length_reverse] at lost
  whole := whole_walked fits

include fits in
theorem resolves_trimmed (single : SingleSlash all)
    (noDrive : ∀ segment ∈ all.head?, isDriveLetter segment = false) :
    Resolves all (trimSegments (walked kind all)) where
  keeps := fun noDots => by
    rw [walked, walked_of_fits fits noDots fun _ => noDrive, List.reverse_reverse]
    rcases single with rfl | ⟨first, rest, rfl, nonempty⟩
    · rfl
    · exact trimSegments_of_cons nonempty rest
  loses := fun segment member dot => trimSegments_loses fits member dot rfl
  whole := whole_trimSegments (whole_walked fits)

include fits in
theorem resolves_local (single : SingleSlash all) :
    Resolves all (trimSegments (walked kind ([] :: all))) := by
  have start : Walk.along kind ⟨[], false⟩ ([] :: all) = Walk.along kind ⟨[[]], false⟩ all := by
    have first : Walk.add kind ⟨[], false⟩ [] = ⟨[[]], false⟩ :=
      Walk.add_of_fits .nil fun _ _ => rfl
    rw [Walk.along, if_neg (by decide), if_neg (by decide), first]
  have fitsAll : ∀ segment ∈ [] :: all, Fits kind segment := List.forall_mem_cons.mpr ⟨.nil, fits⟩
  refine ⟨fun noDots => ?_, fun segment member dot => ?_, whole_trimSegments (whole_walked fitsAll)⟩
  · rw [walked, walked_of_fits fitsAll (List.forall_mem_cons.mpr ⟨by decide, noDots⟩)
      (fun _ => by rintro segment ⟨⟩; rfl), List.reverse_reverse, trimSegments_nil_cons]
    rcases single with rfl | ⟨first, rest, rfl, nonempty⟩
    · rfl
    · exact trimSegments_of_cons nonempty rest
  · rw [walked, start]
    exact trimSegments_loses fits member dot rfl

end Resolving

end StrongAuth.Url
