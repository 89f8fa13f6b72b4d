import Mathlib.Data.List.DropRight
import StrongAuth.Proofs.Escapes

/-! # Paths of URLs

Main statements: the segments of a path that is read can be written and read again; segments
that are no dots are read as they are, and where one of them is, there are fewer of them
afterwards or the last one is empty. -/

namespace StrongAuth.Url

open Percent

variable {kind : SchemeKind}

/-! ## Segments -/

/-- What a segment that is read is made of. -/
structure Fits (kind : SchemeKind) (segment : List Char) : Prop where
  kept : ∀ char ∈ segment, keptInPath char = true
  whole : ∀ char ∈ segment, isSlash kind char = false

theorem Fits.nil : Fits kind [] :=
  ⟨fun _ member => absurd member List.not_mem_nil, fun _ member => absurd member List.not_mem_nil⟩

theorem Fits.cons {char : Char} {segment : List Char} (kept : keptInPath char = true)
    (whole : isSlash kind char = false) (fits : Fits kind segment) :
    Fits kind (char :: segment) :=
  ⟨List.forall_mem_cons.mpr ⟨kept, fits.kept⟩, List.forall_mem_cons.mpr ⟨whole, fits.whole⟩⟩

/-- Where all characters in ASCII have a property, one of them has. -/
theorem of_ascii {property : Char → Prop} (table : ∀ code < 128, property (Char.ofNat code))
    {char : Char} (ascii : char.toNat < 128) : property char := by
  have known := table char.toNat ascii
  rwa [Char.ofNat_toNat] at known

theorem keeps_ascii {escaped : String} {char : Char} (kept : keeps escaped char = true) :
    32 ≤ char.toNat ∧ char.toNat < 127 := by
  simp only [keeps, Bool.and_eq_true, decide_eq_true_eq] at kept
  exact kept.1

/-- A kept character that is no blank does not count as a break or as lying around a text. -/
theorem gt_of_keptInPath {char : Char} (kept : keptInPath char = true) : 32 < char.toNat := by
  have table : ∀ code < 128, keptInPath (Char.ofNat code) = true →
      32 < (Char.ofNat code).toNat := by decide
  exact @of_ascii (fun char => keptInPath char = true → 32 < char.toNat) table char
    (Nat.lt_succ_of_lt (keeps_ascii kept).2) kept

theorem isBreak_of_gt {char : Char} (above : 13 < char.toNat) : isBreak char = false := by
  have tab : char ≠ '\t' := by rintro rfl; exact absurd above (by decide)
  have feed : char ≠ '\n' := by rintro rfl; exact absurd above (by decide)
  have carriage : char ≠ '\r' := by rintro rfl; exact absurd above (by decide)
  simp [isBreak, tab, feed, carriage]

theorem unbroken_of_gt {chars : List Char} (above : ∀ char ∈ chars, 13 < char.toNat) :
    unbroken chars = chars :=
  List.filter_eq_self.mpr fun char member => by rw [isBreak_of_gt (above char member)]; rfl

theorem Fits.unbroken {segment : List Char} (fits : Fits kind segment) :
    unbroken segment = segment :=
  unbroken_of_gt fun char member =>
    Nat.lt_trans (by decide) (gt_of_keptInPath (fits.kept char member))

theorem Fits.encoded {segment : List Char} (fits : Fits kind segment) :
    encodeChars keptInPath segment = segment :=
  encodeChars_of_kept fits.kept

theorem isSlash_upperDigit (kind : SchemeKind) {digit : Nat} (small : digit < 16) :
    isSlash kind (Hexadecimal.upperDigit digit) = false := by
  have table : ∀ digit < 16, Hexadecimal.upperDigit digit ≠ '/' ∧
      Hexadecimal.upperDigit digit ≠ '\\' := by decide
  simp [isSlash, table digit small]

/-- What lies between two slashes fits once it is encoded. -/
theorem fits_encodeChars {chars : List Char} (whole : ∀ char ∈ chars, isSlash kind char = false) :
    Fits kind (encodeChars keptInPath chars) where
  kept := kept_encodeChars (by decide) (by decide) chars
  whole := forall_encodeChars (fun char member _ => whole char member) (by simp [isSlash])
    fun _ small => isSlash_upperDigit kind small

theorem whole_unbroken {chars : List Char} (whole : ∀ char ∈ chars, isSlash kind char = false) :
    ∀ char ∈ unbroken chars, isSlash kind char = false :=
  fun char member => whole char (List.mem_of_mem_filter member)

theorem of_mem_splitOnP {separates : Char → Bool} {chars segment : List Char}
    (member : segment ∈ chars.splitOnP separates) :
    ∀ char ∈ segment, char ∈ chars ∧ separates char = false := by
  induction chars generalizing segment with
  | nil =>
      rw [List.splitOnP_nil, List.mem_singleton] at member
      subst member
      exact fun _ member => absurd member List.not_mem_nil
  | cons first chars induction =>
      have later : ∀ {segment}, segment ∈ chars.splitOnP separates →
          ∀ char ∈ segment, char ∈ first :: chars ∧ separates char = false :=
        fun member char listed => ⟨List.mem_cons_of_mem _ (induction member char listed).1,
          (induction member char listed).2⟩
      rw [List.splitOnP_cons_eq_if_modifyHead] at member
      split at member
      · rcases List.mem_cons.mp member with rfl | behind
        · exact fun _ member => absurd member List.not_mem_nil
        · exact later behind
      · next other =>
          cases parts : chars.splitOnP separates with
          | nil => exact absurd parts (List.splitOnP_ne_nil _ _)
          | cons head tail =>
              rw [parts] at member later
              rcases List.mem_cons.mp member with rfl | behind
              · exact List.forall_mem_cons.mpr ⟨⟨List.mem_cons_self, Bool.eq_false_iff.mpr other⟩,
                  later List.mem_cons_self⟩
              · exact later (List.mem_cons_of_mem _ behind)

/-! ## Drives -/

theorem isAlpha_ascii {char : Char} (alpha : char.isAlpha = true) : char.toNat < 128 := by
  delta Char.isAlpha Char.isUpper Char.isLower at alpha
  simp only [Bool.or_eq_true, Bool.and_eq_true, decide_eq_true_eq] at alpha
  rcases alpha with ⟨_, greatest⟩ | ⟨_, greatest⟩
  · exact Nat.lt_of_le_of_lt greatest (by decide)
  · exact Nat.lt_of_le_of_lt greatest (by decide)

theorem isAlphanum_ascii {char : Char} (alphanum : char.isAlphanum = true) : char.toNat < 128 := by
  rw [Char.isAlphanum, Bool.or_eq_true] at alphanum
  rcases alphanum with alpha | digit
  · exact isAlpha_ascii alpha
  · rw [Char.isDigit, Bool.and_eq_true, decide_eq_true_eq, decide_eq_true_eq] at digit
    exact Nat.lt_of_le_of_lt digit.2 (by decide)

theorem keptInPath_of_isAlpha {char : Char} (alpha : char.isAlpha = true) :
    keptInPath char = true := by
  have table : ∀ code < 128, (Char.ofNat code).isAlpha = true →
      keptInPath (Char.ofNat code) = true := by decide
  exact @of_ascii (fun char => char.isAlpha = true → keptInPath char = true) table char
    (isAlpha_ascii alpha) alpha

theorem isDriveLetter_eq {segment : List Char} (drive : isDriveLetter segment = true) :
    ∃ letter mark, segment = [letter, mark] ∧ letter.isAlpha = true ∧
      (mark = ':' ∨ mark = '|') := by
  unfold isDriveLetter at drive
  split at drive
  · next letter mark =>
      rw [Bool.and_eq_true, Bool.or_eq_true, beq_iff_eq, beq_iff_eq] at drive
      exact ⟨letter, mark, rfl, drive.1, drive.2⟩
  · cases drive

theorem isSlash_colon (kind : SchemeKind) : isSlash kind ':' = false := by simp [isSlash]

theorem fits_driveSegment {segment : List Char} (fits : Fits kind segment) :
    Fits kind (driveSegment segment) := by
  have short : Fits kind (segment.take 1) :=
    ⟨fun char member => fits.kept char (List.mem_of_mem_take member),
      fun char member => fits.whole char (List.mem_of_mem_take member)⟩
  have colon : Fits kind [':'] := .cons (by decide) (isSlash_colon kind) .nil
  exact ⟨List.forall_mem_append.mpr ⟨short.kept, colon.kept⟩,
    List.forall_mem_append.mpr ⟨short.whole, colon.whole⟩⟩

theorem fits_of_brokenDrive? {segment drive rest : List Char}
    (whole : ∀ char ∈ segment, isSlash kind char = false)
    (broken : brokenDrive? segment = some (drive, rest)) :
    Fits kind drive ∧ ∀ char ∈ rest, isSlash kind char = false := by
  have clean := whole_unbroken whole
  rw [brokenDrive?] at broken
  split at broken
  · next letter next more parts =>
      rw [parts] at clean
      split at broken
      · next both =>
          cases broken
          rw [Bool.and_eq_true] at both
          have first := clean letter List.mem_cons_self
          refine ⟨.cons (keptInPath_of_isAlpha both.1) first (.cons (by decide)
            (isSlash_colon kind) .nil), fun char member => ?_⟩
          exact clean char (List.mem_cons_of_mem _ (List.mem_cons_of_mem _ member))
      · cases broken
  · cases broken

theorem Fits.brokenDrive? {segment : List Char} (fits : Fits kind segment) :
    brokenDrive? segment = none := by
  have plain : ∀ char ∈ segment, isBreak char = false := fun char member =>
    isBreak_of_gt (Nat.lt_trans (by decide) (gt_of_keptInPath (fits.kept char member)))
  rw [Url.brokenDrive?, fits.unbroken]
  split
  · next letter next rest =>
      simp only [List.forall_mem_cons] at plain
      simp [behind, plain]
  · rfl

/-! ## Walking -/

namespace Walk

theorem add_cases (kind : SchemeKind) (walk : Walk) (segment : List Char) :
    (walk.add kind segment = walk.push (encodeChars keptInPath (unbroken segment))) ∨
      (kind.isFile = true ∧ walk.before = [] ∧
        ((isDriveLetter (encodeChars keptInPath (unbroken segment)) = true ∧
          walk.add kind segment =
            ⟨[driveSegment (encodeChars keptInPath (unbroken segment))], true⟩) ∨
        ∃ drive rest, brokenDrive? segment = some (drive, rest) ∧
          walk.add kind segment =
            (walk.push drive).push (encodeChars keptInPath rest))) := by
  rw [add]
  split
  · next first =>
      rw [Bool.and_eq_true, List.isEmpty_iff] at first
      split
      · next drive => exact .inr ⟨first.1, first.2, .inl ⟨drive, rfl⟩⟩
      · split
        · next drive rest broken => exact .inr ⟨first.1, first.2, .inr ⟨drive, rest, broken, rfl⟩⟩
        · exact .inl rfl
  · exact .inl rfl

theorem leave_before (walk : Walk) :
    walk.leave.before = walk.before ∨ ∃ segment, walk.before = segment :: walk.leave.before := by
  rcases walk with ⟨before, onDrive⟩
  cases before with
  | nil => exact .inl rfl
  | cons segment before =>
      rw [leave]
      dsimp only
      split
      · exact .inl rfl
      · exact .inr ⟨segment, rfl⟩

/-- What every turn of a walk preserves holds at its end. -/
theorem along_invariant {holds : Walk → Prop} {segments : List (List Char)}
    (leave : ∀ walk, holds walk → holds walk.leave)
    (rest : ∀ walk, holds walk → holds (walk.push []))
    (add : ∀ walk, ∀ segment ∈ segments, isDot (unbroken segment) = false → holds walk →
      holds (walk.add kind segment)) {walk : Walk} (start : holds walk) :
    holds (along kind walk segments) := by
  induction segments generalizing walk with
  | nil => exact start
  | cons segment segments induction =>
      have later : ∀ walk, holds walk → holds (along kind walk segments) := fun walk =>
        induction fun walk segment member => add walk segment (List.mem_cons_of_mem _ member)
      rw [along]
      dsimp only
      split
      · split
        · exact later _ (rest _ (leave _ start))
        · exact later _ (leave _ start)
      · next noDouble =>
          split
          · split
            · exact later _ (rest _ start)
            · exact later _ start
          · next noSingle =>
              refine later _ (add _ _ List.mem_cons_self ?_ start)
              rw [isDot, Bool.eq_false_iff.mpr noDouble, Bool.eq_false_iff.mpr noSingle]
              rfl

theorem onDrive_along {walk : Walk} {segments : List (List Char)} (onDrive : walk.onDrive = true) :
    (along kind walk segments).onDrive = true := by
  refine @along_invariant kind (fun walk => walk.onDrive = true) segments ?_
    (fun _ stays => stays) ?_ walk onDrive
  · rintro ⟨before, onDrive⟩ stays
    cases before with
    | nil => exact stays
    | cons segment before =>
        rw [leave]
        dsimp only
        split <;> exact stays
  · intro walk segment _ _ stays
    rcases add_cases kind walk segment with
      pushed | ⟨_, _, ⟨_, drive⟩ | ⟨drive, rest, _, parted⟩⟩
    · rw [pushed]
      exact stays
    · rw [drive]
    · rw [parted]
      exact stays

theorem fits_add {walk : Walk} {segment : List Char}
    (fits : ∀ other ∈ walk.before, Fits kind other)
    (whole : ∀ char ∈ segment, isSlash kind char = false) :
    ∀ other ∈ (walk.add kind segment).before, Fits kind other := by
  have encoded := fits_encodeChars (whole_unbroken whole)
  rcases add_cases kind walk segment with
    pushed | ⟨_, _, ⟨_, drive⟩ | ⟨drive, rest, broken, parted⟩⟩
  · rw [pushed]
    exact List.forall_mem_cons.mpr ⟨encoded, fits⟩
  · rw [drive]
    exact List.forall_mem_singleton.mpr (fits_driveSegment encoded)
  · rw [parted]
    rcases fits_of_brokenDrive? whole broken with ⟨fitsDrive, wholeRest⟩
    exact List.forall_mem_cons.mpr ⟨fits_encodeChars wholeRest,
      List.forall_mem_cons.mpr ⟨fitsDrive, fits⟩⟩

theorem forall_leave {property : List Char → Prop} {walk : Walk}
    (all : ∀ segment ∈ walk.before, property segment) :
    ∀ segment ∈ walk.leave.before, property segment := by
  rcases leave_before walk with same | ⟨segment, same⟩
  · rwa [same]
  · rw [same] at all
    exact (List.forall_mem_cons.mp all).2

theorem fits_along {walk : Walk} {segments : List (List Char)}
    (fits : ∀ segment ∈ walk.before, Fits kind segment)
    (whole : ∀ segment ∈ segments, ∀ char ∈ segment, isSlash kind char = false) :
    ∀ segment ∈ (along kind walk segments).before, Fits kind segment :=
  @along_invariant kind (fun walk => ∀ segment ∈ walk.before, Fits kind segment) segments
    (fun _ => forall_leave) (fun _ fits => List.forall_mem_cons.mpr ⟨.nil, fits⟩)
    (fun _ segment member _ fits => fits_add fits (whole segment member)) walk fits

theorem noDots_along (noFile : kind.isFile = false) {walk : Walk} {segments : List (List Char)}
    (noDots : ∀ segment ∈ walk.before, isDot segment = false) :
    ∀ segment ∈ (along kind walk segments).before, isDot segment = false := by
  refine @along_invariant kind (fun walk => ∀ segment ∈ walk.before, isDot segment = false)
    segments (fun _ => forall_leave)
    (fun _ noDots => List.forall_mem_cons.mpr ⟨by decide, noDots⟩) ?_ walk noDots
  intro walk segment _ noDot noDots
  rcases add_cases kind walk segment with pushed | ⟨isFile, _⟩
  · rw [pushed]
    refine List.forall_mem_cons.mpr ⟨Bool.eq_false_iff.mpr fun dot => ?_, noDots⟩
    have source := (isDot_encodeChars (by decide) dot).1
    rw [noDot] at source
    cases source
  · rw [noFile] at isFile
    cases isFile

/-! ## Walking again -/

/-- Whether the next segment of a walk is read as it is. -/
def Takes (kind : SchemeKind) (walk : Walk) (segment : List Char) : Prop :=
  kind.isFile = true → walk.before = [] → isDriveLetter segment = false

theorem add_of_fits {walk : Walk} {segment : List Char} (fits : Fits kind segment)
    (takes : Takes kind walk segment) : walk.add kind segment = walk.push segment := by
  rcases add_cases kind walk segment with
    pushed | ⟨isFile, start, ⟨drive, _⟩ | ⟨drive, rest, broken, _⟩⟩
  · rw [pushed, fits.unbroken, fits.encoded]
  · rw [fits.unbroken, fits.encoded, takes isFile start] at drive
    cases drive
  · rw [fits.brokenDrive?] at broken
    cases broken

theorem before_add_of_fits {walk : Walk} {segment : List Char} (fits : Fits kind segment) :
    ∃ other, (walk.add kind segment).before = other :: walk.before := by
  rcases add_cases kind walk segment with
    pushed | ⟨_, start, ⟨_, drive⟩ | ⟨drive, rest, broken, _⟩⟩
  · exact ⟨_, by rw [pushed]; rfl⟩
  · exact ⟨_, by rw [drive, start]⟩
  · rw [fits.brokenDrive?] at broken
    cases broken

theorem along_of_fits {walk : Walk} {segments : List (List Char)}
    (fits : ∀ segment ∈ segments, Fits kind segment)
    (noDots : ∀ segment ∈ segments, isDot segment = false)
    (takes : ∀ segment ∈ segments.head?, Takes kind walk segment) :
    along kind walk segments = ⟨segments.reverse ++ walk.before, walk.onDrive⟩ := by
  induction segments generalizing walk with
  | nil => rfl
  | cons segment segments induction =>
      rw [List.forall_mem_cons] at fits noDots
      have both := Bool.or_eq_false_iff.mp noDots.1
      rw [along, fits.1.unbroken, both.1, both.2, if_neg Bool.false_ne_true,
        if_neg Bool.false_ne_true, add_of_fits fits.1 (takes segment rfl),
        induction fits.2 noDots.2 fun _ _ _ start => by cases start]
      simp [push]

theorem onDrive_of_drive {walk : Walk} {segment : List Char} {segments : List (List Char)}
    (isFile : kind.isFile = true) (start : walk.before = []) (fits : Fits kind segment)
    (drive : isDriveLetter segment = true) :
    (along kind walk (segment :: segments)).onDrive = true := by
  have noDot : isDoubleDot segment = false ∧ isSingleDot segment = false := by
    rw [← Bool.or_eq_false_iff, ← isDot]
    refine Bool.eq_false_iff.mpr fun dot => ?_
    rcases isDriveLetter_eq drive with ⟨letter, mark, rfl, alpha, _⟩
    cases dots_of_isDot dot
    exact absurd alpha (by decide)
  rw [along, fits.unbroken, noDot.1, noDot.2, if_neg Bool.false_ne_true,
    if_neg Bool.false_ne_true]
  refine onDrive_along ?_
  simp only [add, fits.unbroken, fits.encoded, isFile, start, drive, List.isEmpty_nil,
    Bool.and_self, if_true]

/-! ## Walking past dots -/

section Counting

variable {rank : List (List Char) → Nat}
  (grows : ∀ segment before, rank (segment :: before) ≤ rank before + 1)
  (shrinks : ∀ segment before, rank before ≤ rank (segment :: before))

include shrinks in
theorem rank_leave (walk : Walk) : rank walk.leave.before ≤ rank walk.before := by
  rcases leave_before walk with same | ⟨segment, same⟩
  · exact Nat.le_of_eq (congrArg rank same)
  · rw [same]
    exact shrinks segment _

include grows shrinks in
theorem rank_along {walk : Walk} {segments : List (List Char)}
    (fits : ∀ segment ∈ segments, Fits kind segment) :
    rank (along kind walk segments).before ≤ rank walk.before + segments.length := by
  induction segments generalizing walk with
  | nil => exact Nat.le_refl _
  | cons segment segments induction =>
      rw [List.forall_mem_cons] at fits
      have ended : ∀ walk : Walk, rank (if segments.isEmpty then walk.push [] else walk).before ≤
          rank walk.before + 1 := fun walk => by
        split
        · exact grows [] walk.before
        · exact Nat.le_succ _
      have later := fun walk => @induction walk fits.2
      rw [along, fits.1.unbroken, List.length_cons]
      dsimp only
      split
      · have left := rank_leave shrinks walk
        have turn := ended walk.leave
        have all := later (if segments.isEmpty then walk.leave.push [] else walk.leave)
        omega
      · split
        · have turn := ended walk
          have all := later (if segments.isEmpty then walk.push [] else walk)
          omega
        · rcases before_add_of_fits fits.1 with ⟨other, added⟩
          have turn := grows other walk.before
          have all := later (walk.add kind segment)
          rw [added] at all
          omega

include grows shrinks in
/-- A dot segment in front of the last one is lost. -/
theorem rank_along_lt {walk : Walk} {segments : List (List Char)}
    (fits : ∀ segment ∈ segments, Fits kind segment)
    (dot : ∃ segment ∈ segments.dropLast, isDot segment = true) :
    rank (along kind walk segments).before < rank walk.before + segments.length := by
  induction segments generalizing walk with
  | nil =>
      rcases dot with ⟨_, member, _⟩
      exact absurd member List.not_mem_nil
  | cons segment segments induction =>
      have more : segments ≠ [] := by
        rintro rfl
        rcases dot with ⟨_, member, _⟩
        exact absurd member List.not_mem_nil
      have notLast : segments.isEmpty = false := List.isEmpty_eq_false_iff.mpr more
      rw [List.forall_mem_cons] at fits
      rw [List.dropLast_cons_of_ne_nil more] at dot
      have all := fun walk => @rank_along kind rank grows shrinks walk segments fits.2
      rw [along, fits.1.unbroken, List.length_cons, notLast]
      dsimp only
      split
      · have left := rank_leave shrinks walk
        have := all walk.leave
        simp only [Bool.false_eq_true, if_false]
        omega
      · next noDouble =>
          split
          · have := all walk
            simp only [Bool.false_eq_true, if_false]
            omega
          · next noSingle =>
              have later : ∃ segment ∈ segments.dropLast, isDot segment = true := by
                rcases dot with ⟨other, member, dot⟩
                rcases List.mem_cons.mp member with rfl | later
                · rw [isDot, Bool.eq_false_iff.mpr noDouble, Bool.eq_false_iff.mpr noSingle] at dot
                  cases dot
                · exact ⟨other, later, dot⟩
              rcases before_add_of_fits fits.1 with ⟨other, added⟩
              have turn := grows other walk.before
              have rest := @induction (walk.add kind segment) fits.2 later
              rw [added] at rest
              omega

end Counting

/-- A dot segment at the end leaves an empty one. -/
theorem head?_along {walk : Walk} {segments : List (List Char)}
    (fits : ∀ segment ∈ segments, Fits kind segment)
    (dot : ∃ segment ∈ segments.getLast?, isDot segment = true) :
    (along kind walk segments).before.head? = some [] := by
  induction segments generalizing walk with
  | nil =>
      rcases dot with ⟨_, member, _⟩
      cases member
  | cons segment segments induction =>
      rw [List.forall_mem_cons] at fits
      rw [along, fits.1.unbroken]
      cases segments with
      | nil =>
          rcases dot with ⟨other, member, dot⟩
          obtain rfl : segment = other := Option.some.inj member
          rw [isDot, Bool.or_eq_true] at dot
          dsimp only
          split
          · rfl
          · next noDouble =>
              rw [if_pos (dot.resolve_left noDouble)]
              rfl
      | cons next segments =>
          rw [List.getLast?_cons_cons] at dot
          have later := fun walk => @induction walk fits.2 dot
          dsimp only
          split
          · exact later _
          · split
            · exact later _
            · exact later _

end Walk

/-! ## Segments as text -/

section Text

variable {separates : Char → Bool} {mark : Char} (marks : separates mark = true)

include marks in
theorem splitOnP_segments {first : List Char} {segments : List (List Char)}
    (start : ∀ char ∈ first, separates char = false)
    (whole : ∀ segment ∈ segments, ∀ char ∈ segment, separates char = false) :
    (first ++ segments.flatMap fun segment => mark :: segment).splitOnP separates =
      first :: segments := by
  induction segments generalizing first with
  | nil => rw [List.flatMap_nil, List.append_nil, List.splitOnP_eq_singleton start]
  | cons segment segments induction =>
      rw [List.forall_mem_cons] at whole
      rw [List.flatMap_cons, List.cons_append,
        List.splitOnP_append_cons_of_forall_mem start mark marks, induction whole.1 whole.2]

include marks in
theorem segments_injective {left right : List (List Char)}
    (wholeLeft : ∀ segment ∈ left, ∀ char ∈ segment, separates char = false)
    (wholeRight : ∀ segment ∈ right, ∀ char ∈ segment, separates char = false)
    (same : (left.flatMap fun segment => mark :: segment) =
      right.flatMap fun segment => mark :: segment) : left = right := by
  have empty : ∀ char ∈ ([] : List Char), separates char = false :=
    fun _ member => absurd member List.not_mem_nil
  have splits := congrArg (List.splitOnP separates) same
  rw [← List.nil_append (left.flatMap _), ← List.nil_append (right.flatMap _),
    splitOnP_segments marks empty wholeLeft, splitOnP_segments marks empty wholeRight] at splits
  exact (List.cons.inj splits).2

end Text

theorem rdropWhile_append {Element : Type} {drops : Element → Bool} (front back : List Element) :
    (front ++ back).rdropWhile drops =
      if back.rdropWhile drops = [] then front.rdropWhile drops
      else front ++ back.rdropWhile drops := by
  simp only [List.rdropWhile, List.reverse_append, List.dropWhile_append, List.isEmpty_iff,
    List.reverse_eq_nil_iff]
  split
  · rfl
  · rw [List.reverse_append, List.reverse_reverse]

theorem rdropWhile_segments {segments : List (List Char)}
    (whole : ∀ segment ∈ segments, '/' ∉ segment) :
    (segments.flatMap fun segment => '/' :: segment).rdropWhile (· == '/') =
      (segments.rdropWhile List.isEmpty).flatMap fun segment => '/' :: segment := by
  induction segments using List.reverseRecOn with
  | nil => rfl
  | append_singleton segments last induction =>
      rw [List.forall_mem_append, List.forall_mem_singleton] at whole
      rw [List.flatMap_append, List.flatMap_singleton]
      cases last using List.reverseRecOn with
      | nil =>
          rw [List.rdropWhile_concat_pos _ _ _ rfl, List.rdropWhile_concat_pos _ _ _ rfl,
            induction whole.1]
      | append_singleton start char =>
          have other : ¬ (char == '/') = true := fun same => whole.2
            (by rw [beq_iff_eq.mp same]; exact List.mem_append_right _ List.mem_cons_self)
          have long : ¬ (start ++ [char]).isEmpty = true := by simp
          rw [List.rdropWhile_concat_neg _ _ _ long, ← List.cons_append, ← List.append_assoc,
            List.rdropWhile_concat_neg (· == '/') _ char other, List.flatMap_append, List.flatMap_singleton,
            List.append_assoc, List.cons_append]

/-! ## Segments of a file -/

theorem trimSegments_nil_cons (segments : List (List Char)) :
    trimSegments ([] :: segments) = trimSegments segments := rfl

theorem trimSegments_of_cons {first : List Char} (nonempty : first ≠ [])
    (segments : List (List Char)) : trimSegments (first :: segments) = first :: segments := by
  have kept : ¬ first.isEmpty = true := by rwa [List.isEmpty_iff]
  rw [trimSegments, List.dropWhile_cons_of_neg kept]
  rfl

theorem mem_of_mem_trimSegments {segments : List (List Char)} {segment : List Char}
    (member : segment ∈ trimSegments segments) : segment = [] ∨ segment ∈ segments := by
  rw [trimSegments] at member
  split at member
  · exact .inl (List.mem_singleton.mp member)
  · exact .inr (List.dropWhile_sublist _ |>.mem member)

/-- The path of a file is the root, or begins with a name. -/
theorem trimSegments_cases (segments : List (List Char)) :
    trimSegments segments = [[]] ∨
      ∃ first rest, trimSegments segments = first :: rest ∧ first ≠ [] := by
  induction segments with
  | nil => exact .inl rfl
  | cons first segments induction =>
      by_cases empty : first = []
      · rw [empty, trimSegments_nil_cons]
        exact induction
      · exact .inr ⟨first, segments, trimSegments_of_cons empty segments, empty⟩

theorem getLast?_trimSegments {segments : List (List Char)}
    (last : segments.getLast? = some []) : (trimSegments segments).getLast? = some [] := by
  induction segments with
  | nil => rfl
  | cons first segments induction =>
      by_cases empty : first = []
      · rw [empty, trimSegments_nil_cons]
        cases segments with
        | nil => rfl
        | cons second segments => exact induction (by rwa [List.getLast?_cons_cons] at last)
      · rw [trimSegments_of_cons empty]
        exact last

def named (before : List (List Char)) : Nat :=
  (before.reverse.dropWhile List.isEmpty).length

theorem length_trimSegments (before : List (List Char)) :
    (trimSegments before.reverse).length = max 1 (named before) := by
  rw [trimSegments, named]
  split
  · next empty =>
      rw [List.isEmpty_iff.mp empty]
      rfl
  · next kept =>
      have positive := List.length_pos_iff.mpr (mt List.isEmpty_iff.mpr kept)
      omega

theorem named_cons (segment : List Char) (before : List (List Char)) :
    named before ≤ named (segment :: before) ∧ named (segment :: before) ≤ named before + 1 := by
  rw [named, named, List.reverse_cons, List.dropWhile_append]
  split
  · next empty =>
      rw [List.isEmpty_iff.mp empty]
      exact ⟨Nat.zero_le _, (List.dropWhile_sublist _).length_le⟩
  · rw [List.length_append]
    exact ⟨Nat.le_add_right _ _, Nat.le_refl _⟩

/-! ## Dots are lost -/

theorem mem_dropLast_or_getLast? {segments : List (List Char)} {segment : List Char}
    (member : segment ∈ segments) : segment ∈ segments.dropLast ∨ segment ∈ segments.getLast? := by
  cases segments using List.reverseRecOn with
  | nil => exact absurd member List.not_mem_nil
  | append_singleton start last =>
      rw [List.dropLast_concat, List.getLast?_concat]
      rcases List.mem_append.mp member with early | late
      · exact .inl early
      · exact .inr (by rw [List.mem_singleton.mp late]; rfl)

/-- With a dot among segments that are walked along, fewer are left or the last one is empty. -/
theorem along_loses {segments : List (List Char)} (fits : ∀ segment ∈ segments, Fits kind segment)
    {segment : List Char} (member : segment ∈ segments) (dot : isDot segment = true)
    (walk : Walk) :
    (Walk.along kind walk segments).before.length < walk.before.length + segments.length ∨
      (segment ∈ segments.getLast? ∧
        (Walk.along kind walk segments).before.reverse.getLast? = some []) := by
  rcases mem_dropLast_or_getLast? member with early | late
  · exact .inl (@Walk.rank_along_lt kind List.length
      (fun _ before => Nat.le_of_eq (List.length_cons ..))
      (fun _ before => Nat.le_succ before.length) walk segments fits ⟨segment, early, dot⟩)
  · refine .inr ⟨late, ?_⟩
    rw [List.getLast?_reverse]
    exact Walk.head?_along fits ⟨segment, late, dot⟩

/-- So it is with the segments of a file, from the first name on. -/
theorem trimSegments_loses {segments : List (List Char)}
    (fits : ∀ segment ∈ segments, Fits kind segment) {segment : List Char}
    (member : segment ∈ segments) (dot : isDot segment = true) {walk : Walk}
    (start : named walk.before = 0) :
    (trimSegments (Walk.along kind walk segments).before.reverse).length < segments.length ∨
      (segment ∈ segments.getLast? ∧
        (trimSegments (Walk.along kind walk segments).before.reverse).getLast? = some []) := by
  rcases mem_dropLast_or_getLast? member with early | late
  · have fewer := @Walk.rank_along_lt kind named (fun segment before => (named_cons segment before).2)
      (fun segment before => (named_cons segment before).1) walk segments fits
      ⟨segment, early, dot⟩
    have two : 0 < segments.dropLast.length := List.length_pos_of_mem early
    rw [List.length_dropLast] at two
    rw [length_trimSegments]
    exact .inl (by omega)
  · refine .inr ⟨late, getLast?_trimSegments ?_⟩
    rw [List.getLast?_reverse]
    exact Walk.head?_along fits ⟨segment, late, dot⟩

end StrongAuth.Url
