import StrongAuth.Proofs.UrlForm

/-! # Marks of queries and fragments

Main statement: a text with a question mark or a number sign in it is read as a URL with a query or
a fragment, if it is read as one. -/

namespace StrongAuth.Url

open Percent

variable {kind : SchemeKind}

/-! ## Marked texts -/

def isMark (char : Char) : Bool :=
  char == '?' || char == '#'

def Marked (chars : List Char) : Prop :=
  ∃ char ∈ chars, isMark char = true

theorem Marked.of_append {front rest : List Char} (marked : Marked (front ++ rest))
    (unmarked : ∀ char ∈ front, isMark char = false) : Marked rest := by
  rcases marked with ⟨char, member, mark⟩
  rcases List.mem_append.mp member with early | late
  · rw [unmarked char early] at mark
    cases mark
  · exact ⟨char, late, mark⟩

theorem Marked.drop {chars : List Char} (marked : Marked chars) {count : Nat}
    (unmarked : ∀ char ∈ chars.take count, isMark char = false) : Marked (chars.drop count) := by
  rw [← List.take_append_drop count chars] at marked
  exact marked.of_append unmarked

theorem Marked.dropWhile {chars : List Char} (marked : Marked chars) {drops : Char → Bool}
    (unmarked : ∀ char, drops char = true → isMark char = false) :
    Marked (chars.dropWhile drops) := by
  rw [← @List.takeWhile_append_dropWhile _ drops chars] at marked
  exact marked.of_append fun char member => unmarked char (List.mem_takeWhile_imp member)

theorem Marked.drop_takeWhile {chars : List Char} (marked : Marked chars) {takes : Char → Bool}
    (unmarked : ∀ char, takes char = true → isMark char = false) :
    Marked (chars.drop (chars.takeWhile takes).length) := by
  refine marked.drop fun char member => ?_
  rw [← List.prefix_iff_eq_take.mp (List.takeWhile_prefix takes)] at member
  exact unmarked char (List.mem_takeWhile_imp member)

theorem isMark_eq {char : Char} (mark : isMark char = true) : char = '?' ∨ char = '#' := by
  simpa [isMark] using mark

theorem endsAuthority_of_isMark {char : Char} (mark : isMark char = true) :
    endsAuthority kind char = true := by
  rcases isMark_eq mark with rfl | rfl <;> simp [endsAuthority]

theorem isMark_of_endsAuthority {char : Char} (inside : endsAuthority kind char = false) :
    isMark char = false := by
  refine Bool.eq_false_iff.mpr fun mark => ?_
  rw [endsAuthority_of_isMark mark] at inside
  cases inside

theorem isBreak_of_isMark {char : Char} (mark : isMark char = true) : isBreak char = false := by
  rcases isMark_eq mark with rfl | rfl <;> decide

theorem marked_unbroken {chars : List Char} : Marked (unbroken chars) ↔ Marked chars := by
  constructor
  · rintro ⟨char, member, mark⟩
    exact ⟨char, List.mem_of_mem_filter member, mark⟩
  · rintro ⟨char, member, mark⟩
    exact ⟨char, List.mem_filter.mpr ⟨member, by rw [isBreak_of_isMark mark]; rfl⟩, mark⟩

theorem unbroken_behind (count : Nat) (chars : List Char) :
    unbroken (behind count chars) = (unbroken chars).drop count := by
  induction chars generalizing count with
  | nil => cases count <;> rfl
  | cons char chars induction =>
      cases count with
      | zero => simp [behind]
      | succ count =>
          rw [behind, unbroken, unbroken, List.filter_cons, ← unbroken, ← unbroken]
          split
          · next broken => 
            rw [if_neg (by simp [broken])]
            exact induction (count + 1)
          · next whole =>
            rw [if_pos (by simp [whole])]
            exact induction count

theorem Marked.behind {chars : List Char} (marked : Marked chars) {count : Nat}
    (unmarked : ∀ char ∈ (unbroken chars).take count, isMark char = false) :
    Marked (behind count chars) := by
  rw [← marked_unbroken, unbroken_behind]
  exact (marked_unbroken.mpr marked).drop unmarked

theorem Marked.trim {chars : List Char} (marked : Marked chars) : Marked (trim chars) := by
  have shown : ∀ char : Char, decide (char.toNat ≤ 32) = true → isMark char = false := by
    intro char blank
    refine Bool.eq_false_iff.mpr fun mark => ?_
    rcases isMark_eq mark with rfl | rfl <;> exact absurd blank (by decide)
  have turned : ∀ {text : List Char}, Marked text → Marked text.reverse :=
    fun ⟨char, member, mark⟩ => ⟨char, List.mem_reverse.mpr member, mark⟩
  exact turned ((turned (marked.dropWhile shown)).dropWhile shown)

/-! ## Reading marked texts -/

def Tailed (url : Url) : Prop :=
  url.query ≠ none ∨ url.fragment ≠ none

theorem drop_beforeQuery {chars : List Char} (marked : Marked chars) : ∃ mark rest,
    chars.drop (beforeQuery chars).length = mark :: rest ∧ isMark mark = true := by
  induction chars with
  | nil =>
      rcases marked with ⟨_, member, _⟩
      exact absurd member List.not_mem_nil
  | cons char chars induction =>
      rw [beforeQuery, List.takeWhile_cons]
      split
      · next other =>
          have unmarked : isMark char = false := by simpa [isMark] using other
          exact induction (@Marked.of_append [char] chars marked
            (List.forall_mem_singleton.mpr unmarked))
      · next mark =>
          refine ⟨char, chars, rfl, ?_⟩
          simpa [isMark, ← or_iff_not_imp_left] using mark

theorem readTail_of_mark (kind : SchemeKind) {mark : Char} (rest : List Char)
    (is : isMark mark = true) :
    (readTail kind (mark :: rest)).1 ≠ none ∨ (readTail kind (mark :: rest)).2 ≠ none := by
  rcases isMark_eq is with rfl | rfl
  · exact .inl (by simp [readTail])
  · exact .inr (by simp [readTail])

theorem tailed_assemble {scheme user password : List Char} {host : Option Host}
    {port : Option Nat} {path : List Char → UrlPath} {chars : List Char} (marked : Marked chars) :
    Tailed (assemble kind scheme user password host port path chars) := by
  rcases drop_beforeQuery marked with ⟨mark, rest, left, is⟩
  rw [assemble, left]
  exact readTail_of_mark kind rest is

theorem marked_of_readCredentials {chars user password rest : List Char} (marked : Marked chars)
    (read : readCredentials kind chars = .ok (user, password, rest)) : Marked rest := by
  have after := @Marked.drop_takeWhile chars marked (fun char => !endsAuthority kind char)
    fun char inside => isMark_of_endsAuthority ((Bool.not_eq_true' _).mp inside)
  have behindHost : ∀ host : List Char, Marked (host ++ chars.drop
      (chars.takeWhile fun char => !endsAuthority kind char).length) := fun host =>
    after.elim fun char found => ⟨char, List.mem_append_right _ found.1, found.2⟩
  rw [readCredentials] at read
  split at read
  · cases read
    exact marked
  · dsimp only at read
    split at read
    · split at read
      · split at read
        · cases read
        · cases read
          exact behindHost _
      · cases read
        exact behindHost _
    · cases read
      exact behindHost _

theorem marked_of_readPort {usual : Option Nat} {chars rest : List Char} {port : Option Nat}
    (marked : Marked chars) (read : readPort usual chars = .ok (port, rest)) : Marked rest := by
  have noDigit : ∀ char, Decimal.isDigit char = true → isMark char = false := by
    intro char digit
    refine Bool.eq_false_iff.mpr fun mark => ?_
    rcases isMark_eq mark with rfl | rfl <;> exact absurd digit (by decide)
  have left := marked.drop_takeWhile noDigit
  rw [readPort_eq] at read
  dsimp only at read
  split at read
  · cases read
  · split at read
    · cases read
    · cases read
      exact left

theorem isMark_of_mem_take_hostLength {chars : List Char} (inside : Bool) :
    ∀ char ∈ chars.take (hostLength kind inside chars), isMark char = false := by
  induction chars generalizing inside with
  | nil => exact fun _ none => absurd none (by simp)
  | cons char chars induction =>
      rw [hostLength]
      split
      · exact fun _ none => absurd none (by simp)
      · next within =>
          rw [Bool.or_eq_true, not_or, Bool.not_eq_true, Bool.not_eq_true] at within
          exact List.forall_mem_cons.mpr ⟨isMark_of_endsAuthority within.2, induction _⟩

theorem marked_of_readHostPort {chars rest : List Char} {host : Host} {port : Option Nat}
    (marked : Marked chars) (read : readHostPort kind chars = .ok (host, port, rest)) :
    Marked rest := by
  have length : (chars.take (hostLength kind false chars)).length ≤ hostLength kind false chars :=
    List.length_take_le _ _
  have behindHost := @Marked.drop chars marked (chars.take (hostLength kind false chars)).length
    fun char member => isMark_of_mem_take_hostLength false char
      (List.take_subset_take_left chars length member)
  rw [readHostPort_eq] at read
  dsimp only at read
  split at read
  · cases read
  · rcases bind_eq_ok_iff.mp read with ⟨found, _, read⟩
    unfold readPortBehind at read
    split at read
    · next more colon =>
        rw [colon] at behindHost
        split at read
        · cases read
        · rcases map_eq_ok_iff.mp read with ⟨⟨number, tail⟩, portRead, made⟩
          cases made
          exact marked_of_readPort (@Marked.of_append [':'] more behindHost
            (List.forall_mem_singleton.mpr (by decide))) portRead
    · cases read
      exact behindHost

theorem tailed_of_readHierarchical {scheme chars : List Char} {url : Url} (marked : Marked chars)
    (read : readHierarchical kind scheme chars = .ok url) : Tailed url := by
  rw [readHierarchical_eq] at read
  rcases bind_eq_ok_iff.mp read with ⟨⟨user, password, rest⟩, credentials, read⟩
  rcases bind_eq_ok_iff.mp read with ⟨⟨host, port, behind⟩, place, read⟩
  dsimp only at read
  split at read
  · cases read
  · cases read
    exact tailed_assemble (marked_of_readHostPort (marked_of_readCredentials marked credentials)
      place)

theorem tailed_finishFile {scheme chars : List Char} {host : Host} {slashed : Bool}
    (marked : Marked chars) : Tailed (finishFile kind scheme host slashed chars) := by
  rcases drop_beforeQuery marked with ⟨mark, rest, left, is⟩
  have first : unbroken (mark :: rest) = mark :: unbroken rest :=
    List.filter_cons_of_pos (by rw [isBreak_of_isMark is]; rfl)
  rw [finishFile, left, first]
  exact readTail_of_mark kind (unbroken rest) is

theorem isMark_of_isSlash {char : Char} (slash : isSlash kind char = true) :
    isMark char = false := by
  refine Bool.eq_false_iff.mpr fun mark => ?_
  rcases isMark_eq mark with rfl | rfl <;> simp [isSlash] at slash

theorem tailed_of_readFile {scheme chars : List Char} {url : Url} (marked : Marked chars)
    (read : readFile kind scheme chars = .ok url) : Tailed url := by
  rw [readFile_eq] at read
  split at read
  · next first second rest parts =>
      split at read
      · next slashes =>
          rw [Bool.and_eq_true] at slashes
          have front : ∀ char ∈ [first, second], isMark char = false :=
            List.forall_mem_cons.mpr ⟨isMark_of_isSlash slashes.1,
              List.forall_mem_singleton.mpr (isMark_of_isSlash slashes.2)⟩
          dsimp only at read
          split at read
          · cases read
            exact tailed_finishFile (marked.behind (by rw [parts]; exact front))
          · rcases bind_eq_ok_iff.mp read with ⟨host, _, made⟩
            cases made
            have hostFront := @List.takeWhile_prefix _ rest fun char => !endsAuthority kind char
            refine tailed_finishFile (marked.behind ?_)
            rw [parts, Nat.add_comm, List.take_succ_cons, List.take_succ_cons,
              ← List.prefix_iff_eq_take.mp hostFront]
            refine List.forall_mem_cons.mpr ⟨isMark_of_isSlash slashes.1,
              List.forall_mem_cons.mpr ⟨isMark_of_isSlash slashes.2, fun char member => ?_⟩⟩
            have inside := List.mem_takeWhile_imp member
            exact isMark_of_endsAuthority ((Bool.not_eq_true' _).mp inside)
      · cases read
        exact tailed_finishFile marked
  · cases read
    exact tailed_finishFile marked
  · next parts =>
      rw [← marked_unbroken, parts] at marked
      rcases marked with ⟨_, member, _⟩
      exact absurd member List.not_mem_nil

/-- A marked text is read as a URL with a query or a fragment. -/
theorem tailed_of_read {text : String} {url : Url} (marked : Marked text.toList)
    (found : read text = .ok url) : Tailed url := by
  have whole := marked_unbroken.mpr marked.trim
  rw [read_eq] at found
  split at found
  · cases found
  · next scheme rest schemeRead =>
      rcases readScheme_eq_some schemeRead with ⟨first, more, parts, rfl, _, chars⟩
      have front : ∀ char ∈ first :: more ++ [':'], isMark char = false := by
        refine List.forall_mem_append.mpr ⟨fun char member => ?_,
          List.forall_mem_singleton.mpr (by decide)⟩
        refine Bool.eq_false_iff.mpr fun mark => ?_
        have member := chars char member
        rcases isMark_eq mark with rfl | rfl <;> exact absurd member (by decide)
      replace parts : unbroken (trim text.toList) = (first :: more ++ [':']) ++ rest := by
        rw [parts, List.append_assoc]
        rfl
      have later : Marked rest := by
        rw [parts] at whole
        exact whole.of_append front
      unfold readBehind at found
      dsimp only at found
      split at found
      · refine tailed_of_readFile (marked.trim.behind ?_) found
        have length : ((first :: more).map Char.toLower).length + 1 =
            (first :: more ++ [':']).length := by simp
        rw [parts, length, List.take_left]
        exact front
      · split at found
        · exact tailed_of_readHierarchical (later.dropWhile fun _ => isMark_of_isSlash) found
        · split at found
          · next more =>
              exact tailed_of_readHierarchical (@Marked.of_append ['/', '/'] more later
                (by simp [isMark])) found
          · cases found
            exact tailed_assemble later
          · cases found
            exact tailed_assemble later

end StrongAuth.Url
