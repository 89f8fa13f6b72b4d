import Mathlib.Tactic.Ring
import StrongAuth.Proofs.Paths

/-! # Addresses of hosts

Main statements: an address of version four or six that is written is read again, and what is
read is one that can be written. -/

namespace StrongAuth

/-- What is taken from the front ends where the condition does. -/
theorem takeWhile_append_of_stop {Element : Type} {takes : Element → Bool}
    {front rest : List Element} (all : ∀ element ∈ front, takes element = true)
    (stop : ∀ element ∈ rest.head?, takes element = false) :
    (front ++ rest).takeWhile takes = front := by
  rw [List.takeWhile_append_of_pos all]
  cases rest with
  | nil => rw [List.takeWhile_nil, List.append_nil]
  | cons element rest =>
      rw [List.takeWhile_cons_of_neg (by rw [stop element rfl]; decide), List.append_nil]

/-! ## Version four -/

namespace Ipv4

open Decimal

theorem digits_eq_of_lt {number : Nat} (small : number < 256) :
    digits number = [digitChar number] ∧ number < 10 ∨
      digits number = [digitChar (number / 10), digitChar number] ∧ 10 ≤ number ∧ number < 100 ∨
      digits number = [digitChar (number / 100), digitChar (number / 10), digitChar number] ∧
        100 ≤ number := by
  rw [digits]
  split
  · next one => exact .inl ⟨rfl, one⟩
  · next two =>
      rw [digits]
      split
      · next few => exact .inr (.inl ⟨rfl, by omega, by omega⟩)
      · next three =>
          rw [digits, if_pos (by omega), Nat.div_div_eq_div_mul]
          exact .inr (.inr ⟨rfl, by omega⟩)

theorem readNumber_digits {number : Nat} (small : number < 256) :
    readNumber (digits number) = some number := by
  have one : ∀ number < 10, readNumber [digitChar number] = some number := by decide
  have two : ∀ number < 100, 10 ≤ number →
      readNumber [digitChar (number / 10), digitChar number] = some number := by decide
  have three : ∀ number < 256, 100 ≤ number → readNumber
      [digitChar (number / 100), digitChar (number / 10), digitChar number] = some number := by
    decide +kernel
  rcases digits_eq_of_lt small with ⟨written, few⟩ | ⟨written, many, few⟩ | ⟨written, many⟩
  · rw [written, one number few]
  · rw [written, two number few many]
  · rw [written, three number small many]

def bytes (address : Nat) : List Nat :=
  [address / 16777216, address / 65536 % 256, address / 256 % 256, address % 256]

theorem bytes_lt {address : Nat} (small : address < 2 ^ 32) : ∀ byte ∈ bytes address, byte < 256 := by
  simp only [bytes, List.forall_mem_cons]
  exact ⟨by omega, by omega, by omega, by omega, fun _ member => absurd member List.not_mem_nil⟩

theorem ofNumbers_bytes {address : Nat} (small : address < 2 ^ 32) :
    ofNumbers (bytes address) = some address := by
  have within := bytes_lt small
  simp only [bytes, List.forall_mem_cons] at within
  have first : ¬ 255 < address / 16777216 := by omega
  have second : ¬ 255 < address / 65536 % 256 := by omega
  have third : ¬ 255 < address / 256 % 256 := by omega
  have last : ¬ 256 ≤ address % 256 := by omega
  have whole : (((address / 16777216) * 256 + address / 65536 % 256) * 256 +
      address / 256 % 256) * 256 + address % 256 = address := by omega
  simp [ofNumbers, bytes, first, second, third, last, whole]

theorem isDigit_of_mem_bytes {address : Nat} :
    ∀ part ∈ (bytes address).map digits, ∀ char ∈ part, isDigit char = true := by
  intro part member
  rcases List.mem_map.mp member with ⟨number, _, rfl⟩
  exact isDigit_of_mem_digits number

theorem write_eq (address : Nat) :
    write address = digits (address / 16777216) ++
      ((bytes address).tail.map digits).flatMap fun part => '.' :: part := by
  simp [write, bytes]

theorem splitOn_write (address : Nat) :
    (write address).splitOn '.' = (bytes address).map digits := by
  have dotless : ∀ part ∈ (bytes address).map digits, ∀ char ∈ part, (char == '.') = false := by
    intro part member char listed
    have digit := isDigit_of_mem_bytes part member char listed
    refine Bool.eq_false_iff.mpr fun dot => ?_
    rw [beq_iff_eq.mp dot] at digit
    exact absurd digit (by decide)
  have parted := List.forall_mem_cons.mp dotless
  rw [write_eq, List.splitOn]
  exact Url.splitOnP_segments (by decide) parted.1 parted.2

theorem parts_write (address : Nat) : parts (write address) = (bytes address).map digits := by
  rw [parts, splitOn_write]
  simp [bytes, digits_ne_nil]

theorem read?_write {address : Nat} (small : address < 2 ^ 32) :
    read? (write address) = some address := by
  have numbers : ((bytes address).map digits).mapM readNumber = some (bytes address) := by
    rw [List.mapM_map]
    have each := bytes_lt small
    simp only [bytes, List.forall_mem_cons] at each
    simp [bytes, readNumber_digits, each]
  rw [read?, parts_write, numbers]
  exact ofNumbers_bytes small

theorem write_ne_nil (address : Nat) : write address ≠ [] := by
  rw [write_eq]
  exact List.append_ne_nil_of_left_ne_nil (digits_ne_nil _) _

theorem endsInNumber_write (address : Nat) : endsInNumber (write address) = true := by
  have digit := isDigit_of_mem_digits (address % 256)
  rw [endsInNumber, parts_write]
  simp only [bytes, List.map_cons, List.map_nil, List.getLast?_cons_cons, List.getLast?_singleton]
  simp [digits_ne_nil, List.all_eq_true.mpr digit]

/-! ### What is read -/

theorem leading_lt {before : List Nat} (within : ∀ byte ∈ before, byte ≤ 255) (total : Nat) :
    before.foldl (fun total byte => total * 256 + byte) total <
      (total + 1) * 256 ^ before.length := by
  induction before generalizing total with
  | nil => simp
  | cons byte before induction =>
      rw [List.forall_mem_cons] at within
      calc before.foldl (fun total byte => total * 256 + byte) (total * 256 + byte)
        _ < (total * 256 + byte + 1) * 256 ^ before.length := induction within.2 _
        _ ≤ ((total + 1) * 256) * 256 ^ before.length :=
            Nat.mul_le_mul_right _ (by omega)
        _ = (total + 1) * 256 ^ (before.length + 1) := by rw [Nat.pow_succ]; ring

theorem lt_of_ofNumbers {numbers : List Nat} {address : Nat}
    (made : ofNumbers numbers = some address) : address < 2 ^ 32 := by
  unfold ofNumbers at made
  split at made
  · cases made
  · next last before reversed =>
      have count : numbers.length = before.length + 1 := by
        rw [← List.length_reverse, reversed, List.length_cons]
      split at made
      · cases made
      · next few =>
          split at made
          · cases made
          · next noLarge =>
              split at made
              · cases made
              · next fitting =>
                  cases made
                  have within : ∀ byte ∈ before.reverse, byte ≤ 255 := by
                    intro byte member
                    have small : ¬ 255 < byte := fun large => noLarge
                      (List.any_eq_true.mpr ⟨byte, List.mem_reverse.mp member, by simpa⟩)
                    omega
                  have lead := leading_lt within 0
                  rw [List.length_reverse, Nat.zero_add, Nat.one_mul] at lead
                  have power : 256 ^ before.length * 256 ^ (4 - before.length) = 2 ^ 32 := by
                    rw [← Nat.pow_add, show before.length + (4 - before.length) = 4 by omega]
                    rfl
                  calc _
                    _ < before.reverse.foldl (fun total byte => total * 256 + byte) 0 *
                          256 ^ (4 - before.length) + 256 ^ (4 - before.length) :=
                        Nat.add_lt_add_left (Nat.lt_of_not_le fitting) _
                    _ = (before.reverse.foldl (fun total byte => total * 256 + byte) 0 + 1) *
                          256 ^ (4 - before.length) := by ring
                    _ ≤ 256 ^ before.length * 256 ^ (4 - before.length) :=
                        Nat.mul_le_mul_right _ lead
                    _ = 2 ^ 32 := power

theorem lt_of_read? {host : List Char} {address : Nat} (found : read? host = some address) :
    address < 2 ^ 32 := by
  rcases Option.bind_eq_some_iff.mp found with ⟨numbers, _, made⟩
  exact lt_of_ofNumbers made

end Ipv4

/-! ## Version six -/

namespace Ipv6

/-! ### Pieces -/

def isHex (char : Char) : Bool :=
  (Hexadecimal.value? char).isSome

def valueOf (numeral : List Char) : Nat :=
  numeral.foldl (fun total char => total * 16 + (Hexadecimal.value? char).getD 0) 0

theorem isHex_lowerDigit {digit : Nat} (small : digit < 16) :
    isHex (Hexadecimal.lowerDigit digit) = true := by
  rw [isHex, Hexadecimal.value?_lowerDigit small]
  rfl

theorem hexDigits_ne_nil (number : Nat) : hexDigits number ≠ [] := by
  rw [hexDigits]
  split <;> simp

theorem isHex_of_mem_hexDigits (number : Nat) : ∀ char ∈ hexDigits number, isHex char = true := by
  fun_induction hexDigits number with
  | case1 number small => exact List.forall_mem_singleton.mpr (isHex_lowerDigit small)
  | case2 number _ induction =>
      exact List.forall_mem_append.mpr ⟨induction, List.forall_mem_singleton.mpr
        (isHex_lowerDigit (Nat.mod_lt _ (by decide)))⟩

theorem valueOf_hexDigits (number : Nat) : valueOf (hexDigits number) = number := by
  fun_induction hexDigits number with
  | case1 number small => simp [valueOf, Hexadecimal.value?_lowerDigit small]
  | case2 number _ induction =>
      have last := Hexadecimal.value?_lowerDigit (Nat.mod_lt number (show 0 < 16 by decide))
      rw [valueOf, List.foldl_append, ← valueOf, induction]
      simp only [List.foldl_cons, List.foldl_nil, last, Option.getD_some]
      omega

theorem length_hexDigits (number power : Nat) (small : number < 16 ^ (power + 1)) :
    (hexDigits number).length ≤ power + 1 := by
  induction power generalizing number with
  | zero =>
      rw [hexDigits, if_pos (by omega)]
      exact Nat.le_refl _
  | succ power induction =>
      rw [hexDigits]
      split
      · exact Nat.succ_le_succ (Nat.zero_le _)
      · rw [List.length_append, List.length_singleton]
        exact Nat.succ_le_succ (induction _ (by rw [Nat.pow_succ] at small; omega))

theorem ne_colon_of_isHex {char : Char} (hex : isHex char = true) : char ≠ ':' := by
  rintro rfl
  exact absurd hex (by decide)

/-- A text in front of which no hexadecimal digits stand. -/
def Ends (rest : List Char) : Prop :=
  ∀ char ∈ rest.head?, isHex char = false

theorem takeWhile_hexDigits {number : Nat} (small : number < 65536) {rest : List Char}
    (ends : Ends rest) :
    ((hexDigits number ++ rest).take 4).takeWhile isHex = hexDigits number := by
  have short : (hexDigits number).length ≤ 4 := length_hexDigits number 3 small
  rw [List.take_append, List.take_of_length_le short]
  refine takeWhile_append_of_stop (isHex_of_mem_hexDigits number) fun char member => ?_
  cases room : 4 - (hexDigits number).length with
  | zero =>
      rw [room, List.take_zero] at member
      cases member
  | succ room' =>
      rw [room] at member
      cases rest with
      | nil => cases member
      | cons first rest => exact ends char member

/-- Goes on behind a piece, as what follows it decides. -/
def afterPiece (fuel : Nat) (done : Partial) (chars : List Char) (piece : Nat) :
    (rest : List Char) → Option Partial
  | '.' :: _ =>
      if 6 < done.pieces.length then none
      else do
        let last ← readDotted chars
        some { done with pieces := done.pieces ++ last }
  | [':'] => none
  | ':' :: rest => readPieces fuel { done with pieces := done.pieces ++ [piece] } rest
  | [] => some { done with pieces := done.pieces ++ [piece] }
  | _ => none

theorem readPieces_piece {number : Nat} (small : number < 65536) {fuel : Nat} {done : Partial}
    (room : done.pieces.length < 8) {rest : List Char} (ends : Ends rest) :
    readPieces (fuel + 1) done (hexDigits number ++ rest) =
      afterPiece fuel done (hexDigits number ++ rest) number rest := by
  have numeral : ((hexDigits number ++ rest).take 4).takeWhile
      (fun char => (Hexadecimal.value? char).isSome) = hexDigits number :=
    takeWhile_hexDigits small ends
  have value : (hexDigits number).foldl
      (fun total char => total * 16 + (Hexadecimal.value? char).getD 0) 0 = number :=
    valueOf_hexDigits number
  have left : (hexDigits number ++ rest).drop (hexDigits number).length = rest := by
    rw [List.drop_left]
  have nonempty : (hexDigits number).isEmpty = false :=
    List.isEmpty_eq_false_iff.mpr (hexDigits_ne_nil number)
  cases written : hexDigits number with
  | nil => exact absurd written (hexDigits_ne_nil number)
  | cons char chars =>
      have noColon : char ≠ ':' := ne_colon_of_isHex
        (isHex_of_mem_hexDigits number char (written ▸ List.mem_cons_self))
      rw [written] at numeral value left nonempty
      rw [List.cons_append] at numeral left ⊢
      rw [readPieces, if_neg (Nat.not_le_of_lt room), if_neg noColon]
      simp only [numeral, value, left, nonempty, Bool.false_or, decide_eq_true_eq]
      rfl

theorem ends_nil : Ends [] := by
  rintro char ⟨⟩

theorem ends_colon (rest : List Char) : Ends (':' :: rest) := by
  rintro char ⟨⟩
  decide

theorem readPieces_last {number : Nat} (small : number < 65536) {fuel : Nat} {done : Partial}
    (room : done.pieces.length < 8) :
    readPieces (fuel + 1) done (hexDigits number) =
      some { done with pieces := done.pieces ++ [number] } := by
  rw [← List.append_nil (hexDigits number), readPieces_piece small room ends_nil]
  rfl

theorem readPieces_next {number : Nat} (small : number < 65536) {fuel : Nat} {done : Partial}
    (room : done.pieces.length < 8) {rest : List Char} (more : rest ≠ []) :
    readPieces (fuel + 1) done (hexDigits number ++ ':' :: rest) =
      readPieces fuel { done with pieces := done.pieces ++ [number] } rest := by
  rw [readPieces_piece small room (ends_colon rest)]
  cases rest with
  | nil => exact absurd rfl more
  | cons char rest => rfl

theorem writePieces_cons_cons (piece next : Nat) (pieces : List Nat) :
    writePieces (piece :: next :: pieces) =
      hexDigits piece ++ ':' :: writePieces (next :: pieces) := by
  rw [writePieces, List.map_cons, List.map_cons, List.intercalate_cons_cons, List.append_assoc]
  rfl

theorem writePieces_singleton (piece : Nat) : writePieces [piece] = hexDigits piece :=
  List.intercalate_singleton

theorem writePieces_ne_nil (piece : Nat) (pieces : List Nat) : writePieces (piece :: pieces) ≠ [] := by
  cases pieces with
  | nil =>
      rw [writePieces_singleton]
      exact hexDigits_ne_nil piece
  | cons next pieces =>
      rw [writePieces_cons_cons]
      simp

section Reading

variable {pieces : List Nat} (small : ∀ piece ∈ pieces, piece < 65536)

include small in
theorem readPieces_written {fuel : Nat} (enough : pieces.length < fuel) {done : Partial}
    (room : done.pieces.length + pieces.length ≤ 8) :
    readPieces fuel done (writePieces pieces) =
      some { done with pieces := done.pieces ++ pieces } := by
  induction pieces generalizing fuel done with
  | nil =>
      cases fuel with
      | zero => cases enough
      | succ fuel => simp [writePieces, List.intercalate, readPieces]
  | cons piece pieces induction =>
      rw [List.forall_mem_cons] at small
      rw [List.length_cons] at enough room
      cases fuel with
      | zero => cases enough
      | succ fuel =>
          cases pieces with
          | nil => rw [writePieces_singleton, readPieces_last small.1 (by omega)]
          | cons next pieces =>
              rw [writePieces_cons_cons,
                readPieces_next small.1 (by omega) (writePieces_ne_nil next pieces),
                induction small.2 (by omega) (by
                  rw [List.length_append, List.length_singleton]
                  omega), List.append_assoc]
              rfl

include small in
theorem readPieces_gap (nonempty : pieces ≠ []) {fuel : Nat} {back : List Char} {done : Partial}
    (noGap : done.gap = none) (room : done.pieces.length + pieces.length < 8) :
    readPieces (pieces.length + fuel + 1) done (writePieces pieces ++ ':' :: ':' :: back) =
      readPieces fuel ⟨done.pieces ++ pieces ++ [0], some (done.pieces.length + pieces.length + 1)⟩
        back := by
  induction pieces generalizing done with
  | nil => exact absurd rfl nonempty
  | cons piece pieces induction =>
      rw [List.forall_mem_cons] at small
      rw [List.length_cons] at room ⊢
      cases pieces with
      | nil =>
          rw [writePieces_singleton, List.length_nil, Nat.zero_add, Nat.add_comm 1 fuel,
            readPieces_next small.1 (by omega) (List.cons_ne_nil _ _), readPieces,
            if_neg (by rw [List.length_append, List.length_singleton]; omega), if_pos rfl,
            noGap]
          simp
      | cons next pieces =>
          have later := @induction small.2 (List.cons_ne_nil _ _)
            { done with pieces := done.pieces ++ [piece] } noGap (by
              simp only [List.length_append, List.length_singleton]
              omega)
          rw [show (next :: pieces).length + 1 + fuel + 1 = ((next :: pieces).length + fuel + 1) + 1
            by omega, writePieces_cons_cons, List.append_assoc, List.cons_append,
            readPieces_next small.1 (by omega) (by simp [writePieces_ne_nil]), later]
          simp [Nat.add_comm, Nat.add_left_comm]

end Reading

/-! ### The gap -/

/-- What is left out is a run of zeros. -/
theorem run_of_longestRun {pieces : List Nat} {place length : Nat}
    (longest : longestRun pieces = some (place, length)) :
    2 ≤ length ∧ zeroRun (pieces.drop place) = length := by
  have all : ∀ (places : List Nat) (best : Option (Nat × Nat)),
      (∀ run ∈ best, 2 ≤ run.2 ∧ zeroRun (pieces.drop run.1) = run.2) →
      ∀ run ∈ places.foldl (fun best place =>
        let length := zeroRun (pieces.drop place)
        let longest := (best.map Prod.snd).getD 1
        if longest < length then some (place, length) else best) best,
        2 ≤ run.2 ∧ zeroRun (pieces.drop run.1) = run.2 := by
    intro places
    induction places with
    | nil => exact fun _ known => known
    | cons place places induction =>
        intro best known
        refine induction _ fun run member => ?_
        dsimp only at member
        split at member
        · next longer =>
            obtain rfl : (place, zeroRun (pieces.drop place)) = run := Option.some.inj member
            refine ⟨?_, rfl⟩
            cases best with
            | none => exact longer
            | some run =>
                have atLeast := (known run rfl).1
                exact Nat.le_trans atLeast (Nat.le_of_lt longer)
        · exact known run member
  exact all _ none (fun _ none => by cases none) (place, length) longest

theorem take_zeroRun (pieces : List Nat) :
    pieces.take (zeroRun pieces) = List.replicate (zeroRun pieces) 0 := by
  refine List.eq_replicate_iff.mpr ⟨?_, fun piece member => ?_⟩
  · rw [List.length_take]
    exact Nat.min_eq_left (List.takeWhile_sublist _).length_le
  · have front : pieces.take (zeroRun pieces) = pieces.takeWhile (· == 0) :=
      (List.prefix_iff_eq_take.mp (List.takeWhile_prefix _)).symm
    rw [front] at member
    have zero := List.mem_takeWhile_imp member
    exact beq_iff_eq.mp zero

/-- The pieces around a run of zeros. -/
theorem eq_of_longestRun {pieces : List Nat} {place length : Nat}
    (longest : longestRun pieces = some (place, length)) :
    pieces = pieces.take place ++ List.replicate length 0 ++ pieces.drop (place + length) := by
  rcases run_of_longestRun longest with ⟨_, rfl⟩
  have run := take_zeroRun (pieces.drop place)
  rw [← run, List.append_assoc, ← List.drop_drop, List.take_append_drop, List.take_append_drop]

/-! ### Whole addresses -/

/-- An address of eight pieces of sixteen bits. -/
structure Whole (pieces : List Nat) : Prop where
  eight : pieces.length = 8
  small : ∀ piece ∈ pieces, piece < 65536

theorem length_writePieces (pieces : List Nat) : pieces.length ≤ (writePieces pieces).length := by
  induction pieces with
  | nil => exact Nat.zero_le _
  | cons piece pieces induction =>
      have some := List.length_pos_iff.mpr (hexDigits_ne_nil piece)
      cases pieces with
      | nil =>
          rw [writePieces_singleton]
          exact some
      | cons next pieces =>
          rw [writePieces_cons_cons]
          simp only [List.length_append, List.length_cons] at induction ⊢
          omega

theorem ne_colon_of_writePieces (piece : Nat) (pieces : List Nat) (rest : List Char) :
    ∀ char ∈ (writePieces (piece :: pieces) ++ rest).head?, char ≠ ':' := by
  have first : ∀ rest, ∀ char ∈ (hexDigits piece ++ rest).head?, char ≠ ':' := by
    intro rest char member
    rw [List.head?_append_of_ne_nil _ (hexDigits_ne_nil piece)] at member
    exact ne_colon_of_isHex (isHex_of_mem_hexDigits piece char (List.mem_of_mem_head? member))
  cases pieces with
  | nil =>
      rw [writePieces_singleton]
      exact first rest
  | cons next pieces =>
      rw [writePieces_cons_cons, List.append_assoc]
      exact first _

theorem read?_of_ne_colon {chars : List Char} (first : ∀ char ∈ chars.head?, char ≠ ':') :
    read? chars = (readPieces (chars.length + 1) ⟨[], none⟩ chars).bind Partial.complete := by
  unfold read?
  split
  · exact absurd rfl (first ':' rfl)
  · exact absurd rfl (first ':' rfl)
  · rfl

theorem complete_gap {front back : List Nat} {length : Nat} (positive : 1 ≤ length)
    (eight : front.length + length + back.length = 8) :
    Partial.complete ⟨front ++ [0] ++ back, some (front.length + 1)⟩ =
      some (front ++ List.replicate length 0 ++ back) := by
  have place : (front ++ [0]).length = front.length + 1 := by simp
  have missing : 8 - (front ++ [0] ++ back).length = length - 1 := by
    simp only [List.length_append, List.length_singleton]
    omega
  have run : List.replicate length 0 = [0] ++ List.replicate (length - 1) 0 := by
    rw [List.singleton_append, ← List.replicate_succ, Nat.sub_add_cancel positive]
  rw [Partial.complete]
  dsimp only
  rw [missing, ← place, List.take_left, List.drop_left, run, ← List.append_assoc front]

theorem read?_gap {front back : List Nat} {length : Nat} (smallFront : ∀ piece ∈ front, piece < 65536)
    (smallBack : ∀ piece ∈ back, piece < 65536) (positive : 1 ≤ length)
    (eight : front.length + length + back.length = 8) :
    read? (writePieces front ++ ':' :: ':' :: writePieces back) =
      some (front ++ List.replicate length 0 ++ back) := by
  have enough := length_writePieces back
  have completed := complete_gap positive eight
  cases front with
  | nil =>
      have read := @readPieces_written back smallBack ((writePieces back).length + 1) (by omega)
        ⟨[0], some 1⟩ (by simp only [List.length_singleton, List.length_nil] at eight ⊢; omega)
      rw [show writePieces ([] : List Nat) = [] from rfl, List.nil_append, read?]
      dsimp only
      rw [read]
      exact completed
  | cons piece front =>
      have longer := length_writePieces (piece :: front)
      have fuel : (writePieces (piece :: front) ++ ':' :: ':' :: writePieces back).length + 1 =
          (piece :: front).length + ((writePieces (piece :: front)).length +
            (writePieces back).length + 2 - (piece :: front).length) + 1 := by
        simp only [List.length_append, List.length_cons] at longer ⊢
        omega
      rw [read?_of_ne_colon (ne_colon_of_writePieces piece front _), fuel,
        readPieces_gap smallFront (List.cons_ne_nil _ _) rfl (by
          simp only [List.length_nil]
          omega),
        readPieces_written smallBack (by omega) (by
          simp only [List.length_append, List.length_nil, List.length_singleton]
          omega)]
      simpa using completed

theorem read?_write {pieces : List Nat} (whole : Whole pieces) :
    read? (write pieces) = some pieces := by
  have eight := whole.eight
  rw [write]
  cases longest : longestRun pieces with
  | none =>
      cases pieces with
      | nil => cases eight
      | cons piece pieces =>
          have enough := length_writePieces (piece :: pieces)
          have first := ne_colon_of_writePieces piece pieces []
          rw [List.append_nil] at first
          dsimp only
          rw [read?_of_ne_colon first, readPieces_written whole.small (by omega) (by
            simp only [List.length_nil]
            omega)]
          exact if_pos eight
  | some run =>
      rcases run with ⟨place, length⟩
      have around := eq_of_longestRun longest
      have read := @read?_gap (pieces.take place) (pieces.drop (place + length)) length
        (fun piece member => whole.small piece (List.mem_of_mem_take member))
        (fun piece member => whole.small piece (List.mem_of_mem_drop member))
        (Nat.le_of_succ_le (run_of_longestRun longest).1)
      rw [around, List.length_append, List.length_append, List.length_replicate] at eight
      rw [← around] at read
      exact read eight

/-! ### What is read -/

theorem value?_lt {char : Char} : (Hexadecimal.value? char).getD 0 < 16 := by
  rw [Hexadecimal.value?]
  split
  · simp only [Option.getD_some]
    omega
  · split
    · simp only [Option.getD_some]
      omega
    · split
      · simp only [Option.getD_some]
        omega
      · decide

theorem valueOf_lt (numeral : List Char) (total : Nat) :
    numeral.foldl (fun total char => total * 16 + (Hexadecimal.value? char).getD 0) total <
      (total + 1) * 16 ^ numeral.length := by
  induction numeral generalizing total with
  | nil => simp
  | cons char numeral induction =>
      have digit := @value?_lt char
      calc numeral.foldl (fun total char => total * 16 + (Hexadecimal.value? char).getD 0)
            (total * 16 + (Hexadecimal.value? char).getD 0)
        _ < (total * 16 + (Hexadecimal.value? char).getD 0 + 1) * 16 ^ numeral.length :=
            induction _
        _ ≤ ((total + 1) * 16) * 16 ^ numeral.length := Nat.mul_le_mul_right _ (by omega)
        _ = (total + 1) * 16 ^ (numeral.length + 1) := by rw [Nat.pow_succ]; ring

theorem valueOf_short {numeral : List Char} (short : numeral.length ≤ 4) :
    numeral.foldl (fun total char => total * 16 + (Hexadecimal.value? char).getD 0) 0 < 65536 :=
  calc _
    _ < (0 + 1) * 16 ^ numeral.length := valueOf_lt numeral 0
    _ ≤ 16 ^ 4 := by
        rw [Nat.zero_add, Nat.one_mul]
        exact Nat.pow_le_pow_right (by decide) short

theorem readByte_le {chars rest : List Char} {byte : Nat}
    (read : readByte chars = some (byte, rest)) : byte ≤ 255 := by
  rw [readByte] at read
  split at read
  · cases read
  · split at read
    · cases read
    · split at read
      · cases read
      · next small =>
          cases read
          omega

theorem readDotted_small {chars : List Char} {last : List Nat}
    (read : readDotted chars = some last) :
    last.length = 2 ∧ ∀ piece ∈ last, piece < 65536 := by
  rw [readDotted] at read
  rcases Option.bind_eq_some_iff.mp read with ⟨⟨first, behindFirst⟩, one, read⟩
  dsimp only at read
  split at read
  · rcases Option.bind_eq_some_iff.mp read with ⟨⟨second, behindSecond⟩, two, read⟩
    dsimp only at read
    split at read
    · rcases Option.bind_eq_some_iff.mp read with ⟨⟨third, behindThird⟩, three, read⟩
      dsimp only at read
      split at read
      · rcases Option.bind_eq_some_iff.mp read with ⟨⟨fourth, behindFourth⟩, four, read⟩
        dsimp only at read
        split at read
        · cases read
          have firstSmall := readByte_le one
          have secondSmall := readByte_le two
          have thirdSmall := readByte_le three
          have fourthSmall := readByte_le four
          refine ⟨rfl, List.forall_mem_cons.mpr ⟨by omega, List.forall_mem_singleton.mpr ?_⟩⟩
          omega
        · cases read
      · cases read
    · cases read
  · cases read

/-- At most eight pieces of sixteen bits each. -/
structure Partial.Sound (done : Partial) : Prop where
  within : done.pieces.length ≤ 8
  small : ∀ piece ∈ done.pieces, piece < 65536

theorem Partial.Sound.push {done : Partial} (sound : done.Sound) (room : ¬ 8 ≤ done.pieces.length)
    {piece : Nat} (small : piece < 65536) (gap : Option Nat) :
    Partial.Sound ⟨done.pieces ++ [piece], gap⟩ where
  within := by
    simp only [List.length_append, List.length_singleton]
    omega
  small := List.forall_mem_append.mpr ⟨sound.small, List.forall_mem_singleton.mpr small⟩

theorem sound_readPieces {fuel : Nat} {done result : Partial} {chars : List Char}
    (sound : done.Sound) (read : readPieces fuel done chars = some result) : result.Sound := by
  induction fuel generalizing done chars with
  | zero => cases read
  | succ fuel induction =>
      cases chars with
      | nil =>
          cases read
          exact sound
      | cons char chars =>
          have short : ((((char :: chars).take 4).takeWhile fun char =>
              (Hexadecimal.value? char).isSome)).length ≤ 4 :=
            Nat.le_trans (List.takeWhile_sublist _).length_le (List.length_take_le 4 _)
          have value := valueOf_short short
          rw [readPieces] at read
          split at read
          · cases read
          · next room =>
              split at read
              · split at read
                · cases read
                · exact induction (sound.push room (by decide) _) read
              · dsimp only at read
                split at read
                · split at read
                  · cases read
                  · next seats =>
                      rcases Option.bind_eq_some_iff.mp read with ⟨last, dotted, made⟩
                      cases made
                      rcases readDotted_small dotted with ⟨two, small⟩
                      rw [Bool.or_eq_true, decide_eq_true_eq, not_or] at seats
                      exact ⟨by simp only [List.length_append]; omega,
                        List.forall_mem_append.mpr ⟨sound.small, small⟩⟩
                · cases read
                · exact induction (sound.push room value _) read
                · cases read
                  exact sound.push room value _
                · cases read

theorem whole_of_read? {chars : List Char} {pieces : List Nat} (read : read? chars = some pieces) :
    Whole pieces := by
  have finished : ∀ done : Partial, done.Sound → done.complete = some pieces → Whole pieces := by
    intro done sound completed
    have within := sound.within
    unfold Partial.complete at completed
    split at completed
    · next place _ =>
        cases completed
        refine ⟨?_, ?_⟩
        · simp only [List.length_append, List.length_take, List.length_replicate, List.length_drop]
          omega
        · refine List.forall_mem_append.mpr ⟨List.forall_mem_append.mpr ⟨?_, ?_⟩, ?_⟩
          · exact fun piece member => sound.small piece (List.mem_of_mem_take member)
          · exact fun piece member => by rw [List.eq_of_mem_replicate member]; decide
          · exact fun piece member => sound.small piece (List.mem_of_mem_drop member)
    · split at completed
      · next eight =>
          cases completed
          exact ⟨eight, sound.small⟩
      · cases completed
  unfold read? at read
  split at read
  · rcases Option.bind_eq_some_iff.mp read with ⟨done, found, completed⟩
    exact finished done (sound_readPieces ⟨by decide, by decide⟩ found) completed
  · cases read
  · rcases Option.bind_eq_some_iff.mp read with ⟨done, found, completed⟩
    exact finished done (sound_readPieces ⟨by decide, by decide⟩ found) completed

end Ipv6

end StrongAuth
