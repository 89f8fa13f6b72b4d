/-! # Punycode

The ASCII form of a domain label with other characters: the ASCII
characters of the label first, then, in ascending order of code points, how far it is
from each character to the next, in digits of a mixed base that adapts to the
distances. -/

namespace StrongAuth.Punycode

def digitChar (digit : Nat) : Char :=
  if digit < 26 then Char.ofNat (97 + digit) else Char.ofNat (22 + digit)

/-- The least digit that is not the last one at a position. -/
def threshold (position bias : Nat) : Nat :=
  min 26 (max 1 (position - bias))

theorem threshold_pos (position bias : Nat) : 1 ≤ threshold position bias := by
  unfold threshold
  omega

/-- The digits of a distance from a position on. -/
def writeDelta (bias position delta : Nat) : List Char :=
  let least := threshold position bias
  if delta < least then [digitChar delta]
  else
    digitChar (least + (delta - least) % (36 - least)) ::
      writeDelta bias (position + 36) ((delta - least) / (36 - least))
termination_by delta
decreasing_by
  have positive := threshold_pos position bias
  exact Nat.lt_of_le_of_lt (Nat.div_le_self _ _) (by omega)

/-- Scales a distance down to the range of the bias and counts the positions. -/
def scale (delta position : Nat) : Nat :=
  if delta ≤ 455 then position + 36 * delta / (delta + 38)
  else scale (delta / 35) (position + 36)
termination_by delta
decreasing_by exact Nat.div_lt_self (by omega) (by decide)

/-- The bias after a distance has been written. -/
def adapt (delta handled : Nat) (first : Bool) : Nat :=
  let halved := if first then delta / 700 else delta / 2
  scale (halved + halved / handled) 0

structure Progress where
  delta : Nat
  bias : Nat
  handled : Nat
  output : List Char

/-- Writes the places of one code point. -/
def writePlaces (basic : Nat) (label : List Nat) (code : Nat) (progress : Progress) : Progress :=
  label.foldl (fun progress other =>
    if other < code then { progress with delta := progress.delta + 1 }
    else if other = code then
      { delta := 0
        bias := adapt progress.delta (progress.handled + 1) (progress.handled == basic)
        handled := progress.handled + 1
        output := progress.output ++ writeDelta progress.bias 36 progress.delta }
    else progress) progress

/-- Writes the places of several code points, given in ascending order. -/
def writeCodes (basic : Nat) (label : List Nat) :
    (next : Nat) → List Nat → Progress → Progress
  | _, [], progress => progress
  | next, code :: codes, progress =>
      let reached := { progress with
        delta := progress.delta + (code - next) * (progress.handled + 1) }
      let written := writePlaces basic label code reached
      writeCodes basic label (code + 1) codes { written with delta := written.delta + 1 }

def encode (label : List Char) : List Char :=
  let basic := label.filter fun char => char.toNat < 128
  let codes := (label.filter fun char => 128 ≤ char.toNat).map Char.toNat
  let ascending := codes.eraseDups.mergeSort fun left right => left ≤ right
  let start := if basic.isEmpty then [] else basic ++ ['-']
  (writeCodes basic.length (label.map Char.toNat) 128 ascending
    ⟨0, 72, basic.length, start⟩).output

/-! ## Reading -/

def digitValue? (char : Char) : Option Nat :=
  if char.isLower then some (char.toNat - 97)
  else if char.isDigit then some (char.toNat - 22)
  else none

/-- A distance from a position on, each digit of which has a weight, and what follows it.
Weights and distances have to fit thirty-two bits. -/
def readDelta (bias : Nat) : (position weight total : Nat) → List Char →
    Option (Nat × List Char)
  | _, _, _, [] => none
  | position, weight, total, char :: chars =>
      match digitValue? char with
      | none => none
      | some digit =>
          let total := total + digit * weight
          let least := threshold position bias
          if Nat.pow 2 32 ≤ total then none
          else if digit < least then some (total, chars)
          else if Nat.pow 2 32 ≤ weight * (36 - least) then none
          else readDelta bias (position + 36) (weight * (36 - least)) total chars

theorem length_of_readDelta {bias position weight total delta : Nat} {chars rest : List Char}
    (found : readDelta bias position weight total chars = some (delta, rest)) :
    rest.length < chars.length := by
  induction chars generalizing position weight total with
  | nil => simp [readDelta] at found
  | cons char chars induction =>
      unfold readDelta at found
      split at found
      · simp at found
      · dsimp only at found
        split at found
        · simp at found
        · split at found
          · simp_all
          · split at found
            · simp at found
            · exact Nat.lt_succ_of_lt (induction found)

/-- Adds the characters that the digits stand for to a label. -/
def readCodes (code place bias : Nat) (first : Bool) (label digits : List Char) :
    Option (List Char) :=
  if digits.isEmpty then some label
  else
    match _found : readDelta bias 36 1 0 digits with
    | none => none
    | some (delta, rest) =>
        let handled := label.length + 1
        let code := code + (place + delta) / handled
        let place := (place + delta) % handled
        if 0x10FFFF < code || (0xD800 ≤ code && code < 0xE000) then none
        else
          readCodes code (place + 1) (adapt delta handled first) false
            (label.take place ++ Char.ofNat code :: label.drop place) rest
termination_by digits.length
decreasing_by exact length_of_readDelta _found

/-- The label of a Punycode form. The last hyphen parts its ASCII characters from the digits,
unless none are in front of it. -/
def decode? (form : List Char) : Option (List Char) :=
  let behind := (form.reverse.takeWhile (· != '-')).reverse
  let basic := form.take (form.length - behind.length - 1)
  readCodes 128 0 72 true basic (if basic.isEmpty then form else behind)

end StrongAuth.Punycode
