import StrongAuth.Text.Decimal
import StrongAuth.Text.Hexadecimal

/-! # Addresses of version six

Eight pieces of sixteen bits in hexadecimal, of which one run of zeros may be left
out. The last two pieces may be written as an address of version four. -/

namespace StrongAuth.Ipv6

/-- The pieces read so far, and where a run of zeros is left out. -/
structure Partial where
  pieces : List Nat
  gap : Option Nat

/-- A number below 256 without leading zeros, and what follows it. -/
def readByte (chars : List Char) : Option (Nat × List Char) :=
  let numeral := chars.takeWhile Decimal.isDigit
  let rest := chars.drop numeral.length
  let value := Decimal.value numeral
  if numeral.isEmpty then none
  else if 1 < numeral.length ∧ numeral.head? = some '0' then none
  else if 255 < value then none
  else some (value, rest)

/-- Four numbers with dots in between, as two pieces. -/
def readDotted (chars : List Char) : Option (List Nat) := do
  let (first, chars) ← readByte chars
  let '.' :: chars := chars | none
  let (second, chars) ← readByte chars
  let '.' :: chars := chars | none
  let (third, chars) ← readByte chars
  let '.' :: chars := chars | none
  let (fourth, chars) ← readByte chars
  if chars.isEmpty then some [first * 256 + second, third * 256 + fourth] else none

/-- Reads pieces up to the end of the address. Every piece takes one unit of `fuel`; one more
than the length of the text is enough. -/
def readPieces : (fuel : Nat) → Partial → List Char → Option Partial
  | 0, _, _ => none
  | _, done, [] => some done
  | fuel + 1, done, char :: chars =>
      if 8 ≤ done.pieces.length then none
      else if char = ':' then
        if done.gap.isSome then none
        else
          let pieces := done.pieces ++ [0]
          readPieces fuel ⟨pieces, some pieces.length⟩ chars
      else
        let piece := ((char :: chars).take 4).takeWhile fun char =>
          (Hexadecimal.value? char).isSome
        let value := piece.foldl (fun total char =>
          total * 16 + (Hexadecimal.value? char).getD 0) 0
        match (char :: chars).drop piece.length with
        | '.' :: _ =>
            if piece.isEmpty || 6 < done.pieces.length then none
            else do
              let last ← readDotted (char :: chars)
              some { done with pieces := done.pieces ++ last }
        | [':'] => none
        | ':' :: rest => readPieces fuel { done with pieces := done.pieces ++ [value] } rest
        | [] => some { done with pieces := done.pieces ++ [value] }
        | _ => none

/-- Fills the run of zeros that was left out. -/
def Partial.complete (done : Partial) : Option (List Nat) :=
  match done.gap with
  | some place =>
      some (done.pieces.take place ++ List.replicate (8 - done.pieces.length) 0 ++
        done.pieces.drop place)
  | none => if done.pieces.length = 8 then some done.pieces else none

def read? (chars : List Char) : Option (List Nat) := do
  let done ← match chars with
    | ':' :: ':' :: rest => readPieces (rest.length + 1) ⟨[0], some 1⟩ rest
    | ':' :: _ => none
    | rest => readPieces (rest.length + 1) ⟨[], none⟩ rest
  done.complete

/-- The hexadecimal digits of a number without leading zeros. -/
def hexDigits (number : Nat) : List Char :=
  if number < 16 then [Hexadecimal.lowerDigit number]
  else hexDigits (number / 16) ++ [Hexadecimal.lowerDigit (number % 16)]
termination_by number

/-- The length of the run of zeros that a list begins with. -/
def zeroRun (pieces : List Nat) : Nat :=
  (pieces.takeWhile (· == 0)).length

/-- The first of the longest runs of at least two zeros: its place and its length. -/
def longestRun (pieces : List Nat) : Option (Nat × Nat) :=
  (List.range pieces.length).foldl (fun best place =>
    let length := zeroRun (pieces.drop place)
    let longest := (best.map Prod.snd).getD 1
    if longest < length then some (place, length) else best) none

def writePieces (pieces : List Nat) : List Char :=
  [':'].intercalate (pieces.map hexDigits)

/-- An address with its first longest run of zeros left out. -/
def write (pieces : List Nat) : List Char :=
  match longestRun pieces with
  | none => writePieces pieces
  | some (place, length) =>
      writePieces (pieces.take place) ++ ':' :: ':' :: writePieces (pieces.drop (place + length))

end StrongAuth.Ipv6
