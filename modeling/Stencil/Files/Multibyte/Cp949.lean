import Stencil.Files.Multibyte.EucKr

/-!
# The `cp949` code

The tables of the multibyte code `cp949` (Unified Hangul Code), as `MultibyteCode` reads
them. It keeps the square of `euc_kr`, where the Hangul filler stands for itself rather than
starting a make-up sequence, and gives the 8822 Hangul syllables that `euc_kr` has no
sequence for, in order of code point, to the places around the square.
-/

namespace Stencil.Files

namespace MultibyteCode

/-- The Hangul syllables that `euc_kr` has no sequence for, in order of code point. -/
def uhcSyllables : Array Nat :=
  let table := eucKr.encodingTable
  (((List.range 11172).map (0xAC00 + ·)).filter fun c => !table.contains c).toArray

/-- The number of a place among those of the added syllables, in order: first bytes
`0x81` to `0xC6`, second bytes `0x41` to `0x5A`, `0x61` to `0x7A` and `0x81` to `0xFE`,
but none in the square of `euc_kr`, where both bytes are from `0xA1`. -/
def uhcPlace (b1 b2 : Nat) : Option Nat :=
  let column :=
    if 0x41 ≤ b2 ∧ b2 ≤ 0x5A then some (b2 - 0x41)
    else if 0x61 ≤ b2 ∧ b2 ≤ 0x7A then some (b2 - 0x61 + 26)
    else if 0x81 ≤ b2 ∧ b2 ≤ 0xFE then some (b2 - 0x81 + 52)
    else none
  match column with
  | none => none
  | some c =>
    if b1 < 0x81 ∨ 0xC6 < b1 then none
    else if b1 < 0xA1 then some ((b1 - 0x81) * 178 + c)
    else if c < 84 then some (32 * 178 + (b1 - 0xA1) * 84 + c)
    else none

/-- The entry of a second byte of `cp949`. -/
def cp949Entry (b1 b2 : Nat) : Char :=
  match uhcPlace b1 b2 with
  | some k => (uhcSyllables[k]?.map charOfCode).getD illegalOne
  | none => if b1 = 0xA4 ∧ b2 = 0xD4 then '\u3164' else eucKr.secondEntry b1 b2

/-- The rows of second bytes of `cp949`. -/
def cp949Rows : List (Nat × Nat × String) :=
  (List.range 125).map fun i =>
    (0x81 + i, 0x41, String.ofList ((List.range 190).map fun j => cp949Entry (0x81 + i) (0x41 + j)))

/-- The multibyte code `cp949`. -/
def cp949 : MultibyteCode where
  name := "cp949"
  first := eucKr.first
  rows := cp949Rows

end MultibyteCode

end Stencil.Files
