import Stencil.Files.Multibyte.Gbk

/-!
# The `gb2312` code

The tables of the multibyte code `gb2312`, as `MultibyteCode` reads them. GB 2312 is a
square of 94 rows of 94 places: first bytes `0xA1` to `0xF7`, second bytes `0xA1` to
`0xFE`, of which the rows `0xAA` to `0xAF` are empty. `gbk` extends it and keeps it, but
for two punctuation marks it reads otherwise and the symbols it adds in the square.
-/

namespace Stencil.Files

namespace MultibyteCode

/-- The places of the GB 2312 square that `gb2312` reads otherwise than `gbk`: two
punctuation marks, and the symbols `gbk` adds, which are illegal in `gb2312`. -/
def gb2312Changes : List (List Nat × Char) :=
  [([0xA1, 0xA4], '・'), ([0xA1, 0xAA], '―')] ++
    ((List.range 10).map (fun j => [0xA2, 0xA1 + j]) ++
      ((List.range 12).map (0xE0 + ·) ++ [0xEE, 0xEF, 0xF0, 0xF1, 0xF2, 0xF4, 0xF5]).map
        (fun b2 => [0xA6, b2]) ++
      [[0xA8, 0xBB], [0xA8, 0xBD], [0xA8, 0xBE], [0xA8, 0xC0]]).map fun s => (s, illegalOne)

/-- The rows of second bytes of the GB 2312 square, as `gbk` reads them. -/
def gb2312Square : List (Nat × Nat × String) :=
  ((List.range 9).map (0xA1 + ·) ++ (List.range 72).map (0xB0 + ·)).map fun b1 =>
    (b1, 0xA1, String.ofList ((List.range 94).map fun j => gbk.secondEntry b1 (0xA1 + j)))

/-- The multibyte code `gb2312`. -/
def gb2312 : MultibyteCode :=
  ({ name := "gb2312", first := gbk.first, rows := gb2312Square } : MultibyteCode).withEntries
    gb2312Changes

end MultibyteCode

end Stencil.Files
