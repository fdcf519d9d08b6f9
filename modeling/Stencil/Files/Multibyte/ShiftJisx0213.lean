import Stencil.Files.Multibyte.ShiftJis2004

/-!
# The `shift_jisx0213` code

`shift_jisx0213` reads the 2000 edition of JIS X 0213, as `shift_jis_2004` reads the
2004 edition: the ten characters the 2004 edition added to the first plane are
illegal, and one place of the second plane holds its character of the 2000 edition.
-/

namespace Stencil.Files

namespace MultibyteCode

/-- The sequences of `shift_jis_2004` that `shift_jisx0213` reads otherwise. -/
def shiftJisx0213Changes : List (List Nat × Char) :=
  [([0x87, 0x9F], illegalTwo), ([0x88, 0x9E], illegalTwo), ([0x98, 0x73], illegalTwo),
   ([0x98, 0x9E], illegalTwo), ([0xEA, 0xA5], illegalTwo), ([0xEF, 0xF8], illegalTwo),
   ([0xEF, 0xF9], illegalTwo), ([0xEF, 0xFA], illegalTwo), ([0xEF, 0xFB], illegalTwo),
   ([0xEF, 0xFC], illegalTwo), ([0xFC, 0x5A], '鬝')]

/-- The multibyte code `shift_jisx0213`. -/
def shiftJisx0213 : MultibyteCode :=
  { shiftJis2004.withEntries shiftJisx0213Changes with name := "shift_jisx0213" }

end MultibyteCode

end Stencil.Files
