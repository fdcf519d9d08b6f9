import Stencil.Files.Multibyte.EucJis2004

/-!
# The `euc_jisx0213` code

`euc_jisx0213` reads the 2000 edition of JIS X 0213, as `euc_jis_2004` reads the
2004 edition. The two editions differ in eleven places: the ten characters the 2004
edition added to the first plane are illegal in the 2000 one, and one place of the
second plane holds a different character. The characters the 2004 edition added
are not written either, nor is the character of that place in the 2004 edition,
which the tables would otherwise write from another place of the second plane.
-/

namespace Stencil.Files

namespace MultibyteCode

/-- The sequences of `euc_jis_2004` that `euc_jisx0213` reads otherwise. -/
def eucJisx0213Changes : List (List Nat × Char) :=
  [([0xAE, 0xA1], illegalTwo), ([0xAF, 0xFE], illegalTwo), ([0xCF, 0xD4], illegalTwo),
   ([0xCF, 0xFE], illegalTwo), ([0xF4, 0xA7], illegalTwo), ([0xFE, 0xFA], illegalTwo),
   ([0xFE, 0xFB], illegalTwo), ([0xFE, 0xFC], illegalTwo), ([0xFE, 0xFD], illegalTwo),
   ([0xFE, 0xFE], illegalTwo), ([0x8F, 0xFD, 0xBB], '鬝')]

/-- The multibyte code `euc_jisx0213`. -/
def eucJisx0213 : MultibyteCode :=
  { eucJis2004.withEntries eucJisx0213Changes with
    name := "euc_jisx0213"
    written := [(0x7626, []), (0x7E6B, []), (0x9B1C, [])] ++ eucJis2004.written }

end MultibyteCode

end Stencil.Files
