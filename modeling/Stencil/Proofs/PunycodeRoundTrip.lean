import Mathlib
import Stencil.Files.Punycode

/-!
# Punycode reads back what it writes

Reading a text written in Punycode gives the text back (`decode_encode`), for every text.

Reading splits the bytes at the last hyphen. The numbers are written with letters and
digits only, so that hyphen is the one written after the ASCII characters, and those come
back in their order (`decode_encode_eq_insertAll`). Every number reads back from the place
it was written at, whatever follows it (`readNumber_numberDigits`).

The insertions then undo the writing. `Reader` is the state of the reading loop, and
`Reader.ReadsTo r bs r'` says that the digits `bs` take it from `r` to `r'`. While the
writer inserts the code `m`, the reader has placed every character below `m` and every `m`
the writer has passed, and the count the writer carries is the number of the reader's steps
from its last insertion to the place reached (`Tracks`). Passing a character keeps this
(`Tracks.visit`); so does a round over the text for one code (`Tracks.insertCode`), and the
rounds over the codes in increasing order leave the reader with the whole text
(`Tracks.foldl_insertCode`).
-/

namespace Stencil.Files.Punycode

/-! ## Numbers -/

/-- A digit is read back as the value it was written for, after reading upper-cases it. -/
theorem digitValue_digitByte : ∀ d < 36,
    digitValue? (Char.ofNat (digitByte d).toNat).toUpper = some d := by
  decide

/-- A number written from place `j` on reads back from the same place, whatever follows
it, with the digits read as decoding reads them: upper-cased. -/
theorem readNumber_numberDigits (bias : Nat) (rest : List Char) (j n w acc : Nat) :
    readNumber bias ((numberDigits bias j n).map (fun b => (Char.ofNat b.toNat).toUpper) ++ rest)
      j w acc = .ok (acc + n * w, rest) := by
  fun_induction numberDigits bias j n generalizing w acc with
  | case1 j n t last =>
    have read := digitValue_digitByte n (by have := threshold_le j bias; omega)
    simp only [List.map_cons, List.map_nil, List.cons_append, List.nil_append, readNumber, read]
    rw [if_pos last]
  | case2 j n t more ih =>
    -- the digit at this place is at least the threshold, so the number goes on
    have digit : t + (n - t) % (36 - t) < 36 := by
      have := threshold_le j bias
      have := Nat.mod_lt (n - t) (show 36 - t > 0 by omega)
      omega
    have whole : t + (n - t) % (36 - t) + (36 - t) * ((n - t) / (36 - t)) = n := by
      have := Nat.mod_add_div (n - t) (36 - t)
      omega
    simp only [List.map_cons, List.cons_append, readNumber, digitValue_digitByte _ digit]
    rw [if_neg (by omega), ih]
    congr 2
    calc acc + (t + (n - t) % (36 - t)) * w + (n - t) / (36 - t) * (w * (36 - t))
        = acc + (t + (n - t) % (36 - t) + (36 - t) * ((n - t) / (36 - t))) * w := by
          simp only [Nat.add_mul]; ac_rfl
      _ = acc + n * w := by rw [whole]

/-- A number is written with at least one digit. -/
theorem numberDigits_cons (bias j n : Nat) : ∃ d ds, numberDigits bias j n = d :: ds := by
  rw [numberDigits]
  split
  · exact ⟨_, _, rfl⟩
  · exact ⟨_, _, rfl⟩

/-! ## The frame -/

/-- A byte among the written numbers: a digit, `a` to `z` or `0` to `9`. -/
def IsDigitByte (b : UInt8) : Prop := ∃ d < 36, b = digitByte d

theorem IsDigitByte.ascii {b : UInt8} (h : IsDigitByte b) : b.toNat < 0x80 ∧ b ≠ 0x2D := by
  obtain ⟨d, small, rfl⟩ := h
  revert d
  decide

theorem mem_numberDigits {bias j n : Nat} {b : UInt8} (h : b ∈ numberDigits bias j n) :
    IsDigitByte b := by
  fun_induction numberDigits bias j n with
  | case1 j n t last =>
    have := threshold_le j bias
    exact ⟨n, by omega, List.mem_singleton.1 h⟩
  | case2 j n t more ih =>
    rcases List.mem_cons.1 h with rfl | later
    · have := threshold_le j bias
      have := Nat.mod_lt (n - t) (show 36 - t > 0 by omega)
      exact ⟨_, by omega, rfl⟩
    · exact ih later

/-- Passing characters while inserting a code writes only digits. -/
theorem foldl_visit_digits (basic m : Nat) (cs : List Char) :
    ∀ s : Insertion, (∀ b ∈ s.digits.toList, IsDigitByte b) →
      ∀ b ∈ (cs.foldl (Insertion.visit basic m) s).digits.toList, IsDigitByte b := by
  induction cs with
  | nil => exact fun s h => h
  | cons c rest ih =>
    intro s h
    apply ih
    unfold Insertion.visit
    split
    · exact h
    · split
      · intro b mem
        simp only [Array.toList_appendList, List.mem_append] at mem
        exact mem.elim (h b) mem_numberDigits
      · exact h

theorem numbers_digits (cs : List Char) : ∀ b ∈ numbers cs, IsDigitByte b := by
  unfold numbers
  dsimp only
  -- each code inserted keeps the invariant: the digits written so far are digits
  suffices all : ∀ (codes : List Nat) (s : Insertion × Nat),
      (∀ b ∈ s.1.digits.toList, IsDigitByte b) →
        ∀ b ∈ (codes.foldl (Insertion.insertCode cs (cs.filter (·.toNat < 0x80)).length)
          s).1.digits.toList, IsDigitByte b from
    all _ _ (by simp)
  intro codes
  induction codes with
  | nil => exact fun s h => h
  | cons m rest ih =>
    intro s h
    apply ih
    exact foldl_visit_digits _ m cs _ h

/-- Bytes below 128 read as the characters of their codes. -/
theorem decodeAscii_of_lt {bs : List UInt8} (h : ∀ b ∈ bs, b.toNat < 0x80) :
    decodeAscii bs = .ok (bs.map fun b => Char.ofNat b.toNat) := by
  have none : bs.findIdx? (·.toNat ≥ 0x80) = none :=
    List.findIdx?_eq_none_iff.2 fun b mem => by simpa using h b mem
  rw [decodeAscii, none]

/-- No place of bytes without a hyphen holds a hyphen. -/
theorem hyphens_eq_nil {bs : List UInt8} (h : ∀ b ∈ bs, b ≠ 0x2D) (k : Nat) :
    (bs.zipIdx k).filter (·.1 = 0x2D) = [] :=
  List.filter_eq_nil_iff.2 fun x mem => by simpa using h x.1 (List.fst_mem_of_mem_zipIdx mem)

/-- ASCII characters written as bytes read back. -/
theorem decodeAscii_asciiBytes {cs : List Char} (h : ∀ c ∈ cs, c.toNat < 0x80) :
    decodeAscii (cs.map fun c => byteOf c.toNat) = .ok cs := by
  have byte : ∀ c ∈ cs, (byteOf c.toNat).toNat = c.toNat := fun c mem => by
    simpa [byteOf] using Nat.mod_eq_of_lt (Nat.lt_trans (h c mem) (by decide : 0x80 < 2 ^ 8))
  rw [decodeAscii_of_lt, List.map_map]
  · congr 1
    conv => rhs; rw [← List.map_id cs]
    exact List.map_congr_left fun c mem => by simp [byte c mem]
  · intro b mem
    obtain ⟨c, cmem, rfl⟩ := List.mem_map.1 mem
    rw [byte c cmem]
    exact h c cmem

/-- The last hyphen of bytes is the one before bytes without a hyphen. -/
theorem lastHyphen_append (pre : List UInt8) {post : List UInt8} (h : ∀ b ∈ post, b ≠ 0x2D) :
    ((pre ++ [0x2D] ++ post).zipIdx.filter fun p : UInt8 × Nat => p.1 = 0x2D).getLast?.map
      (fun p : UInt8 × Nat => p.2) = some pre.length := by
  rw [List.zipIdx_append, List.zipIdx_append, List.filter_append, List.filter_append,
    hyphens_eq_nil h, List.append_nil, List.getLast?_append]
  simp

/-- Reading Punycode splits what was written where it was joined: the ASCII characters of
the text come back in their order, before the last hyphen, and the numbers after it are
left to the insertions, upper-cased. -/
theorem decode_encode_eq_insertAll (cs : List Char) :
    decode (encode cs) = insertAll 72 0x80 0 true (cs.filter (·.toNat < 0x80))
      ((numbers cs).map fun b => (Char.ofNat b.toNat).toUpper) := by
  have digits := numbers_digits cs
  have numbersRead :
      decodeAscii (numbers cs) = .ok ((numbers cs).map fun b => Char.ofNat b.toNat) :=
    decodeAscii_of_lt fun b mem => (digits b mem).ascii.1
  have small : ∀ c ∈ cs.filter (·.toNat < 0x80), c.toNat < 0x80 := fun c mem => by
    simpa using (List.mem_filter.1 mem).2
  unfold encode decode
  dsimp only
  generalize cs.filter (·.toNat < 0x80) = ascii at small ⊢
  by_cases empty : ascii = []
  · -- no ASCII character: no hyphen, and every byte is a digit
    subst empty
    have none : ((numbers cs).zipIdx.filter (·.1 = 0x2D)).getLast?.map (·.2) = none := by
      rw [hyphens_eq_nil fun b mem => (digits b mem).ascii.2]
      rfl
    simp only [List.map_nil, List.isEmpty_nil, if_true, none, numbersRead]
    simp only [show decodeAscii [] = .ok [] from rfl, bind, Except.bind, List.map_map]
    rfl
  · -- the hyphen written after the ASCII characters is the last one
    have cut := lastHyphen_append (ascii.map fun c => byteOf c.toNat)
      fun b mem => (digits b mem).ascii.2
    rw [if_neg (by simpa using empty), cut]
    dsimp only
    have taken : ∀ pre post : List UInt8, (pre ++ [0x2D] ++ post).take pre.length = pre := by
      simp
    have dropped : ∀ pre post : List UInt8,
        (pre ++ [0x2D] ++ post).drop (pre.length + 1) = post := by
      simp
    rw [taken, dropped, decodeAscii_asciiBytes small, numbersRead]
    simp only [bind, Except.bind, List.map_map]
    rfl

/-! ## The reader -/

/-- The state of reading the numbers: the bias, the code and the place reached, whether the
next number is the first, and the characters placed so far. -/
structure Reader where
  bias : Nat
  code : Nat
  next : Nat
  first : Bool
  out : List Char

namespace Reader

/-- Read the rest of the numbers from a state. -/
def read (r : Reader) (ext : List Char) : Except CodecError (List Char) :=
  insertAll r.bias r.code r.next r.first r.out ext

theorem read_nil (r : Reader) : r.read [] = .ok r.out := by
  rw [read, insertAll]

/-- The digits `bs`, as reading sees them, take the reader from `r` to `r'`, whatever
follows them. -/
def ReadsTo (r : Reader) (bs : List UInt8) (r' : Reader) : Prop :=
  ∀ more, r.read (bs.map (fun b => (Char.ofNat b.toNat).toUpper) ++ more) = r'.read more

theorem ReadsTo.refl (r : Reader) : r.ReadsTo [] r := fun _ => rfl

theorem ReadsTo.trans {r r' r'' : Reader} {bs bs' : List UInt8} (h : r.ReadsTo bs r')
    (h' : r'.ReadsTo bs' r'') : r.ReadsTo (bs ++ bs') r'' := by
  intro more
  rw [List.map_append, List.append_assoc, h, h']

end Reader

theorem length_take_cons_drop (l : List Char) (c : Char) {place : Nat} (h : place ≤ l.length) :
    (l.take place ++ c :: l.drop place).length = l.length + 1 := by
  simp only [List.length_append, List.length_take, List.length_cons, List.length_drop]
  omega

/-- A character's code is at most `0x10FFFF`. -/
theorem toNat_le_maxCode (c : Char) : c.toNat ≤ 0x10FFFF := by
  have valid := c.valid
  simp only [UInt32.isValidChar, Nat.isValidChar] at valid
  show c.val.toNat ≤ _
  omega

theorem charOfCode_toNat (c : Char) : charOfCode c.toNat = c := by
  rw [charOfCode, if_pos (show c.toNat.isValidChar from c.valid), Char.ofNat_toNat]

/-- A number read where the reader stands, counting the steps to the code of `c` at
`place`, inserts `c` there. -/
theorem Reader.readsTo_numberDigits (r : Reader) (c : Char) (place delta : Nat)
    (le : r.code ≤ c.toNat) (inside : place ≤ r.out.length)
    (count : r.next + delta = (c.toNat - r.code) * (r.out.length + 1) + place) :
    r.ReadsTo (numberDigits r.bias 0 delta)
      ⟨adapt delta r.first (r.out.length + 1), c.toNat, place + 1, false,
        r.out.take place ++ c :: r.out.drop place⟩ := by
  intro more
  have read := readNumber_numberDigits r.bias more 0 delta 1 0
  obtain ⟨d, ds, digits⟩ := numberDigits_cons r.bias 0 delta
  rw [digits] at read ⊢
  simp only [List.map_cons, List.cons_append] at read ⊢
  -- the steps from the reader's place, taken one place at a time with the code going up
  -- after each last place, end at the code of `c` at `place`
  have code : r.code + (r.next + delta) / (r.out.length + 1) = c.toNat := by
    rw [count, Nat.mul_comm, Nat.mul_add_div (Nat.succ_pos _), Nat.div_eq_of_lt (by omega)]
    omega
  have cut : (r.next + delta) % (r.out.length + 1) = place := by
    rw [count, Nat.mul_comm, Nat.mul_add_mod, Nat.mod_eq_of_lt (by omega)]
  rw [Reader.read, insertAll]
  split
  · -- the number reads, so reading it does not fail
    rename_i e h
    rw [h] at read
    cases read
  · rename_i delta' rest h
    rw [h] at read
    obtain ⟨rfl, rfl⟩ : delta' = delta ∧ rest = more := by
      simpa using read
    dsimp only
    rw [code, if_neg (Nat.not_lt.2 (toNat_le_maxCode c)), cut, charOfCode_toNat,
      length_take_cons_drop _ _ inside]
    rfl

/-! ## The codes beyond ASCII -/

theorem nodup_eraseDups : ∀ l : List Nat, l.eraseDups.Nodup
  | [] => List.nodup_nil
  | a :: as => by
    rw [List.eraseDups_cons]
    refine List.nodup_cons.2 ⟨?_, nodup_eraseDups _⟩
    simp
termination_by l => l.length
decreasing_by exact Nat.lt_succ_of_le (List.length_filter_le _ _)

theorem mem_extendedCodes {cs : List Char} {x : Nat} :
    x ∈ extendedCodes cs ↔ 0x80 ≤ x ∧ ∃ c ∈ cs, c.toNat = x := by
  simp [extendedCodes, and_comm]

/-- The codes beyond ASCII are in strictly increasing order. -/
theorem pairwise_extendedCodes (cs : List Char) : (extendedCodes cs).Pairwise (· < ·) := by
  have sorted : (extendedCodes cs).Pairwise fun a b => decide (a ≤ b) := by
    apply List.pairwise_mergeSort
    · intro a b c h h'
      simp only [decide_eq_true_eq] at h h' ⊢
      omega
    · intro a b
      simp only [Bool.or_eq_true, decide_eq_true_eq]
      omega
  have nodup : (extendedCodes cs).Nodup :=
    (List.mergeSort_perm _ _).nodup_iff.2 (nodup_eraseDups _)
  exact (sorted.and nodup).imp fun ⟨le, ne⟩ => by
    simp only [decide_eq_true_eq] at le
    omega

/-! ## The writer in step with the reader -/

/-- The writer's state `s`, inserting the code `m` with `pre` passed and `rest` to pass,
and the reader's state `r` agree. The reader has placed every character below `m` and the
`m`s in `pre`, and reads with the writer's bias. The writer's count is the number of the
reader's steps from its place to the place reached in `pre`, where each increase of the
code is one step for each place. -/
structure Tracks (basic m : Nat) (pre rest : List Char) (s : Insertion) (r : Reader) :
    Prop where
  bias : r.bias = s.bias
  first : r.first = decide (s.placed = basic)
  out : r.out = pre.filter (·.toNat ≤ m) ++ rest.filter (·.toNat < m)
  placed : s.placed = r.out.length
  basic_le : basic ≤ s.placed
  code_le : r.code ≤ m
  count : s.delta + r.next =
    (m - r.code) * (r.out.length + 1) + (pre.filter (·.toNat ≤ m)).length

section Writing

variable {basic m : Nat} {pre rest : List Char} {s : Insertion} {r : Reader}

/-- Passing one character keeps the writer and the reader in step: a smaller code is one
more place passed, the code `m` itself is an insertion that the reader makes too. -/
theorem Tracks.visit {c : Char} (h : Tracks basic m pre (c :: rest) s r) :
    ∃ r' new, (s.visit basic m c).digits.toList = s.digits.toList ++ new ∧
      r.ReadsTo new r' ∧ Tracks basic m (pre ++ [c]) rest (s.visit basic m c) r' := by
  have out := h.out
  have count := h.count
  by_cases below : c.toNat < m
  · -- a place passed: the count goes up by one, as the reader's place would
    rw [Insertion.visit, if_pos below]
    refine ⟨r, [], by simp, .refl r, { h with out := ?_, count := ?_ }⟩
    · simp [out, below, Nat.le_of_lt below]
    · simp [List.filter_append, Nat.le_of_lt below]
      omega
  have keep : (c :: rest).filter (·.toNat < m) = rest.filter (·.toNat < m) := by
    simp [below]
  by_cases same : c.toNat = m
  · -- an insertion: the count is read as one number, and the reader places `c`
    rw [Insertion.visit, if_neg below, if_pos same]
    set P := (pre.filter (·.toNat ≤ m)).length
    have inside : P ≤ r.out.length := by
      simp [out, P]
    have reads := r.readsTo_numberDigits c P s.delta (by have := h.code_le; omega) inside
      (by rw [same]; omega)
    rw [h.bias] at reads
    refine ⟨_, _, by simp, reads, ?_⟩
    have taken : r.out.take P ++ c :: r.out.drop P =
        (pre ++ [c]).filter (·.toNat ≤ m) ++ rest.filter (·.toNat < m) := by
      rw [out, keep, List.take_left' rfl, List.drop_left' rfl, List.filter_append]
      simp [same]
    refine ⟨by rw [h.first, h.placed], ?_, taken, ?_, ?_, by simp [same], ?_⟩
    · have := h.basic_le
      show false = decide (s.placed + 1 = basic)
      simp only [Bool.false_eq, decide_eq_false_iff_not]
      omega
    · rw [length_take_cons_drop _ _ inside, h.placed]
    · have := h.basic_le
      show basic ≤ s.placed + 1
      omega
    · simp [taken, same, P]
  · -- a larger code: nothing is written and the reader waits
    rw [Insertion.visit, if_neg below, if_neg same]
    have skip : (pre ++ [c]).filter (·.toNat ≤ m) = pre.filter (·.toNat ≤ m) := by
      simp [List.filter_append]
      omega
    refine ⟨r, [], by simp, .refl r, { h with out := ?_, count := ?_ }⟩
    · rw [out, keep, skip]
    · rw [skip]
      exact count

/-- Passing the rest of the text keeps the writer and the reader in step. -/
theorem Tracks.foldl_visit (h : Tracks basic m pre rest s r) :
    ∃ r' new, (rest.foldl (Insertion.visit basic m) s).digits.toList = s.digits.toList ++ new ∧
      r.ReadsTo new r' ∧
      Tracks basic m (pre ++ rest) [] (rest.foldl (Insertion.visit basic m) s) r' := by
  induction rest generalizing pre s r with
  | nil => exact ⟨r, [], by simp, .refl r, by simpa using h⟩
  | cons c rest ih =>
    obtain ⟨r₁, new₁, digits₁, reads₁, h₁⟩ := h.visit
    obtain ⟨r₂, new₂, digits₂, reads₂, h₂⟩ := ih h₁
    refine ⟨r₂, new₁ ++ new₂, ?_, reads₁.trans reads₂, by simpa using h₂⟩
    rw [List.foldl_cons, digits₂, digits₁, List.append_assoc]

/-- A round of the writer over the text for the code `m`, the next code from `n` on that
the text holds: the reader places every `m` of the text, and both move on to `m + 1`. -/
theorem Tracks.insertCode {cs : List Char} {n : Nat} (h : Tracks basic n [] cs s r)
    (le : n ≤ m) (gap : ∀ c ∈ cs, n ≤ c.toNat → m ≤ c.toNat) :
    ∃ r' new, (Insertion.insertCode cs basic (s, n) m).1.digits.toList =
        s.digits.toList ++ new ∧ r.ReadsTo new r' ∧
      Tracks basic (m + 1) [] cs (Insertion.insertCode cs basic (s, n) m).1 r' := by
  have below : cs.filter (·.toNat < n) = cs.filter (·.toNat < m) :=
    List.filter_congr fun c mem => by
      have := gap c mem
      simp only [decide_eq_decide]
      omega
  -- the increase of the code from `n` to `m` counts one step for each place
  have start : Tracks basic m [] cs { s with delta := s.delta + (m - n) * (s.placed + 1) } r := by
    have count := h.count
    have := h.code_le
    refine ⟨h.bias, h.first, by simpa [below] using h.out, h.placed, h.basic_le, by omega, ?_⟩
    show s.delta + (m - n) * (s.placed + 1) + r.next = _
    rw [show m - r.code = (m - n) + (n - r.code) by omega, Nat.add_mul, h.placed]
    simp only [List.filter_nil, List.length_nil] at count ⊢
    omega
  obtain ⟨r', new, digits, reads, h'⟩ := start.foldl_visit
  refine ⟨r', new, digits, reads, ?_⟩
  -- the end of the round is one more step, to the code `m + 1` at the first place
  have whole : r'.out = cs.filter (·.toNat ≤ m) := by
    simpa using h'.out
  have count := h'.count
  have := h'.code_le
  refine ⟨h'.bias, h'.first, ?_, h'.placed, h'.basic_le, by show r'.code ≤ m + 1; omega, ?_⟩
  · rw [whole, List.filter_nil, List.nil_append, List.filter_congr]
    intro c _
    simp only [decide_eq_decide]
    omega
  · show _ + 1 + r'.next = _
    rw [List.nil_append, ← whole] at count
    rw [show m + 1 - r'.code = (m - r'.code) + 1 by omega, Nat.add_mul, Nat.one_mul]
    simp only [List.filter_nil, List.length_nil]
    omega

/-- The rounds over codes in increasing order, from `n` on, covering every code of the
text from `n` on: the reader ends with the whole text. -/
theorem Tracks.foldl_insertCode {cs : List Char} :
    ∀ {ms : List Nat} {n : Nat} {s : Insertion} {r : Reader}, Tracks basic n [] cs s r →
      (∀ x ∈ ms, n ≤ x) → ms.Pairwise (· < ·) → (∀ c ∈ cs, n ≤ c.toNat → c.toNat ∈ ms) →
      ∃ r' new, (ms.foldl (Insertion.insertCode cs basic) (s, n)).1.digits.toList =
          s.digits.toList ++ new ∧ r.ReadsTo new r' ∧ r'.out = cs
  | [], n, s, r, h, _, _, covered => by
    refine ⟨r, [], by simp, .refl r, ?_⟩
    rw [h.out, List.filter_nil, List.nil_append, List.filter_eq_self]
    intro c mem
    have := covered c mem
    simp only [List.not_mem_nil, imp_false, Nat.not_le] at this
    simpa using this
  | m :: ms, n, s, r, h, above, sorted, covered => by
    obtain ⟨least, sorted⟩ := List.pairwise_cons.1 sorted
    have le : n ≤ m := above m (by simp)
    obtain ⟨r₁, new₁, digits₁, reads₁, h₁⟩ := h.insertCode le fun c mem big => by
      rcases List.mem_cons.1 (covered c mem big) with same | later
      · exact Nat.le_of_eq same.symm
      · exact Nat.le_of_lt (least _ later)
    obtain ⟨r₂, new₂, digits₂, reads₂, whole⟩ := h₁.foldl_insertCode least sorted fun c mem big =>
      (List.mem_cons.1 (covered c mem (by omega))).resolve_left (by omega)
    refine ⟨r₂, new₁ ++ new₂, ?_, reads₁.trans reads₂, whole⟩
    -- the round leaves the writer at the code `m + 1`
    have next : Insertion.insertCode cs basic (s, n) m =
        ((Insertion.insertCode cs basic (s, n) m).1, m + 1) := rfl
    rw [List.foldl_cons, next, digits₂, digits₁, List.append_assoc]

end Writing

/-- Reading Punycode gives back the text that was written. -/
theorem decode_encode (cs : List Char) : decode (encode cs) = .ok cs := by
  rw [decode_encode_eq_insertAll]
  have start : Tracks (cs.filter (·.toNat < 0x80)).length 0x80 [] cs
      ⟨0, (cs.filter (·.toNat < 0x80)).length, 72, #[]⟩
      ⟨72, 0x80, 0, true, cs.filter (·.toNat < 0x80)⟩ :=
    ⟨rfl, by simp, by simp, rfl, Nat.le_refl _, Nat.le_refl _, by simp⟩
  obtain ⟨r, new, digits, reads, whole⟩ := start.foldl_insertCode
    (fun x mem => (mem_extendedCodes.1 mem).1) (pairwise_extendedCodes cs)
    fun c mem big => mem_extendedCodes.2 ⟨big, c, mem, rfl⟩
  have written : numbers cs = new := by
    simpa [numbers] using digits
  have read := reads []
  rw [List.append_nil, Reader.read_nil, whole] at read
  rw [written]
  exact read

end Stencil.Files.Punycode
