import Stencil.Proofs.DoubleValue
import Stencil.Render.Eval

/-!
# Template equality

`Value.equal` is the equality of `==` and `!=`. This module shows how far it behaves as
an equivalence on template values:

* it is symmetric, and every value without a NaN equals itself, when each hash has each
  key once, as every hash built from a host mapping does (`equal_comm`, `equal_self`);
* it is transitive between two values whose integers a double holds exactly, at most
  `2^53` in magnitude (`equal_trans`); above that an integer and the next one can both
  equal the double they round to, and transitivity fails (`equal_not_transitive`);
* a hash equals the same things whatever the order of its entries (`equal_hash_perm`);
* `!=` gives the negation of `==`, and both fail only where an operand fails
  (`Renderer.eval_ne_not_eq`).

Doubles compare by IEEE equality. On the unpacked doubles it identifies two zeros of
any signs, two infinities of one sign, and two finite values with the same fields
(`SameDouble`), an equivalence on everything but a NaN that keeps exact values.
-/

namespace Stencil

namespace Number
open Float.Model Float.Model.UnpackedFloat

/-! ## IEEE equality of doubles -/

/-- The unpacked doubles IEEE equality identifies: two zeros of any signs, two infinities
of one sign, two finite values of the same sign, mantissa and exponent. -/
inductive SameDouble : UnpackedFloat → UnpackedFloat → Prop
  | zero (s t : Sign) : SameDouble (.zero s) (.zero t)
  | infinity (s : Sign) : SameDouble (.infinity s) (.infinity s)
  | finite (s : Sign) (m : Nat) (e : Int) (h : 0 < m) :
      SameDouble (.finite s m e h) (.finite s m e h)

theorem compare_sign_eq_iff (s t : Sign) : compare s t = .eq ↔ s = t := by
  cases s <;> cases t <;> simp [compare]

theorem compare_eq_iff (u w : UnpackedFloat) : u.compare w = some .eq ↔ SameDouble u w := by
  constructor
  · intro h
    rcases u with s | _ | s | ⟨s, m, e, hm⟩ <;> rcases w with t | _ | t | ⟨t, n, f, hn⟩ <;>
      (try cases s) <;> (try cases t) <;>
      simp [UnpackedFloat.compare, Ordering.then_eq_eq, Ordering.swap_eq_eq, compare_sign_eq_iff] at h
    -- left: two zeros, two infinities of one sign, two finite values with equal fields
    all_goals first
      | exact .zero _ _
      | exact .infinity _
      | (obtain ⟨rfl, rfl⟩ := h; exact .finite _ _ _ _)
  · rintro (⟨s, t⟩ | ⟨s⟩ | ⟨s, m, e, hm⟩) <;> (try cases s) <;> (try cases t) <;>
      simp [UnpackedFloat.compare, compare_sign_eq_iff]

namespace SameDouble

variable {u w z : UnpackedFloat}

theorem symm (h : SameDouble u w) : SameDouble w u := by
  cases h with
  | zero s t => exact .zero t s
  | infinity s => exact .infinity s
  | finite s m e hm => exact .finite s m e hm

theorem trans (h₁ : SameDouble u w) (h₂ : SameDouble w z) : SameDouble u z := by
  cases h₁ with
  | zero s t => cases h₂ with | zero _ r => exact .zero s r
  | infinity s => cases h₂; exact .infinity s
  | finite s m e hm => cases h₂; exact .finite s m e hm

theorem refl (h : u.isNaN = false) : SameDouble u u := by
  cases u with
  | zero s => exact .zero s s
  | infinity s => exact .infinity s
  | notANumber => cases h
  | finite s m e hm => exact .finite s m e hm

/-- Doubles IEEE equality identifies have one value. -/
theorem value_eq (h : SameDouble u w) : unpackedValue u = unpackedValue w := by
  cases h <;> rfl

end SameDouble

section
variable {x y z : Float}

/-- IEEE equality of doubles is `SameDouble` on their unpacked forms. -/
theorem float_beq_iff : (x == y) = true ↔ SameDouble x.toModel.unpack y.toModel.unpack := by
  show (x.toModel.unpack.compare y.toModel.unpack == some .eq) = true ↔ _
  rw [beq_iff_eq, compare_eq_iff]

theorem float_beq_comm : (x == y) = (y == x) :=
  Bool.eq_iff_iff.mpr ⟨fun h => float_beq_iff.mpr (float_beq_iff.mp h).symm,
    fun h => float_beq_iff.mpr (float_beq_iff.mp h).symm⟩

theorem float_beq_trans (h₁ : (x == y) = true) (h₂ : (y == z) = true) : (x == z) = true :=
  float_beq_iff.mpr ((float_beq_iff.mp h₁).trans (float_beq_iff.mp h₂))

theorem float_beq_self (h : x.isNaN = false) : (x == x) = true :=
  float_beq_iff.mpr (SameDouble.refl h)

/-- Doubles that compare equal have one exact value. -/
theorem exactValue?_eq_of_beq (h : (x == y) = true) : exactValue? x = exactValue? y :=
  (float_beq_iff.mp h).value_eq

end

/-- Two integers a double holds exactly are equal when their doubles compare equal. -/
theorem eq_of_ofInt_beq {a c : Int} (ha : a.natAbs ≤ 2 ^ 53) (hc : c.natAbs ≤ 2 ^ 53)
    (h : (Float.ofInt a == Float.ofInt c) = true) : a = c := by
  have same := exactValue?_eq_of_beq h
  rw [exactValue?_ofInt (representable_of_le ha), exactValue?_ofInt (representable_of_le hc)] at same
  exact_mod_cast Option.some.inj same

end Number

namespace Value
open Number

/-! ## Tests at every depth -/

mutual

/-- Whether a test holds of a value and of every value inside it, at any depth of lists,
tuples and hashes. -/
def every (p : Value → Bool) : Value → Bool
  | .list items => p (.list items) && everyItem p items
  | .tuple items => p (.tuple items) && everyItem p items
  | .hash entries => p (.hash entries) && everyEntry p entries
  | .int n => p (.int n)
  | .float x => p (.float x)
  | .str s => p (.str s)
  | .bool b => p (.bool b)
  | .nil => p .nil

/-- Whether `every p` holds of each value of a sequence. -/
def everyItem (p : Value → Bool) : List Value → Bool
  | [] => true
  | v :: rest => v.every p && everyItem p rest

/-- Whether `every p` holds of each value of a hash's entries. -/
def everyEntry (p : Value → Bool) : List (String × Value) → Bool
  | [] => true
  | (_, v) :: rest => v.every p && everyEntry p rest

end

/-- A value other than a NaN. -/
def notNaN : Value → Bool
  | .float x => !x.isNaN
  | _ => true

/-- A hash with each key once, as a host mapping has; every other value passes. -/
def keysOnce : Value → Bool
  | .hash entries => decide (entries.map Prod.fst).Nodup
  | _ => true

/-- An integer at most `2^53` in magnitude, one a double holds exactly; every other value
passes. -/
def exactInt : Value → Bool
  | .int n => decide (n.natAbs ≤ 2 ^ 53)
  | _ => true

section
variable (p : Value → Bool)

theorem everyItem_iff (vs : List Value) : everyItem p vs = true ↔ ∀ v ∈ vs, v.every p = true := by
  induction vs with
  | nil => simp [everyItem]
  | cons v rest ih => simp [everyItem, ih]

theorem everyEntry_iff (es : List (String × Value)) :
    everyEntry p es = true ↔ ∀ e ∈ es, e.2.every p = true := by
  induction es with
  | nil => simp [everyEntry]
  | cons e rest ih =>
    obtain ⟨k, v⟩ := e
    simp [everyEntry, ih]

theorem everyItem_of_list {items : List Value} (h : (Value.list items).every p = true) :
    everyItem p items = true := by
  simp only [every, Bool.and_eq_true] at h
  exact h.2

theorem everyItem_of_tuple {items : List Value} (h : (Value.tuple items).every p = true) :
    everyItem p items = true := by
  simp only [every, Bool.and_eq_true] at h
  exact h.2

theorem every_entries {entries : List (String × Value)} (h : (Value.hash entries).every p = true) :
    p (.hash entries) = true ∧ ∀ e ∈ entries, e.2.every p = true := by
  rw [← everyEntry_iff]
  simpa only [every, Bool.and_eq_true] using h

end

/-! ## Lookup in a hash -/

section
variable {k : String} {v : Value} {es fs : List (String × Value)}

theorem mem_of_lookupEntry (h : lookupEntry k es = some v) : (k, v) ∈ es := by
  induction es with
  | nil => cases h
  | cons e rest ih =>
    obtain ⟨k', v'⟩ := e
    unfold lookupEntry at h
    split at h
    case isTrue same =>
      cases h
      rw [same]
      exact List.mem_cons_self
    case isFalse => exact List.mem_cons_of_mem _ (ih h)

theorem lookupEntry_of_mem (keys : (es.map Prod.fst).Nodup) (h : (k, v) ∈ es) :
    lookupEntry k es = some v := by
  induction es with
  | nil => cases h
  | cons e rest ih =>
    obtain ⟨k', v'⟩ := e
    rw [List.map_cons, List.nodup_cons] at keys
    unfold lookupEntry
    rcases List.mem_cons.mp h with same | later
    · cases same
      simp
    · have other : k' ≠ k := fun same =>
        keys.1 (same ▸ List.mem_map.mpr ⟨(k, v), later, rfl⟩)
      rw [if_neg other]
      exact ih keys.2 later

theorem lookupEntry_eq_none (h : k ∉ es.map Prod.fst) : lookupEntry k es = none := by
  induction es with
  | nil => rfl
  | cons e rest ih =>
    obtain ⟨k', v'⟩ := e
    simp only [List.map_cons, List.mem_cons, not_or] at h
    unfold lookupEntry
    rw [if_neg (Ne.symm h.1)]
    exact ih h.2

/-- Entries with each key once, in any order, answer every lookup alike. -/
theorem lookupEntry_perm (perm : es.Perm fs) (keys : (es.map Prod.fst).Nodup) (k : String) :
    lookupEntry k es = lookupEntry k fs := by
  have keys' : (fs.map Prod.fst).Nodup := ((perm.map Prod.fst).nodup_iff).mp keys
  cases h : lookupEntry k es with
  | some w => exact (lookupEntry_of_mem keys' (perm.mem_iff.mp (mem_of_lookupEntry h))).symm
  | none =>
    symm
    apply lookupEntry_eq_none
    intro mem
    obtain ⟨⟨k', w⟩, hw, rfl⟩ := List.mem_map.mp ((perm.map Prod.fst).mem_iff.mpr mem)
    rw [lookupEntry_of_mem keys hw] at h
    cases h

end

/-! ## Hashes under `equalUnder` -/

theorem equalUnder_iff (es fs : List (String × Value)) :
    equalUnder es fs = true ↔ ∀ e ∈ es, ∃ w, lookupEntry e.1 fs = some w ∧ e.2.equal w = true := by
  induction es with
  | nil => simp [equalUnder]
  | cons e rest ih =>
    obtain ⟨k, v⟩ := e
    cases h : lookupEntry k fs <;> simp [equalUnder, h, ih]

/-- Hashes with each key once and as many entries: if every value of the first equals
the value under its key in the second, then every value of the second equals the value
under its key in the first, as far as equality of their values is symmetric. -/
theorem equalUnder_swap {es fs : List (String × Value)} (hes : (es.map Prod.fst).Nodup)
    (hfs : (fs.map Prod.fst).Nodup) (len : es.length = fs.length)
    (symm : ∀ e ∈ es, ∀ f ∈ fs, e.2.equal f.2 = true → f.2.equal e.2 = true)
    (h : equalUnder es fs = true) : equalUnder fs es = true := by
  rw [equalUnder_iff] at h ⊢
  -- the keys of `es` are among those of `fs`; with as many, each once, they are the same keys
  have sub : es.map Prod.fst ⊆ fs.map Prod.fst := by
    intro k hk
    obtain ⟨e, he, rfl⟩ := List.mem_map.mp hk
    obtain ⟨w, hw, -⟩ := h e he
    exact List.mem_map.mpr ⟨_, mem_of_lookupEntry hw, rfl⟩
  have perm : (es.map Prod.fst).Perm (fs.map Prod.fst) :=
    (List.subperm_of_subset hes sub).perm_of_length_le (by simp [len])
  intro f hf
  obtain ⟨e, he, key⟩ := List.mem_map.mp (perm.mem_iff.mpr (List.mem_map.mpr ⟨f, hf, rfl⟩))
  obtain ⟨w, hw, equal⟩ := h e he
  have counterpart : w = f.2 := by
    rw [key, lookupEntry_of_mem hfs hf] at hw
    exact (Option.some.inj hw).symm
  refine ⟨e.2, ?_, symm e he f hf (counterpart ▸ equal)⟩
  rw [← key]
  exact lookupEntry_of_mem hes he

theorem equalUnder_comm {es fs : List (String × Value)} (hes : (es.map Prod.fst).Nodup)
    (hfs : (fs.map Prod.fst).Nodup) (len : es.length = fs.length)
    (symm : ∀ e ∈ es, ∀ f ∈ fs, e.2.equal f.2 = f.2.equal e.2) :
    equalUnder es fs = equalUnder fs es :=
  Bool.eq_iff_iff.mpr
    ⟨equalUnder_swap hes hfs len fun e he f hf h => (symm e he f hf) ▸ h,
      equalUnder_swap hfs hes len.symm fun f hf e he h => (symm e he f hf).symm ▸ h⟩

/-! ## Symmetry -/

mutual

/-- Equality is symmetric on values whose hashes have each key once. -/
theorem equal_comm : ∀ a b : Value, a.every keysOnce = true → b.every keysOnce = true →
    a.equal b = b.equal a
  | .int n, b, _, _ => by
    cases b <;> simp [equal, Bool.beq_comm, float_beq_comm]
  | .float x, b, _, _ => by
    cases b <;> simp [equal, float_beq_comm]
  | .str s, b, _, _ => by
    cases b <;> simp [equal, Bool.beq_comm]
  | .bool c, b, _, _ => by
    cases b <;> simp [equal, Bool.beq_comm]
  | .nil, b, _, _ => by
    cases b <;> rfl
  | .list as, b, ha, hb => by
    cases b with
    | list bs =>
      simp only [equal]
      exact equalItems_comm as bs (everyItem_of_list _ ha) (everyItem_of_list _ hb)
    | _ => rfl
  | .tuple as, b, ha, hb => by
    cases b with
    | tuple bs =>
      simp only [equal]
      exact equalItems_comm as bs (everyItem_of_tuple _ ha) (everyItem_of_tuple _ hb)
    | _ => rfl
  | .hash es, b, ha, hb => by
    cases b with
    | hash fs =>
      obtain ⟨hes, ves⟩ := every_entries keysOnce ha
      obtain ⟨hfs, vfs⟩ := every_entries keysOnce hb
      simp only [keysOnce, decide_eq_true_eq] at hes hfs
      have symm : ∀ e ∈ es, ∀ f ∈ fs, e.2.equal f.2 = f.2.equal e.2 :=
        fun e he f hf => entries_comm es (by rw [everyEntry_iff]; exact ves) e he f.2 (vfs f hf)
      simp only [equal]
      by_cases len : es.length = fs.length
      · simp [len, equalUnder_comm hes hfs len symm]
      · rw [beq_false_of_ne len, beq_false_of_ne (Ne.symm len)]
        rfl
    | _ => rfl

/-- Equality of sequences is symmetric when equality of their elements is. -/
theorem equalItems_comm : ∀ as bs : List Value, everyItem keysOnce as = true →
    everyItem keysOnce bs = true → equalItems as bs = equalItems bs as
  | [], [], _, _ => rfl
  | [], _ :: _, _, _ => rfl
  | _ :: _, [], _, _ => rfl
  | a :: as, b :: bs, ha, hb => by
    simp only [everyItem, Bool.and_eq_true] at ha hb
    simp only [equalItems, equal_comm a b ha.1 hb.1, equalItems_comm as bs ha.2 hb.2]

/-- Each value of a hash's entries compares symmetrically with every value. -/
theorem entries_comm : ∀ es : List (String × Value), everyEntry keysOnce es = true →
    ∀ e ∈ es, ∀ w : Value, w.every keysOnce = true → e.2.equal w = w.equal e.2
  | [], _ => by simp
  | (k, v) :: rest, h => by
    simp only [everyEntry, Bool.and_eq_true] at h
    intro e he w hw
    rcases List.mem_cons.mp he with rfl | later
    · exact equal_comm v w h.1 hw
    · exact entries_comm rest h.2 e later w hw

end

/-! ## Reflexivity -/

mutual

/-- A value without a NaN, whose hashes have each key once, equals itself. -/
theorem equal_self : ∀ a : Value, a.every notNaN = true → a.every keysOnce = true →
    a.equal a = true
  | .int n, _, _ => by simp [equal]
  | .float x, h, _ => by
    simp only [every, notNaN, Bool.not_eq_true'] at h
    exact float_beq_self h
  | .str s, _, _ => by simp [equal]
  | .bool c, _, _ => by simp [equal]
  | .nil, _, _ => rfl
  | .list as, h, k => equalItems_self as (everyItem_of_list _ h) (everyItem_of_list _ k)
  | .tuple as, h, k => equalItems_self as (everyItem_of_tuple _ h) (everyItem_of_tuple _ k)
  | .hash es, h, k => by
    obtain ⟨-, nans⟩ := every_entries notNaN h
    obtain ⟨keys, ves⟩ := every_entries keysOnce k
    simp only [keysOnce, decide_eq_true_eq] at keys
    have self := entries_self es (by rw [everyEntry_iff]; exact nans) (by rw [everyEntry_iff]; exact ves)
    simp only [equal, beq_self_eq_true, Bool.true_and, equalUnder_iff]
    exact fun e he => ⟨e.2, lookupEntry_of_mem keys he, self e he⟩

theorem equalItems_self : ∀ as : List Value, everyItem notNaN as = true →
    everyItem keysOnce as = true → equalItems as as = true
  | [], _, _ => rfl
  | a :: as, h, k => by
    simp only [everyItem, Bool.and_eq_true] at h k
    simp only [equalItems, equal_self a h.1 k.1, equalItems_self as h.2 k.2, Bool.and_self]

theorem entries_self : ∀ es : List (String × Value), everyEntry notNaN es = true →
    everyEntry keysOnce es = true → ∀ e ∈ es, e.2.equal e.2 = true
  | [], _, _ => by simp
  | (k, v) :: rest, h, keys => by
    simp only [everyEntry, Bool.and_eq_true] at h keys
    intro e he
    rcases List.mem_cons.mp he with rfl | later
    · exact equal_self v h.1 keys.1
    · exact entries_self rest h.2 keys.2 e later

end

/-! ## Transitivity -/

/-- Among numbers, equality is transitive from an integer through a double to an
integer only when the two integers are ones a double holds: there the double determines
the integer. -/
theorem equal_numbers_trans {a b c : Value} (ha : a.every exactInt = true)
    (hc : c.every exactInt = true) (h₁ : a.equal b = true) (h₂ : b.equal c = true)
    (na : a.kind = .integer ∨ a.kind = .float) : a.equal c = true := by
  rcases a with n | x | _ | _ | _ | _ | _ | _ <;> simp only [kind, reduceCtorEq, or_self,
    or_false, false_or] at na
  all_goals
    rcases b with m | y | _ | _ | _ | _ | _ | _ <;> simp only [equal, reduceCtorEq] at h₁
    all_goals
      rcases c with l | z | _ | _ | _ | _ | _ | _ <;> simp only [equal, reduceCtorEq] at h₂ ⊢
  · -- integer, integer, integer
    simp only [beq_iff_eq] at h₁ h₂ ⊢
    omega
  · -- integer, integer, double
    simp only [beq_iff_eq] at h₁
    exact h₁ ▸ h₂
  · -- integer, double, integer: the one case that needs exact integers
    simp only [every, exactInt, decide_eq_true_eq] at ha hc
    simp only [beq_iff_eq]
    exact eq_of_ofInt_beq ha hc (float_beq_trans h₁ h₂)
  · exact float_beq_trans h₁ h₂
  · simp only [beq_iff_eq] at h₂
    exact h₂ ▸ h₁
  · exact float_beq_trans h₁ h₂
  · exact float_beq_trans h₁ h₂
  · exact float_beq_trans h₁ h₂

mutual

/-- Equality is transitive from `a` through any `b` to `c` when the integers of `a` and
`c` are ones a double holds. -/
theorem equal_trans : ∀ a b c : Value, a.every exactInt = true → c.every exactInt = true →
    a.equal b = true → b.equal c = true → a.equal c = true
  | .int _, _, _, ha, hc, h₁, h₂ => equal_numbers_trans ha hc h₁ h₂ (.inl rfl)
  | .float _, _, _, ha, hc, h₁, h₂ => equal_numbers_trans ha hc h₁ h₂ (.inr rfl)
  | .str s, b, c, _, _, h₁, h₂ => by
    cases b <;> simp only [equal, reduceCtorEq, beq_iff_eq] at h₁
    cases c <;> simp only [equal, reduceCtorEq, beq_iff_eq] at h₂ ⊢
    exact h₁.trans h₂
  | .bool v, b, c, _, _, h₁, h₂ => by
    cases b <;> simp only [equal, reduceCtorEq, beq_iff_eq] at h₁
    cases c <;> simp only [equal, reduceCtorEq, beq_iff_eq] at h₂ ⊢
    exact h₁.trans h₂
  | .nil, b, c, _, _, h₁, h₂ => by
    cases b <;> simp only [equal, reduceCtorEq] at h₁
    cases c <;> simp only [equal, reduceCtorEq] at h₂ ⊢
  | .list as, b, c, ha, hc, h₁, h₂ => by
    cases b with
    | list bs =>
      cases c with
      | list cs =>
        exact equalItems_trans as bs cs (everyItem_of_list _ ha) (everyItem_of_list _ hc) h₁ h₂
      | _ => simp [equal] at h₂
    | _ => simp [equal] at h₁
  | .tuple as, b, c, ha, hc, h₁, h₂ => by
    cases b with
    | tuple bs =>
      cases c with
      | tuple cs =>
        exact equalItems_trans as bs cs (everyItem_of_tuple _ ha) (everyItem_of_tuple _ hc) h₁ h₂
      | _ => simp [equal] at h₂
    | _ => simp [equal] at h₁
  | .hash es, b, c, ha, hc, h₁, h₂ => by
    cases b with
    | hash fs =>
      cases c with
      | hash gs =>
        obtain ⟨-, aes⟩ := every_entries exactInt ha
        obtain ⟨-, cgs⟩ := every_entries exactInt hc
        have step := entries_trans es (by rw [everyEntry_iff]; exact aes)
        simp only [equal, Bool.and_eq_true, beq_iff_eq, equalUnder_iff] at h₁ h₂ ⊢
        refine ⟨h₁.1.trans h₂.1, fun e he => ?_⟩
        -- the value under `e`'s key in `fs` is itself an entry of `fs`, so `h₂` applies to it
        obtain ⟨w, hw, ew⟩ := h₁.2 e he
        obtain ⟨u, hu, wu⟩ := h₂.2 (e.1, w) (mem_of_lookupEntry hw)
        exact ⟨u, hu, step e he w u (cgs _ (mem_of_lookupEntry hu)) ew wu⟩
      | _ => simp [equal] at h₂
    | _ => simp [equal] at h₁

theorem equalItems_trans : ∀ as bs cs : List Value, everyItem exactInt as = true →
    everyItem exactInt cs = true → equalItems as bs = true → equalItems bs cs = true →
    equalItems as cs = true
  | [], [], [], _, _, _, _ => rfl
  | a :: as, b :: bs, c :: cs, ha, hc, h₁, h₂ => by
    simp only [everyItem, equalItems, Bool.and_eq_true] at ha hc h₁ h₂ ⊢
    exact ⟨equal_trans a b c ha.1 hc.1 h₁.1 h₂.1, equalItems_trans as bs cs ha.2 hc.2 h₁.2 h₂.2⟩
  | [], _ :: _, _, _, _, h₁, _ | _ :: _, [], _, _, _, h₁, _ => by simp [equalItems] at h₁
  | [], [], _ :: _, _, _, _, h₂ | _ :: _, _ :: _, [], _, _, _, h₂ => by simp [equalItems] at h₂

theorem entries_trans : ∀ es : List (String × Value), everyEntry exactInt es = true →
    ∀ e ∈ es, ∀ w u : Value, u.every exactInt = true → e.2.equal w = true → w.equal u = true →
      e.2.equal u = true
  | [], _ => by simp
  | (k, v) :: rest, h => by
    simp only [everyEntry, Bool.and_eq_true] at h
    intro e he w u hu h₁ h₂
    rcases List.mem_cons.mp he with rfl | later
    · exact equal_trans v w u h.1 hu h₁ h₂
    · exact entries_trans rest h.2 e later w u hu h₁ h₂

end

/-! ## Order of a hash's entries -/

/-- A hash with each key once equals the same values, on either side, whatever the order
of its entries. -/
theorem equal_hash_perm {es fs : List (String × Value)} (perm : es.Perm fs)
    (keys : (es.map Prod.fst).Nodup) (v : Value) :
    (Value.hash es).equal v = (Value.hash fs).equal v ∧
      v.equal (.hash es) = v.equal (.hash fs) := by
  cases v with
  | hash gs =>
    have len := perm.length_eq
    have first : equalUnder es gs = equalUnder fs gs := by
      apply Bool.eq_iff_iff.mpr
      simp only [equalUnder_iff]
      exact ⟨fun h e he => h e (perm.mem_iff.mpr he), fun h e he => h e (perm.mem_iff.mp he)⟩
    have second : equalUnder gs es = equalUnder gs fs := by
      apply Bool.eq_iff_iff.mpr
      simp only [equalUnder_iff, lookupEntry_perm perm keys]
    simp only [equal, len, first, second, and_self]
  | _ => exact ⟨rfl, rfl⟩

end Value

/-! ## The two equality tests -/

namespace Renderer

/-- `!=` evaluates to the negation of `==`: both give a truth value when both operands
evaluate, whatever they are, and both fail with the same error otherwise. -/
theorem eval_ne_not_eq (r : Renderer) (host : HostBindings) (f : Frame) (span : Span)
    (left right : Expr) :
    (∃ c : Bool, r.eval host f (.compare span .eq left right) = .ok (.bool c) ∧
      r.eval host f (.compare span .ne left right) = .ok (.bool !c)) ∨
    (∃ e, r.eval host f (.compare span .eq left right) = .error e ∧
      r.eval host f (.compare span .ne left right) = .error e) := by
  rw [eval, eval]
  -- a failing operand fails both tests alike: placed, if it is the engine's
  cases r.eval host f left with
  | error e => cases e <;> exact .inr ⟨_, rfl, rfl⟩
  | ok a =>
    cases r.eval host f right with
    | error e => cases e <;> exact .inr ⟨_, rfl, rfl⟩
    | ok b => exact .inl ⟨a.equal b, rfl, rfl⟩

end Renderer

/-! ## Template equality as an equivalence -/

/-- Template equality as far as it is an equivalence. On values whose hashes have each
key once, as every value built from host data has, it is symmetric, and a value without
a NaN equals itself. Between values whose integers a double holds exactly it is
transitive, through a middle value of any kind. A hash's entries compare in any order.
`!=` is the negation of `==`, and neither fails where its operands evaluate. -/
theorem Value.equal_equivalence :
    (∀ a b : Value, a.every Value.keysOnce = true → b.every Value.keysOnce = true →
      a.equal b = b.equal a) ∧
    (∀ a : Value, a.every Value.notNaN = true → a.every Value.keysOnce = true →
      a.equal a = true) ∧
    (∀ a b c : Value, a.every Value.exactInt = true → c.every Value.exactInt = true →
      a.equal b = true → b.equal c = true → a.equal c = true) ∧
    (∀ es fs : List (String × Value), es.Perm fs → (es.map Prod.fst).Nodup → ∀ v : Value,
      (Value.hash es).equal v = (Value.hash fs).equal v ∧
        v.equal (.hash es) = v.equal (.hash fs)) ∧
    (∀ (r : Renderer) (host : HostBindings) (f : Frame) (span : Span) (left right : Expr),
      (∃ c : Bool, r.eval host f (.compare span .eq left right) = .ok (.bool c) ∧
        r.eval host f (.compare span .ne left right) = .ok (.bool !c)) ∨
      (∃ e, r.eval host f (.compare span .eq left right) = .error e ∧
        r.eval host f (.compare span .ne left right) = .error e)) :=
  ⟨Value.equal_comm, Value.equal_self, Value.equal_trans,
    fun _ _ perm keys v => Value.equal_hash_perm perm keys v, Renderer.eval_ne_not_eq⟩

/-- Nested values of every kind: a hash against one with its keys in the other order and
integers in place of doubles, a tuple with a double and a hash against itself, lists
through a double, and a hash with its entries swapped. -/
theorem Value.equal_equivalence_nested :
    (Value.hash [("n", .int 1), ("xs", .list [.float 2.0, .str "s"])]).equal
        (.hash [("xs", .list [.int 2, .str "s"]), ("n", .float 1.0)]) =
      (Value.hash [("xs", .list [.int 2, .str "s"]), ("n", .float 1.0)]).equal
        (.hash [("n", .int 1), ("xs", .list [.float 2.0, .str "s"])]) ∧
    (Value.tuple [.float 0.5, .hash [("k", .nil)]]).equal
      (.tuple [.float 0.5, .hash [("k", .nil)]]) = true ∧
    (Value.list [.int 3, .bool true]).equal (.list [.int 3, .bool true]) = true ∧
    ((Value.hash [("a", .int 1), ("b", .int 2)]).equal (.hash [("b", .float 2.0), ("a", .int 1)]) =
        (Value.hash [("b", .int 2), ("a", .int 1)]).equal (.hash [("b", .float 2.0), ("a", .int 1)]) ∧
      (Value.hash [("b", .float 2.0), ("a", .int 1)]).equal (.hash [("a", .int 1), ("b", .int 2)]) =
        (Value.hash [("b", .float 2.0), ("a", .int 1)]).equal (.hash [("b", .int 2), ("a", .int 1)])) :=
  ⟨Value.equal_equivalence.1 _ _ (by decide +kernel) (by decide +kernel),
    Value.equal_equivalence.2.1 _ (by decide +kernel) (by decide +kernel),
    Value.equal_equivalence.2.2.1 (.list [.int 3, .bool true]) (.list [.float 3.0, .bool true]) _
      (by decide +kernel) (by decide +kernel) (by decide +kernel) (by decide +kernel),
    Value.equal_equivalence.2.2.2.1 [("a", .int 1), ("b", .int 2)] [("b", .int 2), ("a", .int 1)]
      (List.Perm.swap _ _ []) (by decide) _⟩

/-- Transitivity fails above `2^53`: the integers `2^53` and `2^53 + 1`, both within 64
signed bits, each equal the double `2^53`, the one the second rounds to, but not each
other. -/
theorem Value.equal_not_transitive :
    Value.fitsInt (2 ^ 53 + 1) = true ∧
    (Value.int (2 ^ 53)).equal (.float 9007199254740992.0) = true ∧
    (Value.float 9007199254740992.0).equal (.int (2 ^ 53 + 1)) = true ∧
    (Value.int (2 ^ 53)).equal (.int (2 ^ 53 + 1)) = false := by
  decide +kernel

end Stencil
