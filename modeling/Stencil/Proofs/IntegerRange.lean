import Stencil.Proofs.HostRoundTrip
import Stencil.Proofs.Rounding
import Stencil.Proofs.PartialDepth
import Stencil.Proofs.MinusFold
import Stencil.Proofs.Equality
import Stencil.Proofs.ErrorSites

/-!
# Integers stay within 64 signed bits

Every integer a render computes with fits in 64 signed bits (`Value.fits`, at any
depth). The integers come from few places, and each keeps the bound:

* a host datum becomes a value only when its integers fit (`HostData.wrap_fits`);
* an integer a template computes, from a literal, a negation or a method, goes
  through `Value.ofInt?`, which checks it, or is bounded by its inputs, as the
  elements of `times` are (`Value.applyBuiltin_fits`);
* every other value is a part of a value that fits, or has no integer in it.

So evaluation keeps the bound (`Renderer.eval_fits`), and so does every frame a render
reaches, down loops and partials (`Renderer.Visits.fits`). The operations whose
mathematical result can leave the range fail there instead, each with its own error:
negation and `abs` exactly at `-2^63`, `to_i` exactly when the rounded value is out of
range, and wrapping exactly at a host integer out of range. An integer that fits
converts to a double that is finite (`exactValue?_ofInt_fits`).
-/

namespace Stencil

open Number

/-! ## Host data -/

namespace HostData

mutual

/-- A host datum that wraps gives a value whose integers fit. -/
theorem wrap_fits : ∀ (d : HostData) (v : Value), d.wrap = .ok v → v.fits = true
  | .none, _, h | .bool _, _, h | .float _, _, h | .str _, _, h => by cases h; rfl
  | .other _, _, h => nomatch h
  | .int n, v, h => by
    unfold wrap at h
    split at h
    case isTrue fits => cases h; exact fits
    case isFalse => split at h <;> cases h
  | .list items, v, h | .tuple items, v, h => by
    rw [wrap] at h
    cases hs : wrapAll items with
    | error e => rw [hs] at h; cases h
    | ok vs =>
      rw [hs] at h
      cases h
      exact wrapAll_fits items vs hs
  | .dict entries, v, h => by
    rw [wrap] at h
    cases hs : wrapEntries entries with
    | error e => rw [hs] at h; cases h
    | ok ws =>
      rw [hs] at h
      cases h
      exact wrapEntries_fits entries ws hs

theorem wrapAll_fits : ∀ (ds : List HostData) (vs : List Value), wrapAll ds = .ok vs →
    Value.fitsAll vs = true
  | [], _, h => by cases h; rfl
  | d :: rest, vs, h => by
    cases hd : d.wrap with
    | error e => rw [wrapAll, hd] at h; cases h
    | ok v =>
      rw [wrapAll_cons_ok hd] at h
      cases hr : wrapAll rest with
      | error e => rw [hr] at h; cases h
      | ok ws =>
        rw [hr] at h
        cases h
        simp only [Value.fitsAll, wrap_fits d v hd, wrapAll_fits rest ws hr, Bool.and_self]

theorem wrapEntries_fits : ∀ (es : List (HostKey × HostData)) (ws : List (String × Value)),
    wrapEntries es = .ok ws → Value.fitsEntries ws = true
  | [], _, h => by cases h; rfl
  | (.str key, d) :: rest, ws, h => by
    cases hd : d.wrap with
    | error e => rw [wrapEntries, hd] at h; cases h
    | ok v =>
      rw [wrapEntries_cons_ok hd] at h
      cases hr : wrapEntries rest with
      | error e => rw [hr] at h; cases h
      | ok us =>
        rw [hr] at h
        cases h
        simp only [Value.fitsEntries, wrap_fits d v hd, wrapEntries_fits rest us hr,
          Bool.and_self]
  | (.int _, _) :: _, _, h | (.bool _, _) :: _, _, h | (.float _, _) :: _, _, h
  | (.none, _) :: _, _, h => nomatch h

end

/-- An integer datum wraps exactly when it fits. Otherwise it is refused as a type
mismatch, unless it has more digits than the host writes out: then the host refuses to
write it into that error. -/
theorem wrap_int (n : Int) :
    (Value.fitsInt n = true → (HostData.int n).wrap = .ok (.int n)) ∧
    (Value.fitsInt n = false → Number.exceedsDigitLimit n = false →
      ∃ e, (HostData.int n).wrap = .error (.template e) ∧ e.errorClass = .typeMismatch) ∧
    (Number.exceedsDigitLimit n = true →
      (HostData.int n).wrap = .error (.host ⟨"ValueError", Number.writeLimitMessage⟩)) := by
  refine ⟨fun fits => ?_, fun unfit short => ?_, wrap_long_int⟩
  · simp [wrap, fits]
  · exact ⟨.ofFault (.hostIntegerRange n), by simp [wrap, unfit, short], rfl⟩

end HostData

/-! ## Values a method gives -/

namespace Value

theorem fitsInt_iff (n : Int) :
    fitsInt n = true ↔ -9223372036854775808 ≤ n ∧ n ≤ 9223372036854775807 := by
  simp only [fitsInt, decide_eq_true_eq, minInt_eq, maxInt_eq]

theorem ofInt?_fits {n : Int} {v : Value} (h : ofInt? n = .ok v) : v.fits = true := by
  obtain ⟨fits, rfl⟩ := ofInt?_eq_ok.mp h
  exact fits

/-- The integers `times` counts through, from `0` to a bound that fits, fit. -/
theorem countUpTo_fits {n : Int} (fits : fitsInt n = true) (nonneg : 0 ≤ n) :
    fitsAll (countUpTo n.toNat) = true := by
  rw [fitsAll_iff]
  intro v hv
  simp only [countUpTo, List.mem_map, List.mem_range] at hv
  obtain ⟨i, below, rfl⟩ := hv
  rw [fitsInt_iff] at fits
  show fitsInt i = true
  rw [fitsInt_iff]
  omega

/-- Every result of a `mapM` that succeeds is the result of the function on an element. -/
theorem exists_of_mapM_ok {α β : Type} {g : α → Except TemplateError β} :
    ∀ {xs : List α} {ys : List β}, xs.mapM g = .ok ys → ∀ y ∈ ys, ∃ x ∈ xs, g x = .ok y
  | [], ys, h => by
    cases h
    simp
  | x :: xs, ys, h => by
    simp only [List.mapM_cons, bind, Except.bind] at h
    split at h
    · cases h
    · rename_i z hz
      split at h
      · cases h
      · rename_i zs hzs
        cases h
        intro y hy
        rcases List.mem_cons.mp hy with rfl | later
        · exact ⟨x, List.mem_cons_self, hz⟩
        · obtain ⟨x', mem, hx'⟩ := exists_of_mapM_ok hzs y later
          exact ⟨x', List.mem_cons_of_mem _ mem, hx'⟩

/-- The pairs `enumerate` builds fit when the elements do: each index is checked. -/
theorem enumerated_fits {items : List Value} {pairs : List Value} (fits : fitsAll items = true)
    (h : enumerated items = .ok pairs) : fitsAll pairs = true := by
  rw [fitsAll_iff] at fits ⊢
  intro p hp
  obtain ⟨⟨v, i⟩, mem, hv⟩ := exists_of_mapM_ok h p hp
  dsimp only at hv
  cases hi : ofInt? i with
  | error e => rw [hi] at hv; cases hv
  | ok n =>
    rw [hi] at hv
    cases hv
    simp only [Value.fits, fitsAll, ofInt?_fits hi, fits v (List.fst_mem_of_mem_zipIdx mem),
      Bool.and_self]

theorem map_eq_ok {α : Type} {x : Except TemplateError α} {g : α → Value} {v : Value} :
    x.map g = .ok v ↔ ∃ a, x = .ok a ∧ g a = v := by
  cases x <;> simp [Except.map]

theorem fits_list {items : List Value} : (Value.list items).fits = true ↔ ∀ v ∈ items, v.fits = true :=
  fitsAll_iff items

theorem fits_tuple {items : List Value} : (Value.tuple items).fits = true ↔ ∀ v ∈ items, v.fits = true :=
  fitsAll_iff items

theorem fits_hash {entries : List (String × Value)} :
    (Value.hash entries).fits = true ↔ ∀ e ∈ entries, e.2.fits = true :=
  fitsEntries_iff entries

/-- A method gives a value that fits when its receiver fits: an integer it computes is
checked, the elements `times` counts are bounded by the receiver, and every other value
it gives is a part of the receiver or has no integer in it. -/
theorem applyBuiltin_fits {m : Builtin} {self : Value} {args : List Value} {v : Value}
    (hself : self.fits = true) (h : applyBuiltin m self args = .ok v) : v.fits = true := by
  unfold applyBuiltin at h
  repeat' split at h
  all_goals first
    -- an integer the method computes, checked by `ofInt?`
    | exact ofInt?_fits h
    -- the receiver itself, a value with no integer in it, or a failure
    | (cases h <;> first | rfl | exact hself)
    | (obtain ⟨_, -, rfl⟩ := map_eq_ok.mp h; rfl)
    -- the pairs of `enumerate` and the counts of `times`
    | (obtain ⟨_, pairs, rfl⟩ := map_eq_ok.mp h; exact enumerated_fits hself pairs)
    | (cases h; exact countUpTo_fits hself (by omega))
    -- a list of parts of the receiver: reversed, an end, the keys, values or pairs of a hash
    | (cases h; grind [fits_list, fits_tuple, fits_hash, List.mem_of_mem_head?,
        List.mem_of_getLast?, Value.fits])

section
variable {self v : Value}

theorem invoke_fits {name : String} {args : List Value} (hself : self.fits = true)
    (h : self.invoke name args = .ok v) : v.fits = true := by
  unfold invoke at h
  split at h
  · cases h
  · split at h
    · exact applyBuiltin_fits hself h
    · cases h

/-- A part of a value that fits fits: the element at a position of a tuple. -/
theorem position_fits {i : Nat} (hself : self.fits = true) (h : self.position i = .ok v) :
    v.fits = true := by
  unfold position at h
  split at h <;> grind [fits_tuple, List.mem_of_getElem?]

/-- The element a host reads at a position, counting from either end. -/
theorem positionFrom_fits {i : Int} (hself : self.fits = true) (h : self.positionFrom i = .ok v) :
    v.fits = true := by
  unfold positionFrom at h
  split at h <;> grind [fits_tuple, List.mem_of_getElem?, positionFrom.outOfRange]

/-- The element of a list or a tuple at an index, or the value of a hash under a key. -/
theorem index_fits {key : Value} (hself : self.fits = true) (h : self.index key = .ok v) :
    v.fits = true := by
  have under : ∀ {k : String} {entries : List (String × Value)}, (Value.hash entries).fits = true →
      lookupEntry k entries = some v → v.fits = true := fun hs found =>
    fits_hash.mp hs _ (mem_of_lookupEntry found)
  unfold index at h
  split at h <;> grind [fits_list, fits_tuple, List.mem_of_getElem?]

theorem negate_fits (h : self.negate = .ok v) : v.fits = true := by
  unfold negate at h
  split at h
  · exact ofInt?_fits h
  · cases h
    rfl
  · cases h

end

end Value

theorem Literal.toValue_fits {lit : Literal} {v : Value} (h : lit.toValue = .ok v) : v.fits = true := by
  cases lit with
  | int n => exact Value.ofInt?_fits h
  | _ => cases h; rfl

/-! ## Evaluation -/

/-- Host bindings whose every value fits, as those of host data do. -/
def HostBindings.Fits (host : HostBindings) : Prop :=
  ∀ name v, host.get name = some (.ok v) → v.fits = true

/-- A frame whose loop variables are bound to values that fit. -/
def Frame.Fits (f : Frame) : Prop := ∀ p ∈ f.scope, p.2.fits = true

namespace HostBindings

theorem fits_empty : HostBindings.empty.Fits := by
  intro name v h
  cases h

/-- Bindings given as host data fit: a datum becomes a value only if it fits. -/
theorem fits_mapping (entries : List (String × HostData)) : (HostBindings.mapping entries).Fits := by
  intro name v h
  simp only [get, Option.map_eq_some_iff] at h
  obtain ⟨d, -, wrapped⟩ := h
  exact HostData.wrap_fits d v wrapped

/-- Keyword bindings, given as host data, keep bindings fitting. -/
theorem Fits.withKeywords {host : HostBindings} (hh : host.Fits) (kws : List (String × HostData)) :
    (host.withKeywords kws).Fits := by
  intro name v h
  unfold HostBindings.withKeywords at h
  split at h
  · exact hh name v h
  · split at h
    · exact fits_mapping _ name v h
    · exact fits_mapping _ name v h
    · simp only [get] at h
      split at h
      · exact HostData.wrap_fits _ v (Option.some.inj h)
      · exact hh name v h

end HostBindings

namespace Frame

theorem top_fits (source : String) : (Frame.top source).Fits := by
  intro p hp
  cases hp

theorem Fits.enter {f : Frame} (hf : f.Fits) (t : Template) : (Renderer.Frame.enter f t).Fits := hf

theorem Fits.bind {f : Frame} (hf : f.Fits) {bs : List (String × Value)} (hb : ∀ p ∈ bs, p.2.fits = true) :
    (f.bind bs).Fits := by
  intro p hp
  simp only [Frame.bind, List.mem_append, List.mem_reverse] at hp
  rcases hp with new | old
  · exact hb p new
  · exact hf p old

theorem Fits.lookup {f : Frame} {host : HostBindings} (hf : f.Fits) (hh : host.Fits) {name : String}
    {v : Value} (h : f.lookup host name = some (.ok v)) : v.fits = true := by
  unfold Frame.lookup at h
  split at h
  · rename_i p found
    cases h
    exact hf _ (List.mem_of_find?_eq_some found)
  · exact hh name v h

end Frame

namespace Renderer

theorem locate_eq_ok {α : Type} {f : Frame} {span : Span} {x : Except Failure α} {a : α} :
    locate f span x = .ok a ↔ x = .ok a := by
  cases x with
  | ok => simp [locate]
  | error e => cases e <;> simp [locate]

theorem mapError_eq_ok {ε ε' α : Type} {x : Except ε α} {g : ε → ε'} {a : α} :
    x.mapError g = .ok a ↔ x = .ok a := by
  cases x <;> simp [Except.mapError]

/-- A loop variable is bound to the element, or to a part of it. -/
theorem loopBindings_fits {f : Frame} {span : Span} {targets : List String} {item : Value}
    {bs : List (String × Value)} (hitem : item.fits = true) (h : loopBindings f span targets item = .ok bs) :
    ∀ p ∈ bs, p.2.fits = true := by
  unfold loopBindings at h
  split at h
  · cases h
    simpa using hitem
  · split at h
    · cases h
      intro p hp
      exact Value.fits_tuple.mp hitem _ (List.of_mem_zip hp).2
    · cases h
  · cases h

section
variable (r : Renderer) {host : HostBindings}

/-- Evaluation from a frame that fits, with host bindings that fit, gives values that fit:
a literal, negation and the methods check the range, a name gives a value the frame or
the host holds, and a global function gives text. -/
theorem fits_steps (hh : host.Fits) : Motive.Steps r
    { eval := fun f e => f.Fits → ∀ v, r.eval host f e = .ok v → v.fits = true
      evalAll := fun f es => f.Fits → ∀ vs, r.evalAll host f es = .ok vs → ∀ v ∈ vs,
        v.fits = true } where
  literal _ _ _ _ _ h := by
    rw [eval, locate_eq_ok, mapError_eq_ok] at h
    exact Literal.toValue_fits h
  identifier _ _ _ hf _ h := by
    rw [eval, locate_eq_ok] at h
    split at h
    · cases h
      exact hf.lookup hh (by assumption)
    · cases h
  list _ _ _ elements hf _ h := by
    rw [eval, locate_eq_ok] at h
    split at h
    · cases h
      exact Value.fits_list.mpr (elements hf _ (by assumption))
    · cases h
  negate _ _ _ _ _ _ h := by
    rw [eval, locate_eq_ok] at h
    split at h
    · exact Value.negate_fits (mapError_eq_ok.mp h)
    · cases h
  compare _ _ op _ _ _ _ _ _ h := by
    rw [eval, locate_eq_ok] at h
    split at h
    · cases h
    · split at h
      · cases h
      · cases h
        cases op <;> rfl
  method _ _ _ _ _ object _ hf _ h := by
    rw [eval, locate_eq_ok] at h
    split at h
    · cases h
    · split at h
      · cases h
      · exact Value.invoke_fits (object hf _ (by assumption)) (mapError_eq_ok.mp h)
  position _ _ _ _ object hf _ h := by
    rw [eval, locate_eq_ok] at h
    split at h
    · cases h
    · exact Value.position_fits (object hf _ (by assumption)) (mapError_eq_ok.mp h)
  index _ _ _ _ object _ hf _ h := by
    rw [eval, locate_eq_ok] at h
    split at h
    · cases h
    · split at h
      · cases h
      · exact Value.index_fits (object hf _ (by assumption)) (mapError_eq_ok.mp h)
  call _ _ _ _ _ _ _ _ h := by
    -- a global function gives text: a rendered partial, the head, a turbo stream
    rw [eval, locate_eq_ok] at h
    repeat' split at h
    all_goals first
      | (cases h; rfl)
      | cases h
      | (obtain ⟨_, -, rfl⟩ := Value.map_eq_ok.mp (mapError_eq_ok.mp h); rfl)
  evalNil _ _ _ h := by
    rw [evalAll] at h
    cases h
    simp
  evalCons _ _ _ first rest hf _ h := by
    rw [evalAll] at h
    split at h
    · cases h
    · split at h
      · cases h
      · cases h
        intro v hv
        rcases List.mem_cons.mp hv with rfl | later
        · exact first hf _ (by assumption)
        · exact rest hf _ (by assumption) v later

/-- Evaluation from a frame that fits, with host bindings that fit, gives a value that
fits. -/
theorem eval_fits {f : Frame} (hh : host.Fits) (hf : f.Fits) (e : Expr) (v : Value)
    (h : r.eval host f e = .ok v) : v.fits = true :=
  (fits_steps r hh).eval f e hf v h

end

/-- The frames a render from `f` can reach: `f` itself; an iteration down a loop, bound
to an element of the list the loop's iterable evaluates to at a reached frame; a partial
entered from a reached frame. Loop bodies are rendered from exactly such frames
(`renderLoop_eq_mapM`), and partials from `Frame.enter`. -/
inductive Visits (r : Renderer) (host : HostBindings) (f : Frame) : Frame → Prop
  | start : Visits r host f f
  | iteration {g : Frame} {iterable : Expr} {items : List Value} {item : Value} {span : Span}
      {targets : List String} {bs : List (String × Value)} :
      Visits r host f g → r.eval host g iterable = .ok (.list items) → item ∈ items →
      loopBindings g span targets item = .ok bs → Visits r host f (g.bind bs)
  | enter {g : Frame} (t : Template) : Visits r host f g → Visits r host f (Frame.enter g t)

/-- Every frame a render reaches from a frame that fits fits too: each iteration binds
parts of a value that evaluation gave. -/
theorem Visits.fits {r : Renderer} {host : HostBindings} {f g : Frame} (hh : host.Fits)
    (hf : f.Fits) (hv : r.Visits host f g) : g.Fits := by
  induction hv with
  | start => exact hf
  | iteration _ evaluated mem bound ih =>
    have items := Value.fits_list.mp (eval_fits r hh ih _ _ evaluated)
    exact ih.bind (loopBindings_fits (items _ mem) bound)
  | enter t _ ih => exact ih.enter t

end Renderer

/-! ## Where the range is left -/

namespace Value

theorem ofInt?_of_fits {n : Int} (h : fitsInt n = true) : ofInt? n = .ok (.int n) := by
  simp [ofInt?, h]

theorem ofInt?_of_unfit {n : Int} (h : fitsInt n = false) :
    ∃ e, ofInt? n = .error e ∧ e.errorClass = .invalidArgument :=
  ⟨.ofFault (.overflow n), by simp [ofInt?, h], rfl⟩

/-- Of the integers that fit, exactly `-2^63` has a negation and an absolute value that
do not. -/
theorem fitsInt_neg_iff {n : Int} (h : fitsInt n = true) : fitsInt (-n) = true ↔ n ≠ minInt := by
  rw [fitsInt_iff] at h ⊢
  rw [minInt_eq]
  omega

theorem fitsInt_natAbs_iff {n : Int} (h : fitsInt n = true) :
    fitsInt (n.natAbs : Int) = true ↔ n ≠ minInt := by
  rw [fitsInt_iff] at h ⊢
  rw [minInt_eq]
  omega

/-- Negating an integer that fits fails exactly at `-2^63`, as an invalid argument. -/
theorem negate_int {n : Int} (h : fitsInt n = true) :
    (n ≠ minInt → (Value.int n).negate = .ok (.int (-n))) ∧
    (n = minInt → ∃ e, (Value.int n).negate = .error e ∧ e.errorClass = .invalidArgument) := by
  constructor
  · intro other
    exact ofInt?_of_fits ((fitsInt_neg_iff h).mpr other)
  · intro least
    exact ofInt?_of_unfit (Bool.eq_false_iff.mpr fun fits => (fitsInt_neg_iff h).mp fits least)

/-- `abs` of an integer that fits fails exactly at `-2^63`, as an invalid argument. -/
theorem abs_int {n : Int} (h : fitsInt n = true) :
    (n ≠ minInt → (Value.int n).invoke "abs" [] = .ok (.int |n|)) ∧
    (n = minInt → ∃ e, (Value.int n).invoke "abs" [] = .error e ∧
      e.errorClass = .invalidArgument) := by
  have abs : (Value.int n).invoke "abs" [] = ofInt? (n.natAbs : Int) := rfl
  rw [abs]
  constructor
  · intro other
    rw [ofInt?_of_fits ((fitsInt_natAbs_iff h).mpr other), Int.natCast_natAbs]
  · intro least
    exact ofInt?_of_unfit (Bool.eq_false_iff.mpr fun fits => (fitsInt_natAbs_iff h).mp fits least)

/-- `to_i` of a finite double fails exactly when its rounding does not fit, as an invalid
argument. -/
theorem toI_float {x : Float} {v : ℚ} (h : exactValue? x = some v) :
    (fitsInt (halfAway v) = true → (Value.float x).invoke "to_i" [] = .ok (.int (halfAway v))) ∧
    (fitsInt (halfAway v) = false → ∃ e, (Value.float x).invoke "to_i" [] = .error e ∧
      e.errorClass = .invalidArgument) := by
  rw [invoke_toI_of_exactValue h]
  exact ⟨ofInt?_of_fits, ofInt?_of_unfit⟩

/-- Widening an integer that fits to a double never fails: `to_f` gives a finite double,
the one `==` compares with. -/
theorem toF_int {n : Int} (h : fitsInt n = true) :
    (Value.int n).invoke "to_f" [] = .ok (.float (Float.ofInt n)) ∧
      (exactValue? (Float.ofInt n)).isSome := by
  refine ⟨rfl, exactValue?_ofInt_isSome ?_⟩
  rw [fitsInt_iff] at h
  have below : n.natAbs < 2 ^ 64 := by omega
  have : n.natAbs.log2 < 64 := by
    rcases Nat.eq_zero_or_pos n.natAbs with zero | pos
    · rw [zero]
      decide
    · exact (Nat.log2_lt (by omega)).mpr below
  omega

end Value

/-! ## The range is kept -/

/-- Integers stay within 64 signed bits. Bindings given as host data fit, and keywords
laid over bindings that fit keep them fitting. With such bindings every value a render
evaluates, from every frame it reaches from the top of a template, fits at every depth,
and so does every value a method, a position or an index gives from a value that fits.
Where the mathematical result would leave the range the operation fails instead:
negation and `abs` exactly at `-2^63` and `to_i` exactly when the rounded value does not
fit, as invalid arguments; wrapping exactly at a host integer that does not fit, as a
type mismatch, except that the host refuses to write that error for an integer of more
digits than it writes out, and wrapping fails with the host's refusal instead. Widening
an integer that fits to a double gives a finite double. -/
theorem Renderer.integers_stay_in_range (r : Renderer) (n : Int) :
    (∀ entries, (HostBindings.mapping entries).Fits) ∧
    (∀ (host : HostBindings) kws, host.Fits → (host.withKeywords kws).Fits) ∧
    (∀ (host : HostBindings) (t : Template) (g : Frame) (e : Expr) (v : Value),
      host.Fits → r.Visits host (Frame.top t.source) g → r.eval host g e = .ok v →
      v.fits = true) ∧
    (∀ (self v : Value) (name : String) (args : List Value),
      self.fits = true → self.invoke name args = .ok v → v.fits = true) ∧
    (∀ (self v : Value) (i : Int), self.fits = true → self.positionFrom i = .ok v →
      v.fits = true) ∧
    (∀ (self key v : Value), self.fits = true → self.index key = .ok v → v.fits = true) ∧
    (Value.fitsInt n = true →
      ((n ≠ Value.minInt → (Value.int n).negate = .ok (.int (-n))) ∧
        (n = Value.minInt → ∃ e, (Value.int n).negate = .error e ∧
          e.errorClass = .invalidArgument)) ∧
      ((n ≠ Value.minInt → (Value.int n).invoke "abs" [] = .ok (.int |n|)) ∧
        (n = Value.minInt → ∃ e, (Value.int n).invoke "abs" [] = .error e ∧
          e.errorClass = .invalidArgument)) ∧
      ((Value.int n).invoke "to_f" [] = .ok (.float (Float.ofInt n)) ∧
        (exactValue? (Float.ofInt n)).isSome)) ∧
    (∀ (x : Float) (v : ℚ), exactValue? x = some v →
      (Value.fitsInt (halfAway v) = true →
        (Value.float x).invoke "to_i" [] = .ok (.int (halfAway v))) ∧
      (Value.fitsInt (halfAway v) = false → ∃ e, (Value.float x).invoke "to_i" [] = .error e ∧
        e.errorClass = .invalidArgument)) ∧
    ((Value.fitsInt n = true → (HostData.int n).wrap = .ok (.int n)) ∧
      (Value.fitsInt n = false → Number.exceedsDigitLimit n = false →
        ∃ e, (HostData.int n).wrap = .error (.template e) ∧ e.errorClass = .typeMismatch) ∧
      (Number.exceedsDigitLimit n = true →
        (HostData.int n).wrap = .error (.host ⟨"ValueError", Number.writeLimitMessage⟩))) := by
  refine ⟨HostBindings.fits_mapping, fun host kws hh => hh.withKeywords kws, ?_,
    fun _ _ _ _ hself h => Value.invoke_fits hself h,
    fun _ _ _ hself h => Value.positionFrom_fits hself h,
    fun _ _ _ hself h => Value.index_fits hself h,
    fun fits => ⟨Value.negate_int fits, Value.abs_int fits, Value.toF_int fits⟩,
    fun _ _ exact => Value.toI_float exact, HostData.wrap_int n⟩
  -- the frames a render reaches fit, so evaluation from them gives values that fit
  intro host t g e v hh visits h
  exact Renderer.eval_fits r hh (visits.fits hh (Frame.top_fits t.source)) e v h

/-- At the edges of the range: a binding of `2^63 - 1` is negated inside it, while
`-2^63` has no negation, `1e19` rounds out of the range and `2^63` is not wrapped. The
integer `-10^4300`, of 4301 digits, is not wrapped either, and the host refuses it. -/
theorem Renderer.integers_stay_in_range_edges :
    (default : Renderer).eval (.mapping [("n", .int 9223372036854775807)]) (Frame.top "")
      (.negate default (.identifier default "n")) = .ok (.int (-9223372036854775807)) ∧
    (Value.int (-9223372036854775807)).fits = true ∧
    (∃ e, (Value.int Value.minInt).negate = .error e ∧ e.errorClass = .invalidArgument) ∧
    (∃ e, (Value.float 1.0e19).invoke "to_i" [] = .error e ∧
      e.errorClass = .invalidArgument) ∧
    (∃ e, (HostData.int 9223372036854775808).wrap = .error (.template e) ∧
      e.errorClass = .typeMismatch) ∧
    Number.exceedsDigitLimit (-10 ^ 4300) = true ∧
    (HostData.int (-10 ^ 4300)).wrap =
      .error (.host ⟨"ValueError", Number.writeLimitMessage⟩) := by
  obtain ⟨mapped, -, evaluated, -, -, -, edges, rounding, -⟩ :=
    integers_stay_in_range default Value.minInt
  have negated : (default : Renderer).eval (.mapping [("n", .int 9223372036854775807)])
      (Frame.top "") (.negate default (.identifier default "n")) =
      .ok (.int (-9223372036854775807)) := by
    rw [Renderer.eval, Renderer.eval]
    rfl
  have exact : exactValue? 1.0e19 = some 10000000000000000000 := by decide +kernel
  have long : Number.exceedsDigitLimit (-10 ^ 4300) = true := by
    rw [Number.exceedsDigitLimit, Int.natAbs_neg]
    exact HostData.exceedsDigitLimit_pow (by decide)
  obtain ⟨-, -, -, -, -, -, -, -, -, unfit, -⟩ :=
    integers_stay_in_range default 9223372036854775808
  obtain ⟨-, -, -, -, -, -, -, -, -, -, refused⟩ := integers_stay_in_range default (-10 ^ 4300)
  exact ⟨negated, evaluated _ default _ _ _ (mapped _) .start negated, (edges (by decide)).1.2 rfl,
    (rounding _ _ exact).2 (by decide +kernel),
    unfit (by decide) (HostData.exceedsDigitLimit_of_le (by decide)), long, refused long⟩

end Stencil
