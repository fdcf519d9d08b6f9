import Mathlib
import Stencil.Value.Host

/-!
# Host data and values, there and back

Wrapping takes host data into template values, unwrapping takes values back, and the
two undo each other on what each accepts. This module says which data wraps and proves
both round trips.

* `HostData.wraps d` holds when `d` has, at any depth, no value of a type templates
  cannot hold, no mapping key that is not a string, and no integer outside 64 signed
  bits. Wrapping succeeds exactly on such data (`wrap_isOk`); on any other it fails with
  a type mismatch, or with the host's own failure where the integer it would write into
  that error has more digits than the host writes out (`wrap_failure`).
* Unwrapping a wrapped datum gives the datum back (`unwrap_wrap`): truth values stay
  truth values and never become integers, lists stay lists and tuples tuples, mapping
  keys keep their order and doubles their bits.
* `Value.fits v` holds when every integer of `v`, at any depth, fits in 64 signed bits;
  wrapping the unwrapped value gives `v` back (`wrap_unwrap`).

The proofs follow the three functions of each side, one constructor at a time, the
recursive call on each part.
-/

namespace Stencil

namespace HostData

mutual

/-- Whether host data becomes a value: no value of another type, no mapping key that
is not a string, and no integer outside 64 signed bits, at any depth. -/
def wraps : HostData → Bool
  | .int n => Value.fitsInt n
  | .list items => wrapsAll items
  | .tuple items => wrapsAll items
  | .dict entries => wrapsEntries entries
  | .other _ => false
  | .none | .bool _ | .float _ | .str _ => true

/-- Whether every datum of a sequence becomes a value. -/
def wrapsAll : List HostData → Bool
  | [] => true
  | d :: rest => d.wraps && wrapsAll rest

/-- Whether every key of a mapping's entries is a string and every datum becomes a
value. -/
def wrapsEntries : List (HostKey × HostData) → Bool
  | [] => true
  | (.str _, d) :: rest => d.wraps && wrapsEntries rest
  | _ :: _ => false

end

mutual

/-- Whether host data holds, at any depth, an integer of more digits than the host
writes out. -/
def hasLongInt : HostData → Bool
  | .int n => Number.exceedsDigitLimit n
  | .list items => hasLongIntAll items
  | .tuple items => hasLongIntAll items
  | .dict entries => hasLongIntEntries entries
  | .none | .bool _ | .float _ | .str _ | .other _ => false

/-- Whether a datum of a sequence holds such an integer. -/
def hasLongIntAll : List HostData → Bool
  | [] => false
  | d :: rest => d.hasLongInt || hasLongIntAll rest

/-- Whether the datum of an entry of a mapping holds such an integer. -/
def hasLongIntEntries : List (HostKey × HostData) → Bool
  | [] => false
  | (_, d) :: rest => d.hasLongInt || hasLongIntEntries rest

end

end HostData

namespace Value

mutual

/-- Whether every integer of a value, at any depth, fits in 64 signed bits. -/
def fits : Value → Bool
  | .int n => fitsInt n
  | .list items => fitsAll items
  | .tuple items => fitsAll items
  | .hash entries => fitsEntries entries
  | .float _ | .str _ | .bool _ | .nil => true

/-- Whether every value of a sequence fits. -/
def fitsAll : List Value → Bool
  | [] => true
  | v :: rest => v.fits && fitsAll rest

/-- Whether every value of a hash's entries fits. -/
def fitsEntries : List (String × Value) → Bool
  | [] => true
  | (_, v) :: rest => v.fits && fitsEntries rest

end

theorem fitsAll_iff (vs : List Value) : fitsAll vs = true ↔ ∀ v ∈ vs, v.fits = true := by
  induction vs with
  | nil => simp [fitsAll]
  | cons v rest ih => simp [fitsAll, ih]

theorem fitsEntries_iff (es : List (String × Value)) :
    fitsEntries es = true ↔ ∀ e ∈ es, e.2.fits = true := by
  induction es with
  | nil => simp [fitsEntries]
  | cons e rest ih =>
    obtain ⟨k, v⟩ := e
    simp [fitsEntries, ih]

end Value

namespace HostData

/-! ## Which data wraps -/

/-- Wrapping a sequence whose head wraps to `v` goes on with the rest. -/
theorem wrapAll_cons_ok {d : HostData} {v : Value} (h : d.wrap = .ok v) (rest : List HostData) :
    wrapAll (d :: rest) = (wrapAll rest).map (v :: ·) := by
  rw [wrapAll, h]
  cases wrapAll rest <;> rfl

/-- Wrapping entries whose first key is a string and whose first datum wraps to `v`
goes on with the rest. -/
theorem wrapEntries_cons_ok {d : HostData} {v : Value} (h : d.wrap = .ok v) (key : String)
    (rest : List (HostKey × HostData)) :
    wrapEntries ((.str key, d) :: rest) = (wrapEntries rest).map ((key, v) :: ·) := by
  rw [wrapEntries, h]
  cases wrapEntries rest <;> rfl

mutual

/-- Wrapping succeeds exactly on the data that `wraps` accepts. -/
theorem wrap_isOk : ∀ d : HostData, d.wrap.isOk = d.wraps
  | .none | .bool _ | .float _ | .str _ | .other _ => rfl
  | .int n => by
    unfold wrap wraps
    split
    · simp_all [Except.isOk, Except.toBool]
    · split <;> simp_all [Except.isOk, Except.toBool]
  | .list items => by
    rw [wrap, wraps, ← wrapAll_isOk items]
    cases wrapAll items <;> rfl
  | .tuple items => by
    rw [wrap, wraps, ← wrapAll_isOk items]
    cases wrapAll items <;> rfl
  | .dict entries => by
    rw [wrap, wraps, ← wrapEntries_isOk entries]
    cases wrapEntries entries <;> rfl

theorem wrapAll_isOk : ∀ ds : List HostData, (wrapAll ds).isOk = wrapsAll ds
  | [] => rfl
  | d :: rest => by
    rw [wrapsAll, ← wrap_isOk d, ← wrapAll_isOk rest]
    cases hd : d.wrap with
    | error e => rw [wrapAll, hd]; rfl
    | ok v =>
      rw [wrapAll_cons_ok hd]
      cases wrapAll rest <;> rfl

theorem wrapEntries_isOk :
    ∀ es : List (HostKey × HostData), (wrapEntries es).isOk = wrapsEntries es
  | [] => rfl
  | (.str key, d) :: rest => by
    rw [wrapsEntries, ← wrap_isOk d, ← wrapEntries_isOk rest]
    cases hd : d.wrap with
    | error e => rw [wrapEntries, hd]; rfl
    | ok v =>
      rw [wrapEntries_cons_ok hd]
      cases wrapEntries rest <;> rfl
  | (.int _, _) :: _ | (.bool _, _) :: _ | (.float _, _) :: _ | (.none, _) :: _ => rfl

end

/-! ## What wrapping fails with -/

/-- What wrapping can fail with, given whether the data holds an integer too long for the
host to write out: a type mismatch, or, only where it does, the host's refusal to write
that integer into the error. -/
def WrapFailure (long : Bool) (f : Failure) : Prop :=
  (∃ e, f = .template e ∧ e.errorClass = .typeMismatch) ∨
    (f = .host ⟨"ValueError", Number.writeLimitMessage⟩ ∧ long = true)

theorem WrapFailure.widen {long long' : Bool} {f : Failure} (h : WrapFailure long f)
    (more : long = true → long' = true) : WrapFailure long' f :=
  h.imp_right (And.imp_right more)

mutual

/-- Every failure of wrapping is a type mismatch (an integer outside 64 signed bits, a
key that is not a string, a value of another type), or the host's refusal of an integer
the data holds that has more digits than the host writes out. -/
theorem wrap_failure : ∀ (d : HostData) (f : Failure), d.wrap = .error f →
    WrapFailure d.hasLongInt f
  | .none, _, h | .bool _, _, h | .float _, _, h | .str _, _, h => nomatch h
  | .other _, f, h => by
    cases h
    exact .inl ⟨_, rfl, rfl⟩
  | .int n, f, h => by
    unfold wrap at h
    split at h
    · cases h
    · split at h
      next long =>
        cases h
        exact .inr ⟨rfl, long⟩
      next =>
        cases h
        exact .inl ⟨_, rfl, rfl⟩
  | .list items, f, h | .tuple items, f, h => by
    rw [wrap] at h
    cases hs : wrapAll items with
    | ok vs => rw [hs] at h; cases h
    | error f' =>
      rw [hs] at h
      cases h
      rw [hasLongInt]
      exact wrapAll_failure items f hs
  | .dict entries, f, h => by
    rw [wrap] at h
    cases hs : wrapEntries entries with
    | ok vs => rw [hs] at h; cases h
    | error f' =>
      rw [hs] at h
      cases h
      rw [hasLongInt]
      exact wrapEntries_failure entries f hs

theorem wrapAll_failure : ∀ (ds : List HostData) (f : Failure), wrapAll ds = .error f →
    WrapFailure (hasLongIntAll ds) f
  | [], _, h => nomatch h
  | d :: rest, f, h => by
    cases hd : d.wrap with
    | error f' =>
      rw [wrapAll, hd] at h
      cases h
      exact (wrap_failure d f hd).widen fun long => by rw [hasLongIntAll, long, Bool.true_or]
    | ok v =>
      rw [wrapAll_cons_ok hd] at h
      cases hs : wrapAll rest with
      | ok vs => rw [hs] at h; cases h
      | error f' =>
        rw [hs] at h
        cases h
        exact (wrapAll_failure rest f hs).widen fun long => by
          rw [hasLongIntAll, long, Bool.or_true]

theorem wrapEntries_failure : ∀ (es : List (HostKey × HostData)) (f : Failure),
    wrapEntries es = .error f → WrapFailure (hasLongIntEntries es) f
  | [], _, h => nomatch h
  | (.str key, d) :: rest, f, h => by
    cases hd : d.wrap with
    | error f' =>
      rw [wrapEntries, hd] at h
      cases h
      exact (wrap_failure d f hd).widen fun long => by
        rw [hasLongIntEntries, long, Bool.true_or]
    | ok v =>
      rw [wrapEntries_cons_ok hd] at h
      cases hs : wrapEntries rest with
      | ok vs => rw [hs] at h; cases h
      | error f' =>
        rw [hs] at h
        cases h
        exact (wrapEntries_failure rest f hs).widen fun long => by
          rw [hasLongIntEntries, long, Bool.or_true]
  | (.int _, _) :: _, f, h | (.bool _, _) :: _, f, h | (.float _, _) :: _, f, h
  | (.none, _) :: _, f, h => by
    cases h
    exact .inl ⟨_, rfl, rfl⟩

end

/-- Every engine error of wrapping is a type mismatch. -/
theorem wrap_error_class {d : HostData} {e : TemplateError} (h : d.wrap = .error (.template e)) :
    e.errorClass = .typeMismatch := by
  rcases wrap_failure d _ h with ⟨e', same, mismatch⟩ | ⟨host, -⟩
  · cases same
    exact mismatch
  · cases host

/-- A host failure of wrapping is the refusal to write out an integer too long, and the
data holds one. -/
theorem wrap_host {d : HostData} {h : HostFailure} (fails : d.wrap = .error (.host h)) :
    h = ⟨"ValueError", Number.writeLimitMessage⟩ ∧ d.hasLongInt = true := by
  rcases wrap_failure d _ fails with ⟨e, engine, -⟩ | ⟨refused, long⟩
  · cases engine
  · cases refused
    exact ⟨rfl, long⟩

/-- A power of ten with at least as many zeros as the host writes digits has too many
digits to be written out. -/
theorem exceedsDigitLimit_pow {k : Nat} (h : Number.integerDigitLimit ≤ k) :
    Number.exceedsDigitLimit (10 ^ k) = true := by
  unfold Number.exceedsDigitLimit
  rw [Int.natAbs_pow, decide_eq_true_eq, Nat.pow_eq]
  exact Nat.pow_le_pow_right (by decide) h

/-- The integers of 64 bits have far fewer digits than the host writes out. -/
theorem two_pow_lt_digitLimit : 2 ^ 64 < 10 ^ Number.integerDigitLimit :=
  calc 2 ^ 64 < 10 ^ 64 := Nat.pow_lt_pow_left (by decide) (by decide)
    _ ≤ 10 ^ Number.integerDigitLimit := Nat.pow_le_pow_right (by decide) (by decide)

/-- An integer no larger than `2^64` is written out. -/
theorem exceedsDigitLimit_of_le {n : Int} (small : n.natAbs ≤ 2 ^ 64) :
    Number.exceedsDigitLimit n = false := by
  have := two_pow_lt_digitLimit
  simp only [Number.exceedsDigitLimit, Nat.pow_eq, decide_eq_false_iff_not]
  omega

/-- An integer of more digits than the host writes out lies far outside 64 signed bits:
wrapping it comes to the error that would write it out, and the host refuses that. -/
theorem wrap_long_int {n : Int} (long : Number.exceedsDigitLimit n = true) :
    (HostData.int n).wrap = .error (.host ⟨"ValueError", Number.writeLimitMessage⟩) := by
  have far : 2 ^ 64 < n.natAbs := by
    have digits : Nat.pow 10 Number.integerDigitLimit ≤ n.natAbs := of_decide_eq_true long
    rw [Nat.pow_eq] at digits
    have := two_pow_lt_digitLimit
    omega
  have unfit : Value.fitsInt n = false := by
    have least : Value.minInt = -9223372036854775808 := by decide
    have most : Value.maxInt = 9223372036854775807 := by decide
    simp only [Value.fitsInt, least, most, decide_eq_false_iff_not]
    omega
  rw [wrap, if_neg (by simp [unfit]), if_pos long]

/-! ## There and back -/

mutual

/-- Unwrapping what a datum wraps to gives the datum back. -/
theorem unwrap_wrap : ∀ (d : HostData) (v : Value), d.wrap = .ok v → v.unwrap = d
  | .none, _, h | .bool _, _, h | .float _, _, h | .str _, _, h => by
    cases h
    rfl
  | .other _, _, h => nomatch h
  | .int n, v, h => by
    unfold wrap at h
    split at h
    · cases h
      rfl
    · split at h <;> cases h
  | .list items, v, h => by
    rw [wrap] at h
    cases hs : wrapAll items with
    | error e => rw [hs] at h; cases h
    | ok vs =>
      rw [hs] at h
      cases h
      rw [Value.unwrap, unwrapAll_wrapAll items vs hs]
  | .tuple items, v, h => by
    rw [wrap] at h
    cases hs : wrapAll items with
    | error e => rw [hs] at h; cases h
    | ok vs =>
      rw [hs] at h
      cases h
      rw [Value.unwrap, unwrapAll_wrapAll items vs hs]
  | .dict entries, v, h => by
    rw [wrap] at h
    cases hs : wrapEntries entries with
    | error e => rw [hs] at h; cases h
    | ok es =>
      rw [hs] at h
      cases h
      rw [Value.unwrap, unwrapEntries_wrapEntries entries es hs]

theorem unwrapAll_wrapAll : ∀ (ds : List HostData) (vs : List Value),
    wrapAll ds = .ok vs → Value.unwrapAll vs = ds
  | [], vs, h => by
    cases h
    rfl
  | d :: rest, vs, h => by
    cases hd : d.wrap with
    | error e => rw [wrapAll, hd] at h; cases h
    | ok v =>
      rw [wrapAll_cons_ok hd] at h
      cases hs : wrapAll rest with
      | error e => rw [hs] at h; cases h
      | ok ws =>
        rw [hs] at h
        cases h
        rw [Value.unwrapAll, unwrap_wrap d v hd, unwrapAll_wrapAll rest ws hs]

theorem unwrapEntries_wrapEntries : ∀ (es : List (HostKey × HostData)) (vs : List (String × Value)),
    wrapEntries es = .ok vs → Value.unwrapEntries vs = es
  | [], vs, h => by
    cases h
    rfl
  | (.str key, d) :: rest, vs, h => by
    cases hd : d.wrap with
    | error e => rw [wrapEntries, hd] at h; cases h
    | ok v =>
      rw [wrapEntries_cons_ok hd] at h
      cases hs : wrapEntries rest with
      | error e => rw [hs] at h; cases h
      | ok ws =>
        rw [hs] at h
        cases h
        rw [Value.unwrapEntries, unwrap_wrap d v hd, unwrapEntries_wrapEntries rest ws hs]
  | (.int _, _) :: _, _, h | (.bool _, _) :: _, _, h | (.float _, _) :: _, _, h
  | (.none, _) :: _, _, h => nomatch h

end

end HostData

namespace Value

mutual

/-- Wrapping an unwrapped value whose integers fit gives the value back. -/
theorem wrap_unwrap : ∀ v : Value, v.fits = true → v.unwrap.wrap = .ok v
  | .int n, h => by
    simp only [fits] at h
    simp [unwrap, HostData.wrap, h]
  | .float _, _ | .str _, _ | .bool _, _ | .nil, _ => rfl
  | .list items, h => by
    rw [unwrap, HostData.wrap, wrapAll_unwrapAll items h]
    rfl
  | .tuple items, h => by
    rw [unwrap, HostData.wrap, wrapAll_unwrapAll items h]
    rfl
  | .hash entries, h => by
    rw [unwrap, HostData.wrap, wrapEntries_unwrapEntries entries h]
    rfl

theorem wrapAll_unwrapAll : ∀ vs : List Value, fitsAll vs = true →
    HostData.wrapAll (unwrapAll vs) = .ok vs
  | [], _ => rfl
  | v :: rest, h => by
    simp only [fitsAll, Bool.and_eq_true] at h
    rw [unwrapAll, HostData.wrapAll_cons_ok (wrap_unwrap v h.1), wrapAll_unwrapAll rest h.2]
    rfl

theorem wrapEntries_unwrapEntries : ∀ es : List (String × Value), fitsEntries es = true →
    HostData.wrapEntries (unwrapEntries es) = .ok es
  | [], _ => rfl
  | (k, v) :: rest, h => by
    simp only [fitsEntries, Bool.and_eq_true] at h
    rw [unwrapEntries, HostData.wrapEntries_cons_ok (wrap_unwrap v h.1),
      wrapEntries_unwrapEntries rest h.2]
    rfl

end

end Value

/-- Host data and values, there and back. Wrapping host data succeeds exactly when the
data holds, at any depth, no value of another type, no mapping key that is not a string
and no integer outside 64 signed bits. Otherwise it fails with a type mismatch, or with
the host's own failure: an integer of more digits than the host writes out is refused
when its range error is written, so wrapping such an integer never gives the type
mismatch, and the host fails so only on data that holds one. What a datum wraps to
unwraps to the very same datum; and a value whose integers fit unwraps to data that
wraps back to the value. -/
theorem HostData.wrap_unwrap_inverse (d : HostData) (v : Value) :
    d.wrap.isOk = d.wraps ∧
    (∀ e : TemplateError, d.wrap = .error (.template e) → e.errorClass = .typeMismatch) ∧
    (∀ h : HostFailure, d.wrap = .error (.host h) →
      h = ⟨"ValueError", Number.writeLimitMessage⟩ ∧ d.hasLongInt = true) ∧
    (∀ n : Int, d = .int n → Number.exceedsDigitLimit n = true →
      d.wrap = .error (.host ⟨"ValueError", Number.writeLimitMessage⟩)) ∧
    (d.wrap = .ok v → v.unwrap = d) ∧
    (v.fits = true → v.unwrap.wrap = .ok v) :=
  ⟨HostData.wrap_isOk d, fun _ => HostData.wrap_error_class, fun _ => HostData.wrap_host,
    fun _ isInt long => isInt ▸ HostData.wrap_long_int long, HostData.unwrap_wrap d v,
    Value.wrap_unwrap v⟩

/-- The least integer and a tuple inside a list wrap and come back; a mapping with an
integer key fails as a type mismatch; and `10^4300`, an integer of 4301 digits, is
refused by the host, not reported as a type mismatch. -/
theorem HostData.wrap_unwrap_inverse_nested :
    (HostData.list [.int Value.minInt, .tuple [.bool true, .str "x"]]).wrap =
        .ok (.list [.int Value.minInt, .tuple [.bool true, .str "x"]]) ∧
      (Value.list [.int Value.minInt, .tuple [.bool true, .str "x"]]).unwrap =
        .list [.int Value.minInt, .tuple [.bool true, .str "x"]] ∧
      (Value.list [.int Value.minInt, .tuple [.bool true, .str "x"]]).unwrap.wrap =
        .ok (.list [.int Value.minInt, .tuple [.bool true, .str "x"]]) ∧
      (HostData.dict [(.int 1, .str "a")]).wrap = .error (.ofFault (.hostKey "int")) ∧
      (TemplateError.ofFault (.hostKey "int")).errorClass = .typeMismatch ∧
      Number.exceedsDigitLimit (10 ^ 4300) = true ∧
      (HostData.int (10 ^ 4300)).wrap =
        .error (.host ⟨"ValueError", Number.writeLimitMessage⟩) ∧
      (HostData.int (10 ^ 4300)).hasLongInt = true :=
  have wrapped : (HostData.list [.int Value.minInt, .tuple [.bool true, .str "x"]]).wrap =
      .ok (.list [.int Value.minInt, .tuple [.bool true, .str "x"]]) := rfl
  have failed : (HostData.dict [(.int 1, .str "a")]).wrap = .error (.ofFault (.hostKey "int")) :=
    rfl
  have long : Number.exceedsDigitLimit (10 ^ 4300) = true := exceedsDigitLimit_pow (by decide)
  have refused := (HostData.wrap_unwrap_inverse (.int (10 ^ 4300)) .nil).2.2.2.1 _ rfl long
  ⟨wrapped, (HostData.wrap_unwrap_inverse _ _).2.2.2.2.1 wrapped,
    (HostData.wrap_unwrap_inverse .none _).2.2.2.2.2 (by decide), failed,
    (HostData.wrap_unwrap_inverse _ .nil).2.1 _ failed, long, refused,
    ((HostData.wrap_unwrap_inverse _ .nil).2.2.1 _ refused).2⟩

end Stencil
