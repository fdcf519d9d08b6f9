import Stencil.Proofs.StoreReuse
import Mathlib.Data.List.Induction

/-!
# A store of partials over any series of operations

A host drives a store of partials with three operations: loading a path, clearing
the store, and asking whether a path is kept. Started from a fresh store of the
texts `m`, over every series of these operations the store is a cache that cannot
be seen through:

* a path is kept exactly when a load of it has succeeded since the last clear, or
  since the start when there was none (`PartialStore.contains_applyAll_iff`);
* every load gives what parsing the path's text gives
  (`PartialStore.load_applyAll_fst`), and after a load of a path has succeeded, every
  later load of it before the next clear answers the kept template itself, without
  parsing again and without changing the store (`PartialStore.load_applyAll_cached`);
* a path without a text fails with `PartialNotFound`; a text that does not parse fails
  with a `PartialParseError` raised from the parse error, whose message quotes the parse
  error's and whose only related diagnostic is the parse error's own; a text that the
  scanner refuses as a host failure (an integer literal of too many digits) fails the
  load with that host failure, not with a `PartialParseError`;
* a load that fails changes nothing.
-/

namespace Stencil

namespace PartialStore

/-- An operation on a store of partials. -/
inductive Op where
  | load (path : String)
  | clear
  | contains (path : String)
  deriving DecidableEq

/-- The store after one operation: only loads and clears change it. -/
def apply (s : PartialStore) : Op → PartialStore
  | .load p => (s.load p).2
  | .clear => s.clear
  | .contains _ => s

/-- The store after a series of operations, in order. -/
def applyAll (s : PartialStore) (ops : List Op) : PartialStore := ops.foldl apply s

@[simp] theorem applyAll_nil (s : PartialStore) : s.applyAll [] = s := rfl

@[simp] theorem applyAll_append_singleton (s : PartialStore) (ops : List Op) (op : Op) :
    s.applyAll (ops ++ [op]) = (s.applyAll ops).apply op := by
  simp [applyAll]

/-- Every series of operations from a fresh store reaches a store of the same texts. -/
theorem reachable_applyAll (m : List (String × String)) (ops : List Op) :
    ((ofSources m).applyAll ops).Reachable m := by
  induction ops using List.reverseRecOn with
  | nil => exact .fresh
  | append_singleton ops op ih =>
    rw [applyAll_append_singleton]
    cases op with
    | load p => exact .load p ih
    | clear => exact .clear ih
    | contains p => exact ih

/-- A load that fails changes nothing. -/
theorem load_snd_of_error {s : PartialStore} {p : String} {f : Failure}
    (h : (s.load p).1 = .error f) : (s.load p).2 = s := by
  cases kept : s.kept? p with
  | some t => simp [load, kept] at h
  | none =>
    cases fetched : s.fetch p with
    | ok t => simp [load, kept, fetched] at h
    | error e => simp [load, kept, fetched]

/-- After a load that succeeds, the path is kept with the template the load gave. -/
theorem kept?_load_of_ok {s : PartialStore} {p : String} {t : Template}
    (h : (s.load p).1 = .ok t) : (s.load p).2.kept? p = some t := by
  cases kept : s.kept? p with
  | some u =>
    simp only [load, kept, Except.ok.injEq] at h
    subst h
    simp [load, kept]
  | none =>
    cases fetched : s.fetch p with
    | ok u =>
      simp only [load, kept, fetched, Except.ok.injEq] at h
      subst h
      -- the new entry comes after the old ones, none of which is for `p`
      have none : s.kept.find? (·.1 = p) = none := by
        simpa [kept?] using kept
      simp [load, fetched, PartialStore.kept?, List.find?_append, none]
    | error e => simp [load, kept, fetched] at h

/-- A load keeps what was kept: it only adds the path it loads. -/
theorem kept?_load_of_kept {s : PartialStore} {p q : String} {t : Template}
    (h : s.kept? q = some t) : (s.load p).2.kept? q = some t := by
  unfold load
  split
  · exact h
  · split
    · simp only [kept?, List.find?_append, Option.map_or] at h ⊢
      rw [Option.map_eq_some_iff] at h
      obtain ⟨e, found, rfl⟩ := h
      simp [found]
    · exact h

/-- Operations other than `clear` keep what was kept. -/
theorem kept?_applyAll_of_kept {s : PartialStore} {q : String} {t : Template} {ops : List Op}
    (noClear : Op.clear ∉ ops) (h : s.kept? q = some t) : (s.applyAll ops).kept? q = some t := by
  induction ops using List.reverseRecOn with
  | nil => exact h
  | append_singleton ops op ih =>
    have rest : Op.clear ∉ ops := fun mem => noClear (List.mem_append_left _ mem)
    rw [applyAll_append_singleton]
    cases op with
    | load p => exact kept?_load_of_kept (ih rest)
    | clear => exact absurd (List.mem_append_right _ (List.mem_singleton_self _)) noClear
    | contains p => exact ih rest

/-- A series that ends with an operation splits around a load exactly when the load is
that last operation or lies before it. -/
theorem append_singleton_eq_split {ops h₁ h₂ : List Op} {op : Op} {p : String} :
    ops ++ [op] = h₁ ++ .load p :: h₂ ↔
      (h₂ = [] ∧ h₁ = ops ∧ op = .load p) ∨ ∃ h₂', h₂ = h₂' ++ [op] ∧ ops = h₁ ++ .load p :: h₂' := by
  constructor
  · intro split
    rcases List.eq_nil_or_concat h₂ with rfl | ⟨h₂', last, rfl⟩
    · obtain ⟨rfl, same⟩ := List.append_inj' split rfl
      exact .inl ⟨rfl, rfl, by simpa using same⟩
    · have split' : ops ++ [op] = (h₁ ++ .load p :: h₂') ++ [last] := by simpa using split
      obtain ⟨rfl, same⟩ := List.append_inj' split' rfl
      simp only [List.cons.injEq, and_true] at same
      subst same
      exact .inr ⟨h₂', List.concat_eq_append, rfl⟩
  · rintro (⟨rfl, rfl, rfl⟩ | ⟨h₂', rfl, rfl⟩) <;> simp

variable {m : List (String × String)}

/-- Every load, whatever came before, gives what parsing the path's text gives. -/
theorem load_applyAll_fst (ops : List Op) (p : String) :
    (((ofSources m).applyAll ops).load p).1 = (ofSources m).fetch p := by
  rw [(reachable_applyAll m ops).load_fst, (coherent_ofSources m).load_fst]

/-- A path is kept exactly when a load of it has succeeded since the last clear. -/
theorem contains_applyAll_iff (ops : List Op) (p : String) :
    ((ofSources m).applyAll ops).contains p = true ↔
      ∃ h₁ h₂, ops = h₁ ++ .load p :: h₂ ∧
        (((ofSources m).applyAll h₁).load p).1.isOk = true ∧ Op.clear ∉ h₂ := by
  induction ops using List.reverseRecOn with
  | nil =>
    simp only [applyAll_nil, ofSources, contains, List.any_nil, Bool.false_eq_true, false_iff]
    rintro ⟨h₁, h₂, split, -⟩
    simp at split
  | append_singleton ops op ih =>
    rw [applyAll_append_singleton]
    cases op with
    | load q =>
      rw [apply, contains_load, Bool.or_eq_true, ih]
      constructor
      · rintro (⟨h₁, h₂, rfl, ok, noClear⟩ | both)
        · exact ⟨h₁, h₂ ++ [.load q], by simp, ok, by simpa using noClear⟩
        · simp only [Bool.and_eq_true, decide_eq_true_eq] at both
          obtain ⟨rfl, ok⟩ := both
          exact ⟨ops, [], rfl, ok, by simp⟩
      · rintro ⟨h₁, h₂, split, ok, noClear⟩
        rcases append_singleton_eq_split.1 split with ⟨rfl, rfl, same⟩ | ⟨h₂', rfl, rfl⟩
        · cases same
          right
          simpa using ok
        · exact .inl ⟨h₁, h₂', rfl, ok, fun mem => noClear (List.mem_append_left _ mem)⟩
    | clear =>
      simp only [apply, contains_clear, Bool.false_eq_true, false_iff]
      rintro ⟨h₁, h₂, split, -, noClear⟩
      rcases append_singleton_eq_split.1 split with ⟨-, -, same⟩ | ⟨h₂', rfl, -⟩
      · cases same
      · exact noClear (List.mem_append_right _ (List.mem_singleton_self _))
    | contains q =>
      rw [apply, ih]
      constructor
      · rintro ⟨h₁, h₂, rfl, ok, noClear⟩
        exact ⟨h₁, h₂ ++ [.contains q], by simp, ok, by simpa using noClear⟩
      · rintro ⟨h₁, h₂, split, ok, noClear⟩
        rcases append_singleton_eq_split.1 split with ⟨-, -, same⟩ | ⟨h₂', rfl, rfl⟩
        · cases same
        · exact ⟨h₁, h₂', rfl, ok, fun mem => noClear (List.mem_append_left _ mem)⟩

/-- Once a load of a path has succeeded, every later load of it before the next clear
answers the kept template and leaves the store as it is. -/
theorem load_applyAll_cached {h₁ h₂ : List Op} {p : String} {t : Template}
    (loaded : (((ofSources m).applyAll h₁).load p).1 = .ok t) (noClear : Op.clear ∉ h₂) :
    ((ofSources m).applyAll (h₁ ++ .load p :: h₂)).kept? p = some t ∧
      ((ofSources m).applyAll (h₁ ++ .load p :: h₂)).load p =
        (.ok t, (ofSources m).applyAll (h₁ ++ .load p :: h₂)) := by
  have kept : ((ofSources m).applyAll (h₁ ++ .load p :: h₂)).kept? p = some t := by
    rw [applyAll, List.foldl_append, List.foldl_cons, ← applyAll]
    exact kept?_applyAll_of_kept noClear (kept?_load_of_ok loaded)
  exact ⟨kept, load_of_kept kept⟩

/-! ## How a load ends -/

variable {s : PartialStore} {p text : String}

theorem fetch_of_missing (h : s.source? p = none) :
    s.fetch p = .error (.template (.ofFault (.partialNotFound p))) := by
  simp [fetch, h]

theorem fetch_of_source (h : s.source? p = some text) : s.fetch p = parsePartial p text := by
  simp [fetch, h]

/-- The error of a partial that does not parse: its message quotes the parse error's,
the parse error's diagnostic is its only related one, and it was raised from the parse
error. -/
theorem partialParse_diagnostic (e : TemplateError) :
    ({ fault := .partialParse p e.diagnostic, cause := some e } : TemplateError).message =
        "partial '" ++ p ++ "' failed to parse: " ++ e.message ∧
      ({ fault := .partialParse p e.diagnostic, cause := some e } : TemplateError).diagnostic.related =
        [e.diagnostic] ∧
      ({ fault := .partialParse p e.diagnostic, cause := some e } : TemplateError).errorClass =
        .partialParse ∧
      ({ fault := .partialParse p e.diagnostic, cause := some e } : TemplateError).cause = some e :=
  ⟨rfl, rfl, rfl, rfl⟩

/-- A fetch fails with `PartialNotFound` exactly when the path has no text. -/
theorem fetch_notFound_iff :
    (∃ err, s.fetch p = .error (.template err) ∧ err.errorClass = .partialNotFound) ↔
      s.source? p = none := by
  constructor
  · rintro ⟨err, fetched, notFound⟩
    cases found : s.source? p with
    | none => rfl
    | some text =>
      rw [fetch_of_source found, parsePartial] at fetched
      split at fetched
      · cases fetched
      · cases fetched
        cases notFound
      · cases fetched
  · intro missing
    exact ⟨_, fetch_of_missing missing, rfl⟩

/-- A fetch fails with a `PartialParseError` exactly when the path's text fails to parse
with a template error, and the error carries that parse error. -/
theorem fetch_partialParse_iff (err : TemplateError) :
    (s.fetch p = .error (.template err) ∧ err.errorClass = .partialParse) ↔
      ∃ text e, s.source? p = some text ∧ Template.parse text (some p) = .error (.template e) ∧
        err = { fault := .partialParse p e.diagnostic, cause := some e } := by
  constructor
  · rintro ⟨fetched, parseClass⟩
    cases found : s.source? p with
    | none =>
      rw [fetch_of_missing found] at fetched
      cases fetched
      cases parseClass
    | some text =>
      rw [fetch_of_source found, parsePartial] at fetched
      split at fetched
      · cases fetched
      · next e parsed =>
        cases fetched
        exact ⟨text, e, rfl, parsed, rfl⟩
      · cases fetched
  · rintro ⟨text, e, found, parsed, rfl⟩
    refine ⟨?_, rfl⟩
    rw [fetch_of_source found, parsePartial, parsed]

/-- A text that the scanner refuses as a host failure fails the fetch with that host
failure: no `PartialParseError` is made of it. -/
theorem fetch_of_host (found : s.source? p = some text) {f : HostFailure}
    (parsed : Template.parse text (some p) = .error (.host f)) : s.fetch p = .error (.host f) := by
  rw [fetch_of_source found, parsePartial, parsed]

/-- A fetch succeeds exactly with the parse of the path's text. -/
theorem fetch_eq_ok_iff (t : Template) :
    s.fetch p = .ok t ↔ ∃ text, s.source? p = some text ∧ Template.parse text (some p) = .ok t := by
  constructor
  · intro fetched
    cases found : s.source? p with
    | none =>
      rw [fetch_of_missing found] at fetched
      cases fetched
    | some text =>
      rw [fetch_of_source found, parsePartial] at fetched
      split at fetched
      · next u parsed =>
        cases fetched
        exact ⟨text, rfl, parsed⟩
      · cases fetched
      · cases fetched
  · rintro ⟨text, found, parsed⟩
    rw [fetch_of_source found, parsePartial, parsed]

/-- A store of partials driven by any series of operations from a fresh store of the
texts `m` is a transparent cache. With `s` the store after the series `ops`, for every
path `p`:

* `p` is kept exactly when a load of `p` has succeeded since the last clear;
* a load of `p` succeeds with `t` exactly when `p`'s text parses, with `p` as the
  template's name, to `t`; once a load of `p` has succeeded with `t`, every later load of
  `p` before the next clear answers `t` from the store and changes nothing;
* a load of `p` fails with `PartialNotFound` exactly when `p` has no text, and with a
  `PartialParseError` exactly when `p`'s text fails to parse with a template error `e`:
  the error is then raised from `e`, its message is `partial 'p' failed to parse: ` and
  `e`'s message, and `e`'s diagnostic is its only related one; a text that the scanner
  refuses as a host failure fails the load with that failure;
* a load that fails leaves the store as it was. -/
theorem applyAll_transparent (m : List (String × String)) (ops : List Op) (p : String) :
    let s := (ofSources m).applyAll ops
    (s.contains p = true ↔ ∃ h₁ h₂, ops = h₁ ++ .load p :: h₂ ∧
        (((ofSources m).applyAll h₁).load p).1.isOk = true ∧ Op.clear ∉ h₂) ∧
    (∀ t, (s.load p).1 = .ok t ↔
        ∃ text, (ofSources m).source? p = some text ∧ Template.parse text (some p) = .ok t) ∧
    (∀ h₁ h₂ t, ops = h₁ ++ .load p :: h₂ → (((ofSources m).applyAll h₁).load p).1 = .ok t →
        Op.clear ∉ h₂ → s.kept? p = some t ∧ s.load p = (.ok t, s)) ∧
    ((∃ err, (s.load p).1 = .error (.template err) ∧ err.errorClass = .partialNotFound) ↔
        (ofSources m).source? p = none) ∧
    (∀ err, ((s.load p).1 = .error (.template err) ∧ err.errorClass = .partialParse) ↔
        ∃ text e, (ofSources m).source? p = some text ∧
          Template.parse text (some p) = .error (.template e) ∧
          err = { fault := .partialParse p e.diagnostic, cause := some e } ∧
          err.message = "partial '" ++ p ++ "' failed to parse: " ++ e.message ∧
          err.diagnostic.related = [e.diagnostic] ∧ err.cause = some e) ∧
    (∀ text f, (ofSources m).source? p = some text →
        Template.parse text (some p) = .error (.host f) → (s.load p).1 = .error (.host f)) ∧
    (∀ f, (s.load p).1 = .error f → (s.load p).2 = s) := by
  intro s
  have loads : (s.load p).1 = (ofSources m).fetch p := load_applyAll_fst ops p
  refine ⟨contains_applyAll_iff ops p, ?_, ?_, ?_, ?_, ?_, fun f => load_snd_of_error⟩
  · intro t
    rw [loads]
    exact fetch_eq_ok_iff t
  · rintro h₁ h₂ t rfl loaded noClear
    exact load_applyAll_cached loaded noClear
  · rw [loads]
    exact fetch_notFound_iff
  · intro err
    rw [loads, fetch_partialParse_iff err]
    constructor
    · rintro ⟨text, e, found, parsed, rfl⟩
      exact ⟨text, e, found, parsed, rfl, (partialParse_diagnostic e).1,
        (partialParse_diagnostic e).2.1, (partialParse_diagnostic e).2.2.2⟩
    · rintro ⟨text, e, found, parsed, rfl, -⟩
      exact ⟨text, e, found, parsed, rfl⟩
  · intro text f found parsed
    rw [loads]
    exact fetch_of_host found parsed

/-- A store with no texts, after a clear: a load of a path fails as not found and changes
nothing. -/
theorem applyAll_transparent_missing :
    let s := (ofSources []).applyAll [.clear]
    (∃ err, (s.load "q").1 = .error (.template err) ∧ err.errorClass = .partialNotFound) ∧
      (s.load "q").2 = s := by
  intro s
  have transparent := applyAll_transparent [] [.clear] "q"
  obtain ⟨err, notFound⟩ := transparent.2.2.2.1.2 rfl
  exact ⟨⟨err, notFound⟩, transparent.2.2.2.2.2.2 _ notFound.1⟩

end PartialStore

end Stencil
