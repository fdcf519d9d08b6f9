import Stencil.Proofs.PartialDepth
import Stencil.Partial.Store
import Stencil.Render.Source

/-!
# Renders that share a template and a store of partials

A template is parsed once and rendered with one set of host bindings after another,
through one renderer whose loader is one store of partials. The store keeps every
partial it parses, so later renders take the kept templates; nothing else is shared,
for a render keeps no state and its errors are values.

Whatever loads and clears a store of the texts `m` has been through
(`PartialStore.Reachable`), every template it keeps is the parse of its own text
(`PartialStore.Coherent`), so a load gives what a fresh store of `m` gives
(`PartialStore.Reachable.load_fst`) and the store is, as a loader, the fresh one
(`PartialStore.Reachable.loader_eq`). So each render of the series is the render of
its bindings alone, from the text parsed afresh with a fresh store
(`Renderer.renderEach_shared_store`).
-/

namespace Stencil

namespace PartialStore

/-- The stores a store of the texts `m` comes to, from fresh, by loads and clears in
any order. -/
inductive Reachable (m : List (String × String)) : PartialStore → Prop
  | fresh : Reachable m (ofSources m)
  | load {s : PartialStore} (p : String) : Reachable m s → Reachable m (s.load p).2
  | clear {s : PartialStore} : Reachable m s → Reachable m s.clear

/-- Every template the store keeps is the parse of its own text. -/
def Coherent (s : PartialStore) : Prop :=
  ∀ p t, s.kept? p = some t → s.fetch p = .ok t

/-- What a load fetches depends on the texts only. -/
theorem fetch_eq_ofSources (s : PartialStore) (p : String) :
    s.fetch p = (ofSources s.sources).fetch p := rfl

theorem coherent_ofSources (m : List (String × String)) : (ofSources m).Coherent := by
  intro p t kept
  simp [kept?, ofSources] at kept

theorem Coherent.clear {s : PartialStore} (_ : s.Coherent) : s.clear.Coherent := by
  intro p t kept
  simp [kept?, PartialStore.clear] at kept

/-- A load keeps the store coherent: it keeps only what it parsed, and a failed load
keeps nothing. -/
theorem Coherent.load {s : PartialStore} (h : s.Coherent) (p : String) : (s.load p).2.Coherent := by
  unfold PartialStore.load
  split
  · exact h
  · split
    next t fetched =>
      intro q u kept
      simp only [kept?, List.find?_append, Option.map_or] at kept
      cases old : (s.kept.find? (·.1 = q)).map (·.2) with
      | some v =>
        rw [old, Option.some_or] at kept
        cases kept
        exact h q _ old
      | none =>
        rw [old, Option.none_or] at kept
        simp only [List.find?_cons, List.find?_nil] at kept
        split at kept
        next same =>
          cases kept
          obtain rfl : p = q := by simpa using same
          exact fetched
        next => cases kept
    · exact h

/-- A coherent store's load gives what fetching the text gives. -/
theorem Coherent.load_fst {s : PartialStore} (h : s.Coherent) (p : String) :
    (s.load p).1 = s.fetch p := by
  unfold PartialStore.load
  split
  next t kept => exact (h p t kept).symm
  next =>
    split
    next t fetched => exact fetched.symm
    next e fetched => exact fetched.symm

/-- Loads and clears change no text. -/
theorem Reachable.sources {m : List (String × String)} {s : PartialStore} (h : s.Reachable m) :
    s.sources = m := by
  induction h with
  | fresh => rfl
  | load p _ ih => rw [sources_load, ih]
  | clear _ ih => rw [sources_clear, ih]

theorem Reachable.coherent {m : List (String × String)} {s : PartialStore} (h : s.Reachable m) :
    s.Coherent := by
  induction h with
  | fresh => exact coherent_ofSources _
  | load p _ ih => exact ih.load p
  | clear _ ih => exact ih.clear

/-- Whatever a store has been through, a load gives what a fresh store of the same
texts gives. -/
theorem Reachable.load_fst {m : List (String × String)} {s : PartialStore} (h : s.Reachable m)
    (p : String) : (s.load p).1 = ((ofSources m).load p).1 := by
  rw [h.coherent.load_fst, (coherent_ofSources m).load_fst, fetch_eq_ofSources, h.sources]

/-- As a loader, a store that has been through loads and clears is the fresh store. -/
theorem Reachable.loader_eq {m : List (String × String)} {s : PartialStore} (h : s.Reachable m) :
    s.loader = (ofSources m).loader := by
  funext p
  rw [loader, loader, h.load_fst]

end PartialStore

namespace Renderer

/-- Rendering a series of host bindings from one parse is rendering each alone, each
from its own parse of the same text: a failed parse fails them all alike. -/
theorem renderEach_spec (r : Renderer) (source : String) (name : Option String)
    (hosts : List HostBindings) (keywords : List (String × HostData)) :
    (∀ results, r.renderEach source name hosts keywords = .ok results →
      results =
        hosts.map fun host => r.renderSource source name host keywords) ∧
    (∀ f, r.renderEach source name hosts keywords = .error f →
      ∀ host ∈ hosts, r.renderSource source name host keywords = .error f) := by
  constructor
  · intro results each
    unfold renderEach at each
    split at each
    next => cases each
    next t parsed =>
      cases each
      apply List.map_congr_left
      intro host _
      rw [renderSource, parsed]
  · intro f each host _
    unfold renderEach at each
    split at each
    next e parsed =>
      cases each
      rw [renderSource, parsed]
    next => cases each

/-- Renders through one template and one store of partials do not interfere. Whatever
loads and clears a store of the texts `m` has been through, it answers every load as a
fresh store of `m` does; and the renderer `r` with it as loader renders each bindings
of a series as it renders those bindings alone, parsing the text afresh, with a fresh
store of `m`: the same text, or the same error, with its class, message, place and
line. -/
theorem renderEach_shared_store (r : Renderer) {m : List (String × String)} {s : PartialStore}
    (reached : s.Reachable m) (source : String) (name : Option String)
    (hosts : List HostBindings) (keywords : List (String × HostData)) :
    (∀ p, (s.load p).1 = ((PartialStore.ofSources m).load p).1) ∧
    (∀ results, (r.withLoader (some s.loader)).renderEach source name hosts keywords = .ok results →
      results = hosts.map fun host =>
        (r.withLoader (some (PartialStore.ofSources m).loader)).renderSource source name host
          keywords) ∧
    (∀ f, (r.withLoader (some s.loader)).renderEach source name hosts keywords = .error f →
      ∀ host ∈ hosts, (r.withLoader (some (PartialStore.ofSources m).loader)).renderSource source
        name host keywords = .error f) := by
  rw [reached.loader_eq]
  exact ⟨reached.load_fst, (renderEach_spec _ source name hosts keywords).1,
    (renderEach_spec _ source name hosts keywords).2⟩

/-- A store that has loaded a partial, serving two renders of a text that renders it. -/
theorem renderEach_shared_store_loaded :
    let m := [("p", "<%= x %>")]
    let s := ((PartialStore.ofSources m).load "p").2
    let r : Renderer := {}
    let source := "<%= render(\"p\") %>"
    let hosts := [HostBindings.empty, HostBindings.empty]
    s.Reachable m ∧
    (∀ p, (s.load p).1 = ((PartialStore.ofSources m).load p).1) ∧
    (∀ results, (r.withLoader (some s.loader)).renderEach source none hosts [] = .ok results →
      results = hosts.map fun host =>
        (r.withLoader (some (PartialStore.ofSources m).loader)).renderSource source none host []) ∧
    (∀ f, (r.withLoader (some s.loader)).renderEach source none hosts [] = .error f →
      ∀ host ∈ hosts, (r.withLoader (some (PartialStore.ofSources m).loader)).renderSource source
        none host [] = .error f) := by
  intro m s r source hosts
  have reached : s.Reachable m := .load "p" .fresh
  exact ⟨reached, renderEach_shared_store r reached source none hosts []⟩

end Renderer

end Stencil
