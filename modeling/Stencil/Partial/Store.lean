import Stencil.Syntax.Parse
import Stencil.Render.Collaborators

/-!
# A store of partials

A store holds the text of partials by path and keeps each partial it has parsed,
so that later loads of the same path take the kept template.

Loading a path that the store does not hold is a `PartialNotFound` error; loading
a partial whose text does not parse is a `PartialParseError`, which carries the
parse error's diagnostic as its related diagnostic; a text that the scanner
refuses as a host failure fails the load with that failure. A failed load keeps
nothing.
A partial is parsed with its path as the template's name, so the places in its
errors name the path.

What a load gives never depends on what is kept: a kept template is the parse of
the same text. Only `contains` shows what is kept: after `clear` nothing is, and a
load keeps its path exactly when it succeeds (`contains_load`). No operation
changes the texts.
-/

namespace Stencil

/-- A store of partials: their texts by path, and the templates parsed so far. -/
structure PartialStore where
  sources : List (String × String)
  kept : List (String × Template) := []
  deriving Inhabited

namespace PartialStore

/-- A store of texts with nothing parsed yet. -/
def ofSources (sources : List (String × String)) : PartialStore := { sources := sources }

/-- The text of a partial. -/
def source? (s : PartialStore) (path : String) : Option String :=
  (s.sources.find? (·.1 = path)).map (·.2)

/-- The template kept for a path. -/
def kept? (s : PartialStore) (path : String) : Option Template :=
  (s.kept.find? (·.1 = path)).map (·.2)

/-- Parse the text of a partial, a parse error becoming a partial parse error raised
from it; a host failure is passed on. -/
def parsePartial (path source : String) : Except Failure Template :=
  match Template.parse source (some path) with
  | .ok t => .ok t
  | .error (.template e) =>
    .error (.template { fault := .partialParse path e.diagnostic, cause := some e })
  | .error (.host f) => .error (.host f)

/-- The template of a partial, parsed from its text. -/
def fetch (s : PartialStore) (path : String) : Except Failure Template :=
  match s.source? path with
  | none => .error (.template (.ofFault (.partialNotFound path)))
  | some source => parsePartial path source

/-- Load a partial: the kept template if there is one, else the parsed text, which
is then kept. -/
def load (s : PartialStore) (path : String) : Except Failure Template × PartialStore :=
  match s.kept? path with
  | some t => (.ok t, s)
  | none =>
    match s.fetch path with
    | .ok t => (.ok t, { s with kept := s.kept ++ [(path, t)] })
    | .error e => (.error e, s)

/-- Whether a template is kept for a path. -/
def contains (s : PartialStore) (path : String) : Bool :=
  s.kept.any (·.1 = path)

/-- Forget every kept template. -/
def clear (s : PartialStore) : PartialStore := { s with kept := [] }

/-- The store as a partial loader. -/
def loader (s : PartialStore) (path : String) : LoadReply := LoadReply.ofResult (s.load path).1

@[simp] theorem sources_clear (s : PartialStore) : s.clear.sources = s.sources := rfl

@[simp] theorem contains_clear (s : PartialStore) (p : String) : s.clear.contains p = false := by
  simp [clear, contains]

@[simp] theorem fetch_clear (s : PartialStore) (p : String) : s.clear.fetch p = s.fetch p := rfl

/-- A path with a kept template is contained. -/
theorem contains_of_kept {s : PartialStore} {p : String} {t : Template}
    (h : s.kept? p = some t) : s.contains p = true := by
  simp only [kept?, Option.map_eq_some_iff] at h
  obtain ⟨e, he, _⟩ := h
  simp only [contains, List.any_eq_true, decide_eq_true_eq]
  exact ⟨e, List.mem_of_find?_eq_some he, by simpa using List.find?_some he⟩

/-- A load of a path with a kept template gives that template and changes nothing. -/
theorem load_of_kept {s : PartialStore} {p : String} {t : Template}
    (h : s.kept? p = some t) : s.load p = (.ok t, s) := by
  simp [load, h]

@[simp] theorem sources_load (s : PartialStore) (p : String) :
    (s.load p).2.sources = s.sources := by
  unfold load
  split
  · rfl
  · split <;> rfl

/-- After a load, a path is contained when it was before, or when it is the loaded
path and the load succeeded. -/
theorem contains_load (s : PartialStore) (p q : String) :
    (s.load p).2.contains q = (s.contains q || (decide (q = p) && (s.load p).1.isOk)) := by
  unfold load
  split
  · rename_i t h
    by_cases hq : q = p
    · subst hq; simp [contains_of_kept h]
    · simp [hq]
  · split
    · by_cases hq : q = p
      · subst hq; simp [contains, Except.isOk, Except.toBool]
      · simp [contains, hq, Ne.symm hq, Except.isOk, Except.toBool]
    · simp [Except.isOk, Except.toBool]

end PartialStore

end Stencil
