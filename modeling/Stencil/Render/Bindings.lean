import Stencil.Value.Host
import Stencil.Text.Lines

/-!
# Bindings

A name in a template is looked up first among the loop variables in force,
innermost loop first, and then among the bindings of the host.

The host gives its bindings as a mapping from names to host data, as a supplier
that answers a name with a value or nothing, or as keyword bindings laid over
either. Host data is turned into a value only when its name is looked up, so a
datum that cannot become a value does harm only to a render that looks it up.

A renderer's place (`Frame`) is what changes as it descends: the lines of the
template it is rendering, how many partials deep it is, and the loop variables
in force.

The laws say how keywords meet the other bindings: over a mapping they are merged,
the keyword winning (`get_withKeywords_mapping`); over a supplier they are asked
first (`get_withKeywords_supplier`).

Within one render the host's answers are kept in a memo (`lookupCached`): a name
already wrapped is answered from it, and only successes are kept. The renderer asks
`get` itself, since the memo only ever answers what `get` answers.
-/

namespace Stencil

/-- Where a render's host bindings come from. -/
inductive HostBindings where
  /-- No bindings. -/
  | empty
  /-- A mapping from names to host data. -/
  | mapping (entries : List (String × HostData))
  /-- A supplier, answering a name with a value, a failure, or nothing. -/
  | supplier (lookup : String → Option (Except Failure Value))
  /-- Keyword bindings laid over other bindings. -/
  | overlay (overrides : List (String × HostData)) (fallback : HostBindings)
  deriving Inhabited

namespace HostBindings

/-- The host datum under a name in a list of bindings, the first one there. -/
def find? (entries : List (String × HostData)) (name : String) : Option HostData :=
  (entries.find? (·.1 = name)).map (·.2)

/-- The value of a name in the host bindings: nothing when unbound, else the
wrapped datum or the reason it cannot be wrapped. -/
def get : HostBindings → String → Option (Except Failure Value)
  | .empty, _ => none
  | .mapping entries, name => (find? entries name).map HostData.wrap
  | .supplier lookup, name => lookup name
  | .overlay overrides fallback, name =>
    match find? overrides name with
    | some d => some d.wrap
    | none => fallback.get name

/-- A lookup through the memo of one render: a name already wrapped is answered from
the memo; otherwise the bindings are asked, and a value they give is kept. A failure
is not kept, so the bindings are asked again the next time. -/
def lookupCached (b : HostBindings) (memo : List (String × Value)) (name : String) :
    Option (Except Failure Value) × List (String × Value) :=
  match memo.find? (·.1 = name) with
  | some (_, v) => (some (.ok v), memo)
  | none =>
    match b.get name with
    | some (.ok v) => (some (.ok v), (name, v) :: memo)
    | answer => (answer, memo)

/-- Lay keyword bindings over bindings. No keywords change nothing; over a mapping
they are merged into it, the keywords winning; over a supplier they are laid on
top. -/
def withKeywords (b : HostBindings) (keywords : List (String × HostData)) : HostBindings :=
  match keywords with
  | [] => b
  | _ =>
    match b with
    | .empty => .mapping (merge [] keywords)
    | .mapping entries => .mapping (merge entries keywords)
    | other => .overlay keywords other
where
  /-- Put each keyword into the entries: a name already there takes the new datum
  in its place, a new name goes last. -/
  merge (entries keywords : List (String × HostData)) : List (String × HostData) :=
    keywords.foldl (fun acc (k, d) => put k d acc) entries
  /-- Put one binding into entries. -/
  put (k : String) (d : HostData) : List (String × HostData) → List (String × HostData)
    | [] => [(k, d)]
    | (k', d') :: rest => if k' = k then (k, d) :: rest else (k', d') :: put k d rest

theorem find?_cons (k : String) (d : HostData) (rest : List (String × HostData)) (n : String) :
    find? ((k, d) :: rest) n = if k = n then some d else find? rest n := by
  by_cases h : k = n <;> simp [find?, h]

@[simp] theorem find?_nil (n : String) : find? [] n = none := rfl

/-- Putting a binding changes the datum of its name only. -/
theorem find?_put (k : String) (d : HostData) (es : List (String × HostData)) (n : String) :
    find? (withKeywords.put k d es) n = if k = n then some d else find? es n := by
  induction es with
  | nil => simp [withKeywords.put, find?_cons]
  | cons e rest ih =>
    obtain ⟨k', d'⟩ := e
    simp only [withKeywords.put]
    by_cases hk : k' = k
    · subst hk
      simp only [if_true, find?_cons]
      by_cases h : k' = n <;> simp [h]
    · simp only [hk, if_false, find?_cons, ih]
      by_cases h1 : k' = n <;> by_cases h2 : k = n <;> simp_all

theorem find?_append (a b : List (String × HostData)) (n : String) :
    find? (a ++ b) n = (find? a n).or (find? b n) := by
  simp only [find?, List.find?_append]
  cases List.find? (fun x => decide (x.fst = n)) a <;> rfl

/-- Merged keywords win over the entries, the last keyword of a name winning. -/
theorem find?_merge (es kws : List (String × HostData)) (n : String) :
    find? (withKeywords.merge es kws) n = (find? kws.reverse n).or (find? es n) := by
  induction kws generalizing es with
  | nil => simp [withKeywords.merge]
  | cons kw rest ih =>
    obtain ⟨k, d⟩ := kw
    simp only [withKeywords.merge, List.foldl_cons] at ih ⊢
    rw [ih, find?_put, List.reverse_cons, find?_append, find?_cons]
    cases find? rest.reverse n <;> by_cases h : k = n <;> simp [h]

/-- Over a mapping, a name bound by a keyword takes the keyword's datum. -/
theorem get_withKeywords_mapping (es kws : List (String × HostData)) (n : String) :
    ((HostBindings.mapping es).withKeywords kws).get n =
      ((find? kws.reverse n).or (find? es n)).map HostData.wrap := by
  cases kws with
  | nil => simp [withKeywords, get]
  | cons kw rest => simp only [withKeywords, get, find?_merge]

/-- Over a supplier, a name bound by a keyword takes the keyword's datum, any other
name goes to the supplier. -/
theorem get_withKeywords_supplier (lookup : String → Option (Except Failure Value))
    (kws : List (String × HostData)) (n : String) :
    ((HostBindings.supplier lookup).withKeywords kws).get n =
      match find? kws n with
      | some d => some d.wrap
      | none => lookup n := by
  cases kws with
  | nil => simp [withKeywords, get]
  | cons kw rest =>
    cases h : find? (kw :: rest) n <;> simp [withKeywords, get, h]

end HostBindings

/-- Where a renderer is: the lines of the template being rendered, how many partials
deep, and the loop variables in force, innermost first. -/
structure Frame where
  lines : List String
  depth : Nat := 0
  scope : List (String × Value) := []
  deriving Inhabited

namespace Frame

/-- The frame at the top of a template's text. -/
def top (source : String) : Frame := { lines := Text.lineFeedLines source }

/-- The source line a span starts on, if the frame's template has it. -/
def lineOf (f : Frame) (span : Span) : Option String := Text.lineAt? f.lines span.start.line

/-- Bind names for one iteration of a loop, later names shadowing earlier ones. -/
def bind (f : Frame) (bindings : List (String × Value)) : Frame :=
  { f with scope := bindings.reverse ++ f.scope }

/-- The value of a name: a loop variable, else the host's binding, else nothing. -/
def lookup (f : Frame) (host : HostBindings) (name : String) :
    Option (Except Failure Value) :=
  match f.scope.find? (·.1 = name) with
  | some (_, v) => some (.ok v)
  | none => host.get name

@[simp] theorem bind_nil (f : Frame) : f.bind [] = f := rfl

/-- A loop variable hides the host's binding of its name. -/
theorem lookup_bind_cons (f : Frame) (host : HostBindings) (n : String) (v : Value) :
    (f.bind [(n, v)]).lookup host n = some (.ok v) := by
  simp [bind, lookup]

theorem lookup_empty_scope (lines : List String) (depth : Nat) (host : HostBindings) (n : String) :
    ({ lines := lines, depth := depth } : Frame).lookup host n = host.get n := rfl

end Frame

end Stencil
