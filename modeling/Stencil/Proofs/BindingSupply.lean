import Stencil.Proofs.HostReads
import Stencil.Render.Source

/-!
# Ways of supplying bindings

A host gives a render its bindings as a mapping, as a supplier that answers a name with
a value or nothing, or as either with keyword bindings laid over it. Over a mapping the
keywords are merged into it; over a supplier they are asked first and the supplier only
for the other names.

Main statement (`renderSource_bindings_agree`): for a supplier that answers as a mapping
does, and keywords with distinct names, the three ways (mapping with keywords, supplier
with keywords, the mapping merged with the keywords beforehand) give the same render; a
keyword's name evaluates to its datum's value, a keyword holding nothing included; what
the supplier answers for a keyword's name plays no part; and `renderTemplate`, which
reports engine errors as results, answers as the plain render does.

All of it rests on `render_congr`: a render depends on its bindings only through what
they answer for each name, so bindings that answer alike render alike.
-/

namespace Stencil

namespace HostBindings

/-- A name bound in a list of bindings is one of its names. -/
theorem mem_names_of_find? {es : List (String × HostData)} {n : String} {d : HostData}
    (found : find? es n = some d) : n ∈ es.map (·.1) := by
  obtain ⟨p, hp, rfl⟩ := Option.map_eq_some_iff.1 found
  have same : p.1 = n := by simpa using List.find?_some hp
  exact List.mem_map.2 ⟨p, List.mem_of_find?_eq_some hp, same⟩

/-- With distinct names, the first binding of a name is also the last. -/
theorem find?_reverse {kws : List (String × HostData)} (distinct : (kws.map (·.1)).Nodup)
    (n : String) : find? kws.reverse n = find? kws n := by
  induction kws with
  | nil => rfl
  | cons kw rest ih =>
    obtain ⟨k, d⟩ := kw
    rw [List.map_cons, List.nodup_cons] at distinct
    rw [List.reverse_cons, find?_append, ih distinct.2, find?_cons, find?_cons]
    by_cases same : k = n
    · -- the name is bound once, by this keyword, so the rest does not bind it
      subst same
      cases found : find? rest k with
      | none => simp
      | some d' => exact absurd (mem_names_of_find? found) distinct.1
    · simp [same]

@[simp] theorem withKeywords_nil (b : HostBindings) : b.withKeywords [] = b := rfl

/-- Over a mapping, keywords answer as the mapping merged with them. -/
theorem get_withKeywords_merge (es kws : List (String × HostData)) (n : String) :
    ((HostBindings.mapping es).withKeywords kws).get n =
      (HostBindings.mapping (withKeywords.merge es kws)).get n := by
  rw [get_withKeywords_mapping, get, find?_merge]

/-- Keywords over a supplier that answers as a mapping answer as keywords over the
mapping, when the keywords' names are distinct. -/
theorem get_withKeywords_supplier_mapping {es kws : List (String × HostData)}
    {S : String → Option (Except Failure Value)}
    (supplies : ∀ n, S n = (find? es n).map HostData.wrap) (distinct : (kws.map (·.1)).Nodup)
    (n : String) :
    ((HostBindings.supplier S).withKeywords kws).get n =
      ((HostBindings.mapping es).withKeywords kws).get n := by
  rw [get_withKeywords_supplier, get_withKeywords_mapping, find?_reverse distinct, supplies]
  cases find? kws n <;> rfl

/-- Over a supplier, a keyword's name is answered by the keyword. -/
theorem get_withKeywords_supplier_of_find? {kws : List (String × HostData)}
    {S : String → Option (Except Failure Value)} {n : String} {d : HostData}
    (found : find? kws n = some d) :
    ((HostBindings.supplier S).withKeywords kws).get n = some d.wrap := by
  rw [get_withKeywords_supplier, found]

end HostBindings

namespace Renderer

variable (r : Renderer)

/-- An identifier that no loop variable in force binds evaluates to the host's answer. -/
theorem eval_identifier_host {host : HostBindings} {f : Frame} {n : String}
    {x : Except Failure Value} (free : f.scope.find? (·.1 = n) = none)
    (answer : host.get n = some x) (span : Span) :
    r.eval host f (.identifier span n) = locate f span x := by
  rw [eval, Frame.lookup, free, answer]

/-- A parse and render with bindings that answer alike, after their keywords, is the
same. -/
theorem renderSource_congr (source : String) (name : Option String)
    {h₁ h₂ : HostBindings} {kw₁ kw₂ : List (String × HostData)}
    (same : ∀ n, (h₂.withKeywords kw₂).get n = (h₁.withKeywords kw₁).get n) :
    r.renderSource source name h₂ kw₂ = r.renderSource source name h₁ kw₁ := by
  unfold renderSource
  cases Template.parse source name with
  | error e => rfl
  | ok t =>
    dsimp only
    rw [render_congr t same]

/-- `renderTemplate` answers as the plain parse and render: its output on success, the
engine error as an unsuccessful result, and a host failure as a failure. -/
theorem renderTemplate_eq (source : String) (name : Option String) (host : HostBindings) :
    r.renderTemplate source name host =
      match r.renderSource source name host [] with
      | .ok out => .ok ⟨true, some out, none⟩
      | .error (.template e) => .ok ⟨false, none, some e⟩
      | .error (.host h) => .error h := by
  unfold renderTemplate renderSource
  rw [HostBindings.withKeywords_nil]
  cases Template.parse source name with
  | error failure => cases failure <;> rfl
  | ok t =>
    cases r.render host t with
    | ok out => rfl
    | error failure => cases failure <;> rfl

/-- The three ways of supplying bindings agree. For a mapping `m`, keywords `kw` with
distinct names and a supplier `S` that answers each name as `m` does:

* keywords over `S` render as keywords over `m`, and as `m` merged with `kw` without
  keywords;
* a name bound by a keyword and by no loop variable evaluates to the keyword's datum's
  value in each of the three, a keyword holding nothing being nil, not unbound;
* what the supplier answers for a keyword's name plays no part;
* `renderTemplate` succeeds with an output exactly when the plain render does, and
  reports exactly the engine errors it fails with. -/
theorem renderSource_bindings_agree (source : String) (name : Option String)
    (m kw : List (String × HostData)) (S : String → Option (Except Failure Value))
    (supplies : ∀ n, S n = (HostBindings.find? m n).map HostData.wrap)
    (distinct : (kw.map (·.1)).Nodup) :
    r.renderSource source name (.supplier S) kw = r.renderSource source name (.mapping m) kw ∧
    r.renderSource source name (.mapping (HostBindings.withKeywords.merge m kw)) [] =
      r.renderSource source name (.mapping m) kw ∧
    (∀ n d, HostBindings.find? kw n = some d → ∀ (f : Frame) (span : Span),
      f.scope.find? (·.1 = n) = none →
      r.eval ((HostBindings.mapping m).withKeywords kw) f (.identifier span n) =
          locate f span d.wrap ∧
        r.eval ((HostBindings.supplier S).withKeywords kw) f (.identifier span n) =
          locate f span d.wrap ∧
        r.eval (.mapping (HostBindings.withKeywords.merge m kw)) f (.identifier span n) =
          locate f span d.wrap) ∧
    (∀ S' : String → Option (Except Failure Value),
      (∀ n, HostBindings.find? kw n = none → S' n = S n) →
      r.renderSource source name (.supplier S') kw = r.renderSource source name (.supplier S) kw) ∧
    (∀ (host : HostBindings) (o : String),
      r.renderTemplate source none host = .ok ⟨true, some o, none⟩ ↔
        r.renderSource source none host [] = .ok o) ∧
    (∀ (host : HostBindings) (e : TemplateError),
      r.renderTemplate source none host = .ok ⟨false, none, some e⟩ ↔
        r.renderSource source none host [] = .error (.template e)) := by
  have merged := HostBindings.get_withKeywords_merge m kw
  have supplied := HostBindings.get_withKeywords_supplier_mapping supplies distinct
  -- a keyword's name: the last binding of it in the keywords, which is also the first
  have keyword : ∀ n d, HostBindings.find? kw n = some d →
      ((HostBindings.mapping m).withKeywords kw).get n = some d.wrap := by
    intro n d found
    rw [HostBindings.get_withKeywords_mapping, HostBindings.find?_reverse distinct, found]
    rfl
  refine ⟨renderSource_congr r source name supplied,
    renderSource_congr r source name fun n => (merged n).symm, ?_, ?_, ?_, ?_⟩
  · intro n d found f span free
    refine ⟨eval_identifier_host r free (keyword n d found) span,
      eval_identifier_host r free (HostBindings.get_withKeywords_supplier_of_find? found) span,
      eval_identifier_host r free ?_ span⟩
    rw [← merged, keyword n d found]
  · intro S' agree
    apply renderSource_congr
    intro n
    rw [HostBindings.get_withKeywords_supplier, HostBindings.get_withKeywords_supplier]
    cases found : HostBindings.find? kw n with
    | some d => rfl
    | none => exact agree n found
  · intro host o
    rw [renderTemplate_eq]
    cases r.renderSource source none host [] with
    | ok out => simp
    | error failure => cases failure <;> simp
  · intro host e
    rw [renderTemplate_eq]
    cases r.renderSource source none host [] with
    | ok out => simp
    | error failure => cases failure <;> simp

/-- A template that writes `x`, with `x` bound to `1` in the mapping and to nothing by a
keyword, and a supplier that answers as the mapping: keywords over the supplier render
as keywords over the mapping. -/
theorem renderSource_bindings_agree_nil_keyword :
    (∀ n, (fun n => (HostBindings.find? [("x", .int 1)] n).map HostData.wrap) n =
      (HostBindings.find? [("x", .int 1)] n).map HostData.wrap) ∧
    ([("x", HostData.none)].map (·.1)).Nodup ∧
    (default : Renderer).renderSource "<%= x %>" none
        (.supplier fun n => (HostBindings.find? [("x", .int 1)] n).map HostData.wrap)
        [("x", .none)] =
      (default : Renderer).renderSource "<%= x %>" none (.mapping [("x", .int 1)])
        [("x", .none)] :=
  have supplies : ∀ n, (fun n => (HostBindings.find? [("x", .int 1)] n).map HostData.wrap) n =
      (HostBindings.find? [("x", .int 1)] n).map HostData.wrap := fun _ => rfl
  have distinct : ([("x", HostData.none)].map (·.1)).Nodup := by decide
  ⟨supplies, distinct,
    (renderSource_bindings_agree _ "<%= x %>" none _ _ _ supplies distinct).1⟩

end Renderer

end Stencil
