import ClientGen.Proofs.Example.Entries
import Mathlib.Logic.Relation

/-!
# What is selected at a position

A field applies at a position of a type if it stands there, or in fragments on the type, however
these are nested. A selection keeps its fragments, and `Selection.fieldsFor` folds in only those
directly below it: what stands in a fragment on the type inside of a fragment on the type is lost.
Inline fragments without a type condition do no harm, since they are gone before.

* `Selects` counts the fragments on the type in which a field stands; `Site` is a selection set of
  the document in its place in an example operation.
* `Site.mentions_reached` is what a walk to a site keeps: a fragment that is being written out leads
  to all that are mentioned, so only recursive fragments are cut.
* `fieldsFor_at_sites` says exactly which fields are there, and `nested_fragment_loses_field` shows
  the one that is not.
-/

namespace ClientGen

open ClientGen.Document
open ClientGen.Document.SelectionNode (entries mem_entries)
open Relation (TransGen)

variable {d : Document} {definitions : List Fragment} {counts counts' : String → Prop}
  {spreading : List String} {nodes : List SelectionNode} {type field name : String} {levels : Nat}

/-! ## Fields in nested fragments -/

/-- A field is selected for a type: it stands in a number of fragments on the type, one inside of
the other. Of the fragments with a name only those for which `counts` holds are looked at. -/
inductive Selects (definitions : List Fragment) (counts : String → Prop) (type : String) :
    Nat → List SelectionNode → String → Prop
  | field {nodes : List SelectionNode} {alias? : Option String} {field : String}
      {arguments : List Argument} {directives : List Directive} {selections : List SelectionNode}
      (h : .field alias? field arguments directives selections ∈ entries nodes) :
      Selects definitions counts type 0 nodes field
  | inline {nodes : List SelectionNode} {directives : List Directive}
      {selections : List SelectionNode} {levels : Nat} {field : String}
      (h : .inlineFragment (some type) directives selections ∈ entries nodes)
      (hbelow : Selects definitions counts type levels selections field) :
      Selects definitions counts type (levels + 1) nodes field
  | spread {nodes : List SelectionNode} {name : String} {directives : List Directive}
      {f : Fragment} {levels : Nat} {field : String} (h : .spread name directives ∈ entries nodes)
      (hcounts : counts name) (hdefinition : findFragment? definitions name = some f)
      (htype : f.typeCondition = type)
      (hbelow : Selects definitions counts type levels f.selections field) :
      Selects definitions counts type (levels + 1) nodes field

lemma selects_zero_iff : Selects definitions counts type 0 nodes field
    ↔ field ∈ (convert definitions spreading nodes).1.map Selection.name := by
  rw [List.mem_map]
  constructor
  · rintro (⟨h⟩ | _ | _)
    exact ⟨_, mem_convert_fst.mpr ⟨_, _, _, _, _, h, rfl⟩, rfl⟩
  · rintro ⟨s, hs, rfl⟩
    obtain ⟨_, _, _, _, _, h, rfl⟩ := mem_convert_fst.mp hs
    exact .field h

/-- The fields in one fragment on the type, where a fragment that is being written out does not
count. -/
lemma selects_one_iff : Selects definitions (· ∉ spreading) type 1 nodes field
    ↔ ∃ s ∈ (convert definitions spreading nodes).2,
        s.name = type ∧ field ∈ s.fields.map Selection.name := by
  constructor
  · intro h
    cases h with
    | inline h hbelow =>
      exact ⟨_, mem_convert_snd.mpr (.inl ⟨_, _, _, h, rfl⟩), rfl, selects_zero_iff.mp hbelow⟩
    | spread h hnew hdefinition htype hbelow =>
      exact ⟨_, mem_convert_snd.mpr (.inr ⟨_, _, _, h, hdefinition, hnew, rfl⟩), htype,
        selects_zero_iff.mp hbelow⟩
  · rintro ⟨s, hs, rfl, hfield⟩
    rcases mem_convert_snd.mp hs with
      ⟨_, _, _, h, rfl⟩ | ⟨_, _, _, h, hdefinition, hnew, rfl⟩
    · exact .inline h (selects_zero_iff.mpr hfield)
    · exact .spread h hnew hdefinition rfl (selects_zero_iff.mpr hfield)

/-- Within one fragment only those matter that the selection set itself spreads. -/
lemma Selects.mono (hle : levels ≤ 1)
    (hcounts : ∀ name directives, .spread name directives ∈ entries nodes → counts name →
      counts' name)
    (h : Selects definitions counts type levels nodes field) :
    Selects definitions counts' type levels nodes field := by
  -- below that fragment no other is looked at, so the condition does not matter there
  have hzero : ∀ {selections : List SelectionNode},
      Selects definitions counts type 0 selections field →
        Selects definitions counts' type 0 selections field := by
    rintro _ ⟨h⟩
    exact .field h
  rcases Nat.le_one_iff_eq_zero_or_eq_one.mp hle with rfl | rfl
  · exact hzero h
  · cases h with
    | inline h hbelow => exact .inline h (hzero hbelow)
    | spread h hold hdefinition htype hbelow =>
      exact .spread h (hcounts _ _ h hold) hdefinition htype (hzero hbelow)

/-! ## Recursive fragments -/

/-- A fragment is spread in a selection set, or below one of its fields and fragments. -/
inductive Mentions (name : String) : List SelectionNode → Prop
  | spread {nodes : List SelectionNode} {directives : List Directive}
      (h : .spread name directives ∈ entries nodes) : Mentions name nodes
  | field {nodes : List SelectionNode} {alias? : Option String} {field : String}
      {arguments : List Argument} {directives : List Directive} {selections : List SelectionNode}
      (h : .field alias? field arguments directives selections ∈ entries nodes)
      (hbelow : Mentions name selections) : Mentions name nodes
  | inline {nodes : List SelectionNode} {type : String} {directives : List Directive}
      {selections : List SelectionNode}
      (h : .inlineFragment (some type) directives selections ∈ entries nodes)
      (hbelow : Mentions name selections) : Mentions name nodes

/-- The definition of the one fragment mentions the other. -/
def Uses (definitions : List Fragment) (name other : String) : Prop :=
  ∃ f, findFragment? definitions name = some f ∧ Mentions other f.selections

/-- A fragment that its own definition leads back to. -/
def IsRecursive (definitions : List Fragment) (name : String) : Prop :=
  TransGen (Uses definitions) name name

/-- Every fragment that is being written out leads to all that are mentioned. -/
def MentionsReached (definitions : List Fragment) (spreading : List String)
    (nodes : List SelectionNode) : Prop :=
  ∀ outer ∈ spreading, ∀ name, Mentions name nodes → TransGen (Uses definitions) outer name

namespace MentionsReached

/-- In an operation itself no fragment is being written out. -/
lemma nil : MentionsReached definitions [] nodes :=
  fun _ houter => absurd houter List.not_mem_nil

/-- A fragment that is entered uses what it mentions, and all outer ones lead to it. -/
lemma spread (h : MentionsReached definitions spreading nodes) {directives : List Directive}
    {f : Fragment} (hname : .spread name directives ∈ entries nodes)
    (hdefinition : findFragment? definitions name = some f) :
    MentionsReached definitions (name :: spreading) f.selections := by
  intro outer houter other hother
  have hstep : Uses definitions name other := ⟨f, hdefinition, hother⟩
  rcases List.mem_cons.mp houter with rfl | houter
  · exact .single hstep
  · exact (h outer houter name (.spread hname)).tail hstep

/-- Only a recursive fragment can be met while it is being written out. -/
lemma not_mem_spreading (h : MentionsReached definitions spreading nodes)
    {directives : List Directive} (hname : .spread name directives ∈ entries nodes)
    (hrecursive : ¬ IsRecursive definitions name) : name ∉ spreading := fun hspreading =>
  hrecursive (h name hspreading name (.spread hname))

end MentionsReached

/-! ## Sites -/

open ExampleDocument (fragmentsOf operationsOf)

/-- A selection set in its place in an operation of the document, with the fragments that are being
written out there. -/
inductive Site (d : Document) : List String → List SelectionNode → Prop
  | operation {o : Operation} (h : o ∈ operationsOf d) : Site d [] o.selections
  | field {spreading : List String} {nodes : List SelectionNode} {alias? : Option String}
      {field : String} {arguments : List Argument} {directives : List Directive}
      {selections : List SelectionNode} (hsite : Site d spreading nodes)
      (h : .field alias? field arguments directives selections ∈ entries nodes) :
      Site d spreading selections
  | inline {spreading : List String} {nodes : List SelectionNode} {type : String}
      {directives : List Directive} {selections : List SelectionNode}
      (hsite : Site d spreading nodes)
      (h : .inlineFragment (some type) directives selections ∈ entries nodes) :
      Site d spreading selections
  | spread {spreading : List String} {nodes : List SelectionNode} {name : String}
      {directives : List Directive} {f : Fragment} (hsite : Site d spreading nodes)
      (h : .spread name directives ∈ entries nodes) (hnew : name ∉ spreading)
      (hdefinition : findFragment? (fragmentsOf d) name = some f) :
      Site d (name :: spreading) f.selections

/-- A fragment that is being written out leads to every fragment that is mentioned there. -/
lemma Site.mentions_reached (h : Site d spreading nodes) :
    MentionsReached (fragmentsOf d) spreading nodes := by
  induction h with
  | operation => exact .nil
  | field hsite h ih => exact fun outer houter name hname => ih outer houter name (.field h hname)
  | inline hsite h ih =>
    exact fun outer houter name hname => ih outer houter name (.inline h hname)
  | spread hsite h hnew hdefinition ih => exact ih.spread h hdefinition

/-- At a site too only a recursive fragment can be met within itself. -/
lemma Site.not_mem_spreading (h : Site d spreading nodes) {directives : List Directive}
    (hname : .spread name directives ∈ entries nodes)
    (hrecursive : ¬ IsRecursive (fragmentsOf d) name) : name ∉ spreading :=
  h.mentions_reached.not_mem_spreading hname hrecursive

/-! ## Selections of a document -/

/-- The selections of an operation, from its own one down. -/
inductive Selection.Within (root : Selection) : Selection → Prop
  | root : Within root root
  | field {s t : Selection} (hs : Within root s) (h : t ∈ s.fields) : Within root t
  | fragment {s t : Selection} (hs : Within root s) (h : t ∈ s.fragments) : Within root t

/-- Every selection of an example operation is what is written at a site. -/
lemma exists_site_of_within {e : ExampleOperation} {s : Selection}
    (he : e ∈ ExampleDocument.ofDocument d) (hs : e.selection.Within s) :
    ∃ spreading nodes,
      Site d spreading nodes ∧ s = written (fragmentsOf d) spreading s.name nodes := by
  induction hs with
  | root =>
    obtain ⟨o, ho, rfl⟩ := List.mem_map.mp he
    exact ⟨[], o.selections, .operation ho, rfl⟩
  | field _ ht ih =>
    obtain ⟨spreading, nodes, hsite, hwritten⟩ := ih
    rw [hwritten] at ht
    obtain ⟨_, _, _, _, _, h, rfl⟩ := mem_convert_fst.mp ht
    exact ⟨_, _, hsite.field h, rfl⟩
  | fragment _ ht ih =>
    obtain ⟨spreading, nodes, hsite, hwritten⟩ := ih
    rw [hwritten] at ht
    rcases mem_convert_snd.mp ht with ⟨_, _, _, h, rfl⟩ | ⟨_, _, _, h, hdefinition, hnew, rfl⟩
    · exact ⟨_, _, hsite.inline h, rfl⟩
    · exact ⟨_, _, hsite.spread h hnew hdefinition, rfl⟩

/-! ## What a selection holds for a type -/

/-- For a type a selection has the fields that stand in at most one fragment on it. -/
lemma hasFor_written : (written definitions spreading name nodes).HasFor type field
    ↔ ∃ levels ≤ 1, Selects definitions (· ∉ spreading) type levels nodes field := by
  rw [Selection.hasFor_iff]
  constructor
  · rintro (h | h)
    · exact ⟨0, Nat.zero_le 1, selects_zero_iff.mpr h⟩
    · exact ⟨1, Nat.le_refl 1, selects_one_iff.mpr h⟩
  · rintro ⟨levels, hle, h⟩
    rcases Nat.le_one_iff_eq_zero_or_eq_one.mp hle with rfl | rfl
    · exact .inl (selects_zero_iff.mp h)
    · exact .inr (selects_one_iff.mp h)

/-- Every selection of an example document is written at a site, and at every site and for every
type: a field that stands in at most one fragment on the type, which is not recursive, is selected,
also where the selection is merged with others, and it is generated if the configuration allows it.
No other field is selected there, so none that only stands deeper. -/
theorem fieldsFor_at_sites (d : Document) :
    (∀ e ∈ ExampleDocument.ofDocument d, ∀ s, e.selection.Within s →
        ∃ spreading nodes,
          Site d spreading nodes ∧ s = written (fragmentsOf d) spreading s.name nodes)
      ∧ ∀ spreading nodes, Site d spreading nodes → ∀ name type field,
        (∀ levels ≤ 1,
            Selects (fragmentsOf d) (¬ IsRecursive (fragmentsOf d) ·) type levels nodes field →
              ∀ s ss, written (fragmentsOf d) spreading name nodes ∈ s :: ss →
                (ss.foldl Selection.merged s).HasFor type field
                  ∧ ∀ (c : Config) fields root,
                      field ∈ (c.allowedFields type fields root).map (·.name) →
                        field ∈ (c.selectFields type fields
                          (some (ss.foldl Selection.merged s)) root).fields.map (·.name))
          ∧ ((written (fragmentsOf d) spreading name nodes).HasFor type field
              ↔ ∃ levels ≤ 1, Selects (fragmentsOf d) (· ∉ spreading) type levels nodes field) := by
  refine ⟨fun e he s hs => exists_site_of_within he hs, fun spreading nodes hsite name type field =>
    ⟨fun levels hle h s ss hmem => ?_, hasFor_written⟩⟩
  have hfresh : Selects (fragmentsOf d) (· ∉ spreading) type levels nodes field :=
    h.mono hle fun _ _ hspread hrecursive => hsite.not_mem_spreading hspread hrecursive
  have hmerged : (ss.foldl Selection.merged s).HasFor type field :=
    Selection.hasFor_foldl_merged.mpr ⟨_, hmem, hasFor_written.mpr ⟨levels, hle, hfresh⟩⟩
  exact ⟨hmerged, fun c fields root hallowed =>
    Config.mem_map_name_selectFields.mpr ⟨hallowed, hmerged⟩⟩

/-! ## A fragment inside of a fragment -/

/-- The example `query { a { ...F } }` with `fragment F on T { x ...G }` and
`fragment G on T { y }`. -/
def splitExample : Document :=
  [.operation ⟨.query, none, [], [], [.field none "a" [] [] [.spread "F" []]]⟩,
    .fragment ⟨"F", "T", [], [.field none "x" [] [] [], .spread "G" []]⟩,
    .fragment ⟨"G", "T", [], [.field none "y" [] [] []]⟩]

/-- Below the field stands the fragment that spreads the other. -/
lemma site_splitExample : Site splitExample [] [.spread "F" []] :=
  .field (.operation (List.mem_singleton.mpr rfl)) (mem_entries List.mem_cons_self nofun)

lemma uses_splitExample {outer inner : String}
    (h : Uses (fragmentsOf splitExample) outer inner) : outer = "F" ∧ inner = "G" := by
  obtain ⟨f, hf, hinner⟩ := h
  obtain ⟨hmem, rfl⟩ := findFragment?_mem hf
  have hnone : ¬ Mentions inner [] := fun h => by cases h <;> simp_all [entries]
  simp only [splitExample, fragmentsOf, List.filterMap_cons, List.filterMap_nil, List.mem_cons,
    List.not_mem_nil, or_false] at hmem
  rcases hmem with rfl | rfl
  · refine ⟨rfl, ?_⟩
    cases hinner with
    | spread h =>
      simp only [entries, List.mem_cons, reduceCtorEq, SelectionNode.spread.injEq,
        List.not_mem_nil, or_false, false_or] at h
      exact h.1
    | field h hbelow => simp_all [entries]
    | inline h => simp [entries] at h
  · cases hinner with
    | spread h => simp [entries] at h
    | field h hbelow => simp_all [entries]
    | inline h => simp [entries] at h

/-- Neither fragment leads back to itself. -/
lemma not_isRecursive_splitExample (name : String) :
    ¬ IsRecursive (fragmentsOf splitExample) name := by
  intro h
  obtain ⟨_, hfirst, _⟩ := Relation.TransGen.head'_iff.mp h
  obtain ⟨_, _, hlast⟩ := Relation.TransGen.tail'_iff.mp h
  have hsame : "F" = "G" := (uses_splitExample hfirst).1.symm.trans (uses_splitExample hlast).2
  exact absurd hsame (by decide)

/-- The field of the outer fragment is selected, also where the field `a` is selected once more, and
it is generated where another field is excluded. -/
theorem fieldsFor_at_sites_split :
    Site splitExample [] [.spread "F" []]
      ∧ ((Selection.mk "a" [.mk "z" [] []] []).merged
          (written (fragmentsOf splitExample) [] "a" [.spread "F" []])).HasFor "T" "x"
      ∧ "x" ∈ (({ excludeFields := ["T.y"] } : Config).selectFields "T"
          (["x", "y"].map fun name => ⟨name, "String", false, true, none, [], []⟩)
          (some ((Selection.mk "a" [.mk "z" [] []] []).merged
            (written (fragmentsOf splitExample) [] "a" [.spread "F" []]))) false).fields.map
              (·.name) := by
  have hselects : Selects (fragmentsOf splitExample)
      (¬ IsRecursive (fragmentsOf splitExample) ·) "T" 1 [.spread "F" []] "x" :=
    .spread (mem_entries List.mem_cons_self nofun) (not_isRecursive_splitExample "F") rfl rfl
      (.field (mem_entries List.mem_cons_self nofun))
  obtain ⟨hselected, hkept⟩ :=
    ((fieldsFor_at_sites splitExample).2 _ _ site_splitExample "a" "T" "x").1 1 (Nat.le_refl 1)
      hselects (.mk "a" [.mk "z" [] []] []) [_] (List.mem_cons_of_mem _ List.mem_cons_self)
  exact ⟨site_splitExample, hselected, hkept _ _ _ (by decide +kernel)⟩

/-- A field in a fragment on the type inside of a fragment on the type is lost. -/
theorem nested_fragment_loses_field :
    ¬ ∀ (d : Document) (spreading : List String) (nodes : List SelectionNode),
      Site d spreading nodes → ∀ (name type field : String) (levels : Nat),
        Selects (fragmentsOf d) (¬ IsRecursive (fragmentsOf d) ·) type levels nodes field →
          (written (fragmentsOf d) spreading name nodes).HasFor type field := by
  intro hall
  have hselects : Selects (fragmentsOf splitExample)
      (¬ IsRecursive (fragmentsOf splitExample) ·) "T" 2 [.spread "F" []] "y" :=
    .spread (mem_entries List.mem_cons_self nofun) (not_isRecursive_splitExample "F") rfl rfl
      (.spread (mem_entries (List.mem_cons_of_mem _ List.mem_cons_self) nofun)
        (not_isRecursive_splitExample "G") rfl rfl
        (.field (mem_entries List.mem_cons_self nofun)))
  have hy := hall splitExample _ _ site_splitExample "a" "T" "y" 2 hselects
  obtain ⟨levels, hle, h⟩ := hasFor_written.mp hy
  cases h with
  | field h => simp [entries] at h
  | inline h => simp [entries] at h
  | @spread _ name _ f levels _ h _ hdefinition _ hbelow =>
    -- only the outer fragment stands there, and no level is left for the inner one
    obtain ⟨rfl, rfl⟩ : name = "F" ∧ levels = 0 := by
      refine ⟨?_, by omega⟩
      simp only [entries, List.mem_singleton, SelectionNode.spread.injEq] at h
      exact h.1
    cases hdefinition
    cases hbelow with
    | field h => simp [entries] at h

end ClientGen
