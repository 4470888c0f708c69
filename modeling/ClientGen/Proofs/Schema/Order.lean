import ClientGen.Proofs.Keys
import ClientGen.Schema.Assembly
import Mathlib.Data.List.Induction
import Mathlib.Tactic.Lemma

/-!
# Where an extension stands

An extension is applied to the definition of its type, or, where it comes first, to a type that is
put in the place of the definition and absorbed by it. Both ways lead to the same type: what a
definition takes over stands behind what it says itself, and extensions are gathered in their own
order. So a definition and an extension that stand next to each other may change places, and no more
than the order of the types changes with them.

* `TypeExtension.change_takeOver` says that the two ways meet, and `Schema.alike_swap` what this
  comes to for a schema.
* `Schema.nodup_ofDocument`: no two types have the same name.
* `extension_place_irrelevant` is the property of documents.
-/

namespace ClientGen

open ClientGen.Document

/-! ## Adding what is missing -/

lemma addMissing_concat (names more : List String) (n : String) :
    addMissing names (more ++ [n])
      = if n ∈ addMissing names more then addMissing names more
        else addMissing names more ++ [n] := by
  unfold addMissing
  rw [List.foldl_append]
  simp

lemma mem_addMissing {names more : List String} {n : String} :
    n ∈ addMissing names more ↔ n ∈ names ∨ n ∈ more := by
  induction more using List.reverseRecOn with
  | nil => simp [addMissing]
  | append_singleton more m ih =>
    rw [addMissing_concat]
    by_cases hm : m ∈ addMissing names more
    · rw [if_pos hm, ih]
      by_cases hn : n = m
      · subst hn
        rw [ih] at hm
        simp [hm]
      · simp [hn]
    · rw [if_neg hm, List.mem_append, ih]
      simp [or_assoc]

/-- It does not matter which of three lists are put together first. -/
lemma addMissing_assoc (a b c : List String) :
    addMissing (addMissing a b) c = addMissing a (addMissing b c) := by
  induction c using List.reverseRecOn with
  | nil => rfl
  | append_singleton c n ih =>
    rw [addMissing_concat, addMissing_concat b, ih]
    by_cases hn : n ∈ addMissing b c
    · have hall : n ∈ addMissing a (addMissing b c) := mem_addMissing.mpr (.inr hn)
      rw [if_pos hn, if_pos hall]
    · rw [if_neg hn, addMissing_concat]

/-! ## Extensions -/

namespace Document.TypeExtension

/-- The type that is extended. -/
def name : TypeExtension → String
  | .object name _ _ _ | .interface name _ _ _ | .union name _ _ => name

/-- The kind of type that is made where there is none of the name. -/
def kind : TypeExtension → TypeKind
  | .object .. => .object
  | .interface .. => .interface
  | .union .. => .union

/-- What an extension makes of a type. -/
def change : TypeExtension → TypeDef → TypeDef
  | .object _ interfaces directives _, t =>
    { t with
      directives := t.directives ++ directives.map AppliedDirective.ofNode
      interfaces := addMissing t.interfaces interfaces }
  | .interface _ _ directives _, t =>
    { t with directives := t.directives ++ directives.map AppliedDirective.ofNode }
  | .union _ _ members, t => { t with members := t.members ++ members }

/-- What an extension adds to the fields by which types are extended. -/
def gather (extensions : List (String × List Field)) :
    TypeExtension → List (String × List Field)
  | .object name _ _ fields | .interface name _ _ fields =>
    Entries.put name ((Entries.get? name extensions).getD [] ++ fields.map Field.ofNode) extensions
  | .union .. => extensions

lemma change_name (e : TypeExtension) (t : TypeDef) : (e.change t).name = t.name := by
  cases e <;> rfl

/-- An extension does the same to a type that a definition has absorbed as to one that it absorbs
then. -/
lemma change_takeOver (e : TypeExtension) (t earlier : TypeDef) :
    e.change (t.takeOver earlier) = t.takeOver (e.change earlier) := by
  cases e with
  | object name interfaces directives fields =>
    simp only [change, TypeDef.takeOver, List.append_assoc, addMissing_assoc]
  | interface name interfaces directives fields =>
    simp only [change, TypeDef.takeOver, List.append_assoc]
  | union name directives members =>
    simp only [change, TypeDef.takeOver, List.append_assoc]

end Document.TypeExtension

/-- A type that says nothing leaves a definition as it is. -/
lemma TypeDef.takeOver_blank (t : TypeDef) (name : String) (kind : TypeKind) :
    t.takeOver { name, kind } = t := by
  simp only [takeOver, List.append_nil]
  rfl

namespace Schema

variable {a b s : Schema}

/-! ## What is found -/

/-- The type of a name, or a blank one. -/
def typeOrBlank (s : Schema) (name : String) (kind : TypeKind) : TypeDef :=
  (s.findType? name).getD { name, kind }

lemma typeOrBlank_name (s : Schema) (name : String) (kind : TypeKind) :
    (s.typeOrBlank name kind).name = name := by
  unfold typeOrBlank
  cases h : s.findType? name with
  | none => rfl
  | some t => exact findType?_name h

lemma find?_putType (t : TypeDef) (us : List TypeDef) (name : String) :
    (putType t us).find? (·.name = name)
      = if t.name = name then some t else us.find? (·.name = name) := by
  induction us with
  | nil => by_cases h : t.name = name <;> simp [putType, h]
  | cons u us ih =>
    unfold putType
    by_cases hu : u.name = t.name
    · rw [if_pos hu]
      by_cases h : t.name = name <;> simp [hu, h]
    · rw [if_neg hu, List.find?_cons, List.find?_cons, ih]
      by_cases h : t.name = name
      · have hne : ¬ u.name = name := fun hsame => hu (hsame.trans h.symm)
        simp [h, hne]
      · simp [h]

/-- A definition takes over what is there of its name. -/
lemma findType?_define (s : Schema) (t : TypeDef) (kind : TypeKind) (name : String) :
    (s.define t).findType? name
      = if t.name = name then some (t.takeOver (s.typeOrBlank t.name kind))
        else s.findType? name := by
  unfold define typeOrBlank
  cases s.findType? t.name with
  | none =>
    rw [Option.getD_none, TypeDef.takeOver_blank]
    exact find?_putType t s.types name
  | some earlier => exact find?_putType (t.takeOver earlier) s.types name

lemma extend_eq (s : Schema) (e : TypeExtension) :
    s.extend e
      = { s with
          types := putType (e.change (s.typeOrBlank e.name e.kind)) s.types
          extensions := e.gather s.extensions } := by
  cases e <;> rfl

lemma findType?_extend (s : Schema) (e : TypeExtension) (name : String) :
    (s.extend e).findType? name
      = if e.name = name then some (e.change (s.typeOrBlank e.name e.kind))
        else s.findType? name := by
  have hname : (e.change (s.typeOrBlank e.name e.kind)).name = e.name := by
    rw [e.change_name, typeOrBlank_name]
  have hfind := find?_putType (e.change (s.typeOrBlank e.name e.kind)) s.types name
  rw [hname] at hfind
  rw [extend_eq]
  exact hfind

/-! ## Schemas that are alike -/

/-- Two schemas in which the same is found. -/
structure Alike (a b : Schema) : Prop where
  found : ∀ name, a.findType? name = b.findType? name
  extensions : a.extensions = b.extensions
  roots : a.roots = b.roots

lemma Alike.typeOrBlank (h : a.Alike b) (name : String) (kind : TypeKind) :
    a.typeOrBlank name kind = b.typeOrBlank name kind := by
  unfold Schema.typeOrBlank
  rw [h.found]

lemma Alike.define (h : a.Alike b) (t : TypeDef) : (a.define t).Alike (b.define t) where
  found := fun name => by
    rw [findType?_define a t t.kind, findType?_define b t t.kind, h.typeOrBlank, h.found]
  extensions := h.extensions
  roots := h.roots

lemma Alike.extend (h : a.Alike b) (e : TypeExtension) : (a.extend e).Alike (b.extend e) where
  found := fun name => by
    rw [findType?_extend, findType?_extend, h.typeOrBlank, h.found]
  extensions := by
    rw [extend_eq, extend_eq]
    show e.gather a.extensions = e.gather b.extensions
    rw [h.extensions]
  roots := by
    rw [extend_eq, extend_eq]
    exact h.roots

/-- Whatever is added to schemas that are alike, they stay alike. -/
lemma Alike.add (h : a.Alike b) (d : Definition) : (a.add d).Alike (b.add d) := by
  cases d with
  | type header body => exact h.define (.ofNode header body)
  | typeExtension e => exact h.extend e
  | schema roots =>
    refine ⟨h.found, h.extensions, ?_⟩
    show roots.foldl _ a.roots = roots.foldl _ b.roots
    rw [h.roots]
  | operation _ => exact h
  | fragment _ => exact h
  | directive _ => exact h
  | otherExtension => exact h

lemma Alike.foldl (h : a.Alike b) (d : Document) :
    (d.foldl Schema.add a).Alike (d.foldl Schema.add b) := by
  induction d generalizing a b with
  | nil => exact h
  | cons x d ih => exact ih (h.add x)

/-- A definition and an extension next to each other lead to the same, whichever comes first. -/
lemma alike_swap (s : Schema) (t : TypeDef) (e : TypeExtension) :
    ((s.define t).extend e).Alike ((s.extend e).define t) := by
  refine ⟨fun name => ?_, ?_, ?_⟩
  · by_cases hsame : t.name = e.name
    · -- the extension is of the type that is defined: the two ways to it meet
      rw [findType?_extend, findType?_define _ t e.kind, findType?_define _ t e.kind,
        findType?_extend]
      have hfirst : (s.define t).typeOrBlank e.name e.kind
          = t.takeOver (s.typeOrBlank e.name e.kind) := by
        rw [typeOrBlank, findType?_define _ t e.kind, if_pos hsame, hsame, Option.getD_some]
      have hsecond : (s.extend e).typeOrBlank t.name e.kind
          = e.change (s.typeOrBlank e.name e.kind) := by
        rw [typeOrBlank, findType?_extend, if_pos hsame.symm, Option.getD_some]
      rw [hfirst, hsecond, e.change_takeOver, hsame]
      by_cases hname : e.name = name <;> simp [hname]
    · -- neither of them looks at the type of the other
      have hfirst : (s.define t).typeOrBlank e.name e.kind = s.typeOrBlank e.name e.kind := by
        rw [typeOrBlank, findType?_define _ t e.kind, if_neg hsame]
        rfl
      have hsecond : (s.extend e).typeOrBlank t.name e.kind = s.typeOrBlank t.name e.kind := by
        rw [typeOrBlank, findType?_extend, if_neg (Ne.symm hsame)]
        rfl
      rw [findType?_extend, findType?_define _ t e.kind, findType?_define _ t e.kind,
        findType?_extend, hfirst, hsecond]
      by_cases hname : e.name = name
      · have hne : ¬ t.name = name := fun h => hsame (h.trans hname.symm)
        simp [hname, hne]
      · simp [hname]
  · rw [extend_eq, extend_eq]
    rfl
  · rw [extend_eq, extend_eq]
    rfl

/-! ## Different names -/

lemma map_name_putType (t : TypeDef) (us : List TypeDef) :
    (putType t us).map (·.name)
      = if t.name ∈ us.map (·.name) then us.map (·.name) else us.map (·.name) ++ [t.name] := by
  induction us with
  | nil => rfl
  | cons u us ih =>
    unfold putType
    by_cases hu : u.name = t.name
    · simp [hu]
    · rw [if_neg hu, List.map_cons, ih]
      by_cases hmem : t.name ∈ us.map (·.name)
      · simp [hmem]
      · simp [hmem, Ne.symm hu]

lemma nodup_putType (t : TypeDef) {us : List TypeDef} (h : (us.map (·.name)).Nodup) :
    ((putType t us).map (·.name)).Nodup := by
  rw [map_name_putType]
  split
  · exact h
  · rename_i hnew
    have hnodup := h.concat hnew
    rwa [List.concat_eq_append] at hnodup

lemma nodup_add (h : (s.types.map (·.name)).Nodup) (d : Definition) :
    ((s.add d).types.map (·.name)).Nodup := by
  cases d with
  | type header body => exact nodup_putType _ h
  | typeExtension e =>
    show ((s.extend e).types.map (·.name)).Nodup
    rw [extend_eq]
    exact nodup_putType _ h
  | schema _ => exact h
  | operation _ => exact h
  | fragment _ => exact h
  | directive _ => exact h
  | otherExtension => exact h

/-- No two types of a document have the same name. -/
theorem nodup_ofDocument (d : Document) : ((ofDocument d).types.map (·.name)).Nodup := by
  have hfold : ∀ s : Schema, (s.types.map (·.name)).Nodup →
      ((d.foldl add s).types.map (·.name)).Nodup := by
    induction d with
    | nil => exact fun _ h => h
    | cons x d ih => exact fun s h => ih (s.add x) (nodup_add h x)
  exact hfold {} List.nodup_nil

/-! ## Documents -/

/-- Two schemas that are the same but for the order of their types. -/
structure SameContent (a b : Schema) : Prop where
  types : a.types.Perm b.types
  found : ∀ name, a.findType? name = b.findType? name
  extensions : a.extensions = b.extensions
  roots : a.roots = b.roots

lemma sameContent_of_alike {d d' : Document} (h : (ofDocument d).Alike (ofDocument d')) :
    (ofDocument d).SameContent (ofDocument d') where
  types := perm_of_find?_eq (nodup_ofDocument d) (nodup_ofDocument d') h.found
  found := h.found
  extensions := h.extensions
  roots := h.roots

/-- Two neighbours in the middle of a document. -/
lemma alike_ofDocument_swap (before after : Document) (header : TypeHeader) (body : TypeBody)
    (e : TypeExtension) :
    (ofDocument (before ++ [.type header body, .typeExtension e] ++ after)).Alike
      (ofDocument (before ++ [.typeExtension e, .type header body] ++ after)) := by
  unfold ofDocument
  rw [List.foldl_append, List.foldl_append, List.foldl_append, List.foldl_append]
  exact (alike_swap (before.foldl add {}) (.ofNode header body) e).foldl after

lemma Alike.trans {c : Schema} (h : a.Alike b) (h' : b.Alike c) : a.Alike c :=
  ⟨fun name => (h.found name).trans (h'.found name), h.extensions.trans h'.extensions,
    h.roots.trans h'.roots⟩

/-- An extension in front of some definitions, and behind them. -/
lemma alike_ofDocument_move (before after : Document) (e : TypeExtension)
    (definitions : List (TypeHeader × TypeBody)) :
    (ofDocument (before ++ definitions.map (fun d => .type d.1 d.2)
      ++ .typeExtension e :: after)).Alike
      (ofDocument (before ++ .typeExtension e
        :: definitions.map (fun d => .type d.1 d.2) ++ after)) := by
  induction definitions generalizing before with
  | nil =>
    rw [List.map_nil, List.append_nil, List.append_assoc]
    exact ⟨fun _ => rfl, rfl, rfl⟩
  | cons d definitions ih =>
    -- past the others first, and then past this one
    have hothers := ih (before ++ [.type d.1 d.2])
    have hlast := alike_ofDocument_swap before
      (definitions.map (fun d => .type d.1 d.2) ++ after) d.1 d.2 e
    simp only [List.map_cons, List.append_assoc, List.cons_append, List.nil_append]
      at hothers hlast ⊢
    exact hothers.trans hlast

end Schema

/-- A type definition and an extension that stand next to each other in a document can change
places: the schema has the same types, with the same content each, and only their order may be
another one. So an extension may stand in front of any row of definitions or behind it, be the
definition of its type among them or not. -/
theorem extension_place_irrelevant (before after : Document) (e : TypeExtension) :
    (∀ header body,
      (Schema.ofDocument (before ++ [.type header body, .typeExtension e] ++ after)).SameContent
        (Schema.ofDocument (before ++ [.typeExtension e, .type header body] ++ after)))
    ∧ ∀ definitions : List (TypeHeader × TypeBody),
        (Schema.ofDocument (before ++ definitions.map (fun d => .type d.1 d.2)
          ++ .typeExtension e :: after)).SameContent
          (Schema.ofDocument (before ++ .typeExtension e
            :: definitions.map (fun d => .type d.1 d.2) ++ after)) := by
  constructor
  · intro header body
    exact Schema.sameContent_of_alike (Schema.alike_ofDocument_swap before after header body e)
  · intro definitions
    exact Schema.sameContent_of_alike (Schema.alike_ofDocument_move before after e definitions)

end ClientGen
