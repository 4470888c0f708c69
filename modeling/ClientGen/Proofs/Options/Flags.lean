import ClientGen.Generation
import ClientGen.Proofs.Emission.Inner

/-!
# Two flags

Of the flags of a configuration, one shortens the names of nested classes and one asks for data
types. What the walk looks at, the fields, the fragments and the trees below them, is the same with
any of them; so is the class of a data type, once it is asked for.

* `Context.withFlags` sets the two flags, and leaves all else.
* `Body.grow_withFlags` says that the trees are the same, and `DataTypes.emit_withFlags` that the
  data types are, as long as the same types have been given out before.
-/

namespace ClientGen

open ClientGen.Projection

/-- The same setting with two flags of its own: whether names are shortened, and whether there are
data types. -/
def Context.withFlags (ctx : Context) (shortNames dataTypes : Bool) : Context :=
  { ctx with config := { ctx.config with shortNames, dataTypes } }

variable {ctx : Context} {short types : Bool}

/-! ## Query classes -/

lemma parameters_withFlags (taken : List String) (allOptional : Bool)
    (arguments : List InputValue) :
    (ctx.withFlags short types).parameters taken allOptional arguments
      = ctx.parameters taken allOptional arguments := by
  have hone : ∀ taken a, (ctx.withFlags short types).parameter taken allOptional a
      = ctx.parameter taken allOptional a := fun _ _ => rfl
  induction arguments generalizing taken with
  | nil => rfl
  | cons a more ih => simp only [Context.parameters, hone, ih]

lemma queryClass_withFlags (kind : Document.OperationKind) (f : Field) :
    queryClass (ctx.withFlags short types) kind f = queryClass ctx kind f := by
  unfold queryClass
  rw [parameters_withFlags]
  rfl

/-! ## Trees -/

namespace Projection.Body

variable {p : Position} {trail : List String}

private lemma addField_withFlags {f : Field} (rest : Body)
    (h : ∀ target, ctx.schema.findSelectable? f.typeName = some target →
      mayPass ctx p target = true →
        grow (ctx.withFlags short types) (p.below f target) [target.name]
          = grow ctx (p.below f target) [target.name]) :
    addField (ctx.withFlags short types) p f rest = addField ctx p f rest := by
  have hsame : (ctx.withFlags short types).schema = ctx.schema := rfl
  have hpasses : ∀ target, mayPass (ctx.withFlags short types) p target = mayPass ctx p target :=
    fun _ => rfl
  unfold addField
  rw [hsame]
  cases hfound : ctx.schema.findSelectable? f.typeName with
  | none => rfl
  | some target =>
    by_cases hpass : mayPass ctx p target = true
    · simp only [hpasses, if_pos hpass, h target hfound hpass]
      rfl
    · simp only [hpasses, if_neg hpass]

private lemma addFragment_withFlags {c : TypeDef} (rest : Body)
    (h : ¬ (p.selection? = none ∧ c.name ∈ trail) →
      grow (ctx.withFlags short types) (p.inside c) (trailInside p trail c)
        = grow ctx (p.inside c) (trailInside p trail c)) :
    addFragment (ctx.withFlags short types) p trail c rest = addFragment ctx p trail c rest := by
  unfold addFragment
  by_cases hback : p.selection? = none ∧ c.name ∈ trail
  · rw [if_pos hback, if_pos hback]
  · rw [if_neg hback, if_neg hback, h hback]
    rfl

/-- The walk looks at no flag. -/
theorem grow_withFlags (p : Position) (trail : List String) :
    grow (ctx.withFlags short types) p trail = grow ctx p trail := by
  induction p, trail using grow.induct ctx with
  | case1 p trail ihFragment ihField =>
    have hfields : fieldsAt (ctx.withFlags short types) p = fieldsAt ctx p := rfl
    have hnarrowings : narrowingsAt (ctx.withFlags short types) p = narrowingsAt ctx p := rfl
    have hfragments : (narrowingsAt ctx p).foldr
          (addFragment (ctx.withFlags short types) p trail) .done
        = (narrowingsAt ctx p).foldr (addFragment ctx p trail) .done :=
      List.foldr_ext _ _ _ fun c hc rest => addFragment_withFlags rest (ihFragment ⟨c, hc⟩)
    rw [grow_eq, grow_eq, hfields, hnarrowings, hfragments]
    exact List.foldr_ext _ _ _ fun f hf rest => addField_withFlags rest (ihField ⟨f, hf⟩)

end Projection.Body

/-! ## Data types -/

namespace DataTypes

variable {package : String} {stack : List Wanted}

lemma describe_withFlags (package : String) (t : TypeDef) (selection? : Option Selection) :
    describe (ctx.withFlags short types) package t selection? = describe ctx package t selection? :=
  rfl

/-- The data types that come out depend on the names of types that have been given out, and on
nothing else that differs. -/
theorem emit_withFlags {r r' : Naming.Registry}
    (h : ∀ t ∈ ctx.schema.types,
      (package ++ "." ++ t.name ∈ r'.names ↔ package ++ "." ++ t.name ∈ r.names)) :
    (emit (ctx.withFlags short types) package stack r').1 = (emit ctx package stack r).1 := by
  have hschema : (ctx.withFlags short types).schema = ctx.schema := rfl
  induction stack, r using emit.induct ctx package generalizing r' with
  | case1 r =>
    rw [emit, emit]
  | case2 r w rest hunknown ih =>
    rw [emit_eq, emit_eq, hschema, hunknown]
    exact ih h
  | case3 r w rest t hknown hscalar ih =>
    rw [emit_eq, emit_eq, hschema, hknown, Option.elim_some, Option.elim_some, if_pos hscalar,
      if_pos hscalar]
    exact ih h
  | case4 r w rest t hknown hscalar hgiven ih =>
    have hgiven' : r'.register? (package ++ "." ++ t.name) = none :=
      Naming.Registry.register?_eq_none.mpr ((h t (Schema.findType?_mem hknown)).mpr
        (Naming.Registry.register?_eq_none.mp hgiven))
    rw [emit_eq, emit_eq, hschema, hknown, Option.elim_some, Option.elim_some, if_neg hscalar,
      if_neg hscalar, hgiven, hgiven']
    exact ih h
  | case5 r w rest t hknown hscalar made hfree d more closed hemit =>
    rename_i ih
    have hname := h t (Schema.findType?_mem hknown)
    obtain ⟨hnew, rfl⟩ := Naming.Registry.register?_eq_some.mp hfree
    have hfree' : r'.register? (package ++ "." ++ t.name)
        = some ⟨(package ++ "." ++ t.name) :: r'.names⟩ :=
      Naming.Registry.register?_eq_some.mpr ⟨fun hc => hnew (hname.mp hc), rfl⟩
    rw [emit_eq, emit_eq, hschema, hknown, Option.elim_some, Option.elim_some, if_neg hscalar,
      if_neg hscalar, hfree, hfree', Option.elim_some, Option.elim_some]
    -- the name of the type is now given out in both
    have hrest := @ih ⟨(package ++ "." ++ t.name) :: r'.names⟩ fun u hu => by
      rw [List.mem_cons, List.mem_cons, h u hu]
    dsimp only
    rw [describe_withFlags, hrest]

end DataTypes

end ClientGen
