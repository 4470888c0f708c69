import ClientGen.Proofs.Calls.Covered

/-!
# Runs step by step

What the parts of a run come to where a schema is plain: fields without arguments, classes with one
field, types that refer to nothing, no entities. With these, a run on a small schema can be followed
from name to name.

* `run_of_free` and `run_of_given` say what the first request for a type brings, and that later ones
  bring nothing.
* `generate_of_fields` puts a run together from the runs of its root fields.
-/

namespace ClientGen

open ClientGen.DataTypes ClientGen.Projection

variable {ctx : Context} {operation? : Option String} {o : Output} {st st' : RunState}

/-! ## Data types -/

section

variable {package : String} {w : Wanted} {t : TypeDef}

lemma run_nil (st : RunState) : DataTypes.run ctx package [] st = .ok ∅ st := by
  unfold DataTypes.run
  rw [emit]
  split <;> rfl

/-- A type whose name is free comes before what it refers to. -/
lemma run_cons_of_free {rest : List Wanted} {more : Output} (hdata : ctx.config.dataTypes = true)
    (ht : ctx.schema.findType? w.typeName = some t) (hkind : t.kind ≠ .scalar)
    (hfree : package ++ "." ++ t.name ∉ st.registry.names)
    (hmore : DataTypes.run ctx package ((describe ctx package t w.selection?).references ++ rest)
      { st with registry := ⟨(package ++ "." ++ t.name) :: st.registry.names⟩ } = .ok more st') :
    DataTypes.run ctx package (w :: rest) st
      = .ok ((describe ctx package t w.selection?).output ++ more) st' := by
  have hregister := Naming.Registry.register?_eq_some.mpr ⟨hfree, rfl⟩
  unfold DataTypes.run at hmore ⊢
  rw [if_pos hdata] at hmore ⊢
  rw [emit_eq, ht, Option.elim_some, if_neg hkind, hregister, Option.elim_some]
  cases hmore
  rfl

/-- A type whose name is free, and which refers to nothing. -/
lemma run_of_free (hdata : ctx.config.dataTypes = true)
    (ht : ctx.schema.findType? w.typeName = some t) (hkind : t.kind ≠ .scalar)
    (hfree : package ++ "." ++ t.name ∉ st.registry.names)
    (hleaf : (describe ctx package t w.selection?).references = []) :
    DataTypes.run ctx package [w] st = .ok ((describe ctx package t w.selection?).output ++ ∅)
      { st with registry := ⟨(package ++ "." ++ t.name) :: st.registry.names⟩ } := by
  refine run_cons_of_free hdata ht hkind hfree ?_
  rw [hleaf]
  exact run_nil _

/-- A type whose name is given out is passed over, whatever is selected on it. -/
lemma run_of_given (hdata : ctx.config.dataTypes = true)
    (ht : ctx.schema.findType? w.typeName = some t) (hkind : t.kind ≠ .scalar)
    (hgiven : package ++ "." ++ t.name ∈ st.registry.names) :
    DataTypes.run ctx package [w] st = .ok ∅ st := by
  have hnone : st.registry.register? (package ++ "." ++ t.name) = none :=
    Naming.Registry.register?_eq_none.mpr hgiven
  unfold DataTypes.run
  rw [if_pos hdata, emit_eq, ht, Option.elim_some, if_neg hkind, hnone, Option.elim_none, emit]

end

/-! ## Root fields -/

/-- Arguments that are of no data types ask for none. -/
lemma argumentTypes_of_none {arguments : List InputValue}
    (h : ∀ a ∈ arguments, ctx.scope.isDataType a.typeName = false) (st : RunState) :
    argumentTypes ctx arguments st = .ok ∅ st := by
  have hnone : (arguments.map (·.typeName)).filter ctx.scope.isDataType = [] := by
    rw [List.filter_eq_nil_iff, List.forall_mem_map]
    exact fun a ha => by simp [h a ha]
  unfold argumentTypes runReferenced
  rw [hnone]
  exact run_nil st

/-- A field without arguments asks for no data types. -/
lemma argumentTypes_plain {f : Field} (hf : f.arguments = []) (st : RunState) :
    argumentTypes ctx f.arguments st = .ok ∅ st :=
  argumentTypes_of_none (by simp [hf]) st

/-- Arguments of which one is of a data type, one that refers to nothing, ask for its class. -/
lemma argumentTypes_of_free {arguments : List InputValue} {name : String} {t : TypeDef}
    (hdata : ctx.config.dataTypes = true)
    (hone : (arguments.map (·.typeName)).filter ctx.scope.isDataType = [name])
    (ht : ctx.schema.findType? name = some t) (hkind : t.kind ≠ .scalar)
    (hfree : ctx.config.typesNamespace ++ "." ++ t.name ∉ st.registry.names)
    (hleaf : (describe ctx ctx.config.typesNamespace t none).references = []) :
    argumentTypes ctx arguments st
      = .ok ((describe ctx ctx.config.typesNamespace t none).output ++ ∅)
        { st with
          registry := ⟨(ctx.config.typesNamespace ++ "." ++ t.name) :: st.registry.names⟩ } := by
  unfold argumentTypes runReferenced
  rw [hone]
  exact run_of_free hdata ht hkind hfree hleaf

lemma emitQuery_of_types {kind : Document.OperationKind} {f : Field} {types : Output}
    (hfree : clientName ctx (queryName f.name) ∉ st.registry.names)
    (htypes : argumentTypes ctx f.arguments
      { st with registry := ⟨clientName ctx (queryName f.name) :: st.registry.names⟩ }
        = .ok types st') :
    emitQuery ctx kind f st = .ok ({ queries := [queryClass ctx kind f] } ++ types) st' := by
  unfold emitQuery
  refine Run.bind_eq_ok.mpr ⟨true, _, registerClass_eq_true.mpr ⟨hfree, rfl⟩, ?_⟩
  exact Run.bind_eq_ok.mpr ⟨types, _, htypes, rfl⟩

lemma emitQuery_of_free {kind : Document.OperationKind} {f : Field} (hf : f.arguments = [])
    (hfree : clientName ctx (queryName f.name) ∉ st.registry.names) :
    emitQuery ctx kind f st = .ok ({ queries := [queryClass ctx kind f] } ++ ∅)
      { st with registry := ⟨clientName ctx (queryName f.name) :: st.registry.names⟩ } :=
  emitQuery_of_types hfree (argumentTypes_plain hf _)

/-! ## Trees -/

section

variable {frame : Frame} {taken : List String} {rest : Body} {members : Members} {mid : RunState}

/-- A field without sub-fields makes a method, and what stands after it goes on. -/
lemma emitBody_leaf {f : Field} {types : Output}
    (htypes : argumentTypes ctx f.arguments st = .ok types mid)
    (hrest : emitBody ctx operation? frame (Naming.memberName taken f.name :: taken) rest mid
      = .ok members st') :
    emitBody ctx operation? frame taken (.leaf f rest) st
      = .ok (members.cons (frame.leafMethod ctx (Naming.memberName taken f.name) f)
          (ctx.argumentImports f.arguments) ∅ types) st' := by
  unfold emitBody
  exact Run.bind_eq_ok.mpr ⟨_, _, htypes, Run.bind_eq_ok.mpr ⟨_, _, hrest, rfl⟩⟩

/-- The members that some fields without sub-fields make, before others. -/
def leafMembers (ctx : Context) (frame : Frame) : List String → List Field → Members → Members
  | _, [], more => more
  | taken, f :: fs, more =>
    let name := Naming.memberName taken f.name
    Members.cons (frame.leafMethod ctx name f) (ctx.argumentImports f.arguments) ∅ ∅
      (leafMembers ctx frame (name :: taken) fs more)

/-- A class begins with some fields without sub-fields, whose arguments are of no data types. -/
lemma emitBody_leaves {fs : List Field}
    (hplain : ∀ f ∈ fs, ∀ a ∈ f.arguments, ctx.scope.isDataType a.typeName = false)
    (hrest : emitBody ctx operation? frame
      (fs.foldl (fun taken f => Naming.memberName taken f.name :: taken) taken) rest st
        = .ok members st') :
    emitBody ctx operation? frame taken (fs.foldr .leaf rest) st
      = .ok (leafMembers ctx frame taken fs members) st' := by
  induction fs generalizing taken with
  | nil => exact hrest
  | cons f fs ih =>
    have htypes := argumentTypes_of_none (hplain f List.mem_cons_self) st
    exact emitBody_leaf htypes (ih (fun g hg => hplain g (List.mem_cons_of_mem _ hg)) hrest)

/-- A fragment makes a class of its own before what stands after it goes on. -/
lemma emitBody_fragment {target : Head} {below : Body} {stem : String} {child : Output}
    (hstem : stem = freeStem ctx st.registry
      (frame.childStem ++ "_" ++ Text.capitalized target.type.name))
    (hchild : emitClass ctx operation? (frame.fragmentPlan stem) target
      (fun childFrame => emitBody ctx operation? childFrame Naming.projectionNames below) st
        = .ok child mid)
    (hrest : emitBody ctx operation? frame
      (Naming.fragmentMethodName taken target.type.name :: taken) rest mid = .ok members st') :
    emitBody ctx operation? frame taken (.fragment target below rest) st
      = .ok (members.cons
          (frame.fragmentMethod (Naming.fragmentMethodName taken target.type.name)
            target.type.name stem) [] child ∅) st' := by
  subst hstem
  unfold emitBody
  refine Run.bind_eq_ok.mpr ⟨_, st, rfl, ?_⟩
  exact Run.bind_eq_ok.mpr ⟨_, _, hchild, Run.bind_eq_ok.mpr ⟨_, _, hrest, rfl⟩⟩

/-- The tree of a root field whose name is free. -/
lemma emitTree_of_members {field : String} {t : TypeDef} {selection? : Option Selection}
    {own : Output} {body : Body} {filled : RunState}
    (hgrow : Body.grow ctx (.start t.name selection?) [t.name] = body)
    (hfree : clientName ctx (rootPlan field).name ∉ st.registry.names)
    (hmembers : emitBody ctx operation? ((rootPlan field).frame (rootPlan field).stem)
      Naming.projectionNames body
      { st with registry := ⟨clientName ctx (rootPlan field).name :: st.registry.names⟩ }
        = .ok members filled)
    (hown : ownTypes ctx operation? (headAt ctx t selection?) filled = .ok own st') :
    emitTree ctx operation? (rootPlan field) t selection? st
      = .ok ((rootPlan field).output ctx (headAt ctx t selection?) members own) st' :=
  emitClass_eq_ok.mpr (.inr ⟨(rootPlan field).stem, _, _, _, own,
    ⟨_, registerClass_eq_true.mpr ⟨hfree, rfl⟩, rfl⟩, hgrow ▸ hmembers, hown, rfl⟩)

/-- A tree of one class, that of a root field on whose type one field is selected. -/
lemma emitTree_of_leaf {field : String} {t : TypeDef} {f : Field} {selection? : Option Selection}
    {own : Output} (hf : f.arguments = [])
    (hgrow : Body.grow ctx (.start t.name selection?) [t.name] = .leaf f .done)
    (hfree : clientName ctx (rootPlan field).name ∉ st.registry.names)
    (hown : ownTypes ctx operation? (headAt ctx t selection?)
      { st with registry := ⟨clientName ctx (rootPlan field).name :: st.registry.names⟩ }
        = .ok own st') :
    emitTree ctx operation? (rootPlan field) t selection? st
      = .ok ((rootPlan field).output ctx (headAt ctx t selection?)
          (leafMembers ctx ((rootPlan field).frame (rootPlan field).stem) Naming.projectionNames [f]
            {}) own) st' := by
  refine emitTree_of_members hgrow hfree ?_ hown
  exact emitBody_leaf (argumentTypes_plain hf _) rfl

end

/-! ## Runs -/

lemma emitRootFields_of_cons {kind : Document.OperationKind} {root : TypeDef} {f : Field}
    {fs : List Field} {query projection more : Output} {asked grown : RunState}
    (hquery : emitQuery ctx kind f st = .ok query asked)
    (hprojection : emitRootProjection ctx root (ctx.example? kind) f asked = .ok projection grown)
    (hmore : emitRootFields ctx kind root fs grown = .ok more st') :
    emitRootFields ctx kind root (f :: fs) st = .ok (query ++ projection ++ more) st' :=
  Run.bind_eq_ok.mpr ⟨_, _, hquery, Run.bind_eq_ok.mpr ⟨_, _, hprojection,
    Run.bind_eq_ok.mpr ⟨_, _, hmore, rfl⟩⟩⟩

/-- The call for a root type, all of whose fields are of known types. -/
lemma generateRoot_of_fields {root : TypeDef} {made : Output}
    (hknown : unknownField? ctx.schema (rootFields ctx (rootKind ctx root) root).fields = none)
    (hmade : emitRootFields ctx (rootKind ctx root) root
      (rootFields ctx (rootKind ctx root) root).fields st = .ok made st') :
    generateRoot ctx root st
      = .ok ({ warnings := (rootFields ctx (rootKind ctx root) root).warnings } ++ made) st' := by
  rcases generateRoot_cases ctx root with ⟨f, hunknown, _⟩ | ⟨_, hfields⟩
  · rw [hknown] at hunknown
    cases hunknown
  · rw [hfields]
    exact Run.bind_eq_ok.mpr ⟨_, _, hmade, rfl⟩

/-- A run on a schema with one root type and without entities. -/
lemma generate_of_fields (ctx : Context) (root : TypeDef) {made : Output}
    (hroot : rootTypes ctx.schema = [root])
    (hknown : unknownField? ctx.schema (rootFields ctx (rootKind ctx root) root).fields = none)
    (hkeyed : keyedTypes ctx (ctx.schema.typesOfKind .object) = [])
    (hmade : emitRootFields ctx (rootKind ctx root) root
      (rootFields ctx (rootKind ctx root) root).fields {} = .ok made st') :
    generate ctx = .ok ({ warnings := (rootFields ctx (rootKind ctx root) root).warnings } ++ made
      ++ ∅ ++ ∅) := by
  have hfirst := generateRoot_of_fields hknown hmade
  have hentities : generateEntities ctx (ctx.schema.typesOfKind .object) st' = .ok ∅ st' := by
    unfold generateEntities
    rw [hkeyed, List.isEmpty_nil, Bool.or_true]
    rfl
  have hall : generateAll ctx {}
      = .ok ({ warnings := (rootFields ctx (rootKind ctx root) root).warnings } ++ made ++ ∅ ++ ∅)
        st' := by
    unfold generateAll
    rw [hroot]
    refine Run.bind_eq_ok.mpr ⟨_, _, ?_, Run.bind_eq_ok.mpr ⟨_, _, hentities, rfl⟩⟩
    exact Run.bind_eq_ok.mpr ⟨_, _, hfirst, rfl⟩
  unfold generate EStateM.run
  rw [hall]

end ClientGen
