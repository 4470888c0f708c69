import ClientGen.Context
import ClientGen.Proofs.Naming.Identifiers

/-!
# Names of members

A parameter or a method for a field goes by the name in snake case, with an underscore behind a
keyword; a method for a fragment by `on_` and the type in snake case. Both take underscores until
they are free. As each name is taken from then on, no two of them meet, whatever they come from.

* `WellNamed` is what the names of the members of one class or method are.
* `wellNamed_givenNames`: members of the same kind, one after the other.
* `memberName_eq_iff` says when one is called by a given word.
-/

namespace ClientGen.Naming

open ClientGen.Document.Token (isName isNamePart)

variable {name own word : String} {taken names : List String}

/-! ## Names that may stand side by side -/

/-- Different usable names, none of which is taken. -/
structure WellNamed (taken names : List String) : Prop extends ApartFrom taken names where
  usable : ∀ n ∈ names, IsUsable n

namespace WellNamed

lemma nil : WellNamed taken [] :=
  ⟨.nil, fun _ hn => (List.not_mem_nil hn).elim⟩

lemma cons (hown : own ∉ taken) (husable : IsUsable own) (h : WellNamed (own :: taken) names) :
    WellNamed taken (own :: names) :=
  ⟨h.toApartFrom.cons hown, List.forall_mem_cons.mpr ⟨husable, h.usable⟩⟩

end WellNamed

/-! ## One member -/

/-- Whatever is taken, the member for a name of the grammar has a usable name. -/
theorem isUsable_memberName (h : isName name = true) (taken : List String) :
    IsUsable (memberName taken name) :=
  (isUsable_avoidKeyword (isIdentifier_of_isName (isName_snakeCase h))).fresh taken

/-- Whatever is taken, so has the method for a fragment. -/
theorem isUsable_fragmentMethodName (h : isName name = true) (taken : List String) :
    IsUsable (fragmentMethodName taken name) := by
  have hchars : ("on_" ++ snakeCase name).toList
      = 'o' :: ("n_".toList ++ (snakeCase name).toList) := by
    rw [String.toList_append]
    rfl
  have hname : isName ("on_" ++ snakeCase name) = true := by
    refine isName_of_toList hchars (by decide) fun c hc => ?_
    have hword : "n_".toList.all isNamePart = true := by decide
    exact (List.mem_append.mp hc).elim (List.all_eq_true.mp hword c)
      (isNamePart_of_mem_name (isName_snakeCase h) c)
  have hbegins : ∀ w ∈ keywords, ¬"on_".toList <+: w.toList := by decide
  refine IsUsable.fresh ⟨isIdentifier_of_isName hname, fun hkeyword => ?_⟩ taken
  exact hbegins _ hkeyword ⟨(snakeCase name).toList, by rw [String.toList_append]⟩

/-- A member is called by a word that is no keyword and does not end with an underscore exactly if
the word is the name in snake case and is free. -/
theorem memberName_eq_iff (hkeyword : word ∉ keywords) (hlast : word.toList.getLast? ≠ some '_') :
    memberName taken name = word ↔ word ∉ taken ∧ snakeCase name = word := by
  constructor
  · intro h
    have hfresh : fresh taken (avoidKeyword (snakeCase name)) = word := h
    obtain ⟨k, -, hfound, -⟩ := fresh_eq_candidate taken (avoidKeyword (snakeCase name))
    obtain ⟨-, havoid⟩ := eq_of_candidate (hfound.symm.trans hfresh) hlast
    exact ⟨hfresh ▸ fresh_not_mem taken _, eq_of_avoidKeyword havoid hlast⟩
  · rintro ⟨hfree, rfl⟩
    have havoid : avoidKeyword (snakeCase name) = snakeCase name := by
      unfold avoidKeyword
      rw [if_neg (by simpa using hkeyword)]
    unfold memberName
    rw [havoid, fresh_of_not_mem hfree]

/-! ## Members one after the other -/

/-- The members for names of the grammar may stand side by side. -/
theorem wellNamed_givenNames (h : ∀ name ∈ names, isName name = true) (taken : List String) :
    WellNamed taken (givenNames memberName taken names) where
  toApartFrom := apartFrom_givenNames (fun taken _ => fresh_not_mem taken _) taken names
  usable := forall_givenNames fun name hname => isUsable_memberName (h name hname)

/-! ## Parameters -/

/-- The parameters for some arguments are members for their names. -/
lemma map_identifier_parameters (ctx : Context) (taken : List String) (allOptional : Bool)
    (arguments : List InputValue) :
    (ctx.parameters taken allOptional arguments).1.map (·.identifier)
      = givenNames memberName taken (arguments.map (·.name)) := by
  induction arguments generalizing taken with
  | nil => rfl
  | cons a more ih => exact congrArg (List.cons _) (ih _)

/-- The parameters for arguments with names of the grammar may stand side by side. -/
lemma wellNamed_parameters (ctx : Context) {arguments : List InputValue}
    (h : ∀ a ∈ arguments, isName a.name = true) (taken : List String) (allOptional : Bool) :
    WellNamed taken ((ctx.parameters taken allOptional arguments).1.map (·.identifier)) := by
  rw [map_identifier_parameters]
  exact wellNamed_givenNames (List.forall_mem_map.mpr h) taken

/-- The names that are taken then are those of the parameters and what was taken before. -/
lemma mem_parameters_taken (ctx : Context) (taken : List String) (allOptional : Bool)
    (arguments : List InputValue) (n : String) :
    n ∈ (ctx.parameters taken allOptional arguments).2
      ↔ n ∈ givenNames memberName taken (arguments.map (·.name)) ∨ n ∈ taken := by
  induction arguments generalizing taken with
  | nil => simp [Context.parameters, givenNames]
  | cons a more ih =>
    show n ∈ (ctx.parameters (memberName taken a.name :: taken) allOptional more).2 ↔ _
    rw [ih, List.map_cons, givenNames, List.mem_cons, List.mem_cons, or_left_comm, or_assoc]

end ClientGen.Naming
