import ClientGen.Proofs.Generation.Plain
import ClientGen.Proofs.Naming.Members

/-!
# Parameters of query classes

The constructor of a query class takes the arguments of its field, the names of those that are to be
sent, and a name for the query. Its parameters are all different, whatever the arguments are called.
They stay clear of the words that the class and its builder use for something else, as far as these
words are set aside. Two of them are not: the constructor calls `super` and `set`.

* `constructor_parameters`: what the parameters are, and which of the words they hide.
* `finder_hides_words`: a schema with arguments that hide both.
-/

namespace ClientGen

open ClientGen.Naming ClientGen.Projection
open ClientGen.Document.Token (isName)

/-- The words that the constructor of a query class and its builder use for something else. -/
def constructorWords : List String :=
  ["self", "super", "set", "query_name", "build", "_values", "_fields_set", "_query_name"]

/-- What a query class sets aside are all of these words but two. -/
lemma not_mem_queryNames_iff :
    ∀ word ∈ constructorWords, word ∉ queryNames ↔ word = "super" ∨ word = "set" := by
  decide

/-- None of these words is a keyword, and none could have taken an underscore. -/
lemma constructorWords_plain :
    ∀ word ∈ constructorWords, word ∉ keywords ∧ word.toList.getLast? ≠ some '_' := by
  decide

/-! ## Parameters -/

lemma map_name_parameters (ctx : Context) (taken : List String) (allOptional : Bool)
    (arguments : List InputValue) :
    (ctx.parameters taken allOptional arguments).1.map (·.name) = arguments.map (·.name) := by
  induction arguments generalizing taken with
  | nil => rfl
  | cons a more ih => exact congrArg (List.cons _) (ih _)

section

variable (ctx : Context) (kind : Document.OperationKind) (f : Field)

/-- The arguments are called by the members for their names. -/
lemma map_identifier_queryClass :
    (queryClass ctx kind f).parameters.map (·.identifier)
      = givenNames memberName queryNames (f.arguments.map (·.name)) :=
  map_identifier_parameters ctx queryNames true f.arguments

/-- The parameter for the names of arguments is free of what is set aside and of what the arguments
are called. -/
lemma fieldsSetIdentifier_apart :
    (queryClass ctx kind f).fieldsSetIdentifier ∉ queryNames
      ∧ (queryClass ctx kind f).fieldsSetIdentifier
        ∉ (queryClass ctx kind f).parameters.map (·.identifier) := by
  have hfields : (queryClass ctx kind f).fieldsSetIdentifier
      = fresh (ctx.parameters queryNames true f.arguments).2 "fields_set" := rfl
  have hfree := fresh_not_mem (ctx.parameters queryNames true f.arguments).2 "fields_set"
  rw [mem_parameters_taken, ← map_identifier_queryClass ctx kind, ← hfields] at hfree
  exact (not_or.mp hfree).symm

lemma isUsable_fieldsSetIdentifier : IsUsable (queryClass ctx kind f).fieldsSetIdentifier := by
  have hbase : IsUsable "fields_set" := ⟨isIdentifier_of_isName (by decide), by decide⟩
  exact hbase.fresh _

/-- Which of the words the arguments hide. -/
lemma mem_identifiers_iff {word : String} (hword : word ∈ constructorWords) :
    word ∈ (queryClass ctx kind f).parameters.map (·.identifier)
      ↔ (word = "super" ∨ word = "set") ∧ ∃ a ∈ f.arguments, snakeCase a.name = word := by
  obtain ⟨hkeyword, hlast⟩ := constructorWords_plain word hword
  rw [map_identifier_queryClass]
  refine (mem_givenNames_iff memberName fun _ _ => memberName_eq_iff hkeyword hlast).trans ?_
  rw [not_mem_queryNames_iff word hword]
  simp only [List.mem_map, exists_exists_and_eq_and]

end

/-- The constructor of the query class of a field has a parameter for each argument, in order, and
two more. All of them are different identifiers that are no keywords. A word that the constructor or
the builder uses for something else is among those of the arguments only if it is `super` or `set`,
and it is exactly if one of the arguments is called so in snake case. -/
theorem constructor_parameters {f : Field} (ctx : Context) (kind : Document.OperationKind)
    (h : ∀ a ∈ f.arguments, isName a.name = true) :
    let query := queryClass ctx kind f
    let own := query.parameters.map (·.identifier)
    let all := own ++ [query.fieldsSetIdentifier, "query_name"]
    query.parameters.map (·.name) = f.arguments.map (·.name)
      ∧ all.Nodup ∧ (∀ n ∈ all, IsUsable n)
      ∧ ∀ word ∈ constructorWords, word ∈ own
        ↔ (word = "super" ∨ word = "set") ∧ ∃ a ∈ f.arguments, snakeCase a.name = word := by
  intro query own all
  have hwell : WellNamed queryNames own := wellNamed_parameters ctx h queryNames true
  obtain ⟨hreserved, hapart⟩ := fieldsSetIdentifier_apart ctx kind f
  have hquery : "query_name" ∈ queryNames := by decide
  refine ⟨map_name_parameters ctx queryNames true f.arguments, ?_, ?_,
    fun word hword => mem_identifiers_iff ctx kind f hword⟩
  · have hlast : [query.fieldsSetIdentifier, "query_name"].Nodup := by
      have hne : query.fieldsSetIdentifier ≠ "query_name" :=
        (ne_of_mem_of_not_mem hquery hreserved).symm
      simpa using hne
    refine List.nodup_append.mpr ⟨hwell.nodup, hlast, fun n hn m hm hsame => ?_⟩
    subst hsame
    rcases List.mem_cons.mp hm with rfl | hm
    · exact hapart hn
    · exact hwell.free n hn (List.mem_singleton.mp hm ▸ hquery)
  · intro n hn
    rcases List.mem_append.mp hn with hn | hn
    · exact hwell.usable n hn
    · rcases List.mem_cons.mp hn with rfl | hn
      · exact isUsable_fieldsSetIdentifier ctx kind f
      · rw [List.mem_singleton.mp hn]
        exact ⟨isIdentifier_of_isName (by decide), by decide⟩

/-! ## A field with arguments -/

/-- An argument of the type `String`. -/
def textArgument (name : String) : InputValue :=
  plainArgument name "String"

/-- A field with an argument for each of some names. -/
def findBy (names : List String) : Field :=
  { plainField "find" "String" with arguments := names.map textArgument }

/-- The schema of a query type with this field, with nothing configured. -/
def finder (names : List String) : Context where
  schema := { types := [queryType (findBy names)] }

/-- Names that are set aside, a keyword, and the name of another parameter. -/
theorem constructor_parameters_reserved :
    let query := queryClass (finder ["self", "queryName", "class", "fieldsSet"]) .query
      (findBy ["self", "queryName", "class", "fieldsSet"])
    query.parameters.map (·.identifier) = ["self_", "query_name_", "class_", "fields_set"]
      ∧ query.fieldsSetIdentifier = "fields_set_"
      ∧ ∀ word ∈ constructorWords, word ∉ query.parameters.map (·.identifier) := by
  intro query
  have hnames : ∀ a ∈ (findBy ["self", "queryName", "class", "fieldsSet"]).arguments,
      isName a.name = true := by decide
  have hother : ∀ a ∈ (findBy ["self", "queryName", "class", "fieldsSet"]).arguments,
      snakeCase a.name ≠ "super" ∧ snakeCase a.name ≠ "set" := by decide +kernel
  refine ⟨by decide +kernel, by decide +kernel, fun word hword hmem => ?_⟩
  obtain ⟨hor, a, ha, hsame⟩ := ((constructor_parameters _ .query hnames).2.2.2 word hword).mp hmem
  rcases hor with rfl | rfl
  · exact (hother a ha).1 hsame
  · exact (hother a ha).2 hsame

/-- The arguments have different names of the grammar; still they hide the words that the
constructor calls. -/
theorem finder_hides_words :
    let names := ["super", "set"]
    names.Nodup ∧ (∀ name ∈ names, isName name = true)
      ∧ ∃ o, generate (finder names) = .ok o ∧ ∃ query ∈ o.queries,
        query.parameters.map (·.name) = names ∧ query.parameters.map (·.identifier) = names := by
  intro names
  set made : Output := { queries := [queryClass (finder names) .query (findBy names)] } ++ ∅
  have hquery : emitQuery (finder names) .query (findBy names) {} = .ok made _ :=
    emitQuery_of_types List.not_mem_nil (argumentTypes_of_none (by decide) _)
  have hmade : emitRootFields (finder names) .query (queryType (findBy names)) [findBy names] {}
      = .ok (made ++ ∅ ++ ∅) _ := emitRootFields_of_cons hquery rfl rfl
  refine ⟨by decide, by decide, _, generate_of_fields (finder names) (queryType (findBy names))
    rfl rfl rfl hmade, queryClass (finder names) .query (findBy names), ?_, rfl, ?_⟩
  · exact List.mem_singleton.mpr rfl
  · decide +kernel

end ClientGen
