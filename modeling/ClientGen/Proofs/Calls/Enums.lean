import ClientGen.Proofs.Calls.Attributes
import ClientGen.Proofs.Render.EnumModules

/-!
# The members of enum classes

Whatever is asked for, the class of an enum type has one member for each value, in order: a word
that is an identifier and no keyword, and a literal that denotes the value.

One thing is missed. The words are found one by one, and none is looked at again. Where a keyword is
a value, and so is the keyword with an underscore, two members go by one word.

* `members_of_enums` is about all enum classes that come out of any calls.
* `exists_enumsFile_iff` says when they can be written into a module of their own.
-/

namespace ClientGen

open ClientGen.DataTypes ClientGen.Naming ClientGen.Render
open ClientGen.Document.Token (isName)
open ClientGen.Source (reindent? string?)

variable {ctx : Context}

/-- The names of the values of an enum type, in order. -/
def TypeDef.valueNames (t : TypeDef) : List String :=
  t.values.map (·.name)

lemma DataTypes.IsClass.dataClass_eq {package : String} {t : TypeDef}
    {selection? : Option Selection} {d : DataClass} (h : IsClass ctx package t selection? d)
    (hkind : t.kind = .enum) : dataClass d = enumClass d t.valueNames := by
  unfold dataClass
  rw [h.enum hkind]
  rfl

lemma DataTypes.IsClass.isNamedEnum {package : String} {t : TypeDef}
    {selection? : Option Selection} {d : DataClass} (h : IsClass ctx package t selection? d)
    (hkind : t.kind = .enum) (hname : isName t.name = true)
    (hvalues : ∀ v ∈ t.valueNames, isName v = true) : IsNamedEnum d := by
  have hbody := h.enum hkind
  refine ⟨by rw [hbody]; rfl, ?_, h.sameName ▸ hname, by rwa [hbody]⟩
  have hdescribed := h.described
  unfold describe at hdescribed
  rw [hkind] at hdescribed
  obtain rfl := (List.cons.inj hdescribed).1
  rfl

/-- The lines of the members are the last of the class. -/
lemma memberLines_suffix_enumClass (d : DataClass) (values : List String) :
    values.map memberLine <:+ enumClass d values := by
  unfold enumClass
  cases values with
  | nil => exact List.nil_suffix
  | cons v vs => exact List.suffix_append _ _

/-! ## All enum classes -/

/-- The class of an enum, in lines: after all that is open has been closed, it is read as its head,
a step in, its docstring and one assignment for each value, in order. Each gives a word to a
literal: an identifier that is no keyword, and a string that denotes the value. If no value is there
twice, the words are different exactly if no keyword is a value together with the keyword with an
underscore. -/
theorem members_of_enums (calls : List Call) :
    ∀ d ∈ (History.after ctx calls).total.dataTypes, ∀ t, ctx.schema.findType? d.name = some t →
      t.kind = .enum → isName t.name = true → (∀ v ∈ t.valueNames, isName v = true) →
      (∀ before steps, reindent? {} before = some (steps, []) →
          ReadLines (dataClass d) before (steps ++ enumTokens d t.valueNames) [⟨4, 4⟩])
        ∧ t.valueNames.map memberLine <:+ dataClass d
        ∧ (∀ v ∈ t.valueNames, IsUsable (avoidKeyword v)
          ∧ (∀ rest, string? ((Text.quoted v).toList ++ rest) = some (v.toList, rest))
          ∧ unescaped? v.toList = some v.toList)
        ∧ (t.valueNames.Nodup → ((t.valueNames.map avoidKeyword).Nodup
          ↔ ∀ keyword ∈ keywords, keyword ∈ t.valueNames → keyword ++ "_" ∉ t.valueNames)) := by
  intro d hd t hfound hkind hname hvalues
  obtain ⟨u, selection?, hsame, hclass⟩ := History.exists_isClass calls hd
  obtain rfl : u = t := Option.some.inj (hsame.symm.trans hfound)
  have hlines : dataClass d = enumClass d u.valueNames := hclass.dataClass_eq hkind
  have hdname : isName d.name = true := hclass.sameName ▸ hname
  refine ⟨fun before steps hsteps => ?_, ?_, fun v hv => ⟨?_, ?_, ?_⟩, nodup_memberWords_iff⟩
  · rw [hlines]
    exact readLines_enumClass hdname hvalues hsteps
  · rw [hlines]
    exact memberLines_suffix_enumClass d _
  · exact isUsable_avoidKeyword (isIdentifier_of_isName (hvalues v hv))
  · exact string?_quoted (hvalues v hv)
  · exact unescaped?_of_isName (hvalues v hv)

/-- An enum with a keyword among its values. -/
def origins : TypeDef where
  name := "Origin"
  kind := .enum
  values := ["from", "class_", "None"].map fun name => ⟨name, none⟩

/-- Its members go by three words. -/
theorem members_of_origins :
    ∃ d ∈ (History.after (alone origins) [.dataType origins none none]).total.dataTypes,
      ["    from_ = 'from'", "    class_ = 'class_'", "    None_ = 'None'"] <:+ dataClass d
        ∧ (origins.valueNames.map avoidKeyword).Nodup := by
  obtain ⟨d, hclass, hone⟩ := exists_class_of_leaf (alone origins) (t := origins) rfl rfl rfl
    rfl
  have hd : d ∈ (History.after (alone origins) [.dataType origins none none]).total.dataTypes :=
    hone ▸ List.mem_singleton_self d
  have hfound : (alone origins).schema.findType? d.name = some origins := by
    rw [hclass.sameName]
    rfl
  obtain ⟨-, hlines, -, hdifferent⟩ :=
    members_of_enums _ d hd origins hfound rfl (by decide) (by decide)
  have hwords : origins.valueNames.map memberLine
      = ["    from_ = 'from'", "    class_ = 'class_'", "    None_ = 'None'"] := by decide +kernel
  exact ⟨d, hd, hwords ▸ hlines, (hdifferent (by decide)).mpr (by decide)⟩

/-- An enum with a keyword among its values, and the keyword with an underscore. -/
def sizes : TypeDef where
  name := "Size"
  kind := .enum
  values := ["class", "class_"].map fun name => ⟨name, none⟩

/-- The values are names of the grammar and different; still the members go by one word. -/
theorem sizes_share_word :
    (∀ v ∈ sizes.valueNames, isName v = true) ∧ sizes.valueNames.Nodup
      ∧ ∃ d ∈ (History.after (alone sizes) [.dataType sizes none none]).total.dataTypes,
        ["    class_ = 'class'", "    class_ = 'class_'"] <:+ dataClass d
          ∧ ¬ (sizes.valueNames.map avoidKeyword).Nodup := by
  obtain ⟨d, hclass, hone⟩ := exists_class_of_leaf (alone sizes) (t := sizes) rfl rfl rfl rfl
  have hmembers : sizes.valueNames.map memberLine
      = ["    class_ = 'class'", "    class_ = 'class_'"] := by decide +kernel
  refine ⟨by decide, by decide, d, hone ▸ List.mem_singleton_self d, ?_, by decide⟩
  rw [hclass.dataClass_eq rfl, ← hmembers]
  exact memberLines_suffix_enumClass d _

/-! ## Modules of enum classes -/

/-- Enum classes that come out of any calls make a module whose file is made exactly if no enum is
named like a keyword, and no description has a null character. -/
theorem exists_enumsFile_iff {calls : List Call} {enums : List DataClass} {package : String}
    {typesPackage? : Option String}
    (henums : ∀ d ∈ enums, d ∈ (History.after ctx calls).total.dataTypes)
    (htypes : ∀ d ∈ enums, ∃ t, ctx.schema.findType? d.name = some t ∧ t.kind = .enum
      ∧ isName t.name = true ∧ ∀ v ∈ t.valueNames, isName v = true) :
    (∃ f, moduleFile {} typesPackage? ⟨package, .models enums⟩ = .ok f)
      ↔ ∀ d ∈ enums, d.name ∉ keywords
        ∧ ∀ text, d.description? = some text → '\x00' ∉ text.toList := by
  refine exists_moduleFile_enums_iff fun d hd => ?_
  obtain ⟨t, hfound, hkind, hname, hvalues⟩ := htypes d hd
  obtain ⟨u, selection?, hsame, hclass⟩ := History.exists_isClass calls (henums d hd)
  obtain rfl : u = t := Option.some.inj (hsame.symm.trans hfound)
  exact hclass.isNamedEnum hkind hname hvalues

end ClientGen
