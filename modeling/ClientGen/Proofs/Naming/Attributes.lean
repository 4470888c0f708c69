import ClientGen.Proofs.Naming.Identifiers

/-!
# Attributes of models

The attribute for a field is its name in snake case, with an underscore behind a keyword, without
underscores in front, and with underscores behind it until it is none of the attributes that a model
has anyway and none that is taken. It begins with a letter and is an identifier.

Keywords are avoided before the underscores in front are taken away. So an attribute is a keyword
exactly if the name is one behind underscores.

* `isAttribute_modelFieldName` is what an attribute always is.
* `modelFieldName_eq_keyword_iff` says which attributes are keywords.
* `attributeNames` are the attributes for some names, one after the other.
-/

namespace ClientGen.Naming

open ClientGen.Document.Token (isName isNameStart isNamePart)

variable {name keyword : String} {taken : List String}

/-! ## Public names -/

lemma publicName_cases (cs : List Char) :
    (∃ c rest, cs.dropWhile (· == '_') = c :: rest ∧ Text.isLetter c = true
        ∧ publicName cs = cs.dropWhile (· == '_'))
      ∨ publicName cs = "field_".toList ++ cs.dropWhile (· == '_') := by
  unfold publicName
  split
  · rename_i hempty
    rw [hempty]
    exact .inr rfl
  · rename_i c rest hrest
    rw [hrest]
    split
    · rename_i hletter
      exact .inl ⟨c, rest, rfl, hletter, rfl⟩
    · exact .inr rfl

/-- A public name begins with a letter. -/
lemma head_publicName (cs : List Char) :
    ∃ c rest, publicName cs = c :: rest ∧ Text.isLetter c = true := by
  rcases publicName_cases cs with ⟨c, rest, hrest, hletter, hsame⟩ | hfield
  · exact ⟨c, rest, hsame.trans hrest, hletter⟩
  · exact ⟨'f', "ield_".toList ++ cs.dropWhile (· == '_'), hfield, by decide +kernel⟩

lemma mem_publicName {c : Char} {cs : List Char} (h : c ∈ publicName cs) :
    c ∈ cs ∨ c ∈ "field_".toList := by
  have hkept : c ∈ cs.dropWhile (· == '_') → c ∈ cs := fun h => (List.dropWhile_suffix _).mem h
  rcases publicName_cases cs with ⟨_, _, _, _, hsame⟩ | hfield
  · exact .inl (hkept (hsame ▸ h))
  · rw [hfield] at h
    exact (List.mem_append.mp h).symm.imp_left hkept

/-! ## What an attribute is -/

/-- The attribute for a name before it is looked at whether it is free. -/
def attributeBase (name : String) : String :=
  String.ofList (publicName (avoidKeyword (snakeCase name)).toList)

lemma modelFieldName_eq (taken : List String) (name : String) :
    modelFieldName taken name
      = fresh taken (if modelAttributes.contains (attributeBase name) then attributeBase name ++ "_"
        else attributeBase name) := by
  unfold modelFieldName attributeBase
  rfl

/-- An attribute is the base with underscores behind it, with one at least behind an attribute that
a model has anyway. -/
lemma exists_underscores (taken : List String) (name : String) :
    ∃ k, modelFieldName taken name = candidate (attributeBase name) k
      ∧ (k = 0 → attributeBase name ∉ modelAttributes) := by
  rw [modelFieldName_eq]
  generalize attributeBase name = base
  split
  · obtain ⟨k, -, hk, -⟩ := fresh_eq_candidate taken (base ++ "_")
    exact ⟨k + 1, hk, nofun⟩
  · rename_i hfree
    obtain ⟨k, -, hk, -⟩ := fresh_eq_candidate taken base
    exact ⟨k, hk, fun _ => by simpa using hfree⟩

/-- No word that is avoided ends with an underscore. -/
lemma eq_zero_of_avoided {s base : String} {k : ℕ} (hs : s = candidate base k)
    (havoided : s ∈ modelAttributes ++ keywords) : k = 0 ∧ s = base := by
  have hlast : ∀ w ∈ modelAttributes ++ keywords, w.toList.getLast? ≠ some '_' := by decide
  obtain ⟨hk, hbase⟩ := eq_of_candidate hs.symm (hlast s havoided)
  exact ⟨hk, hbase.symm⟩

/-- An identifier that begins with a letter and hides no attribute that a model has anyway. -/
structure IsAttribute (s : String) : Prop where
  identifier : Text.isIdentifier s = true
  letter : ∃ c, s.toList.head? = some c ∧ Text.isLetter c = true
  unreserved : s ∉ modelAttributes

lemma isNamePart_of_mem_attributeBase (h : isName name = true) :
    ∀ c ∈ (attributeBase name).toList, isNamePart c = true := by
  have hsnake : ∀ c ∈ (snakeCase name).toList, isNamePart c = true :=
    fun c hc => isNamePart_of_mem_snakeCase (isNamePart_of_mem_name h) hc
  have havoid : ∀ c ∈ (avoidKeyword (snakeCase name)).toList, isNamePart c = true := by
    unfold avoidKeyword
    split
    · intro c hc
      rw [String.toList_append] at hc
      rcases List.mem_append.mp hc with hc | hc
      · exact hsnake c hc
      · rw [List.mem_singleton.mp hc]
        rfl
    · exact hsnake
  intro c hc
  unfold attributeBase at hc
  rw [String.toList_ofList] at hc
  rcases mem_publicName hc with hc | hc
  · exact havoid c hc
  · have hfield : "field_".toList.all isNamePart = true := by decide
    exact List.all_eq_true.mp hfield c hc

/-- Whatever is taken, the attribute for a name of the grammar is one. -/
theorem isAttribute_modelFieldName (h : isName name = true) (taken : List String) :
    IsAttribute (modelFieldName taken name) := by
  obtain ⟨k, hname, hzero⟩ := exists_underscores taken name
  obtain ⟨c, rest, hpublic, hletter⟩ := head_publicName (avoidKeyword (snakeCase name)).toList
  have hbase : (attributeBase name).toList = c :: rest := by
    rw [attributeBase, String.toList_ofList, hpublic]
  have hparts := isNamePart_of_mem_attributeBase h
  rw [hbase] at hparts
  have hstart : isNameStart c = true := by
    have hall := forall_isNamePart
      (p := fun d => !Text.isLetter d || isNameStart d) (by decide +kernel)
      (hparts c List.mem_cons_self)
    simpa [hletter] using hall
  have hgrammar : isName (attributeBase name) = true :=
    isName_of_toList hbase hstart fun d hd => hparts d (List.mem_cons_of_mem c hd)
  constructor
  · rw [hname]
    exact isIdentifier_candidate (isIdentifier_of_isName hgrammar) k
  · exact ⟨c, by rw [hname, toList_candidate, hbase]; rfl, hletter⟩
  · intro hreserved
    obtain ⟨hk, hsame⟩ := eq_zero_of_avoided hname (List.mem_append_left _ hreserved)
    exact hzero hk (hsame ▸ hreserved)

/-! ## Keywords behind underscores -/

/-- In snake case the name is a keyword with underscores in front. -/
def HidesKeyword (keyword name : String) : Prop :=
  snakeCase name ≠ keyword ∧ (snakeCase name).toList.dropWhile (· == '_') = keyword.toList

instance (keyword name : String) : Decidable (HidesKeyword keyword name) :=
  inferInstanceAs (Decidable (snakeCase name ≠ keyword ∧ _))

/-- A keyword has no underscore at either end, and begins with a letter. -/
lemma keyword_ends (h : keyword ∈ keywords) :
    ∃ c rest, keyword.toList = c :: rest ∧ c ≠ '_' ∧ Text.isLetter c = true := by
  have hall : ∀ w ∈ keywords, w.toList.head?.all (fun c => c != '_' && Text.isLetter c) = true
      ∧ w.toList ≠ [] := by decide +kernel
  obtain ⟨hhead, hne⟩ := hall keyword h
  cases hchars : keyword.toList with
  | nil => exact absurd hchars hne
  | cons c rest =>
    rw [hchars] at hhead
    exact ⟨c, rest, rfl, by simpa using hhead⟩

lemma dropWhile_of_keyword (h : keyword ∈ keywords) (cs : List Char) :
    (keyword.toList ++ cs).dropWhile (· == '_') = keyword.toList ++ cs := by
  obtain ⟨c, rest, hchars, hc, -⟩ := keyword_ends h
  rw [hchars, List.cons_append, List.dropWhile_cons_of_neg (by simpa using hc)]

lemma attributeBase_eq_keyword_iff (h : keyword ∈ keywords) :
    attributeBase name = keyword ↔ HidesKeyword keyword name := by
  obtain ⟨c, rest, hchars, hc, hletter⟩ := keyword_ends h
  have hnofield : ∀ w ∈ keywords, ¬ "field_".toList <+: w.toList := by decide
  constructor
  · intro hbase
    have hpublic : publicName (avoidKeyword (snakeCase name)).toList = keyword.toList := by
      rw [← hbase, attributeBase, String.toList_ofList]
    have hstripped : (avoidKeyword (snakeCase name)).toList.dropWhile (· == '_')
        = keyword.toList := by
      rcases publicName_cases (avoidKeyword (snakeCase name)).toList with
        ⟨_, _, _, _, hsame⟩ | hfield
      · exact hsame.symm.trans hpublic
      · exact absurd ⟨_, hfield.symm.trans hpublic⟩ (hnofield keyword h)
    unfold avoidKeyword at hstripped
    split at hstripped
    · rename_i hcontains
      -- a keyword that was avoided has an underscore at its end
      have hmem : snakeCase name ∈ keywords := by simpa using hcontains
      rw [String.toList_append, dropWhile_of_keyword hmem, ← String.toList_append] at hstripped
      have hnone := eq_zero_of_avoided (k := 1) (String.toList_injective hstripped).symm
        (List.mem_append_right _ h)
      exact absurd hnone.1 one_ne_zero
    · rename_i hother
      refine ⟨?_, hstripped⟩
      rintro rfl
      exact hother (by simpa using h)
  · rintro ⟨hne, hstripped⟩
    have hother : snakeCase name ∉ keywords := by
      intro hmem
      -- a keyword has no underscores in front that could be taken away
      have hkept := dropWhile_of_keyword hmem []
      rw [List.append_nil, hstripped] at hkept
      exact hne (String.toList_injective hkept.symm)
    have havoid : avoidKeyword (snakeCase name) = snakeCase name := by
      unfold avoidKeyword
      rw [if_neg (by simpa using hother)]
    apply String.toList_injective
    rw [attributeBase, String.toList_ofList, havoid, publicName, hstripped, hchars]
    exact if_pos hletter

/-- The attribute for a name is a keyword exactly if the name hides the keyword and the keyword is
not taken. -/
theorem modelFieldName_eq_keyword_iff (h : keyword ∈ keywords) :
    modelFieldName taken name = keyword ↔ keyword ∉ taken ∧ HidesKeyword keyword name := by
  rw [← attributeBase_eq_keyword_iff h]
  constructor
  · rintro rfl
    obtain ⟨k, hname, -⟩ := exists_underscores taken name
    obtain ⟨-, hsame⟩ := eq_zero_of_avoided hname (List.mem_append_right _ h)
    exact ⟨fresh_not_mem taken _, hsame.symm⟩
  · rintro ⟨hfree, hbase⟩
    have hapart : ∀ w ∈ keywords, w ∉ modelAttributes := by decide
    rw [modelFieldName_eq, hbase, if_neg (by simpa using hapart keyword h),
      fresh_of_not_mem hfree]

/-! ## Attributes one after the other -/

/-- The attributes for some names, where each is taken from then on. -/
def attributeNames (taken : List String) : List String → List String
  | [] => []
  | name :: more =>
    let own := modelFieldName taken name
    own :: attributeNames (own :: taken) more

lemma attributeNames_eq (taken names : List String) :
    attributeNames taken names = givenNames modelFieldName taken names := by
  induction names generalizing taken with
  | nil => rfl
  | cons name more ih => exact congrArg (List.cons _) (ih _)

lemma apartFrom_attributeNames (taken names : List String) :
    ApartFrom taken (attributeNames taken names) :=
  attributeNames_eq taken names ▸ apartFrom_givenNames (fun taken _ => fresh_not_mem taken _) ..

lemma not_mem_taken {names : List String} {own : String} (h : own ∈ attributeNames taken names) :
    own ∉ taken :=
  (apartFrom_attributeNames taken names).free own h

/-- No two attributes are the same, whatever the names are. -/
theorem nodup_attributeNames (taken names : List String) : (attributeNames taken names).Nodup :=
  (apartFrom_attributeNames taken names).nodup

lemma isAttribute_of_mem {names : List String} (h : ∀ name ∈ names, isName name = true)
    {own : String} (hown : own ∈ attributeNames taken names) : IsAttribute own := by
  rw [attributeNames_eq] at hown
  exact forall_givenNames (fun name hname => isAttribute_modelFieldName (h name hname)) own hown

/-- A keyword is among the attributes exactly if one of the names hides it. -/
theorem keyword_mem_attributeNames (h : keyword ∈ keywords) (hfree : keyword ∉ taken)
    {names : List String} :
    keyword ∈ attributeNames taken names ↔ ∃ name ∈ names, HidesKeyword keyword name := by
  rw [attributeNames_eq]
  exact (mem_givenNames_iff modelFieldName fun _ _ =>
    modelFieldName_eq_keyword_iff h).trans (and_iff_right hfree)

end ClientGen.Naming
