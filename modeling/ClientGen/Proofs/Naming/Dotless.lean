import ClientGen.Projection.Emission
import ClientGen.Proofs.Text.Case
import ClientGen.Proofs.Text.Parts

/-!
# Names without dots

A qualified name is a package, a dot and a name. Packages have dots, names have none: a name of
the schema is a row of letters, digits and underscores, and what the generator makes of such names
adds no dot. So a qualified name can be taken apart again.

* `eq_of_qualified` takes qualified names apart.
* `Dotless.capitalized`, `Dotless.firstFree` and `Dotless.shorten` are the ways in which names are
  made of others.
-/

namespace ClientGen

/-- There is no dot in a text. -/
def Dotless (s : String) : Prop := '.' ∉ s.toList

instance (s : String) : Decidable (Dotless s) := inferInstanceAs (Decidable ('.' ∉ s.toList))

/-! ## Qualified names -/

private lemma eq_of_append_cons {a b x y : List Char} (hx : '.' ∉ x) (hy : '.' ∉ y)
    (h : a ++ '.' :: x = b ++ '.' :: y) : a = b ∧ x = y := by
  induction a generalizing b with
  | nil =>
    cases b with
    | nil => exact ⟨rfl, (List.cons.inj h).2⟩
    | cons d b =>
      -- the last dot of the one side would stand in the name of the other
      refine (hx ?_).elim
      rw [(List.cons.inj h).2]
      simp
  | cons c a ih =>
    cases b with
    | nil =>
      refine (hy ?_).elim
      rw [← (List.cons.inj h).2]
      simp
    | cons d b =>
      obtain ⟨rfl, htail⟩ := List.cons.inj h
      obtain ⟨rfl, rfl⟩ := ih htail
      exact ⟨rfl, rfl⟩

/-- A qualified name stands for one package and one name. -/
lemma eq_of_qualified {package package' name name' : String} (h : Dotless name)
    (h' : Dotless name') (heq : package ++ "." ++ name = package' ++ "." ++ name') :
    package = package' ∧ name = name' := by
  have hchars := congrArg String.toList heq
  have hdot : ".".toList = ['.'] := rfl
  simp only [String.toList_append, hdot, List.append_assoc, List.singleton_append] at hchars
  obtain ⟨hpackage, hname⟩ := eq_of_append_cons h h' hchars
  exact ⟨String.toList_injective hpackage, String.toList_injective hname⟩

namespace Dotless

variable {s t : String}

/-! ## Parts of names -/

lemma append (hs : Dotless s) (ht : Dotless t) : Dotless (s ++ t) := by
  unfold Dotless at hs ht ⊢
  simp [String.toList_append, hs, ht]

lemma of_chars {cs : List Char} (h : '.' ∉ cs) : Dotless (String.ofList cs) := by
  unfold Dotless
  simpa using h

/-! ## Case -/

lemma of_mem_upperOf {c : Char} (h : '.' ∈ Text.upperOf c) : c = '.' :=
  Text.eq_of_mem_mapped (by decide) (by decide +kernel) (by decide +kernel) h

lemma capitalized (h : Dotless s) : Dotless (Text.capitalized s) := by
  unfold Text.capitalized
  unfold Dotless at h
  split
  · decide
  · rename_i c cs hchars
    rw [hchars] at h
    apply of_chars
    intro hdot
    rcases List.mem_append.mp hdot with hdot | hdot
    · exact h (of_mem_upperOf hdot ▸ List.mem_cons_self)
    · exact h (List.mem_cons_of_mem _ hdot)

/-! ## Free names -/

lemma firstFree (h : Dotless s) (isTaken : String → Bool) (more : ℕ) :
    Dotless (Naming.firstFree isTaken more s) := by
  induction more generalizing s with
  | zero => exact h
  | succ more ih =>
    unfold Naming.firstFree
    split
    · exact ih (h.append (by decide))
    · exact h

/-! ## Short forms -/

lemma of_mem_parts {separator : Char} (h : Dotless s) (ht : t ∈ Text.parts separator s) :
    Dotless t :=
  fun hdot => h (Text.of_mem_parts ht hdot).1

lemma abbreviate (h : Dotless s) : Dotless (Naming.abbreviate s) := by
  intro hdot
  obtain ⟨d, hd, hmapped | hsame⟩ := Naming.mem_abbreviate hdot
  · exact h (of_mem_upperOf hmapped ▸ hd)
  · exact h (hsame ▸ hd)

lemma join {ss : List String} (h : ∀ s ∈ ss, Dotless s) : Dotless (String.join ss) := by
  unfold Dotless
  rw [String.toList_join]
  intro hdot
  obtain ⟨s, hs, hdot⟩ := List.mem_flatMap.mp hdot
  exact h s hs hdot

lemma shortForm (h : Dotless s) : Dotless (Naming.shortForm s) := by
  unfold Naming.shortForm
  split
  · rename_i last before more hparts
    have hall : ∀ t ∈ last :: before :: more, Dotless t := by
      intro t ht
      rw [← hparts, List.mem_reverse] at ht
      exact h.of_mem_parts ht
    refine (append (join fun t ht => ?_) (by decide)).append (hall last List.mem_cons_self)
    obtain ⟨segment, hsegment, rfl⟩ := List.mem_map.mp ht
    exact (hall segment (List.mem_cons_of_mem _ (List.mem_reverse.mp hsegment))).abbreviate
  · exact h

lemma newForm (h : Dotless s) (shortener : Naming.Shortener) :
    Dotless (shortener.newForm s) := by
  rcases shortener.newForm_cases s with hform | ⟨n, hform⟩
  · rw [hform]
    exact h.shortForm
  · rw [hform]
    refine (h.shortForm.append (by decide)).append (of_chars fun hdot => ?_)
    -- a digest has digits only
    have hdigit := Digest.Sha1.mem_hexDigits_of_mem_hex (List.mem_of_mem_take hdot)
    revert hdigit
    decide

end Dotless

/-- The short forms that have been given out have no dot. -/
def Naming.Shortener.Dotless (shortener : Naming.Shortener) : Prop :=
  ∀ name short, Entries.get? name shortener.byName = some short → ClientGen.Dotless short

lemma Naming.Shortener.dotless_start : Naming.Shortener.Dotless {} := by
  intro name short h
  cases h

/-- A short form has no dot, and the forms that are then given out have none either. -/
lemma Dotless.shorten {s : String} {shortener : Naming.Shortener} (h : Dotless s)
    (hgiven : shortener.Dotless) :
    Dotless (shortener.shorten s).1 ∧ (shortener.shorten s).2.Dotless := by
  unfold Naming.Shortener.shorten
  split
  · rename_i short hshort
    exact ⟨hgiven s short hshort, hgiven⟩
  · refine ⟨h.newForm shortener, fun name short hfound => ?_⟩
    rw [Entries.get?_put] at hfound
    split at hfound
    · obtain rfl := Option.some.inj hfound
      exact h.newForm shortener
    · exact hgiven name short hfound

/-- The names of the types and fields of a schema have no dot. -/
def Schema.Dotless (s : Schema) : Prop :=
  (∀ t ∈ s.types, ClientGen.Dotless t.name ∧ ∀ f ∈ t.fields, ClientGen.Dotless f.name)
    ∧ ∀ e ∈ s.extensions, ∀ f ∈ e.2, ClientGen.Dotless f.name

instance (s : Schema) : Decidable s.Dotless :=
  inferInstanceAs (Decidable ((∀ t ∈ s.types, ClientGen.Dotless t.name
    ∧ ∀ f ∈ t.fields, ClientGen.Dotless f.name)
      ∧ ∀ e ∈ s.extensions, ∀ f ∈ e.2, ClientGen.Dotless f.name))

lemma Schema.Dotless.type {s : Schema} (h : s.Dotless) {t : TypeDef} (ht : t ∈ s.types) :
    ClientGen.Dotless t.name :=
  (h.1 t ht).1

lemma Schema.Dotless.field {s : Schema} (h : s.Dotless) {type : String} {f : Field}
    (hf : f ∈ s.fieldsOf type) : ClientGen.Dotless f.name := by
  rcases Schema.declared_of_mem_fieldsOf hf with ⟨t, ht, hf⟩ | ⟨e, he, hf⟩
  · exact (h.1 t ht).2 f hf
  · exact h.2 e he f hf

end ClientGen
