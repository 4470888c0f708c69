import ClientGen.Naming.Shortener
import ClientGen.Proofs.Text.Case
import ClientGen.Proofs.Text.Parts
import Mathlib.Data.List.Forall2

/-!
# Short forms are one to one

A short form has at most one underscore, and a form that was made at a clash has two: the last part
of it belongs to a digest. So forms of the two kinds never meet. Two forms with digests meet only if
one digest begins with all of the other, and then the digests are the same.

* `Shortener.Consistent` is what every call keeps: who has which form, and how forms look.
* `shortForms_one_to_one` is what it comes to for any sequence of names.
-/

namespace ClientGen.Naming

open ClientGen.Text (parts)

variable {name short : String}

/-! ## How short forms look -/

private lemma singleton_underscore : String.singleton '_' = "_" := rfl

lemma underscore_not_mem_abbreviate {segment : String} (h : '_' ∉ segment.toList) :
    '_' ∉ (abbreviate segment).toList := by
  intro hmem
  obtain ⟨d, hd, hmapped | hsame⟩ := mem_abbreviate hmem
  · exact h (Text.eq_underscore_of_mem_upperOf hmapped ▸ hd)
  · exact h (hsame ▸ hd)

/-- A name of one part is its own short form; any other name has a short form of two parts. -/
lemma parts_shortForm (name : String) :
    parts '_' (shortForm name) = [name]
      ∨ ∃ head last, parts '_' (shortForm name) = [head, last] := by
  have hclean : ∀ part ∈ parts '_' name, '_' ∉ part.toList :=
    fun part hpart hmem => (Text.of_mem_parts hpart hmem).2 rfl
  unfold shortForm
  split
  · rename_i last before more hparts
    have hpart : ∀ part ∈ last :: before :: more, '_' ∉ part.toList :=
      fun part h => hclean part (List.mem_reverse.mp (hparts ▸ h))
    have hhead : '_' ∉ (String.join ((before :: more).reverse.map abbreviate)).toList := by
      rw [String.toList_join]
      intro hmem
      obtain ⟨short, hshort, hmem⟩ := List.mem_flatMap.mp hmem
      obtain ⟨segment, hsegment, rfl⟩ := List.mem_map.mp hshort
      have hbefore := hpart segment (List.mem_cons_of_mem _ (List.mem_reverse.mp hsegment))
      exact underscore_not_mem_abbreviate hbefore hmem
    right
    refine ⟨String.join ((before :: more).reverse.map abbreviate), last, ?_⟩
    rw [← singleton_underscore, Text.parts_append, Text.parts_of_not_mem hhead,
      Text.parts_of_not_mem (hpart last List.mem_cons_self)]
    rfl
  · rename_i hfew
    left
    -- a name with fewer than two parts is its only part
    cases hreverse : (parts '_' name).reverse with
    | nil => exact absurd (List.reverse_eq_nil_iff.mp hreverse) (Text.parts_ne_nil '_' name)
    | cons part more =>
      cases more with
      | cons other more => exact absurd hreverse (hfew part other more)
      | nil =>
        have hparts : parts '_' name = [part] := List.reverse_eq_iff.mp hreverse
        have hname := Text.intercalate_parts '_' name
        rw [hparts, String.intercalate_singleton] at hname
        rw [hparts, hname]

/-- A form that may be given out for a name: its short form, or one of three parts, of which the
last begins the digest of the name. -/
def IsFormOf (name short : String) : Prop :=
  short = shortForm name
    ∨ ∃ head last n, parts '_' short = [head, last, String.ofList ((Digest.Sha1.hex name).take n)]

/-- A form of one part is the name itself. -/
lemma IsFormOf.eq_of_parts (h : IsFormOf name short) {part : String}
    (hparts : parts '_' short = [part]) : name = part := by
  rcases h with rfl | ⟨head, last, n, hthree⟩
  · rcases parts_shortForm name with hone | ⟨head, last, htwo⟩
    · exact (List.cons.inj (hone.symm.trans hparts)).1
    · cases hparts.symm.trans htwo
  · cases hparts.symm.trans hthree

/-- The last part of a form of three parts begins the digest of the name. -/
lemma IsFormOf.digest (h : IsFormOf name short) {head last digest : String}
    (hparts : parts '_' short = [head, last, digest]) :
    ∃ n, digest = String.ofList ((Digest.Sha1.hex name).take n) := by
  rcases h with rfl | ⟨head', last', n, hthree⟩
  · rcases parts_shortForm name with hone | ⟨head', last', htwo⟩
    · cases hparts.symm.trans hone
    · cases hparts.symm.trans htwo
  · have hsame := hparts.symm.trans hthree
    simp only [List.cons.injEq] at hsame
    exact ⟨n, hsame.2.2.1⟩

/-- The whole of a digest begins only itself. -/
private lemma eq_of_take_eq {p q : String} {n m : ℕ} (hwhole : (Digest.Sha1.hex p).length ≤ n)
    (h : (Digest.Sha1.hex p).take n = (Digest.Sha1.hex q).take m) :
    Digest.Sha1.hex p = Digest.Sha1.hex q := by
  rw [List.take_of_length_le hwhole] at h
  have hlength := congrArg List.length h
  rw [List.length_take, Digest.Sha1.length_hex, Digest.Sha1.length_hex] at hlength
  rw [h, List.take_of_length_le]
  rw [Digest.Sha1.length_hex]
  omega

/-! ## What a call keeps -/

/-- Different names have different digests. -/
def DigestsApart (names : List String) : Prop :=
  ∀ p ∈ names, ∀ q ∈ names, Digest.Sha1.hex p = Digest.Sha1.hex q → p = q

instance (names : List String) : Decidable (DigestsApart names) :=
  inferInstanceAs (Decidable (∀ p ∈ names, ∀ q ∈ names, _ → p = q))

namespace Shortener

variable {names : List String} {s : Shortener}

/-- The two maps of a shortener say the same, forms look as they should, and only some names have
been asked for. -/
structure Consistent (names : List String) (s : Shortener) : Prop where
  inverse : ∀ name short,
    Entries.get? name s.byName = some short ↔ Entries.get? short s.byShort = some name
  formed : ∀ name short, Entries.get? name s.byName = some short → IsFormOf name short
  asked : ∀ name short, Entries.get? name s.byName = some short → name ∈ names

lemma consistent_start (names : List String) : Consistent names {} := by
  constructor
  · intro name short
    simp [Entries.get?]
  · intro name short h
    cases h
  · intro name short h
    cases h

/-- A name without a form gets one that is free. -/
theorem Consistent.newForm (h : s.Consistent names) (hapart : DigestsApart names)
    (hname : name ∈ names) (hnew : Entries.get? name s.byName = none) :
    IsFormOf name (s.newForm name) ∧ Entries.get? (s.newForm name) s.byShort = none := by
  cases hgiven : Entries.get? (shortForm name) s.byShort with
  | none =>
    rw [newForm_of_free hgiven]
    exact ⟨.inl rfl, hgiven⟩
  | some other =>
    obtain ⟨n, hform, hfree⟩ := newForm_of_given hgiven
    rcases parts_shortForm name with hone | ⟨head, last, htwo⟩
    · -- a form of one part can only have been given out for the name itself
      have hother := (h.inverse other (shortForm name)).mpr hgiven
      obtain rfl := (h.formed other _ hother).eq_of_parts hone
      rw [hnew] at hother
      cases hother
    · have hdigits : '_' ∉ (String.ofList ((Digest.Sha1.hex name).take n)).toList := by
        rw [String.toList_ofList]
        intro hmem
        have hdigit := Digest.Sha1.mem_hexDigits_of_mem_hex (List.mem_of_mem_take hmem)
        revert hdigit
        decide
      have hthree : parts '_' (s.newForm name)
          = [head, last, String.ofList ((Digest.Sha1.hex name).take n)] := by
        rw [hform, ← singleton_underscore, Text.parts_append, htwo, Text.parts_of_not_mem hdigits]
        rfl
      refine ⟨.inr ⟨head, last, n, hthree⟩, hfree.elim id fun hwhole => ?_⟩
      -- whoever had the form with the whole digest would have the same digest
      cases howner : Entries.get? (s.newForm name) s.byShort with
      | none => rfl
      | some owner =>
        have hhas := (h.inverse owner _).mpr howner
        obtain ⟨m, hdigest⟩ := (h.formed owner _ hhas).digest hthree
        have hsame := eq_of_take_eq hwhole (String.ofList_injective hdigest)
        obtain rfl := hapart name hname owner (h.asked owner _ hhas) hsame
        rw [hnew] at hhas
        cases hhas

/-- A name with a new form that is free. -/
lemma Consistent.put (h : s.Consistent names) (hname : name ∈ names)
    (hnew : Entries.get? name s.byName = none) (hform : IsFormOf name short)
    (hfree : Entries.get? short s.byShort = none) :
    Consistent names ⟨Entries.put name short s.byName, Entries.put short name s.byShort⟩ := by
  refine ⟨fun other form => ?_, fun other form hfound => ?_, fun other form hfound => ?_⟩
  · show Entries.get? other (Entries.put name short s.byName) = some form
      ↔ Entries.get? form (Entries.put short name s.byShort) = some other
    rw [Entries.get?_put, Entries.get?_put]
    by_cases hother : name = other
    · subst hother
      by_cases hsame : short = form
      · simp [hsame]
      · have hnone : Entries.get? form s.byShort ≠ some name :=
          fun hgiven => by rw [(h.inverse name form).mpr hgiven] at hnew; cases hnew
        simp [hsame, hnone]
    · by_cases hsame : short = form
      · subst hsame
        have hnone : Entries.get? other s.byName ≠ some short :=
          fun hgiven => by rw [(h.inverse other short).mp hgiven] at hfree; cases hfree
        simp [hother, hnone]
      · simpa [hother, hsame] using h.inverse other form
  · rw [Entries.get?_put] at hfound
    split at hfound
    · rename_i hsame
      rw [← hsame, ← Option.some.inj hfound]
      exact hform
    · exact h.formed other form hfound
  · rw [Entries.get?_put] at hfound
    split at hfound
    · rename_i hsame
      exact hsame ▸ hname
    · exact h.asked other form hfound

/-- A call keeps what there is, and its result is what is found under the name from then on. -/
theorem Consistent.shorten (h : s.Consistent names) (hapart : DigestsApart names)
    (hname : name ∈ names) :
    (s.shorten name).2.Consistent names
      ∧ Entries.get? name (s.shorten name).2.byName = some (s.shorten name).1
      ∧ ∀ other short, Entries.get? other s.byName = some short →
          Entries.get? other (s.shorten name).2.byName = some short := by
  unfold Shortener.shorten
  cases hgiven : Entries.get? name s.byName with
  | some short => exact ⟨h, hgiven, fun _ _ hother => hother⟩
  | none =>
    obtain ⟨hform, hfree⟩ := h.newForm hapart hname hgiven
    refine ⟨h.put hname hgiven hform hfree, ?_, fun other short hother => ?_⟩
    · show Entries.get? name (Entries.put name _ s.byName) = _
      rw [Entries.get?_put, if_pos rfl]
    · show Entries.get? other (Entries.put name _ s.byName) = _
      have hne : name ≠ other := by
        rintro rfl
        rw [hgiven] at hother
        cases hother
      rw [Entries.get?_put, if_neg hne]
      exact hother

/-! ## Sequences of calls -/

/-- The short forms of some names, one after the other, and the shortener that is then there. -/
def shortenAll (s : Shortener) : List String → List String × Shortener
  | [] => ([], s)
  | name :: more =>
    let (short, next) := s.shorten name
    let (shorts, last) := next.shortenAll more
    (short :: shorts, last)

/-- Any calls keep what there is, and every result is what is found under its name at the end. -/
theorem Consistent.shortenAll (h : s.Consistent names) (hapart : DigestsApart names)
    {asked : List String} (hasked : ∀ name ∈ asked, name ∈ names) :
    (s.shortenAll asked).2.Consistent names
      ∧ List.Forall₂ (fun name short =>
          Entries.get? name (s.shortenAll asked).2.byName = some short) asked (s.shortenAll asked).1
      ∧ ∀ other short, Entries.get? other s.byName = some short →
          Entries.get? other (s.shortenAll asked).2.byName = some short := by
  induction asked generalizing s with
  | nil => exact ⟨h, .nil, fun _ _ hother => hother⟩
  | cons name more ih =>
    obtain ⟨hnext, hfound, hkeeps⟩ := h.shorten hapart (hasked name List.mem_cons_self)
    obtain ⟨hlast, hresults, hkeepsAll⟩ :=
      ih hnext fun other hother => hasked other (List.mem_cons_of_mem _ hother)
    exact ⟨hlast, .cons (hkeepsAll name _ hfound) hresults,
      fun other short hother => hkeepsAll other short (hkeeps other short hother)⟩

end Shortener

open Shortener (shortenAll)

/-- Where no two names have the same digest, equal names have equal short forms and different names
have different ones, whatever is asked for and in whatever order. After any number of calls the two
maps are inverse to each other, and at the end each name has the form that every call for it
gave. -/
theorem shortForms_one_to_one {names : List String} (hapart : DigestsApart names) :
    (∀ (i j : ℕ) name name' short short', names[i]? = some name → names[j]? = some name' →
        (shortenAll {} names).1[i]? = some short → (shortenAll {} names).1[j]? = some short' →
        (short = short' ↔ name = name'))
      ∧ (∀ k name short, Entries.get? name (shortenAll {} (names.take k)).2.byName = some short
          ↔ Entries.get? short (shortenAll {} (names.take k)).2.byShort = some name)
      ∧ List.Forall₂ (fun name short =>
          Entries.get? name (shortenAll {} names).2.byName = some short)
        names (shortenAll {} names).1 := by
  have hstart := Shortener.consistent_start names
  obtain ⟨hconsistent, hresults, _⟩ := hstart.shortenAll hapart fun _ hname => hname
  refine ⟨?_, fun k => ?_, hresults⟩
  · intro i j name name' short short' hi hj hshort hshort'
    have hfound : ∀ {k : ℕ} {p r}, names[k]? = some p → (shortenAll {} names).1[k]? = some r →
        Entries.get? p (shortenAll {} names).2.byName = some r := by
      intro k p r hp hr
      obtain ⟨hk, rfl⟩ := List.getElem?_eq_some_iff.mp hp
      obtain ⟨hk', rfl⟩ := List.getElem?_eq_some_iff.mp hr
      exact hresults.get hk hk'
    have hname := hfound hi hshort
    have hname' := hfound hj hshort'
    constructor
    · rintro rfl
      -- the form stands for one name only
      have hback := (hconsistent.inverse name short).mp hname
      rw [(hconsistent.inverse name' short).mp hname'] at hback
      exact (Option.some.inj hback).symm
    · rintro rfl
      exact Option.some.inj (hname.symm.trans hname')
  · exact (hstart.shortenAll hapart fun _ hname => List.mem_of_mem_take hname).1.inverse

/-- Two names with the same short form, and the first of them again. -/
def agents : List String :=
  ["Movies_Actors_Agent", "Musicals_Authors_Agent", "Movies_Actors_Agent"]

/-- The second name gets eight digits of its digest, and the first one its form again; by its form
the second name is found. -/
theorem shortForms_one_to_one_agents :
    DigestsApart agents
      ∧ (shortenAll {} agents).1 = ["MA_Agent", "MA_Agent_4383fc52", "MA_Agent"]
      ∧ Entries.get? "MA_Agent_4383fc52" (shortenAll {} agents).2.byShort
        = some "Musicals_Authors_Agent" := by
  have hapart : DigestsApart agents := by decide +kernel
  have hshorts : (shortenAll {} agents).1 = ["MA_Agent", "MA_Agent_4383fc52", "MA_Agent"] := by
    decide +kernel
  obtain ⟨_, hinverse, hforms⟩ := shortForms_one_to_one hapart
  rw [hshorts] at hforms
  obtain ⟨_, hmore⟩ := List.forall₂_cons.mp hforms
  obtain ⟨hsecond, _⟩ := List.forall₂_cons.mp hmore
  exact ⟨hapart, hshorts, (hinverse agents.length _ _).mp hsecond⟩

end ClientGen.Naming
