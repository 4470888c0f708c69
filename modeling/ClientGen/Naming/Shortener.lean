import ClientGen.Digest.Sha1
import ClientGen.Entries
import ClientGen.Text.Case
import ClientGen.Text.Split

/-!
# Short class names

The name of a nested projection lists the fields on the way to it: `Movies_Actors_Agent`. In
its short form all segments but the last are reduced to their capitals: `MA_Agent`. Where two
names have the same short form, the later one gets a part of its digest at the end.
-/

namespace ClientGen.Naming

/-- A segment reduced to its first character, in upper case, and its further capitals. -/
def abbreviate (segment : String) : String :=
  match segment.toList with
  | [] => ""
  | c :: cs => String.ofList (Text.upperOf c ++ cs.filter Text.isUpper)

/-- A character of an abbreviation comes from one of the segment. -/
theorem mem_abbreviate {segment : String} {c : Char} (h : c ∈ (abbreviate segment).toList) :
    ∃ d ∈ segment.toList, c ∈ Text.upperOf d ∨ c = d := by
  unfold abbreviate at h
  split at h
  · cases h
  · rename_i d ds hchars
    rw [hchars]
    rw [String.toList_ofList] at h
    rcases List.mem_append.mp h with h | h
    · exact ⟨d, List.mem_cons_self, .inl h⟩
    · exact ⟨c, List.mem_cons_of_mem _ (List.mem_filter.mp h).1, .inr rfl⟩

/-- The short form of a name before any clash is looked at. -/
def shortForm (name : String) : String :=
  match (Text.parts '_' name).reverse with
  | last :: before :: more =>
    String.join ((before :: more).reverse.map abbreviate) ++ "_" ++ last
  | _ => name

/-- The short forms given out so far, by name, and the names they stand for. -/
structure Shortener where
  byName : List (String × String) := []
  byShort : List (String × String) := []
deriving Repr, Inhabited

namespace Shortener

/-- The form with the first `length` digits of a digest. -/
private def withDigest (form : String) (digest : List Char) (length : Nat) : String :=
  form ++ "_" ++ String.ofList (digest.take length)

/-- The first form that is free, with four more digits at every try. -/
private def disambiguated (s : Shortener) (form : String) (digest : List Char) :
    Nat → Nat → String
  | 0, length => withDigest form digest length
  | tries + 1, length =>
    let result := withDigest form digest length
    if (Entries.get? result s.byShort).isSome && length < digest.length then
      disambiguated s form digest tries (length + 4)
    else result

/-- The short form of a name that has none yet: at a clash, with eight or more digits of the
name's digest. -/
def newForm (s : Shortener) (name : String) : String :=
  let form := shortForm name
  match Entries.get? form s.byShort with
  | none => form
  | some _ => disambiguated s form (Digest.Sha1.hex name) 8 8

private theorem disambiguated_spec (s : Shortener) (form : String) (digest : List Char)
    (tries length : Nat) (h : digest.length ≤ length + 4 * tries) :
    ∃ n, s.disambiguated form digest tries length = withDigest form digest n
      ∧ (Entries.get? (withDigest form digest n) s.byShort = none ∨ digest.length ≤ n) := by
  induction tries generalizing length with
  | zero => exact ⟨length, rfl, .inr h⟩
  | succ tries ih =>
    rw [disambiguated]
    split
    · exact ih (length + 4) (by omega)
    · rename_i hstop
      refine ⟨length, rfl, ?_⟩
      cases hgiven : Entries.get? (withDigest form digest length) s.byShort with
      | none => exact .inl rfl
      | some _ =>
        -- the tries stop at a form that is given out only if there are no more digits
        rw [hgiven] at hstop
        exact .inr (by simpa using hstop)

/-- A short form that is free is given out as it is. -/
theorem newForm_of_free {s : Shortener} {name : String}
    (h : Entries.get? (shortForm name) s.byShort = none) : s.newForm name = shortForm name := by
  unfold newForm
  simp only [h]

/-- After a clash some digits of the digest stand at the end, all of them if that is what it
takes. -/
theorem newForm_of_given {s : Shortener} {name other : String}
    (h : Entries.get? (shortForm name) s.byShort = some other) :
    ∃ n, s.newForm name
        = shortForm name ++ "_" ++ String.ofList ((Digest.Sha1.hex name).take n)
      ∧ (Entries.get? (s.newForm name) s.byShort = none
        ∨ (Digest.Sha1.hex name).length ≤ n) := by
  have hlength : (Digest.Sha1.hex name).length ≤ 8 + 4 * 8 :=
    Nat.le_of_eq (Digest.Sha1.length_hex name)
  obtain ⟨n, hform, hfree⟩ := disambiguated_spec s (shortForm name) _ 8 8 hlength
  have hnew : s.newForm name = withDigest (shortForm name) (Digest.Sha1.hex name) n := by
    unfold newForm
    simp only [h]
    exact hform
  exact ⟨n, hnew, hnew ▸ hfree⟩

/-- A new short form has some digits of the digest at its end, or none. -/
theorem newForm_cases (s : Shortener) (name : String) :
    s.newForm name = shortForm name
      ∨ ∃ n, s.newForm name
          = shortForm name ++ "_" ++ String.ofList ((Digest.Sha1.hex name).take n) := by
  cases hgiven : Entries.get? (shortForm name) s.byShort with
  | none => exact .inl (newForm_of_free hgiven)
  | some _ =>
    obtain ⟨n, hform, _⟩ := newForm_of_given hgiven
    exact .inr ⟨n, hform⟩

/-- The short form of a name, which is the same every time. -/
def shorten (s : Shortener) (name : String) : String × Shortener :=
  match Entries.get? name s.byName with
  | some short => (short, s)
  | none =>
    let short := s.newForm name
    (short, ⟨Entries.put name short s.byName, Entries.put short name s.byShort⟩)

end Shortener

end ClientGen.Naming
