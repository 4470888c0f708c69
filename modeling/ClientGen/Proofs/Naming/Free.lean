import ClientGen.Naming.Unique
import Mathlib.Data.Finset.Card

/-!
# Free names are found

`firstFree` tries a name with no underscore at its end, with one, with two, and so on. The
candidates are all different, so of one more than there are names taken, one is free.

* `fresh_eq_candidate` says how many underscores a fresh name has.
* `givenNames` are names that are given out one after the other, and `ApartFrom` is what they are.
-/

namespace ClientGen.Naming

/-- The name with some underscores at its end. -/
def candidate (name : String) : ℕ → String
  | 0 => name
  | k + 1 => candidate (name ++ "_") k

lemma length_candidate (name : String) (k : ℕ) :
    (candidate name k).length = name.length + k := by
  induction k generalizing name with
  | zero => rfl
  | succ k ih =>
    have hone : "_".length = 1 := rfl
    rw [candidate, ih, String.length_append, hone]
    omega

lemma candidate_injective (name : String) : Function.Injective (candidate name) := by
  intro j k h
  have hlength := congrArg String.length h
  rw [length_candidate, length_candidate] at hlength
  omega

lemma toList_candidate (name : String) (k : ℕ) :
    (candidate name k).toList = name.toList ++ List.replicate k '_' := by
  induction k generalizing name with
  | zero => rw [candidate, List.replicate_zero, List.append_nil]
  | succ k ih =>
    have hone : "_".toList = ['_'] := rfl
    rw [candidate, ih, String.toList_append, hone, List.append_assoc]
    rfl

/-- A name that does not end with an underscore is a candidate for itself alone. -/
lemma eq_of_candidate {name s : String} {k : ℕ} (h : candidate name k = s)
    (hs : s.toList.getLast? ≠ some '_') : k = 0 ∧ name = s := by
  cases k with
  | zero => exact ⟨rfl, h⟩
  | succ k =>
    refine absurd ?_ hs
    rw [← h, toList_candidate, List.replicate_succ', ← List.append_assoc, List.getLast?_concat]

/-- What is found is one of the candidates that are tried, and those before it are taken. -/
lemma exists_candidate (isTaken : String → Bool) (more : ℕ) (name : String) :
    ∃ k ≤ more, firstFree isTaken more name = candidate name k
      ∧ ∀ j < k, isTaken (candidate name j) = true := by
  induction more generalizing name with
  | zero => exact ⟨0, Nat.le_refl 0, rfl, fun j hj => absurd hj (Nat.not_lt_zero j)⟩
  | succ more ih =>
    unfold firstFree
    split
    · rename_i htaken
      obtain ⟨k, hk, hfound, hbefore⟩ := ih (name ++ "_")
      refine ⟨k + 1, Nat.succ_le_succ hk, hfound, fun j hj => ?_⟩
      cases j with
      | zero => exact htaken
      | succ j => exact hbefore j (Nat.lt_of_succ_lt_succ hj)
    · exact ⟨0, Nat.zero_le _, rfl, fun j hj => absurd hj (Nat.not_lt_zero j)⟩

/-- If one of the candidates is free, so is the one that is taken. -/
lemma firstFree_eq_false {isTaken : String → Bool} {more k : ℕ} {name : String} (hk : k ≤ more)
    (h : isTaken (candidate name k) = false) : isTaken (firstFree isTaken more name) = false := by
  induction more generalizing name k with
  | zero =>
    obtain rfl : k = 0 := by omega
    exact h
  | succ more ih =>
    unfold firstFree
    split
    · rename_i htaken
      -- the first candidate is taken, so the free one comes later
      cases k with
      | zero => rw [candidate, htaken] at h; cases h
      | succ k => exact ih (Nat.le_of_succ_le_succ hk) h
    · rename_i hfree
      simpa using hfree

/-- Where the same candidates are taken, the same one is found, however many are tried, as long as
one is found that is free. -/
lemma firstFree_congr {isTaken isTaken' : String → Bool} {more more' : ℕ} {name : String}
    (h : ∀ k, isTaken' (candidate name k) = isTaken (candidate name k))
    (hfree : isTaken (firstFree isTaken more name) = false)
    (hfree' : isTaken' (firstFree isTaken' more' name) = false) :
    firstFree isTaken' more' name = firstFree isTaken more name := by
  induction more generalizing name more' with
  | zero =>
    -- without another try the name itself is free
    have hname : isTaken' name = false := (h 0).trans hfree
    cases more' with
    | zero => rfl
    | succ more' => simp only [firstFree, hname, Bool.false_eq_true, if_false]
  | succ more ih =>
    have hfirst : isTaken' name = isTaken name := h 0
    cases more' with
    | zero =>
      have hname : isTaken name = false := hfirst.symm.trans hfree'
      simp only [firstFree, hname, Bool.false_eq_true, if_false]
    | succ more' =>
      unfold firstFree at hfree hfree' ⊢
      rw [hfirst] at hfree' ⊢
      by_cases htaken : isTaken name = true
      · rw [if_pos htaken] at hfree hfree' ⊢
        rw [if_pos htaken]
        exact ih (fun k => h (k + 1)) hfree hfree'
      · rw [if_neg htaken, if_neg htaken]

/-- Among one more candidates than there are names, one stands for none of the names. -/
lemma exists_candidate_not_mem {g : String → String} (hg : Function.Injective g)
    (names : List String) (name : String) :
    ∃ k ≤ names.length, g (candidate name k) ∉ names := by
  classical
  have hinj : Function.Injective fun k => g (candidate name k) :=
    hg.comp (candidate_injective name)
  let tried := (Finset.range (names.length + 1)).image fun k => g (candidate name k)
  have htried : tried.card = names.length + 1 := by
    show ((Finset.range (names.length + 1)).image fun k => g (candidate name k)).card = _
    rw [Finset.card_image_of_injective _ hinj, Finset.card_range]
  have hcard : names.toFinset.card < tried.card := by
    have hle := List.toFinset_card_le names
    omega
  obtain ⟨s, hs, hnot⟩ := Finset.exists_mem_notMem_of_card_lt_card hcard
  obtain ⟨k, hk, rfl⟩ := Finset.mem_image.mp hs
  refine ⟨k, ?_, by simpa using hnot⟩
  have hlt := Finset.mem_range.mp hk
  omega

/-- The name that is found stands for none of the names that are given out, where names are given
out for what they stand for. -/
theorem firstFree_not_mem {g : String → String} (hg : Function.Injective g)
    (names : List String) (name : String) :
    g (firstFree (fun s => names.contains (g s)) names.length name) ∉ names := by
  obtain ⟨k, hk, hfree⟩ := exists_candidate_not_mem hg names name
  let isTaken : String → Bool := fun s => names.contains (g s)
  have hcandidate : isTaken (candidate name k) = false := by simpa [isTaken] using hfree
  have hfirst := firstFree_eq_false hk hcandidate
  simpa [isTaken] using hfirst

/-! ## Fresh names -/

lemma fresh_not_mem (taken : List String) (name : String) : fresh taken name ∉ taken :=
  firstFree_not_mem Function.injective_id taken name

/-- A name that is not taken is left as it is. -/
lemma fresh_of_not_mem {taken : List String} {name : String} (h : name ∉ taken) :
    fresh taken name = name := by
  have hfree : taken.contains name = false := by simpa using h
  unfold fresh
  cases taken with
  | nil => rfl
  | cons t ts =>
    rw [List.length_cons, firstFree, hfree]
    rfl

/-- Underscores are added only until a name is not taken, and no more of them than there are names
taken. -/
theorem fresh_eq_candidate (taken : List String) (name : String) :
    ∃ k ≤ taken.length, fresh taken name = candidate name k ∧ candidate name k ∉ taken
      ∧ ∀ j < k, candidate name j ∈ taken := by
  obtain ⟨k, hk, hfound, hbefore⟩ := exists_candidate taken.contains taken.length name
  refine ⟨k, hk, hfound, ?_, fun j hj => by simpa using hbefore j hj⟩
  rw [← hfound]
  exact fresh_not_mem taken name

/-! ## Names apart -/

/-- Different names, none of which is taken. -/
structure ApartFrom (taken names : List String) : Prop where
  nodup : names.Nodup
  free : ∀ n ∈ names, n ∉ taken

namespace ApartFrom

variable {taken names : List String} {own : String}

lemma nil : ApartFrom taken [] :=
  ⟨List.nodup_nil, fun _ hn => (List.not_mem_nil hn).elim⟩

/-- A free name, and then others for which it is taken. -/
lemma cons (hown : own ∉ taken) (h : ApartFrom (own :: taken) names) :
    ApartFrom taken (own :: names) := by
  refine ⟨List.nodup_cons.mpr ⟨fun hmem => ?_, h.nodup⟩, fun n hn => ?_⟩
  · exact h.free own hmem List.mem_cons_self
  · rcases List.mem_cons.mp hn with rfl | hn
    · exact hown
    · exact fun hmem => h.free n hn (List.mem_cons_of_mem own hmem)

end ApartFrom

/-! ## Names given out one after the other -/

/-- The names that are given for some others, where each is taken from then on. -/
def givenNames (give : List String → String → String) (taken : List String) :
    List String → List String
  | [] => []
  | name :: more =>
    let own := give taken name
    own :: givenNames give (own :: taken) more

section

variable {give : List String → String → String} {taken names : List String}

/-- If each name is free when it is given, no two of them are the same. -/
lemma apartFrom_givenNames (hfree : ∀ taken name, give taken name ∉ taken)
    (taken names : List String) : ApartFrom taken (givenNames give taken names) := by
  induction names generalizing taken with
  | nil => exact .nil
  | cons name more ih => exact (ih _).cons (hfree taken name)

/-- What holds of a name whatever is taken holds of all that are given. -/
lemma forall_givenNames {P : String → Prop} (h : ∀ name ∈ names, ∀ taken, P (give taken name)) :
    ∀ own ∈ givenNames give taken names, P own := by
  induction names generalizing taken with
  | nil => exact List.forall_mem_nil _
  | cons name more ih =>
    obtain ⟨hname, hmore⟩ := List.forall_mem_cons.mp h
    exact List.forall_mem_cons.mpr ⟨hname taken, ih hmore⟩

/-- If it is known for what a word is given while it is free, the word is among the names exactly if
it is free and is given for one of them. -/
lemma mem_givenNames_iff (give : List String → String → String) {word : String}
    {asks : String → Prop}
    (h : ∀ taken name, give taken name = word ↔ word ∉ taken ∧ asks name) :
    word ∈ givenNames give taken names ↔ word ∉ taken ∧ ∃ name ∈ names, asks name := by
  induction names generalizing taken with
  | nil => simp [givenNames]
  | cons name more ih =>
    have hown : word = give taken name ↔ word ∉ taken ∧ asks name := eq_comm.trans (h taken name)
    rw [givenNames, List.mem_cons, ih, List.exists_mem_cons_iff]
    constructor
    · rintro (hw | ⟨hfree, hmore⟩)
      · exact ⟨(hown.mp hw).1, .inl (hown.mp hw).2⟩
      · exact ⟨fun hmem => hfree (List.mem_cons_of_mem _ hmem), .inr hmore⟩
    · rintro ⟨hfree, hasks | hmore⟩
      · exact .inl (hown.mpr ⟨hfree, hasks⟩)
      · by_cases hw : word = give taken name
        · exact .inl hw
        · exact .inr ⟨fun hmem => (List.mem_cons.mp hmem).elim hw hfree, hmore⟩

end

end ClientGen.Naming
