/-!
# Entries in insertion order

A finite map that remembers in which order its keys came: a list of pairs. Putting a value
under a key that is there already keeps the key's place.
-/

namespace ClientGen.Entries

variable {α : Type}

/-- The value under a key. -/
def get? (key : String) : List (String × α) → Option α
  | [] => none
  | (k, a) :: rest => if k = key then some a else get? key rest

/-- Puts a value under a key, at the key's place or else at the end. -/
def put (key : String) (value : α) : List (String × α) → List (String × α)
  | [] => [(key, value)]
  | (k, a) :: rest => if k = key then (key, value) :: rest else (k, a) :: put key value rest

/-- Leaves a key out. -/
def erase (key : String) (entries : List (String × α)) : List (String × α) :=
  entries.filter (·.1 ≠ key)

/-- Puts the entries of a list one after the other. -/
def ofList (entries : List (String × α)) : List (String × α) :=
  entries.foldl (fun es e => put e.1 e.2 es) []

/-! ## What is found -/

theorem get?_put (key : String) (value : α) (es : List (String × α)) (k : String) :
    get? k (put key value es) = if key = k then some value else get? k es := by
  induction es with
  | nil => simp [put, get?]
  | cons e rest ih =>
    obtain ⟨k', a⟩ := e
    by_cases h : k' = key
    · subst h
      by_cases hk : k' = k <;> simp [put, get?, hk]
    · rw [put, if_neg h]
      by_cases hk : k' = k
      · subst hk
        simp [get?, Ne.symm h]
      · simp [get?, hk, ih]

theorem get?_erase (key : String) (es : List (String × α)) (k : String) :
    get? k (erase key es) = if key = k then none else get? k es := by
  induction es with
  | nil => simp [erase, get?]
  | cons e rest ih =>
    obtain ⟨k', a⟩ := e
    unfold erase at ih ⊢
    by_cases h : k' = key
    · subst h
      rw [List.filter_cons_of_neg (by simp), ih]
      by_cases hk : k' = k
      · rw [if_pos hk, if_pos hk]
      · rw [if_neg hk, if_neg hk, get?, if_neg hk]
    · rw [List.filter_cons_of_pos (by simp [h])]
      by_cases hk : k' = k
      · subst hk
        simp [get?, Ne.symm h]
      · rw [get?, if_neg hk, get?, if_neg hk, ih]

theorem mem_of_get?_eq_some {key : String} {a : α} {es : List (String × α)}
    (h : get? key es = some a) : (key, a) ∈ es := by
  induction es with
  | nil => cases h
  | cons e rest ih =>
    obtain ⟨k, b⟩ := e
    rw [get?] at h
    split at h
    · rename_i hk
      cases h
      rw [hk]
      exact List.mem_cons_self
    · exact List.mem_cons_of_mem _ (ih h)

/-- With different keys, each entry is what is found under its key. -/
theorem get?_of_mem {es : List (String × α)} (hnodup : (es.map (·.1)).Nodup) {key : String} {a : α}
    (h : (key, a) ∈ es) : get? key es = some a := by
  induction es with
  | nil => cases h
  | cons e rest ih =>
    obtain ⟨k, b⟩ := e
    rw [List.map_cons, List.nodup_cons] at hnodup
    rcases List.mem_cons.mp h with heq | hrest
    · cases heq
      rw [get?, if_pos rfl]
    · have hne : k ≠ key := fun heq => hnodup.1 (List.mem_map.mpr ⟨(key, a), hrest, heq.symm⟩)
      rw [get?, if_neg hne]
      exact ih hnodup.2 hrest

/-! ## Entries put one after the other -/

theorem keys_put (key : String) (value : α) (es : List (String × α)) :
    (put key value es).map (·.1)
      = if key ∈ es.map (·.1) then es.map (·.1) else es.map (·.1) ++ [key] := by
  induction es with
  | nil => rfl
  | cons e rest ih =>
    obtain ⟨k, a⟩ := e
    by_cases h : k = key
    · simp [put, h]
    · rw [put, if_neg h, List.map_cons, ih]
      by_cases hmem : key ∈ rest.map (·.1)
      · simp [hmem]
      · simp [hmem, Ne.symm h]

theorem ofList_concat (es : List (String × α)) (e : String × α) :
    ofList (es ++ [e]) = put e.1 e.2 (ofList es) := by
  rw [ofList, List.foldl_append]
  rfl

/-- The keys stand where they came first. -/
theorem keys_ofList (es : List (String × α)) :
    (ofList es).map (·.1) = (es.map (·.1)).eraseDups := by
  rw [← List.reverse_reverse es]
  induction es.reverse with
  | nil => rfl
  | cons e rest ih =>
    rw [List.reverse_cons, ofList_concat, keys_put, ih, List.map_append, List.eraseDups_append]
    by_cases h : e.1 ∈ rest.reverse.map (·.1)
    · rw [if_pos (List.mem_eraseDups.mpr h)]
      simp only [List.map_cons, List.map_nil]
      rw [List.removeAll, List.filter_cons_of_neg (by simpa using h)]
      simp
    · rw [if_neg (fun hmem => h (List.mem_eraseDups.mp hmem))]
      simp only [List.map_cons, List.map_nil]
      rw [List.removeAll, List.filter_cons_of_pos (by simpa using h)]
      rfl

theorem nodup_keys_ofList (es : List (String × α)) : ((ofList es).map (·.1)).Nodup := by
  rw [← List.reverse_reverse es]
  induction es.reverse with
  | nil => exact List.nodup_nil
  | cons e rest ih =>
    rw [List.reverse_cons, ofList_concat, keys_put]
    split
    · exact ih
    · rename_i hnew
      refine List.nodup_append.mpr ⟨ih, by simp, fun key hkey other hother heq => hnew ?_⟩
      rw [← List.mem_singleton.mp hother, ← heq]
      exact hkey

/-- Under a key is what was put there last. -/
theorem get?_ofList (key : String) (es : List (String × α)) :
    get? key (ofList es) = get? key es.reverse := by
  rw [← List.reverse_reverse es]
  induction es.reverse with
  | nil => rfl
  | cons e rest ih =>
    rw [List.reverse_cons, ofList_concat, get?_put, ih, ← List.reverse_cons,
      List.reverse_reverse, List.reverse_reverse]
    rfl

/-- No entry is there that was not put. -/
theorem mem_of_mem_ofList {e : String × α} {es : List (String × α)} (h : e ∈ ofList es) :
    e ∈ es := by
  have hget := get?_of_mem (nodup_keys_ofList es) h
  rw [get?_ofList] at hget
  exact List.mem_reverse.mp (mem_of_get?_eq_some hget)

end ClientGen.Entries
