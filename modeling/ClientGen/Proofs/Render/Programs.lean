import ClientGen.Proofs.Render.Descriptions
import ClientGen.Proofs.Source.Statements
import ClientGen.Render.Package

/-!
# Rendered modules are programs

An output is rendered only if the text of each of its modules is a program, and has no null
character. Both can be looked up in the characters of the lines.

* `exists_render_iff` says when an output is rendered.
* `isProgram_of_areProgram` leads from the characters of a module to the module as a program.
-/

namespace ClientGen.Render

open ClientGen.Source

/-! ## The characters of lines -/

/-- The characters of some lines. -/
def lineChars (lines : List String) : List Char :=
  lines.flatMap fun line => line.toList ++ ['\n']

lemma toList_textOfLines (lines : List String) : (textOfLines lines).toList = lineChars lines := by
  simp [textOfLines, lineChars, String.toList_join, List.flatMap_map]

lemma mem_textOfLines {ch : Char} (hch : ch ≠ '\n') {lines : List String} :
    ch ∈ (textOfLines lines).toList ↔ ∃ line ∈ lines, ch ∈ line.toList := by
  simp [toList_textOfLines, lineChars, hch]

/-- Lines without carriage returns stay as they are. -/
lemma toList_unixLines_append {lines : List String} (h : ∀ line ∈ lines, '\r' ∉ line.toList)
    (more : List String) :
    (unixLines (textOfLines (lines ++ more))).toList
      = lineChars lines ++ (unixLines (textOfLines more)).toList := by
  induction lines with
  | nil => simp [lineChars]
  | cons line lines ih =>
    obtain ⟨hline, hlines⟩ := List.forall_mem_cons.mp h
    have hlast : line.toList.getLast? ≠ some '\r' := fun h => hline (List.mem_of_getLast? h)
    rw [List.cons_append, toList_unixLines_cons _ hlast, unixLines_go_of_not_mem hline, ih hlines]
    simp [lineChars]

/-- The characters are read as statements, without format strings, and none of them is a carriage
return or a null character. -/
def areProgram (cs : List Char) : Bool :=
  cs.all (fun ch => ch != '\r' && ch != '\x00')
    && (tokensFrom? (2 * cs.length + 3) {} cs).any fun ts =>
      ts.all (·.slots.isEmpty) && areStatements ts

/-- Whether lines are a program can be looked up in their characters. -/
lemma isProgram_of_areProgram {lines : List String} (h : areProgram (lineChars lines) = true) :
    '\x00' ∉ (textOfLines lines).toList ∧ isProgram (textOfLines lines) = true := by
  obtain ⟨hchars, hread⟩ := Bool.and_eq_true_iff.mp h
  obtain ⟨ts, hts, hform⟩ := (Option.any_eq_true _ _).mp hread
  obtain ⟨hslots, hstatements⟩ := Bool.and_eq_true_iff.mp hform
  have hplain : ∀ ch ∈ lineChars lines, ch ≠ '\r' ∧ ch ≠ '\x00' := by simpa using hchars
  have hreturns : ∀ line ∈ lines, '\r' ∉ line.toList := fun line hline hmem =>
    (hplain '\r' (List.mem_flatMap.mpr ⟨line, hline, List.mem_append_left _ hmem⟩)).1 rfl
  have hunix : (unixLines (textOfLines lines)).toList = lineChars lines := by
    have happend := toList_unixLines_append hreturns []
    rw [List.append_nil] at happend
    rw [happend]
    exact List.append_nil _
  have htokens : tokens? (textOfLines lines) = some ts := by
    unfold tokens?
    rw [hunix]
    exact hts
  refine ⟨fun hmem => (hplain '\x00' (toList_textOfLines lines ▸ hmem)).2 rfl, ?_⟩
  rw [isProgram_of_tokens htokens (by simpa using hslots)]
  exact hstatements

/-! ## What is accepted -/

variable {templates : Templates} {shared? : Option String} {c : Config} {headers : List String}
  {o : Output}

lemma text_of_no_templates (typesPackage? : Option String) (m : PackageModule) :
    m.text {} typesPackage? = m.content.text typesPackage? := by
  unfold PackageModule.text PackageModule.template?
  cases m.content <;> exact Option.getD_none

/-- The file of a module is made if its text is a program without null characters. -/
lemma exists_moduleFile_iff {m : PackageModule} :
    (∃ f, moduleFile templates shared? m = .ok f)
      ↔ '\x00' ∉ (m.text templates shared?).toList
        ∧ isProgram (m.text templates shared?) = true := by
  by_cases hnull : '\x00' ∈ (m.text templates shared?).toList
  · simp [moduleFile, hnull]
  · by_cases hprogram : isProgram (m.text templates shared?) = true <;>
      simp [moduleFile, hnull, hprogram]

lemma exists_mapM_moduleFile_iff {modules : List PackageModule} :
    (∃ made, modules.mapM (moduleFile templates shared?) = .ok made)
      ↔ ∀ m ∈ modules, ∃ f, moduleFile templates shared? m = .ok f := by
  induction modules with
  | nil => exact iff_of_true ⟨[], rfl⟩ fun m hm => absurd hm List.not_mem_nil
  | cons m modules ih =>
    rw [List.forall_mem_cons, ← ih, List.mapM_cons]
    cases moduleFile templates shared? m with
    | error e => exact iff_of_false (fun ⟨_, h⟩ => nomatch h) fun ⟨⟨_, h⟩, _⟩ => nomatch h
    | ok f =>
      cases modules.mapM (moduleFile templates shared?) with
      | error e => exact iff_of_false (fun ⟨_, h⟩ => nomatch h) fun ⟨_, _, h⟩ => nomatch h
      | ok made => exact iff_of_true ⟨_, rfl⟩ ⟨⟨_, rfl⟩, _, rfl⟩

/-- An output is rendered exactly if the texts of all its modules are programs without null
characters. -/
theorem exists_render_iff :
    (∃ files, render c templates headers o = .ok files)
      ↔ ∀ m ∈ modulesOf o, '\x00' ∉ (m.text templates (typesPackage? c o)).toList
        ∧ isProgram (m.text templates (typesPackage? c o)) = true := by
  simp only [← exists_moduleFile_iff, ← exists_mapM_moduleFile_iff]
  unfold render
  dsimp only
  cases (modulesOf o).mapM (moduleFile templates (typesPackage? c o)) with
  | error e => exact iff_of_false (fun ⟨_, h⟩ => nomatch h) fun ⟨_, h⟩ => nomatch h
  | ok made => exact iff_of_true ⟨_, rfl⟩ ⟨_, rfl⟩

end ClientGen.Render
