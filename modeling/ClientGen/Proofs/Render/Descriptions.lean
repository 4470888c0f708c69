import ClientGen.Proofs.Render.Comments
import ClientGen.Proofs.Render.Docstrings
import ClientGen.Proofs.Source.Lines
import ClientGen.Render.Modules

/-!
# Descriptions stay in their place

A docstring is read as one string, and a comment as nothing, whatever the description is and
whatever comes after it. The reading goes on at the line that follows, where it would be if the
description were another one.

* `descriptions_stay_in_place`: the texts, and the lines that they stand in.
-/

namespace ClientGen.Render

open Source

/-! ## Texts of lines -/

/-- Escapes have no part in line ends. -/
lemma unixLines_go_escapeDocstring (cs : List Char) :
    unixLines.go (escapeDocstring cs) = escapeDocstring (unixLines.go cs) := by
  fun_induction escapeDocstring cs with
  | case1 => rfl
  | case2 cs ih => simp [unixLines.go, escapeDocstring, ih]
  | case3 cs ih => simp [unixLines.go, escapeDocstring, ih]
  | case4 c cs hquotes hslash ih =>
    by_cases hr : c = '\r'
    · subst hr
      by_cases hn : ∃ ds, cs = '\n' :: ds
      · obtain ⟨ds, rfl⟩ := hn
        simpa [unixLines.go, escapeDocstring] using ih
      · have hplain : ∀ ds, cs = '\n' :: ds → False := fun ds hds => hn ⟨ds, hds⟩
        have hescaped : ∀ ds, escapeDocstring cs = '\n' :: ds → False := by
          intro ds hds
          obtain ⟨more, hmore, -⟩ := exists_of_escapeDocstring (by decide) hds
          exact hplain more hmore
        rw [unixLines.go.eq_3 _ hescaped, unixLines.go.eq_3 _ hplain, ih]
        simp [escapeDocstring]
    · have hgo (ds : List Char) : unixLines.go (c :: ds) = c :: unixLines.go ds :=
        unixLines.go.eq_4 c ds (fun _ hc => absurd hc hr) hr
      have hlone : ∀ more, c = '"' → unixLines.go cs = '"' :: '"' :: more → False := by
        rintro more hc hmore
        obtain ⟨ds, rfl, hds⟩ := exists_of_unixLines_go hmore
        obtain ⟨es, rfl, -⟩ := exists_of_unixLines_go hds.symm
        exact hquotes es hc rfl
      rw [hgo, hgo, ih, escapeDocstring.eq_4 c _ hlone hslash]

lemma toList_textOfLines_cons (line : String) (more : List String) :
    (textOfLines (line :: more)).toList = line.toList ++ '\n' :: (textOfLines more).toList := by
  simp [textOfLines]

/-- The lines after one that does not end with a carriage return stay its lines. -/
lemma toList_unixLines_cons {line : String} (more : List String)
    (h : line.toList.getLast? ≠ some '\r') :
    (unixLines (textOfLines (line :: more))).toList
      = unixLines.go line.toList ++ '\n' :: (unixLines (textOfLines more)).toList := by
  rw [toList_unixLines, toList_textOfLines_cons, unixLines_go_append (.inl h), toList_unixLines,
    unixLines.go.eq_4 '\n' _ (by simp) (by decide)]

/-! ## Lines of descriptions -/

lemma toList_indented (level : Nat) (line : String) :
    (indented level line).toList = List.replicate (4 * level) ' ' ++ line.toList := by
  simp [indented]

/-- Between the quotes of a docstring stands an escaped text, whose line ends are the only
ones. -/
lemma unixLines_go_docstring (level : Nat) (d : String) :
    unixLines.go (indented level ("\"\"\"" ++ docstringText d ++ "\"\"\"")).toList
      = List.replicate (4 * level) ' ' ++ '"' :: '"' :: '"' ::
        (escapeDocstring (unixLines.go (docstringContent d.toList)) ++ ['"', '"', '"']) := by
  have hopening : '\r' ∉ List.replicate (4 * level) ' ' ++ ['"', '"', '"'] := by simp
  have hline : (indented level ("\"\"\"" ++ docstringText d ++ "\"\"\"")).toList
      = (List.replicate (4 * level) ' ' ++ ['"', '"', '"'])
        ++ (escapeDocstring (docstringContent d.toList) ++ ['"', '"', '"']) := by
    simp [toList_indented, docstringText, docstringChars_eq]
  have hcontent : unixLines.go (escapeDocstring (docstringContent d.toList) ++ ['"', '"', '"'])
      = escapeDocstring (unixLines.go (docstringContent d.toList)) ++ ['"', '"', '"'] := by
    rw [unixLines_go_append (.inr (by simp)), unixLines_go_escapeDocstring]
    rfl
  rw [hline, unixLines_go_append (.inl (by simp)), unixLines_go_of_not_mem hopening, hcontent]
  simp

/-- The line of a docstring is read as a step in or out and a string, and the lines after it as
if it had been any other. -/
theorem tokensFrom?_docstring (d : String) (fuel level : Nat) (columns : List Column)
    (more : List String) :
    tokensFrom? (fuel + 3) { columns := columns } (unixLines (textOfLines
        (indented level ("\"\"\"" ++ docstringText d ++ "\"\"\"") :: more))).toList
      = (reindent? ⟨4 * level, 4 * level⟩ columns).bind fun (steps, columns) =>
          (tokensFrom? fuel { columns := columns } (unixLines (textOfLines more)).toList).map
            fun ts => steps ++ .string false [] :: .newline :: ts := by
  set rest := (unixLines (textOfLines more)).toList
  have hend : (unixLines.go (docstringContent d.toList)).getLast? ≠ some '"' :=
    getLast?_unixLines_go_ne (getLast?_docstringContent d.toList)
  have hok : escapesOk false (escapeDocstring (unixLines.go (docstringContent d.toList))) :=
    escapesOk_of_unescaped? false (unescaped?_escapeDocstring _)
  have hlast : (indented level ("\"\"\"" ++ docstringText d ++ "\"\"\"")).toList.getLast?
      ≠ some '\r' := by
    simp [toList_indented, List.getLast?_append, List.getLast?_cons]
  rw [toList_unixLines_cons more hlast, unixLines_go_docstring,
    ← tokensFrom?_stringLine (longString?_closed hend ('\n' :: rest)) hok]
  congr 1
  simp [rest]

/-- The line of a comment is not read. -/
theorem tokensFrom?_comment (d : String) (fuel level : Nat) (columns : List Column)
    (more : List String) :
    tokensFrom? (fuel + 2) { columns := columns }
        (unixLines (textOfLines (indented level ("# " ++ commentText d) :: more))).toList
      = tokensFrom? fuel { columns := columns } (unixLines (textOfLines more)).toList := by
  have hbreak : ∀ c ∈ lineBreaks, c ∉ (commentChars d.toList) := fun c hc h =>
    (isCommentText_commentChars d.toList).not_mem_lineBreaks h hc
  have hline : (indented level ("# " ++ commentText d)).toList
      = List.replicate (4 * level) ' ' ++ '#' :: ' ' :: commentChars d.toList := by
    simp [toList_indented, commentText]
  have hreturn : '\r' ∉ (indented level ("# " ++ commentText d)).toList := by
    simp [hline, hbreak '\r' (by decide)]
  rw [toList_unixLines_cons more fun h => hreturn (List.mem_of_getLast? h),
    unixLines_go_of_not_mem hreturn, hline]
  have hcomment : '\n' ∉ ' ' :: commentChars d.toList := by simp [hbreak '\n' (by decide)]
  simpa using tokensFrom?_commentLine hcomment fuel (4 * level) columns
    (unixLines (textOfLines more)).toList

/-- No description leaves its docstring or its comment.

Between the quotes of a docstring stands a text that these quotes close, whatever comes after
them; its escapes denote the description, with a space after a quote at its end; and the line is
a string for the reader. A comment has at most 120 characters and stays on its line, is written
again as it is, and is nothing for the reader. -/
theorem descriptions_stay_in_place (d : String) :
    (∀ rest, string? (("\"\"\"" ++ docstringText d ++ "\"\"\"").toList ++ rest)
      = some ((docstringText d).toList, rest)) ∧
    unescaped? (docstringText d).toList
      = some (d.toList ++ if d.toList.getLast? = some '"' then [' '] else []) ∧
    (∀ fuel level columns more, tokensFrom? (fuel + 3) { columns := columns } (unixLines
        (textOfLines (indented level ("\"\"\"" ++ docstringText d ++ "\"\"\"") :: more))).toList
      = (reindent? ⟨4 * level, 4 * level⟩ columns).bind fun (steps, columns) =>
          (tokensFrom? fuel { columns := columns } (unixLines (textOfLines more)).toList).map
            fun ts => steps ++ .string false [] :: .newline :: ts) ∧
    (commentText d).length ≤ 120 ∧
    (∀ c ∈ (commentText d).toList, c ∉ lineBreaks ∧ c ≠ '*') ∧
    commentText (commentText d) = commentText d ∧
    (∀ fuel level columns more, tokensFrom? (fuel + 2) { columns := columns }
        (unixLines (textOfLines (indented level ("# " ++ commentText d) :: more))).toList
      = tokensFrom? fuel { columns := columns } (unixLines (textOfLines more)).toList) := by
  have hcomment : IsCommentText (commentText d).toList := by
    simpa [commentText] using isCommentText_commentChars d.toList
  refine ⟨fun rest => ?_, ?_, tokensFrom?_docstring d, hcomment.short,
    fun c hc => ⟨hcomment.not_mem_lineBreaks hc, (hcomment.kept c hc).2⟩, ?_,
    tokensFrom?_comment d⟩
  · have hclosed := longString?_docstringChars d.toList rest
    simpa [docstringText, string?] using hclosed
  · simpa [docstringText, docstringContent] using unescaped?_docstringChars d.toList
  · show String.ofList (commentChars (commentText d).toList) = commentText d
    rw [hcomment.commentChars_eq, String.ofList_toList]

end ClientGen.Render
