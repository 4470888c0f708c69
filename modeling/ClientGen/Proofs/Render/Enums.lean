import ClientGen.Proofs.Render.Descriptions
import ClientGen.Proofs.Source.Reads

/-!
# Enum classes

The class of an enum has a member for each value: a word, and a literal that denotes the value. The
word is the value, with an underscore behind a keyword; whether it is free is not looked at. So two
members go by one word exactly if some keyword is a value, and so is the keyword with an underscore.

* `ReadLines` says how lines are read, whatever lines come after them.
* `readLines_enumClass`: how the lines of an enum class are read.
* `nodup_memberWords_iff`: when the words of the members are different.
-/

namespace ClientGen.Render

open ClientGen.Naming
open ClientGen.Document.Token (isName isName_cases)
open ClientGen.Source

variable {before after last : List Column} {ts ts' steps : List Token} {line value : String}
  {lines lines' values : List String}

/-! ## Reading lines -/

/-- The lines are read as some tokens, whatever lines come after them. Before them the columns
`before` are open, and `after` after them. -/
def ReadLines (lines : List String) (before : List Column) (ts : List Token)
    (after : List Column) : Prop :=
  ∀ more, Reads { columns := before } (unixLines (textOfLines (lines ++ more))).toList ts
    { columns := after } (unixLines (textOfLines more)).toList

namespace ReadLines

lemma nil (columns : List Column) : ReadLines [] columns [] columns :=
  fun _ => .refl _ _

theorem append (h : ReadLines lines before ts after) (h' : ReadLines lines' after ts' last) :
    ReadLines (lines ++ lines') before (ts ++ ts') last := by
  intro more
  rw [List.append_assoc]
  exact (h (lines' ++ more)).trans (h' more)

lemma single (hline : '\r' ∉ line.toList)
    (h : ∀ rest, Reads { columns := before } (line.toList ++ '\n' :: rest) ts
      { columns := after } rest) : ReadLines [line] before ts after := by
  intro more
  have hlast : line.toList.getLast? ≠ some '\r' := fun h => hline (List.mem_of_getLast? h)
  rw [List.singleton_append, toList_unixLines_cons more hlast, unixLines_go_of_not_mem hline]
  exact h _

lemma emptyLine (columns : List Column) : ReadLines [""] columns [] columns :=
  single (by decide) fun _ => .emptyLine (.refl _ _)

end ReadLines

/-! ## Members -/

/-- The line of a member. -/
def memberLine (value : String) : String :=
  indented 1 (avoidKeyword value ++ " = " ++ Text.quoted value)

/-- What the line of a member is read as. -/
def memberTokens (value : String) : List Token :=
  [.name (avoidKeyword value), .op "=", .string false [], .newline]

lemma isName_avoidKeyword (h : isName value = true) : isName (avoidKeyword value) = true := by
  unfold avoidKeyword
  split
  · obtain ⟨c, cs, hchars, hstart, hparts⟩ := isName_cases h
    unfold isName
    rw [String.toList_append, hchars]
    refine Bool.and_eq_true_iff.mpr ⟨hstart, List.all_eq_true.mpr fun d hd => ?_⟩
    rcases List.mem_append.mp hd with hd | hd
    · exact hparts d hd
    · rw [List.mem_singleton.mp hd]
      rfl
  · exact h

/-- The literal of a name is the name between single quotes. -/
lemma toList_quoted_of_isName (h : isName value = true) :
    (Text.quoted value).toList = '\'' :: (value.toList ++ ['\'']) := by
  have hchars : ∀ c ∈ value.toList, Text.quotedChar '\'' c = [c] ∧ c ≠ '\'' := fun c hc =>
    of_decide_eq_true (forall_isNamePart (p := fun c => Text.quotedChar '\'' c = [c] ∧ c ≠ '\'')
      (by decide +kernel) (isNamePart_of_mem_name h c hc))
  have hquote : Text.quoteFor value.toList = '\'' := by
    have hfree : '\'' ∉ value.toList := fun hmem => (hchars _ hmem).2 rfl
    simp [Text.quoteFor, hfree]
  have hcontent : value.toList.flatMap (Text.quotedChar '\'') = value.toList := by
    rw [List.flatMap_congr fun c hc => (hchars c hc).1]
    simp
  simp [Text.quoted, hquote, hcontent]

lemma return_not_mem (h : isName value = true) : '\r' ∉ value.toList :=
  fun hmem => absurd (isNamePart_of_mem_name h _ hmem) (by decide)

/-- Without backslashes a string denotes its content. -/
lemma unescaped?_of_not_mem {cs : List Char} (h : '\\' ∉ cs) : unescaped? cs = some cs := by
  induction cs with
  | nil => rfl
  | cons c cs ih =>
    rw [List.mem_cons, not_or] at h
    rw [unescaped?_cons (Ne.symm h.1), ih h.2]
    rfl

lemma unescaped?_of_isName (h : isName value = true) :
    unescaped? value.toList = some value.toList :=
  unescaped?_of_not_mem fun hmem => absurd (isNamePart_of_mem_name h _ hmem) (by decide)

/-- The literal of a name is a string with the name between its quotes. -/
lemma string?_quoted (h : isName value = true) (rest : List Char) :
    string? ((Text.quoted value).toList ++ rest) = some (value.toList, rest) := by
  obtain ⟨c, cs, hcons, -⟩ := isName_cases h
  have hsome : value.toList ≠ [] := by simp [hcons]
  have hread := string?_literal (isLiteralChar_of_isName h) hsome rest
  rw [toList_quoted_of_isName h]
  simpa using hread

/-- A member is read as a word and a literal. -/
lemma readLines_memberLine (h : isName value = true)
    (hsteps : reindent? ⟨4, 4⟩ before = some (steps, after)) :
    ReadLines [memberLine value] before (steps ++ memberTokens value) after := by
  have hword := isName_avoidKeyword h
  have hline : (memberLine value).toList = List.replicate 4 ' ' ++ (avoidKeyword value).toList
      ++ ' ' :: '=' :: ' ' :: '\'' :: (value.toList ++ ['\'']) := by
    simp [memberLine, toList_indented, toList_quoted_of_isName h]
  refine .single (by simp [hline, return_not_mem hword, return_not_mem h]) fun rest => ?_
  simp only [hline, List.append_assoc, List.cons_append, List.nil_append]
  refine .start (beginsToken_name hword _) hsteps (.name hword rfl ?_)
  refine .blank (.token rfl (t := .op "=") rfl rfl (.blank ?_))
  exact .literal h (.lineEnd (.refl _ _))

/-- What the lines of the members are read as, or the line that stands for none. -/
def bodyTokens : List String → List Token
  | [] => [.name "pass", .newline]
  | values => values.flatMap memberTokens

/-- A line of a class after the first. -/
lemma stays : reindent? ⟨4, 4⟩ [⟨4, 4⟩] = some ([], [⟨4, 4⟩]) := rfl

/-- The first line of a class. -/
lemma stepsIn : reindent? ⟨4, 4⟩ [] = some ([.indent], [⟨4, 4⟩]) := rfl

lemma readLines_members (h : ∀ v ∈ values, isName v = true) :
    ReadLines (values.map memberLine) [⟨4, 4⟩] (values.flatMap memberTokens) [⟨4, 4⟩] := by
  induction values with
  | nil => exact .nil _
  | cons v vs ih =>
    obtain ⟨hv, hvs⟩ := List.forall_mem_cons.mp h
    exact (readLines_memberLine hv stays).append (ih hvs)

lemma readLines_pass (hsteps : reindent? ⟨4, 4⟩ before = some (steps, after)) :
    ReadLines [indented 1 "pass"] before (steps ++ [.name "pass", .newline]) after := by
  have hline : (indented 1 "pass").toList = List.replicate 4 ' ' ++ "pass".toList :=
    toList_indented 1 "pass"
  refine .single (by decide) fun rest => ?_
  rw [hline, List.append_assoc]
  exact .start rfl hsteps (.name rfl rfl (.lineEnd (.refl _ _)))

/-- The members are read after a step in, or after none. -/
lemma readLines_enumMembers (h : ∀ v ∈ values, isName v = true)
    (hsteps : reindent? ⟨4, 4⟩ before = some (steps, [⟨4, 4⟩])) :
    ReadLines (enumMembers values) before (steps ++ bodyTokens values) [⟨4, 4⟩] := by
  cases values with
  | nil => exact readLines_pass hsteps
  | cons v vs =>
    obtain ⟨hv, hvs⟩ := List.forall_mem_cons.mp h
    have hread := (readLines_memberLine hv hsteps).append (readLines_members hvs)
    rw [List.append_assoc] at hread
    exact hread

/-! ## Classes -/

/-- What the line at the head of an enum class is read as. -/
def headTokens (name : String) : List Token :=
  [.name "class", .name name, .op "(", .name "str", .op ",", .name "Enum", .op ")", .op ":",
    .newline]

/-- What the docstring of a class is read as, if there is one. -/
def docstringTokens (description? : Option String) : List Token :=
  match present? description? with
  | none => []
  | some _ => [.string false [], .newline]

/-- What an enum class is read as. -/
def enumTokens (c : DataClass) (values : List String) : List Token :=
  headTokens c.name ++ .indent :: (docstringTokens c.description? ++ bodyTokens values)

lemma readLines_head {name : String} (h : isName name = true)
    (hsteps : reindent? {} before = some (steps, after)) :
    ReadLines ["class " ++ name ++ "(str, Enum):"] before (steps ++ headTokens name) after := by
  have hline : ("class " ++ name ++ "(str, Enum):").toList
      = List.replicate 0 ' ' ++ ("class".toList ++ ' ' :: (name.toList ++ '('
        :: ("str".toList ++ ',' :: ' ' :: ("Enum".toList ++ [')', ':'])))) := by
    simp
  refine .single (by simp [hline, return_not_mem h]) fun rest => ?_
  simp only [hline, List.append_assoc, List.cons_append, List.nil_append]
  refine .start rfl hsteps (.name rfl rfl (.blank ?_))
  refine .name h rfl (.token (t := .op "(") rfl rfl rfl ?_)
  refine .name rfl rfl (.token (t := .op ",") rfl rfl rfl (.blank ?_))
  refine .name rfl rfl (.token (t := .op ")") rfl rfl rfl ?_)
  exact .token (t := .op ":") rfl rfl rfl (.lineEnd (.refl _ _))

/-- The line of a docstring, with the empty line after it. -/
lemma readLines_classDocstring (d : String) :
    ReadLines [indented 1 ("\"\"\"" ++ docstringText d ++ "\"\"\""), ""] []
      [.indent, .string false [], .newline] [⟨4, 4⟩] := by
  have hdocstring : ReadLines [indented 1 ("\"\"\"" ++ docstringText d ++ "\"\"\"")] []
      [.indent, .string false [], .newline] [⟨4, 4⟩] :=
    fun more => ⟨3, fun fuel => tokensFrom?_docstring d fuel 1 [] more⟩
  exact hdocstring.append (.emptyLine _)

/-- The body of an enum class is read after a step in. -/
lemma readLines_body (h : ∀ v ∈ values, isName v = true) (description? : Option String) :
    ReadLines (classDocstring description? ++ enumMembers values) []
      (.indent :: (docstringTokens description? ++ bodyTokens values)) [⟨4, 4⟩] := by
  unfold classDocstring docstring docstringTokens
  cases present? description? with
  | none => exact readLines_enumMembers h stepsIn
  | some d => exact (readLines_classDocstring d).append (readLines_enumMembers h stays)

/-- An enum class is read after all that is open has been closed: its head, a step in, its docstring
and its members. -/
theorem readLines_enumClass {c : DataClass} (hname : isName c.name = true)
    (h : ∀ v ∈ values, isName v = true)
    (hsteps : reindent? {} before = some (steps, [])) :
    ReadLines (enumClass c values) before (steps ++ enumTokens c values) [⟨4, 4⟩] := by
  have hhead := (readLines_head hname hsteps).append (readLines_body h c.description?)
  have hempty := (ReadLines.emptyLine before).append (ReadLines.emptyLine before)
  have hclass := hempty.append hhead
  simp only [List.nil_append, List.append_assoc] at hclass
  unfold enumClass enumTokens
  simp only [List.append_assoc]
  exact hclass

/-! ## Words of members -/

lemma avoidKeyword_of_mem (h : value ∈ keywords) : avoidKeyword value = value ++ "_" := by
  simp [avoidKeyword, h]

lemma avoidKeyword_of_not_mem (h : value ∉ keywords) : avoidKeyword value = value := by
  simp [avoidKeyword, h]

/-- A keyword with an underscore behind it is none. -/
lemma append_underscore_not_mem (value : String) : value ++ "_" ∉ keywords := fun hmem =>
  getLast?_of_mem_keywords _ hmem (by simp)

/-- Different values go by different words, unless a keyword is among them and so is the keyword
with an underscore. -/
theorem nodup_memberWords_iff (h : values.Nodup) :
    (values.map avoidKeyword).Nodup ↔ ∀ keyword ∈ keywords, keyword ∈ values →
      keyword ++ "_" ∉ values := by
  rw [List.nodup_map_iff_inj_on h]
  constructor
  · intro hinjective keyword hkeyword hmem hunderscore
    have hsame : keyword = keyword ++ "_" := by
      refine hinjective _ hmem _ hunderscore ?_
      rw [avoidKeyword_of_mem hkeyword, avoidKeyword_of_not_mem (append_underscore_not_mem keyword)]
    exact append_underscore_not_mem keyword (hsame ▸ hkeyword)
  · intro hapart v hv w hw hsame
    by_cases hvk : v ∈ keywords <;> by_cases hwk : w ∈ keywords
    · rw [avoidKeyword_of_mem hvk, avoidKeyword_of_mem hwk] at hsame
      simpa using hsame
    · rw [avoidKeyword_of_mem hvk, avoidKeyword_of_not_mem hwk] at hsame
      exact absurd (hsame ▸ hw) (hapart v hvk hv)
    · rw [avoidKeyword_of_not_mem hvk, avoidKeyword_of_mem hwk] at hsame
      exact absurd (hsame ▸ hv) (hapart w hwk hw)
    · rwa [avoidKeyword_of_not_mem hvk, avoidKeyword_of_not_mem hwk] at hsame

end ClientGen.Render
