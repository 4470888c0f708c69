import ClientGen.Proofs.Text.Parts
import ClientGen.Source.Token
import Mathlib.Tactic.Common

/-!
# Reading line by line

The line ends of a text are brought into one form, part by part, and the text is then read line by
line. A line that a string fills is one token, and a line that a comment fills is none; in both
cases the reading goes on at the line that follows.

* `unixLines_go_append`: parts of a text.
* `tokensFrom?_stringLine`, `tokensFrom?_commentLine`: lines of a text.
-/

namespace ClientGen.Source

open Text (getLast?_ne_of_append)

/-! ## Line ends -/

lemma toList_unixLines (text : String) : (unixLines text).toList = unixLines.go text.toList := by
  simp [unixLines]

/-- A text in two parts, unless a line end is parted. -/
lemma unixLines_go_append {as bs : List Char}
    (h : as.getLast? ≠ some '\r' ∨ bs.head? ≠ some '\n') :
    unixLines.go (as ++ bs) = unixLines.go as ++ unixLines.go bs := by
  fun_induction unixLines.go as with
  | case1 => rfl
  | case2 cs ih =>
    have hrest := ih (h.imp_left (getLast?_ne_of_append ['\r', '\n']))
    simp only [List.cons_append, unixLines.go, hrest]
  | case3 cs hn ih =>
    have hrest := ih (h.imp_left (getLast?_ne_of_append ['\r']))
    have hline : ∀ more, cs ++ bs = '\n' :: more → False := by
      intro more hmore
      cases cs with
      | nil => simp [show bs = '\n' :: more from hmore] at h
      | cons c cs => exact hn cs (by simp_all)
    rw [List.cons_append, unixLines.go.eq_3 _ hline, hrest, List.cons_append]
  | case4 c cs hrn hr ih =>
    have hrest := ih (h.imp_left (getLast?_ne_of_append [c]))
    rw [List.cons_append, unixLines.go.eq_4 c (cs ++ bs) (fun _ hc => absurd hc hr) hr, hrest,
      List.cons_append]

lemma unixLines_go_of_not_mem {cs : List Char} (h : '\r' ∉ cs) : unixLines.go cs = cs := by
  fun_induction unixLines.go cs with
  | case1 => rfl
  | case2 cs ih => simp at h
  | case3 cs hn ih => simp at h
  | case4 c cs hrn hr ih => rw [ih (by simp_all)]

/-- A quote of the text is not a line end. -/
lemma exists_of_unixLines_go {cs es : List Char} (h : unixLines.go cs = '"' :: es) :
    ∃ more, cs = '"' :: more ∧ es = unixLines.go more := by
  fun_cases unixLines.go cs with
  | case1 => cases h
  | case2 => simp [unixLines.go] at h
  | case3 cs hn => simp [unixLines.go.eq_3 cs hn] at h
  | case4 c cs hrn hr =>
    rw [unixLines.go.eq_4 c cs hrn hr, List.cons.injEq] at h
    exact ⟨cs, by rw [h.1], h.2.symm⟩

/-- The end of a text stays, if it is not the end of a line. -/
lemma getLast?_unixLines_go (cs : List Char) :
    (unixLines.go cs).getLast? = cs.getLast?.map fun c => if c = '\r' then '\n' else c := by
  fun_induction unixLines.go cs with
  | case1 => rfl
  | case2 cs ih => cases h : cs.getLast? <;> simp [List.getLast?_cons, ih, h]
  | case3 cs hn ih => cases h : cs.getLast? <;> simp [List.getLast?_cons, ih, h]
  | case4 c cs hrn hr ih => cases h : cs.getLast? <;> simp_all [List.getLast?_cons]

lemma getLast?_unixLines_go_ne {cs : List Char} (h : cs.getLast? ≠ some '"') :
    (unixLines.go cs).getLast? ≠ some '"' := by
  rw [getLast?_unixLines_go, Ne, Option.map_eq_some_iff]
  rintro ⟨c, hc, hquote⟩
  split at hquote
  · exact absurd hquote (by decide)
  · exact h (hquote ▸ hc)

/-! ## Lines -/

lemma indentation_spaces (n : Nat) (column : Column) (cs : List Char) :
    indentation column (List.replicate n ' ' ++ cs)
      = indentation ⟨column.wide + n, column.narrow + n⟩ cs := by
  induction n generalizing column with
  | zero => rfl
  | succ n ih =>
    rw [List.replicate_succ, List.cons_append, indentation, ih]
    simp only [Nat.add_assoc, Nat.add_comm 1 n]

/-- A token may begin with the character: it is no blank and no line end, and begins no comment and
no joined line. -/
def beginsToken (c : Char) : Bool :=
  !(c == ' ' || c == '\t' || c == '\x0c' || c == '\n' || c == '#' || c == '\\')

/-- The brackets that are due after a token. -/
def Token.due? (brackets : List String) : Token → Option (List String)
  | .op o => bracketsAfter? o brackets
  | _ => some brackets

section

variable (fuel : Nat) (columns : List Column)

/-- A line is read after a step in or out. -/
lemma tokensFrom?_start {c : Char} (hc : beginsToken c = true) (n : Nat) (cs : List Char) :
    tokensFrom? (fuel + 1) { columns := columns } (List.replicate n ' ' ++ c :: cs)
      = (reindent? ⟨n, n⟩ columns).bind fun (steps, columns) =>
          (tokensFrom? fuel { columns := columns, atStart := false } (c :: cs)).map
            (steps ++ ·) := by
  have hline : indentation {} (List.replicate n ' ' ++ c :: cs) = (⟨n, n⟩, c :: cs) := by
    rw [indentation_spaces]
    unfold indentation
    split <;> simp_all [beginsToken]
  conv_lhs => unfold tokensFrom?
  simp only [if_true, hline]
  split
  case h_4 =>
    simp only [Option.map_eq_bind]
    rfl
  all_goals simp_all [beginsToken]

/-- A token within a line. -/
lemma tokensFrom?_token {c : Char} {cs rest : List Char} {t : Token} {brackets due : List String}
    (hc : beginsToken c = true) (ht : token? (c :: cs) = some (t, rest))
    (hdue : t.due? brackets = some due) :
    tokensFrom? (fuel + 1) { brackets, columns, atStart := false } (c :: cs)
      = (tokensFrom? fuel { brackets := due, columns, atStart := false } rest).map (t :: ·) := by
  conv_lhs => unfold tokensFrom?
  simp only [Bool.false_eq_true, if_false]
  split
  case h_8 =>
    simp only [ht, Option.bind_eq_bind, Option.bind_some]
    cases t with
    | op o =>
      have hbrackets : bracketsAfter? o brackets = some due := hdue
      simp only [hbrackets, Option.bind_some, Option.map_eq_bind]
      rfl
    | _ =>
      rw [← Option.some.inj hdue, Option.map_eq_bind]
      rfl
  all_goals simp_all [beginsToken]

/-- At the end of a line another begins. -/
lemma tokensFrom?_lineEnd (rest : List Char) :
    tokensFrom? (fuel + 1) { columns := columns, atStart := false } ('\n' :: rest)
      = (tokensFrom? fuel { columns := columns } rest).map (.newline :: ·) := by
  rfl

end

/-- A line that a string fills is a step in or out, and the string. -/
lemma tokensFrom?_stringLine {content rest : List Char}
    (hend : longString? '"' (content ++ '"' :: '"' :: '"' :: '\n' :: rest)
      = some (content, '\n' :: rest))
    (hok : escapesOk false content) (fuel n : Nat) (columns : List Column) :
    tokensFrom? (fuel + 3) { columns := columns } (List.replicate n ' '
        ++ '"' :: '"' :: '"' :: (content ++ '"' :: '"' :: '"' :: '\n' :: rest))
      = (reindent? ⟨n, n⟩ columns).bind fun (steps, columns) =>
          (tokensFrom? fuel { columns := columns } rest).map fun ts =>
            steps ++ .string false [] :: .newline :: ts := by
  have hstring : string? ('"' :: '"' :: '"' ::
      (content ++ '"' :: '"' :: '"' :: '\n' :: rest)) = some (content, '\n' :: rest) := hend
  have hslots : contentSlots? ⟨false, false, false⟩ content = some [] := by
    simp [contentSlots?, hok]
  have htoken : token?
      ('"' :: '"' :: '"' :: (content ++ '"' :: '"' :: '"' :: '\n' :: rest))
        = some (.string false [], '\n' :: rest) := by
    show stringToken? ⟨false, false, false⟩ _ = _
    simp [stringToken?, hstring, hslots]
  rw [tokensFrom?_start _ _ rfl]
  congr 1
  funext ⟨steps, columns⟩
  have hdue : (Token.string false []).due? [] = some [] := rfl
  simp only [tokensFrom?_token _ _ rfl htoken hdue, tokensFrom?_lineEnd, Option.map_map]
  rfl

/-- A comment that fills a line is not read. -/
lemma tokensFrom?_commentLine {comment : List Char} (hcomment : '\n' ∉ comment)
    (fuel n : Nat) (columns : List Column) (rest : List Char) :
    tokensFrom? (fuel + 2) { columns := columns }
        (List.replicate n ' ' ++ '#' :: (comment ++ '\n' :: rest))
      = tokensFrom? fuel { columns := columns } rest := by
  have hline : indentation {} (List.replicate n ' ' ++ '#' :: (comment ++ '\n' :: rest))
      = (⟨n, n⟩, '#' :: (comment ++ '\n' :: rest)) := by
    rw [indentation_spaces]
    simp [indentation]
  have hskip : (comment ++ '\n' :: rest).dropWhile (· != '\n') = '\n' :: rest := by
    rw [List.dropWhile_append_of_pos fun c hc => by
      simpa using ne_of_mem_of_not_mem hc hcomment]
    rfl
  conv_lhs => unfold tokensFrom?
  simp only [if_true, hline]
  show tokensFrom? (fuel + 1) _ ((comment ++ '\n' :: rest).dropWhile (· != '\n')) = _
  rw [hskip]
  rfl

end ClientGen.Source
