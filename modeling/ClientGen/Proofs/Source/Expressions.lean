import ClientGen.Source.Program
import Mathlib.Tactic.Common

/-!
# Taking expressions

What the productions of the grammar take from the front of a row of tokens, where it begins with an
expression of the forms that generated modules have: a name, a string, a list of strings. Such an
expression is an atom, and ends before a token that goes on with none.

* `Scan.TakesRow` says how the items of a row are taken one after the other.
* `expression_of_atom` leads from an atom through all levels of operators.
* `atom_list` is the list of strings.
-/

namespace ClientGen.Source

open Scan
open Naming (keywords)

variable {α β : Type} {a : α} {as : List α} {self : Goals} {ts mid next rest : List Token}
  {t u : Token} {v w : String} {shape : Shape}

namespace Scan

lemma bind_of_eq {x : Scan α} {f : α → Scan β} (h : x ts = some (a, mid)) :
    (x >>= f) ts = f a mid := by
  show (x ts).bind _ = _
  rw [h]
  rfl

lemma bind_of_none {x : Scan α} {f : α → Scan β} (h : x ts = none) : (x >>= f) ts = none := by
  show (x ts).bind _ = _
  rw [h]
  rfl

lemma accept_of_ne (h : u ≠ t) (rest : List Token) :
    accept t (u :: rest) = some (false, u :: rest) :=
  if_neg h

lemma acceptOp_of_ne {o : String} (h : u ≠ .op o) (rest : List Token) :
    acceptOp o (u :: rest) = some (false, u :: rest) :=
  accept_of_ne h rest

lemma identifier_of_not_mem (hw : w ∉ keywords) (rest : List Token) :
    identifier (.name w :: rest) = some ((), rest) := by
  show (if keywords.contains w then failure else pure () : Scan Unit) rest = _
  rw [if_neg (by simpa using hw)]
  rfl

lemma identifier_of_mem (hw : w ∈ keywords) (rest : List Token) :
    identifier (.name w :: rest) = none := by
  show (if keywords.contains w then failure else pure () : Scan Unit) rest = _
  rw [if_pos (by simpa using hw)]
  rfl

/-! ## Rows -/

/-- The items of a row are taken one after the other; after each of them it is said whether there
are more. -/
inductive TakesRow (item : Scan α) (more : Scan Bool) :
    List Token → List α → List Token → Prop where
  | last {ts mid rest : List Token} {a : α} (hitem : item ts = some (a, mid))
      (hmore : more mid = some (false, rest)) : TakesRow item more ts [a] rest
  | cons {ts mid next rest : List Token} {a : α} {as : List α} (hitem : item ts = some (a, mid))
      (hmore : more mid = some (true, next)) (h : TakesRow item more next as rest) :
      TakesRow item more ts (a :: as) rest

lemma rowWithin_of_takesRow {item : Scan α} {more : Scan Bool}
    (h : TakesRow item more ts as rest) {fuel : Nat} (hfuel : as.length ≤ fuel) :
    rowWithin item more fuel ts = some (as, rest) := by
  induction h generalizing fuel with
  | last hitem hmore =>
    cases fuel with
    | zero => cases hfuel
    | succ fuel =>
      unfold rowWithin
      rw [bind_of_eq hitem, bind_of_eq hmore]
      rfl
  | cons hitem hmore _ ih =>
    cases fuel with
    | zero => cases hfuel
    | succ fuel =>
      unfold rowWithin
      rw [bind_of_eq hitem, bind_of_eq hmore, if_pos rfl,
        bind_of_eq (ih (Nat.le_of_succ_le_succ hfuel))]
      rfl

lemma row_of_takesRow {item : Scan α} {more : Scan Bool} (h : TakesRow item more ts as rest)
    (hlength : as.length ≤ ts.length + 1) : row item more ts = some (as, rest) :=
  rowWithin_of_takesRow h hlength

/-- A row of one item. -/
lemma row_of_item {item : Scan α} {more : Scan Bool} (hitem : item ts = some (a, mid))
    (hmore : more mid = some (false, rest)) : row item more ts = some ([a], rest) :=
  row_of_takesRow (.last hitem hmore) (Nat.le_add_left 1 _)

end Scan

/-! ## Expressions -/

/-- The token begins an expression that is an atom. -/
def beginsAtom : Token → Bool
  | .name w => !keywords.contains w
  | .string _ _ => true
  | .op o => o == "["
  | _ => false

lemma acceptWord_of_beginsAtom (hu : beginsAtom u = true) (hv : v ∈ keywords) (ts : List Token) :
    acceptWord v (u :: ts) = some (false, u :: ts) := by
  refine accept_of_ne ?_ ts
  rintro rfl
  simp [beginsAtom, hv] at hu

/-- The case of a keyword is passed over. -/
lemma bind_acceptWord {x y : Scan α} (hu : beginsAtom u = true) (hv : v ∈ keywords)
    (ts : List Token) :
    (acceptWord v >>= fun isWord => if isWord then x else y) (u :: ts) = y (u :: ts) := by
  rw [bind_of_eq (acceptWord_of_beginsAtom hu hv ts), if_neg Bool.false_ne_true]

lemma acceptOneOf_of_beginsAtom {os : List String} (hu : beginsAtom u = true) (hos : "[" ∉ os)
    (ts : List Token) : acceptOneOf os (u :: ts) = some (false, u :: ts) := by
  cases u with
  | op o =>
    obtain rfl : o = "[" := eq_of_beq hu
    exact if_neg (by simpa using hos)
  | _ => rfl

/-- What may come after an expression and is no part of it. -/
def expressionEnds : List Token :=
  [.newline, .op ")", .op "]", .op ",", .op ":", .op "="]

lemma eq_of_mem_expressionEnds (ht : t ∈ expressionEnds) :
    t = .newline ∨ t = .op ")" ∨ t = .op "]" ∨ t = .op "," ∨ t = .op ":" ∨ t = .op "=" := by
  simpa [expressionEnds] using ht

lemma primary_of_atom (ht : t ∈ expressionEnds) (h : atom self ts = some (shape, t :: rest)) :
    primary self ts = some (shape, t :: rest) := by
  unfold primary
  rw [bind_of_eq h]
  rcases eq_of_mem_expressionEnds ht with rfl | rfl | rfl | rfl | rfl | rfl <;> rfl

section

variable (hu : beginsAtom u = true) (ht : t ∈ expressionEnds)

include hu ht

lemma factor_of_primary (h : self .primary (u :: ts) = some (shape, t :: rest)) :
    factor self (u :: ts) = some (shape, t :: rest) := by
  unfold factor
  rw [bind_of_eq (acceptOneOf_of_beginsAtom hu (by decide) ts), if_neg Bool.false_ne_true,
    bind_of_eq (acceptWord_of_beginsAtom hu (by decide) ts), bind_of_eq h]
  rcases eq_of_mem_expressionEnds ht with rfl | rfl | rfl | rfl | rfl | rfl <;> rfl

omit hu in
lemma operand_of_factor (h : self .factor ts = some (shape, t :: rest)) :
    operand self ts = some (shape, t :: rest) := by
  have hmore : acceptOneOf ["|", "^", "&", "<<", ">>", "+", "-", "*", "/", "//", "%", "@"]
      (t :: rest) = some (false, t :: rest) := by
    rcases eq_of_mem_expressionEnds ht with rfl | rfl | rfl | rfl | rfl | rfl <;> rfl
  unfold operand
  rw [bind_of_eq (row_of_item h hmore)]
  rfl

lemma inversion_of_operand (h : self .operand (u :: ts) = some (shape, t :: rest)) :
    inversion self (u :: ts) = some (shape, t :: rest) := by
  have hmore : acceptComparison (t :: rest) = some (false, t :: rest) := by
    rcases eq_of_mem_expressionEnds ht with rfl | rfl | rfl | rfl | rfl | rfl <;> rfl
  unfold inversion
  rw [bind_of_eq (acceptWord_of_beginsAtom hu (by decide) ts), if_neg Bool.false_ne_true,
    bind_of_eq (row_of_item h hmore)]
  rfl

omit hu in
lemma disjunction_of_inversion (h : self .inversion ts = some (shape, t :: rest)) :
    disjunction self ts = some (shape, t :: rest) := by
  unfold disjunction
  rw [bind_of_eq (row_of_item h ?_)]
  · rfl
  · rcases eq_of_mem_expressionEnds ht with rfl | rfl | rfl | rfl | rfl | rfl <;> rfl

lemma expression_of_disjunction (h : self .disjunction (u :: ts) = some (shape, t :: rest)) :
    expression self (u :: ts) = some (shape, t :: rest) := by
  unfold expression
  rw [bind_of_eq (acceptWord_of_beginsAtom hu (by decide) ts), if_neg Bool.false_ne_true,
    bind_of_eq h]
  rcases eq_of_mem_expressionEnds ht with rfl | rfl | rfl | rfl | rfl | rfl <;> rfl

/-- An atom is an expression, if what comes after it is no part of one. -/
theorem expression_of_atom {k : Nat}
    (h : atom (scan (k + 1)) (u :: ts) = some (shape, t :: rest)) :
    scan (k + 7) .expression (u :: ts) = some (shape, t :: rest) := by
  have hprimary : scan (k + 2) .primary (u :: ts) = some (shape, t :: rest) :=
    primary_of_atom ht h
  have hfactor : scan (k + 3) .factor (u :: ts) = some (shape, t :: rest) :=
    factor_of_primary hu ht hprimary
  have hoperand : scan (k + 4) .operand (u :: ts) = some (shape, t :: rest) :=
    operand_of_factor ht hfactor
  have hinversion : scan (k + 5) .inversion (u :: ts) = some (shape, t :: rest) :=
    inversion_of_operand hu ht hoperand
  have hdisjunction : scan (k + 6) .disjunction (u :: ts) = some (shape, t :: rest) :=
    disjunction_of_inversion ht hinversion
  exact expression_of_disjunction hu ht hdisjunction

end

lemma atom_name (hw : w ∉ keywords) (self : Goals) (rest : List Token) :
    atom self (.name w :: rest) = some (.place, rest) := by
  have hvalue : (w == "None" || w == "True" || w == "False") = false := by
    have hne : ∀ v ∈ keywords, w ≠ v := fun v hv h => hw (h ▸ hv)
    simp [hne "None" (by decide), hne "True" (by decide), hne "False" (by decide)]
  have hother : keywords.contains w = false := by simpa using hw
  show (if w == "None" || w == "True" || w == "False" then (pure Shape.value : Scan Shape)
    else if keywords.contains w then failure else pure .place) rest = _
  rw [hvalue, hother]
  rfl

lemma expression_of_name (hw : w ∉ keywords) (ht : t ∈ expressionEnds) (k : Nat)
    (rest : List Token) :
    scan (k + 7) .expression (.name w :: t :: rest) = some (.place, t :: rest) :=
  expression_of_atom (by simpa [beginsAtom] using hw) ht (atom_name hw _ _)

/-- A row of one expression. -/
lemma assigned_of_expression (hu : beginsAtom u = true) (hcomma : t ≠ .op ",")
    (h : self .expression (u :: ts) = some (shape, t :: rest)) :
    assigned self (u :: ts) = some (shape, t :: rest) := by
  have hstar : acceptOp "*" (u :: ts) = some (false, u :: ts) := by
    refine acceptOp_of_ne ?_ ts
    rintro rfl
    cases hu
  unfold assigned
  rw [bind_acceptWord hu (by decide)]
  unfold expressionRow
  rw [bind_of_eq (show _ = some ((shape, false), t :: rest) from ?_)]
  · exact bind_of_eq (acceptOp_of_ne hcomma rest)
  · rw [bind_of_eq hstar, if_neg Bool.false_ne_true, bind_of_eq h]
    rfl

/-! ## Lists of strings -/

/-- Some strings, each with a comma after it. -/
def itemTokens : ℕ → List Token
  | 0 => []
  | n + 1 => .string false [] :: .op "," :: itemTokens n

lemma takesRow_items (k n : ℕ) (rest : List Token) :
    TakesRow (displayItem (scan (k + 7))) (comma closes) (itemTokens (n + 1) ++ .op "]" :: rest)
      (List.replicate (n + 1) (Shape.value, false)) (.op "]" :: rest) := by
  induction n with
  | zero =>
    have hitem : displayItem (scan (k + 7)) (itemTokens 1 ++ .op "]" :: rest)
        = some ((.value, false), .op "," :: .op "]" :: rest) := rfl
    exact .last hitem rfl
  | succ n ih =>
    have hitem : displayItem (scan (k + 7)) (itemTokens (n + 2) ++ .op "]" :: rest)
        = some ((.value, false), .op "," :: (itemTokens (n + 1) ++ .op "]" :: rest)) := rfl
    exact .cons hitem rfl ih

lemma length_itemTokens (n : ℕ) : (itemTokens n).length = 2 * n := by
  induction n with
  | zero => rfl
  | succ n ih =>
    show (itemTokens n).length + 2 = _
    omega

/-- A list of strings is an atom. -/
lemma atom_list (k n : ℕ) (rest : List Token) :
    atom (scan (k + 7)) (.op "[" :: (itemTokens n ++ .op "]" :: rest))
      = some (.row (List.replicate n .value), rest) := by
  match n with
  | 0 => rfl
  | 1 => rfl
  | n + 2 =>
    have hrow := row_of_takesRow (takesRow_items k n rest) (by
      rw [List.length_replicate, List.length_append, length_itemTokens]
      omega)
    -- after the first item and its comma the others follow
    show (row (displayItem (scan (k + 7))) (comma closes) >>= fun more => do
      expect (.op "]")
      return Shape.row (.value :: more.map (·.1))) (itemTokens (n + 1) ++ .op "]" :: rest) = _
    rw [bind_of_eq hrow, List.map_replicate]
    rfl

end ClientGen.Source
