import ClientGen.Document.Reader
import Mathlib.Tactic.Common

/-!
# What readers take

Readers are put together from smaller ones, and what they take from the front of some tokens is put
together in the same way: one lemma for each way in which readers are combined, and one for each row
of items.

* `Row` tells, item by item, what is between two marks.
* `selectionWith_label` is what there is to a field, once its arguments and the selections below it
  have been read.
-/

namespace ClientGen.Document.Reader

variable {α β : Type} {ts mid rest : List Token}

/-! ## Single tokens -/

/-- One reader after the other. -/
lemma bind_eq {r : Reader α} {k : α → Reader β} {a : α} (h : r ts = some (a, mid)) :
    (r >>= k) ts = k a mid := by
  show (r ts).bind (fun p => k p.1 p.2) = _
  rw [h]
  rfl

lemma accept_self (t : Token) (rest : List Token) : accept t (t :: rest) = some (true, rest) := by
  simp [accept]

lemma accept_of_head {t : Token} (h : ts.head? ≠ some t) : accept t ts = some (false, ts) := by
  cases ts with
  | nil => rfl
  | cons u us =>
    have hne : u ≠ t := fun heq => h (congrArg some heq)
    simp [accept, hne]

lemma expect_self (t : Token) (rest : List Token) : expect t (t :: rest) = some ((), rest) := by
  unfold expect
  refine (bind_eq rfl).trans ?_
  rw [if_pos rfl]
  rfl

lemma name_eq (text : String) (rest : List Token) :
    name (.name text :: rest) = some (text, rest) :=
  rfl

/-! ## Rows -/

/-- The tokens hold some items, one after the other, and then the closing token. -/
inductive Row (item : Reader α) (close : Token) (rest : List Token) :
    List Token → List α → Prop where
  | close : Row item close rest (close :: rest) []
  | cons {ts mid : List Token} {a : α} {as : List α} (hstart : ts.head? ≠ some close)
      (hitem : item ts = some (a, mid)) (hshort : mid.length < ts.length)
      (hrow : Row item close rest mid as) : Row item close rest ts (a :: as)

section

variable {item : Reader α} {close opening : Token} {as : List α}

lemma itemsUntil_of_row (h : Row item close rest ts as) {fuel : Nat} (hfuel : ts.length ≤ fuel) :
    itemsUntil item close fuel ts = some (as, rest) := by
  induction h generalizing fuel with
  | close =>
    obtain ⟨fuel, rfl⟩ : ∃ n, fuel = n + 1 := ⟨fuel - 1, by simp at hfuel; omega⟩
    unfold itemsUntil
    refine (bind_eq (accept_self close rest)).trans ?_
    rfl
  | @cons ts mid a as hstart hitem hshort hrow ih =>
    obtain ⟨fuel, rfl⟩ : ∃ n, fuel = n + 1 := ⟨fuel - 1, by omega⟩
    unfold itemsUntil
    refine (bind_eq (accept_of_head hstart)).trans ?_
    refine (bind_eq hitem).trans ?_
    exact bind_eq (ih (by omega))

lemma items_of_row (h : Row item close rest ts as) : items item close ts = some (as, rest) :=
  itemsUntil_of_row h (Nat.le_refl _)

lemma someItems_of_row (h : Row item close rest ts as) (hne : as ≠ []) :
    someItems item close ts = some (as, rest) := by
  cases h with
  | close => exact absurd rfl hne
  | cons _ hitem _ hrow =>
    unfold someItems
    exact (bind_eq hitem).trans (bind_eq (items_of_row hrow))

lemma optionalItems_of_row (h : Row item close rest ts as) (hne : as ≠ []) :
    optionalItems opening item close (opening :: ts) = some (as, rest) := by
  unfold optionalItems
  refine (bind_eq (accept_self opening ts)).trans ?_
  exact someItems_of_row h hne

lemma optionalItems_of_head (h : ts.head? ≠ some opening) :
    optionalItems opening item close ts = some ([], ts) := by
  unfold optionalItems
  exact (bind_eq (accept_of_head h)).trans rfl

end

/-! ## Values -/

section

variable {constant : Bool} {fuel : Nat}

lemma valueWithin_list {vs : List Value}
    (h : Row (valueWithin constant fuel) (.mark ']') rest ts vs) :
    valueWithin constant (fuel + 1) (.mark '[' :: ts) = some (.list vs, rest) := by
  unfold valueWithin
  exact (bind_eq rfl).trans (bind_eq (items_of_row h))

lemma valueWithin_object {entries : List (String × Value)}
    (h : Row (entryWith (valueWithin constant fuel)) (.mark '\x7d') rest ts entries) :
    valueWithin constant (fuel + 1) (.mark '\x7b' :: ts) = some (.object entries, rest) := by
  unfold valueWithin
  exact (bind_eq rfl).trans (bind_eq (items_of_row h))

lemma entryWith_eq {item : Reader Value} {key : String} {v : Value}
    (h : item ts = some (v, rest)) :
    entryWith item (.name key :: .mark ':' :: ts) = some ((key, v), rest) := by
  unfold entryWith
  refine (bind_eq (name_eq key _)).trans ?_
  exact (bind_eq (expect_self _ ts)).trans (bind_eq h)

lemma argument_eq {key : String} {v : Value} (h : value constant ts = some (v, rest)) :
    argument constant (.name key :: .mark ':' :: ts) = some (⟨key, v⟩, rest) := by
  unfold argument
  refine (bind_eq (name_eq key _)).trans ?_
  exact (bind_eq (expect_self _ ts)).trans (bind_eq h)

end

/-! ## Fields and fragments -/

lemma directives_of_head {constant : Bool} (h : ts.head? ≠ some (.mark '@')) :
    directives constant ts = some ([], ts) := by
  unfold directives fueled
  cases hlength : ts.length with
  | zero => rfl
  | succ fuel =>
    unfold directivesWithin
    exact (bind_eq (accept_of_head h)).trans rfl

/-- The selections below a field: those of a selection set, or none where there is no set. -/
def Below (children : Reader (List SelectionNode)) (ts : List Token) (subs : List SelectionNode)
    (rest : List Token) : Prop :=
  ts.head? = some (.mark '\x7b') ∧ children ts = some (subs, rest)
    ∨ ts.head? ≠ some (.mark '\x7b') ∧ ts.head? ≠ some (.mark '@') ∧ subs = [] ∧ rest = ts

section

variable {children : Reader (List SelectionNode)} {args : List Argument}
  {subs : List SelectionNode}

lemma fieldBody_eq {alias? : Option String} {key : String}
    (hargs : arguments false ts = some (args, mid)) (hbelow : Below children mid subs rest) :
    fieldBody alias? key children ts = some (.field alias? key args [] subs, rest) := by
  unfold fieldBody
  refine (bind_eq hargs).trans ?_
  rcases hbelow with ⟨hopen, hsubs⟩ | ⟨hopen, hdirective, rfl, rfl⟩
  · have hdirective : mid.head? ≠ some (.mark '@') := by
      rw [hopen]
      decide
    refine (bind_eq (directives_of_head hdirective)).trans ((bind_eq rfl).trans ?_)
    rw [if_pos hopen]
    exact bind_eq hsubs
  · refine (bind_eq (directives_of_head hdirective)).trans ((bind_eq rfl).trans ?_)
    rw [if_neg hopen]
    rfl

/-- The tokens of the name of a field, with its alias in front. -/
def labelTokens (alias? : Option String) (key : String) : List Token :=
  match alias? with
  | none => [.name key]
  | some text => [.name text, .mark ':', .name key]

lemma selectionWith_label (alias? : Option String) (key : String)
    (hstart : ts.head? ≠ some (.mark ':')) (hargs : arguments false ts = some (args, mid))
    (hbelow : Below children mid subs rest) :
    selectionWith children (labelTokens alias? key ++ ts)
      = some (.field alias? key args [] subs, rest) := by
  have hbody (alias? : Option String) :
      fieldBody alias? key children ts = some (.field alias? key args [] subs, rest) :=
    fieldBody_eq hargs hbelow
  cases alias? with
  | none =>
    show fieldAfter key children ts = _
    unfold fieldAfter
    exact (bind_eq (accept_of_head hstart)).trans (hbody none)
  | some text =>
    show fieldAfter text children (.mark ':' :: .name key :: ts) = _
    unfold fieldAfter
    exact (bind_eq (accept_self _ _)).trans ((bind_eq (name_eq key ts)).trans (hbody (some text)))

/-- An inline fragment on a type. -/
lemma selectionWith_spread {type : String} (hopen : ts.head? = some (.mark '\x7b'))
    (hsubs : children ts = some (subs, rest)) :
    selectionWith children (.spread :: .name "on" :: .name type :: ts)
      = some (.inlineFragment (some type) [] subs, rest) := by
  have hdirective : ts.head? ≠ some (.mark '@') := by
    rw [hopen]
    decide
  show fragmentAfter children (.name "on" :: .name type :: ts) = _
  unfold fragmentAfter
  refine (bind_eq rfl).trans ((bind_eq rfl).trans ?_)
  rw [if_pos rfl]
  refine (bind_eq (name_eq type ts)).trans ?_
  refine (bind_eq (directives_of_head hdirective)).trans ?_
  exact bind_eq hsubs

lemma selectionSetWithin_of_row {fuel : Nat}
    (h : Row (selectionWith (selectionSetWithin fuel)) (.mark '\x7d') rest ts subs)
    (hne : subs ≠ []) :
    selectionSetWithin (fuel + 1) (.mark '\x7b' :: ts) = some (subs, rest) := by
  unfold selectionSetWithin
  refine (bind_eq (expect_self _ _)).trans ?_
  exact someItems_of_row h hne

end

/-! ## Documents -/

/-- The keyword of an operation begins no other definition. -/
lemma typeSystemAfter?_keyword (about : Option String) (kind : OperationKind) :
    typeSystemAfter? about kind.keyword = none := by
  cases kind <;> rfl

/-- An operation that has neither variables nor directives. -/
lemma operationAfter_eq {kind : OperationKind} {name? : Option String}
    {selections : List SelectionNode} (hopen : ts.head? = some (.mark '\x7b'))
    (h : selectionSet ts = some (selections, rest)) :
    operationAfter kind (name?.toList.map Token.name ++ ts)
      = some (⟨kind, name?, [], [], selections⟩, rest) := by
  have hparameters : ts.head? ≠ some (.mark '(') := by
    rw [hopen]
    decide
  have hdirective : ts.head? ≠ some (.mark '@') := by
    rw [hopen]
    decide
  unfold operationAfter
  cases name? with
  | none =>
    have hpeek : peek? ts = some (some (.mark '\x7b'), ts) := by
      unfold peek?
      rw [hopen]
    refine (bind_eq hpeek).trans ?_
    refine (bind_eq rfl).trans ((bind_eq (optionalItems_of_head hparameters)).trans ?_)
    exact (bind_eq (directives_of_head hdirective)).trans (bind_eq h)
  | some text =>
    refine (bind_eq rfl).trans ?_
    show (next >>= _) (.name text :: ts) = _
    refine (bind_eq rfl).trans ((bind_eq rfl).trans ?_)
    refine (bind_eq (optionalItems_of_head hparameters)).trans ?_
    exact (bind_eq (directives_of_head hdirective)).trans (bind_eq h)

/-- A document of one operation, which has neither variables nor directives. -/
lemma document_eq {kind : OperationKind} {name? : Option String} {selections : List SelectionNode}
    (hopen : ts.head? = some (.mark '\x7b')) (h : selectionSet ts = some (selections, [])) :
    document (.name kind.keyword :: (name?.toList.map Token.name ++ ts))
      = some ([.operation ⟨kind, name?, [], [], selections⟩], []) := by
  have hdefinition : definition (.name kind.keyword :: (name?.toList.map Token.name ++ ts))
      = some (.operation ⟨kind, name?, [], [], selections⟩, []) := by
    unfold definition
    refine (bind_eq rfl).trans ?_
    refine (bind_eq rfl).trans ?_
    refine (bind_eq (name_eq _ _)).trans ?_
    rw [typeSystemAfter?_keyword]
    unfold otherAfter
    rw [OperationKind.ofKeyword?_keyword]
    exact bind_eq (operationAfter_eq hopen h)
  unfold document fueled definitionsWithin
  exact bind_eq hdefinition

end ClientGen.Document.Reader
