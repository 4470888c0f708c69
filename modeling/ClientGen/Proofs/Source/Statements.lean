import ClientGen.Proofs.Source.Expressions

/-!
# Taking statements

What is taken from the front of a row of tokens as one statement, whatever comes after it: strings,
assignments, imports, and classes with a block. Statements one after the other form a program.

* `IsStatement` says that tokens are a statement, wherever they stand.
* `isStatement_assignment`, `isStatement_import` and `isStatement_class` are the forms.
* `areStatements_flatten` puts statements together; `areStatements_append` says that nothing else
  may come after them.
-/

namespace ClientGen.Source

open Scan
open Naming (keywords)

variable {self : Goals} {ts rest : List Token} {u : Token} {w : String} {shape : Shape}

/-! ## Statements without a block -/

/-- Tokens that are taken as one statement, whatever comes after them, where goals may be nested as
deeply as the depth says. -/
structure IsStatement (depth : Nat) (ts : List Token) : Prop where
  begins : ts.head?.any (· != .dedent) = true
  taken : ∀ k rest, scan (k + depth) .statement (ts ++ rest) = some (.value, rest)

/-- Goals may be nested more deeply than they need to be. -/
lemma IsStatement.of_le {depth depth' : ℕ} (h : IsStatement depth ts) (hle : depth ≤ depth') :
    IsStatement depth' ts := by
  refine ⟨h.begins, fun k rest => ?_⟩
  obtain ⟨more, rfl⟩ := Nat.exists_eq_add_of_le' hle
  rw [← Nat.add_assoc]
  exact h.taken (k + more) rest

lemma isStatement_string : IsStatement 15 [.string false [], .newline] :=
  ⟨rfl, fun _ _ => rfl⟩

lemma isStatement_pass : IsStatement 15 [.name "pass", .newline] :=
  ⟨rfl, fun _ _ => rfl⟩

/-- What begins with an atom is a simple statement. -/
lemma statement_of_beginsAtom (hu : beginsAtom u = true) (hmatch : u ≠ .name "match")
    (ts : List Token) : statement self (u :: ts) = simpleStatements self (u :: ts) := by
  have hdecorator : acceptOp "@" (u :: ts) = some (false, u :: ts) := by
    refine acceptOp_of_ne ?_ ts
    rintro rfl
    cases hu
  unfold statement
  -- no statement that is marked by a keyword begins with an atom
  repeat rw [bind_acceptWord hu (by decide)]
  rw [bind_of_eq hdecorator, if_neg Bool.false_ne_true]
  show (if some u == some (Token.name "match") then _ else simpleStatements self) (u :: ts) = _
  rw [if_neg (by simpa using hmatch)]

lemma simpleStatement_of_beginsAtom (hu : beginsAtom u = true) (ts : List Token) :
    simpleStatement self (u :: ts) = expressionStatement self (u :: ts) := by
  unfold simpleStatement
  dsimp only
  repeat rw [bind_acceptWord hu (by decide)]

/-- A statement on a line of its own. -/
lemma simpleStatements_of_expressionStatement (hu : beginsAtom u = true)
    (h : expressionStatement self (u :: ts) = some ((), .newline :: rest)) :
    simpleStatements self (u :: ts) = some ((), rest) := by
  have hone := (simpleStatement_of_beginsAtom hu ts).trans h
  unfold simpleStatements
  rw [bind_of_eq (row_of_item hone rfl)]
  rfl

/-- Behind a name, an equals sign begins an assignment; also behind `match`, which is no keyword. -/
lemma statement_of_assignment (hw : w ∉ keywords) (k : Nat) (ts : List Token) :
    statement (scan (k + 14)) (.name w :: .op "=" :: ts)
      = simpleStatements (scan (k + 14)) (.name w :: .op "=" :: ts) := by
  by_cases hmatch : w = "match"
  · subst hmatch
    rfl
  · exact statement_of_beginsAtom (by simpa [beginsAtom] using hw) (by simpa using hmatch) _

lemma expressionStatement_of_assignment (hw : w ∉ keywords) {k : Nat}
    (h : assigned (scan (k + 14)) ts = some (shape, .newline :: rest)) :
    expressionStatement (scan (k + 14)) (.name w :: .op "=" :: ts)
      = some ((), .newline :: rest) := by
  have hu : beginsAtom (.name w) = true := by simpa [beginsAtom] using hw
  have hname : assigned (scan (k + 14)) (.name w :: .op "=" :: ts) = some (.place, .op "=" :: ts) :=
    assigned_of_expression hu (by decide) (expression_of_name hw (by decide) (k + 7) ts)
  unfold expressionStatement
  rw [bind_of_eq hname]
  show (assigned (scan (k + 14)) >>= assignmentsWithin (scan (k + 14)) (ts.length + 1)) ts = _
  rw [bind_of_eq h]
  rfl

/-- What is assigned to a name is a statement. -/
lemma isStatement_assignment {value : List Token} (hw : w ∉ keywords)
    (h : ∀ k rest, assigned (scan (k + 14)) (value ++ .newline :: rest)
      = some (shape, .newline :: rest)) :
    IsStatement 15 (.name w :: .op "=" :: (value ++ [.newline])) := by
  refine ⟨rfl, fun k rest => ?_⟩
  have hu : beginsAtom (.name w) = true := by simpa [beginsAtom] using hw
  have hvalue : assigned (scan (k + 14)) (value ++ [.newline] ++ rest)
      = some (shape, .newline :: rest) := by
    rw [List.append_assoc]
    exact h k rest
  have hsimple := simpleStatements_of_expressionStatement hu
    (expressionStatement_of_assignment hw hvalue)
  show (statement (scan (k + 14)) >>= fun _ => pure Shape.value)
    (.name w :: .op "=" :: (value ++ [.newline] ++ rest)) = _
  rw [bind_of_eq ((statement_of_assignment hw k _).trans hsimple)]
  rfl

/-- A string is assigned to a name. -/
lemma isStatement_member (hw : w ∉ keywords) :
    IsStatement 15 [.name w, .op "=", .string false [], .newline] :=
  isStatement_assignment hw (fun _ _ => rfl : ∀ k rest, assigned (scan (k + 14))
    ([.string false []] ++ .newline :: rest) = some (.value, .newline :: rest))

/-- The tokens of an assignment of a list of strings. -/
def listTokens (name : String) (n : ℕ) : List Token :=
  .name name :: .op "=" :: .op "[" :: (itemTokens n ++ [.op "]", .newline])

/-- A list of strings is assigned to a name. -/
lemma isStatement_list (hw : w ∉ keywords) (n : ℕ) : IsStatement 15 (listTokens w n) := by
  have hlist : ∀ k rest, assigned (scan (k + 14))
      ((.op "[" :: (itemTokens n ++ [.op "]"])) ++ .newline :: rest)
        = some (.row (List.replicate n .value), .newline :: rest) := by
    intro k rest
    have hatom := atom_list (k + 1) n (.newline :: rest)
    rw [List.cons_append, List.append_assoc, List.singleton_append]
    exact assigned_of_expression rfl (by decide) (expression_of_atom rfl (by decide) hatom)
  simpa [listTokens] using isStatement_assignment hw hlist

/-! ## Imports -/

/-- Some names with commas between them, after the first. -/
def furtherNames (names : List String) : List Token :=
  names.flatMap fun n => [.op ",", .name n]

/-- Names with commas between them are taken one after the other. -/
lemma takesRow_names (hw : w ∉ keywords) {names : List String} (hnames : ∀ n ∈ names, n ∉ keywords)
    (rest : List Token) :
    TakesRow (do identifier; asName) (acceptOp ",")
      (.name w :: (furtherNames names ++ .newline :: rest)) (List.replicate (names.length + 1) ())
      (.newline :: rest) := by
  induction names generalizing w with
  | nil =>
    have hname : (do identifier; asName : Scan Unit) (.name w :: .newline :: rest)
        = some ((), .newline :: rest) := by
      rw [bind_of_eq (identifier_of_not_mem hw _)]
      rfl
    exact .last hname rfl
  | cons n names ih =>
    obtain ⟨hn, hnames⟩ := List.forall_mem_cons.mp hnames
    have hname : (do identifier; asName : Scan Unit)
        (.name w :: (furtherNames (n :: names) ++ .newline :: rest))
          = some ((), furtherNames (n :: names) ++ .newline :: rest) := by
      rw [bind_of_eq (identifier_of_not_mem hw _)]
      rfl
    exact .cons hname rfl (ih hn hnames)

lemma length_furtherNames (names : List String) :
    (furtherNames names).length = 2 * names.length := by
  induction names with
  | nil => rfl
  | cons n names ih =>
    show (furtherNames names).length + 2 = _
    rw [ih, List.length_cons]
    omega

/-- What comes from a module whose name has no dots. -/
lemma fromAfter_of_names {module : String} (hmodule : module ∉ keywords) (hw : w ∉ keywords)
    {names : List String} (hnames : ∀ n ∈ names, n ∉ keywords) (rest : List Token) :
    fromAfter (.name module :: .name "import" :: .name w
      :: (furtherNames names ++ .newline :: rest)) = some ((), .newline :: rest) := by
  set more : List Token := .name w :: (furtherNames names ++ .newline :: rest) with hmore
  have hdots : (fun ts : List Token =>
      let after := ts.dropWhile fun t => t == .op "." || t == .op "..."
      some (ts.length - after.length, after)) (.name module :: .name "import" :: more)
        = some (0, .name module :: .name "import" :: more) := by
    have hstays : (.name module :: .name "import" :: more : List Token).dropWhile
        (fun t => t == .op "." || t == .op "...") = .name module :: .name "import" :: more := rfl
    simp only [hstays, Nat.sub_self]
  have hdotted : dottedName (.name module :: .name "import" :: more)
      = some ((), .name "import" :: more) := by
    unfold dottedName
    rw [bind_of_eq (row_of_item (identifier_of_not_mem hmodule _) rfl)]
    rfl
  have hrow := row_of_takesRow (takesRow_names hw hnames rest) (by
    rw [List.length_replicate, List.length_cons, List.length_append, length_furtherNames]
    omega)
  unfold fromAfter
  rw [bind_of_eq hdots]
  show (dottedName >>= fun _ => do
    expect (.name "import")
    if ← acceptOp "*" then pure ()
    else if ← acceptOp "(" then
      let _ ← row (do identifier; asName) (comma closes)
      expect (.op ")")
    else
      let _ ← row (do identifier; asName) (acceptOp ",")) (.name module :: .name "import" :: more)
    = _
  rw [bind_of_eq hdotted]
  show (row (do identifier; asName) (acceptOp ",") >>= fun _ => pure ()) more = _
  rw [hmore, bind_of_eq hrow]
  rfl

/-- The tokens of an import of names from a module. -/
def importTokens (module first : String) (others : List String) : List Token :=
  .name "from" :: .name module :: .name "import" :: .name first
    :: (furtherNames others ++ [.newline])

/-- Names that are imported from a module. -/
lemma isStatement_import {module : String} (hmodule : module ∉ keywords) (hw : w ∉ keywords)
    {names : List String} (hnames : ∀ n ∈ names, n ∉ keywords) :
    IsStatement 15 (importTokens module w names) := by
  refine ⟨rfl, fun k rest => ?_⟩
  have hfrom := fromAfter_of_names hmodule hw hnames rest
  have hsimple : simpleStatement (scan (k + 14)) (.name "from" :: .name module :: .name "import"
      :: .name w :: (furtherNames names ++ .newline :: rest)) = some ((), .newline :: rest) := hfrom
  have hstatement : statement (scan (k + 14)) (.name "from" :: .name module :: .name "import"
      :: .name w :: (furtherNames names ++ .newline :: rest)) = some ((), rest) := by
    show simpleStatements (scan (k + 14)) _ = _
    unfold simpleStatements
    rw [bind_of_eq (row_of_item hsimple rfl)]
    rfl
  simp only [importTokens, List.cons_append, List.append_assoc, List.nil_append]
  exact bind_of_eq hstatement

/-! ## Classes -/

lemma takesRow_statements {depth : ℕ} {parts : List (List Token)} (hsome : parts ≠ [])
    (h : ∀ p ∈ parts, IsStatement depth p) (k : ℕ) (rest : List Token) :
    TakesRow (scan (k + depth) .statement) (do return (← peek?) ≠ some .dedent)
      (parts.flatten ++ .dedent :: rest) (List.replicate parts.length .value)
      (.dedent :: rest) := by
  induction parts with
  | nil => exact absurd rfl hsome
  | cons p parts ih =>
    obtain ⟨hp, hparts⟩ := List.forall_mem_cons.mp h
    have htaken := hp.taken k (parts.flatten ++ .dedent :: rest)
    rw [List.flatten_cons, List.append_assoc]
    cases parts with
    | nil => exact .last htaken rfl
    | cons q parts =>
      refine .cons htaken ?_ (ih (List.cons_ne_nil _ _) hparts)
      have hq := (hparts q List.mem_cons_self).begins
      cases q with
      | nil => cases hq
      | cons t q =>
        show some (decide (some t ≠ some .dedent), _) = _
        rw [decide_eq_true (by simpa using hq)]

lemma length_le_flatten {depth : ℕ} {parts : List (List Token)}
    (h : ∀ p ∈ parts, IsStatement depth p) : parts.length ≤ parts.flatten.length := by
  induction parts with
  | nil => exact Nat.le_refl 0
  | cons p parts ih =>
    obtain ⟨hp, hparts⟩ := List.forall_mem_cons.mp h
    have hpos : 0 < p.length := by
      refine List.length_pos_iff.mpr ?_
      rintro rfl
      cases hp.begins
    have hmore := ih hparts
    rw [List.flatten_cons, List.length_append, List.length_cons]
    omega

/-- A block of statements. -/
lemma block_of_statements {depth : ℕ} {parts : List (List Token)} (hsome : parts ≠ [])
    (h : ∀ p ∈ parts, IsStatement depth p) (k : ℕ) (rest : List Token) :
    block (scan (k + depth)) (.op ":" :: .newline :: .indent :: (parts.flatten ++ .dedent :: rest))
      = some ((), rest) := by
  have hlength := length_le_flatten h
  have hrow := row_of_takesRow (takesRow_statements hsome h k rest) (by
    rw [List.length_replicate, List.length_append]
    omega)
  show (row (scan (k + depth) .statement) (do return (← peek?) ≠ some .dedent) >>= fun _ =>
    expect .dedent) (parts.flatten ++ .dedent :: rest) = _
  rw [bind_of_eq hrow]
  rfl

/-- A class with bases and a block of statements. -/
lemma isStatement_class {depth : ℕ} {bases : List Token} {parts : List (List Token)}
    (hw : w ∉ keywords)
    (hbases : ∀ k rest, argumentsAfter (scan (k + depth)) (bases ++ rest) = some ((), rest))
    (hsome : parts ≠ []) (h : ∀ p ∈ parts, IsStatement depth p) :
    IsStatement (depth + 1) (.name "class" :: .name w :: .op "(" :: (bases
      ++ .op ":" :: .newline :: .indent :: (parts.flatten ++ [.dedent]))) := by
  refine ⟨rfl, fun k rest => ?_⟩
  have hblock := block_of_statements hsome h k rest
  have hclass : classAfter (scan (k + depth)) (.name w :: .op "(" :: (bases
      ++ .op ":" :: .newline :: .indent :: (parts.flatten ++ .dedent :: rest)))
        = some ((), rest) := by
    unfold classAfter
    rw [bind_of_eq (identifier_of_not_mem hw _)]
    show (argumentsAfter (scan (k + depth)) >>= fun _ => block (scan (k + depth))) _ = _
    rw [bind_of_eq (hbases k _)]
    exact hblock
  simp only [List.cons_append, List.append_assoc, List.nil_append]
  exact bind_of_eq hclass

/-- A class is no statement if it is named like a keyword. -/
lemma scan_class_of_mem (hw : w ∈ keywords) (k : ℕ) (ts : List Token) :
    scan (k + 1) .statement (.name "class" :: .name w :: ts) = none := by
  have hclass : classAfter (scan k) (.name w :: ts) = none :=
    bind_of_none (identifier_of_mem hw ts)
  exact bind_of_none hclass

/-! ## Programs -/

/-- A statement, if there is one. -/
def nextStatement (depth : ℕ) : Scan Bool := do
  if (← peek?).isNone then return false
  let _ ← scan depth .statement
  return true

/-- Statements are taken one after the other. -/
lemma repeatWithin_statements {depth : ℕ} {parts : List (List Token)}
    (h : ∀ p ∈ parts, IsStatement depth p) (k fuel : ℕ) (rest : List Token) :
    repeatWithin (nextStatement (k + depth)) (fuel + parts.length) (parts.flatten ++ rest)
      = repeatWithin (nextStatement (k + depth)) fuel rest := by
  induction parts with
  | nil => rfl
  | cons p parts ih =>
    obtain ⟨hp, hparts⟩ := List.forall_mem_cons.mp h
    have htaken := hp.taken k (parts.flatten ++ rest)
    have hnext : nextStatement (k + depth) (p ++ (parts.flatten ++ rest))
        = some (true, parts.flatten ++ rest) := by
      have hbegins := hp.begins
      cases p with
      | nil => cases hbegins
      | cons t p =>
        show (scan (k + depth) .statement >>= fun _ => pure true) _ = _
        rw [bind_of_eq htaken]
        rfl
    rw [List.flatten_cons, List.append_assoc, List.length_cons, ← Nat.add_assoc]
    show (nextStatement (k + depth) >>= fun more =>
      if more then repeatWithin _ (fuel + parts.length) else pure ()) _ = _
    rw [bind_of_eq hnext]
    exact ih hparts

lemma areStatements_eq (ts : List Token) :
    areStatements ts
      = (repeatWithin (nextStatement (depthOf ts)) (ts.length + 1) ts).isSome := rfl

/-- Statements one after the other form a program, as deep as their tokens allow. -/
theorem areStatements_flatten {parts : List (List Token)} (h : ∀ p ∈ parts, IsStatement 16 p) :
    areStatements parts.flatten = true := by
  by_cases hnone : parts.flatten = []
  · rw [hnone]
    rfl
  have hpos := List.length_pos_iff.mpr hnone
  have hlength := length_le_flatten h
  obtain ⟨k, hk⟩ := Nat.exists_eq_add_of_le' (show 16 ≤ depthOf parts.flatten by
    unfold depthOf
    omega)
  obtain ⟨fuel, hfuel⟩ := Nat.exists_eq_add_of_le' (Nat.succ_le_succ hlength)
  have hfuel : parts.flatten.length + 1 = (fuel + 1) + parts.length := by omega
  have hrun := repeatWithin_statements h k (fuel + 1) []
  rw [List.append_nil] at hrun
  rw [areStatements_eq, hk, hfuel, hrun]
  rfl

/-- They form none, if something comes after them that is no statement. -/
theorem areStatements_append {parts : List (List Token)} (h : ∀ p ∈ parts, IsStatement 16 p)
    (hbegins : ts ≠ []) (hbad : ∀ k, scan (k + 1) .statement ts = none) :
    areStatements (parts.flatten ++ ts) = false := by
  have hpos := List.length_pos_iff.mpr hbegins
  have hlength := length_le_flatten h
  have hall : (parts.flatten ++ ts).length = parts.flatten.length + ts.length :=
    List.length_append
  obtain ⟨k, hk⟩ := Nat.exists_eq_add_of_le' (show 16 ≤ depthOf (parts.flatten ++ ts) by
    unfold depthOf
    omega)
  obtain ⟨fuel, hfuel⟩ := Nat.exists_eq_add_of_le'
    (show parts.length + 1 ≤ (parts.flatten ++ ts).length + 1 by omega)
  have hfuel : (parts.flatten ++ ts).length + 1 = (fuel + 1) + parts.length := by omega
  have hnext : nextStatement (k + 16) ts = none := by
    cases ts with
    | nil => exact absurd rfl hbegins
    | cons t ts =>
      show (scan (k + 16) .statement >>= fun _ => pure true) (t :: ts) = none
      exact bind_of_none (hbad (k + 15))
  rw [areStatements_eq, hk, hfuel, repeatWithin_statements h k (fuel + 1) ts]
  unfold repeatWithin
  rw [bind_of_none hnext]
  rfl

/-- A text whose strings have no slots is a program if its tokens form statements. -/
lemma isProgram_of_tokens {text : String} (htokens : tokens? text = some ts)
    (hslots : ∀ t ∈ ts, t.slots = []) : isProgram text = areStatements ts := by
  have hall : (ts.all fun t => t.slots.all fun e => isText text.length areAtom s!"({e})") = true :=
    List.all_eq_true.mpr fun t ht => by rw [hslots t ht, List.all_nil]
  unfold isProgram isText
  rw [htokens, Option.any_some, hall, Bool.and_true]

end ClientGen.Source
