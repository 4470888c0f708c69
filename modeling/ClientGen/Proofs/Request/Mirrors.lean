import ClientGen.Proofs.Request.History

/-!
# Trees that mirror their histories

The tree below a node, from the history of the projection: the fields as they were selected first,
each with what was attached there last and with the arguments that were passed last, and then the
fragments. This is an equation for all nodes at once, and it determines what is selected below each
of them as long as no node is below itself.

* `Projection.tree_eq`: the fuel of the tree is enough, whatever its shape.
* `Built.meaning_tree`: what is selected below a node mirrors what was done to it.
-/

namespace ClientGen.Request

open Document (SelectionNode)
open Document.Token (isName)

/-! ## Trees -/

/-- The nodes below a node. -/
def Node.below (n : Node) : List Nat :=
  n.fields.filterMap (·.2) ++ n.fragments

lemma Node.mem_below_of_mem_fields (n : Node) {field : String} {id : Nat}
    (h : (field, some id) ∈ n.fields) : id ∈ n.below :=
  List.mem_append_left _ (List.mem_filterMap.mpr ⟨(field, some id), h, rfl⟩)

namespace Projection

variable {p : Projection} {height : Nat → Nat} {id : Nat} {n : Node}

/-- Every node is higher than the nodes below it. -/
def HasHeights (p : Projection) (height : Nat → Nat) : Prop :=
  ∀ id n, p.node? id = some n → ∀ below ∈ n.below, height below < height id

/-- No node is below itself. -/
def IsGrounded (p : Projection) : Prop :=
  ∃ height, p.HasHeights height

/-- How many nodes are lower than a node. -/
def lowerNodes (p : Projection) (height : Nat → Nat) (id : Nat) : Nat :=
  ((List.range p.nodes.length).filter (height · < height id)).length

lemma lowerNodes_lt_length (p : Projection) (height : Nat → Nat) (hid : id < p.nodes.length) :
    lowerNodes p height id < p.nodes.length := by
  have hlt : lowerNodes p height id < (List.range p.nodes.length).length :=
    List.length_filter_lt_length_iff_exists.mpr ⟨id, List.mem_range.mpr hid, by simp⟩
  rwa [List.length_range] at hlt

lemma lowerNodes_lt {below : Nat} (hbelow : below < p.nodes.length)
    (hlt : height below < height id) : lowerNodes p height below < lowerNodes p height id := by
  have hcut : (List.range p.nodes.length).filter (height · < height below)
      = ((List.range p.nodes.length).filter (height · < height id)).filter
          (height · < height below) := by
    rw [List.filter_filter]
    refine List.filter_congr fun other _ => ?_
    by_cases h : height other < height below
    · have hother : height other < height id := by omega
      simp [h, hother]
    · simp [h]
  unfold lowerNodes
  rw [hcut]
  refine List.length_filter_lt_length_iff_exists.mpr ⟨below, ?_, by simp⟩
  exact List.mem_filter.mpr ⟨List.mem_range.mpr hbelow, by simpa using hlt⟩

lemma lt_length_of_node? (hn : p.node? id = some n) : id < p.nodes.length :=
  (List.getElem?_eq_some_iff.mp hn).1

/-- Where there is no node, there is nothing. -/
lemma treeWithin_of_node?_none (hnone : p.node? id = none) (fuel : Nat) :
    p.treeWithin fuel id = .empty none := by
  cases fuel with
  | zero => rfl
  | succ fuel => rw [treeWithin, hnone]

/-- More fuel than there are lower nodes makes no difference. -/
lemma treeWithin_eq (hheight : p.HasHeights height) {fuel fuel' : Nat}
    (hfuel : lowerNodes p height id < fuel) (hfuel' : lowerNodes p height id < fuel') :
    p.treeWithin fuel id = p.treeWithin fuel' id := by
  induction fuel generalizing id fuel' with
  | zero => omega
  | succ fuel ih =>
    obtain ⟨fuel', rfl⟩ : ∃ k, fuel' = k + 1 := ⟨fuel' - 1, by omega⟩
    cases hn : p.node? id with
    | none => rw [treeWithin_of_node?_none hn, treeWithin_of_node?_none hn]
    | some n =>
      have hbelow : ∀ below ∈ n.below, p.treeWithin fuel below = p.treeWithin fuel' below := by
        intro below hmem
        cases hm : p.node? below with
        | none => rw [treeWithin_of_node?_none hm, treeWithin_of_node?_none hm]
        | some m =>
          have hlt := lowerNodes_lt (lt_length_of_node? hm) (hheight id n hn below hmem)
          exact ih (by omega) (by omega)
      have hfields : ∀ f ∈ n.fields,
          (f.1, f.2.map (p.treeWithin fuel)) = (f.1, f.2.map (p.treeWithin fuel')) := by
        rintro ⟨field, below?⟩ hf
        cases below? with
        | none => rfl
        | some below =>
          simp [hbelow below (n.mem_below_of_mem_fields hf)]
      simp only [treeWithin, hn]
      rw [List.map_congr_left hfields,
        List.map_congr_left fun below hmem => hbelow below (List.mem_append_right _ hmem)]

/-- The tree below a node, from the trees below the nodes below it. -/
theorem tree_eq (hgrounded : p.IsGrounded) (hn : p.node? id = some n) :
    p.tree id = .node n.type? (n.fields.map fun f => (f.1, f.2.map p.tree)) n.arguments
      (n.fragments.map p.tree) := by
  obtain ⟨height, hheight⟩ := hgrounded
  have hlt := lowerNodes_lt_length p height (lt_length_of_node? hn)
  have hmore : p.tree id = p.treeWithin (p.nodes.length + 1) id :=
    treeWithin_eq hheight hlt (by omega)
  rw [hmore, treeWithin, hn]
  rfl

end Projection

/-! ## What mirrors a history -/

/-- The fields that were selected, each where it was selected first. -/
def fieldsOf (events : List NodeEvent) : List String :=
  ((events.filterMap NodeEvent.selection?).map (·.1)).eraseDups

/-- What is below a field: what was there when it was selected last. -/
def childOf (events : List NodeEvent) (field : String) : Option Nat :=
  (Entries.get? field (events.filterMap NodeEvent.selection?).reverse).join

/-- The fragments in the order in which they were appended, with their types. -/
def fragmentsOf (events : List NodeEvent) : List (String × Nat) :=
  events.filterMap NodeEvent.narrowing?

/-- The selections that mirror what was done to a node, from those below other nodes. -/
def mirrored (below : Nat → List SelectionNode) (events : List NodeEvent) : List SelectionNode :=
  orTypename
    ((fieldsOf events).map (fun field =>
        selectedField field (passedTo events field) (((childOf events field).map below).getD []))
      ++ (fragmentsOf events).map fun f => .inlineFragment (some f.1) [] (below f.2))

/-- The nodes that an event attaches. -/
def NodeEvent.attached : NodeEvent → List Nat
  | selected _ below? => below?.toList
  | narrowed _ below => [below]
  | passed _ _ => []

/-- The names in the event are names of the grammar, and the arguments are plain. -/
def NodeEvent.IsPlain : NodeEvent → Prop
  | selected field _ => isName field = true
  | narrowed type _ => isName type = true
  | passed _ arguments => ArePlain arguments

instance : (e : NodeEvent) → Decidable e.IsPlain
  | .selected field _ => inferInstanceAs (Decidable (isName field = true))
  | .narrowed type _ => inferInstanceAs (Decidable (isName type = true))
  | .passed _ arguments => inferInstanceAs (Decidable (ArePlain arguments))

section

variable {p : Projection} {h : History} {id : Nat}

lemma History.mem_of_mem_at {e : NodeEvent} (he : e ∈ h.at id) : (id, e) ∈ h := by
  obtain ⟨⟨other, e'⟩, hmem, heq⟩ := List.mem_filterMap.mp he
  by_cases hid : other = id
  · rw [if_pos hid] at heq
    cases heq
    rwa [hid] at hmem
  · rw [if_neg hid] at heq
    cases heq

lemma History.selected_mem {field : String} {below? : Option Nat}
    (hmem : (field, below?) ∈ (h.at id).filterMap NodeEvent.selection?) :
    (id, .selected field below?) ∈ h := by
  obtain ⟨e, he, hselection⟩ := List.mem_filterMap.mp hmem
  cases e <;> cases hselection
  exact mem_of_mem_at he

lemma History.narrowed_mem {type : String} {below : Nat}
    (hmem : (type, below) ∈ fragmentsOf (h.at id)) : (id, .narrowed type below) ∈ h := by
  obtain ⟨e, he, hnarrowing⟩ := List.mem_filterMap.mp hmem
  cases e <;> cases hnarrowing
  exact mem_of_mem_at he

lemma History.passed_mem {field : String} {arguments : List (String × Value)}
    (hmem : (field, arguments) ∈ (h.at id).filterMap NodeEvent.passing?) :
    (id, .passed field arguments) ∈ h := by
  obtain ⟨e, he, hpassing⟩ := List.mem_filterMap.mp hmem
  cases e <;> cases hpassing
  exact mem_of_mem_at he

/-- What a node holds, from what was done to it. -/
lemma Agrees.exists_node (hagrees : Agrees p h) (hid : id < p.nodes.length) :
    ∃ n, p.node? id = some n
      ∧ n.fields = Entries.ofList ((h.at id).filterMap NodeEvent.selection?)
      ∧ (∀ field, recordedArguments field n.arguments = passedTo (h.at id) field)
      ∧ n.fragments = (fragmentsOf (h.at id)).map (·.2) := by
  obtain ⟨type?, role, hn⟩ := hagrees.node id hid
  exact ⟨_, hn, Node.fields_after type? role _, Node.recordedArguments_after type? role _,
    Node.fragments_after type? role _⟩

/-- The type of a fragment is the one that it was appended with. -/
lemma Agrees.condition_tree (hagrees : Agrees p h) (hgrounded : p.IsGrounded) {type : String}
    {below : Nat} (hmem : (type, below) ∈ fragmentsOf (h.at id)) :
    (p.tree below).condition = type := by
  obtain ⟨n, hn, htype⟩ := hagrees.refers _ (History.narrowed_mem hmem)
  rw [Projection.tree_eq hgrounded hn, SelectionTree.condition, SelectionTree.type?, htype]
  rfl

/-- What is selected below a node mirrors what was done to it. -/
theorem Agrees.meaning_tree (hagrees : Agrees p h) (hgrounded : p.IsGrounded)
    (hid : id < p.nodes.length) :
    (p.tree id).meaning = mirrored (fun below => (p.tree below).meaning) (h.at id) := by
  obtain ⟨n, hn, hfields, harguments, hfragments⟩ := hagrees.exists_node hid
  rw [Projection.tree_eq hgrounded hn, SelectionTree.meaning, SelectionTree.fieldMeanings_eq_map,
    SelectionTree.fragmentMeanings_eq_map, mirrored]
  have hnames : fieldsOf (h.at id) = n.fields.map (·.1) := by
    rw [hfields, Entries.keys_ofList]
    rfl
  have hchild : ∀ f ∈ n.fields, childOf (h.at id) f.1 = f.2 := by
    intro f hf
    rw [childOf, ← Entries.get?_ofList, ← hfields, Entries.get?_of_mem (a := f.2) ?_ hf]
    · rfl
    · rw [hfields]
      exact Entries.nodup_keys_ofList _
  have hselected : (n.fields.map fun f => (f.1, f.2.map p.tree)).map (fun f =>
        selectedField f.1 (recordedArguments f.1 n.arguments)
          ((f.2.map SelectionTree.meaning).getD []))
      = (fieldsOf (h.at id)).map fun field => selectedField field (passedTo (h.at id) field)
          (((childOf (h.at id) field).map fun below => (p.tree below).meaning).getD []) := by
    rw [hnames, List.map_map, List.map_map]
    refine List.map_congr_left fun f hf => ?_
    simp only [Function.comp_apply]
    rw [harguments, hchild f hf, Option.map_map]
    rfl
  have hnarrowed : (n.fragments.map p.tree).map (fun f =>
        SelectionNode.inlineFragment (some f.condition) [] f.meaning)
      = (fragmentsOf (h.at id)).map fun f =>
          .inlineFragment (some f.1) [] (p.tree f.2).meaning := by
    rw [hfragments, List.map_map, List.map_map]
    refine List.map_congr_left fun f hf => ?_
    simp only [Function.comp_apply]
    rw [hagrees.condition_tree hgrounded hf]
  rw [hselected, hnarrowed]

/-- What is below a node was attached there. -/
lemma Agrees.exists_attached (hagrees : Agrees p h) {n : Node} (hn : p.node? id = some n)
    {below : Nat} (hbelow : below ∈ n.below) : ∃ e, (id, e) ∈ h ∧ below ∈ e.attached := by
  obtain ⟨n', hn', hfields, -, hfragments⟩ := hagrees.exists_node (Projection.lt_length_of_node? hn)
  cases hn.symm.trans hn'
  rcases List.mem_append.mp hbelow with hfield | hfragment
  · rw [hfields] at hfield
    obtain ⟨⟨field, below?⟩, hmem, rfl⟩ := List.mem_filterMap.mp hfield
    refine ⟨_, History.selected_mem (Entries.mem_of_mem_ofList hmem), ?_⟩
    simp [NodeEvent.attached]
  · rw [hfragments] at hfragment
    obtain ⟨⟨type, _⟩, hmem, rfl⟩ := List.mem_map.mp hfragment
    exact ⟨_, History.narrowed_mem hmem, List.mem_singleton_self _⟩

lemma Agrees.lt_length_of_mem_below (hagrees : Agrees p h) {n : Node} (hn : p.node? id = some n)
    {below : Nat} (hbelow : below ∈ n.below) : below < p.nodes.length := by
  obtain ⟨e, he, hattached⟩ := hagrees.exists_attached hn hbelow
  have hrefers := hagrees.refers _ he
  cases e with
  | selected field below? => exact hrefers below (Option.mem_toList.mp hattached)
  | narrowed type other =>
    obtain ⟨m, hm, -⟩ := hrefers
    rw [List.mem_singleton.mp hattached]
    exact Projection.lt_length_of_node? hm
  | passed field arguments => cases hattached

/-- Where nodes are attached only below earlier ones, no node is below itself. -/
theorem Agrees.isGrounded (hagrees : Agrees p h)
    (hlater : ∀ e ∈ h, ∀ below ∈ e.2.attached, e.1 < below) : p.IsGrounded := by
  refine ⟨fun id => p.nodes.length - id, fun id n hn below hbelow => ?_⟩
  have hid := Projection.lt_length_of_node? hn
  obtain ⟨e, he, hattached⟩ := hagrees.exists_attached hn hbelow
  have hlt : id < below := hlater _ he below hattached
  show p.nodes.length - below < p.nodes.length - id
  omega

/-- Nothing else mirrors the history: what is below one node determines what is below the nodes
above it. -/
theorem Agrees.mirrored_unique (hagrees : Agrees p h) (hgrounded : p.IsGrounded)
    {below other : Nat → List SelectionNode}
    (hbelow : ∀ id < p.nodes.length, below id = mirrored below (h.at id))
    (hother : ∀ id < p.nodes.length, other id = mirrored other (h.at id))
    (hid : id < p.nodes.length) : below id = other id := by
  obtain ⟨height, hheight⟩ := hgrounded
  induction hlevel : height id using Nat.strongRecOn generalizing id with
  | _ level ih =>
  obtain ⟨n, hn, hfields, -, hfragments⟩ := hagrees.exists_node hid
  have hsame : ∀ c ∈ n.below, below c = other c := fun c hc =>
    ih _ (hlevel ▸ hheight id n hn c hc) (hagrees.lt_length_of_mem_below hn hc) rfl
  have hchild (field : String) :
      (childOf (h.at id) field).map below = (childOf (h.at id) field).map other := by
    cases hc : childOf (h.at id) field with
    | none => rfl
    | some c =>
      rw [childOf, ← Entries.get?_ofList, ← hfields, Option.join_eq_some_iff] at hc
      have hmem := n.mem_below_of_mem_fields (Entries.mem_of_get?_eq_some hc)
      simp [hsame c hmem]
  have hnarrowed : (fragmentsOf (h.at id)).map (fun f =>
        SelectionNode.inlineFragment (some f.1) [] (below f.2))
      = (fragmentsOf (h.at id)).map fun f => .inlineFragment (some f.1) [] (other f.2) := by
    refine List.map_congr_left fun f hf => ?_
    rw [hsame f.2]
    refine List.mem_append_right _ ?_
    rw [hfragments]
    exact List.mem_map_of_mem hf
  rw [hbelow id hid, hother id hid, mirrored, mirrored, hnarrowed]
  simp only [hchild]

lemma arePlain_passedTo (hplain : ∀ e ∈ h, e.2.IsPlain) (field : String) :
    ArePlain (passedTo (h.at id) field) := by
  unfold passedTo
  cases hget : Entries.get? field ((h.at id).filterMap NodeEvent.passing?).reverse with
  | none => exact nofun
  | some arguments =>
    have hmem := Entries.mem_of_get?_eq_some hget
    have hpassed := History.passed_mem (List.mem_reverse.mp hmem)
    intro a ha
    exact hplain _ hpassed a (List.mem_filter.mp ha).1

/-- The tree below a node is plain if all that was done is. -/
theorem Agrees.isPlain_tree (hagrees : Agrees p h) (hgrounded : p.IsGrounded)
    (hplain : ∀ e ∈ h, e.2.IsPlain) (hid : id < p.nodes.length) : (p.tree id).IsPlain := by
  have hall := hgrounded
  obtain ⟨height, hheight⟩ := hgrounded
  induction hlevel : height id using Nat.strongRecOn generalizing id with
  | _ level ih =>
  obtain ⟨n, hn, hfields, harguments, hfragments⟩ := hagrees.exists_node hid
  have hbelow : ∀ below ∈ n.below, (p.tree below).IsPlain := fun below hmem =>
    ih _ (hlevel ▸ hheight id n hn below hmem) (hagrees.lt_length_of_mem_below hn hmem) rfl
  rw [Projection.tree_eq hall hn]
  refine ⟨SelectionTree.arePlainFields_of_forall ?_, SelectionTree.arePlainFragments_of_forall ?_⟩
  · intro f' hf'
    obtain ⟨⟨field, below?⟩, hf, rfl⟩ := List.mem_map.mp hf'
    have hmem := hf
    rw [hfields] at hmem
    have hselected := History.selected_mem (Entries.mem_of_mem_ofList hmem)
    refine ⟨hplain _ hselected, ?_, fun t ht => ?_⟩
    · rw [harguments]
      exact arePlain_passedTo hplain field
    · obtain ⟨below, rfl, rfl⟩ := Option.map_eq_some_iff.mp ht
      exact hbelow below (n.mem_below_of_mem_fields hf)
  · intro t ht
    obtain ⟨below, hmem, rfl⟩ := List.mem_map.mp ht
    have hpair := hmem
    rw [hfragments] at hpair
    obtain ⟨⟨type, _⟩, hfragment, rfl⟩ := List.mem_map.mp hpair
    have hnarrowed := History.narrowed_mem hfragment
    refine ⟨?_, hbelow _ (List.mem_append_right _ hmem)⟩
    rw [hagrees.condition_tree hall hfragment]
    exact hplain _ hnarrowed

end

end ClientGen.Request
