import GraphQuery.Proofs.Rendering.Spelling
import GraphQuery.Proofs.Text.Chain
import GraphQuery.Store.Part

/-!
Chains as trees, and what they are written as where names are spelt as words.

* `Chain.tree`: a chain of references and parameters as a tree.
* `Chain.spelt`: the chain with the spellings of its labels and keys.
* `Chain.shown_tree`: the tree is written as the chain that is spelt so.
-/

namespace GraphQuery

open Text (print)

/-! ### Trees of chains -/

/-- A node as a tree. -/
def Spot.tree (s : Spot Reference Param) : Tree :=
  .node (.reference s.label) s.names (s.properties.map propertyTree)

/-- A relationship and the node that it leads to, as trees. -/
def Leg.trees (l : Leg Reference Param) : List Tree :=
  [.relationship (.reference l.label) l.type (l.properties.map propertyTree) l.direction,
    l.node.tree]

/-- What is asked about in an element. -/
def Spot.asks (s : Spot Reference Param) : List Ask :=
  .label s.label :: s.properties.map fun p => .key p.2

namespace Chain

variable (c : Chain Reference Param)

/-- A chain as a tree. -/
def tree : Tree := .pattern (c.node.tree :: c.legs.flatMap Leg.trees)

/-- What is asked about in a chain, from left to right. -/
def asks : List Ask := c.spots.flatMap Spot.asks

end Chain

section Spelt

variable (e : Environment)

/-- How an environment spells the label of a reference. -/
def Environment.label (r : Reference) : String := e.spelling (.label r)

/-- How an environment spells the key of a parameter. -/
def Environment.key (p : Param) : String := e.spelling (.key p)

/-- A chain with its labels and keys as an environment spells them. -/
def Chain.spelt (c : Chain Reference Param) : Chain String String := c.map e.label e.key

end Spelt

/-! ### Templates of chains -/

/-- What stands in the brackets of an element. -/
def Spot.template (s : Spot Reference Param) : Template :=
  [.label (.reference s.label), .text (labelsText s.names)] ++
    braced (s.properties.map fun p => (p.1, [.key p.2]))

theorem entries_properties (ps : List (Name × Param)) :
    Tree.entries (ps.map propertyTree) = ps.map fun p => (p.1, [.key p.2]) := by
  induction ps with
  | nil => rfl
  | cons p ps ih =>
    simp only [List.map_cons, propertyTree, Tree.entries, Tree.template] at ih ⊢
    rw [ih]

/-- Nothing stands between parts that are joined by nothing. -/
theorem Template.join_nil (ts : List Template) : join [] ts = ts.flatten := by
  induction ts with
  | nil => rfl
  | cons t ts ih =>
    cases ts with
    | nil => simp [join]
    | cons u ts => rw [join, ih, List.append_nil, List.flatten_cons] <;> simp

theorem Spot.template_tree (s : Spot Reference Param) :
    s.tree.template = .text "(" :: s.template ++ [.text ")"] := by
  simp only [Spot.tree, Tree.template, nodeTemplate, entries_properties]
  rfl

/-- A relationship and its node as they are written. -/
theorem Leg.items_trees (l : Leg Reference Param) :
    Tree.items l.trees =
      [.text (l.direction.tail ++ "[") :: l.spot.template ++ [.text ("]" ++ l.direction.tip)],
        .text "(" :: l.node.template ++ [.text ")"]] := by
  have relationship : Tree.template (.relationship (.reference l.label) l.type
      (l.properties.map propertyTree) l.direction) =
        .text (l.direction.tail ++ "[") :: l.spot.template ++ [.text ("]" ++ l.direction.tip)] := by
    simp only [Tree.template, relationshipTemplate, entries_properties]
    rfl
  simp only [Leg.trees, Tree.items, relationship, Spot.template_tree]
  rfl

theorem Tree.items_append (ts us : List Tree) : items (ts ++ us) = items ts ++ items us := by
  induction ts with
  | nil => rfl
  | cons t ts ih => simp only [List.cons_append, items, ih]

/-- The elements of a chain are written one after another. -/
theorem Chain.template_tree (c : Chain Reference Param) :
    c.tree.template = .openList :: (.text "(" :: c.node.template ++ [.text ")"]) ++
      c.legs.flatMap (fun l => (Tree.items l.trees).flatten) ++ [.closeList] := by
  have legs : (Tree.items (c.legs.flatMap Leg.trees)).flatten =
      c.legs.flatMap fun l => (Tree.items l.trees).flatten := by
    induction c.legs with
    | nil => rfl
    | cons l ls ih => simp only [List.flatMap_cons, Tree.items_append, List.flatten_append, ih]
  have node : Tree.items (c.node.tree :: c.legs.flatMap Leg.trees) =
      (.text "(" :: c.node.template ++ [.text ")"]) :: Tree.items (c.legs.flatMap Leg.trees) := by
    simp only [Tree.items, Spot.template_tree]
    rfl
  simp only [Chain.tree, Tree.template, Template.listed, Template.join_nil, node,
    List.flatten_cons, legs, List.cons_append, List.append_assoc]

/-! ### Questions of chains -/

theorem asks_properties (ps : List (Name × Param)) :
    Template.asks (braced (ps.map fun p => (p.1, [.key p.2]))) = ps.map fun p => .key p.2 := by
  unfold braced
  split
  · rename_i empty
    have none : ps = [] := by simpa using empty
    rw [none]
    rfl
  · simp only [Template.asks_cons, Template.asks_append,
      Template.asks_join (show Template.asks [.text ", "] = [] from rfl), List.flatMap_map,
      Template.asks_nil, Segment.ask?, Option.toList_none, Option.toList_some, List.cons_append,
      List.nil_append, List.append_nil]
    exact List.map_eq_flatMap.symm

theorem Spot.asks_template (s : Spot Reference Param) : s.template.asks = s.asks := by
  simp [Spot.template, Spot.asks, asks_properties, Segment.ask?]

/-- A chain is asked about from left to right. -/
theorem Chain.asks_template (c : Chain Reference Param) : c.tree.template.asks = c.asks := by
  have leg : ∀ l : Leg Reference Param,
      Template.asks (Tree.items l.trees).flatten = l.spot.asks ++ l.node.asks := by
    intro l
    simp [Leg.items_trees, Spot.asks_template, Segment.ask?]
  simp [Chain.template_tree, Template.asks_flatMap, leg, Spot.asks_template, Segment.ask?,
    Chain.asks, Chain.spots, List.flatMap_assoc]

/-! ### Texts of chains -/

theorem Name.toList_escaped (n : Name) : n.escaped.toList = n.token.chars := by
  cases n with
  | text s =>
    simp only [Name.escaped, Text.escaped, Name.token]
    split
    · rfl
    · exact String.toList_ofList
  | direction d => rfl

theorem toList_join (ss : List String) : (String.join ss).toList = ss.flatMap String.toList := by
  induction ss with
  | nil => rfl
  | cons s ss ih => rw [String.join_cons, String.toList_append, ih, List.flatMap_cons]

theorem toList_labelsText (names : List Name) :
    (labelsText names).toList = print (namesTokens names) := by
  rw [labelsText, toList_join]
  induction names with
  | nil => rfl
  | cons n names ih =>
    simp only [List.map_cons, List.flatMap_cons, namesTokens, Text.print_append] at ih ⊢
    rw [ih]
    simp [Text.Token.chars, Name.toList_escaped]

theorem Direction.toList_tail (d : Direction) : d.tail.toList = print (tailTokens d) := by
  cases d <;> rfl

theorem Direction.toList_tip (d : Direction) : d.tip.toList = print (tipTokens d) := by
  cases d <;> rfl

section Shown

variable {e : Environment} (spells : e.Spells)
include spells

/-- A property as it is written. -/
theorem toList_property {p : Name × Param} (identifies : (Ask.key p.2).Identifies) :
    (Template.shown e [.text (p.1.escaped ++ ": "), .key p.2]).toList =
      print (propertyTokens (p.1, e.key p.2)) := by
  have key := spells.shown_key identifies
  simp [propertyTokens, key, Text.Token.chars, Name.toList_escaped, Environment.key]

/-- The properties behind the first one as they are written. -/
theorem shown_join_properties (p : Name × Param) (ps : List (Name × Param))
    (identify : ∀ q ∈ p :: ps, (Ask.key q.2).Identifies) :
    (Template.shown e (Template.join [.text ", "]
      ((p :: ps).map fun p => [.text (p.1.escaped ++ ": "), .key p.2]))).toList =
      print (propertyTokens (p.1, e.key p.2) ++ (ps.map (Prod.map id e.key)).flatMap
        fun p => .mark ',' :: .mark ' ' :: propertyTokens p) := by
  induction ps generalizing p with
  | nil =>
    have first := toList_property spells (identify p List.mem_cons_self)
    simpa [Template.join] using first
  | cons q ps ih =>
    obtain ⟨first, others⟩ := List.forall_mem_cons.mp identify
    have first := toList_property spells first
    have rest := ih q others
    rw [List.map_cons] at rest
    rw [List.map_cons, List.map_cons, Template.join, Template.shown_append, Template.shown_append,
      String.toList_append, String.toList_append, first, rest]
    · simp [Text.Token.chars, Prod.map]
    · simp

theorem toList_properties {ps : List (Name × Param)}
    (identify : ∀ p ∈ ps, (Ask.key p.2).Identifies) :
    (Template.shown e (braced (ps.map fun p => (p.1, [.key p.2])))).toList =
      print (propertiesTokens (ps.map (Prod.map id e.key))) := by
  cases ps with
  | nil => rfl
  | cons p ps =>
    have joined := shown_join_properties spells p ps identify
    simp only [List.map_cons] at joined
    simp only [braced, List.map_cons, List.isEmpty_cons, Bool.false_eq_true, ↓reduceIte,
      List.map_map, Function.comp_def, List.cons_append, Template.shown_cons, Segment.shown_text,
      Template.shown_append, String.toList_append, joined, propertiesTokens, Text.print_append,
      Text.print_cons, Template.shown_nil]
    simp [Text.Token.chars, Prod.map]

/-- What stands in the brackets of an element as it is written. -/
theorem Spot.toList_template {s : Spot Reference Param} (identify : ∀ a ∈ s.asks, a.Identifies) :
    (s.template.shown e).toList = print (s.map e.label e.key).tokens := by
  obtain ⟨first, others⟩ := List.forall_mem_cons.mp identify
  have label := spells.shown_label first
  have keys : ∀ p ∈ s.properties, (Ask.key p.2).Identifies := fun p mem =>
    others _ (List.mem_map_of_mem mem)
  have properties := toList_properties spells keys
  simp [Spot.template, Spot.tokens, Spot.map, label, toList_labelsText, properties,
    Environment.label, Text.Token.chars]

/-- A relationship and its node as they are written. -/
theorem Leg.toList_items {l : Leg Reference Param}
    (identify : ∀ a ∈ l.spot.asks ++ l.node.asks, a.Identifies) :
    (Template.shown e (Tree.items l.trees).flatten).toList =
      print (l.map e.label e.key).tokens := by
  obtain ⟨relationship, node⟩ := List.forall_mem_append.mp identify
  have relationship := Spot.toList_template spells relationship
  have node := Spot.toList_template spells node
  have tokens : (l.map e.label e.key).tokens =
      tailTokens l.direction ++ .mark '[' :: (l.spot.map e.label e.key).tokens ++ .mark ']' ::
        (tipTokens l.direction ++ .mark '(' :: (l.node.map e.label e.key).tokens ++
          [.mark ')']) := rfl
  simp [Leg.items_trees, tokens, relationship, node, Direction.toList_tail,
    Direction.toList_tip, Text.Token.chars]

/-- A chain is written as it is spelt. -/
theorem Chain.shown_tree {c : Chain Reference Param} (identify : ∀ a ∈ c.asks, a.Identifies) :
    c.tree.template.shown e = (c.spelt e).text := by
  obtain ⟨node, legs⟩ := List.forall_mem_append.mp identify
  have node := Spot.toList_template spells node
  have further : ∀ ls : List (Leg Reference Param),
      (∀ a ∈ (ls.flatMap fun l => [l.spot, l.node]).flatMap Spot.asks, a.Identifies) →
      (Template.shown e (ls.flatMap fun l => (Tree.items l.trees).flatten)).toList =
        print ((ls.map (Leg.map e.label e.key)).flatMap Leg.tokens) := by
    intro ls identify
    induction ls with
    | nil => rfl
    | cons l ls ih =>
      simp only [List.flatMap_cons, List.flatMap_append, List.forall_mem_append] at identify
      have first := Leg.toList_items spells (l := l)
        (by simpa [or_imp, forall_and] using identify.1)
      simp [first, ih identify.2]
  apply String.toList_injective
  rw [Chain.text, String.toList_ofList]
  have last : (Segment.shown e .openList).toList = [] ∧ (Segment.shown e .closeList).toList = [] :=
    ⟨rfl, rfl⟩
  simp [Chain.template_tree, Chain.tokens, Chain.spelt, Chain.map, node, further _ legs, last,
    Text.Token.chars]

/-- What is spelt in a chain are words. -/
theorem Chain.isSpelt {c : Chain Reference Param} (identify : ∀ a ∈ c.asks, a.Identifies) :
    (c.spelt e).IsSpelt := by
  have spots : (c.spelt e).spots = c.spots.map (Spot.map e.label e.key) := by
    simp [Chain.spelt, Chain.spots, Chain.map, List.map_flatMap, List.flatMap_map]
    rfl
  intro s mem
  rw [spots] at mem
  obtain ⟨spot, spot_mem, rfl⟩ := List.mem_map.mp mem
  have identify : ∀ a ∈ spot.asks, a.Identifies := fun a asked =>
    identify a (List.mem_flatMap.mpr ⟨spot, spot_mem, asked⟩)
  obtain ⟨label, keys⟩ := List.forall_mem_cons.mp identify
  refine ⟨spells.isWord_spelling label, fun p mem => ?_⟩
  obtain ⟨q, q_mem, rfl⟩ := List.mem_map.mp mem
  exact spells.isWord_spelling (keys _ (List.mem_map_of_mem q_mem))

end Shown

end GraphQuery
