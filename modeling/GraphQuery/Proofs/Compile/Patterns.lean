import GraphQuery.Proofs.Assembly.Drawn
import GraphQuery.Settings.Basic

/-!
Patterns can be read back from their text.

The elements of a pattern that calls have drawn are nodes and relationships in turn. Where all name
stems are identifiers they are written as tokens that cannot run into each other, whatever the
labels, types and names of properties are. So the whole chain can be read from the text: with its
labels and keys as they are spelt and everything else as it is. Instances that are spelt alike in
one environment are the same, so there the text of a pattern is that of no other chain.

* `Store.write_chain`: what is written for a pattern.
* `Chain.eq_of_spelt_eq`: chains that are spelt alike are the same.
* `patterns_decodable`: patterns, and what can be read from their texts.
-/

namespace GraphQuery

/-! ### Chains that are spelt alike -/

/-- Lists with the same images are the same if their items are. -/
theorem eq_of_map_eq {α β : Type} {f : α → β} {as bs : List α}
    (inj : ∀ a ∈ as, ∀ b ∈ bs, f a = f b → a = b) (eq : as.map f = bs.map f) : as = bs := by
  induction as generalizing bs with
  | nil => exact (List.map_eq_nil_iff.mp eq.symm).symm
  | cons a as ih =>
    cases bs with
    | nil => cases eq
    | cons b bs =>
      rw [List.map_cons, List.map_cons, List.cons_eq_cons] at eq
      have first := inj a List.mem_cons_self b List.mem_cons_self eq.1
      have others := ih (fun a mem b mem' =>
        inj a (List.mem_cons_of_mem _ mem) b (List.mem_cons_of_mem _ mem')) eq.2
      rw [first, others]

section Alike

variable {e : Environment}

theorem Spot.eq_of_spelt_eq {s s' : Spot Reference Param}
    (inj : ∀ a ∈ s.asks, ∀ b ∈ s'.asks, e.spelling a = e.spelling b → a = b)
    (eq : s.map e.label e.key = s'.map e.label e.key) : s = s' := by
  obtain ⟨label, names, ps⟩ := s
  obtain ⟨label', names', ps'⟩ := s'
  simp only [Spot.map, Spot.mk.injEq] at eq
  obtain ⟨label_eq, rfl, properties_eq⟩ := eq
  have labels := inj _ List.mem_cons_self _ List.mem_cons_self label_eq
  have properties : ps = ps' := by
    refine eq_of_map_eq (fun p mem q mem' eq => ?_) properties_eq
    have key := inj (.key p.2) (List.mem_cons_of_mem _ (List.mem_map_of_mem mem)) (.key q.2)
      (List.mem_cons_of_mem _ (List.mem_map_of_mem mem')) (congrArg Prod.snd eq)
    exact Prod.ext (congrArg (·.1) eq) (Ask.key.inj key)
  cases labels
  rw [properties]

theorem Leg.eq_of_spelt_eq {l l' : Leg Reference Param}
    (inj : ∀ a ∈ l.spot.asks ++ l.node.asks, ∀ b ∈ l'.spot.asks ++ l'.node.asks,
      e.spelling a = e.spelling b → a = b)
    (eq : l.map e.label e.key = l'.map e.label e.key) : l = l' := by
  have spot : l.spot = l'.spot := Spot.eq_of_spelt_eq
    (fun a mem b mem' => inj a (List.mem_append_left _ mem) b (List.mem_append_left _ mem'))
    (congrArg Leg.spot eq)
  have node : l.node = l'.node := Spot.eq_of_spelt_eq
    (fun a mem b mem' => inj a (List.mem_append_right _ mem) b (List.mem_append_right _ mem'))
    (congrArg Leg.node eq)
  have direction : l.direction = l'.direction := congrArg (·.direction) eq
  have type : l.type = l'.type := congrArg (·.type) eq
  obtain ⟨d, label, type, ps, n⟩ := l
  obtain ⟨d', label', type', ps', n'⟩ := l'
  simp_all [Leg.spot]

/-- Chains are the same if they are spelt alike and what they ask about can be told apart. -/
theorem Chain.eq_of_spelt_eq {c d : Chain Reference Param}
    (inj : ∀ a ∈ c.asks, ∀ b ∈ d.asks, e.spelling a = e.spelling b → a = b)
    (eq : c.spelt e = d.spelt e) : c = d := by
  have within : ∀ {c : Chain Reference Param} {l}, l ∈ c.legs →
      ∀ a ∈ l.spot.asks ++ l.node.asks, a ∈ c.asks := by
    intro c l mem a asked
    have spots : l.spot ∈ c.spots ∧ l.node ∈ c.spots :=
      ⟨List.mem_cons_of_mem _ (List.mem_flatMap.mpr ⟨l, mem, by simp⟩),
        List.mem_cons_of_mem _ (List.mem_flatMap.mpr ⟨l, mem, by simp⟩)⟩
    rcases List.mem_append.mp asked with asked | asked
    · exact List.mem_flatMap.mpr ⟨_, spots.1, asked⟩
    · exact List.mem_flatMap.mpr ⟨_, spots.2, asked⟩
  have node : c.node = d.node := by
    refine Spot.eq_of_spelt_eq (fun a mem b mem' => ?_) (congrArg Chain.node eq)
    exact inj a (List.mem_append_left _ mem) b (List.mem_append_left _ mem')
  have legs : c.legs = d.legs := by
    refine eq_of_map_eq (fun l mem l' mem' eq => ?_) (congrArg Chain.legs eq)
    exact Leg.eq_of_spelt_eq (fun a asked b asked' =>
      inj a (within mem a asked) b (within mem' b asked')) eq
  obtain ⟨n, ls⟩ := c
  obtain ⟨n', ls'⟩ := d
  rw [show n = n' from node, show ls = ls' from legs]

end Alike

/-! ### Trees of chains -/

/-- Nothing in a chain is stuck. -/
theorem Chain.isWhole_tree (c : Chain Reference Param) : c.tree.isWhole = true := by
  have entries : ∀ ps : List (Name × Param), Tree.entriesWhole (ps.map propertyTree) = true := by
    intro ps
    induction ps with
    | nil => rfl
    | cons p ps ih => exact ih
  have legs : ∀ ls : List (Leg Reference Param), Tree.allWhole (ls.flatMap Leg.trees) = true := by
    intro ls
    induction ls with
    | nil => rfl
    | cons l ls ih =>
      simp [List.flatMap_cons, Leg.trees, Spot.tree, Tree.allWhole, Tree.isWhole, entries, ih]
  simp [Chain.tree, Tree.isWhole, Tree.allWhole, Spot.tree, entries, legs]

/-- The separator has no say in how a chain is written. -/
theorem Chain.any_isSeparating (c : Chain Reference Param) :
    c.tree.template.any Segment.isSeparating = false := by
  have spot : ∀ s : Spot Reference Param, s.template.any Segment.isSeparating = false := by
    intro s
    have comma : ([.text ", "] : Template).any Segment.isSeparating = false := rfl
    simp only [Spot.template, braced]
    split
    · rfl
    · simp [Template.any_join comma, Segment.isSeparating]
  have leg : ∀ l : Leg Reference Param,
      (Tree.items l.trees).flatten.any Segment.isSeparating = false := by
    intro l
    simp [Leg.items_trees, spot, Segment.isSeparating]
  simp [Chain.template_tree, spot, leg, Segment.isSeparating]

namespace Store

/-- A pattern with a chain is written without a fault where all stems are identifiers. It asks about
the elements of the chain in turn, and its text is that of the chain as it is spelt later. -/
theorem write_chain {s : Store} (assembled : s.Assembled) {h : Nat} {c : Chain Reference Param}
    (chain : s.chain? h = some c) {e : Environment} (spells : e.Spells) :
    (s.write h e).fault? = none ∧ (∀ a ∈ c.asks, s.Holds a) ∧
    (s.write h e).pen.env = e.after c.asks ∧
    ∀ e', (s.write h e).pen.env.Extends e' → e'.Spells →
      (s.write h e).text = (c.spelt e').text := by
  have tree := tree_of_chain? assembled chain
  have whole : (s.tree h).isWhole = true := by
    rw [tree]
    exact c.isWhole_tree
  have separator : ∀ segment ∈ s.template h, segment.isSeparating → e.separator.IsText := by
    intro segment mem separating
    have none := List.any_eq_false.mp c.any_isSeparating segment
    rw [template, tree] at mem
    exact absurd separating (none mem)
  obtain ⟨ok, holds, env, text⟩ := write_spelt assembled whole spells separator
  rw [template, tree, Chain.asks_template] at holds env
  refine ⟨ok, holds, env, fun e' ext spells' => ?_⟩
  rw [text e' ext, template, tree]
  exact Chain.shown_tree spells' fun a mem => (holds a mem).identifies assembled

end Store

/-- Whatever else is called, a pattern that calls have drawn from a node on is a chain of nodes and
relationships in turn, and it stays what it is. Where all name stems are identifiers it is written
without a fault, and the chain can be read from its text: with its labels and keys as they are
spelt, and its names, types and directions as they are. Another pattern has the same text in that
environment only if its chain is the same. -/
theorem patterns_decodable {s : Store} {h : Nat} (drawn : s.Drawn .closed h) :
    ∃ c, s.chain? h = some c ∧
    (∀ calls, s.ExportedInTurn calls → (s.called calls).get? h = s.get? h) ∧
    ∀ (n : Naming) (view : ObjectView) (mark : Nat) (asks : List Ask),
      (∀ kind, ∃ m, (n.stems kind).name? = some m ∧ Text.isIdentifier m.word) →
      (∀ a ∈ asks, a.Identifies) →
      let e := (n.environment view (.blank mark)).after asks
      let w := s.write h e
      w.fault? = none ∧ Chain.read? w.text = some (c.spelt w.pen.env) ∧
      ∀ (t : Store) (g : Nat) (d : Chain Reference Param) (further : List Ask),
        s.Grows t → t.Drawn .closed g → t.chain? g = some d → (∀ a ∈ further, a.Identifies) →
        w.text = (t.write g (w.pen.env.after further)).text → c = d := by
  obtain ⟨c, chain⟩ := drawn.exists_chain
  have assembled := drawn.assembled
  refine ⟨c, chain, ?_, ?_⟩
  · intro calls exported
    obtain ⟨p, _, found, _⟩ := drawn.draws
    rw [found]
    exact (assembled.grows_called exported).get?_eq found
  · intro n view mark asks stems identify e w
    have spells : e.Spells := (Environment.spells_blank stems view mark).after identify
    obtain ⟨ok, holds, env, text⟩ := s.write_chain assembled chain spells
    have identify : ∀ a ∈ c.asks, a.Identifies := fun a mem => (holds a mem).identifies assembled
    have spells' : w.pen.env.Spells := env ▸ spells.after identify
    refine ⟨ok, ?_, ?_⟩
    · rw [show w.text = _ from text _ (.refl _) spells']
      exact Chain.read?_text (Chain.isSpelt spells' identify)
    · intro t g d further grows drawn' chain' identify' eq
      have later : (w.pen.env.after further).Spells := spells'.after identify'
      obtain ⟨-, holds', env', text'⟩ := t.write_chain drawn'.assembled chain' later
      -- The environment in the end knows what either pattern asks about.
      let last := (t.write g (w.pen.env.after further)).pen.env
      have ext : w.pen.env.Extends last :=
        (w.pen.env.after_extends further).trans (t.write_extends g _)
      have spells'' : last.Spells := by
        refine (show last = _ from env') ▸ later.after fun a mem => ?_
        exact (holds' a mem).identifies drawn'.assembled
      have accounts : last.Accounts (Ask.firsts (asks ++ c.asks ++ further ++ d.asks)) := by
        have texts : ∀ kind, (n.stems kind).text?.isSome := by
          intro kind
          obtain ⟨m, name, -⟩ := stems kind
          simp [Value.text?, name]
        have blank := Environment.accounts_blank texts view mark
        have eq : last = (n.environment view (.blank mark)).after
            (asks ++ c.asks ++ further ++ d.asks) := by
          simp only [Environment.after_append]
          rw [show last = _ from env', show w.pen.env = _ from env]
        exact eq ▸ blank.after _
      refine Chain.eq_of_spelt_eq (e := last) (fun a mem b mem' same => ?_) ?_
      · have a_held := (holds a mem).mono grows
        have b_held := holds' b mem'
        refine a_held.eq_of_same b_held ?_
        exact spells''.spelling_inj accounts (a_held.identifies drawn'.assembled)
          (b_held.identifies drawn'.assembled) (Ask.exists_same_firsts (by simp [mem]))
          (Ask.exists_same_firsts (by simp [mem'])) same
      · rw [show w.text = _ from text last ext spells'', text' last (.refl _) spells''] at eq
        have read := congrArg Chain.read? eq
        rw [Chain.read?_text (Chain.isSpelt spells'' identify),
          Chain.read?_text (Chain.isSpelt spells'' fun a mem =>
            (holds' a mem).identifies drawn'.assembled)] at read
        exact Option.some_inj.mp read

/-- A label and the name of a property with backticks in them, an empty type, and an arrow to the
left. -/
theorem patterns_decodable_quoted :
    let calls : List Construction := [.node .null (some (.text "A`B")),
      .pattern (.object 1) .null (.object 0),
      .related (.object 3) .null (.text "") .null (.direction .left),
      .close (.object 5) (.object 1) .null .null]
    let s := (Store.empty.push (.dict [(.text "a`b", .int 1)])).called calls
    let w := s.write 6 ((Settings.defaults.naming [] none none).environment s.view (.blank 0))
    s.Drawn .closed 6 ∧
    w.text = "(this0:`A``B` \x7b`a``b`: $param1\x7d)<-[this2]-(this0:`A``B`)" ∧
    ∃ c, s.chain? 6 = some c ∧ Chain.read? w.text = some (c.spelt w.pen.env) ∧
      c.legs.map (fun l => (l.direction, l.type)) = [(.left, none)] := by
  intro calls s w
  have plain {t : Store} {vs : List Value} (h : vs.all t.isPlain = true) :
      ∀ v ∈ vs, t.KnowsWithin v := Store.knowsWithin_of_isPlain h
  let t := (Store.empty.push (.dict [(.text "a`b", .int 1)])).called (calls.take 1)
  let u := t.called ((calls.take 3).drop 1)
  have assembled : t.Assembled := .call (.hold .empty rfl) ⟨trivial, plain rfl⟩
  -- A table of properties and an open chain cannot stand in a query.
  have table : t.KnowsWithin (.object 0) := by
    refine ⟨?_, fun _ found => ?_, fun _ found => ?_⟩
    · rintro _ ⟨⟩
      exact ⟨_, rfl⟩
    · cases found
      exact List.forall_mem_singleton.mpr (Store.knows_atom _ _ _)
    · cases found
  have chain : u.KnowsWithin (.object 5) := Store.knowsWithin_of_any (by decide +kernel)
  have drawn : s.Drawn .closed 6 := by
    have node : ∀ v ∈ [Value.object 1, .null], t.KnowsWithin v := plain (by decide +kernel)
    have first : ∀ v ∈ [Value.object 1, .null, .object 0], t.KnowsWithin v :=
      List.forall_mem_append.mpr ⟨node, List.forall_mem_singleton.mpr table⟩
    have last : ∀ v ∈ [Value.object 5, .object 1, .null, .null], u.KnowsWithin v :=
      List.forall_mem_cons.mpr ⟨chain, plain (by decide +kernel)⟩
    have opened : u.Drawn .waiting 5 := .related
      (.pattern assembled (.of_answer (c := .pattern (.object 1) .null (.object 0)) (h := 3)
        ⟨trivial, first⟩ (by decide +kernel)))
      (.of_answer (c := .related (.object 3) .null (.text "") .null (.direction .left))
        ⟨trivial, plain (by decide +kernel)⟩ (by decide +kernel)) (.inr ⟨_, rfl⟩)
    exact .close opened (.of_answer (c := .close (.object 5) (.object 1) .null .null)
      ⟨trivial, last⟩ (by decide +kernel))
  have text : w.text = "(this0:`A``B` \x7b`a``b`: $param1\x7d)<-[this2]-(this0:`A``B`)" := by
    decide +kernel
  have legs : (s.chain? 6).map (fun c => c.legs.map fun l => (l.direction, l.type)) =
      some [(.left, none)] := by
    decide +kernel
  have stems : ∀ kind, ∃ m, ((Settings.defaults.naming [] none none).stems kind).name? = some m ∧
      Text.isIdentifier m.word := Settings.defaults_stems
  -- From here on it does not matter what is in the store.
  clear_value s
  obtain ⟨c, is, -, written⟩ := patterns_decodable drawn
  obtain ⟨-, read, -⟩ := written _ s.view 0 [] stems (List.forall_mem_nil _)
  rw [is] at legs
  exact ⟨drawn, text, c, is, read, Option.some_inj.mp legs⟩

end GraphQuery
