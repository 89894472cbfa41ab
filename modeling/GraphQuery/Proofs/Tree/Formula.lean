import GraphQuery.Proofs.Rendering.Spelling
import GraphQuery.Proofs.Text.Regular
import GraphQuery.Proofs.Tree.Level

/-!
Predicates as trees, and what they are written as where names are spelt as words with a number.

* `Tree.formula`: the predicate that a tree is. Comparisons and checks take their operands as they
  are.
* `Tree.nested`: the predicate that a tree is all through, also where operators are compared.
* `Tree.isOperand`: a label, a key, a property or a call.
* `Tree.Made.toList_nested`: a tree is written like the predicate that it is all through.
* `Tree.Made.formed`: this predicate can be written.
* `Tree.Made.regular`: the predicate that a tree is is regular.
-/

namespace GraphQuery

open Text (IsAtomic GoesOn Spaces)

/-! ### Trees as predicates -/

namespace Tree

mutual

/-- The predicate that a tree is, over the trees that are no operators or are taken as they are. -/
def formula : Tree → Formula Tree
  | comparison o l r => .comparison o (.atom l) (.atom r)
  | check o t => .check o (.atom t)
  | junction o ts => .junction o (formulas ts)
  | negation t => .negation t.formula
  | t => .atom t

/-- The predicates that trees are. -/
def formulas : List Tree → List (Formula Tree)
  | [] => []
  | t :: ts => t.formula :: formulas ts

end

theorem formulas_eq (ts : List Tree) : formulas ts = ts.map formula := by
  induction ts with
  | nil => rfl
  | cons t ts ih => rw [formulas, ih, List.map_cons]

mutual

/-- The predicate that a tree is all through, over the trees that are no operators. -/
def nested : Tree → Formula Tree
  | comparison o l r => .comparison o l.nested r.nested
  | check o t => .check o t.nested
  | junction o ts => .junction o (nestedAll ts)
  | negation t => .negation t.nested
  | t => .atom t

/-- The predicates that trees are all through. -/
def nestedAll : List Tree → List (Formula Tree)
  | [] => []
  | t :: ts => t.nested :: nestedAll ts

end

theorem nestedAll_eq (ts : List Tree) : nestedAll ts = ts.map nested := by
  induction ts with
  | nil => rfl
  | cons t ts ih => rw [nestedAll, ih, List.map_cons]

/-- The tree can be compared: it is a label, a key, a property or a call. -/
def isOperand : Tree → Bool
  | label _ | key _ | call .. => true
  | property base _ => base.isOperand
  | _ => false

/-- There is a line feed in the label or the key, or one at the end of the name of a property. -/
def hasFeed (e : Environment) : Tree → Bool
  | label b => ((Segment.label b).shown e).toList.contains '\n'
  | key p => ((Segment.key p).shown e).toList.contains '\n'
  | property base path =>
    base.hasFeed e || path.any fun n => n.word.toList.getLast? == some '\n'
  | _ => false

/-- A tree is a combination just in case its predicate is one. -/
theorem isJunction_nested (t : Tree) : t.nested.isJunction = t.isJunction := by
  cases t <;> rfl

/-- An operand is no operator. -/
theorem nested_of_isOperand {t : Tree} (operand : t.isOperand = true) : t.nested = .atom t := by
  cases t with
  | comparison | check | junction | negation => cases operand
  | _ => rfl

/-- What stands among operands is written there as in running text, unless it is a label. -/
theorem asItem_of_operand {t : Tree} (single : t.formula = .atom t → t.isOperand = true) :
    (∃ b, t = label b) ∨ t.sole? = none := by
  cases t with
  | label b => exact .inl ⟨b, rfl⟩
  | column _ | statement _ | given _ => cases single rfl
  | _ => exact .inr rfl

theorem asItem_of_operands {t : Tree} (operands : ∀ u ∈ t.formula.atoms, u.isOperand = true) :
    (∃ b, t = label b) ∨ t.sole? = none :=
  asItem_of_operand fun alone => operands t (alone ▸ List.mem_cons_self)

/-- What an operand of a combination is made of is one of the things that the combination is. -/
theorem mem_atoms_junction (o : String) {t u : Tree} {ts : List Tree} (mem : t ∈ ts)
    (u_mem : u ∈ t.formula.atoms) : u ∈ (junction o ts).formula.atoms := by
  rw [formula, Formula.atoms, Formula.atomsOf_eq, formulas_eq, List.flatMap_map]
  exact List.mem_flatMap.mpr ⟨t, mem, u_mem⟩

/-- A combination is made all through of what its operands are made of. -/
theorem mem_atoms_junction_nested (o : String) {u : Tree} {ts : List Tree} :
    u ∈ (junction o ts).nested.atoms ↔ ∃ t ∈ ts, u ∈ t.nested.atoms := by
  rw [nested, Formula.atoms, Formula.atomsOf_eq, nestedAll_eq, List.flatMap_map, List.mem_flatMap]

end Tree

/-! ### Labels, keys and names -/

namespace Environment.Spells

variable {e : Environment}

/-- Where no stem is a name, the answer to a question is an identifier with a number behind it. -/
theorem exists_numbered (h : e.Spells) (suffixed : e.bareFirst = false) {a : Ask}
    (identifies : a.Identifies) :
    ∃ (n : Name) (i : Nat), (a.put e).answer = .ok (.text (n.running ++ toString i)) ∧
      e.spelling a = n.running ++ toString i := by
  obtain ⟨name, answer, formed, written⟩ := h.exists_answer identifies
  cases formed with
  | alone bareFirst _ =>
    rw [suffixed] at bareFirst
    cases bareFirst
  | @numbered n i _ => exact ⟨n, i, answer, (Except.ok.inj written).symm⟩

/-- A label with a number is written as an item as it is in running text. -/
theorem shown_item (h : e.Spells) (suffixed : e.bareFirst = false) {r : Reference}
    (identifies : (Ask.label r).Identifies) :
    (Segment.item (.reference r)).shown e = (Segment.label (.reference r)).shown e := by
  obtain ⟨n, i, answer, spelt⟩ := h.exists_numbered suffixed identifies
  rw [h.shown_label identifies, spelt]
  change (Registry.labelFor e (.reference r)).answer = _ at answer
  simp [Segment.shown, Segment.write, Pen.take, answer, Wording.word?, Pen.put, Writing.text,
    Piece.written, String.join_cons]

/-- A name is solid, if there is no line feed in it that is a blank. -/
theorem solid_spelling {blank : Char → Bool} (spaces : Spaces blank) (h : e.Spells) {a : Ask}
    (identifies : a.Identifies) (feed : blank '\n' = true → '\n' ∉ (e.spelling a).toList) :
    ∀ c ∈ (e.spelling a).toList, Text.IsSolid blank c := fun c mem =>
  Text.isSolid_of_isWordChar spaces ((h.isWord_spelling identifies).chars c mem)
    fun isBlank eq => feed isBlank (eq ▸ mem)

/-- A name with a number is neither in capitals nor made of signs. -/
theorem exists_ordinary (h : e.Spells) (suffixed : e.bareFirst = false) {a : Ask}
    (identifies : a.Identifies) :
    ∃ c ∈ (e.spelling a).toList, Formula.isSpecial c = false := by
  obtain ⟨n, i, -, spelt⟩ := h.exists_numbered suffixed identifies
  obtain ⟨c, cs, digits⟩ := List.exists_cons_of_ne_nil (Nat.toDigits_ne_nil (b := 10) (n := i))
  have mem : c ∈ Nat.toDigits 10 i := digits ▸ List.mem_cons_self
  have isDigit : c.isDigit := Nat.isDigit_of_mem_toDigits (by decide) (by decide) mem
  rw [spelt, String.toList_append, Nat.toString_eq_repr, Nat.toList_repr]
  have digit : c.val ≤ '9'.val := of_decide_eq_true ((Bool.and_eq_true _ _).mp isDigit).2
  have noCapital : c.isUpper = false := by
    refine Bool.eq_false_iff.mpr fun isUpper => ?_
    have upper : 'A'.val ≤ c.val := (of_decide_eq_true isUpper).1
    exact absurd (UInt32.le_trans upper digit) (by decide)
  have noSign {sign : Char} (other : sign.isDigit = false) : (c == sign) = false := by
    refine beq_false_of_ne ?_
    rintro rfl
    exact absurd isDigit (Bool.eq_false_iff.mp other)
  refine ⟨c, List.mem_append_right _ mem, ?_⟩
  rw [Formula.isSpecial, noCapital, noSign rfl, noSign rfl, noSign rfl]
  rfl

end Environment.Spells

/-- A name that does not end in a line feed goes on with a word. -/
theorem Name.goesOn_escaped {blank : Char → Bool} (spaces : Spaces blank) (n : Name)
    (feed : blank '\n' = true → n.word.toList.getLast? ≠ some '\n') :
    GoesOn blank n.escaped.toList := by
  cases n with
  | text s => exact Text.goesOn_escaped spaces s feed
  | direction d => exact Text.goesOn_of_isSolid spaces (by cases d <;> decide)

/-- The names of a property go on with what it is a property of. -/
theorem goesOn_pathText {blank : Char → Bool} (spaces : Spaces blank) {path : List Name}
    (feeds : blank '\n' = true → ∀ n ∈ path, n.word.toList.getLast? ≠ some '\n') :
    GoesOn blank (pathText path).toList := by
  have point : GoesOn blank ".".toList := Text.goesOn_of_isSolid spaces (by decide)
  unfold pathText
  induction path with
  | nil => exact Text.goesOn_nil
  | cons n path ih =>
    have name := n.goesOn_escaped spaces fun isBlank => feeds isBlank n List.mem_cons_self
    have others := ih fun isBlank m mem => feeds isBlank m (List.mem_cons_of_mem n mem)
    rw [List.map_cons, String.join_cons, String.toList_append, String.toList_append]
    exact (point.append name).append others

/-! ### Predicates as they are written -/

/-- What stands between texts is written between them. -/
theorem Template.toList_join (e : Environment) (s : String) (ts : List Template) :
    (shown e (join [.text s] ts)).toList =
      s.toList.intercalate (ts.map fun t => (shown e t).toList) := by
  induction ts with
  | nil => rfl
  | cons t ts ih =>
    cases ts with
    | nil => simp [join, List.intercalate]
    | cons u ts =>
      rw [join, shown_append, shown_append, String.toList_append, String.toList_append, ih]
      · simp [List.intercalate]
      · simp

/-- Whatever is in one of the parts is in all of them together. -/
theorem Template.mem_join {between t : Template} {ts : List Template} {segment : Segment}
    (mem : t ∈ ts) (inside : segment ∈ t) : segment ∈ join between ts := by
  induction ts with
  | nil => cases mem
  | cons u ts ih =>
    cases ts with
    | nil =>
      obtain rfl := List.mem_singleton.mp mem
      exact inside
    | cons v ts =>
      rcases List.mem_cons.mp mem with rfl | mem
      · exact List.mem_append_left _ (List.mem_append_left _ inside)
      · exact List.mem_append_right _ (ih mem)

/-- What a template may speak of is spelt as a word with a number. -/
structure Grounds.Spelt (G : Grounds) (e : Environment) : Prop where
  spells : e.Spells
  suffixed : e.bareFirst = false
  bearer : ∀ b, G.bearer b → ∃ r, b = .reference r ∧ (Ask.label r).Identifies
  param : ∀ p, G.param p → (Ask.key p).Identifies

namespace Grounds.Spelt

variable {G : Grounds} {e : Environment} {blank : Char → Bool}

/-- A label is written as an item as it is in running text. -/
theorem shown_item (h : G.Spelt e) {b : Bearer} (isBearer : G.bearer b) :
    (Segment.item b).shown e = (Segment.label b).shown e := by
  obtain ⟨r, rfl, identifies⟩ := h.bearer b isBearer
  exact h.spells.shown_item h.suffixed identifies

/-- Words are level. -/
theorem level (h : G.Spelt e) : G.Level blank e := by
  have label : ∀ b, G.bearer b → Text.IsLevel blank ((Segment.label b).shown e).toList := by
    intro b isBearer
    obtain ⟨r, rfl, identifies⟩ := h.bearer b isBearer
    rw [h.spells.shown_label identifies]
    exact (h.spells.isWord_spelling identifies).isLevel
  refine ⟨label, fun b isBearer => ?_, fun p isParam => ?_⟩
  · rw [h.shown_item isBearer]
    exact label b isBearer
  · have identifies := h.param p isParam
    rw [h.spells.shown_key identifies, String.toList_append]
    exact (Text.isLevel_of_isPlain (by decide)).append (h.spells.isWord_spelling identifies).isLevel

variable (spaces : Spaces blank)
include spaces

theorem isTerm_label (h : G.Spelt e) {b : Bearer} (isBearer : G.bearer b)
    (feed : blank '\n' = true → '\n' ∉ ((Segment.label b).shown e).toList) :
    Formula.IsTerm blank ((Segment.label b).shown e).toList := by
  obtain ⟨r, rfl, identifies⟩ := h.bearer b isBearer
  rw [h.spells.shown_label identifies] at feed ⊢
  exact ⟨Text.isAtomic_of_solid (h.spells.isWord_spelling identifies).nonempty
    (h.spells.solid_spelling spaces identifies feed),
    h.spells.exists_ordinary h.suffixed identifies⟩

theorem isTerm_key (h : G.Spelt e) {p : Param} (isParam : G.param p)
    (feed : blank '\n' = true → '\n' ∉ ((Segment.key p).shown e).toList) :
    Formula.IsTerm blank ((Segment.key p).shown e).toList := by
  have identifies := h.param p isParam
  rw [h.spells.shown_key identifies, String.toList_append] at feed ⊢
  have sign : Text.IsSolid blank '$' := ⟨by decide, Text.not_blank spaces (by decide)⟩
  have key := h.spells.solid_spelling spaces identifies fun isBlank mem =>
    feed isBlank (List.mem_append_right _ mem)
  refine ⟨Text.isAtomic_of_solid (List.cons_ne_nil _ _) ?_, '$', List.mem_cons_self, by decide⟩
  exact List.forall_mem_cons.mpr ⟨sign, key⟩

end Grounds.Spelt

namespace Tree

variable {strict : Prop} {G : Grounds} {blank : Char → Bool} {e : Environment} {t : Tree}

/-- The predicate that a tree is, over the texts of its operands. -/
def predicate (e : Environment) (t : Tree) : Formula String :=
  t.formula.map fun u => u.template.shown e

theorem predicate_junction (o : String) (ts : List Tree) :
    (junction o ts).predicate e = .junction o (ts.map (predicate e)) := by
  simp only [predicate, formula, Formula.map, Formula.maps_eq, formulas_eq, List.map_map]
  rfl

/-- The predicate that a tree is all through, over the texts of its operands. -/
def nestedPredicate (e : Environment) (t : Tree) : Formula String :=
  t.nested.map fun u => u.template.shown e

theorem nestedPredicate_junction (o : String) (ts : List Tree) :
    (junction o ts).nestedPredicate e = .junction o (ts.map (nestedPredicate e)) := by
  simp only [nestedPredicate, nested, Formula.map, Formula.maps_eq, nestedAll_eq, List.map_map]
  rfl

/-- A predicate as it is written where it is an operand. -/
theorem operandText_nestedPredicate :
    (t.nestedPredicate e).operandText =
      if t.isJunction then '(' :: (t.nestedPredicate e).chars ++ [')']
      else (t.nestedPredicate e).chars := by
  rw [Formula.operandText, nestedPredicate, Formula.isJunction_map, isJunction_nested]

/-- Where no operator is compared, a tree is the same predicate all through. -/
theorem Made.nested_eq_formula (made : t.Made strict G)
    (operands : ∀ u ∈ t.formula.atoms, u.isOperand = true) : t.nested = t.formula := by
  induction made with
  | @comparison o l r _ _ _ _ _ =>
    obtain ⟨left, right⟩ : l.isOperand = true ∧ r.isOperand = true := by
      simpa [formula, Formula.atoms] using operands
    rw [nested, nested_of_isOperand left, nested_of_isOperand right, formula]
  | @check o t _ _ _ =>
    have operand : t.isOperand = true := operands t List.mem_cons_self
    rw [nested, nested_of_isOperand operand, formula]
  | @junction o ts _ _ _ ih =>
    have each : ∀ t ∈ ts, t.nested = t.formula := fun t mem =>
      ih t mem fun u u_mem => operands u (mem_atoms_junction o mem u_mem)
    rw [nested, formula, nestedAll_eq, formulas_eq, List.map_congr_left each]
  | negation _ ih => exact congrArg Formula.negation (ih operands)
  | _ => rfl

/-- What stands among operands is written there as in running text, unless it is a label. -/
theorem asItem_of_nested (operands : ∀ u ∈ t.nested.atoms, u.isOperand = true) :
    (∃ b, t = label b) ∨ t.sole? = none := by
  refine asItem_of_operand fun alone => operands t ?_
  have alone : t.nested = .atom t := by
    cases t with
    | comparison | check | junction | negation => cases alone
    | _ => rfl
  exact alone ▸ List.mem_cons_self

/-- A tree is written like the predicate that it is all through. -/
theorem Made.toList_nested (spelt : G.Spelt e) (made : t.Made strict G)
    (operands : ∀ u ∈ t.nested.atoms, u.isOperand = true) :
    (t.template.shown e).toList = (t.nestedPredicate e).chars := by
  induction made with
  | @comparison o l r _ _ _ ih ih' =>
    obtain ⟨left, right⟩ := List.forall_mem_append.mp operands
    have predicate_eq : (Tree.comparison o l r).nestedPredicate e =
        .comparison o (l.nestedPredicate e) (r.nestedPredicate e) := rfl
    rw [predicate_eq, Formula.chars, ← ih left, ← ih' right]
    simp [template]
  | @check o t _ _ ih =>
    have predicate_eq : (Tree.check o t).nestedPredicate e =
        .check o (t.nestedPredicate e) := rfl
    rw [predicate_eq, Formula.chars, ← ih operands]
    simp [template]
  | @junction o ts _ _ made ih =>
    have each : ∀ t ∈ ts,
        (Template.shown e (t.asOperand t.template)).toList =
          (t.nestedPredicate e).operandText := by
      intro t mem
      have inner : ∀ u ∈ t.nested.atoms, u.isOperand = true := fun u u_mem =>
        operands u ((mem_atoms_junction_nested o).mpr ⟨t, mem, u_mem⟩)
      have text := ih t mem inner
      rw [operandText_nestedPredicate, asOperand]
      split
      · simp [parenthesized, text]
      · rw [← text]
        rcases asItem_of_nested inner with ⟨b, rfl⟩ | sole
        · cases made _ mem with
          | label isBearer =>
            have item := spelt.shown_item isBearer
            simp [asItem, sole?, template, item]
        · rw [asItem, sole]
    have texts := List.map_congr_left each
    have marks : (Segment.openList.shown e).toList = [] ∧
        (Segment.closeList.shown e).toList = [] := ⟨rfl, rfl⟩
    rw [nestedPredicate_junction, template, Template.listed, operands_eq]
    simp [Template.toList_join, Formula.chars, Formula.operandChars_eq, marks, Function.comp_def,
      texts]
  | @negation t _ ih =>
    have text := ih operands
    have operand : (Template.shown e
        (if t.isJunction then parenthesized t.template else t.template)).toList =
          (t.nestedPredicate e).operandText := by
      rw [operandText_nestedPredicate]
      split
      · simp [parenthesized, text]
      · exact text
    have predicate_eq : (Tree.negation t).nestedPredicate e = .negation (t.nestedPredicate e) := rfl
    rw [predicate_eq, template, Template.shown_cons, String.toList_append, operand,
      Segment.shown_text]
    rfl
  | _ => rfl

/-- A tree is written like the predicate that it is. -/
theorem Made.toList_template (spelt : G.Spelt e) (made : t.Made strict G)
    (operands : ∀ u ∈ t.formula.atoms, u.isOperand = true) :
    (t.template.shown e).toList = (t.predicate e).chars := by
  have same := made.nested_eq_formula operands
  rw [predicate, ← same]
  exact made.toList_nested spelt (same ▸ operands)

/-- In running text an operand has all the separators that it has among others. -/
theorem mem_template_junction {o : String} {ts : List Tree} (mem : t ∈ ts)
    (operands : ∀ u ∈ t.nested.atoms, u.isOperand = true) {segment : Segment}
    (inside : segment ∈ t.template) (separating : segment.isSeparating = true) :
    segment ∈ (junction o ts).template := by
  have operand : segment ∈ t.asOperand t.template := by
    unfold asOperand
    split
    · exact List.mem_append_left _ (List.mem_cons_of_mem _ inside)
    · rcases asItem_of_nested operands with ⟨b, rfl⟩ | sole
      · obtain rfl := List.mem_singleton.mp inside
        cases separating
      · rwa [asItem, sole]
  rw [template, operands_eq]
  exact List.mem_append_left _ (List.mem_cons_of_mem _
    (Template.mem_join (List.mem_map_of_mem mem) operand))

/-- What a tree is made of is made by the library, and all of its separators are in the tree. -/
theorem Made.of_mem_atoms (made : t.Made strict G)
    (operands : ∀ u ∈ t.nested.atoms, u.isOperand = true) :
    ∀ u ∈ t.nested.atoms, u.Made strict G ∧
      ∀ segment ∈ u.template, segment.isSeparating = true → segment ∈ t.template := by
  have alone {t : Tree} (made : t.Made strict G) (isAtom : t.nested = .atom t) :
      ∀ u ∈ t.nested.atoms, u.Made strict G ∧
        ∀ segment ∈ u.template, segment.isSeparating = true → segment ∈ t.template := by
    rw [isAtom]
    exact List.forall_mem_singleton.mpr ⟨made, fun _ inside _ => inside⟩
  induction made with
  | @comparison o l r _ _ _ ih ih' =>
    obtain ⟨left, right⟩ := List.forall_mem_append.mp operands
    refine List.forall_mem_append.mpr ⟨fun u u_mem => ?_, fun u u_mem => ?_⟩
    · obtain ⟨made, inside⟩ := ih left u u_mem
      exact ⟨made, fun segment mem separating =>
        List.mem_append_left _ (List.mem_append_left _ (inside segment mem separating))⟩
    · obtain ⟨made, inside⟩ := ih' right u u_mem
      exact ⟨made, fun segment mem separating =>
        List.mem_append_right _ (inside segment mem separating)⟩
  | @check o t _ _ ih =>
    intro u u_mem
    obtain ⟨made, inside⟩ := ih operands u u_mem
    exact ⟨made, fun segment mem separating =>
      List.mem_append_left _ (inside segment mem separating)⟩
  | @junction o ts _ _ _ ih =>
    intro u u_mem
    obtain ⟨t, mem, u_mem⟩ := (mem_atoms_junction_nested o).mp u_mem
    have inner : ∀ u ∈ t.nested.atoms, u.isOperand = true := fun u u_mem =>
      operands u ((mem_atoms_junction_nested o).mpr ⟨t, mem, u_mem⟩)
    obtain ⟨made, inside⟩ := ih t mem inner u u_mem
    exact ⟨made, fun segment s_mem separating =>
      mem_template_junction mem inner (inside segment s_mem separating) separating⟩
  | @negation t _ ih =>
    intro u u_mem
    obtain ⟨made, inside⟩ := ih operands u u_mem
    refine ⟨made, fun segment mem separating => List.mem_cons_of_mem _ ?_⟩
    have inside := inside segment mem separating
    split
    · exact List.mem_append_left _ (List.mem_cons_of_mem _ inside)
    · exact inside
  | label b => exact alone (.label b) rfl
  | key p => exact alone (.key p) rfl
  | property path base _ => exact alone (.property path base) rfl
  | call mem made _ => exact alone (.call mem made) rfl
  | _ => cases operands _ List.mem_cons_self

/-- The predicate that a tree is all through can be written, if what it is made of are words. -/
theorem Made.formed (made : t.Made True G)
    (atomic : ∀ u ∈ t.nested.atoms, IsAtomic blank (u.template.shown e).toList) :
    (t.nestedPredicate e).Formed blank := by
  induction made with
  | comparison mem _ _ ih ih' =>
    obtain ⟨left, right⟩ := List.forall_mem_append.mp atomic
    exact .comparison mem (ih left) (ih' right)
  | check mem _ ih => exact .check mem (ih atomic)
  | @junction o ts mem several _ ih =>
    rw [nestedPredicate_junction]
    refine .junction mem (by simpa using several trivial) (List.forall_mem_map.mpr ?_)
    exact fun t t_mem => ih t t_mem fun u u_mem =>
      atomic u ((mem_atoms_junction_nested o).mpr ⟨t, t_mem, u_mem⟩)
  | negation _ ih => exact .negation (ih atomic)
  | _ => exact .atom (atomic _ List.mem_cons_self)

/-- What is compared is an operand by itself in the predicate that a tree is. -/
theorem Made.isSimple (made : t.Made strict G) : (t.predicate e).isSimple = true := by
  induction made with
  | junction _ _ _ ih =>
    rw [predicate_junction]
    exact Formula.allSimple_iff.mpr (List.forall_mem_map.mpr ih)
  | negation _ ih => exact ih
  | _ => rfl

section Spaces

variable (spaces : Spaces blank) (spelt : G.Spelt e)
include spaces spelt

/-- An operand is a term. -/
theorem Made.isTerm (made : t.Made strict G) (operand : t.isOperand = true)
    (feeds : blank '\n' = true → t.hasFeed e = false)
    (separators : ∀ segment ∈ t.template, segment.isSeparating = true →
      Text.IsLevel blank (segment.shown e).toList) :
    Formula.IsTerm blank (t.template.shown e).toList := by
  induction made with
  | @label b isBearer =>
    have term := spelt.isTerm_label spaces isBearer fun isBlank mem => by
      simpa [hasFeed, mem] using feeds isBlank
    simpa [template] using term
  | @key p isParam =>
    have term := spelt.isTerm_key spaces isParam fun isBlank mem => by
      simpa [hasFeed, mem] using feeds isBlank
    simpa [template] using term
  | @property base path _ ih =>
    have noFeed : blank '\n' = true → base.hasFeed e = false ∧
        ∀ n ∈ path, n.word.toList.getLast? ≠ some '\n' := fun isBlank => by
      simpa [hasFeed] using feeds isBlank
    have term := ih operand (fun isBlank => (noFeed isBlank).1) fun segment mem =>
      separators segment (List.mem_append_left _ mem)
    have names := goesOn_pathText spaces fun isBlank => (noFeed isBlank).2
    simpa [template] using term.append names
  | @call name ts mem made ih =>
    have solid : ∀ w ∈ functionNames, Text.isSolid w = true ∧
        w.toList.any (fun c => !Formula.isSpecial c) = true := by decide
    obtain ⟨isSolid, ordinary⟩ := solid name mem
    obtain ⟨c, c_mem, ordinary⟩ := List.any_eq_true.mp ordinary
    have word : Formula.IsTerm blank name.toList :=
      ⟨Text.isAtomic_of_isSolid spaces isSolid, c, c_mem, by simpa using ordinary⟩
    have arguments : Template.Level blank e (Template.commas (items ts)) :=
      .commas (Level.items fun t mem => (made t mem).level spaces spelt.level)
    have inner := arguments fun segment mem =>
      separators segment (List.mem_append_left _ (List.mem_cons_of_mem _ mem))
    simpa [template] using word.append (inner.goesOn_group spaces)
  | _ => cases operand

/-- What a tree is made of are terms. -/
theorem Made.isTerm_of_mem (made : t.Made strict G)
    (operands : ∀ u ∈ t.nested.atoms, u.isOperand = true)
    (feeds : blank '\n' = true → ∀ u ∈ t.nested.atoms, u.hasFeed e = false)
    (separators : ∀ segment ∈ t.template, segment.isSeparating = true →
      Text.IsLevel blank (segment.shown e).toList) :
    ∀ u ∈ t.nested.atoms, Formula.IsTerm blank (u.template.shown e).toList := by
  intro u u_mem
  obtain ⟨made, inside⟩ := made.of_mem_atoms operands u u_mem
  exact made.isTerm spaces spelt (operands u u_mem) (fun isBlank => feeds isBlank u u_mem)
    fun segment mem separating => separators segment (inside segment mem separating) separating

/-- The predicate that a tree is is regular. -/
theorem Made.regular (made : t.Made True G) (operands : ∀ u ∈ t.formula.atoms, u.isOperand = true)
    (feeds : blank '\n' = true → ∀ u ∈ t.formula.atoms, u.hasFeed e = false)
    (separators : ∀ segment ∈ t.template, segment.isSeparating = true →
      Text.IsLevel blank (segment.shown e).toList) :
    (t.predicate e).Regular blank := by
  have same := made.nested_eq_formula operands
  have terms : ∀ u ∈ t.nested.atoms, Formula.IsTerm blank (u.template.shown e).toList :=
    made.isTerm_of_mem spaces spelt (same ▸ operands) (same ▸ feeds) separators
  have formed : (t.predicate e).Formed blank := by
    rw [predicate, ← same]
    exact made.formed fun u mem => (terms u mem).atomic
  refine formed.regular made.isSimple fun a mem reserved => ?_
  rw [predicate, ← same, Formula.atoms_map] at mem
  obtain ⟨u, u_mem, rfl⟩ := List.mem_map.mp mem
  exact (terms u u_mem).not_operator (List.mem_append_left _ reserved)

end Spaces

end Tree

end GraphQuery
