import GraphQuery.Proofs.Text.Precedence

/-!
Which predicates are read by precedence as they were built.

Comparisons and checks are written as their operands are, with the operator between or behind them.
So what matters is whether every operand binds as tightly as its place asks.

* `Formula.grouped`: the operands of all comparisons and checks bind tightly enough.
* `Formula.Formed.grouped_of_read`: what is read as it was built has such operands.
* `Formula.Formed.kept`: what has such operands is read as it was built.
* `Formula.Formed.parse?_eq_some_iff`: just these predicates are read as they were built.
-/

namespace GraphQuery

open Text (Spaces)

/-! ### Predications -/

namespace Formula

section Grouped

variable {α : Type}

/-- The predicate is an operand with operators in words behind it, each with an operand by itself if
it takes one. -/
def isPredication : Formula α → Bool
  | atom _ => true
  | comparison o l r => decide (o ∉ relations) && l.isPredication && r.isAtom
  | check _ x => x.isPredication
  | _ => false

mutual

/-- The operands of all comparisons and checks bind as tightly as their places ask. -/
def grouped : Formula α → Bool
  | atom _ => true
  | comparison o l r =>
    if o ∈ relations then l.isPredication && r.isPredication else l.isPredication && r.isAtom
  | check _ x => x.isPredication
  | junction _ xs => allGrouped xs
  | negation x => x.grouped

/-- So they do in all predicates. -/
def allGrouped : List (Formula α) → Bool
  | [] => true
  | x :: xs => x.grouped && allGrouped xs

end

theorem allGrouped_iff {xs : List (Formula α)} :
    allGrouped xs = true ↔ ∀ x ∈ xs, x.grouped = true := by
  induction xs with
  | nil => simp [allGrouped]
  | cons x xs ih => simp [allGrouped, ih]

theorem grouped_of_isPredication {f : Formula α} (h : f.isPredication = true) :
    f.grouped = true := by
  cases f with
  | atom => rfl
  | comparison o l r =>
    obtain ⟨⟨other, left⟩, right⟩ : (o ∉ relations ∧ l.isPredication = true) ∧
        r.isAtom = true := by
      simpa [isPredication] using h
    simp [grouped, other, left, right]
  | check o x => exact h
  | _ => cases h

variable {β : Type} (m : α → β)

theorem isPredication_map (x : Formula α) : (x.map m).isPredication = x.isPredication := by
  fun_induction isPredication x with
  | case1 => rfl
  | case2 o l r ih => rw [map, isPredication, ih, isAtom_map]
  | case3 _ x ih => exact ih
  | case4 x noAtom noComparison noCheck =>
    cases x with
    | atom a => exact (noAtom a rfl).elim
    | comparison o l r => exact (noComparison o l r rfl).elim
    | check o x => exact (noCheck o x rfl).elim
    | _ => rfl

mutual

/-- How tightly operands bind does not depend on what they are made of. -/
theorem grouped_map : ∀ x : Formula α, (x.map m).grouped = x.grouped
  | atom _ => rfl
  | comparison o l r => by
    rw [map, grouped, grouped, isPredication_map, isPredication_map, isAtom_map]
  | check _ x => isPredication_map m x
  | junction _ xs => allGrouped_maps xs
  | negation x => grouped_map x

theorem allGrouped_maps : ∀ xs : List (Formula α), allGrouped (maps m xs) = allGrouped xs
  | [] => rfl
  | x :: xs => by rw [maps, allGrouped, allGrouped, grouped_map x, allGrouped_maps xs]

end

end Grouped

open Precedence

variable {blank : Char → Bool} {f : Formula String}

/-- A combination begins with an operand, and its operator is next. -/
theorem rephrased_junction {read? : List Phrasing → Option (Formula String)} {o : String}
    {xs : List (Formula String)} (several : 2 ≤ xs.length) {ps : List Phrasing}
    (spelt : (junction o xs).rephrased read? = some ps) :
    ∃ x ∈ xs, ∃ px others, x.rephrasedOperand read? = some px ∧ ps = px ++ .word o :: others := by
  obtain ⟨pss, operands, rfl⟩ := Option.map_eq_some_iff.mp spelt
  rw [rephrasedOperands_eq] at operands
  have each := forall₂_of_mapM operands
  match each, several with
  | .cons (a := x) first (.cons _ _), _ =>
    exact ⟨x, List.mem_cons_self, _, _, first, intercalate_word _ _ _ _⟩

/-- Whatever is written, what is read of it as an operand with operators in words behind it is such
a predication. -/
theorem Formed.predication_of_operandAnd? (formed : f.Formed blank)
    {read? : List Phrasing → Option (Formula String)} {ps rest : List Phrasing}
    (spelt : f.rephrased read? = some ps) {make : Formula String → Formula String}
    (makes : ∀ a, (make (.atom a)).isPredication = true) {g : Formula String}
    (read : operandAnd? make (ps ++ rest) = some g) :
    ∃ l : Formula String, l.isPredication = true ∧ predicates? l rest = some g := by
  induction formed generalizing ps rest make with
  | @atom a _ =>
    cases spelt
    obtain ⟨r, operand, read⟩ := Option.bind_eq_some_iff.mp read
    rw [Phrasing.operand?] at operand
    split at operand
    · cases operand
    · cases operand
      exact ⟨_, makes a, read⟩
  | @comparison o l r mem _ _ ih ih' =>
    obtain ⟨pl, left, spelt⟩ := Option.bind_eq_some_iff.mp spelt
    obtain ⟨pr, right, rfl⟩ := Option.map_eq_some_iff.mp spelt
    rw [List.append_assoc, List.append_assoc] at read
    obtain ⟨acc, predication, read⟩ := ih left makes read
    by_cases relation : o ∈ relations
    · have words : ∀ o ∈ relations, operatorWords o = [o] := by decide
      rw [words o relation] at read
      cases (predicates?_eq_none (List.mem_append_right _ relation)).symm.trans read
    · rw [predicates?_comparison mem relation] at read
      refine ih' right (fun a => ?_) read
      simp [isPredication, relation, predication, isAtom]
  | @check o x mem _ ih =>
    obtain ⟨px, operand, rfl⟩ := Option.map_eq_some_iff.mp spelt
    rw [List.append_assoc] at read
    obtain ⟨acc, predication, read⟩ := ih operand makes read
    rw [predicates?_check mem] at read
    exact ⟨.check o acc, predication, read⟩
  | @junction o xs mem several _ ih =>
    obtain ⟨x, x_mem, px, others, first, rfl⟩ := rephrased_junction several spelt
    rw [List.append_assoc, List.cons_append] at read
    have stops {l g : Formula String} {ps : List Phrasing} :
        predicates? l (.word o :: ps) ≠ some g := fun eq => by
      cases (predicates?_eq_none (List.mem_append_left relations mem)).symm.trans eq
    unfold rephrasedOperand at first
    split at first
    · obtain ⟨x', -, rfl⟩ := Option.map_eq_some_iff.mp first
      exact absurd read stops
    · obtain ⟨acc, -, read⟩ := ih x x_mem first makes read
      exact absurd read stops
  | @negation x _ ih =>
    obtain ⟨px, operand, rfl⟩ := Option.map_eq_some_iff.mp spelt
    cases read

/-- What is written and read as an operand with operators in words behind it is such a
predication. -/
theorem Formed.isPredication_of_predication? (formed : f.Formed blank)
    {read? : List Phrasing → Option (Formula String)} {ps : List Phrasing}
    (spelt : f.rephrased read? = some ps) {g : Formula String} (read : predication? ps = some g) :
    g.isPredication = true := by
  rw [← List.append_nil ps] at read
  obtain ⟨l, predication, eq⟩ := formed.predication_of_operandAnd? spelt (fun _ => rfl) read
  cases eq
  exact predication

/-- An operand that is read as it was built is read so in its own parentheses, too. -/
theorem disjoined?_of_operand {x : Formula String} {ps : List Phrasing}
    (spelt : x.rephrasedOperand disjoined? = some ps) (noOr : ∀ p ∈ ps, p.isWord "OR" = false)
    (read : conjoined? ps = some x) : (x.rephrased disjoined?).bind disjoined? = some x := by
  unfold rephrasedOperand at spelt
  split at spelt
  · obtain ⟨x', inner, rfl⟩ := Option.map_eq_some_iff.mp spelt
    rw [conjoined?_group] at read
    rw [inner, read]
  · rw [spelt, Option.bind_some, disjoined?, combined?_of_free noOr, read]

/-- What is related one by one both ways has a partner. -/
theorem exists_of_forall₂ {α β : Type} {R : α → β → Prop} {S : β → α → Prop} {xs : List α}
    {ys : List β} (h : List.Forall₂ R xs ys) (h' : List.Forall₂ S ys xs) :
    ∀ x ∈ xs, ∃ y ∈ ys, R x y ∧ S y x := by
  induction h with
  | nil => exact List.forall_mem_nil _
  | cons first _ ih =>
    cases h' with
    | cons first' others =>
      refine List.forall_mem_cons.mpr ⟨⟨_, List.mem_cons_self, first, first'⟩, fun x mem => ?_⟩
      obtain ⟨y, y_mem, both⟩ := ih others x mem
      exact ⟨y, List.mem_cons_of_mem _ y_mem, both⟩

/-- What a combination that is read as it was built is made of is read as it was built. -/
theorem read_of_junction {o : String} (mem : o ∈ junctionOperators) {xs : List (Formula String)}
    (several : 2 ≤ xs.length)
    (read : ((junction o xs).rephrased disjoined?).bind disjoined? = some (.junction o xs)) :
    ∀ x ∈ xs, (x.rephrased disjoined?).bind disjoined? = some x := by
  intro x x_mem
  obtain ⟨ps, spelt, read⟩ := Option.bind_eq_some_iff.mp read
  obtain ⟨pss, operands, rfl⟩ := Option.map_eq_some_iff.mp spelt
  rw [rephrasedOperands_eq] at operands
  have each := forall₂_of_mapM operands
  have same : pss.length = xs.length := each.length_eq.symm
  have several : 2 ≤ pss.length := same ▸ several
  simp only [junctionOperators, List.mem_cons, List.not_mem_nil, or_false] at mem
  rcases mem with rfl | rfl
  · rcases combined?_cases read with ⟨noOr, read⟩ | ⟨_, other⟩
    swap
    · exact absurd (Formula.junction.inj other).1 (by decide)
    obtain ⟨ps, ps_mem, operand, noAnd, read⟩ :=
      exists_of_forall₂ each (forall₂_of_combined? several same read) x x_mem
    refine disjoined?_of_operand operand
      (fun p inside => noOr p (mem_intercalate ps_mem inside)) ?_
    rw [conjoined?, combined?_of_free noAnd, read]
  · obtain ⟨ps, -, operand, noOr, read⟩ :=
      exists_of_forall₂ each (forall₂_of_combined? several same read) x x_mem
    exact disjoined?_of_operand operand noOr read

/-- What is negated in a negation that is read as it was built is read as it was built. -/
theorem read_of_negation {x : Formula String}
    (read : ((negation x).rephrased disjoined?).bind disjoined? = some (.negation x)) :
    (x.rephrased disjoined?).bind disjoined? = some x := by
  obtain ⟨ps, spelt, read⟩ := Option.bind_eq_some_iff.mp read
  obtain ⟨noOr, noAnd, read⟩ := negated?_of_disjoined? rfl read
  obtain ⟨qs, operand, rfl⟩ := Option.map_eq_some_iff.mp spelt
  change (negated? qs).map Formula.negation = some (.negation x) at read
  obtain ⟨x', read, ⟨⟩⟩ := Option.map_eq_some_iff.mp read
  refine disjoined?_of_operand operand (List.forall_mem_cons.mp noOr).2 ?_
  rw [conjoined?, combined?_of_free (List.forall_mem_cons.mp noAnd).2, read]

/-- A relation that is read as it was built is one between predications. -/
theorem Formed.isPredication_of_relation {o : String} (relation : o ∈ relations)
    {l r : Formula String} (left : l.Formed blank) (right : r.Formed blank)
    {read? : List Phrasing → Option (Formula String)} {ps qs rs : List Phrasing}
    (spelt : (Formula.comparison o l r).rephrased read? = some ps) (linked : links ps = (qs, [(o, rs)]))
    (first : predication? qs = some l) (second : predication? rs = some r) :
    l.isPredication = true ∧ r.isPredication = true := by
  obtain ⟨pl, spelt_l, spelt⟩ := Option.bind_eq_some_iff.mp spelt
  obtain ⟨pr, spelt_r, rfl⟩ := Option.map_eq_some_iff.mp spelt
  have words : ∀ o ∈ relations, operatorWords o = [o] := by decide
  rw [words o relation, List.append_assoc, List.map_singleton, List.singleton_append,
    links_append relation] at linked
  obtain ⟨rfl, others⟩ := Prod.mk.inj linked
  rcases List.append_eq_singleton_iff.mp others with ⟨alone, others⟩ | ⟨-, ⟨⟩⟩
  obtain ⟨eq, alone'⟩ := List.cons.inj others
  obtain ⟨-, rfl⟩ := Prod.mk.inj eq
  rw [links_eq_of_nil alone] at first
  rw [links_eq_of_nil alone'] at second
  exact ⟨left.isPredication_of_predication? spelt_l first,
    right.isPredication_of_predication? spelt_r second⟩

/-- What is read as it was built has operands that bind tightly enough. -/
theorem Formed.grouped_of_read (formed : f.Formed blank)
    (read : (f.rephrased disjoined?).bind disjoined? = some f) : f.grouped = true := by
  induction formed with
  | atom => rfl
  | @comparison o l r mem left right _ _ =>
    obtain ⟨ps, spelt, read⟩ := Option.bind_eq_some_iff.mp read
    have whole : (Formula.comparison o l r).Formed blank := .comparison mem left right
    obtain ⟨-, -, read⟩ := negated?_of_disjoined? rfl read
    rcases negated?_cases read with ⟨_, _, -, ⟨⟩, -⟩ | read
    rcases chain?_cases read with
      alone | ⟨_, _, _, qs, rs, linked, relation, ⟨⟩, first, second⟩ | junction
    · exact grouped_of_isPredication (whole.isPredication_of_predication? spelt alone)
    · obtain ⟨left, right⟩ :=
        Formed.isPredication_of_relation relation left right spelt linked first second
      simp [grouped, relation, left, right]
    · cases junction
  | @check o x mem operand _ =>
    obtain ⟨ps, spelt, read⟩ := Option.bind_eq_some_iff.mp read
    have whole : (Formula.check o x).Formed blank := .check mem operand
    obtain ⟨-, -, read⟩ := negated?_of_disjoined? rfl read
    rcases negated?_cases read with ⟨_, _, -, ⟨⟩, -⟩ | read
    rcases chain?_cases read with alone | ⟨_, _, _, _, _, -, -, ⟨⟩, -⟩ | junction
    · have predication := whole.isPredication_of_predication? spelt alone
      exact predication
    · cases junction
  | junction mem several _ ih =>
    exact allGrouped_iff.mpr fun x x_mem => ih x x_mem (read_of_junction mem several read x x_mem)
  | negation _ ih => exact ih (read_of_negation read)

/-! ### Reading what binds tightly enough -/

/-- No operator of a combination and no relation is among the words. -/
def Unbroken (ps : List Phrasing) : Prop :=
  ∀ p ∈ ps, ∀ o ∈ junctionOperators ++ relations, p ≠ .word o

theorem Unbroken.append {ps qs : List Phrasing} (h : Unbroken ps) (h' : Unbroken qs) :
    Unbroken (ps ++ qs) := List.forall_mem_append.mpr ⟨h, h'⟩

theorem unbroken_words {ws : List String} (other : ∀ w ∈ ws, w ∉ junctionOperators ++ relations) :
    Unbroken (ws.map .word) := by
  refine List.forall_mem_map.mpr fun w w_mem o o_mem eq => other w w_mem ?_
  cases eq
  exact o_mem

theorem Unbroken.isWord {ps : List Phrasing} (h : Unbroken ps) {o : String}
    (mem : o ∈ junctionOperators) : ∀ p ∈ ps, p.isWord o = false := by
  intro p p_mem
  cases p with
  | group => rfl
  | word s =>
    refine beq_false_of_ne fun eq => h _ p_mem o (List.mem_append_left _ mem) ?_
    rw [eq]

theorem Unbroken.relation? {ps : List Phrasing} (h : Unbroken ps) :
    ∀ p ∈ ps, p.relation? = none := by
  intro p p_mem
  cases p with
  | group => rfl
  | word s => exact if_neg fun mem => h _ p_mem s (List.mem_append_right _ mem) rfl

/-- What begins with a predication does not begin with a negation. -/
theorem negated?_append {ps : List Phrasing} {g : Formula String} (read : predication? ps = some g)
    (rest : List Phrasing) : negated? (ps ++ rest) = chain? (ps ++ rest) := by
  cases ps with
  | nil => cases read
  | cons p ps =>
    obtain ⟨r, operand, -⟩ := Option.bind_eq_some_iff.mp read
    rw [List.cons_append, negated?, if_neg]
    intro isNot
    cases p with
    | group => cases isNot
    | word s =>
      obtain rfl := beq_iff_eq.mp isNot
      cases operand

/-- Without a relation there is no chain. -/
theorem chain?_of_unbroken {ps : List Phrasing} (h : Unbroken ps) :
    chain? ps = predication? ps := by
  rw [chain?, links_of_free h.relation?]
  cases predication? ps <;> rfl

theorem negated?_of_unbroken {ps : List Phrasing} (unbroken : Unbroken ps) {g : Formula String}
    (read : predication? ps = some g) : negated? ps = some g := by
  have negated := negated?_append read []
  rw [List.append_nil] at negated
  rw [negated, chain?_of_unbroken unbroken, read]

/-- No word that the predicate is made of is an operator. -/
def Named (f : Formula String) : Prop := ∀ a ∈ f.atoms, a ∉ Phrasing.reserved ++ relations

theorem operand?_word {a : String} (named : a ∉ Phrasing.reserved ++ relations) :
    (Phrasing.word a).operand? = some (.atom a) :=
  if_neg fun mem => named (List.mem_append_left _ mem)

theorem unbroken_word {a : String} (named : a ∉ Phrasing.reserved ++ relations) :
    Unbroken [.word a] := by
  have reserved : ∀ o ∈ junctionOperators ++ relations, o ∈ Phrasing.reserved ++ relations := by
    decide
  refine List.forall_mem_singleton.mpr fun o mem eq => named ?_
  cases eq
  exact reserved _ mem

/-- A predication is read in front of whatever comes next. -/
theorem Formed.predication?_append (formed : f.Formed blank) (named : f.Named)
    (predication : f.isPredication = true) (read? : List Phrasing → Option (Formula String)) :
    ∃ ps, f.rephrased read? = some ps ∧ Unbroken ps ∧
      ∀ rest, predication? (ps ++ rest) = predicates? f rest := by
  induction formed with
  | @atom a _ =>
    have named := named a List.mem_cons_self
    refine ⟨[.word a], rfl, unbroken_word named, fun rest => ?_⟩
    change ((Phrasing.word a).operand?).bind (fun r => predicates? (id r) rest) = _
    rw [operand?_word named]
    rfl
  | @comparison o l r mem left _ ih _ =>
    obtain ⟨⟨other, isPredication⟩, isAtom⟩ : (o ∉ relations ∧ l.isPredication = true) ∧
        r.isAtom = true := by
      simpa [isPredication] using predication
    cases r with
    | atom b =>
      obtain ⟨named, last⟩ := List.forall_mem_append.mp named
      have last := last b List.mem_cons_self
      obtain ⟨pl, spelt, unbroken, read⟩ := ih named isPredication
      have words : ∀ o ∈ comparisonOperators, o ∉ relations → ∀ w ∈ operatorWords o,
          w ∉ junctionOperators ++ relations := by decide
      refine ⟨pl ++ (operatorWords o).map .word ++ [.word b], ?_, ?_, fun rest => ?_⟩
      · rw [rephrased, spelt]
        rfl
      · exact (unbroken.append (unbroken_words (words o mem other))).append (unbroken_word last)
      · rw [List.append_assoc, List.append_assoc, read, predicates?_comparison mem other]
        change ((Phrasing.word b).operand?).bind _ = _
        rw [operand?_word last]
        rfl
    | _ => cases isAtom
  | @check o x mem _ ih =>
    obtain ⟨px, spelt, unbroken, read⟩ := ih named predication
    have words : ∀ o ∈ checkOperators, ∀ w ∈ operatorWords o,
        w ∉ junctionOperators ++ relations := by decide
    refine ⟨px ++ (operatorWords o).map .word, ?_, ?_, fun rest => ?_⟩
    · rw [rephrased, spelt]
      rfl
    · exact unbroken.append (unbroken_words (words o mem))
    · rw [List.append_assoc, read, predicates?_check mem]
  | junction => cases predication
  | negation => cases predication

/-- A predication is read as it was built. -/
theorem Formed.exists_predication (formed : f.Formed blank) (named : f.Named)
    (predication : f.isPredication = true) (read? : List Phrasing → Option (Formula String)) :
    ∃ ps, f.rephrased read? = some ps ∧ Unbroken ps ∧ predication? ps = some f := by
  obtain ⟨ps, spelt, unbroken, read⟩ := formed.predication?_append named predication read?
  have read := read []
  rw [List.append_nil] at read
  exact ⟨ps, spelt, unbroken, read⟩

/-- The predicate is read as it was built, by itself and as an operand of a combination or a
negation. -/
structure Kept (f : Formula String) : Prop where
  alone : (f.rephrased disjoined?).bind disjoined? = some f
  operand : ∃ ps, f.rephrasedOperand disjoined? = some ps ∧
    (∀ o ∈ junctionOperators, ∀ p ∈ ps, p.isWord o = false) ∧ negated? ps = some f

/-- What is no combination stands among operands as it does alone. -/
theorem Kept.of_single {ps : List Phrasing} (single : f.isJunction = false)
    (spelt : f.rephrased disjoined? = some ps)
    (free : ∀ o ∈ junctionOperators, ∀ p ∈ ps, p.isWord o = false)
    (read : negated? ps = some f) : f.Kept where
  alone := by
    rw [spelt, Option.bind_some, disjoined?, combined?_of_free (free "OR" (by decide)),
      conjoined?, combined?_of_free (free "AND" (by decide)), read]
  operand := by
    refine ⟨ps, ?_, free, read⟩
    rw [rephrasedOperand, if_neg (Bool.eq_false_iff.mp single), spelt]

/-- Predications are kept. -/
theorem Formed.kept_of_isPredication (formed : f.Formed blank) (named : f.Named)
    (predication : f.isPredication = true) : f.Kept := by
  have single : f.isJunction = false := by
    cases f with
    | junction => cases predication
    | _ => rfl
  obtain ⟨ps, spelt, unbroken, read⟩ := formed.exists_predication named predication disjoined?
  exact .of_single single spelt (fun o mem => unbroken.isWord mem)
    (negated?_of_unbroken unbroken read)

/-- A relation between predications is kept. -/
theorem kept_relation {o : String} {l r : Formula String} (relation : o ∈ relations)
    (left : l.Formed blank) (right : r.Formed blank) (named : l.Named) (named' : r.Named)
    (predication : l.isPredication = true) (predication' : r.isPredication = true) :
    (Formula.comparison o l r).Kept := by
  obtain ⟨pl, spelt, unbroken, read⟩ := left.exists_predication named predication disjoined?
  obtain ⟨pr, spelt', unbroken', read'⟩ := right.exists_predication named' predication' disjoined?
  have words : ∀ o ∈ relations, operatorWords o = [o] ∧
      ∀ o' ∈ junctionOperators, (Phrasing.word o).isWord o' = false := by decide
  obtain ⟨word, other⟩ := words o relation
  refine Kept.of_single (f := .comparison o l r) rfl (?_ : _ = some (pl ++ .word o :: pr)) ?_ ?_
  · rw [rephrased, spelt, spelt', word]
    simp
  · intro o' mem
    exact List.forall_mem_append.mpr ⟨unbroken.isWord mem,
      List.forall_mem_cons.mpr ⟨other o' mem, unbroken'.isWord mem⟩⟩
  · rw [negated?_append read, chain?, links_append relation, links_of_free unbroken.relation?,
      links_of_free unbroken'.relation?]
    simp [read, read', chained]

/-- A combination of what is kept is kept. -/
theorem kept_junction {o : String} {xs : List (Formula String)} (mem : o ∈ junctionOperators)
    (several : 2 ≤ xs.length) (each : ∀ x ∈ xs, x.Kept) : (Formula.junction o xs).Kept := by
  let parts (x : Formula String) : List Phrasing := (x.rephrasedOperand disjoined?).getD []
  have each : ∀ x ∈ xs, x.rephrasedOperand disjoined? = some (parts x) ∧
      (∀ o ∈ junctionOperators, ∀ p ∈ parts x, p.isWord o = false) ∧
        negated? (parts x) = some x := by
    intro x x_mem
    obtain ⟨ps, operand, free, read⟩ := (each x x_mem).operand
    have parts_eq : parts x = ps := by simp [parts, operand]
    rw [parts_eq]
    exact ⟨operand, free, read⟩
  have noOr : ∀ x ∈ xs, ∀ p ∈ parts x, p.isWord "OR" = false := fun x x_mem =>
    (each x x_mem).2.1 "OR" (by decide)
  have noAnd : ∀ x ∈ xs, ∀ p ∈ parts x, p.isWord "AND" = false := fun x x_mem =>
    (each x x_mem).2.1 "AND" (by decide)
  have spelt : (Formula.junction o xs).rephrased disjoined? =
      some ([Phrasing.word o].intercalate (xs.map parts)) := by
    rw [rephrased, rephrasedOperands_eq, mapM_eq_map fun x x_mem => (each x x_mem).1]
    rfl
  have read : disjoined? ([Phrasing.word o].intercalate (xs.map parts)) =
      some (.junction o xs) := by
    simp only [junctionOperators, List.mem_cons, List.not_mem_nil, or_false] at mem
    rcases mem with rfl | rfl
    · rw [disjoined?, combined?_of_free]
      · exact combined?_intercalate several noAnd fun x x_mem => (each x x_mem).2.2
      · intro p inside
        rcases eq_or_mem_of_mem_intercalate inside with rfl | ⟨ps, mem, inside⟩
        · rfl
        · obtain ⟨x, x_mem, rfl⟩ := List.mem_map.mp mem
          exact noOr x x_mem p inside
    · refine combined?_intercalate several noOr fun x x_mem => ?_
      rw [conjoined?, combined?_of_free (noAnd x x_mem), (each x x_mem).2.2]
  have alone : ((Formula.junction o xs).rephrased disjoined?).bind disjoined? =
      some (.junction o xs) := by
    rw [spelt, Option.bind_some, read]
  have isJunction : (Formula.junction o xs).isJunction = true := rfl
  refine ⟨alone, [.group (.junction o xs)], ?_, fun _ _ => List.forall_mem_singleton.mpr rfl, rfl⟩
  rw [rephrasedOperand, if_pos isJunction, alone]
  rfl

/-- What binds tightly enough is kept. -/
theorem Formed.kept (formed : f.Formed blank) (named : f.Named) (grouped : f.grouped = true) :
    f.Kept := by
  induction formed with
  | atom atomic => exact (Formed.atom atomic).kept_of_isPredication named rfl
  | @comparison o l r mem left right _ _ =>
    by_cases relation : o ∈ relations
    · obtain ⟨named_l, named_r⟩ := List.forall_mem_append.mp named
      obtain ⟨predication, predication'⟩ : l.isPredication = true ∧ r.isPredication = true := by
        simpa [Formula.grouped, relation] using grouped
      exact kept_relation relation left right named_l named_r predication predication'
    · refine (Formed.comparison mem left right).kept_of_isPredication named ?_
      simpa [Formula.grouped, Formula.isPredication, relation] using grouped
  | check mem operand _ =>
    exact (Formed.check mem operand).kept_of_isPredication named grouped
  | @junction o xs mem several _ ih =>
    refine kept_junction mem several fun x x_mem => ?_
    refine ih x x_mem (fun a a_mem => named a ?_) (allGrouped_iff.mp grouped x x_mem)
    rw [atoms, atomsOf_eq]
    exact List.mem_flatMap.mpr ⟨x, x_mem, a_mem⟩
  | @negation x _ ih =>
    obtain ⟨ps, operand, free, read⟩ := (ih named grouped).operand
    refine Kept.of_single (f := .negation x) rfl (?_ : _ = some (.word "NOT" :: ps)) ?_ ?_
    · rw [rephrased, ← rephrasedOperand, operand]
      rfl
    · intro o mem
      refine List.forall_mem_cons.mpr ⟨?_, free o mem⟩
      revert o
      decide
    · change (negated? ps).map Formula.negation = _
      rw [read]
      rfl

/-- A predicate is read from its text as it was built just in case the operands of its comparisons
and checks bind as tightly as their places ask. -/
theorem Formed.parse?_eq_some_iff (spaces : Spaces blank) (formed : f.Formed blank)
    (named : f.Named) :
    Precedence.parse? blank (String.ofList f.chars) = some f ↔ f.grouped = true := by
  rw [Precedence.parse?, formed.parseWith_chars spaces]
  exact ⟨formed.grouped_of_read, fun grouped => (formed.kept named grouped).alone⟩

end Formula

end GraphQuery
