import GraphQuery.Proofs.Text.Reading

/-!
Predicates as they are read by the precedence of all operators.

`OR` binds loosest, then `AND`, then `NOT`, then relations such as `=` and `<`. These chain: what is
related to two things is between them. Operators in words bind tightest, and each of them is about
all that stands in front of it up to there.

Comparisons and checks are written as their operands are, with the operator between or behind them.
So the reader has to find out by precedence what they are about.

* `Precedence.parse?`: the predicate that a text is.
* `Precedence.links_append`: what a chain falls into.
* `Precedence.forall₂_of_combined?`, `Precedence.combined?_intercalate`: what combinations fall
  into.
-/

namespace GraphQuery

/-- The relation that a word is, if it is one. -/
def Phrasing.relation? : Phrasing → Option String
  | word s => if s ∈ relations then some s else none
  | group _ => none

/-! ### Reading -/

namespace Precedence

/-- A predicate with the operators in words that stand behind it. -/
def predicates? : Formula String → List Phrasing → Option (Formula String)
  | l, [] => some l
  | l, .word "IS" :: .word "NULL" :: ps => predicates? (.check "IS NULL" l) ps
  | l, .word "IS" :: .word "NOT" :: .word "NULL" :: ps => predicates? (.check "IS NOT NULL" l) ps
  | l, .word "IN" :: x :: ps => x.operand?.bind fun r => predicates? (.comparison "IN" l r) ps
  | l, .word "CONTAINS" :: x :: ps =>
    x.operand?.bind fun r => predicates? (.comparison "CONTAINS" l r) ps
  | l, .word "STARTS" :: .word "WITH" :: x :: ps =>
    x.operand?.bind fun r => predicates? (.comparison "STARTS WITH" l r) ps
  | l, .word "ENDS" :: .word "WITH" :: x :: ps =>
    x.operand?.bind fun r => predicates? (.comparison "ENDS WITH" l r) ps
  | _, _ => none

/-- An operand, what is made of it, and the operators in words behind it. -/
def operandAnd? (make : Formula String → Formula String) : List Phrasing → Option (Formula String)
  | [] => none
  | x :: ps => x.operand?.bind fun r => predicates? (make r) ps

/-- An operand with operators in words behind it. -/
def predication? : List Phrasing → Option (Formula String) := operandAnd? id

/-- What stands in front of the first relation, and each relation with what stands behind it. -/
def links : List Phrasing → List Phrasing × List (String × List Phrasing)
  | [] => ([], [])
  | p :: ps =>
    match p.relation? with
    | some o => ([], (o, (links ps).1) :: (links ps).2)
    | none => (p :: (links ps).1, (links ps).2)

/-- Neighbours in a chain. -/
def neighbours (l : Formula String) : List (String × Formula String) → List (Formula String)
  | [] => []
  | (o, r) :: rest => .comparison o l r :: neighbours r rest

/-- What a chain says: all of its neighbours are related. -/
def chained (l : Formula String) (rest : List (String × Formula String)) : Formula String :=
  match rest with
  | [] => l
  | [(o, r)] => .comparison o l r
  | rest => .junction "AND" (neighbours l rest)

/-- Predications with relations between them. -/
def chain? (ps : List Phrasing) : Option (Formula String) :=
  (predication? (links ps).1).bind fun l =>
    ((links ps).2.mapM fun link => (predication? link.2).map (link.1, ·)).map (chained l)

/-- A chain behind any number of negations. -/
def negated? : List Phrasing → Option (Formula String)
  | [] => none
  | x :: ps => if x.isWord "NOT" then (negated? ps).map .negation else chain? (x :: ps)

/-- What is read of parts with an operator between them. -/
def combined? (operator : String) (read? : List Phrasing → Option (Formula String))
    (ps : List Phrasing) : Option (Formula String) :=
  ((ps.splitOnP (Phrasing.isWord operator)).mapM read?).map (Formula.joined operator)

/-- Negations with `AND` between them. -/
def conjoined? : List Phrasing → Option (Formula String) := combined? "AND" negated?

/-- Conjunctions with `OR` between them. -/
def disjoined? : List Phrasing → Option (Formula String) := combined? "OR" conjoined?

/-- The predicate that a text is, if it is one. -/
def parse? (blank : Char → Bool) (s : String) : Option (Formula String) :=
  Formula.parseWith disjoined? [] [] (Text.lexemes blank s)

/-! ### Operators in words -/

variable {l g : Formula String} {ps : List Phrasing}

/-- A check is about what stands in front of it. -/
theorem predicates?_check {o : String} (mem : o ∈ checkOperators) :
    predicates? l ((operatorWords o).map .word ++ ps) = predicates? (.check o l) ps := by
  have words : operatorWords "IS NULL" = ["IS", "NULL"] ∧
      operatorWords "IS NOT NULL" = ["IS", "NOT", "NULL"] := by decide
  simp only [checkOperators, List.mem_cons, List.not_mem_nil, or_false] at mem
  rcases mem with rfl | rfl
  · rw [words.1]; rfl
  · rw [words.2]; rfl

/-- A comparison that is no relation is about what stands in front of it, and the next operand. -/
theorem predicates?_comparison {o : String} (mem : o ∈ comparisonOperators)
    (other : o ∉ relations) :
    predicates? l ((operatorWords o).map .word ++ ps) = operandAnd? (.comparison o l) ps := by
  have inWords : ∀ o ∈ comparisonOperators, o ∉ relations →
      o = "IN" ∧ operatorWords o = ["IN"] ∨
      o = "CONTAINS" ∧ operatorWords o = ["CONTAINS"] ∨
      o = "STARTS WITH" ∧ operatorWords o = ["STARTS", "WITH"] ∨
      o = "ENDS WITH" ∧ operatorWords o = ["ENDS", "WITH"] := by decide
  rcases inWords o mem other with ⟨rfl, words⟩ | ⟨rfl, words⟩ | ⟨rfl, words⟩ | ⟨rfl, words⟩ <;>
    rw [words] <;> cases ps <;> rfl

/-- Relations and operators of combinations are no operators in words. -/
theorem predicates?_eq_none {o : String} (mem : o ∈ junctionOperators ++ relations) :
    predicates? l (.word o :: ps) = none := by
  simp only [junctionOperators, relations, List.cons_append, List.nil_append, List.mem_cons,
    List.not_mem_nil, or_false] at mem
  rcases mem with rfl | rfl | rfl | rfl | rfl | rfl | rfl | rfl <;> rfl

/-! ### Chains -/

/-- Without a relation there is one link. -/
theorem links_of_free (free : ∀ p ∈ ps, p.relation? = none) : links ps = (ps, []) := by
  induction ps with
  | nil => rfl
  | cons p ps ih =>
    obtain ⟨first, others⟩ := List.forall_mem_cons.mp free
    rw [links, first, ih others]

/-- A relation stands between the links in front of it and those behind it. -/
theorem links_append {o : String} (mem : o ∈ relations) (ps qs : List Phrasing) :
    links (ps ++ .word o :: qs) =
      ((links ps).1, (links ps).2 ++ (o, (links qs).1) :: (links qs).2) := by
  have relation : (Phrasing.word o).relation? = some o := if_pos mem
  induction ps with
  | nil => simp only [List.nil_append, links, relation]
  | cons p ps ih =>
    rw [List.cons_append, links, links, ih]
    cases p.relation? <;> rfl

/-- If there is one link, it is everything. -/
theorem links_eq_of_nil (alone : (links ps).2 = []) : (links ps).1 = ps := by
  induction ps with
  | nil => rfl
  | cons p ps ih =>
    rw [links] at alone ⊢
    cases relation : p.relation? with
    | some o =>
      rw [relation] at alone
      cases alone
    | none =>
      rw [relation] at alone
      exact congrArg (p :: ·) (ih alone)

/-- All links but the first stand behind relations. -/
theorem relations_of_mem_links {link : String × List Phrasing} (mem : link ∈ (links ps).2) :
    link.1 ∈ relations := by
  induction ps with
  | nil => cases mem
  | cons p ps ih =>
    rw [links] at mem
    cases relation : p.relation? with
    | none =>
      rw [relation] at mem
      exact ih mem
    | some o =>
      rw [relation] at mem
      rcases List.mem_cons.mp mem with rfl | mem
      · cases p with
        | group f => cases relation
        | word s =>
          rw [Phrasing.relation?] at relation
          split at relation
          · cases relation
            assumption
          · cases relation
      · exact ih mem

/-! ### Combinations -/

section Combinations

variable {o : String} {read? : List Phrasing → Option (Formula String)} {f : Formula String}

/-- There is one part more than there are operators. -/
theorem length_splitOnP {α : Type} (p : α → Bool) (xs : List α) :
    (xs.splitOnP p).length = xs.countP p + 1 := by
  induction xs with
  | nil => rfl
  | cons x xs ih =>
    rw [List.splitOnP_cons_eq_if_modifyHead, List.countP_cons]
    split <;> simp [*]

/-- Operators stand between parts, and there may be some in each of them. -/
theorem countP_intercalate {p : Phrasing → Bool} {w : Phrasing} (isWord : p w = true)
    {pss : List (List Phrasing)} (nonempty : pss ≠ []) :
    ([w].intercalate pss).countP p + 1 = pss.length + pss.flatten.countP p := by
  induction pss with
  | nil => exact absurd rfl nonempty
  | cons ps pss ih =>
    cases pss with
    | nil => simp [List.intercalate, Nat.add_comm]
    | cons qs pss =>
      have others := ih (List.cons_ne_nil _ _)
      rw [Formula.intercalate_word, List.countP_append, List.countP_cons_of_pos isWord,
        List.flatten_cons, List.countP_append, List.length_cons]
      omega

/-- Without an operator there is one part. -/
theorem combined?_of_free (free : ∀ p ∈ ps, p.isWord o = false) :
    combined? o read? ps = read? ps := by
  rw [combined?, List.splitOnP_eq_singleton free, Formula.mapM_cons]
  cases read? ps <;> rfl

/-- With an operator a combination is read. -/
theorem combined?_cases (read : combined? o read? ps = some f) :
    ((∀ p ∈ ps, p.isWord o = false) ∧ read? ps = some f) ∨ ∃ xs, f = .junction o xs := by
  by_cases free : ∀ p ∈ ps, p.isWord o = false
  · rw [combined?_of_free free] at read
    exact .inl ⟨free, read⟩
  · obtain ⟨ys, parts, rfl⟩ := Option.map_eq_some_iff.mp read
    have length := (Formula.forall₂_of_mapM parts).length_eq
    rw [length_splitOnP] at length
    have some : ps.countP (Phrasing.isWord o) ≠ 0 := by
      simpa [List.countP_eq_zero] using free
    right
    match ys, length with
    | [], _ => exact ⟨[], rfl⟩
    | [_], length => exact absurd (Nat.succ.inj length) some
    | y :: y' :: ys, _ => exact ⟨y :: y' :: ys, rfl⟩

/-- If a combination is read of as many parts as it has operands, then its operands are read of the
parts, and there are no further operators in them. -/
theorem forall₂_of_combined? {pss : List (List Phrasing)} {xs : List (Formula String)}
    (several : 2 ≤ pss.length) (same : pss.length = xs.length)
    (read : combined? o read? ([Phrasing.word o].intercalate pss) = some (.junction o xs)) :
    List.Forall₂ (fun ps x => (∀ p ∈ ps, p.isWord o = false) ∧ read? ps = some x) pss xs := by
  have isWord : (Phrasing.word o).isWord o = true := beq_self_eq_true o
  have nonempty : pss ≠ [] := List.ne_nil_of_length_pos (Nat.lt_of_succ_lt several)
  obtain ⟨ys, parts, joined⟩ := Option.map_eq_some_iff.mp read
  have length := (Formula.forall₂_of_mapM parts).length_eq
  rw [length_splitOnP, countP_intercalate isWord nonempty] at length
  obtain rfl : ys = xs := by
    match ys, length with
    | [], length =>
      simp only [List.length_nil] at length
      omega
    | [_], length =>
      simp only [List.length_singleton] at length
      omega
    | y :: y' :: ys, _ =>
      cases joined
      rfl
  have free : ∀ ps ∈ pss, ∀ p ∈ ps, p.isWord o = false := by
    have none : pss.flatten.countP (Phrasing.isWord o) = 0 := by omega
    intro ps mem p p_mem
    have inside := List.mem_flatten_of_mem mem p_mem
    exact Bool.eq_false_iff.mpr (List.countP_eq_zero.mp none p inside)
  rw [Formula.splitOnP_intercalate isWord nonempty free] at parts
  exact (List.forall₂_and_left _ _).mpr ⟨free, Formula.forall₂_of_mapM parts⟩

/-- A group is read as it is. -/
theorem conjoined?_group (f : Formula String) : conjoined? [.group f] = some f := rfl

/-- Operands that are read one by one are read together as a combination. -/
theorem combined?_intercalate {parts : Formula String → List Phrasing} {xs : List (Formula String)}
    (several : 2 ≤ xs.length) (free : ∀ x ∈ xs, ∀ p ∈ parts x, p.isWord o = false)
    (each : ∀ x ∈ xs, read? (parts x) = some x) :
    combined? o read? ([Phrasing.word o].intercalate (xs.map parts)) =
      some (.junction o xs) := by
  have isWord : (Phrasing.word o).isWord o = true := beq_self_eq_true o
  have nonempty : xs.map parts ≠ [] :=
    List.ne_nil_of_length_pos ((List.length_map parts).symm ▸ Nat.lt_of_succ_lt several)
  have operands : xs.mapM (read? ∘ parts) = some xs :=
    (Formula.mapM_eq_map each).trans (congrArg some (List.map_id xs))
  rw [combined?, Formula.splitOnP_intercalate isWord nonempty (List.forall_mem_map.mpr free),
    List.mapM_map, operands]
  exact congrArg some (Formula.joined_eq several)

/-- What is no combination is read without any. -/
theorem negated?_of_disjoined? (single : f.isJunction = false) (read : disjoined? ps = some f) :
    (∀ p ∈ ps, p.isWord "OR" = false) ∧ (∀ p ∈ ps, p.isWord "AND" = false) ∧
      negated? ps = some f := by
  rcases combined?_cases read with ⟨noOr, read⟩ | ⟨xs, rfl⟩
  · rcases combined?_cases read with ⟨noAnd, read⟩ | ⟨xs, rfl⟩
    · exact ⟨noOr, noAnd, read⟩
    · cases single
  · cases single

/-- What is read behind negations. -/
theorem negated?_cases (read : negated? ps = some f) :
    (∃ qs g, ps = .word "NOT" :: qs ∧ f = .negation g ∧ negated? qs = some g) ∨
      chain? ps = some f := by
  cases ps with
  | nil => cases read
  | cons p qs =>
    rw [negated?] at read
    split at read
    · rename_i isNot
      obtain ⟨g, inner, rfl⟩ := Option.map_eq_some_iff.mp read
      cases p with
      | group => cases isNot
      | word s =>
        obtain rfl := beq_iff_eq.mp isNot
        exact .inl ⟨qs, g, rfl, rfl, inner⟩
    · exact .inr read

/-- What is read of a chain: a predication alone, a relation between two, or a combination of
several relations. -/
theorem chain?_cases (read : chain? ps = some f) : predication? ps = some f ∨
    (∃ o l r qs rs, links ps = (qs, [(o, rs)]) ∧ o ∈ relations ∧ f = .comparison o l r ∧
      predication? qs = some l ∧ predication? rs = some r) ∨ f.isJunction = true := by
  obtain ⟨l, first, read⟩ := Option.bind_eq_some_iff.mp read
  obtain ⟨others, parts, rfl⟩ := Option.map_eq_some_iff.mp read
  have each := Formula.forall₂_of_mapM parts
  cases linked : (links ps).2 with
  | nil =>
    rw [linked] at each
    cases each
    rw [links_eq_of_nil linked] at first
    exact .inl first
  | cons link rest =>
    have relation : link.1 ∈ relations :=
      relations_of_mem_links (linked ▸ List.mem_cons_self)
    rw [linked] at each
    cases each with
    | cons second each =>
      obtain ⟨r, operand, rfl⟩ := Option.map_eq_some_iff.mp second
      cases each with
      | nil =>
        exact .inr (.inl ⟨link.1, l, r, (links ps).1, link.2, Prod.ext rfl linked, relation, rfl,
          first, operand⟩)
      | cons => exact .inr (.inr rfl)

end Combinations

end Precedence

end GraphQuery
