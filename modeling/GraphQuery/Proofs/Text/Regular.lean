import GraphQuery.Proofs.Text.Reading

/-!
Predicates that are read as they were written.

* `Formula.Regular`: what is compared is one word each.
* `Formula.Regular.disjunction?_phrases`: such a predicate is read by precedence.
* `Formula.Regular.parse?_chars`: it is read from its text.
-/

namespace GraphQuery

open Text (Spaces IsAtomic)

namespace Formula

/-- Predicates that can be written and read: combinations have several operands, all operators are
those of the library, and what is compared is one word each. -/
inductive Regular (blank : Char → Bool) : Formula String → Prop where
  | atom {a : String} : IsAtomic blank a.toList → a ∉ Phrasing.reserved → Regular blank (.atom a)
  | comparison {o a b : String} : o ∈ comparisonOperators → Regular blank (.atom a) →
      Regular blank (.atom b) → Regular blank (.comparison o (.atom a) (.atom b))
  | check {o a : String} : o ∈ checkOperators → Regular blank (.atom a) →
      Regular blank (.check o (.atom a))
  | junction {o : String} {xs : List (Formula String)} : o ∈ junctionOperators → 2 ≤ xs.length →
      (∀ x ∈ xs, Regular blank x) → Regular blank (.junction o xs)
  | negation {x : Formula String} : Regular blank x → Regular blank (.negation x)

theorem Regular.formed {blank : Char → Bool} {f : Formula String} (regular : f.Regular blank) :
    f.Formed blank := by
  induction regular with
  | atom atomic _ => exact .atom atomic
  | comparison mem _ _ ih ih' => exact .comparison mem ih ih'
  | check mem _ ih => exact .check mem ih
  | junction mem several _ ih => exact .junction mem several ih
  | negation _ ih => exact .negation ih

section Simple

variable {α : Type}

mutual

/-- What is compared or checked is an operand by itself. -/
def isSimple : Formula α → Bool
  | atom _ => true
  | comparison _ l r => l.isAtom && r.isAtom
  | check _ x => x.isAtom
  | junction _ xs => allSimple xs
  | negation x => x.isSimple

/-- So it is in all predicates. -/
def allSimple : List (Formula α) → Bool
  | [] => true
  | x :: xs => x.isSimple && allSimple xs

end

theorem allSimple_iff {xs : List (Formula α)} :
    allSimple xs = true ↔ ∀ x ∈ xs, x.isSimple = true := by
  induction xs with
  | nil => simp [allSimple]
  | cons x xs ih => simp [allSimple, ih]

end Simple

/-- What is an operand by itself is a word. -/
theorem Formed.exists_atom {blank : Char → Bool} {x : Formula String} (formed : x.Formed blank)
    (isAtom : x.isAtom = true) (free : ∀ a ∈ x.atoms, a ∉ Phrasing.reserved) :
    ∃ a, x = .atom a ∧ Regular blank (.atom a) := by
  cases formed with
  | @atom a atomic => exact ⟨a, rfl, .atom atomic (free a List.mem_cons_self)⟩
  | _ => cases isAtom

/-- A predicate that can be written is regular, if nothing that is compared is made of several
words. -/
theorem Formed.regular {blank : Char → Bool} {f : Formula String} (formed : f.Formed blank)
    (simple : f.isSimple = true) (free : ∀ a ∈ f.atoms, a ∉ Phrasing.reserved) :
    f.Regular blank := by
  induction formed with
  | atom atomic => exact .atom atomic (free _ List.mem_cons_self)
  | comparison mem left right _ _ =>
    obtain ⟨isAtom, isAtom'⟩ := (Bool.and_eq_true _ _).mp simple
    obtain ⟨free, free'⟩ := List.forall_mem_append.mp free
    obtain ⟨a, rfl, regular⟩ := left.exists_atom isAtom free
    obtain ⟨b, rfl, regular'⟩ := right.exists_atom isAtom' free'
    exact .comparison mem regular regular'
  | check mem operand _ =>
    obtain ⟨a, rfl, regular⟩ := operand.exists_atom simple free
    exact .check mem regular
  | @junction o xs mem several _ ih =>
    refine .junction mem several fun x x_mem => ?_
    refine ih x x_mem (allSimple_iff.mp simple x x_mem) fun a a_mem => free a ?_
    rw [atoms, atomsOf_eq]
    exact List.mem_flatMap.mpr ⟨x, x_mem, a_mem⟩
  | negation _ ih => exact .negation (ih simple free)

/-! ### Phrases -/

mutual

/-- The words and groups of a predicate that is no operand. -/
def phrases : Formula String → List Phrasing
  | atom a => [.word a]
  | comparison o l r => l.phrases ++ (operatorWords o).map .word ++ r.phrases
  | check o x => x.phrases ++ (operatorWords o).map .word
  | junction o xs => [Phrasing.word o].intercalate (operandPhrases xs)
  | negation x => .word "NOT" :: if x.isJunction then [.group x] else x.phrases

/-- The words and groups of predicates that are operands. -/
def operandPhrases : List (Formula String) → List (List Phrasing)
  | [] => []
  | x :: xs => (if x.isJunction then [.group x] else x.phrases) :: operandPhrases xs

end

/-- The words and groups of a predicate that is an operand. -/
def asOperand (x : Formula String) : List Phrasing :=
  if x.isJunction then [.group x] else x.phrases

theorem operandPhrases_eq (xs : List (Formula String)) :
    operandPhrases xs = xs.map asOperand := by
  induction xs with
  | nil => rfl
  | cons x xs ih => rw [operandPhrases, ih, List.map_cons, asOperand]

/-! ### The words of the library -/

theorem reserved_not_mem_operatorWords : ∀ o ∈ comparisonOperators ++ checkOperators,
    ∀ w ∈ operatorWords o, w ∉ junctionOperators := by decide

/-- A check begins with a word of its own. -/
theorem head?_of_check : ∀ o ∈ checkOperators, (operatorWords o).head? = some "IS" := by
  decide

theorem head?_of_comparison : ∀ o ∈ comparisonOperators,
    ∃ w, (operatorWords o).head? = some w ∧ w ≠ "IS" := by
  have words : ∀ o ∈ comparisonOperators,
      (operatorWords o).head?.any (· != "IS") = true := by decide
  intro o mem
  obtain ⟨w, head, other⟩ := (Option.any_eq_true _ _).mp (words o mem)
  exact ⟨w, head, bne_iff_ne.mp other⟩

/-- No two operators have the same words. -/
theorem find?_comparison : ∀ o ∈ comparisonOperators,
    (comparisonOperators.find? fun o' => operatorWords o = operatorWords o') =
      some o := by decide

theorem find?_check : ∀ o ∈ checkOperators,
    (checkOperators.find? fun o' => operatorWords o = operatorWords o') =
      some o := by decide

/-! ### Precedence -/

variable {blank : Char → Bool} {f : Formula String}

/-- Operands that are read one by one. -/
theorem mapM_asOperand {read? : List Phrasing → Option (Formula String)}
    {xs : List (Formula String)} (h : ∀ x ∈ xs, read? x.asOperand = some x) :
    (xs.map asOperand).mapM read? = some xs := by
  rw [List.mapM_map]
  exact (mapM_eq_map h).trans (congrArg some (List.map_id xs))

/-- Words alone are what they are. -/
theorem mapM_word? (ws : List String) : (ws.map Phrasing.word).mapM Phrasing.word? = some ws := by
  rw [List.mapM_map]
  exact (mapM_eq_map fun _ _ => rfl).trans (congrArg some (List.map_id ws))

/-- An operand with the words of a check behind it. -/
theorem comparison?_check {x : Phrasing} {ws : List String} (nonempty : ws ≠ []) {o : String}
    (check : (checkOperators.find? fun o => ws = operatorWords o) = some o) :
    comparison? (x :: ws.map .word) = x.operand?.map (.check o) := by
  cases ws with
  | nil => exact absurd rfl nonempty
  | cons w ws =>
    rw [List.map_cons, comparison?, ← List.map_cons, mapM_word?]
    simp only [Option.some_inj, check]

/-- An operand with the words of a comparison and another operand behind it. -/
theorem comparison?_comparison {x : Phrasing} {ws : List String} {w o : String}
    (noCheck : (checkOperators.find? fun o => ws ++ [w] = operatorWords o) = none)
    (comparison : (comparisonOperators.find? fun o => ws = operatorWords o) = some o) :
    comparison? (x :: (ws ++ [w]).map .word) =
      x.operand?.bind fun l => (Phrasing.word w).operand?.map fun r => .comparison o l r := by
  obtain ⟨v, vs, eq⟩ := List.exists_cons_of_ne_nil (List.append_ne_nil_of_right_ne_nil ws
    (List.cons_ne_nil w []))
  have last : ((ws ++ [w]).map Phrasing.word).getLast? = some (.word w) := by simp
  have others : (ws ++ [w]).dropLast = ws := List.dropLast_concat
  rw [eq] at last others noCheck ⊢
  rw [List.map_cons, comparison?, ← List.map_cons, last, mapM_word?, ← List.map_dropLast,
    mapM_word?, others]
  simp only [Option.some_inj, noCheck, comparison, Option.bind_some]

/-- In an operand that is no group, no word puts predicates together. -/
theorem Regular.free (regular : f.Regular blank) {w : String} (mem : w ∈ junctionOperators) :
    ∀ y ∈ f.asOperand, y.isWord w = false := by
  have reserved : w ∈ Phrasing.reserved := by
    revert w
    decide
  have word : ∀ {a : String}, a ∉ Phrasing.reserved → (Phrasing.word a).isWord w = false := by
    intro a free
    refine beq_false_of_ne ?_
    rintro rfl
    exact free reserved
  have operator : ∀ {o : String}, o ∈ comparisonOperators ++ checkOperators →
      ∀ y ∈ (operatorWords o).map Phrasing.word, y.isWord w = false := by
    intro o o_mem
    refine List.forall_mem_map.mpr fun v v_mem => beq_false_of_ne ?_
    rintro rfl
    exact reserved_not_mem_operatorWords o o_mem v v_mem mem
  induction regular with
  | atom _ free => exact List.forall_mem_singleton.mpr (word free)
  | comparison o left right ih ih' =>
    exact List.forall_mem_append.mpr ⟨List.forall_mem_append.mpr
      ⟨ih, operator (List.mem_append_left _ o)⟩, ih'⟩
  | check o _ ih =>
    exact List.forall_mem_append.mpr ⟨ih, operator (List.mem_append_right _ o)⟩
  | junction => exact List.forall_mem_singleton.mpr rfl
  | negation _ ih =>
    refine List.forall_mem_cons.mpr ⟨beq_false_of_ne ?_, ih⟩
    rintro rfl
    exact absurd mem (by decide)

/-- An operand is read under negations, comparisons and checks. -/
theorem Regular.negation?_asOperand (regular : f.Regular blank) :
    negation? f.asOperand = some f := by
  have noNegation : ∀ {a : String}, a ∉ Phrasing.reserved →
      (Phrasing.word a).isWord "NOT" = false := by
    intro a free
    refine beq_false_of_ne ?_
    rintro rfl
    exact free (by decide)
  induction regular with
  | @atom a _ free =>
    simp [asOperand, isJunction, phrases, negation?, noNegation free, comparison?,
      Phrasing.operand?, free]
  | @comparison o a b mem left right =>
    obtain ⟨-, free⟩ : IsAtomic blank a.toList ∧ a ∉ Phrasing.reserved := by
      cases left with
      | atom atomic free => exact ⟨atomic, free⟩
    obtain ⟨-, free'⟩ : IsAtomic blank b.toList ∧ b ∉ Phrasing.reserved := by
      cases right with
      | atom atomic free => exact ⟨atomic, free⟩
    have phrases_eq : asOperand (.comparison o (.atom a) (.atom b)) =
        .word a :: (operatorWords o ++ [b]).map .word := by
      simp [asOperand, isJunction, phrases]
    obtain ⟨w, head, other⟩ := head?_of_comparison o mem
    have noCheck : (checkOperators.find? fun o' =>
        operatorWords o ++ [b] = operatorWords o') = none := by
      rw [List.find?_eq_none]
      intro o' mem' eq
      have eq := of_decide_eq_true eq
      have first := head?_of_check o' mem'
      rw [← eq, List.head?_append, head] at first
      exact other (Option.some_inj.mp first)
    rw [phrases_eq, negation?, noNegation free,
      comparison?_comparison noCheck (find?_comparison o mem)]
    simp [Phrasing.operand?, free, free']
  | @check o a mem operand =>
    obtain ⟨-, free⟩ : IsAtomic blank a.toList ∧ a ∉ Phrasing.reserved := by
      cases operand with
      | atom atomic free => exact ⟨atomic, free⟩
    have phrases_eq : asOperand (.check o (.atom a)) = .word a :: (operatorWords o).map .word := by
      simp [asOperand, isJunction, phrases]
    have nonempty : operatorWords o ≠ [] := by
      intro nil
      have first := head?_of_check o mem
      rw [nil] at first
      cases first
    rw [phrases_eq, negation?, noNegation free, comparison?_check nonempty (find?_check o mem)]
    simp [Phrasing.operand?, free]
  | junction =>
    simp [asOperand, isJunction, negation?, Phrasing.isWord, comparison?, Phrasing.operand?]
  | @negation x _ ih =>
    have phrases_eq : asOperand (.negation x) = .word "NOT" :: x.asOperand := rfl
    simp [phrases_eq, negation?, Phrasing.isWord, ih]

theorem Regular.conjunction?_asOperand (regular : f.Regular blank) :
    conjunction? f.asOperand = some f := by
  have free := regular.free (w := "AND") (by decide)
  simp [conjunction?, List.splitOnP_eq_singleton free, regular.negation?_asOperand, joined]

/-- A regular predicate is read by precedence. -/
theorem Regular.disjunction?_phrases (regular : f.Regular blank) :
    disjunction? f.phrases = some f := by
  by_cases isJunction : f.isJunction
  · cases regular with
    | @junction o xs mem several each =>
      have nonempty : xs.map asOperand ≠ [] := by
        intro nil
        rw [List.map_eq_nil_iff.mp nil] at several
        exact absurd several (by decide)
      have free : ∀ w ∈ junctionOperators, ∀ ps ∈ xs.map asOperand, ∀ y ∈ ps,
          y.isWord w = false := fun w w_mem =>
        List.forall_mem_map.mpr fun x x_mem => (each x x_mem).free w_mem
      have negations : (xs.map asOperand).mapM negation? = some xs :=
        mapM_asOperand fun x x_mem => (each x x_mem).negation?_asOperand
      simp only [junctionOperators, List.mem_cons, List.not_mem_nil, or_false] at mem
      rcases mem with rfl | rfl
      · have whole : ∀ y ∈ phrases (.junction "AND" xs), y.isWord "OR" = false := by
          rw [phrases, operandPhrases_eq]
          intro y y_mem
          rcases eq_or_mem_of_mem_intercalate y_mem with rfl | ⟨x, x_mem, y_mem⟩
          · rfl
          · exact free "OR" (by decide) x x_mem y y_mem
        have split := splitOnP_intercalate (w := .word "AND") (p := Phrasing.isWord "AND") rfl
          nonempty (free "AND" (by decide))
        have read : conjunction? (phrases (.junction "AND" xs)) = some (.junction "AND" xs) := by
          rw [conjunction?, phrases, operandPhrases_eq, split, negations]
          exact congrArg some (joined_eq several)
        simp [disjunction?, List.splitOnP_eq_singleton whole, read, joined]
      · have split := splitOnP_intercalate (w := .word "OR") (p := Phrasing.isWord "OR") rfl
          nonempty (free "OR" (by decide))
        have conjunctions : (xs.map asOperand).mapM conjunction? = some xs :=
          mapM_asOperand fun x x_mem => (each x x_mem).conjunction?_asOperand
        rw [disjunction?, phrases, operandPhrases_eq, split, conjunctions]
        exact congrArg some (joined_eq several)
    | _ => cases isJunction
  · have phrases_eq : f.asOperand = f.phrases := if_neg isJunction
    have free := regular.free (w := "OR") (by decide)
    have read := regular.conjunction?_asOperand
    rw [phrases_eq] at free read
    simp [disjunction?, List.splitOnP_eq_singleton free, read, joined]

/-- The groups of a regular predicate are read as they were written. -/
theorem Regular.rephrased_eq (regular : f.Regular blank) :
    f.rephrased disjunction? = some f.phrases := by
  have operand {x : Formula String} (regular : x.Regular blank)
      (ih : x.rephrased disjunction? = some x.phrases) :
      x.rephrasedOperand disjunction? = some x.asOperand := by
    unfold rephrasedOperand asOperand
    split
    · rw [ih, Option.bind_some, regular.disjunction?_phrases]
      rfl
    · exact ih
  induction regular with
  | atom => rfl
  | comparison _ _ _ ih ih' => rw [rephrased, ih, ih']; rfl
  | check _ _ ih => rw [rephrased, ih]; rfl
  | @junction o xs _ _ each ih =>
    have operands : xs.mapM (rephrasedOperand disjunction?) = some (xs.map asOperand) :=
      mapM_eq_map fun x x_mem => operand (each x x_mem) (ih x x_mem)
    rw [rephrased, rephrasedOperands_eq, operands, phrases, operandPhrases_eq]
    rfl
  | negation regular ih =>
    rw [rephrased, ← rephrasedOperand, operand regular ih]
    rfl

/-- A regular predicate is read from its text. -/
theorem Regular.parse?_chars (spaces : Spaces blank) (regular : f.Regular blank) :
    parse? blank (String.ofList f.chars) = some f := by
  rw [parse?, parseFrom_eq, regular.formed.parseWith_chars spaces, regular.rephrased_eq]
  exact regular.disjunction?_phrases

end Formula

end GraphQuery
