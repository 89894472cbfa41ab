import GraphQuery.Proofs.Text.Formula

/-!
How the text of a predicate falls into words and groups.

Whoever reads a predicate reads groups first, each by itself. So how a text is read depends on its
words, and on what is made of the groups. This is the same for all readers.

* `Formula.Formed`: a predicate that can be written.
* `Formula.IsTerm`: a word that is no operator.
* `Formula.parseWith`: reading texts by means of a reader of words and groups.
* `Formula.rephrased`: the words and groups of a predicate that has been written.
* `Formula.Formed.parseWith_chars`: a predicate that has been written is to a reader what its words
  and groups are.
-/

namespace GraphQuery

open Text (Lexeme Spaces IsAtomic Stops lexemesFrom)

/-- Operators that relate what stands on both sides of them. -/
def relations : List String := ["=", "<>", ">", ">=", "<", "<="]

namespace Formula

/-- Predicates that can be written: all operators are those of the library, combinations have
several operands, and what they are made of are words. -/
inductive Formed (blank : Char → Bool) : Formula String → Prop where
  | atom {a : String} : IsAtomic blank a.toList → Formed blank (.atom a)
  | comparison {o : String} {l r : Formula String} : o ∈ comparisonOperators → Formed blank l →
      Formed blank r → Formed blank (.comparison o l r)
  | check {o : String} {x : Formula String} : o ∈ checkOperators → Formed blank x →
      Formed blank (.check o x)
  | junction {o : String} {xs : List (Formula String)} : o ∈ junctionOperators → 2 ≤ xs.length →
      (∀ x ∈ xs, Formed blank x) → Formed blank (.junction o xs)
  | negation {x : Formula String} : Formed blank x → Formed blank (.negation x)

/-- Operators are their words with spaces between them. -/
theorem flatMap_operatorWords :
    ∀ o ∈ comparisonOperators ++ checkOperators ++ junctionOperators,
      (operatorWords o).flatMap (fun w => ' ' :: w.toList) = ' ' :: o.toList := by decide

theorem isSolid_operatorWords :
    ∀ o ∈ comparisonOperators ++ checkOperators ++ junctionOperators, ∀ w ∈ operatorWords o,
      Text.isSolid w = true := by decide

theorem operatorWords_junction : ∀ o ∈ junctionOperators, operatorWords o = [o] := by
  decide

/-! ### Terms -/

/-- Operators that put predicates together or relate anything are made of such characters only:
they are in capitals, or signs. -/
def isSpecial (c : Char) : Bool := c.isUpper || c == '<' || c == '=' || c == '>'

/-- The characters are a word, and none that puts predicates together or relates anything. -/
structure IsTerm (blank : Char → Bool) (x : List Char) : Prop where
  atomic : IsAtomic blank x
  ordinary : ∃ c ∈ x, isSpecial c = false

/-- A term that goes on is one term. -/
theorem IsTerm.append {blank : Char → Bool} {x y : List Char} (h : IsTerm blank x)
    (h' : Text.GoesOn blank y) : IsTerm blank (x ++ y) := by
  obtain ⟨c, mem, ordinary⟩ := h.ordinary
  exact ⟨h.atomic.append h', c, List.mem_append_left y mem, ordinary⟩

/-- A term is none of the words that put predicates together, and no relation. -/
theorem IsTerm.not_operator {blank : Char → Bool} {a : String} (h : IsTerm blank a.toList) :
    a ∉ Phrasing.reserved ++ relations := by
  obtain ⟨c, mem, ordinary⟩ := h.ordinary
  have special : ∀ w ∈ Phrasing.reserved ++ relations, w.toList.all isSpecial = true := by decide
  intro operator
  rw [List.all_eq_true.mp (special a operator) c mem] at ordinary
  cases ordinary

/-! ### Words and groups -/

/-- What is made of several in turn is made of the first and then of the others. -/
theorem mapM_cons {α β : Type} (f : α → Option β) (x : α) (xs : List α) :
    (x :: xs).mapM f = (f x).bind fun y => (xs.mapM f).map (y :: ·) := by
  rw [List.mapM_cons]
  cases f x with
  | none => rfl
  | some y => cases xs.mapM f <;> rfl

/-- Where something is made of each, something is made of all. -/
theorem mapM_eq_map {α β : Type} {f : α → Option β} {g : α → β} {xs : List α}
    (each : ∀ x ∈ xs, f x = some (g x)) : xs.mapM f = some (xs.map g) := by
  induction xs with
  | nil => rfl
  | cons x xs ih =>
    obtain ⟨first, others⟩ := List.forall_mem_cons.mp each
    rw [mapM_cons, first, ih others]
    rfl

/-- Where something is made of all, something is made of each. -/
theorem forall₂_of_mapM {α β : Type} {f : α → Option β} {xs : List α} {ys : List β}
    (eq : xs.mapM f = some ys) : List.Forall₂ (fun x y => f x = some y) xs ys := by
  induction xs generalizing ys with
  | nil =>
    cases eq
    exact .nil
  | cons x xs ih =>
    rw [mapM_cons] at eq
    obtain ⟨y, first, eq⟩ := Option.bind_eq_some_iff.mp eq
    obtain ⟨ys, others, rfl⟩ := Option.map_eq_some_iff.mp eq
    exact .cons first (ih others)

/-- The word stands between the first part and what is made of the others. -/
theorem intercalate_word (w : Phrasing) (ps qs : List Phrasing) (pss : List (List Phrasing)) :
    [w].intercalate (ps :: qs :: pss) = ps ++ w :: [w].intercalate (qs :: pss) := by
  rw [List.intercalate_cons_cons, List.append_assoc, List.singleton_append]

/-- What has the same words between it falls apart at them. -/
theorem splitOnP_intercalate {p : Phrasing → Bool} {w : Phrasing} (isWord : p w = true)
    {xs : List (List Phrasing)} (nonempty : xs ≠ []) (free : ∀ x ∈ xs, ∀ y ∈ x, p y = false) :
    ([w].intercalate xs).splitOnP p = xs := by
  induction xs with
  | nil => exact absurd rfl nonempty
  | cons x xs ih =>
    obtain ⟨first, others⟩ := List.forall_mem_cons.mp free
    cases xs with
    | nil => simpa using List.splitOnP_eq_singleton first
    | cons y ys =>
      have rest := ih (List.cons_ne_nil _ _) others
      rw [intercalate_word, List.splitOnP_append_cons_of_forall_mem first w isWord, rest]

theorem eq_or_mem_of_mem_intercalate {w y : Phrasing} {xs : List (List Phrasing)}
    (mem : y ∈ [w].intercalate xs) : y = w ∨ ∃ x ∈ xs, y ∈ x := by
  induction xs with
  | nil => cases mem
  | cons x xs ih =>
    cases xs with
    | nil => exact .inr ⟨x, List.mem_cons_self, by simpa [List.intercalate] using mem⟩
    | cons x' xs =>
      rw [intercalate_word, List.mem_append, List.mem_cons] at mem
      rcases mem with mem | rfl | mem
      · exact .inr ⟨x, List.mem_cons_self, mem⟩
      · exact .inl rfl
      · rcases ih mem with eq | ⟨z, z_mem, mem⟩
        · exact .inl eq
        · exact .inr ⟨z, List.mem_cons_of_mem x z_mem, mem⟩

theorem mem_intercalate {w y : Phrasing} {pss : List (List Phrasing)} {ps : List Phrasing}
    (mem : ps ∈ pss) (inside : y ∈ ps) : y ∈ [w].intercalate pss := by
  induction pss with
  | nil => cases mem
  | cons qs pss ih =>
    cases pss with
    | nil =>
      obtain rfl := List.mem_singleton.mp mem
      simpa [List.intercalate] using inside
    | cons rs pss =>
      rw [intercalate_word, List.mem_append]
      rcases List.mem_cons.mp mem with rfl | mem
      · exact .inl inside
      · exact .inr (List.mem_cons_of_mem w (ih mem))

/-- Several are read as a combination. -/
theorem joined_eq {o : String} {xs : List (Formula String)} (several : 2 ≤ xs.length) :
    joined o xs = .junction o xs := by
  match xs, several with
  | _ :: _ :: _, _ => rfl

variable {blank : Char → Bool} {f : Formula String}

section Reading

variable (read? : List Phrasing → Option (Formula String))

/-- The predicate that the rest of a text is to anyone who can read phrases, behind what has been
read of the group that is open and of those around it. -/
def parseWith : (around : List (List Phrasing)) → (soFar : List Phrasing) → List Lexeme →
    Option (Formula String)
  | [], soFar, [] => read? soFar
  | _ :: _, _, [] => none
  | around, soFar, .word s :: rest => parseWith around (soFar ++ [.word s]) rest
  | around, soFar, .opens :: rest => parseWith (soFar :: around) [] rest
  | outer :: around, soFar, .closes :: rest =>
    match read? soFar with
    | some f => parseWith around (outer ++ [.group f]) rest
    | none => none
  | [], _, .closes :: _ => none

theorem parseFrom_eq (around : List (List Phrasing)) (soFar : List Phrasing)
    (lexemes : List Lexeme) :
    parseFrom around soFar lexemes = parseWith disjunction? around soFar lexemes := by
  induction lexemes generalizing around soFar with
  | nil => cases around <;> rfl
  | cons lexeme rest ih =>
    cases lexeme with
    | word s => cases around <;> exact ih _ _
    | opens => cases around <;> exact ih _ _
    | closes =>
      cases around with
      | nil => rfl
      | cons outer around =>
        simp only [parseFrom, parseWith]
        cases disjunction? soFar with
        | none => rfl
        | some f => exact ih _ _

mutual

/-- The words and groups of a predicate that is no operand, as far as its groups can be read. -/
def rephrased : Formula String → Option (List Phrasing)
  | atom a => some [.word a]
  | comparison o l r => l.rephrased.bind fun ps =>
    r.rephrased.map fun qs => ps ++ (operatorWords o).map .word ++ qs
  | check o x => x.rephrased.map (· ++ (operatorWords o).map .word)
  | junction o xs => (rephrasedOperands xs).map [Phrasing.word o].intercalate
  | negation x =>
    (if x.isJunction then (x.rephrased.bind read?).map fun f => [.group f]
      else x.rephrased).map (.word "NOT" :: ·)

/-- The words and groups of predicates that are operands. -/
def rephrasedOperands : List (Formula String) → Option (List (List Phrasing))
  | [] => some []
  | x :: xs =>
    (if x.isJunction then (x.rephrased.bind read?).map fun f => [.group f]
      else x.rephrased).bind fun ps => (rephrasedOperands xs).map (ps :: ·)

end

/-- The words and groups of a predicate that is an operand, as far as a group can be read. -/
def rephrasedOperand (x : Formula String) : Option (List Phrasing) :=
  if x.isJunction then (x.rephrased read?).bind read? |>.map fun f => [.group f]
  else x.rephrased read?

theorem rephrasedOperands_eq (xs : List (Formula String)) :
    rephrasedOperands read? xs = xs.mapM (rephrasedOperand read?) := by
  induction xs with
  | nil => rfl
  | cons x xs ih =>
    rw [rephrasedOperands, ih, mapM_cons]
    rfl

/-- What is written is read in front of whatever ends it. -/
def Reads (blank : Char → Bool) (x : List Char) (phrases? : Option (List Phrasing)) : Prop :=
  ∀ around soFar rest, Stops blank rest →
    parseWith read? around soFar (lexemesFrom blank [] 0 false (x ++ rest)) =
      phrases?.bind fun ps =>
        parseWith read? around (soFar ++ ps) (lexemesFrom blank [] 0 false rest)

variable {read?} (spaces : Spaces blank) {around : List (List Phrasing)} {soFar : List Phrasing}
include spaces

/-- Words between spaces are read one after another. -/
theorem parseWith_words {ws : List String} (solid : ∀ w ∈ ws, IsAtomic blank w.toList)
    {rest : List Char} (stops : Stops blank rest) :
    parseWith read? around soFar
        (lexemesFrom blank [] 0 false (ws.flatMap (fun w => ' ' :: w.toList) ++ rest)) =
      parseWith read? around (soFar ++ ws.map .word) (lexemesFrom blank [] 0 false rest) := by
  induction ws generalizing soFar with
  | nil => simp
  | cons w ws ih =>
    obtain ⟨first, others⟩ := List.forall_mem_cons.mp solid
    have next : Stops blank (ws.flatMap (fun w => ' ' :: w.toList) ++ rest) := by
      cases ws with
      | nil => exact stops
      | cons v vs => exact Text.stops_space spaces _
    rw [List.flatMap_cons, List.append_assoc, List.cons_append, Text.lexemesFrom_space spaces,
      first.lexemesFrom next, String.ofList_toList, parseWith, ih others, List.append_assoc]
    rfl

/-- An operator ends a word. -/
theorem stops_operator (o : String) (rest : List Char) :
    Stops blank (' ' :: o.toList ++ rest) := Text.stops_space spaces _

/-- An operator behind a space is read. -/
theorem parseWith_operator {o : String}
    (mem : o ∈ comparisonOperators ++ checkOperators ++ junctionOperators) {rest : List Char}
    (stops : Stops blank rest) :
    parseWith read? around soFar (lexemesFrom blank [] 0 false (' ' :: o.toList ++ rest)) =
      parseWith read? around (soFar ++ (operatorWords o).map .word)
        (lexemesFrom blank [] 0 false rest) := by
  have solid : ∀ w ∈ operatorWords o, IsAtomic blank w.toList := fun w w_mem =>
    Text.isAtomic_of_isSolid spaces (isSolid_operatorWords o mem w w_mem)
  rw [← flatMap_operatorWords o mem]
  exact parseWith_words spaces solid stops

/-- A predicate is read in parentheses as a group, if what is in them can be read. -/
theorem reads_operand {x : Formula String}
    (reads : Reads read? blank x.chars (x.rephrased read?)) :
    Reads read? blank x.operandText (x.rephrasedOperand read?) := by
  intro around soFar rest stops
  unfold operandText rephrasedOperand
  split
  · have inner := reads (soFar :: around) [] (')' :: rest) (Text.stops_close rest)
    have chars_eq : '(' :: x.chars ++ [')'] ++ rest = '(' :: (x.chars ++ ')' :: rest) := by simp
    rw [chars_eq, Text.lexemesFrom_open spaces, parseWith, inner]
    cases x.rephrased read? with
    | none => rfl
    | some ps =>
      rw [Option.bind_some, Option.bind_some, Text.lexemesFrom_close spaces, List.nil_append,
        parseWith]
      cases read? ps <;> rfl
  · exact reads around soFar rest stops

/-- Operands are read one after another. -/
theorem reads_operands {o : String} (mem : o ∈ junctionOperators) {xs : List (Formula String)}
    (each : ∀ x ∈ xs, Reads read? blank x.operandText (x.rephrasedOperand read?)) :
    Reads read? blank ((' ' :: o.toList ++ [' ']).intercalate (xs.map operandText))
      ((xs.mapM (rephrasedOperand read?)).map [Phrasing.word o].intercalate) := by
  induction xs with
  | nil =>
    intro around soFar rest _
    simp [List.intercalate]
  | cons x xs ih =>
    obtain ⟨first, others⟩ := List.forall_mem_cons.mp each
    intro around soFar rest stops
    rw [mapM_cons]
    cases xs with
    | nil =>
      have alone := first around soFar rest stops
      cases operand : x.rephrasedOperand read? with
      | none => simpa [operand, List.intercalate] using alone
      | some ps => simpa [operand, List.intercalate] using alone
    | cons y ys =>
      have chars_eq : (' ' :: o.toList ++ [' ']).intercalate ((x :: y :: ys).map operandText) ++
          rest = x.operandText ++ (' ' :: o.toList ++ (' ' ::
            ((' ' :: o.toList ++ [' ']).intercalate ((y :: ys).map operandText) ++ rest))) := by
        simp [List.intercalate]
      have word : operatorWords o = [o] := operatorWords_junction o mem
      rw [chars_eq, first _ _ _ (stops_operator spaces o _)]
      cases x.rephrasedOperand read? with
      | none => rfl
      | some ps =>
        rw [Option.bind_some, parseWith_operator spaces (List.mem_append_right _ mem)
          (Text.stops_space spaces _), word, Text.lexemesFrom_space spaces, ih others _ _ _ stops,
          mapM_cons]
        cases y.rephrasedOperand read? with
        | none => rfl
        | some qs =>
          cases ys.mapM (rephrasedOperand read?) with
          | none => rfl
          | some pss => simp

/-- What is written is read word by word, and group by group as far as they can be read. -/
theorem Formed.reads (formed : f.Formed blank) : Reads read? blank f.chars (f.rephrased read?) := by
  induction formed with
  | @atom a atomic =>
    intro around soFar rest stops
    rw [chars, atomic.lexemesFrom stops, String.ofList_toList, parseWith, rephrased,
      Option.bind_some]
  | @comparison o l r mem _ _ ih ih' =>
    intro around soFar rest stops
    have o_mem : o ∈ comparisonOperators ++ checkOperators ++ junctionOperators := by
      simp [mem]
    have chars_eq : chars (.comparison o l r) ++ rest =
        l.chars ++ (' ' :: o.toList ++ (' ' :: (r.chars ++ rest))) := by
      simp [chars]
    rw [chars_eq, ih _ _ _ (stops_operator spaces o _), rephrased]
    cases l.rephrased read? with
    | none => rfl
    | some ps =>
      rw [Option.bind_some, parseWith_operator spaces o_mem (Text.stops_space spaces _),
        Text.lexemesFrom_space spaces, ih' _ _ _ stops]
      cases r.rephrased read? <;> simp
  | @check o x mem _ ih =>
    intro around soFar rest stops
    have o_mem : o ∈ comparisonOperators ++ checkOperators ++ junctionOperators := by
      simp [mem]
    have chars_eq : chars (.check o x) ++ rest = x.chars ++ (' ' :: o.toList ++ rest) := by
      simp [chars]
    rw [chars_eq, ih _ _ _ (stops_operator spaces o _), rephrased]
    cases x.rephrased read? with
    | none => rfl
    | some ps =>
      rw [Option.bind_some, parseWith_operator spaces o_mem stops]
      simp
  | @junction o xs mem _ _ ih =>
    rw [chars, rephrased, operandChars_eq, rephrasedOperands_eq]
    exact reads_operands spaces mem fun x x_mem => reads_operand spaces (ih x x_mem)
  | @negation x _ ih =>
    intro around soFar rest stops
    have inner := reads_operand spaces ih
    have word : IsAtomic blank "NOT".toList := Text.isAtomic_of_isSolid spaces (by decide)
    have chars_eq : chars (.negation x) ++ rest =
        "NOT".toList ++ (' ' :: (x.operandText ++ rest)) := by
      simp [chars, operandText]
    rw [chars_eq, word.lexemesFrom (Text.stops_space spaces _), Text.lexemesFrom_space spaces,
      String.ofList_toList, parseWith, inner _ _ _ stops, rephrased, ← rephrasedOperand]
    cases x.rephrasedOperand read? <;> simp

/-- What is written is to a reader what its words and groups are. -/
theorem Formed.parseWith_chars (formed : f.Formed blank) :
    parseWith read? [] [] (Text.lexemes blank (String.ofList f.chars)) =
      (f.rephrased read?).bind read? := by
  have reads : Reads read? blank f.chars (f.rephrased read?) := formed.reads spaces
  have read := reads [] [] [] Text.stops_nil
  rw [List.append_nil] at read
  rw [Text.lexemes, String.toList_ofList, read]
  rfl

end Reading

end Formula

end GraphQuery
