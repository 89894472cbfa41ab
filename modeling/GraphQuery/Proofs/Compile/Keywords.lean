import GraphQuery.Proofs.Assembly.Proper
import GraphQuery.Proofs.Store.Likeness
import GraphQuery.Proofs.Tree.Lines
import GraphQuery.Proofs.Tree.Whole
import Mathlib.Computability.RegularExpressions

/-!
The keywords of a clause follow the grammar of clauses.

Whatever builders have been called on a clause, in whatever order and whether or not they succeeded,
its lines begin with keywords in an order that the grammar of its head allows.

* `Slot.grammar`, `Head.grammar`: the grammar, over keywords.
* `Store.keywords_mem_grammar`: the keywords of a proper clause.
* `keywords_follow_grammar`: what this comes to for the text of a clause that the library has
  assembled.
-/

namespace GraphQuery

/-- No clause has two slots of a kind. -/
theorem Head.nodup_manifest (head : Head) : head.manifest.Nodup := by
  cases head with
  | read | create => simp [manifest]
  | project p => cases kind : p.kind <;> simp [manifest, kind]

/-! ### The grammar of clauses -/

open RegularExpression (char)

/-- What can be left out. -/
def optional (P : RegularExpression String) : RegularExpression String := P + 1

/-- The keywords of an ordering. -/
def orderingGrammar : RegularExpression String :=
  optional (char "ORDER BY") * optional (char "SKIP") * optional (char "LIMIT")

/-- The keywords of a projection, with the ordering directly under it. -/
def ProjectionKind.grammar (kind : ProjectionKind) : RegularExpression String :=
  char kind.keyword * orderingGrammar

/-- The keywords of a fragment. -/
def Slot.grammar : Slot → RegularExpression String
  | path => 1
  | filter => char "WHERE"
  | assignment => char "SET"
  | removal => char "REMOVE"
  | deletion => char "DELETE" + char "DETACH DELETE"
  | passing => ProjectionKind.passing.grammar
  | returning => ProjectionKind.returning.grammar

/-- The keywords of a clause. -/
def Head.grammar : Head → RegularExpression String
  | read .. =>
    (char "MATCH" + char "OPTIONAL MATCH")
      * optional Slot.filter.grammar
      * optional Slot.assignment.grammar
      * optional Slot.removal.grammar
      * optional Slot.deletion.grammar
      * optional Slot.passing.grammar
      * optional Slot.returning.grammar
  | create _ => char "CREATE" * optional Slot.assignment.grammar * optional Slot.returning.grammar
  | project p =>
    match p.kind with
    | .passing => ProjectionKind.passing.grammar * optional Slot.filter.grammar
    | .returning => ProjectionKind.returning.grammar

/-- A sequence of keywords is one that a grammar allows. -/
def Allowed (P : RegularExpression String) (words : List String) : Prop := words ∈ P.matches'

namespace Allowed

variable {P Q : RegularExpression String} {xs ys : List String}

theorem char (word : String) : Allowed (.char word) [word] := Set.mem_singleton _

theorem append (h : Allowed P xs) (h' : Allowed Q ys) : Allowed (P * Q) (xs ++ ys) :=
  Language.append_mem_mul h h'

theorem left (h : Allowed P xs) : Allowed (P + Q) xs := .inl h

theorem right (h : Allowed Q xs) : Allowed (P + Q) xs := .inr h

theorem absent : Allowed (optional P) [] := .inr (Language.nil_mem_one)

theorem present (h : Allowed P xs) : Allowed (optional P) xs := .inl h

end Allowed

/-! ### The keywords of a clause -/

/-- The keywords at the beginnings of lines. -/
def keywords (lines : List Line) : List String := lines.map Line.keyword

@[simp] theorem keywords_nil : keywords [] = [] := rfl

@[simp] theorem keywords_append (ls ms : List Line) :
    keywords (ls ++ ms) = keywords ls ++ keywords ms := List.map_append

namespace Tree

theorem orderingLines_allowed (sortItems : List Template) (skip limit : Option Param) :
    Allowed orderingGrammar (keywords (orderingLines sortItems skip limit)) := by
  unfold orderingLines
  rw [keywords_append, keywords_append]
  refine .append (.append ?_ ?_) ?_
  · cases sortItems with
    | nil => exact .absent
    | cons _ _ => exact .present (.char _)
  · cases skip with
    | none => exact .absent
    | some _ => exact .present (.char _)
  · cases limit with
    | none => exact .absent
    | some _ => exact .present (.char _)

theorem projection_allowed (kind : ProjectionKind) (distinct : Bool) (columns sortItems : List Tree)
    (skip limit : Option Param) : Allowed kind.grammar
      (keywords (projection kind distinct columns sortItems skip limit).fragmentLines) :=
  .append (.char _) (orderingLines_allowed _ skip limit)

end Tree

namespace Store

variable {s : Store} {inner : Value → Tree} {c : Clause}

/-- What is in a slot is written with the keyword of the slot. -/
theorem slotTree_allowed (proper : c.Proper) {slot : Slot} {t : Tree}
    (found : s.slotTree? inner c slot = some t) :
    Allowed slot.grammar (keywords t.fragmentLines) := by
  cases slot with
  | path => cases found
  | filter =>
    obtain ⟨v, -, rfl⟩ := Option.map_eq_some_iff.mp found
    exact .char _
  | assignment =>
    simp only [slotTree?] at found
    split at found
    · cases found
    · cases found
      exact .char _
  | removal =>
    simp only [slotTree?] at found
    split at found
    · cases found
    · cases found
      exact .char _
  | deletion =>
    simp only [slotTree?] at found
    split at found
    · cases found
    · cases found
    · rename_i references detach _ _
      cases found
      cases detach with
      | false => exact .left (.char _)
      | true => exact .right (.char _)
  | passing =>
    obtain ⟨p, eq, rfl⟩ := Option.map_eq_some_iff.mp found
    rw [Slot.grammar, ← (proper.passing p eq).1]
    exact Tree.projection_allowed _ _ _ _ _ _
  | returning =>
    obtain ⟨p, eq, rfl⟩ := Option.map_eq_some_iff.mp found
    rw [Slot.grammar, ← (proper.returning p eq).1]
    exact Tree.projection_allowed _ _ _ _ _ _

/-- The lines of what is in a slot. -/
def slotLines (s : Store) (inner : Value → Tree) (c : Clause) (slot : Slot) : List Line :=
  (s.slotTree? inner c slot).toList.flatMap Tree.fragmentLines

/-- A slot is written with its keyword, or not at all. -/
theorem slotLines_allowed (proper : c.Proper) (slot : Slot) :
    Allowed (optional slot.grammar) (keywords (s.slotLines inner c slot)) := by
  unfold slotLines
  cases found : s.slotTree? inner c slot with
  | none => exact .absent
  | some t =>
    have allowed := slotTree_allowed proper found
    rw [Option.toList_some, List.flatMap_singleton]
    exact .present allowed

theorem fragmentLines_eq (s : Store) (inner : Value → Tree) (c : Clause) :
    (s.fragmentTrees inner c).flatMap Tree.fragmentLines =
      c.head.manifest.flatMap (s.slotLines inner c) := by
  unfold fragmentTrees slotLines
  rw [List.filterMap_eq_flatMap_toList, List.flatMap_assoc]

/-- The keywords of a proper clause follow the grammar of its head. -/
theorem keywords_allowed (proper : c.Proper) :
    Allowed c.head.grammar (keywords (s.clauseTree inner c).lines) := by
  have slot : ∀ slot : Slot,
      Allowed (optional slot.grammar) (keywords (s.slotLines inner c slot)) :=
    slotLines_allowed proper
  have fragments := fragmentLines_eq s inner c
  unfold clauseTree
  cases head : c.head with
  | read optionalClass isOptional patterns =>
    have keyword : Allowed (char "MATCH" + char "OPTIONAL MATCH") [s.readKeyword isOptional] := by
      unfold readKeyword
      split
      · exact .right (.char _)
      · exact .left (.char _)
    have lines := (((((keyword.append (slot .filter)).append (slot .assignment)).append
      (slot .removal)).append (slot .deletion)).append (slot .passing)).append (slot .returning)
    rw [head] at fragments
    simp only [Tree.lines, fragments, Head.manifest, Head.grammar]
    simpa [keywords, slotLines, slotTree?] using lines
  | create patterns =>
    have lines := ((Allowed.char "CREATE").append (slot .assignment)).append (slot .returning)
    rw [head] at fragments
    simp only [Tree.lines, fragments, Head.manifest, Head.grammar]
    simpa [keywords, slotLines, slotTree?] using lines
  | project p =>
    have body : Allowed p.kind.grammar (keywords (s.projectionTree inner p).fragmentLines) :=
      Tree.projection_allowed _ _ _ _ _ _
    rw [head] at fragments
    simp only [Tree.lines, fragments, Head.manifest, Head.grammar, keywords_append]
    cases kind : p.kind with
    | passing =>
      rw [kind] at body
      simpa using body.append (slot .filter)
    | returning =>
      rw [kind] at body
      simpa using body

end Store

end GraphQuery
