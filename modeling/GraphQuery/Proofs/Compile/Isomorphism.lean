import GraphQuery.Proofs.Assembly.Exported
import GraphQuery.Proofs.Compile.Likeness
import GraphQuery.Proofs.Store.Renaming

/-!
What a query is compiled to does not depend on the identities in it.

References and parameters are told apart by who they are and by nothing else. So two queries that
are the same up to identities come to the same, wherever their objects lie and in whatever order
they were made.

* `CompiledQuery.Alike.eq`: results with the same values are the same.
* `compiled_up_to_identity`: queries that are the same up to identities, from the handles to the
  compiled query.
-/

namespace GraphQuery

/-- Results are the same if values that stand in the places of each other are. -/
theorem CompiledQuery.Alike.eq {R : Value → Value → Prop} {r r' : Except Fault CompiledQuery}
    (h : CompiledQuery.Alike R r r') (same : ∀ v v', R v v' → v' = v) : r' = r := by
  cases h with
  | error => rfl
  | @ok q q' text_eq params =>
    have entries : List.Forall₂ Eq q'.params q.params :=
      params.flip.imp fun _ _ ⟨key_eq, value⟩ => Prod.ext key_eq (same _ _ value)
    rw [List.forall₂_eq_eq_eq] at entries
    obtain ⟨text, _⟩ := q
    obtain ⟨text', _⟩ := q'
    cases text_eq
    cases entries
    rfl

/-- Two queries lie in two stores. If the handles of one are those of the other up to a renaming,
then their trees match. If their trees match, then under the same plain settings they are written
with the same events, the names that were passed over among them, and compiled to queries of one
text with the same keys in the same order, whose values stand in the places of each other; or they
fail with one fault. If only the same values stand in the places of each other then the results are
the same. -/
theorem compiled_up_to_identity {L : Likeness} (s s' : Store) (h h' : Nat) {settings : Settings}
    (plain : settings.IsPlain) :
    (s.Renames L s' → L.owner h h' → Tree.Matches L (s.tree h) (s'.tree h')) ∧
    (Tree.Matches L (s.tree h) (s'.tree h') →
      (s'.write h' (s'.freshEnvironment settings)).events =
        (s.write h (s.freshEnvironment settings)).events ∧
      CompiledQuery.Alike L.value (s.compile settings h).result (s'.compile settings h').result ∧
      ((∀ v v', L.value v v' → v' = v) →
        (s'.compile settings h').result = (s.compile settings h).result)) := by
  refine ⟨fun renames related => renames.tree_matches related, fun trees => ?_⟩
  have written := Store.write_fresh_alike trees.alike plain
  have results := Store.compile_alike trees.alike plain
  exact ⟨written.events_eq, results, results.eq⟩

/-- Two nodes are created by one clause. Whichever of them was made first, it is the one that comes
first in the clause that has number nought. -/
theorem compiled_up_to_identity_create :
    let s := Store.empty.called
      [.node .null none, .node .null (some (.text "Movie")), .create [.object 0, .object 1]]
    let s' := Store.empty.called
      [.node .null (some (.text "Movie")), .node .null none, .create [.object 1, .object 0]]
    (s.compile .defaults 4).result.toOption.map CompiledQuery.text =
        some "CREATE (this0), (this1:Movie)" ∧
      (s'.compile .defaults 4).result = (s.compile .defaults 4).result := by
  intro s s'
  let pairs : List (Nat × Nat) := [(0, 1), (1, 0), (2, 2), (3, 3), (4, 4)]
  have unique : ∀ p ∈ pairs, ∀ q ∈ pairs, (p.1 = q.1 ↔ p.2 = q.2) := by decide
  let L : Likeness :=
    ⟨fun i j => (i, j) ∈ pairs, Eq, fun related related' => unique _ related _ related'⟩
  have node : ∀ {r r' : Reference} {labels : List Name}, r.Matches L r' →
      (Element.node ⟨.made r, .made labels, .made []⟩).Renamed L
        (.node ⟨.made r', .made labels, .made []⟩) := fun r => .node (.made r .nil)
  have related : ∀ p ∈ pairs, ∃ o o', s.get? p.1 = some o ∧ s'.get? p.2 = some o' ∧
      o.Renamed L s s' o' := by
    have first : Reference.Matches L ⟨0, none, .node []⟩ ⟨1, none, .node []⟩ :=
      ⟨show (0, 1) ∈ pairs by decide, rfl, rfl⟩
    have second : Reference.Matches L ⟨1, none, .node [.text "Movie"]⟩
        ⟨0, none, .node [.text "Movie"]⟩ := ⟨show (1, 0) ∈ pairs by decide, rfl, rfl⟩
    simp only [pairs, List.forall_mem_cons]
    refine ⟨⟨_, _, rfl, rfl, .reference first⟩, ⟨_, _, rfl, rfl, .reference second⟩,
      ⟨_, _, rfl, rfl, .pattern (.cons (node first) .nil)⟩,
      ⟨_, _, rfl, rfl, .pattern (.cons (node second) .nil)⟩,
      ⟨_, _, rfl, rfl, .clause ⟨.create (.cons ?_ (.cons ?_ .nil)), .none, .none, .nil, .nil,
        ⟨.nil, rfl⟩, .none, .none⟩⟩, fun _ mem => absurd mem List.not_mem_nil⟩
    · exact show (2, 2) ∈ pairs by decide
    · exact show (3, 3) ∈ pairs by decide
  have renames : s.Renames L s' := ⟨rfl, rfl, fun h h' mem => related (h, h') mem⟩
  have text : (s.compile .defaults 4).result.toOption.map CompiledQuery.text =
      some "CREATE (this0), (this1:Movie)" := by decide +kernel
  have root : L.owner 4 4 := show (4, 4) ∈ pairs by decide
  have plain : Settings.defaults.IsPlain := Settings.defaults_isPlain
  obtain ⟨trees, compiled⟩ := compiled_up_to_identity (L := L) s s' 4 4 plain
  exact ⟨text, (compiled (trees renames root)).2.2 fun _ _ same => same.symm⟩

end GraphQuery
