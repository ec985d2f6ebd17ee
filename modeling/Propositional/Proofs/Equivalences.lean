import Propositional.Proofs.Truth
import Propositional.Table.Verdict
import Propositional.Table.Written

set_option autoImplicit false

/-!
# Connectives by one another

Laws express one connective by others.  Applied anywhere in a formula, and as often as one likes,
they keep its value and its leaves, and nothing else of a formula goes into its table.
-/

namespace Propositional

namespace Formula

/-! ## Laws -/

/-- Two ways to say the same with the same parts. -/
inductive Law : Formula → Formula → Prop where
  | notEqual_of_xor (a b : Formula) : Law (.binary .xor a b) (.binary .notEqual a b)
  | xor_of_notEqual (a b : Formula) : Law (.binary .notEqual a b) (.binary .xor a b)
  | or_of_imply (a b : Formula) : Law (.binary .imply a b) (.binary .or (.not a) b)
  | not_xor_of_equal (a b : Formula) : Law (.binary .equal a b) (.not (.binary .xor a b))
  | not_or_of_and (a b : Formula) :
      Law (.binary .and a b) (.not (.binary .or (.not a) (.not b)))
  | not_not (a : Formula) : Law a (.not (.not a))

/-- Applying laws at any places of a formula, any number of times. -/
inductive Rewrites : Formula → Formula → Prop where
  | refl (f : Formula) : Rewrites f f
  | law {f g : Formula} (here : Law f g) : Rewrites f g
  | not {f g : Formula} (inside : Rewrites f g) : Rewrites (.not f) (.not g)
  | binary {c : Connective} {left left' right right' : Formula}
      (first : Rewrites left left') (second : Rewrites right right') :
      Rewrites (.binary c left right) (.binary c left' right')
  | trans {f g h : Formula} (before : Rewrites f g) (after : Rewrites g h) : Rewrites f h

variable {f g : Formula}

theorem Law.eval_eq (law : Law f g) (valuation : String → Bool) :
    g.eval valuation = f.eval valuation := by
  cases law with
  | notEqual_of_xor a b => rfl
  | xor_of_notEqual a b => rfl
  | or_of_imply a b => rfl
  | not_xor_of_equal a b =>
    show (!(a.eval valuation != b.eval valuation)) = (a.eval valuation == b.eval valuation)
    exact Bool.not_not _
  | not_or_of_and a b =>
    show (!(!a.eval valuation || !b.eval valuation)) = (a.eval valuation && b.eval valuation)
    rw [Bool.not_or, Bool.not_not, Bool.not_not]
  | not_not => exact Bool.not_not _

theorem Law.leaves_eq (law : Law f g) : g.leaves = f.leaves := by
  cases law <;> rfl

/-- Laws keep the value of the whole wherever they are applied. -/
theorem Rewrites.eval_eq (rewrites : f.Rewrites g) (valuation : String → Bool) :
    g.eval valuation = f.eval valuation := by
  induction rewrites with
  | refl f => rfl
  | law here => exact here.eval_eq valuation
  | not _ ih => rw [eval, ih, eval]
  | binary _ _ ihLeft ihRight => rw [eval, ihLeft, ihRight, eval]
  | trans _ _ ihBefore ihAfter => exact ihAfter.trans ihBefore

/-- Laws keep the leaves in their order wherever they are applied. -/
theorem Rewrites.leaves_eq (rewrites : f.Rewrites g) : g.leaves = f.leaves := by
  induction rewrites with
  | refl f => rfl
  | law here => exact here.leaves_eq
  | not _ ih => exact ih
  | binary _ _ ihLeft ihRight => rw [leaves, ihLeft, ihRight, leaves]
  | trans _ _ ihBefore ihAfter => exact ihAfter.trans ihBefore

/-! ## Tables -/

/-- Formulas with the same names and values have the same rows. -/
theorem rows_congr (names : g.names = f.names) (value : ∀ a : Assignment, g.value a = f.value a) :
    g.rows = f.rows := by
  unfold rows row
  rw [names]
  simp only [value]

theorem verdict_congr (rows : g.rows = f.rows) : g.verdict = f.verdict := by
  unfold verdict
  rw [rows]

theorem table_congr (names : g.names = f.names) (rows : g.rows = f.rows) : g.table = f.table := by
  unfold table tableLines header
  rw [names, rows]

/-- Applying the laws to any parts of a formula, any number of times, changes nothing in what it
is worth under an assignment, and nothing in its table, whatever the number of its names: neither
the columns nor a row, nor the verdict, nor the text. -/
theorem table_of_rewrites (f g : Formula) (rewrites : f.Rewrites g) :
    (∀ a : Assignment, g.value a = f.value a) ∧ g.names = f.names ∧ g.rows = f.rows ∧
      g.verdict = f.verdict ∧ g.table = f.table := by
  have value : ∀ a : Assignment, g.value a = f.value a := fun a => rewrites.eval_eq a.value
  have names : g.names = f.names := by
    unfold Formula.names
    rw [rewrites.leaves_eq]
  have rows : g.rows = f.rows := rows_congr names value
  exact ⟨value, names, rows, verdict_congr rows, table_congr names rows⟩

/-- A conjunction of an implication and an equivalence, with all three of them rewritten, the
exclusive disjunction that comes of it as well, and one leaf negated twice. -/
theorem table_of_rewrites_nested :
    (binary .and (.binary .imply (.var "p") (.var "q"))
        (.binary .equal (.var "r") (.var "p"))).Rewrites
      (.not (.binary .or (.not (.binary .or (.not (.var "p")) (.var "q")))
        (.not (.not (.binary .notEqual (.not (.not (.var "r"))) (.var "p")))))) ∧
      (not (.binary .or (.not (.binary .or (.not (.var "p")) (.var "q")))
        (.not (.not (.binary .notEqual (.not (.not (.var "r"))) (.var "p")))))).table =
        (binary .and (.binary .imply (.var "p") (.var "q"))
          (.binary .equal (.var "r") (.var "p"))).table := by
  have left : (binary .imply (.var "p") (.var "q")).Rewrites
      (.binary .or (.not (.var "p")) (.var "q")) := .law (.or_of_imply _ _)
  have inner : (binary .xor (.var "r") (.var "p")).Rewrites
      (.binary .notEqual (.not (.not (.var "r"))) (.var "p")) :=
    .trans (.law (.notEqual_of_xor _ _)) (.binary (.law (.not_not _)) (.refl _))
  have right : (binary .equal (.var "r") (.var "p")).Rewrites
      (.not (.binary .notEqual (.not (.not (.var "r"))) (.var "p"))) :=
    .trans (.law (.not_xor_of_equal _ _)) (.not inner)
  have rewrites := Rewrites.trans (.binary left right) (.law (.not_or_of_and _ _))
  exact ⟨rewrites, (table_of_rewrites _ _ rewrites).2.2.2.2⟩

end Formula

end Propositional
