import RelationSql.Proofs.Sql.Reading
import RelationSql.Sql.Statement
import Mathlib.Data.List.Forall2

/-!
# Conditions joined by `AND`

The conditions of a page and those of a statement are written one behind the other with `AND`
between them, as the hooks and the other parts give them. What the text then means is settled by
precedence: it is true wherever all conditions are, but where one of them has alternatives of its
own, the `AND` takes only the alternative next to it.

* `formula?_intercalate` — how joined conditions are read;
* `holds_joined`, `holds_joined_iff` — what they say of a row;
* `joined_conditions_hold` — the same of the text of pages and statements.
-/

namespace RelationSql

namespace Formula

/-- The formula of several conditions with `AND` between them. -/
def joined : List Formula → Formula
  | [] => []
  | [formula] => formula
  | formula :: formulas => formula.splice (joined formulas)

theorem joined_cons (formula next : Formula) (formulas : List Formula) :
    joined (formula :: next :: formulas) = formula.splice (joined (next :: formulas)) := by
  rw [joined]
  exact List.cons_ne_nil _ _

/-- **If all conditions are true, the joined one is.** -/
theorem holds_joined {truth : Run → Truth} {formulas : List Formula} (hne : formulas ≠ [])
    (h : ∀ formula ∈ formulas, formula.Holds truth) : (joined formulas).Holds truth := by
  induction formulas with
  | nil => exact absurd rfl hne
  | cons formula formulas ih =>
    have hfirst := h formula List.mem_cons_self
    cases formulas with
    | nil => exact hfirst
    | cons next formulas =>
      rw [joined_cons]
      have hrest := ih (List.cons_ne_nil _ _) fun g hg => h g (List.mem_cons_of_mem _ hg)
      exact holds_splice hfirst hrest

/-- Conditions without alternatives are joined to one without alternatives. -/
theorem exists_joined_eq {formulas : List Formula} (hne : formulas ≠ [])
    (h : ∀ formula ∈ formulas, formula.length = 1) :
    ∃ runs, joined formulas = [runs] ∧
      ∀ truth, valueAll truth runs = .yes ↔ ∀ formula ∈ formulas, formula.Holds truth := by
  induction formulas with
  | nil => exact absurd rfl hne
  | cons formula formulas ih =>
    obtain ⟨runs, rfl⟩ := List.length_eq_one_iff.mp (h formula List.mem_cons_self)
    cases formulas with
    | nil =>
      refine ⟨runs, rfl, fun truth => ?_⟩
      rw [List.forall_mem_singleton, holds_singleton]
    | cons next formulas =>
      obtain ⟨more, hmore, hvalue⟩ :=
        ih (List.cons_ne_nil _ _) fun g hg => h g (List.mem_cons_of_mem _ hg)
      refine ⟨runs ++ more, by rw [joined_cons, hmore]; rfl, fun truth => ?_⟩
      rw [valueAll_append, hvalue, ← holds_singleton]
      exact List.forall_mem_cons.symm

/-- **Conditions without alternatives** say together what they say one by one. -/
theorem holds_joined_iff {formulas : List Formula} (hne : formulas ≠ [])
    (h : formulas.length = 1 ∨ ∀ formula ∈ formulas, formula.length = 1) (truth : Run → Truth) :
    (joined formulas).Holds truth ↔ ∀ formula ∈ formulas, formula.Holds truth := by
  rcases h with hone | halternatives
  · obtain ⟨formula, rfl⟩ := List.length_eq_one_iff.mp hone
    exact List.forall_mem_singleton.symm
  · obtain ⟨runs, hruns, hvalue⟩ := exists_joined_eq hne halternatives
    rw [hruns, holds_singleton, hvalue]

end Formula

/-- **How joined conditions are read**, from how each of them is read. -/
theorem formula?_intercalate {lexis : Lexis} {texts : List String} {formulas : List Formula}
    (h : List.Forall₂ (fun text formula => formula? lexis text = some formula) texts formulas)
    (hne : texts ≠ []) :
    formula? lexis (" AND ".intercalate texts) = some (Formula.joined formulas) := by
  induction h with
  | nil => exact absurd rfl hne
  | cons hfirst hrest ih =>
    cases hrest with
    | nil => rwa [String.intercalate_singleton]
    | cons hnext hrest =>
      rw [String.intercalate_cons_cons, Formula.joined_cons]
      exact formula?_and hfirst (ih (List.cons_ne_nil _ _))

/-! ## Pages and statements -/

/-- The text of a statement with its conditions in their place. -/
theorem Statement.toSql_eq (d : Dialect) {s : Statement} (hne : s.conditions ≠ []) :
    s.toSql d = ({ s with conditions := [], orders := [] } : Statement).toSql d ++
      "\nWHERE " ++ Condition.conjunction d s.conditions ++
      clause "\nORDER BY " ", " (s.orders.map (Order.toSql d.quote)) := by
  simp [toSql, clause, Condition.conjunction, hne, String.append_assoc]

theorem PagedSelect.whereClause_eq (d : Dialect) (fallback : String) {select : PagedSelect}
    (hne : select.conditions ≠ []) :
    select.whereClause d fallback = Condition.conjunction d select.conditions := by
  rw [whereClause, if_neg (by simpa using hne)]

/-- **Joined conditions.** Let every condition of a page, or of a statement, be read as a formula.
Then the text that stands in their place is read as these formulas joined. It is true of a row if
all of them are; and it is true only then, if there is one condition alone or none of them has
alternatives. -/
theorem joined_conditions_hold (lexis : Lexis) (d : Dialect) {conditions : List Condition}
    (hne : conditions ≠ []) {formulas : List Formula}
    (hread : List.Forall₂ (fun c formula => formula? lexis (c.toSql d) = some formula)
      conditions formulas) :
    (∀ (select : PagedSelect) fallback, select.conditions = conditions →
      formula? lexis (select.whereClause d fallback) = some (Formula.joined formulas)) ∧
    (∀ s : Statement, s.conditions = conditions → ∃ text,
      s.toSql d = ({ s with conditions := [], orders := [] } : Statement).toSql d ++
        "\nWHERE " ++ text ++
        Statement.clause "\nORDER BY " ", " (s.orders.map (Order.toSql d.quote)) ∧
      formula? lexis text = some (Formula.joined formulas)) ∧
    ∀ truth,
      ((∀ formula ∈ formulas, formula.Holds truth) → (Formula.joined formulas).Holds truth) ∧
      (formulas.length = 1 ∨ (∀ formula ∈ formulas, formula.length = 1) →
        ((Formula.joined formulas).Holds truth ↔ ∀ formula ∈ formulas, formula.Holds truth)) := by
  have hformulas : formulas ≠ [] := by
    rintro rfl
    cases hread
    exact hne rfl
  have hjoined : formula? lexis (Condition.conjunction d conditions) =
      some (Formula.joined formulas) :=
    formula?_intercalate (List.forall₂_map_left_iff.mpr hread) (by simpa using hne)
  refine ⟨?_, ?_, fun truth => ⟨Formula.holds_joined hformulas, fun h => ?_⟩⟩
  · rintro select fallback rfl
    rwa [select.whereClause_eq d fallback hne]
  · rintro s rfl
    exact ⟨_, s.toSql_eq d hne, hjoined⟩
  · exact Formula.holds_joined_iff hformulas h truth

/-- The key of a parent, beside a hook whose `OR` stands in parentheses and whose `AND` belongs to
`BETWEEN`. -/
theorem joined_conditions_hold_of_group :
    let key : Condition := .keyIn "p" "author" (.ofList [.integer 1, .text "O'Hara"])
    let hook : Condition := .given "NOT (p.draft or p.rank BETWEEN 2 AND 3)"
    ∃ f g : Formula, formula? .standard (key.toSql .pg) = some f ∧
      formula? .standard (hook.toSql .pg) = some g ∧
      (∀ formula ∈ [f, g], formula.length = 1) ∧
      ∀ truth, (Formula.joined [f, g]).Holds truth ↔ f.Holds truth ∧ g.Holds truth := by
  intro key hook
  have hkey : (formula? .standard (key.toSql .pg)).map List.length = some 1 := by decide
  have hhook : (formula? .standard (hook.toSql .pg)).map List.length = some 1 := by decide
  obtain ⟨f, hf, hfone⟩ := Option.map_eq_some_iff.mp hkey
  obtain ⟨g, hg, hgone⟩ := Option.map_eq_some_iff.mp hhook
  have hone : ∀ formula ∈ [f, g], formula.length = 1 := by simp [hfone, hgone]
  refine ⟨f, g, hf, hg, hone, fun truth => ?_⟩
  obtain ⟨-, -, hvalue⟩ := joined_conditions_hold .standard .pg (List.cons_ne_nil key [hook])
    (.cons hf (.cons hg .nil))
  rw [(hvalue truth).2 (.inr hone)]
  simp

/-- Whether a word occurs among the items of a run. -/
def mentions (word : String) (run : Run) : Bool :=
  run.any fun item => match item with
    | .token (.word letters) => letters = word.toList
    | _ => false

/-- **A hook with alternatives weakens the condition beside it.** Its first alternative is all that
the key of the parent is joined to, so the rows of its second one come with any key. -/
theorem joined_conditions_weakened :
    let key : Condition := .keyIn "posts" "author_id" (.ofList [.integer 1])
    let hook : Condition := .given "\"posts\".published = TRUE OR \"posts\".pinned = TRUE"
    let pinned : Run → Truth := fun run => if mentions "pinned" run then .yes else .no
    (formula? .standard (key.toSql .pg)).map (Formula.value pinned) = some .no ∧
    (formula? .standard (hook.toSql .pg)).map (Formula.value pinned) = some .yes ∧
    (formula? .standard (Condition.conjunction .pg [key, hook])).map (Formula.value pinned) =
      some .yes := by
  decide +kernel

end RelationSql
