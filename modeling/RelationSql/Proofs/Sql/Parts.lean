import RelationSql.Proofs.Sql.Conjunction

/-!
# Where the parts of a statement stand

A statement is a record of parts, and its text is written from them: selections behind `SELECT`,
then tables and pages, then conditions and orders behind words of their own. What is known of the
record is known of the text, since every part stands there, in the list that it belongs to.

* `Within`, `Listed` — a text stands in another one, and it does so as an entry of a list;
* `Statement.listed_of_mem_selections`, `Statement.listed_of_mem_orders` and the like — the parts of
  a statement in its text;
* `PagedSelect.HasText` — how a page is written, and where its join, conditions and order stand.
-/

namespace RelationSql

/-! ## Texts in texts -/

/-- A text stands somewhere in another one. -/
def Within (part text : String) : Prop := ∃ before after, text = before ++ part ++ after

namespace Within

variable {s t u : String}

theorem trans (hst : Within s t) (htu : Within t u) : Within s u := by
  obtain ⟨before, after, rfl⟩ := hst
  obtain ⟨before', after', rfl⟩ := htu
  exact ⟨before' ++ before, after ++ after', by simp only [String.append_assoc]⟩

theorem between (before s after : String) : Within s (before ++ s ++ after) := ⟨before, after, rfl⟩

theorem behind (before s : String) : Within s (before ++ s) := ⟨before, "", by simp⟩

theorem ahead (s after : String) : Within s (s ++ after) := ⟨"", after, by simp⟩

theorem intercalate {texts : List String} (separator : String) (h : s ∈ texts) :
    Within s (separator.intercalate texts) := by
  induction texts with
  | nil => cases h
  | cons first rest ih =>
    cases rest with
    | nil =>
      obtain rfl := List.mem_singleton.mp h
      exact ⟨"", "", by simp⟩
    | cons next rest =>
      rw [String.intercalate_cons_cons]
      rcases List.mem_cons.mp h with rfl | h
      · rw [String.append_assoc]
        exact ahead _ _
      · exact (ih h).trans (behind _ _)

theorem join {texts : List String} (h : s ∈ texts) : Within s (String.join texts) := by
  induction texts with
  | nil => cases h
  | cons first rest ih =>
    rw [String.join_cons]
    rcases List.mem_cons.mp h with rfl | h
    · exact ahead _ _
    · exact (ih h).trans (behind _ _)

end Within

/-- A text is an entry of a list that stands behind a word. -/
def Listed (word separator part text : String) : Prop :=
  ∃ parts, part ∈ parts ∧ Within (word ++ separator.intercalate parts) text

theorem Listed.within {word separator part text : String} (h : Listed word separator part text) :
    Within part text := by
  obtain ⟨parts, hpart, hlist⟩ := h
  exact ((Within.intercalate separator hpart).trans (.behind word _)).trans hlist

/-! ## Statements -/

namespace Statement

variable (d : Dialect) {s : Statement}

theorem listed_of_mem_selections {x : Selection} (h : x ∈ s.selections) :
    Listed "SELECT\n  " ",\n  " (x.toSql d) (s.toSql d) := by
  refine ⟨_, List.mem_eraseDups.mpr (List.mem_map_of_mem h), ?_⟩
  rw [toSql]
  exact ((Within.ahead _ _).trans (.ahead _ _)).trans (.ahead _ _)

theorem within_of_mem_tables {fragment : Fragment} (h : fragment ∈ s.tables) :
    Within (fragment.toSql d) (s.toSql d) := by
  have hjoin := Within.join (List.mem_map_of_mem (f := fun table => "\n" ++ table.toSql d) h)
  rw [toSql, String.append_assoc]
  exact ((Within.behind "\n" _).trans hjoin).trans (.between _ _ _)

/-- A clause with an entry is there. -/
theorem listed_clause (word separator : String) {part : String} {parts : List String}
    (h : part ∈ parts) : Listed word separator part (clause word separator parts) := by
  refine ⟨parts, h, "", "", ?_⟩
  rw [clause, if_neg (by simpa using List.ne_nil_of_mem h), String.empty_append,
    String.append_empty]

theorem listed_of_mem_conditions {condition : Condition} (h : condition ∈ s.conditions) :
    Listed "\nWHERE " " AND " (condition.toSql d) (s.toSql d) := by
  obtain ⟨parts, hpart, hclause⟩ :=
    listed_clause "\nWHERE " " AND " (List.mem_map_of_mem (f := Condition.toSql d) h)
  rw [toSql]
  exact ⟨parts, hpart, hclause.trans (.between _ _ _)⟩

theorem listed_of_mem_orders {order : Order} (h : order ∈ s.orders) :
    Listed "\nORDER BY " ", " (order.toSql d.quote) (s.toSql d) := by
  obtain ⟨parts, hpart, hclause⟩ :=
    listed_clause "\nORDER BY " ", " (List.mem_map_of_mem (f := Order.toSql d.quote) h)
  rw [toSql]
  exact ⟨parts, hpart, hclause.trans (.behind _ _)⟩

end Statement

/-! ## Pages -/

namespace PagedSelect

variable {d : Dialect} {select : PagedSelect} {page : String}

/-- The ways in which a page is written. -/
inductive HasText (d : Dialect) (select : PagedSelect) : String → Prop where
  /-- as a derived table -/
  | body (style : WindowStyle) : HasText d select (select.body d style)
  /-- as a member of a union -/
  | member : HasText d select (select.unionMember d)

namespace HasText

variable (h : select.HasText d page)
include h

theorem exists_lines : ∃ fallback, ∀ line ∈ select.middleLines d fallback, Within line page := by
  have hlines (first last : String) {lines : List String} {line : String} (hline : line ∈ lines) :
      Within line ("\n".intercalate ([first] ++ lines ++ [last])) :=
    .intercalate "\n" (List.mem_append_left _ (List.mem_append_right _ hline))
  cases h with
  | body style => exact ⟨style.always, fun line hline => hlines _ _ hline⟩
  | member =>
    rw [unionMember]
    exact ⟨"1", fun line hline => hlines _ _ hline⟩

/-- The table that is joined inside. -/
theorem within_of_extraJoin {table label condition : String}
    (hjoin : select.extraJoin = some ⟨table, label, condition⟩) :
    Within ("  LEFT JOIN " ++ table ++ " " ++ d.quote label ++ " ON " ++ condition) page := by
  obtain ⟨fallback, hlines⟩ := h.exists_lines
  refine hlines _ (List.mem_append_left _ (List.mem_append_right _ ?_))
  rw [hjoin]
  exact List.mem_cons_self

/-- A condition on the rows. -/
theorem within_of_mem_conditions {condition : Condition} (hmem : condition ∈ select.conditions) :
    Within (condition.toSql d) page := by
  obtain ⟨fallback, hlines⟩ := h.exists_lines
  have hline := hlines _ (List.mem_append_right _ List.mem_cons_self)
  rw [whereClause_eq d fallback (List.ne_nil_of_mem hmem)] at hline
  exact ((Within.intercalate " AND " (List.mem_map_of_mem hmem)).trans (.behind _ _)).trans hline

/-- The order of the rows. -/
theorem within_order : Within ("  ORDER BY " ++ select.order.toSql d.quote) page := by
  obtain ⟨fallback, hlines⟩ := h.exists_lines
  exact hlines _ (List.mem_append_right _ (List.mem_cons_of_mem _ List.mem_cons_self))

end HasText

end PagedSelect

end RelationSql
