import RelationSql.Sql.PagedSelect

/-!
# The tables of a statement

A statement takes its rows from a chain of fragments: the first one is a `FROM`, the others join to
what stands before them.
-/

namespace RelationSql

/-- Whether rows without a partner are kept. -/
inductive JoinKind where
  /-- they are kept -/
  | left
  /-- they are dropped -/
  | inner
deriving DecidableEq, Repr

namespace Correlation

/-- The words that attach a correlated subselect. -/
def joinWords : Correlation → JoinKind → String
  | lateral, .left => "LEFT JOIN LATERAL"
  | lateral, .inner => "JOIN LATERAL"
  | apply, .left => "OUTER APPLY"
  | apply, .inner => "CROSS APPLY"

/-- The clause with the condition of a join; the subselect of an `APPLY` holds it already. -/
def onClause (condition : String) : Correlation → String
  | lateral => s!" ON {condition}"
  | apply => ""

/-- The fragment that lists the parent keys, one row for each. -/
def keySource (d : Dialect) (parentKey : String) (scope : KeyScope) : Correlation → String
  | lateral =>
    let rows := ", ".intercalate (scope.keys.map fun key => s!"({d.literal key})")
    s!"FROM (VALUES {rows}) temp({d.quote parentKey})"
  | apply =>
    let value := d.quote "value"
    let temp := d.quote "temp"
    let rows := " UNION ".intercalate
      (scope.keys.map fun key => s!"SELECT {d.literal key} AS {value} FROM DUAL")
    s!"FROM ({rows}) {temp}"

/-- The word between a table and its alias in the join behind a page of a junction. -/
def aliasWord : Correlation → String
  | lateral => "AS "
  | apply => ""

end Correlation

/-- A part of the tables of a statement. -/
inductive Fragment where
  /-- the table that a statement starts from -/
  | base (table label : String)
  /-- a table joined to what stands before it -/
  | leftJoin (table label condition : String)
  /-- the table of a relation, joined to a page of its junction -/
  | childJoin (aliasWord table label condition : String)
  /-- a page that a statement starts from -/
  | page (style : WindowStyle) (select : PagedSelect)
  /-- a page for each row before it -/
  | correlatedPage (style : Correlation) (kind : JoinKind) (condition : Condition)
      (select : PagedSelect)
  /-- the parent keys that a statement starts from -/
  | keys (style : Correlation) (parentKey : String) (scope : KeyScope)
  /-- the union of some pages that a statement starts from -/
  | union (label : String) (members : List PagedSelect)

namespace Fragment

/-- The text of a fragment. -/
def toSql (d : Dialect) : Fragment → String
  | base table label => s!"FROM {table} {d.quote label}"
  | leftJoin table label condition => s!"LEFT JOIN {table} {d.quote label} ON {condition}"
  | childJoin aliasWord table label condition =>
    s!"LEFT JOIN {table} {aliasWord}{d.quote label} ON {condition}"
  | page style select => s!"FROM (\n{select.body d style}\n) {d.quote select.label}"
  | correlatedPage style kind condition select =>
    let label := d.quote select.label
    let body := select.body d style.window
    s!"{style.joinWords kind} (\n{body}\n) {label}{style.onClause (condition.toSql d)}"
  | keys style parentKey scope => style.keySource d parentKey scope
  | union label members =>
    let body := "\nUNION\n".intercalate (members.map (PagedSelect.unionMember d))
    s!"FROM (\n{body}\n) AS {d.quote label}"

/-- The alias that a fragment gives to its rows. The parent keys go under a name of their own. -/
def label : Fragment → String
  | base _ label | leftJoin _ label _ | childJoin _ _ label _ | union label _ => label
  | page _ select | correlatedPage _ _ _ select => select.label
  | keys _ _ _ => "temp"

end Fragment

end RelationSql
