import RelationSql.Proofs.Planner.Builds

/-!
# Backends

The dialects of planners fetch pages in a few ways. A *backend* has the words of a dialect and a way
of its own to fetch pages: it is told all that a build knows about the relation, it may ask hooks,
it may fail, and what it gives are texts. The statements for a backend are put together from texts;
each planner is a backend (`build_eq_backend`, `buildBatch_eq_backend`), so that what holds of
backends holds of planners.
-/

namespace RelationSql

variable {γ : Type}

/-- A computation that goes on after its last step. -/
theorem Trace.bind_then {α β δ : Type} {m : Trace α} {f : α → Trace β} {g : α → Trace δ}
    {k : β → Trace δ} (h : ∀ a, g a = f a >>= k) : m >>= g = m >>= f >>= k := by
  rw [bind_assoc, funext h]

/-- A result that is written down before a computation goes on. -/
theorem Trace.map_bind_then {α β δ ε : Type} {m : Trace α} {t : α → β} {g : β → Trace δ}
    {f : α → Trace ε} {k : ε → Trace δ} (h : ∀ a, g (t a) = f a >>= k) :
    (m >>= fun a => pure (t a)) >>= g = m >>= f >>= k := by
  rw [bind_assoc, bind_assoc]
  exact congrArg (m >>= ·) (funext h)

/-! ## Texts -/

/-- The texts of a statement. -/
structure Texts where
  /-- what is selected -/
  selections : List String := []
  /-- where rows come from -/
  tables : List String := []
  /-- the conditions that rows have to meet -/
  conditions : List String := []
  /-- the orders of the relations -/
  orders : List String := []

namespace Texts

/-- The texts of two statements, one behind the other. -/
protected def append (s t : Texts) : Texts where
  selections := s.selections ++ t.selections
  tables := s.tables ++ t.tables
  conditions := s.conditions ++ t.conditions
  orders := s.orders ++ t.orders

instance : Append Texts := ⟨Texts.append⟩

/-- The text of a statement. -/
def toSql (t : Texts) : String :=
  "SELECT\n  " ++ ",\n  ".intercalate t.selections.eraseDups
    ++ String.join (t.tables.map fun table => "\n" ++ table)
    ++ Statement.clause "\nWHERE " " AND " t.conditions
    ++ Statement.clause "\nORDER BY " ", " t.orders

end Texts

/-- The texts of where rows come from. -/
def Source.texts (d : Dialect) (s : Source) : Texts where
  tables := s.tables.map (Fragment.toSql d)
  conditions := s.conditions.map (Condition.toSql d)

namespace Statement

/-- The texts of a statement. -/
def texts (d : Dialect) (s : Statement) : Texts where
  selections := s.selections.map (Selection.toSql d)
  tables := s.tables.map (Fragment.toSql d)
  conditions := s.conditions.map (Condition.toSql d)
  orders := s.orders.map (Order.toSql d.quote)

@[simp] theorem texts_append (d : Dialect) (s t : Statement) :
    (s ++ t).texts d = s.texts d ++ t.texts d := by
  change texts d (Statement.append s t) = Texts.append (texts d s) (texts d t)
  simp [texts, Statement.append, Texts.append]

theorem toSql_texts (d : Dialect) (s : Statement) : (s.texts d).toSql = s.toSql d := by
  simp [Texts.toSql, texts, toSql, Function.comp_def]

end Statement

/-! ## Backends -/

/-- What a page is attached to, with the conditions of the links. -/
inductive PageLink where
  /-- to nothing: the statement starts from it -/
  | root
  /-- to the parent -/
  | joined (join : String)
  /-- to the parent, through a junction -/
  | junction (toJunction toChild : String)
  /-- to the keys of many parents -/
  | batch (scope : KeyScope)
  /-- to the keys of many parents, through a junction -/
  | junctionBatch (scope : KeyScope) (toChild : String)

/-- All that is known about a page when it is written. -/
structure PageTask (γ : Type) where
  /-- the parent of the relation -/
  parent? : Option (Plan γ)
  /-- the relation, with what lies below it -/
  plan : Plan γ
  /-- what the page is attached to -/
  link : PageLink
  /-- the value that hooks see -/
  context : γ
  /-- the page sizes that hold for every relation -/
  settings : PageSettings

/-- A database with a way of its own to fetch pages. -/
structure Backend (γ : Type) where
  /-- its words; what this offers for pages is not looked at -/
  dialect : Dialect
  /-- the texts that fetch a page -/
  page : PageTask γ → Trace (List String)

namespace Backend

variable (b : Backend γ) (settings : PageSettings) (context : γ)

/-- The planner with the words of the backend. -/
def planner : Planner := ⟨b.dialect, settings⟩

/-- The page of a relation if it has one, or else its tables with the conditions on their rows. -/
def pageOr (parent? : Option (Plan γ)) (p : Plan γ) (link : PageLink)
    (plain : List Condition → Source) : Trace Texts :=
  if p.relation.isPaged then do
    let tables ← b.page ⟨parent?, p, link, context, settings⟩
    return { tables }
  else do
    let conditions ← (b.planner settings).conditions context p.relation
    return (plain conditions).texts b.dialect

/-- The source of a relation in a position. -/
def source (parent? : Option (Plan γ)) (position : Position γ) (p : Plan γ) : Trace Texts :=
  let r := p.relation
  match position, r.junction with
  | .root, _ => b.pageOr settings context parent? p .root fun conditions =>
      { tables := [.base r.table r.label], conditions }
  | .joined parent, none => do
    let hook ← Trace.require r.join (.invalidPlan (.noJoin r.name))
    let join ← (b.planner settings).askJoin context r .join parent.label r.label hook
    b.pageOr settings context parent? p (.joined join) fun conditions =>
      { tables := [.leftJoin r.table r.label join], conditions }
  | .joined parent, some j => do
    let hooks ← Trace.require j.joins (.invalidPlan (.noJunctionJoins r.name))
    let toJunction ← (b.planner settings).askJoin context r .toJunction parent.label j.label hooks.1
    let toChild ← (b.planner settings).askJoin context r .toChild j.label r.label hooks.2
    b.pageOr settings context parent? p (.junction toJunction toChild) fun conditions => {
      tables := [.leftJoin j.table j.label toJunction, .leftJoin r.table r.label toChild]
      conditions }
  | .batch scope, none => do
    let keys ← Trace.require r.batch (.invalidPlan (.noBatchKeys r.name))
    b.pageOr settings context parent? p (.batch scope) fun conditions => {
      tables := [.base r.table r.label]
      conditions := .keyIn r.label keys.thisKey scope :: conditions }
  | .batch scope, some j => do
    let keys ← Trace.require j.batch (.invalidPlan (.noJunctionBatch r.name))
    let hook ← Trace.require j.childJoin? (.invalidPlan (.noChildJoin r.name))
    let toChild ← (b.planner settings).askJoin context r hook.1 j.label r.label hook.2
    b.pageOr settings context parent? p (.junctionBatch scope toChild) fun conditions => {
      tables := [.base j.table j.label, .leftJoin r.table r.label toChild]
      conditions := .keyIn j.label keys.thisKey scope :: conditions }

/-- What a relation contributes to its statement. -/
def contribution (parent? : Option (Plan γ)) (position : Position γ) (p : Plan γ) :
    Trace Texts := do
  let selections ← .ofExcept (p.relation.selections position)
  let source ← b.source settings context parent? position p
  let order? ← .ofExcept p.relation.outerOrder
  let batched := Plan.batchedAmong p.relation p.children
  return {
    selections := (selections ++ batched.map fun d =>
      Selection.ofColumn p.relation.label d.keys.parentKey).map (Selection.toSql b.dialect)
    tables := source.tables
    conditions := source.conditions
    orders := order?.toList.map (Order.toSql b.dialect.quote) }

mutual

/-- The contributions of the joined part of a plan. -/
def assemble (parent? : Option (Plan γ)) (position : Position γ) : Plan γ → Trace Texts
  | ⟨r, children⟩ => do
    let own ← b.contribution settings context parent? position ⟨r, children⟩
    let below ← assembleBelow ⟨r, children⟩ children
    return own ++ below

/-- The contributions of those plans below another one that are joined to it. -/
def assembleBelow (parent : Plan γ) : List (Plan γ) → Trace Texts
  | [] => pure {}
  | p :: rest =>
    if p.relation.isBatched then assembleBelow parent rest
    else do
      let first ← assemble (some parent) (.joined parent.relation) p
      let others ← assembleBelow parent rest
      return first ++ others

end

/-- The query of a plan whose root stands in a position. -/
def queryAt (parent? : Option (Plan γ)) (position : Position γ) (p : Plan γ) : Trace Query := do
  let texts ← b.assemble settings context parent? position p
  if texts.selections.isEmpty then .fail (.invalidPlan (.noColumns p.relation.label))
  else return { sql := texts.toSql, deferred := p.deferrals.map Deferral.columns }

/-- The query of a plan. -/
def build (p : Plan γ) : Trace Query := do
  Planner.validate p
  b.queryAt settings context none .root p

/-- The query of a batched relation of a plan for some parent keys. -/
def buildBatch (p : Plan γ) (label : String) (scope : KeyScope) : Trace Query := do
  Planner.validate p
  let found ← Trace.require (p.find? label) (.invalidPlan (.unknownAlias label))
  let relation := found.1.relation
  if !relation.isBatched then .fail (.invalidPlan (.notBatched relation.name))
  else if scope.isEmpty then .fail (.invalidArguments (.noParentKeys relation.name))
  else b.queryAt settings context found.2 (.batch scope) found.1

end Backend

/-! ## Planners as backends -/

namespace Dialect

/-- The texts of a page in the style of the dialect. -/
def page (d : Dialect) (task : PageTask γ) : Trace (List String) := do
  let planner : Planner := ⟨d, task.settings⟩
  let r := task.plan.relation
  let tables ← match task.link with
    | .root => planner.rootPage task.context r
    | .joined join => planner.joinedPage task.context r join
    | .junction toJunction toChild => planner.joinedJunctionPage task.context r toJunction toChild
    | .batch scope => planner.batchedPage task.context r scope
    | .junctionBatch scope toChild => planner.batchedJunctionPage task.context r scope toChild
  return tables.map (Fragment.toSql d)

/-- The backend that a dialect is. -/
def backend (d : Dialect) : Backend γ := ⟨d, d.page⟩

end Dialect

namespace Planner

open Trace

variable (planner : Planner) (context : γ)

section

variable (parent? : Option (Plan γ)) (p : Plan γ)

theorem pageOr_eq {link : PageLink} {plain : List Condition → Source}
    {page : Trace (List Fragment)}
    (hpage : planner.dialect.page ⟨parent?, p, link, context, planner.settings⟩ =
      page >>= fun tables => pure (tables.map (Fragment.toSql planner.dialect))) :
    planner.dialect.backend.pageOr planner.settings context parent? p link plain =
      (if p.relation.isPaged then do
          let tables ← page
          return { tables }
        else do
          let conditions ← planner.conditions context p.relation
          return plain conditions : Trace Source) >>= fun s => pure (s.texts planner.dialect) := by
  rw [Backend.pageOr]
  split
  · change planner.dialect.page _ >>= _ = _
    rw [hpage, bind_assoc, bind_assoc]
    rfl
  · rw [bind_assoc]
    rfl

/-- A planner writes the source of a relation as its backend does. -/
theorem source_eq_backend (position : Position γ) :
    planner.dialect.backend.source planner.settings context parent? position p =
      planner.source context position p.relation >>= fun s => pure (s.texts planner.dialect) := by
  rw [Backend.source.eq_def, source.eq_def]
  dsimp only
  cases position with
  | root => exact planner.pageOr_eq context parent? p rfl
  | joined parent =>
    cases p.relation.junction with
    | none => exact bind_then fun hook => bind_then fun join =>
        planner.pageOr_eq context parent? p rfl
    | some j => exact bind_then fun hooks => bind_then fun toJunction => bind_then fun toChild =>
        planner.pageOr_eq context parent? p rfl
  | batch scope =>
    cases p.relation.junction with
    | none => exact bind_then fun keys => planner.pageOr_eq context parent? p rfl
    | some j => exact bind_then fun keys => bind_then fun hook => bind_then fun toChild =>
        planner.pageOr_eq context parent? p rfl

theorem contribution_eq_backend (position : Position γ) :
    planner.dialect.backend.contribution planner.settings context parent? position p =
      planner.contribution context position p.relation
        (Plan.batchedAmong p.relation p.children) >>= fun s => pure (s.texts planner.dialect) := by
  rw [Backend.contribution, source_eq_backend]
  exact bind_then fun selections => map_bind_then fun source => bind_then fun order? => rfl

end

/-- A planner assembles a statement as its backend does. -/
theorem assemble_eq_backend (parent? : Option (Plan γ)) (position : Position γ) (p : Plan γ) :
    planner.dialect.backend.assemble planner.settings context parent? position p =
      planner.assemble context position p >>= fun s => pure (s.texts planner.dialect) := by
  induction p using Plan.rec_children generalizing parent? position with
  | h r children ih =>
    have hbelow (below : List (Plan γ)) (hsub : below ⊆ children) :
        planner.dialect.backend.assembleBelow planner.settings context ⟨r, children⟩ below =
          planner.assembleBelow context r below >>= fun s => pure (s.texts planner.dialect) := by
      induction below with
      | nil => rfl
      | cons c rest ihrest =>
        have hrest := ihrest (List.subset_of_cons_subset hsub)
        have hc := ih c (hsub List.mem_cons_self) (some ⟨r, children⟩) (.joined r)
        rw [Backend.assembleBelow, assembleBelow]
        split
        · exact hrest
        · rw [hc, hrest]
          exact map_bind_then fun first => map_bind_then fun others =>
            congrArg pure (Statement.texts_append _ first others).symm
    rw [Backend.assemble, assemble, contribution_eq_backend, hbelow children (List.Subset.refl _)]
    exact map_bind_then fun own => map_bind_then fun below =>
      congrArg pure (Statement.texts_append _ own below).symm

theorem queryAt_eq_backend (parent? : Option (Plan γ)) (position : Position γ) (p : Plan γ) :
    planner.queryAt context position p =
      planner.dialect.backend.queryAt planner.settings context parent? position p := by
  rw [queryAt, statementAt, Backend.queryAt, assemble_eq_backend]
  refine (map_bind_then fun statement => ?_).symm
  have hempty : (statement.texts planner.dialect).selections.isEmpty =
      statement.selections.isEmpty := List.isEmpty_map
  rw [hempty, Statement.toSql_texts]
  split <;> rfl

/-- **A planner is a backend**: it builds the same queries, and it asks the same hooks for them. -/
theorem build_eq_backend (p : Plan γ) :
    planner.build context p = planner.dialect.backend.build planner.settings context p := by
  rw [build, Backend.build, queryAt_eq_backend]

theorem buildBatch_eq_backend (p : Plan γ) (label : String) (scope : KeyScope) :
    planner.buildBatch context p label scope =
      planner.dialect.backend.buildBatch planner.settings context p label scope := by
  rw [buildBatch, Backend.buildBatch]
  refine Trace.bind_congr fun _ _ => Trace.bind_congr fun found _ => ?_
  dsimp only
  rw [planner.queryAt_eq_backend context found.2]

end Planner

end RelationSql
