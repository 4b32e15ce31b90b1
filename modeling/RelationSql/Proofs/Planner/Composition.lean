import RelationSql.Proofs.Planner.Builds

/-!
# How a source is put together

The source of a relation is written in ten ways: in five positions, in one piece or in pages, and
the pages by two kinds of dialects. All of them go through the same steps. First the relation is
attached to what it hangs off, which may need keys and asks for links. Then, for a page, the dialect
has a layout for this attachment or refuses it, the request is interpreted, and the filters are
asked; in one piece, the filters are asked. The rest is writing down.

* `Attachment` — what a relation hangs off, with the answers of its links;
* `PagingStyle.layout?` — how a dialect writes down the pages of an attachment;
* `attach`, `sourceOf` — the two halves of a source, and `source_eq` that these are what it is made
  of, so that a fact about sources is one about each half;
* `Attaches`, `Writes` — what the halves come to if they succeed, and `exists_of_source` for both.
-/

namespace RelationSql

variable {γ : Type}

/-- What a relation hangs off, once its links have answered. -/
inductive Attachment (γ : Type) where
  /-- nothing: the statement starts from it -/
  | root
  /-- its parent -/
  | parent (join : String)
  /-- its parent, through a junction -/
  | junction (j : Junction γ) (toJunction toChild : String)
  /-- the keys of many parents -/
  | keys (keys : BatchKeys γ) (scope : KeyScope)
  /-- the keys of many parents, through a junction -/
  | junctionKeys (j : Junction γ) (keys : BatchKeys γ) (scope : KeyScope) (toChild : String)

/-- The technique by which pages with an attachment are fetched. -/
def Attachment.technique : Attachment γ → Technique
  | root => .root
  | parent _ => .joinedOneToMany
  | junction _ _ _ => .joinedManyToMany
  | keys _ _ => .batchedOneToMany
  | junctionKeys _ _ _ _ => .batchedManyToMany

/-- How pages are written down, given the request and the conditions on their rows. -/
abbrev Layout : Type := Paging → List Condition → List Fragment

/-- A page of a table for each parent key, behind the list of keys. -/
def Layout.keyed (style : Correlation) (kind : JoinKind) (keys : BatchKeys γ) (scope : KeyScope)
    (table label : String) (extraJoin : Option ExtraJoin) : Layout := fun paging conditions =>
  let isCurrent := Condition.keyIsCurrent style label keys.thisKey keys.parentKey
    scope.startsWithText
  [.keys style keys.parentKey scope,
    .correlatedPage style kind isCurrent
      (.ofPaging table label (isCurrent :: conditions) paging extraJoin)]

/-- The union of one page of a table for each parent key. -/
def Layout.union (keys : BatchKeys γ) (scope : KeyScope) (table label : String)
    (extraJoin : Option ExtraJoin) : Layout := fun paging conditions =>
  [.union label (scope.keys.map fun key =>
    .ofPaging table label (conditions ++ [.keyIs label keys.thisKey key]) paging extraJoin)]

/-- The layout of pages with an attachment, if there is one. -/
def PagingStyle.layout? (r : Relation γ) : PagingStyle → Attachment γ → Option Layout
  | correlated style, .root => some fun paging conditions =>
    [.page style.window (.ofPaging r.table r.label conditions paging)]
  | correlated style, .parent join => some fun paging conditions =>
    [.correlatedPage style .left (.given join)
      (.ofPaging r.table r.label (.given join :: conditions) paging)]
  | correlated style, .junction j toJunction toChild => some fun paging conditions =>
    [.correlatedPage style .left (.given toJunction)
        (.ofPaging j.table j.label (.given toJunction :: conditions) paging (r.extraJoin toChild)),
      .childJoin style.aliasWord r.table r.label toChild]
  | correlated style, .keys keys scope => some (.keyed style .inner keys scope r.table r.label none)
  | correlated style, .junctionKeys j keys scope toChild => some fun paging conditions =>
    Layout.keyed style .left keys scope j.table j.label (r.extraJoin toChild) paging conditions ++
      [.childJoin style.aliasWord r.table r.label toChild]
  | union, .root => some fun paging conditions =>
    [.page .limit (.ofPaging r.table r.label conditions paging)]
  | union, .keys keys scope => some (.union keys scope r.table r.label none)
  | union, .junctionKeys j keys scope toChild => some fun paging conditions =>
    Layout.union keys scope j.table j.label (r.extraJoin toChild) paging conditions ++
      [.childJoin "AS " r.table r.label toChild]
  | union, .parent _ | union, .junction _ _ _ | unsupported, _ => none

/-- A style has layouts for the techniques that it supports. -/
theorem PagingStyle.isSome_layout? (style : PagingStyle) (r : Relation γ) (a : Attachment γ) :
    (style.layout? r a).isSome = style.supports a.technique := by
  cases style <;> cases a <;> rfl

/-- The source of a relation in one piece, given the conditions on its rows. -/
def Relation.plainSource (r : Relation γ) : Attachment γ → List Condition → Source
  | .root, conditions => { tables := [.base r.table r.label], conditions }
  | .parent join, conditions => { tables := [.leftJoin r.table r.label join], conditions }
  | .junction j toJunction toChild, conditions => {
      tables := [.leftJoin j.table j.label toJunction, .leftJoin r.table r.label toChild]
      conditions }
  | .keys keys scope, conditions => {
      tables := [.base r.table r.label]
      conditions := .keyIn r.label keys.thisKey scope :: conditions }
  | .junctionKeys j keys scope toChild, conditions => {
      tables := [.base j.table j.label, .leftJoin r.table r.label toChild]
      conditions := .keyIn j.label keys.thisKey scope :: conditions }

namespace Planner

open Trace

variable (planner : Planner) (context : γ) (r : Relation γ)

/-! ## The steps -/

/-- Attach a relation in a position: take the keys that it needs, and ask for its links. -/
def attach (position : Position γ) : Trace (Attachment γ) :=
  match position, r.junction with
  | .root, _ => pure .root
  | .joined parent, none => do
    let hook ← Trace.require r.join (.invalidPlan (.noJoin r.name))
    let join ← planner.askJoin context r .join parent.label r.label hook
    return .parent join
  | .joined parent, some j => do
    let hooks ← Trace.require j.joins (.invalidPlan (.noJunctionJoins r.name))
    let toJunction ← planner.askJoin context r .toJunction parent.label j.label hooks.1
    let toChild ← planner.askJoin context r .toChild j.label r.label hooks.2
    return .junction j toJunction toChild
  | .batch scope, none => do
    let keys ← Trace.require r.batch (.invalidPlan (.noBatchKeys r.name))
    return .keys keys scope
  | .batch scope, some j => do
    let keys ← Trace.require j.batch (.invalidPlan (.noJunctionBatch r.name))
    let hook ← Trace.require j.childJoin? (.invalidPlan (.noChildJoin r.name))
    let toChild ← planner.askJoin context r hook.1 j.label r.label hook.2
    return .junctionKeys j keys scope toChild

/-- The layout of the dialect for an attachment. -/
def layoutOf (a : Attachment γ) : Trace Layout :=
  .require (planner.dialect.paging.layout? r a)
    (.unsupportedPagination planner.dialect.name a.technique)

/-- The pages of a relation that is attached. -/
def pageOf (a : Attachment γ) : Trace (List Fragment) := do
  let layout ← planner.layoutOf r a
  let paging ← planner.pagingOf r
  let conditions ← planner.pageConditions context r paging
  return layout paging conditions

/-- The source of a relation that is attached. -/
def sourceOf (a : Attachment γ) : Trace Source :=
  if r.isPaged then do
    let tables ← planner.pageOf context r a
    return { tables }
  else do
    let conditions ← planner.conditions context r
    return r.plainSource a conditions

/-! ## Pages by technique -/

theorem rootPage_eq : planner.rootPage context r = planner.pageOf context r .root := by
  rw [rootPage, pageOf, layoutOf]
  cases planner.dialect.paging <;> rfl

theorem joinedPage_eq (join : String) :
    planner.joinedPage context r join = planner.pageOf context r (.parent join) := by
  rw [joinedPage, pageOf, layoutOf]
  cases planner.dialect.paging <;> rfl

variable {r} {j : Junction γ} {keys : BatchKeys γ}

theorem joinedJunctionPage_eq (hj : r.junction = some j) (toJunction toChild : String) :
    planner.joinedJunctionPage context r toJunction toChild =
      planner.pageOf context r (.junction j toJunction toChild) := by
  rw [joinedJunctionPage, pageOf, layoutOf, hj]
  cases planner.dialect.paging <;> rfl

theorem batchedPage_eq (hkeys : r.batch = some keys) (scope : KeyScope) :
    planner.batchedPage context r scope = planner.pageOf context r (.keys keys scope) := by
  rw [batchedPage, pageOf, layoutOf, hkeys]
  cases planner.dialect.paging <;> rfl

theorem batchedJunctionPage_eq (hj : r.junction = some j) (hkeys : j.batch = some keys)
    (scope : KeyScope) (toChild : String) :
    planner.batchedJunctionPage context r scope toChild =
      planner.pageOf context r (.junctionKeys j keys scope toChild) := by
  -- the join of the relation is written behind the page of the junction in a step of its own
  have hbehind (layout : Layout) (more : List Fragment) :
      (do
        let page ← (do
          let paging ← planner.pagingOf r
          let conditions ← planner.pageConditions context r paging
          return layout paging conditions : Trace (List Fragment))
        return page ++ more : Trace (List Fragment)) =
      (do
        let paging ← planner.pagingOf r
        let conditions ← planner.pageConditions context r paging
        return layout paging conditions ++ more) := by
    simp only [Trace.bind_assoc]
    rfl
  rw [batchedJunctionPage, pageOf, layoutOf, hj]
  cases planner.dialect.paging with
  | unsupported => rfl
  | correlated style =>
    change (Trace.require j.batch _ >>= _) = _
    rw [hkeys]
    exact hbehind (.keyed style .left keys scope j.table j.label (r.extraJoin toChild)) _
  | union =>
    change (Trace.require j.batch _ >>= _) = _
    rw [hkeys]
    exact hbehind (.union keys scope j.table j.label (r.extraJoin toChild)) _

/-! ## Sources -/

variable (r) in
/-- **A source is put together** by attaching the relation and writing down what is attached. -/
theorem source_eq (position : Position γ) : planner.source context position r =
    planner.attach context r position >>= planner.sourceOf context r := by
  rw [source.eq_def, attach.eq_def]
  cases position with
  | root =>
    change planner.rootSource context r = planner.sourceOf context r .root
    rw [rootSource, rootPage_eq]
    rfl
  | joined parent =>
    cases hj : r.junction with
    | none =>
      simp only [directSource, joinedPage_eq, Trace.bind_assoc]
      rfl
    | some j =>
      simp only [junctionSource, planner.joinedJunctionPage_eq context hj, Trace.bind_assoc]
      rfl
  | batch scope =>
    cases hj : r.junction with
    | none =>
      cases hkeys : r.batch with
      | none =>
        simp only [directBatchSource, hkeys]
        rfl
      | some keys =>
        simp only [directBatchSource, hkeys, planner.batchedPage_eq context hkeys]
        rfl
    | some j =>
      cases hkeys : j.batch with
      | none =>
        simp only [junctionBatchSource, hkeys]
        rfl
      | some keys =>
        simp only [junctionBatchSource, hkeys, planner.batchedJunctionPage_eq context hj hkeys,
          Trace.bind_assoc]
        rfl

end Planner

/-! ## Sources that succeed -/

/-- The attachments that a relation comes to in a position if its links answer. -/
inductive Relation.Attaches (d : Dialect) (context : γ) (r : Relation γ) :
    Position γ → Attachment γ → Prop where
  /-- nothing is needed -/
  | root : Attaches d context r .root .root
  /-- by the join of the relation -/
  | parent {parent : Relation γ} {hook : JoinHook γ} {join : String} (hj : r.junction = none)
      (hhook : r.join = some hook)
      (hjoin : hook.run (d.quote parent.label) (d.quote r.label) r.args context = .ok join) :
      Attaches d context r (.joined parent) (.parent join)
  /-- by the joins of its junction -/
  | junction {parent : Relation γ} {j : Junction γ} {hooks : JoinHook γ × JoinHook γ}
      {toJunction toChild : String} (hj : r.junction = some j) (hhooks : j.joins = some hooks)
      (htoJunction : hooks.1.run (d.quote parent.label) (d.quote j.label) r.args context =
        .ok toJunction) :
      Attaches d context r (.joined parent) (.junction j toJunction toChild)
  /-- by its keys -/
  | keys {keys : BatchKeys γ} {scope : KeyScope} (hj : r.junction = none)
      (hkeys : r.batch = some keys) : Attaches d context r (.batch scope) (.keys keys scope)
  /-- by the keys of its junction -/
  | junctionKeys {j : Junction γ} {keys : BatchKeys γ} {scope : KeyScope} {toChild : String}
      (hj : r.junction = some j) (hkeys : j.batch = some keys) :
      Attaches d context r (.batch scope) (.junctionKeys j keys scope toChild)

/-- The sources that are written down for a relation that is attached. -/
inductive Planner.Writes (planner : Planner) (context : γ) (r : Relation γ) (a : Attachment γ) :
    Source → Prop where
  /-- pages, with all conditions inside -/
  | pages {layout : Layout} {paging : Paging} {filters : List Condition} (hpaged : r.isPaged = true)
      (hlayout : planner.dialect.paging.layout? r a = some layout)
      (hpaging : r.paging planner.settings = .ok paging)
      (hfilters : (planner.conditions context r).outcome = .ok filters) :
      Writes planner context r a { tables := layout paging (filters ++ paging.seekConditions) }
  /-- one piece -/
  | plain {filters : List Condition} (hpaged : r.isPaged = false)
      (hfilters : (planner.conditions context r).outcome = .ok filters) :
      Writes planner context r a (r.plainSource a filters)

namespace Planner

open Trace

variable {planner : Planner} {context : γ} {r : Relation γ}

/-- The value that is required is there. -/
theorem of_require_bind {α β : Type} {value? : Option α} {e : PlanError} {f : α → Trace β} {b : β}
    (h : (Trace.require value? e >>= f).outcome = .ok b) :
    ∃ a, value? = some a ∧ (f a).outcome = .ok b := by
  cases value? with
  | none => cases h
  | some a => exact ⟨a, rfl, h⟩

/-- A join that is asked has answered. -/
theorem of_askJoin_bind {β : Type} {slot : HookSlot} {parent child : String} {hook : JoinHook γ}
    {f : String → Trace β} {b : β}
    (h : (planner.askJoin context r slot parent child hook >>= f).outcome = .ok b) :
    ∃ sql, hook.run (planner.dialect.quote parent) (planner.dialect.quote child) r.args context =
      .ok sql ∧ (f sql).outcome = .ok b := by
  obtain ⟨sql, hsql, h⟩ := outcome_bind_eq_ok.mp h
  exact ⟨sql, mapError_eq_ok hsql, h⟩

theorem attaches_of_attach {position : Position γ} {a : Attachment γ}
    (h : (planner.attach context r position).outcome = .ok a) :
    r.Attaches planner.dialect context position a := by
  rw [attach.eq_def] at h
  split at h
  · cases h
    exact .root
  · next parent hj =>
    obtain ⟨hook, hhook, h⟩ := of_require_bind h
    obtain ⟨join, hjoin, h⟩ := of_askJoin_bind h
    cases h
    exact .parent hj hhook hjoin
  · next parent j hj =>
    obtain ⟨hooks, hhooks, h⟩ := of_require_bind h
    obtain ⟨toJunction, htoJunction, h⟩ := of_askJoin_bind h
    obtain ⟨toChild, -, h⟩ := of_askJoin_bind h
    cases h
    exact .junction hj hhooks htoJunction
  · next scope hj =>
    obtain ⟨keys, hkeys, h⟩ := of_require_bind h
    cases h
    exact .keys hj hkeys
  · next scope j hj =>
    obtain ⟨keys, hkeys, h⟩ := of_require_bind h
    obtain ⟨hook, -, h⟩ := of_require_bind h
    obtain ⟨toChild, -, h⟩ := of_askJoin_bind h
    cases h
    exact .junctionKeys hj hkeys

theorem writes_of_sourceOf {a : Attachment γ} {origin : Source}
    (h : (planner.sourceOf context r a).outcome = .ok origin) :
    planner.Writes context r a origin := by
  rw [sourceOf] at h
  split at h
  · next hpaged =>
    obtain ⟨tables, htables, h⟩ := outcome_bind_eq_ok.mp h
    cases h
    obtain ⟨layout, hlayout, htables⟩ := of_require_bind htables
    obtain ⟨paging, hpaging, htables⟩ := outcome_bind_eq_ok.mp htables
    obtain ⟨conditions, hconditions, htables⟩ := outcome_bind_eq_ok.mp htables
    cases htables
    obtain ⟨filters, hfilters, hconditions⟩ := outcome_bind_eq_ok.mp hconditions
    cases hconditions
    exact .pages hpaged hlayout hpaging hfilters
  · next hplain =>
    obtain ⟨filters, hfilters, h⟩ := outcome_bind_eq_ok.mp h
    cases h
    exact .plain (Bool.eq_false_iff.mpr hplain) hfilters

/-- **A source that succeeds** is that of a relation which is attached, and written down. -/
theorem exists_of_source {position : Position γ} {origin : Source}
    (h : (planner.source context position r).outcome = .ok origin) :
    ∃ a, r.Attaches planner.dialect context position a ∧ planner.Writes context r a origin := by
  rw [source_eq] at h
  obtain ⟨a, hattach, h⟩ := outcome_bind_eq_ok.mp h
  exact ⟨a, attaches_of_attach hattach, writes_of_sourceOf h⟩

end Planner

end RelationSql
