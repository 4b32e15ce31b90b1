import RelationSql.Dialect.Builtin
import RelationSql.Proofs.Planner.Backends
import RelationSql.Proofs.Planner.KeyColumns
import RelationSql.Proofs.Planner.Renaming
import RelationSql.Proofs.Planner.Sources

/-!
# Statements without pages

A statement without pages depends on its database through three things: how identifiers are quoted,
how key columns are joined into one expression, and how values are written. The name of the
database, its limit for all rows and its way to fetch pages play no part, wherever in a plan
something would have occasion to look at them; so backends with the same three words build the same
statements for it.

* `Dialect.SameWords` — dialects that agree on the three, and `Statement.toSql_congr` on texts;
* `source_congr` — the source of a relation without pages is the same for such dialects;
* `queryAt_of_unpaginated` — a backend builds as a planner with its words does;
* `unpaginated_builds_agree` — so backends agree.
-/

namespace RelationSql

variable {γ : Type}

/-! ## Words -/

/-- Two dialects have the same words. -/
structure Dialect.SameWords (d d' : Dialect) : Prop where
  /-- identifiers are quoted alike -/
  quote_eq : d.quote = d'.quote
  /-- key columns are joined alike -/
  compositeKey_eq : d.compositeKey = d'.compositeKey
  /-- values are written alike -/
  literal_eq : d.literal = d'.literal

section Words

variable {d d' : Dialect} (h : d.SameWords d')
include h

/-- The name, the limit for all rows and the way to fetch pages are all that can differ. -/
theorem Dialect.SameWords.eq : d' =
    { d with name := d'.name, unlimited := d'.unlimited, paging := d'.paging } := by
  obtain ⟨hquote, hcompositeKey, hliteral⟩ := h
  cases d'
  simp [hquote, hcompositeKey, hliteral]

theorem Selection.toSql_congr (x : Selection) : x.toSql d = x.toSql d' := by
  rw [h.eq]
  rfl

theorem Condition.toSql_congr (c : Condition) : c.toSql d = c.toSql d' := by
  rw [h.eq]
  rfl

/-- Only the text of a subselect depends on more than the words. -/
theorem Fragment.toSql_congr {fragment : Fragment} (hselects : fragment.selects = []) :
    fragment.toSql d = fragment.toSql d' := by
  rw [h.eq]
  cases fragment with
  | base table label => rfl
  | leftJoin table label condition => rfl
  | childJoin word table label condition => rfl
  | page style select => cases hselects
  | correlatedPage style kind condition select => cases hselects
  | keys style parentKey scope => rfl
  | union label members =>
    obtain rfl : members = [] := hselects
    rfl

/-- **The text of a statement without subselects depends on words only.** -/
theorem Statement.toSql_congr {s : Statement} (hselects : s.tables.flatMap Fragment.selects = []) :
    s.toSql d = s.toSql d' := by
  have hselections : s.selections.map (Selection.toSql d) = s.selections.map (Selection.toSql d') :=
    List.map_congr_left fun x _ => Selection.toSql_congr h x
  have hconditions : s.conditions.map (Condition.toSql d) = s.conditions.map (Condition.toSql d') :=
    List.map_congr_left fun c _ => Condition.toSql_congr h c
  have htables : (s.tables.map fun table => "\n" ++ table.toSql d) =
      s.tables.map fun table => "\n" ++ table.toSql d' := by
    refine List.map_congr_left fun table htable => ?_
    rw [Fragment.toSql_congr h (List.flatMap_eq_nil_iff.mp hselects table htable)]
  rw [toSql, toSql, hselections, htables, hconditions, h.quote_eq]

end Words

/-! ## Relations without pages -/

namespace Planner

open Trace

section Congr

variable {planner planner' : Planner} (h : planner.dialect.SameWords planner'.dialect) (context : γ)
include h

theorem askJoin_congr (r : Relation γ) (slot : HookSlot) (parent child : String)
    (hook : JoinHook γ) : planner.askJoin context r slot parent child hook =
      planner'.askJoin context r slot parent child hook := by
  rw [askJoin, askJoin, h.quote_eq]

theorem filterConditions_congr (r : Relation γ) (slot : HookSlot) (label : String)
    (hook? : Option (FilterHook γ)) : planner.filterConditions context r slot label hook? =
      planner'.filterConditions context r slot label hook? := by
  cases hook? with
  | none => rfl
  | some hook => rw [filterConditions, filterConditions, askFilter, askFilter, h.quote_eq]

theorem conditions_congr (r : Relation γ) :
    planner.conditions context r = planner'.conditions context r := by
  have hjunction : planner.junctionConditions context r =
      planner'.junctionConditions context r := by
    rw [junctionConditions, junctionConditions]
    cases r.junction with
    | none => rfl
    | some j => exact filterConditions_congr h context r _ _ _
  rw [conditions, conditions, hjunction, filterConditions_congr h]

theorem attach_congr (r : Relation γ) (position : Position γ) :
    planner.attach context r position = planner'.attach context r position := by
  rw [attach.eq_def, attach.eq_def]
  cases position with
  | root => rfl
  | joined parent | batch scope => simp only [askJoin_congr h]

/-- **The source of a relation without pages depends on words only.** -/
theorem source_congr {r : Relation γ} (hpaged : r.isPaged = false) (position : Position γ) :
    planner.source context position r = planner'.source context position r := by
  rw [source_eq, source_eq, attach_congr h]
  refine Trace.bind_congr fun a _ => ?_
  rw [sourceOf, sourceOf, hpaged, if_neg Bool.false_ne_true, if_neg Bool.false_ne_true,
    conditions_congr h]

end Congr

end Planner

/-! ## Plans without pages -/

/-- No relation of the joined part is paginated. -/
def Plan.Unpaginated (p : Plan γ) : Prop := ∀ q ∈ p.joinedPart, q.relation.paginate = false

theorem Relation.isPaged_of_not_paginate {r : Relation γ} (h : r.paginate = false) :
    r.isPaged = false := by
  simp [isPaged, pagingMode?, h]

namespace Plan.Unpaginated

variable {p : Plan γ} (h : p.Unpaginated)
include h

theorem isPaged : p.relation.isPaged = false := by
  refine Relation.isPaged_of_not_paginate (h p ?_)
  rw [joinedPart_eq]
  exact List.mem_cons_self

theorem of_joined {c : Plan γ} (hc : c ∈ joinedAmong p.children) : c.Unpaginated := by
  intro q hq
  refine h q ?_
  rw [joinedPart_eq]
  exact List.mem_cons_of_mem _ (List.mem_flatMap.mpr ⟨c, hc, hq⟩)

theorem isPaged_of_mem_stations {position : Position γ} {s : Station γ}
    (hs : s ∈ p.stations position) : s.relation.isPaged = false := by
  have hmem := List.mem_map_of_mem (f := fun s => (s.relation, s.batched)) hs
  rw [p.map_stations_eq position] at hmem
  obtain ⟨q, hq, hrelation⟩ := List.mem_map.mp hmem
  rw [← (Prod.mk.inj hrelation).1]
  exact Relation.isPaged_of_not_paginate (h q hq)

end Plan.Unpaginated

namespace Planner

open Trace

variable {planner planner' : Planner} (context : γ)

theorem gather_of_unpaged {ss : List (Station γ)}
    (h : planner.dialect.SameWords planner'.dialect)
    (hpaged : ∀ s ∈ ss, s.relation.isPaged = false) :
    planner.gather context ss = planner'.gather context ss := by
  induction ss with
  | nil => rfl
  | cons s rest ih =>
    have hsource := source_congr h context (hpaged s List.mem_cons_self) s.position
    rw [gather, gather, contribution, contribution, hsource,
      ih fun s hs => hpaged s (List.mem_cons_of_mem _ hs)]

/-- What relations without pages contribute has no subselects. -/
theorem selects_of_gather {ss : List (Station γ)} {statement : Statement}
    (hpaged : ∀ s ∈ ss, s.relation.isPaged = false)
    (hgather : (planner.gather context ss).outcome = .ok statement) :
    statement.tables.flatMap Fragment.selects = [] := by
  induction ss generalizing statement with
  | nil =>
    cases hgather
    rfl
  | cons s rest ih =>
    obtain ⟨own, hown, hgather⟩ := outcome_bind_eq_ok.mp hgather
    obtain ⟨others, hothers, hgather⟩ := outcome_bind_eq_ok.mp hgather
    cases hgather
    have hrest := ih (fun s hs => hpaged s (List.mem_cons_of_mem _ hs)) hothers
    obtain ⟨selections, origin, order?, -, horigin, -, rfl⟩ := contribution_eq_ok hown
    rw [Statement.tables_append, List.flatMap_append, hrest, List.append_nil]
    cases sourced_of_source horigin with
    | plain _ hplain => exact hplain.selects_eq
    | paged hpaged' _ _ =>
      rw [hpaged s List.mem_cons_self] at hpaged'
      cases hpaged'

/-- **The query of a plan without pages depends on words only.** -/
theorem queryAt_congr_words {p : Plan γ} (h : planner.dialect.SameWords planner'.dialect)
    (hp : p.Unpaginated) (position : Position γ) :
    planner.queryAt context position p = planner'.queryAt context position p := by
  have hgather : planner.gather context (p.stations position) =
      planner'.gather context (p.stations position) :=
    gather_of_unpaged context h fun _ => hp.isPaged_of_mem_stations
  rw [queryAt, queryAt, statementAt, statementAt, assemble_eq_gather, assemble_eq_gather, ← hgather]
  refine Trace.bind_congr fun statement hstatement => ?_
  obtain ⟨gathered, hgathered, hstatement⟩ := outcome_bind_eq_ok.mp hstatement
  have hselects := selects_of_gather context (fun s => hp.isPaged_of_mem_stations) hgathered
  split at hstatement
  · cases hstatement
  · cases hstatement
    rw [Statement.toSql_congr h hselects]

end Planner

theorem Steady.ne_unsupported {α : Type} {result : Except PlanError α} (h : Steady result)
    (name : String) (technique : Technique) :
    result ≠ .error (.unsupportedPagination name technique) := by
  rintro rfl
  have hname (other : String) : other = name := by
    have herror := Except.error.inj (h other)
    exact (PlanError.unsupportedPagination.inj herror).1
  exact absurd ((hname "a").trans (hname "b").symm) (by decide)

/-- **A plan without pages is never refused**: a refusal would name the dialect, whose name plays no
part. -/
theorem Planner.queryAt_steady (planner : Planner) (context : γ) {p : Plan γ} (hp : p.Unpaginated)
    (position : Position γ) : Steady (planner.queryAt context position p).outcome := by
  intro name
  have hwords : planner.dialect.SameWords (planner.renamed name).dialect := ⟨rfl, rfl, rfl⟩
  have hrenamed := planner.queryAt_renamed name context position p
  rw [← queryAt_congr_words context hwords hp position] at hrenamed
  exact (congrArg Trace.outcome hrenamed).symm

/-! ## Backends -/

namespace Backend

open Trace

variable (b : Backend γ) (settings : PageSettings) (context : γ)

section Unpaged

variable {p : Plan γ} (hpaged : p.relation.isPaged = false)
include hpaged

/-- Without a page the way to fetch it plays no part. -/
theorem pageOr_of_unpaged (parent? : Option (Plan γ)) (link : PageLink)
    (plain : List Condition → Source) : b.pageOr settings context parent? p link plain =
      b.dialect.backend.pageOr settings context parent? p link plain := by
  rw [pageOr, pageOr, hpaged, if_neg Bool.false_ne_true, if_neg Bool.false_ne_true]
  rfl

theorem source_of_unpaged (parent? : Option (Plan γ)) (position : Position γ) :
    b.source settings context parent? position p =
      b.dialect.backend.source settings context parent? position p := by
  have hpageOr := b.pageOr_of_unpaged settings context hpaged parent?
  rw [source.eq_def, source.eq_def]
  dsimp only
  cases position with
  | root => exact hpageOr _ _
  | joined parent =>
    cases p.relation.junction with
    | none => exact Trace.bind_congr fun hook _ => Trace.bind_congr fun join _ => hpageOr _ _
    | some j =>
      exact Trace.bind_congr fun hooks _ => Trace.bind_congr fun toJunction _ =>
        Trace.bind_congr fun toChild _ => hpageOr _ _
  | batch scope =>
    cases p.relation.junction with
    | none => exact Trace.bind_congr fun keys _ => hpageOr _ _
    | some j =>
      exact Trace.bind_congr fun keys _ => Trace.bind_congr fun hook _ =>
        Trace.bind_congr fun toChild _ => hpageOr _ _

theorem contribution_of_unpaged (parent? : Option (Plan γ)) (position : Position γ) :
    b.contribution settings context parent? position p =
      b.dialect.backend.contribution settings context parent? position p := by
  rw [contribution, contribution, source_of_unpaged b settings context hpaged]
  rfl

end Unpaged

theorem assemble_of_unpaginated {p : Plan γ} (hp : p.Unpaginated) (parent? : Option (Plan γ))
    (position : Position γ) : b.assemble settings context parent? position p =
      b.dialect.backend.assemble settings context parent? position p := by
  induction p using Plan.rec_children generalizing parent? position with
  | h r children ih =>
    have hbelow (below : List (Plan γ)) (hsub : below ⊆ children) :
        b.assembleBelow settings context ⟨r, children⟩ below =
          b.dialect.backend.assembleBelow settings context ⟨r, children⟩ below := by
      induction below with
      | nil => rfl
      | cons c rest ihrest =>
        have hrest := ihrest (List.subset_of_cons_subset hsub)
        have hmem := hsub List.mem_cons_self
        rw [assembleBelow, assembleBelow]
        split
        · exact hrest
        · next hjoined =>
          have hc : c ∈ Plan.joinedAmong children :=
            Plan.mem_joinedAmong.mpr ⟨hmem, Bool.eq_false_iff.mpr hjoined⟩
          rw [ih c hmem (hp.of_joined hc), hrest]
    rw [assemble, assemble, contribution_of_unpaged b settings context hp.isPaged,
      hbelow children (List.Subset.refl _)]

/-- **A backend builds a plan without pages as a planner with its words does.** -/
theorem queryAt_of_unpaginated {p : Plan γ} (hp : p.Unpaginated) (parent? : Option (Plan γ))
    (position : Position γ) : b.queryAt settings context parent? position p =
      (b.planner settings).queryAt context position p := by
  rw [Planner.queryAt_eq_backend _ context parent?, queryAt, queryAt,
    assemble_of_unpaginated b settings context hp]
  rfl

section Valid

variable {root : Plan γ} (hvalid : root.validate = .ok ())
include hvalid

theorem build_of_unpaginated (hroot : root.Unpaginated) :
    b.build settings context root = (b.planner settings).queryAt context .root root := by
  rw [build, b.queryAt_of_unpaginated settings context hroot, Planner.validate, hvalid]
  rfl

/-- A batched relation is found by its alias; then only the keys are looked at. -/
theorem buildBatch_of_unpaginated {p : Plan γ} (hp : p ∈ root.nodes)
    (hbatched : p.relation.isBatched = true) (hunpaginated : p.Unpaginated) (scope : KeyScope) :
    b.buildBatch settings context root p.relation.label scope =
      if scope.isEmpty then .fail (.invalidArguments (.noParentKeys p.relation.name))
      else (b.planner settings).queryAt context (.batch scope) p := by
  obtain ⟨parent?, hfound⟩ := Plan.find?_of_mem (Plan.labels_nodup hvalid) hp
  rw [buildBatch, Planner.validate, hvalid, hfound,
    ← b.queryAt_of_unpaginated settings context hunpaginated parent?]
  change (if (!p.relation.isBatched) = true then _ else _) = _
  rw [hbatched]
  rfl

end Valid

/-- Two backends agree on the statements of a plan that have no pages, and refuse none of them. -/
structure AgreeWithoutPages (b b' : Backend γ) (settings settings' : PageSettings) (context : γ)
    (root : Plan γ) : Prop where
  /-- the plan is not refused -/
  build_ne : root.Unpaginated → ∀ name technique,
    (b.build settings context root).outcome ≠ .error (.unsupportedPagination name technique)
  /-- it is built alike, and the same hooks are asked for it -/
  build_eq : root.Unpaginated → b.build settings context root = b'.build settings' context root
  /-- a batched relation is not refused -/
  buildBatch_ne : ∀ p ∈ root.nodes, p.relation.isBatched = true → p.Unpaginated →
    ∀ (scope : KeyScope) (name : String) (technique : Technique),
      (b.buildBatch settings context root p.relation.label scope).outcome ≠
        .error (.unsupportedPagination name technique)
  /-- it is built alike as well -/
  buildBatch_eq : ∀ p ∈ root.nodes, p.relation.isBatched = true → p.Unpaginated →
    ∀ scope : KeyScope, b.buildBatch settings context root p.relation.label scope =
      b'.buildBatch settings' context root p.relation.label scope

variable {b}

theorem agreeWithoutPages {b' : Backend γ} (hwords : b.dialect.SameWords b'.dialect)
    (settings settings' : PageSettings) (context : γ) {root : Plan γ}
    (hvalid : root.validate = .ok ()) :
    b.AgreeWithoutPages b' settings settings' context root := by
  have hqueries {p : Plan γ} (hp : p.Unpaginated) (position : Position γ) :
      (b.planner settings).queryAt context position p =
        (b'.planner settings').queryAt context position p :=
    Planner.queryAt_congr_words context hwords hp position
  have hsteady {p : Plan γ} (hp : p.Unpaginated) (position : Position γ) :
      Steady ((b.planner settings).queryAt context position p).outcome :=
    Planner.queryAt_steady _ context hp position
  refine ⟨fun hroot name technique => ?_, fun hroot => ?_,
    fun p hp hbatched hunpaginated scope name technique => ?_,
    fun p hp hbatched hunpaginated scope => ?_⟩
  · rw [b.build_of_unpaginated settings context hvalid hroot]
    exact (hsteady hroot .root).ne_unsupported name technique
  · rw [b.build_of_unpaginated settings context hvalid hroot,
      b'.build_of_unpaginated settings' context hvalid hroot, hqueries hroot]
  · rw [b.buildBatch_of_unpaginated settings context hvalid hp hbatched hunpaginated]
    split
    · intro hrefused
      cases hrefused
    · exact (hsteady hunpaginated _).ne_unsupported name technique
  · rw [b.buildBatch_of_unpaginated settings context hvalid hp hbatched hunpaginated,
      b'.buildBatch_of_unpaginated settings' context hvalid hp hbatched hunpaginated,
      hqueries hunpaginated]

/-- **Plans without pages work everywhere and alike.** Backends with the same words agree on the
statements of a valid plan that have no pages, and refuse none of them. The planners are such
backends; so those for MySQL, for MySQL 8 and for MariaDB agree. -/
theorem unpaginated_builds_agree (b b' : Backend γ) (hwords : b.dialect.SameWords b'.dialect)
    (settings settings' : PageSettings) (context : γ) {root : Plan γ}
    (hvalid : root.validate = .ok ()) :
    b.AgreeWithoutPages b' settings settings' context root ∧
    (∀ planner : Planner,
      planner.build context root = planner.dialect.backend.build planner.settings context root ∧
      ∀ (label : String) (scope : KeyScope), planner.buildBatch context root label scope =
        planner.dialect.backend.buildBatch planner.settings context root label scope) ∧
    ∀ d ∈ [Dialect.mysql8, Dialect.mariadb],
      (root.Unpaginated → Planner.build ⟨d, settings⟩ context root =
        Planner.build ⟨.mysql, settings⟩ context root) ∧
      ∀ p ∈ root.nodes, p.relation.isBatched = true → p.Unpaginated → ∀ scope : KeyScope,
        Planner.buildBatch ⟨d, settings⟩ context root p.relation.label scope =
          Planner.buildBatch ⟨.mysql, settings⟩ context root p.relation.label scope := by
  refine ⟨agreeWithoutPages hwords settings settings' context hvalid, fun planner => ?_,
    fun d hd => ?_⟩
  · exact ⟨planner.build_eq_backend context root, planner.buildBatch_eq_backend context root⟩
  · have hmysql : d.SameWords .mysql := by
      rcases List.mem_pair.mp hd with rfl | rfl
      · exact ⟨rfl, rfl, rfl⟩
      · exact ⟨rfl, rfl, rfl⟩
    have hagree : d.backend.AgreeWithoutPages Dialect.mysql.backend settings settings context
        root := agreeWithoutPages hmysql settings settings context hvalid
    refine ⟨fun hroot => ?_, fun p hp hbatched hunpaginated scope => ?_⟩
    · rw [Planner.build_eq_backend, Planner.build_eq_backend]
      exact hagree.build_eq hroot
    · rw [Planner.buildBatch_eq_backend, Planner.buildBatch_eq_backend]
      exact hagree.buildBatch_eq p hp hbatched hunpaginated scope

/-- A database with the words of MySQL, but another limit, that fetches no pages whatsoever. -/
def pageless : Backend Unit where
  dialect := { Dialect.mysql with name := "pageless", unlimited := "ALL" }
  page := fun _ => .fail (.unsupportedPagination "pageless" .root)

/-- Teams with their members, whose goals come in batches, and with pages of their matches. -/
def teams : Plan Unit where
  relation := {
    name := "teams", table := "teams", label := "t", uniqueKey := ["league", "name"]
    filter := some ⟨fun table _ _ => .ok (some s!"{table}.active")⟩ }
  children := [
    { relation := {
        name := "members", table := "persons", label := "p", columns := [⟨"name", "name"⟩]
        orderBy := some [⟨"name", .asc⟩]
        junction := some {
          table := "contracts", label := "c"
          joins := some (⟨fun parent child _ _ => .ok s!"{parent}.id = {child}.team"⟩,
            ⟨fun parent child _ _ => .ok s!"{parent}.person = {child}.id"⟩) } }
      children := [
        { relation := {
            name := "goals", table := "goals", label := "g", uniqueKey := ["id"]
            batch := some { thisKey := "person", parentKey := "id" } } }] },
    { relation := {
        name := "matches", table := "matches", label := "m", uniqueKey := ["id"], paginate := true
        sortKey := some [⟨"id", .desc⟩]
        batch := some { thisKey := "team", parentKey := "id" } } }]

/-- The matches have pages but are fetched on their own, so that the teams can be fetched without
any; the goals can be as well. -/
theorem teams_agree_without_pages :
    teams.validate = .ok () ∧ teams.Unpaginated ∧
    (∃ query, (pageless.build {} () teams).outcome = .ok query ∧
      (Dialect.mariadb.backend.build {} () teams).outcome = .ok query) ∧
    pageless.AgreeWithoutPages Dialect.mariadb.backend {} {} () teams := by
  have hvalid : teams.validate = .ok () := rfl
  have hunpaginated : teams.Unpaginated := by
    rintro q (_ | ⟨_, _ | ⟨_, ⟨⟩⟩⟩)
    · rfl
    · rfl
  obtain ⟨hagree, -⟩ := unpaginated_builds_agree pageless Dialect.mariadb.backend ⟨rfl, rfl, rfl⟩ {}
    {} () hvalid
  refine ⟨hvalid, hunpaginated, ⟨_, rfl, ?_⟩, hagree⟩
  rw [← hagree.build_eq hunpaginated]
  rfl

end Backend

end RelationSql
