import RelationSql.Dialect.Builtin
import RelationSql.Execution
import RelationSql.Proofs.Planner.Composition
import RelationSql.Proofs.Planner.Stations

/-!
# Dialects that differ in name

The name of a dialect stands in one kind of error, the one for a page that the dialect cannot fetch,
and nowhere else. So a planner under another name asks the same hooks, hands the same statements to
the database and comes to the same result; where it fails for want of a page, the error has the
other name in it.

* `Trace.reportedBy` — a computation with another name in its errors, and `Trace.reports_bind` for
  sequences;
* `Steady` — results whose errors name no dialect, as those of reading pages and orders are;
* `queryAt_renamed`, `run_renamed` — what a planner does under another name;
* `mysql8_reports_as_mariadb` — the two built-in dialects of which this is the whole difference.
-/

namespace RelationSql

/-! ## Errors under another name -/

/-- The error as a dialect with the given name reports it. -/
def PlanError.reportedBy (name : String) : PlanError → PlanError
  | .unsupportedPagination _ technique => .unsupportedPagination name technique
  | e => e

/-- The computation with errors as a dialect with the given name reports them. -/
def Trace.reportedBy {α : Type} (name : String) (m : Trace α) : Trace α where
  events := m.events
  outcome := m.outcome.mapError (.reportedBy name)

/-- The error, if there is one, names no dialect. -/
def Steady {α : Type} (result : Except PlanError α) : Prop :=
  ∀ name, result.mapError (.reportedBy name) = result

namespace Steady

variable {α β : Type}

theorem ok (a : α) : Steady (.ok a) := fun _ => rfl

theorem invalidPlan (fault : PlanFault) :
    Steady (.error (.invalidPlan fault) : Except PlanError α) :=
  fun _ => rfl

/-- Errors of another kind name no dialect. -/
theorem mapError {ε : Type} {kind : ε → PlanError}
    (hkind : ∀ e name, (kind e).reportedBy name = kind e) (result : Except ε α) :
    Steady (result.mapError kind) := by
  intro name
  cases result with
  | ok a => rfl
  | error e => exact congrArg Except.error (hkind e name)

theorem bind {result : Except PlanError α} {f : α → Except PlanError β} (hresult : Steady result)
    (hf : ∀ a, Steady (f a)) : Steady (result >>= f) := by
  cases result with
  | ok a => exact hf a
  | error e => exact fun name => congrArg Except.error (Except.error.inj (hresult name))

theorem map {result : Except PlanError α} (f : α → β) (hresult : Steady result) :
    Steady (result.map f) := by
  cases result with
  | ok a => exact ok (f a)
  | error e => exact fun name => congrArg Except.error (Except.error.inj (hresult name))

end Steady

namespace Trace

variable {α β : Type} {name : String}

/-- A sequence is reported as its parts are. -/
theorem reports_bind {m m' : Trace α} {f f' : α → Trace β} (hm : m' = m.reportedBy name)
    (hf : ∀ a, f' a = (f a).reportedBy name) : m' >>= f' = (m >>= f).reportedBy name := by
  subst hm
  obtain ⟨events, outcome⟩ := m
  cases outcome with
  | error e => rfl
  | ok a =>
    change Trace.mk (events ++ (f' a).events) (f' a).outcome = _
    rw [hf a]
    rfl

theorem reports_ofExcept {result : Except PlanError α} (h : Steady result) :
    ofExcept result = (ofExcept result).reportedBy name := by
  rw [reportedBy]
  exact congrArg (Trace.mk []) (h name).symm

/-- What happens outside is reported in the same way if its failure names no dialect. -/
theorem reports_happen {event : Event} {result : Except PlanError α} (h : Steady result) :
    happen event result = (happen event result).reportedBy name := by
  rw [reportedBy]
  exact congrArg (Trace.mk [event]) (h name).symm

theorem reports_require {value? : Option α} {fault : PlanFault} :
    require value? (.invalidPlan fault) =
      (require value? (.invalidPlan fault)).reportedBy name := by
  cases value? <;> rfl

end Trace

/-! ## Orders and pages -/

namespace Relation

variable {γ : Type} (r : Relation γ)

theorem requireSortKey_steady : Steady r.requireSortKey := by
  rw [requireSortKey]
  split
  · exact .ok _
  · exact .invalidPlan _

theorem offsetOrder_steady : Steady r.offsetOrder := by
  rw [offsetOrder]
  split
  · exact .ok _
  · split
    · exact .invalidPlan _
    · exact .ok _

theorem pageArgs_steady : Steady r.pageArgs := .mapError (fun _ _ => rfl) _

theorem pagingOrder_steady : Steady r.pagingOrder := by
  rw [pagingOrder]
  split
  · exact r.offsetOrder_steady
  · exact .bind r.requireSortKey_steady fun _ => .bind r.pageArgs_steady fun _ => .ok _
  · exact .invalidPlan _

theorem keysetPaging_steady (settings : PageSettings) : Steady (r.keysetPaging settings) := by
  refine .bind r.pageArgs_steady fun args => .bind r.requireSortKey_steady fun sortKey => ?_
  split
  · exact .invalidPlan _
  · exact .bind (.mapError (fun _ _ => rfl) _) fun request =>
      .bind (.mapError (fun _ _ => rfl) _) fun seek => .ok _

theorem offsetPaging_steady (settings : PageSettings) : Steady (r.offsetPaging settings) := by
  refine .bind r.pageArgs_steady fun args => ?_
  split
  · exact fun _ => rfl
  · exact .bind r.offsetOrder_steady fun order =>
      .bind (.mapError (fun _ _ => rfl) _) fun skipped => .ok _

/-- **Reading a page names no dialect.** -/
theorem paging_steady (settings : PageSettings) : Steady (r.paging settings) := by
  rw [paging]
  split
  · exact .map _ (r.keysetPaging_steady settings)
  · exact .map _ (r.offsetPaging_steady settings)
  · exact .invalidPlan _

theorem selections_steady (position : Position γ) : Steady (r.selections position) := by
  refine .bind ?_ fun _ => .ok _
  rw [pageSelections]
  split
  · exact .ok _
  · exact .ok _
  · exact .map _ r.pagingOrder_steady

theorem outerOrder_steady : Steady r.outerOrder := by
  rw [outerOrder]
  split
  · exact .map _ r.pagingOrder_steady
  · exact .ok _

end Relation

/-! ## Planners under another name -/

/-- The dialect under another name. -/
def Dialect.renamed (d : Dialect) (name : String) : Dialect := { d with name }

/-- The text of a statement does not depend on the name of the dialect. -/
theorem Statement.toSql_renamed (d : Dialect) (name : String) (statement : Statement) :
    statement.toSql (d.renamed name) = statement.toSql d := rfl

namespace Planner

open Trace

/-- The planner for the dialect under another name. -/
def renamed (planner : Planner) (name : String) : Planner :=
  { planner with dialect := planner.dialect.renamed name }

variable {γ : Type} (planner : Planner) (name : String) (context : γ) (r : Relation γ)

theorem paging_renamed : (planner.renamed name).dialect.paging = planner.dialect.paging := rfl

theorem askJoin_renamed (slot : HookSlot) (parent child : String) (hook : JoinHook γ) :
    (planner.renamed name).askJoin context r slot parent child hook =
      (planner.askJoin context r slot parent child hook).reportedBy name :=
  reports_happen (.mapError (fun _ _ => rfl) _)

theorem filterConditions_renamed (slot : HookSlot) (label : String)
    (hook? : Option (FilterHook γ)) :
    (planner.renamed name).filterConditions context r slot label hook? =
      (planner.filterConditions context r slot label hook?).reportedBy name := by
  cases hook? with
  | none => rfl
  | some hook => exact reports_bind (reports_happen (.mapError (fun _ _ => rfl) _)) fun _ => rfl

theorem conditions_renamed : (planner.renamed name).conditions context r =
    (planner.conditions context r).reportedBy name := by
  refine reports_bind ?_ fun _ =>
    reports_bind (planner.filterConditions_renamed name context r _ _ _) fun _ => rfl
  rw [junctionConditions, junctionConditions]
  cases r.junction with
  | none => rfl
  | some j => exact planner.filterConditions_renamed name context r _ _ _

theorem attach_renamed (position : Position γ) : (planner.renamed name).attach context r position =
    (planner.attach context r position).reportedBy name := by
  rw [attach.eq_def, attach.eq_def]
  cases position with
  | root => rfl
  | joined parent =>
    cases r.junction with
    | none =>
      exact reports_bind reports_require fun hook =>
        reports_bind (planner.askJoin_renamed name context r _ _ _ hook) fun _ => rfl
    | some j =>
      exact reports_bind reports_require fun hooks =>
        reports_bind (planner.askJoin_renamed name context r _ _ _ hooks.1) fun toJunction =>
          reports_bind (planner.askJoin_renamed name context r _ _ _ hooks.2) fun _ => rfl
  | batch scope =>
    cases r.junction with
    | none => exact reports_bind reports_require fun _ => rfl
    | some j =>
      exact reports_bind reports_require fun _ => reports_bind reports_require fun hook =>
        reports_bind (planner.askJoin_renamed name context r _ _ _ hook.2) fun _ => rfl

/-- The name stands in the error for a layout that the dialect does not have. -/
theorem layoutOf_renamed (a : Attachment γ) : (planner.renamed name).layoutOf r a =
    (planner.layoutOf r a).reportedBy name := by
  rw [layoutOf, layoutOf, paging_renamed]
  cases planner.dialect.paging.layout? r a <;> rfl

theorem sourceOf_renamed (a : Attachment γ) : (planner.renamed name).sourceOf context r a =
    (planner.sourceOf context r a).reportedBy name := by
  have hconditions := planner.conditions_renamed name context r
  rw [sourceOf, sourceOf]
  split
  · exact reports_bind (reports_bind (planner.layoutOf_renamed name r a) fun _ =>
      reports_bind (reports_ofExcept (r.paging_steady _)) fun _ =>
        reports_bind (reports_bind hconditions fun _ => rfl) fun _ => rfl) fun _ => rfl
  · exact reports_bind hconditions fun _ => rfl

/-- **The source of a relation** is the same under another name. -/
theorem source_renamed (position : Position γ) : (planner.renamed name).source context position r =
    (planner.source context position r).reportedBy name := by
  rw [source_eq, source_eq]
  exact reports_bind (planner.attach_renamed name context r position)
    (planner.sourceOf_renamed name context r)

/-- What stations contribute is the same under another name. -/
theorem gather_renamed (ss : List (Station γ)) : (planner.renamed name).gather context ss =
    (planner.gather context ss).reportedBy name := by
  induction ss with
  | nil => rfl
  | cons s rest ih =>
    have hown : (planner.renamed name).contribution context s.position s.relation s.batched =
        (planner.contribution context s.position s.relation s.batched).reportedBy name :=
      reports_bind (reports_ofExcept (s.relation.selections_steady _)) fun _ =>
        reports_bind (planner.source_renamed name context s.relation s.position) fun _ =>
          reports_bind (reports_ofExcept s.relation.outerOrder_steady) fun _ => rfl
    exact reports_bind hown fun _ => reports_bind ih fun _ => rfl

/-- **The query of a plan** is the same under another name. -/
theorem queryAt_renamed (position : Position γ) (p : Plan γ) :
    (planner.renamed name).queryAt context position p =
      (planner.queryAt context position p).reportedBy name := by
  have hassemble : (planner.renamed name).assemble context position p =
      (planner.assemble context position p).reportedBy name := by
    rw [assemble_eq_gather, assemble_eq_gather, gather_renamed]
  refine reports_bind (reports_bind hassemble fun statement => ?_) fun statement => ?_
  · split <;> rfl
  · change pure (Query.mk (statement.toSql (planner.dialect.renamed name)) _) = _
    rw [Statement.toSql_renamed]
    rfl

theorem build_renamed (p : Plan γ) : (planner.renamed name).build context p =
    (planner.build context p).reportedBy name :=
  reports_bind (reports_ofExcept (.mapError (fun _ _ => rfl) _)) fun _ =>
    planner.queryAt_renamed name context .root p

theorem buildBatch_renamed (p : Plan γ) (label : String) (scope : KeyScope) :
    (planner.renamed name).buildBatch context p label scope =
      (planner.buildBatch context p label scope).reportedBy name := by
  refine reports_bind (reports_ofExcept (.mapError (fun _ _ => rfl) _)) fun _ =>
    reports_bind reports_require fun found => ?_
  dsimp only
  split
  · rfl
  · split
    · rfl
    · exact planner.queryAt_renamed name context (.batch scope) found.1

/-- The relations of a queue are fetched in the same way under another name: the statements are the
same, so the answers are, and with them the keys of what is fetched next. -/
theorem runQueue_renamed (database : Database) (before : List String) (queue : List (Pending γ)) :
    (planner.renamed name).runQueue context database before queue =
      (planner.runQueue context database before queue).reportedBy name := by
  induction before, queue using runQueue.induct with
  | case1 before => rw [runQueue, runQueue]; rfl
  | case2 before p queue hscope ih => rw [runQueue, runQueue, if_pos hscope, if_pos hscope, ih]
  | case3 before p queue hscope ih =>
    rw [runQueue, runQueue, if_neg hscope, if_neg hscope]
    exact reports_bind (planner.queryAt_renamed name context _ _) fun query =>
      reports_bind (reports_happen (.mapError (fun _ _ => rfl) _)) fun rows =>
        reports_bind (ih query rows) fun _ => rfl

/-- **A run is the same under another name.** -/
theorem run_renamed (database : Database) (p : Plan γ) :
    (planner.renamed name).run context database p =
      (planner.run context database p).reportedBy name :=
  reports_bind (planner.build_renamed name context p) fun _ =>
    reports_bind (reports_happen (.mapError (fun _ _ => rfl) _)) fun _ =>
      reports_bind (planner.runQueue_renamed name context database _ _) fun _ => rfl

/-- **MySQL 8 reports as MariaDB does.** On any plan, valid or not, builds and runs for the two ask
the same hooks, hand the same statements to the database and end in the same way; only the error for
a page that cannot be fetched has another name in it. -/
theorem mysql8_reports_as_mariadb (settings : PageSettings) (p : Plan γ) :
    build ⟨.mysql8, settings⟩ context p =
      (build ⟨.mariadb, settings⟩ context p).reportedBy "mysql8" ∧
    (∀ (label : String) (scope : KeyScope),
      buildBatch ⟨.mysql8, settings⟩ context p label scope =
        (buildBatch ⟨.mariadb, settings⟩ context p label scope).reportedBy "mysql8") ∧
    ∀ database : Database,
      run ⟨.mysql8, settings⟩ context database p =
        (run ⟨.mariadb, settings⟩ context database p).reportedBy "mysql8" := by
  have hname : Planner.mk .mysql8 settings = renamed ⟨.mariadb, settings⟩ "mysql8" := rfl
  rw [hname]
  refine ⟨build_renamed _ _ context p, fun label scope => ?_, fun database => ?_⟩
  · exact buildBatch_renamed _ _ context p label scope
  · exact run_renamed _ _ context database p

end Planner

end RelationSql
