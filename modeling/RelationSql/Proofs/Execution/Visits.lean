import RelationSql.Execution
import RelationSql.Proofs.Planner.Asking
import Mathlib.Data.List.Induction

/-!
# The visits of a run

A run that succeeds *visits* relations: it takes them from the queue one by one, skips those whose
parents hold no key, and fetches the others, which puts what they defer at the end of the queue.

* `exists_visits` — a successful run is a list of visits;
* `Serves.origin` — a visited relation was in the queue, or was deferred by another visit;
* `Serves.queue_served`, `Serves.deferred_served` — of those, every one that has keys is visited;
* `Serves.sublist_breadthFirst` — visits go level by level.
-/

namespace RelationSql

/-! ## Keys -/

/-- The scalars that rows hold in a result column, in the order of the rows. -/
def Row.scalarsIn (rows : List Row) (column : String) : List Scalar :=
  rows.filterMap fun row => (row.get? column).bind Scalar.ofRowValue?

namespace KeyScope

theorem ofList_concat (keys : List Scalar) (key : Scalar) :
    ofList (keys ++ [key]) = (ofList keys).push key := by
  rw [ofList, List.foldl_append]
  rfl

/-- **The scope of a list** has its keys but nulls, each at its first place. -/
theorem keys_ofList (keys : List Scalar) :
    (ofList keys).keys = (keys.filter fun key => key ≠ .null).eraseDups := by
  induction keys using List.reverseRecOn with
  | nil => rfl
  | append_singleton keys key ih =>
    rw [ofList_concat, keys_push, ih, List.filter_append, List.eraseDups_append]
    by_cases hnull : key = .null
    · rw [if_neg fun h => h.1 hnull, hnull]
      exact (List.append_nil _).symm
    · have hsingle : [key].filter (fun key => key ≠ .null) = [key] := by simp [hnull]
      rw [hsingle, List.cons_removeAll, List.nil_removeAll]
      by_cases hmem : key ∈ keys.filter fun key => key ≠ .null
      · rw [if_neg fun h => h.2 (List.mem_eraseDups.mpr hmem),
          if_neg (by rw [List.contains_iff_mem.mpr hmem]; exact Bool.false_ne_true.symm)]
        exact (List.append_nil _).symm
      · rw [if_pos ⟨hnull, fun h => hmem (List.mem_eraseDups.mp h)⟩,
          if_pos (Bool.eq_false_iff.mpr fun h => hmem (List.contains_iff_mem.mp h))]
        rfl

/-- A scope is empty if there is nothing but nulls. -/
theorem isEmpty_ofList {keys : List Scalar} :
    (ofList keys).isEmpty = false ↔ ∃ key ∈ keys, key ≠ .null := by
  rw [isEmpty, List.isEmpty_eq_false_iff_exists_mem]
  simp only [keys_ofList, List.mem_eraseDups, List.mem_filter, decide_eq_true_eq]

end KeyScope

/-! ## Visits -/

/-- A relation that was fetched. -/
structure Visit (γ : Type) where
  /-- the relation and the rows of its parent -/
  pending : Pending γ
  /-- its statement -/
  sql : String
  /-- its rows -/
  rows : List Row

namespace Visit

variable {γ : Type}

/-- The relation with what lies below it. -/
def plan (v : Visit γ) : Plan γ := v.pending.deferral.plan

/-- What is reported of a visit. -/
def result (v : Visit γ) : BatchResult := ⟨v.pending.deferral.columns, v.sql, v.rows⟩

end Visit

theorem Pending.mem_ofPlan {γ : Type} {p : Plan γ} {rows : List Row} {q : Pending γ} :
    q ∈ ofPlan p rows ↔ ∃ d ∈ p.deferrals, q = ⟨d, rows⟩ := by
  simp only [ofPlan, List.mem_map, eq_comm]

theorem Pending.map_deferral_ofPlan {γ : Type} (p : Plan γ) (rows : List Row) :
    (ofPlan p rows).map deferral = p.deferrals := by
  rw [ofPlan, List.map_map]
  exact List.map_id _

namespace Planner

variable {γ : Type} {planner : Planner} {context : γ} {database : Database}

/-- After some statements, the relations of a queue are served by some visits. -/
inductive Serves (planner : Planner) (context : γ) (database : Database) :
    List String → List (Pending γ) → List (Visit γ) → Prop where
  /-- nothing waits -/
  | nil (before : List String) : Serves planner context database before [] []
  /-- the parents of the first relation hold no key -/
  | skip {before : List String} {p : Pending γ} {queue : List (Pending γ)}
      {visits : List (Visit γ)} (hscope : p.scope.isEmpty = true)
      (hrest : Serves planner context database before queue visits) :
      Serves planner context database before (p :: queue) visits
  /-- the first relation is fetched for the keys of its parents -/
  | visit {before : List String} {p : Pending γ} {queue : List (Pending γ)}
      {visits : List (Visit γ)} {query : Query} {rows : List Row}
      (hscope : p.scope.isEmpty = false)
      (hquery : (planner.queryAt context (.batch p.scope) p.deferral.plan).outcome = .ok query)
      (hrows : database (before ++ [query.sql]) = .ok rows)
      (hrest : Serves planner context database (before ++ [query.sql])
        (queue ++ Pending.ofPlan p.deferral.plan rows) visits) :
      Serves planner context database before (p :: queue) (⟨p, query.sql, rows⟩ :: visits)

theorem outcome_execute {before : List String} {sql : String} {rows : List Row} :
    (execute database before sql).outcome = .ok rows ↔ database (before ++ [sql]) = .ok rows := by
  rw [execute, Trace.happen]
  cases database (before ++ [sql]) <;> simp [Except.mapError]

theorem statements_execute (before : List String) (sql : String) :
    (execute database before sql).statements = [sql] := rfl

/-- **A queue that is run to its end is served by visits.** -/
theorem exists_serves (before : List String) (queue : List (Pending γ)) :
    ∀ {results : List BatchResult},
      (planner.runQueue context database before queue).outcome = .ok results →
      ∃ visits, Serves planner context database before queue visits ∧
        results = visits.map Visit.result ∧
        (planner.runQueue context database before queue).statements = visits.map Visit.sql := by
  induction before, queue using runQueue.induct with
  | case1 before =>
    intro results h
    rw [runQueue] at h ⊢
    cases h
    exact ⟨[], .nil before, rfl, rfl⟩
  | case2 before p queue hscope ih =>
    intro results h
    rw [runQueue, if_pos hscope] at h ⊢
    obtain ⟨visits, hserves, hresults, hstatements⟩ := ih h
    exact ⟨visits, .skip hscope hserves, hresults, hstatements⟩
  | case3 before p queue hscope ih =>
    intro results h
    rw [runQueue, if_neg hscope] at h ⊢
    obtain ⟨query, hquery, h⟩ := Trace.outcome_bind_eq_ok.mp h
    obtain ⟨rows, hrows, h⟩ := Trace.outcome_bind_eq_ok.mp h
    obtain ⟨rest, hrest, h⟩ := Trace.outcome_bind_eq_ok.mp h
    cases h
    obtain ⟨visits, hserves, hresults, hstatements⟩ := ih query rows hrest
    refine ⟨⟨p, query.sql, rows⟩ :: visits, ?_, ?_, ?_⟩
    · exact .visit (Bool.eq_false_iff.mpr hscope) hquery (outcome_execute.mp hrows) hserves
    · rw [List.map_cons, hresults]
      rfl
    · rw [Trace.statements_bind_ok hquery, Trace.statements_bind_ok hrows,
        Trace.statements_bind_ok hrest, hstatements, planner.queryAt_quiet, statements_execute,
        Trace.Quiet.pure, List.append_nil]
      rfl

/-- **A run that succeeds** has fetched the rows of the plan and visited what it defers. -/
theorem exists_visits {p : Plan γ} {e : Execution}
    (h : (planner.run context database p).outcome = .ok e) :
    ∃ query visits, (planner.build context p).outcome = .ok query ∧ e.sql = query.sql ∧
      database [e.sql] = .ok e.rows ∧
      Serves planner context database [e.sql] (Pending.ofPlan p e.rows) visits ∧
      e.batches = visits.map Visit.result ∧
      (planner.run context database p).statements = e.sql :: visits.map Visit.sql := by
  obtain ⟨query, hquery, h⟩ := Trace.outcome_bind_eq_ok.mp h
  obtain ⟨rows, hrows, h⟩ := Trace.outcome_bind_eq_ok.mp h
  obtain ⟨batches, hbatches, h⟩ := Trace.outcome_bind_eq_ok.mp h
  cases h
  obtain ⟨visits, hserves, hresults, hstatements⟩ := exists_serves _ _ hbatches
  refine ⟨query, visits, hquery, rfl, outcome_execute.mp hrows, hserves, hresults, ?_⟩
  rw [run, Trace.statements_bind_ok hquery, Trace.statements_bind_ok hrows,
    Trace.statements_bind_ok hbatches, hstatements, planner.build_quiet, statements_execute,
    Trace.Quiet.pure, List.append_nil]
  rfl

/-! ## Where visits come from, and where they lead -/

namespace Serves

variable {before : List String} {queue : List (Pending γ)} {visits : List (Visit γ)}

/-- A visit is of a relation with keys, and its statement is built for them. -/
theorem built (h : Serves planner context database before queue visits) {v : Visit γ}
    (hv : v ∈ visits) : v.pending.scope.isEmpty = false ∧ ∃ query,
      (planner.queryAt context (.batch v.pending.scope) v.plan).outcome = .ok query ∧
      v.sql = query.sql := by
  induction h with
  | nil => cases hv
  | skip hscope hrest ih => exact ih hv
  | visit hscope hquery hrows hrest ih =>
    rcases List.mem_cons.mp hv with rfl | hv
    · exact ⟨hscope, _, hquery, rfl⟩
    · exact ih hv

/-- **A visited relation** was in the queue, or was deferred by another visit. -/
theorem origin (h : Serves planner context database before queue visits) {v : Visit γ}
    (hv : v ∈ visits) : v.pending ∈ queue ∨
      ∃ u ∈ visits, ∃ d ∈ u.plan.deferrals, v.pending = ⟨d, u.rows⟩ := by
  induction h with
  | nil => cases hv
  | skip hscope hrest ih => exact (ih hv).imp_left (List.mem_cons_of_mem _)
  | visit hscope hquery hrows hrest ih =>
    rcases List.mem_cons.mp hv with rfl | hv
    · exact .inl List.mem_cons_self
    · rcases ih hv with hqueue | ⟨u, hu, hfrom⟩
      · rcases List.mem_append.mp hqueue with hqueue | hnew
        · exact .inl (List.mem_cons_of_mem _ hqueue)
        · exact .inr ⟨_, List.mem_cons_self, Pending.mem_ofPlan.mp hnew⟩
      · exact .inr ⟨u, List.mem_cons_of_mem _ hu, hfrom⟩

/-- **What waits and has keys is visited.** -/
theorem queue_served (h : Serves planner context database before queue visits) {p : Pending γ}
    (hp : p ∈ queue) (hkeys : p.scope.isEmpty = false) : ∃ v ∈ visits, v.pending = p := by
  induction h with
  | nil => cases hp
  | skip hscope hrest ih =>
    rcases List.mem_cons.mp hp with rfl | hp
    · rw [hscope] at hkeys
      cases hkeys
    · exact ih hp
  | visit hscope hquery hrows hrest ih =>
    rcases List.mem_cons.mp hp with rfl | hp
    · exact ⟨_, List.mem_cons_self, rfl⟩
    · obtain ⟨v, hv, hpending⟩ := ih (List.mem_append_left _ hp)
      exact ⟨v, List.mem_cons_of_mem _ hv, hpending⟩

/-- **What a visit defers and has keys is visited.** -/
theorem deferred_served (h : Serves planner context database before queue visits) {u : Visit γ}
    (hu : u ∈ visits) {d : Deferral γ} (hd : d ∈ u.plan.deferrals)
    (hkeys : (Pending.mk d u.rows).scope.isEmpty = false) :
    ∃ v ∈ visits, v.pending = ⟨d, u.rows⟩ := by
  induction h with
  | nil => cases hu
  | skip hscope hrest ih => exact ih hu
  | visit hscope hquery hrows hrest ih =>
    rcases List.mem_cons.mp hu with rfl | hu
    · obtain ⟨v, hv, hpending⟩ := hrest.queue_served
        (List.mem_append_right _ (Pending.mem_ofPlan.mpr ⟨d, hd, rfl⟩)) hkeys
      exact ⟨v, List.mem_cons_of_mem _ hv, hpending⟩
    · obtain ⟨v, hv, hpending⟩ := ih hu
      exact ⟨v, List.mem_cons_of_mem _ hv, hpending⟩

/-- The rows of a visit are the answer to its statement, which comes after those before it. -/
theorem answered (h : Serves planner context database before queue visits) {k : Nat} {v : Visit γ}
    (hv : visits[k]? = some v) :
    database (before ++ (visits.take (k + 1)).map Visit.sql) = .ok v.rows := by
  induction h generalizing k with
  | nil => cases hv
  | skip hscope hrest ih => exact ih hv
  | visit hscope hquery hrows hrest ih =>
    cases k with
    | zero =>
      cases hv
      exact hrows
    | succ k =>
      rw [List.take_succ_cons, List.map_cons, List.append_cons]
      exact ih hv

/-- **Visits start statements of the plan** that the queue comes from. -/
theorem home {root : Plan γ} (h : Serves planner context database before queue visits)
    (hqueue : ∀ p ∈ queue, root.Home p.deferral.plan p.deferral.plan) {v : Visit γ}
    (hv : v ∈ visits) : root.Home v.plan v.plan := by
  induction h with
  | nil => cases hv
  | skip hscope hrest ih => exact ih (fun p hp => hqueue p (List.mem_cons_of_mem _ hp)) hv
  | @visit before p queue visits query rows hscope hquery hrows hrest ih =>
    have hp := hqueue p List.mem_cons_self
    rcases List.mem_cons.mp hv with rfl | hv
    · exact hp
    · refine ih (fun q hq => ?_) hv
      rcases List.mem_append.mp hq with hq | hnew
      · exact hqueue q (List.mem_cons_of_mem _ hq)
      · obtain ⟨d, hd, rfl⟩ := Pending.mem_ofPlan.mp hnew
        exact Plan.home_of_mem_deferrals hp hd

/-! ## The order of visits -/

/-- It is enough to look at queues whose first relation belongs to the current level: once a level
is done the next one takes its place. -/
theorem sublist_of_cons {ds vs : List (Deferral γ)} (hds : ds ≠ [])
    (h : ∀ {d level next}, ds = d :: (level ++ next) →
      vs.Sublist (d :: level ++ Plan.breadthFirst (next ++ Plan.nextLevel (d :: level))))
    {level next : List (Deferral γ)} (hcut : ds = level ++ next) :
    vs.Sublist (level ++ Plan.breadthFirst (next ++ Plan.nextLevel level)) := by
  cases level with
  | cons d level => exact h hcut
  | nil =>
    rw [List.nil_append] at hcut
    obtain ⟨d, next', rfl⟩ : ∃ d next', next = d :: next' :=
      List.exists_cons_of_ne_nil (hcut ▸ hds)
    have hnext := h (hcut.trans (by rw [List.append_nil]))
    rw [List.nil_append, ← Plan.breadthFirst_eq] at hnext
    rw [Plan.nextLevel, List.flatMap_nil, List.append_nil]
    exact hnext

/-- Visits go level by level. The queue holds the rest of one level and what the visits of this
level have deferred so far, which is the start of the next one. -/
theorem sublist_levels (h : Serves planner context database before queue visits) :
    ∀ {level next : List (Deferral γ)}, queue.map Pending.deferral = level ++ next →
      (visits.map fun v => v.pending.deferral).Sublist
        (level ++ Plan.breadthFirst (next ++ Plan.nextLevel level)) := by
  induction h with
  | nil => exact fun _ => List.nil_sublist _
  | skip hscope hrest ih =>
    refine sublist_of_cons (List.cons_ne_nil _ _) fun {d level next} hcut => ?_
    obtain ⟨-, hqueue⟩ := List.cons.inj hcut
    -- what a skipped relation defers is never visited, so the next level only gets shorter
    refine (ih hqueue).trans ((List.sublist_cons_self d level).append ?_)
    refine Plan.breadthFirst_sublist ((List.Sublist.refl next).append ?_)
    exact List.sublist_append_right d.plan.deferrals (Plan.nextLevel level)
  | @visit before p queue visits query rows hscope hquery hrows hrest ih =>
    refine sublist_of_cons (List.cons_ne_nil _ _) fun {d level next} hcut => ?_
    obtain ⟨rfl, hqueue⟩ := List.cons.inj hcut
    have hgrown : (queue ++ Pending.ofPlan p.deferral.plan rows).map Pending.deferral =
        level ++ (next ++ p.deferral.plan.deferrals) := by
      rw [List.map_append, hqueue, Pending.map_deferral_ofPlan, List.append_assoc]
    have hlater := ih hgrown
    rw [List.append_assoc] at hlater
    exact hlater.cons_cons _

/-- **Visits are in breadth-first order.** -/
theorem sublist_breadthFirst {p : Plan γ} {rows : List Row}
    (h : Serves planner context database before (Pending.ofPlan p rows) visits) :
    (visits.map fun v => v.pending.deferral).Sublist (Plan.breadthFirst p.deferrals) := by
  have hlevels := h.sublist_levels
    ((Pending.map_deferral_ofPlan p rows).trans (List.append_nil _).symm)
  rw [List.nil_append, ← Plan.breadthFirst_eq] at hlevels
  exact hlevels

end Serves

end Planner

end RelationSql
