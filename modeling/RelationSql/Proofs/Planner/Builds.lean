import RelationSql.Planner.Build
import RelationSql.Proofs.Plan.Statements

/-!
# What is built

Sequences of computations, and the plans that statements are built from: on a valid plan the batched
statement of a relation, which is looked up by its alias, is the one built from the relation itself
(`buildBatch_eq`).
-/

namespace RelationSql

/-! ## Sequences -/

namespace Trace

variable {α β δ : Type}

theorem bind_assoc (m : Trace α) (f : α → Trace β) (g : β → Trace δ) :
    m >>= f >>= g = m >>= fun a => f a >>= g := by
  simp only [bind_eq]
  cases hm : m.outcome with
  | error e => rw [bind_error hm, bind_error hm, bind_error rfl]
  | ok a =>
    rw [bind_ok hm, bind_ok hm]
    cases hf : (f a).outcome with
    | error e => rw [bind_error rfl, bind_error hf]
    | ok b => rw [bind_ok rfl, bind_ok hf, List.append_assoc]

theorem bind_pure (m : Trace α) : m >>= pure = m := by
  rw [bind_eq]
  cases hm : m.outcome with
  | error e => rw [bind_error hm, ← hm]
  | ok a =>
    rw [bind_ok hm, pure_eq, List.append_nil, ← hm]

/-- A sequence fails as its first part does. -/
theorem outcome_bind_error {m : Trace α} {f : α → Trace β} {e : PlanError}
    (h : m.outcome = .error e) : (m >>= f).outcome = .error e := by
  rw [bind_eq, bind_error h]

/-- What comes second matters only for the results of the first part. -/
theorem bind_congr {m : Trace α} {f g : α → Trace β} (h : ∀ a, m.outcome = .ok a → f a = g a) :
    m >>= f = m >>= g := by
  simp only [bind_eq]
  cases hm : m.outcome with
  | error e => rw [bind_error hm, bind_error hm]
  | ok a => rw [bind_ok hm, bind_ok hm, h a hm]

/-! ## Quiet computations -/

/-- Nothing is handed to the database. -/
def Quiet (m : Trace α) : Prop := m.statements = []

/-- The statements of a sequence are those of its parts. -/
theorem statements_bind_ok {m : Trace α} {f : α → Trace β} {a : α} (h : m.outcome = .ok a) :
    (m >>= f).statements = m.statements ++ (f a).statements := by
  rw [bind_eq, bind_ok h, statements, List.filterMap_append]
  rfl

theorem statements_bind_error {m : Trace α} {f : α → Trace β} {e : PlanError}
    (h : m.outcome = .error e) : (m >>= f).statements = m.statements := by
  rw [bind_eq, bind_error h]
  rfl

namespace Quiet

theorem pure (a : α) : Quiet (pure a) := rfl

theorem fail (e : PlanError) : Quiet (fail e : Trace α) := rfl

theorem ofExcept (result : Except PlanError α) : Quiet (ofExcept result) := rfl

theorem require (value? : Option α) (e : PlanError) : Quiet (require value? e) := by
  cases value? <;> rfl

/-- A sequence of quiet parts is quiet. -/
theorem bind {m : Trace α} {f : α → Trace β} (hm : m.Quiet) (hf : ∀ a, (f a).Quiet) :
    (m >>= f).Quiet := by
  cases h : m.outcome with
  | error e => exact (statements_bind_error h).trans hm
  | ok a =>
    rw [Quiet, statements_bind_ok h, hm, hf a]
    rfl

end Quiet

end Trace

/-! ## Builds of valid plans -/

namespace Planner

open Trace

variable {γ : Type} (planner : Planner) (context : γ)

/-- A query names the deferred relations of its plan. -/
theorem deferred_of_queryAt {position : Position γ} {p : Plan γ} {query : Query}
    (h : (planner.queryAt context position p).outcome = .ok query) :
    query.deferred = p.deferrals.map Deferral.columns := by
  obtain ⟨statement, -, hquery⟩ := outcome_bind_eq_ok.mp h
  cases hquery
  rfl

/-- The batch of a relation of a plan, by how the query of the relation comes about. -/
def batchOf (p : Plan γ) (label : String) (scope : KeyScope) (query : Plan γ → Trace Query) :
    Trace Query := do
  validate p
  let found ← Trace.require (p.find? label) (.invalidPlan (.unknownAlias label))
  let relation := found.1.relation
  if !relation.isBatched then .fail (.invalidPlan (.notBatched relation.name))
  else if scope.isEmpty then .fail (.invalidArguments (.noParentKeys relation.name))
  else query found.1

section Valid

variable {root : Plan γ} (hvalid : root.validate = .ok ())
include hvalid

theorem build_eq : planner.build context root = planner.queryAt context .root root := by
  rw [build, validate, hvalid]
  rfl

/-- A batched relation is found by its alias; then only the keys are looked at. -/
theorem batchOf_found {q : Plan γ} (hq : q ∈ root.nodes) (hbatched : q.relation.isBatched = true)
    (scope : KeyScope) (query : Plan γ → Trace Query) :
    batchOf root q.relation.label scope query =
      if scope.isEmpty then .fail (.invalidArguments (.noParentKeys q.relation.name))
      else query q := by
  obtain ⟨parent?, hfound⟩ := Plan.find?_of_mem (Plan.labels_nodup hvalid) hq
  rw [batchOf, validate, hvalid, hfound]
  change (if (!q.relation.isBatched) = true then _ else _) = _
  rw [hbatched]
  rfl

theorem buildBatch_found {q : Plan γ} (hq : q ∈ root.nodes) (hbatched : q.relation.isBatched = true)
    (scope : KeyScope) : planner.buildBatch context root q.relation.label scope =
      if scope.isEmpty then .fail (.invalidArguments (.noParentKeys q.relation.name))
      else planner.queryAt context (.batch scope) q :=
  batchOf_found hvalid hq hbatched scope (planner.queryAt context (.batch scope))

/-- **The statement of a batched relation**, which is looked up by its alias, is built from the
relation itself. -/
theorem buildBatch_eq {q : Plan γ} (hq : q ∈ root.nodes) (hbatched : q.relation.isBatched = true)
    {scope : KeyScope} (hscope : scope.isEmpty = false) :
    planner.buildBatch context root q.relation.label scope =
      planner.queryAt context (.batch scope) q := by
  rw [buildBatch_found planner context hvalid hq hbatched, hscope]
  rfl

/-- Asked for an alias that no batched relation has, a build ends at once. -/
theorem buildBatch_eq_fail {label : String}
    (hlabel : ∀ q ∈ root.nodes, q.relation.isBatched = true → q.relation.label ≠ label)
    (scope : KeyScope) : ∃ e, planner.buildBatch context root label scope = .fail e := by
  rw [buildBatch, validate, hvalid]
  cases hfound : root.find? label with
  | none => exact ⟨_, rfl⟩
  | some found =>
    obtain ⟨hmem, hhas⟩ := Plan.mem_of_find? hfound
    have hjoined : found.1.relation.isBatched = false :=
      Bool.eq_false_iff.mpr fun hbatched => hlabel found.1 hmem hbatched hhas
    change ∃ e, (if (!found.1.relation.isBatched) = true then _ else _) = _
    rw [hjoined]
    exact ⟨_, rfl⟩

/-- **A batch that is built** is the one of a batched relation with the alias, for some keys. -/
theorem exists_of_buildBatch {label : String} {scope : KeyScope} {query : Query}
    (h : (planner.buildBatch context root label scope).outcome = .ok query) :
    ∃ q ∈ root.nodes, q.relation.label = label ∧ q.relation.isBatched = true ∧
      scope.isEmpty = false ∧ (planner.queryAt context (.batch scope) q).outcome = .ok query := by
  by_cases hfound : ∃ q ∈ root.nodes, q.relation.isBatched = true ∧ q.relation.label = label
  · obtain ⟨q, hq, hbatched, rfl⟩ := hfound
    rw [buildBatch_found planner context hvalid hq hbatched] at h
    split at h
    · cases h
    · next hscope => exact ⟨q, hq, rfl, hbatched, Bool.eq_false_iff.mpr hscope, h⟩
  · obtain ⟨e, he⟩ := buildBatch_eq_fail planner context hvalid
      (fun q hq hbatched hlabel => hfound ⟨q, hq, hbatched, hlabel⟩) scope
    rw [he] at h
    cases h

end Valid

end Planner

end RelationSql
