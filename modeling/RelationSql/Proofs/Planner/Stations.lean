import RelationSql.Proofs.Planner.Builds
import Mathlib.Data.List.Flatten

/-!
# The relations of a statement

A statement holds the joined part of a plan: its root and what is reached from it through relations
that are not batched. Here this part is a list of *stations*, parents before children and children
in declared order; a station is a relation at its place, with the batched relations that hang off
it. The statement is put together from what the stations contribute, one after the other, so that a
fact about statements is one about a list and not about a tree.

* `stations_sublist` — the stations are relations of the plan, in the order of the plan, so that in
  a valid plan they have different aliases;
* `deferrals_eq_stations` — what a statement defers hangs off its stations;
* `assemble_eq_gather` — the statement of a plan is gathered from its stations.
-/

namespace RelationSql

/-- A relation at its place in a statement. -/
structure Station (γ : Type) where
  /-- where it stands -/
  position : Position γ
  /-- the relation -/
  relation : Relation γ
  /-- the batched relations that hang off it -/
  batched : List (Deferral γ)

namespace Plan

variable {γ : Type}

mutual

/-- The joined part of a plan whose root stands in a position. -/
def stations (position : Position γ) : Plan γ → List (Station γ)
  | ⟨r, children⟩ => ⟨position, r, batchedAmong r children⟩ :: stationsBelow r children

/-- The joined parts of those plans below a relation that are joined to it. -/
def stationsBelow (parent : Relation γ) : List (Plan γ) → List (Station γ)
  | [] => []
  | p :: rest =>
    if p.relation.isBatched then stationsBelow parent rest
    else stations (.joined parent) p ++ stationsBelow parent rest

end

theorem stationsBelow_eq (parent : Relation γ) (children : List (Plan γ)) :
    stationsBelow parent children =
      (joinedAmong children).flatMap (stations (.joined parent)) := by
  induction children with
  | nil => rfl
  | cons c rest ih =>
    rw [stationsBelow]
    rcases among_cons parent c rest with ⟨-, hbatched, -, hjoins⟩ | ⟨hjoined, -, hjoins⟩
    · rw [if_pos hbatched, hjoins, ih]
    · rw [hjoined, if_neg Bool.false_ne_true, hjoins, List.flatMap_cons, ih]

theorem stations_eq (position : Position γ) (p : Plan γ) :
    p.stations position = ⟨position, p.relation, batchedAmong p.relation p.children⟩ ::
      (joinedAmong p.children).flatMap (stations (.joined p.relation)) := by
  cases p
  rw [stations, stationsBelow_eq]

/-- The root of a plan stands where it is put, and all other relations behind their parents. -/
theorem position_of_mem_stations {position : Position γ} {p : Plan γ} {s : Station γ}
    (hs : s ∈ p.stations position) :
    s.position = position ∨ ∃ parent, s.position = .joined parent := by
  induction p using rec_children generalizing position with
  | h r children ih =>
    rw [stations_eq] at hs
    rcases List.mem_cons.mp hs with rfl | hs
    · exact .inl rfl
    · obtain ⟨c, hc, hs⟩ := List.mem_flatMap.mp hs
      rcases ih c (mem_joinedAmong.mp hc).1 hs with hjoined | hjoined
      · exact .inr ⟨r, hjoined⟩
      · exact .inr hjoined

/-- **What a statement defers hangs off its stations**, in their order. -/
theorem deferrals_eq_stations (position : Position γ) (p : Plan γ) :
    p.deferrals = (p.stations position).flatMap Station.batched := by
  induction p using rec_children generalizing position with
  | h r children ih =>
    have hbelow : (joinedAmong children).flatMap deferrals = (joinedAmong children).flatMap
        fun c => (c.stations (.joined r)).flatMap Station.batched :=
      List.flatMap_congr fun c hc => ih c (mem_joinedAmong.mp hc).1 (.joined r)
    rw [deferrals_eq, stations_eq, List.flatMap_cons, List.flatMap_assoc, ← hbelow]

/-- **The stations are relations of the plan**, in the order of the plan. -/
theorem stations_sublist (position : Position γ) (p : Plan γ) :
    ((p.stations position).map Station.relation).Sublist (p.nodes.map Plan.relation) := by
  induction p using rec_children generalizing position with
  | h r children ih =>
    have hjoined : (joinedAmong children).Sublist children := List.filter_sublist
    have hbelow := (hjoined.flatMap fun c => (c.stations (.joined r)).map Station.relation).trans
      (List.Sublist.flatMap_right children fun c hc => ih c hc (.joined r))
    rw [stations_eq, nodes, descendants_eq, List.map_cons, List.map_cons, List.map_flatMap,
      List.map_flatMap]
    exact hbelow.cons_cons r

/-- **In a valid plan no two stations share an alias**, and no relation shares one with its
junction. -/
theorem nodup_aliases_stations {root p : Plan γ} (hvalid : root.validate = .ok ())
    (hp : p ∈ root.nodes) (position : Position γ) :
    ((p.stations position).flatMap fun s => s.relation.aliases).Nodup := by
  have hstations : ((p.stations position).flatMap fun s => s.relation.aliases).Sublist
      p.aliases := by
    have h := (p.stations_sublist position).flatMap Relation.aliases
    rwa [List.flatMap_map, List.flatMap_map] at h
  have hnodes : p.aliases.Sublist root.aliases := (nodes_sublist hp).flatMap _
  exact (aliases_nodup hvalid).sublist (hstations.trans hnodes)

theorem nodup_label_stations {root p : Plan γ} (hvalid : root.validate = .ok ())
    (hp : p ∈ root.nodes) (position : Position γ) :
    ((p.stations position).map fun s => s.relation.label).Nodup := by
  have hstations := (p.stations_sublist position).map Relation.label
  have hnodes : p.labels.Sublist root.labels := (nodes_sublist hp).map _
  rw [List.map_map, List.map_map] at hstations
  exact (labels_nodup hvalid).sublist (hstations.trans hnodes)

end Plan

/-! ## Gathering -/

namespace Statement

theorem append_assoc (s t u : Statement) : s ++ t ++ u = s ++ (t ++ u) := by
  change Statement.append (Statement.append s t) u = Statement.append s (Statement.append t u)
  simp only [Statement.append, List.append_assoc]

end Statement

namespace Trace

variable {α : Type}

/-- The parts of a statement that come from the members of a list, one after the other. -/
def collect (f : α → Trace Statement) : List α → Trace Statement
  | [] => pure {}
  | a :: as => do
    let first ← f a
    let others ← collect f as
    return first ++ others

theorem collect_append (f : α → Trace Statement) (as bs : List α) :
    collect f (as ++ bs) = (do
      let first ← collect f as
      let others ← collect f bs
      return first ++ others) := by
  induction as with
  | nil =>
    change _ = collect f bs >>= pure
    rw [bind_pure]
    rfl
  | cons a as ih =>
    rw [List.cons_append, collect, collect, ih]
    simp only [bind_assoc]
    congr 1
    funext own
    congr 1
    funext first
    change (collect f bs >>= fun others => pure (own ++ (first ++ others))) =
      collect f bs >>= fun others => pure (own ++ first ++ others)
    simp only [Statement.append_assoc]

end Trace

namespace Planner

variable {γ : Type} (planner : Planner) (context : γ)

/-- The contributions of some stations, one after the other. -/
def gather : List (Station γ) → Trace Statement
  | [] => pure {}
  | s :: rest => do
    let own ← planner.contribution context s.position s.relation s.batched
    let others ← gather rest
    return own ++ others

theorem gather_eq_collect (ss : List (Station γ)) : planner.gather context ss =
    Trace.collect (fun s => planner.contribution context s.position s.relation s.batched) ss := by
  induction ss with
  | nil => rfl
  | cons s rest ih => rw [gather, Trace.collect, ih]

theorem gather_append (ss ts : List (Station γ)) :
    planner.gather context (ss ++ ts) = (do
      let first ← planner.gather context ss
      let others ← planner.gather context ts
      return first ++ others) := by
  simp only [gather_eq_collect, Trace.collect_append]

/-- **The statement of a plan is gathered from its stations.** -/
theorem assemble_eq_gather (position : Position γ) (p : Plan γ) :
    planner.assemble context position p = planner.gather context (p.stations position) := by
  induction p using Plan.rec_children generalizing position with
  | h r children ih =>
    have hbelow : planner.assembleBelow context r children =
        planner.gather context (Plan.stationsBelow r children) := by
      induction children with
      | nil => rfl
      | cons c rest ihrest =>
        have hrest := ihrest fun c hc => ih c (List.mem_cons_of_mem _ hc)
        rw [assembleBelow, Plan.stationsBelow]
        split
        · exact hrest
        · rw [gather_append, ih c List.mem_cons_self, hrest]
    rw [assemble, Plan.stations, gather, hbelow]

theorem gather_of_statementAt {position : Position γ} {p : Plan γ} {statement : Statement}
    (h : (planner.statementAt context position p).outcome = .ok statement) :
    (planner.gather context (p.stations position)).outcome = .ok statement := by
  obtain ⟨gathered, hgathered, h⟩ := Trace.outcome_bind_eq_ok.mp h
  rw [assemble_eq_gather] at hgathered
  split at h
  · cases h
  · cases h
    exact hgathered

end Planner

end RelationSql
