import RelationSql.Proofs.Execution.Coverage
import Mathlib.Data.List.Forall2

/-!
# Runs as rounds

A run as a loop over plain data: the queue holds for each waiting relation its columns and the
number of the batch whose rows hold its keys, and every round takes the first one, looks its alias
up in the plan and fetches it. This loop is the run (`run_eq_rounds`), because on a valid plan an
alias is found where it was deferred and a number stays that of the same batch. It ends: a round
takes one of the batched relations that are left, so that there are no more rounds than batched
relations below the root, whatever rows the database answers with.
-/

namespace RelationSql

/-! ## Rounds -/

/-- A run between two rounds. -/
structure Progress where
  /-- the statement of the plan -/
  sql : String
  /-- its rows -/
  rows : List Row
  /-- the relations that were fetched -/
  batches : List BatchResult
  /-- the relations that wait, each with the number of the batch whose rows hold its keys; without a
  number these are the rows of the plan -/
  queue : List (Deferred × Option Nat)

namespace Progress

/-- The statements so far. -/
def statements (s : Progress) : List String := s.sql :: s.batches.map BatchResult.sql

/-- The rows of a batch, or of the plan. -/
def parents (s : Progress) : Option Nat → List Row
  | none => s.rows
  | some k => (s.batches[k]?.map BatchResult.rows).getD []

/-- The keys of a waiting relation. -/
def scope (s : Progress) (entry : Deferred × Option Nat) : KeyScope :=
  .ofList (Row.scalarsIn (s.parents entry.2) entry.1.parentKeyColumn)

/-- The run after a relation was fetched. -/
def fetched (s : Progress) (entry : Deferred × Option Nat) (rest : List (Deferred × Option Nat))
    (query : Query) (rows : List Row) : Progress where
  sql := s.sql
  rows := s.rows
  batches := s.batches ++ [⟨entry.1, query.sql, rows⟩]
  queue := rest ++ query.deferred.map fun d => (d, some s.batches.length)

/-- The result of a run. -/
def execution (s : Progress) : Execution := ⟨s.sql, s.rows, s.batches⟩

theorem statements_fetched (s : Progress) (entry : Deferred × Option Nat)
    (rest : List (Deferred × Option Nat)) (query : Query) (rows : List Row) :
    (s.fetched entry rest query rows).statements = s.statements ++ [query.sql] := by
  rw [statements, fetched, List.map_append]
  rfl

end Progress

namespace Planner

variable {γ : Type} (planner : Planner) (context : γ) (database : Database)

/-- Before the first round the statement of the plan is executed. -/
def start (root : Plan γ) : Trace Progress := do
  let query ← planner.build context root
  let rows ← execute database [] query.sql
  return ⟨query.sql, rows, [], query.deferred.map fun d => (d, none)⟩

/-- One round: the first of the waiting relations is skipped if it has no keys, and else fetched. -/
def round (root : Plan γ) (s : Progress) : Trace Progress :=
  match s.queue with
  | [] => pure s
  | entry :: rest =>
    if (s.scope entry).isEmpty then pure { s with queue := rest }
    else do
      let query ← planner.buildBatch context root entry.1.label (s.scope entry)
      let rows ← execute database s.statements query.sql
      return s.fetched entry rest query rows

/-- Some rounds, one after the other. -/
def loop (root : Plan γ) : Nat → Progress → Trace Progress
  | 0, s => pure s
  | n + 1, s => do
    let s ← planner.round context database root s
    loop root n s

/-- A run up to the end of a round. -/
def rounds (root : Plan γ) (n : Nat) : Trace Progress := do
  let s ← planner.start context database root
  planner.loop context database root n s

variable {planner context database} {root : Plan γ}

theorem loop_add (m n : Nat) (s : Progress) : planner.loop context database root (m + n) s =
    planner.loop context database root m s >>= planner.loop context database root n := by
  induction m generalizing s with
  | zero =>
    rw [Nat.zero_add]
    rfl
  | succ m ih =>
    rw [Nat.succ_add, loop, loop, Trace.bind_assoc]
    exact Trace.bind_congr fun s' _ => ih s'

theorem rounds_add (m n : Nat) : planner.rounds context database root (m + n) =
    planner.rounds context database root m >>= planner.loop context database root n := by
  rw [rounds, rounds, Trace.bind_assoc]
  exact Trace.bind_congr fun s _ => loop_add m n s

/-! ## What waits -/

/-- An entry of the queue stands for a relation of the plan and the rows of its parent. -/
structure Stands (root : Plan γ) (s : Progress) (entry : Deferred × Option Nat) (p : Pending γ) :
    Prop where
  /-- the columns are those of the relation -/
  columns : entry.1 = p.deferral.columns
  /-- the number leads to the rows of the parent -/
  parents : s.parents entry.2 = p.parents
  /-- it is the number of a batch -/
  number : ∀ k, entry.2 = some k → k < s.batches.length
  /-- the relation is a batched one of the plan -/
  batched : p.deferral.plan ∈ root.batchedBelow

/-- The queue stands for relations of the plan, in the same order. -/
def Waits (root : Plan γ) (s : Progress) (queue : List (Pending γ)) : Prop :=
  List.Forall₂ (Stands root s) s.queue queue

/-- The number of batched relations that are not yet taken. -/
def remaining (queue : List (Pending γ)) : Nat :=
  (queue.flatMap fun p => Plan.deferredNodes p.deferral).length

theorem remaining_cons (p : Pending γ) (queue : List (Pending γ)) :
    remaining (p :: queue) = p.deferral.plan.batchedBelow.length + 1 + remaining queue := by
  rw [remaining, List.flatMap_cons, List.length_append, Plan.deferredNodes, List.length_cons,
    remaining]

theorem remaining_append (queue more : List (Pending γ)) :
    remaining (queue ++ more) = remaining queue + remaining more := by
  rw [remaining, List.flatMap_append, List.length_append, remaining, remaining]

theorem remaining_ofPlan (p : Plan γ) (rows : List Row) :
    remaining (Pending.ofPlan p rows) = p.batchedBelow.length := by
  rw [(Plan.batchedBelow_perm p).length_eq, remaining, Pending.ofPlan, List.flatMap_map]

namespace Stands

variable {s : Progress} {entry : Deferred × Option Nat} {p : Pending γ}

theorem scope_eq (h : Stands root s entry p) : s.scope entry = p.scope := by
  rw [Progress.scope, h.columns, h.parents]
  rfl

/-- A batch keeps its number when others are added. -/
theorem fetched (h : Stands root s entry p) (first : Deferred × Option Nat)
    (rest : List (Deferred × Option Nat)) (query : Query) (rows : List Row) :
    Stands root (s.fetched first rest query rows) entry p where
  columns := h.columns
  parents := by
    rw [← h.parents]
    cases hnumber : entry.2 with
    | none => rfl
    | some k =>
      -- batches are added at the end only
      rw [Progress.parents, Progress.fetched, List.getElem?_append_left (h.number k hnumber)]
      rfl
  number := by
    intro k hk
    have := h.number k hk
    rw [Progress.fetched, List.length_append]
    omega
  batched := h.batched

end Stands

theorem waits_start (hvalid : root.validate = .ok ()) {query : Query} (rows : List Row)
    (hquery : (planner.build context root).outcome = .ok query) :
    Waits root ⟨query.sql, rows, [], query.deferred.map fun d => (d, none)⟩
      (Pending.ofPlan root rows) := by
  rw [planner.build_eq context hvalid] at hquery
  rw [Waits, planner.deferred_of_queryAt context hquery, Pending.ofPlan, List.map_map,
    List.forall₂_map_left_iff, List.forall₂_map_right_iff, List.forall₂_same]
  intro d hd
  refine ⟨rfl, rfl, ?_, Plan.mem_batchedBelow_of_mem_deferrals hd⟩
  intro k hk
  cases hk

section Round

variable {s : Progress} {entry : Deferred × Option Nat} {rest : List (Deferred × Option Nat)}
  {p : Pending γ} {queue : List (Pending γ)}

/-- **A round skips a relation without keys.** -/
theorem round_skip (hqueue : s.queue = entry :: rest) (hfirst : Stands root s entry p)
    (hscope : p.scope.isEmpty = true) :
    planner.round context database root s = pure { s with queue := rest } := by
  rw [round, hqueue]
  exact if_pos (hfirst.scope_eq ▸ hscope)

/-- **A round fetches a relation with keys**, and finds it by its alias. -/
theorem round_visit (hvalid : root.validate = .ok ()) (hqueue : s.queue = entry :: rest)
    (hfirst : Stands root s entry p) (hscope : p.scope.isEmpty = false) :
    planner.round context database root s = do
      let query ← planner.queryAt context (.batch p.scope) p.deferral.plan
      let rows ← execute database s.statements query.sql
      return s.fetched entry rest query rows := by
  obtain ⟨hmem, hbatched⟩ := List.mem_filter.mp hfirst.batched
  have hbuild := planner.buildBatch_eq context hvalid (List.mem_cons_of_mem _ hmem) hbatched hscope
  rw [round, hqueue]
  dsimp only
  rw [hfirst.scope_eq, if_neg (by rw [hscope]; exact Bool.false_ne_true), hfirst.columns, ← hbuild]
  rfl

theorem waits_skip (hqueue : s.queue = entry :: rest) (h : Waits root s (p :: queue)) :
    Waits root { s with queue := rest } queue := by
  rw [Waits, hqueue] at h
  refine (List.forall₂_cons.mp h).2.imp fun _ _ hstands => ?_
  exact ⟨hstands.columns, hstands.parents, hstands.number, hstands.batched⟩

/-- **After a relation was fetched, what it defers waits at the end.** -/
theorem waits_fetched (hqueue : s.queue = entry :: rest) (h : Waits root s (p :: queue))
    {query : Query} (hquery :
      (planner.queryAt context (.batch p.scope) p.deferral.plan).outcome = .ok query)
    (rows : List Row) : Waits root (s.fetched entry rest query rows)
      (queue ++ Pending.ofPlan p.deferral.plan rows) := by
  rw [Waits, hqueue] at h
  obtain ⟨hfirst, hrest⟩ := List.forall₂_cons.mp h
  refine List.rel_append (hrest.imp fun _ _ hstands => hstands.fetched entry rest query rows) ?_
  rw [planner.deferred_of_queryAt context hquery, Pending.ofPlan, List.map_map,
    List.forall₂_map_left_iff, List.forall₂_map_right_iff, List.forall₂_same]
  intro d hd
  have hnode := List.mem_cons_of_mem root (List.mem_filter.mp hfirst.batched).1
  refine ⟨rfl, ?_, ?_, ?_⟩
  · simp [Progress.parents, Progress.fetched]
  · rintro k ⟨⟩
    rw [Progress.fetched, List.length_append]
    exact Nat.lt_succ_self _
  · exact Plan.batchedBelow_subset hnode (Plan.mem_batchedBelow_of_mem_deferrals hd)

/-- What waits first. -/
theorem Waits.exists_cons (h : Waits root s (p :: queue)) :
    ∃ entry rest, s.queue = entry :: rest ∧ Stands root s entry p := by
  obtain ⟨entry, rest, hfirst, -, hqueue⟩ := List.forall₂_cons_right_iff.mp h
  exact ⟨entry, rest, hqueue, hfirst⟩

/-- Every entry of the queue stands for a relation. -/
theorem Waits.exists_of_mem (h : Waits root s queue) (hentry : entry ∈ s.queue) :
    ∃ p, Stands root s entry p := by
  rw [Waits] at h
  generalize s.queue = entries at h hentry
  induction h with
  | nil => cases hentry
  | cons hfirst hrest ih =>
    rcases List.mem_cons.mp hentry with rfl | hentry
    · exact ⟨_, hfirst⟩
    · exact ih hentry

theorem Waits.eq_nil (h : Waits root s []) : s.queue = [] := List.forall₂_nil_right_iff.mp h

theorem round_nil (hqueue : s.queue = []) :
    planner.round context database root s = pure s := by
  rw [round, hqueue]

end Round

/-- **One round takes a batched relation** that is left, if there is one. -/
theorem waits_round (hvalid : root.validate = .ok ()) {s s' : Progress} {queue : List (Pending γ)}
    (h : Waits root s queue) (hround : (planner.round context database root s).outcome = .ok s') :
    ∃ queue', Waits root s' queue' ∧ remaining queue' ≤ remaining queue - 1 := by
  cases queue with
  | nil =>
    rw [round_nil h.eq_nil] at hround
    cases hround
    exact ⟨[], h, Nat.zero_le _⟩
  | cons p queue =>
    obtain ⟨entry, rest, hqueue, hfirst⟩ := h.exists_cons
    cases hscope : p.scope.isEmpty with
    | true =>
      rw [round_skip hqueue hfirst hscope] at hround
      cases hround
      refine ⟨queue, waits_skip hqueue h, ?_⟩
      rw [remaining_cons]
      omega
    | false =>
      rw [round_visit hvalid hqueue hfirst hscope] at hround
      obtain ⟨query, hquery, hround⟩ := Trace.outcome_bind_eq_ok.mp hround
      obtain ⟨rows, -, hround⟩ := Trace.outcome_bind_eq_ok.mp hround
      cases hround
      refine ⟨_, waits_fetched hqueue h hquery rows, ?_⟩
      rw [remaining_cons, remaining_append, remaining_ofPlan]
      omega

/-- **Rounds take the batched relations that are left**, one each. -/
theorem waits_loop (hvalid : root.validate = .ok ()) (n : Nat) {s s' : Progress}
    {queue : List (Pending γ)} (h : Waits root s queue)
    (hloop : (planner.loop context database root n s).outcome = .ok s') :
    ∃ queue', Waits root s' queue' ∧ remaining queue' ≤ remaining queue - n := by
  induction n generalizing s queue with
  | zero =>
    cases hloop
    exact ⟨queue, h, Nat.le_refl _⟩
  | succ n ih =>
    obtain ⟨next, hround, hloop⟩ := Trace.outcome_bind_eq_ok.mp hloop
    obtain ⟨queue', hnext, hle⟩ := waits_round hvalid h hround
    obtain ⟨queue'', hlast, hle'⟩ := ih hnext hloop
    exact ⟨queue'', hlast, by omega⟩

/-! ## Rounds and runs -/

theorem loop_nil (n : Nat) {s : Progress} (hqueue : s.queue = []) :
    planner.loop context database root n s = pure s := by
  induction n with
  | zero => rfl
  | succ n ih =>
    rw [loop, round_nil hqueue]
    exact ih

/-- Nothing is left of a run when nothing waits. -/
theorem loop_eq_of_nil (n : Nat) {s : Progress} (hqueue : s.queue = []) :
    (planner.loop context database root n s >>= fun s' => pure s'.execution) =
      (do
        let results ← planner.runQueue context database s.statements []
        return ⟨s.sql, s.rows, s.batches ++ results⟩ : Trace Execution) := by
  rw [loop_nil n hqueue, runQueue]
  change pure s.execution = (pure ⟨s.sql, s.rows, s.batches ++ []⟩ : Trace Execution)
  rw [List.append_nil]
  rfl

/-- **The loop does what is left of the run**, given a round for each batched relation left. -/
theorem loop_eq (hvalid : root.validate = .ok ()) (n : Nat) {s : Progress}
    {queue : List (Pending γ)} (h : Waits root s queue) (hcount : remaining queue ≤ n) :
    (planner.loop context database root n s >>= fun s' => pure s'.execution) =
      (do
        let results ← planner.runQueue context database s.statements queue
        return ⟨s.sql, s.rows, s.batches ++ results⟩ : Trace Execution) := by
  induction n generalizing s queue with
  | zero =>
    cases queue with
    | nil => exact loop_eq_of_nil 0 h.eq_nil
    | cons p queue =>
      -- a relation that waits has a round left for it
      rw [remaining_cons] at hcount
      omega
  | succ n ih =>
    cases queue with
    | nil => exact loop_eq_of_nil (n + 1) h.eq_nil
    | cons p queue =>
      rw [remaining_cons] at hcount
      obtain ⟨entry, rest, hqueue, hfirst⟩ := h.exists_cons
      cases hscope : p.scope.isEmpty with
      | true =>
        rw [loop, round_skip hqueue hfirst hscope, runQueue, if_pos hscope]
        exact ih (waits_skip hqueue h) (by omega)
      | false =>
        rw [loop, round_visit hvalid hqueue hfirst hscope, runQueue,
          if_neg (by rw [hscope]; exact Bool.false_ne_true)]
        simp only [Trace.bind_assoc]
        refine Trace.bind_congr fun query hquery => Trace.bind_congr fun rows _ => ?_
        -- the relation is taken from the count and what it defers is added, one less in all
        have hlater := ih (waits_fetched hqueue h hquery rows)
          (by rw [remaining_append, remaining_ofPlan]; omega)
        rw [Progress.statements_fetched] at hlater
        refine hlater.trans (Trace.bind_congr fun results _ => ?_)
        rw [Progress.fetched, hfirst.columns, List.append_assoc]
        rfl

/-- **A run is its rounds**, given one for each batched relation below the root. -/
theorem run_eq_rounds (hvalid : root.validate = .ok ()) {n : Nat}
    (hn : root.batchedBelow.length ≤ n) :
    planner.run context database root =
      planner.rounds context database root n >>= fun s => pure s.execution := by
  rw [run, rounds, start]
  simp only [Trace.bind_assoc]
  refine Trace.bind_congr fun query hquery => Trace.bind_congr fun rows _ => ?_
  exact (loop_eq hvalid n (waits_start hvalid rows hquery)
    (by rw [remaining_ofPlan]; exact hn)).symm

/-- What is left after some rounds. -/
theorem waits_rounds (hvalid : root.validate = .ok ()) {n : Nat} {s : Progress}
    (h : (planner.rounds context database root n).outcome = .ok s) :
    ∃ queue, Waits root s queue ∧ remaining queue ≤ root.batchedBelow.length - n := by
  obtain ⟨first, hstart, hloop⟩ := Trace.outcome_bind_eq_ok.mp h
  obtain ⟨query, hquery, hstart⟩ := Trace.outcome_bind_eq_ok.mp hstart
  obtain ⟨rows, -, hstart⟩ := Trace.outcome_bind_eq_ok.mp hstart
  cases hstart
  obtain ⟨queue, hwaits, hle⟩ := waits_loop hvalid n (waits_start hvalid rows hquery) hloop
  rw [remaining_ofPlan] at hle
  exact ⟨queue, hwaits, hle⟩

/-- **Nothing waits after as many rounds as there are batched relations.** -/
theorem queue_eq_nil (hvalid : root.validate = .ok ()) {n : Nat}
    (hn : root.batchedBelow.length ≤ n) {s : Progress}
    (h : (planner.rounds context database root n).outcome = .ok s) : s.queue = [] := by
  obtain ⟨queue, hwaits, hle⟩ := waits_rounds hvalid h
  cases queue with
  | nil => exact hwaits.eq_nil
  | cons p queue =>
    rw [remaining_cons] at hle
    omega

/-- **The number of an entry is that of a batch.** -/
theorem number_lt (hvalid : root.validate = .ok ()) {n : Nat} {s : Progress}
    (h : (planner.rounds context database root n).outcome = .ok s) {d : Deferred} {k : Nat}
    (hentry : (d, some k) ∈ s.queue) : k < s.batches.length := by
  obtain ⟨queue, hwaits, -⟩ := waits_rounds hvalid h
  obtain ⟨p, hstands⟩ := hwaits.exists_of_mem hentry
  exact hstands.number k rfl

end Planner

end RelationSql
