import RelationSql.Proofs.Execution.Rounds

/-!
# How many statements a run hands over

A run hands over one statement for the plan and at most one for each batched relation below its
root: a round hands over at most one, and there are no more rounds than batched relations. This does
not depend on how many rows the database answers with, nor on whether the run succeeds. A run stops
at the first statement that the database refuses, and at the first one that cannot be built.
-/

namespace RelationSql

namespace Trace

variable {α β : Type}

/-- A sequence hands over no more statements than its parts. -/
theorem length_statements_bind_le {m : Trace α} {f : α → Trace β} {i j : Nat}
    (hm : m.statements.length ≤ i) (hf : ∀ a, (f a).statements.length ≤ j) :
    (m >>= f).statements.length ≤ i + j := by
  cases h : m.outcome with
  | error e =>
    rw [statements_bind_error h]
    omega
  | ok a =>
    have := hf a
    rw [statements_bind_ok h, List.length_append]
    omega

/-- A computation that comes after some statements stops at the first one that the database
refuses. -/
def Heeds (database : Database) (before : List String) (m : Trace α) : Prop :=
  ∀ (i : Nat) (reason : String), i < m.statements.length →
    database (before ++ m.statements.take (i + 1)) = .error reason →
    m.outcome = .error (.execution reason) ∧ m.statements.length = i + 1

namespace Heeds

variable {database : Database} {before : List String}

theorem of_quiet {m : Trace α} (hm : m.Quiet) : Heeds database before m := by
  intro i reason hi
  rw [hm] at hi
  cases hi

/-- A sequence stops where one of its parts does. -/
theorem bind {m : Trace α} {f : α → Trace β} (hm : Heeds database before m)
    (hf : ∀ a, Heeds database (before ++ m.statements) (f a)) :
    Heeds database before (m >>= f) := by
  intro i reason hi hrefused
  cases h : m.outcome with
  | error e =>
    rw [statements_bind_error h] at hi hrefused ⊢
    obtain ⟨houtcome, hlast⟩ := hm i reason hi hrefused
    rw [h] at houtcome
    cases houtcome
    exact ⟨outcome_bind_error h, hlast⟩
  | ok a =>
    rw [statements_bind_ok h] at hi hrefused ⊢
    rcases Nat.lt_or_ge i m.statements.length with hlt | hge
    · -- the first part would have stopped there
      rw [List.take_append_of_le_length hlt] at hrefused
      rw [(hm i reason hlt hrefused).1] at h
      cases h
    · obtain ⟨j, rfl⟩ := Nat.exists_eq_add_of_le hge
      rw [List.length_append] at hi ⊢
      rw [Nat.add_assoc, List.take_length_add_append, ← List.append_assoc] at hrefused
      obtain ⟨houtcome, hlast⟩ := hf a j reason (by omega) hrefused
      refine ⟨?_, by omega⟩
      rw [bind_eq, bind_ok h]
      exact houtcome

theorem quiet_bind {m : Trace α} {f : α → Trace β} (hm : m.Quiet)
    (hf : ∀ a, Heeds database before (f a)) : Heeds database before (m >>= f) := by
  refine (of_quiet hm).bind fun a => ?_
  rw [hm, List.append_nil]
  exact hf a

/-- A statement that is refused ends in the database's error. -/
theorem execute (sql : String) : Heeds database before (Planner.execute database before sql) := by
  intro i reason hi hrefused
  obtain rfl : i = 0 := Nat.lt_one_iff.mp hi
  refine ⟨?_, rfl⟩
  change (database (before ++ [sql])).mapError PlanError.execution = _
  rw [show database (before ++ [sql]) = .error reason from hrefused]
  rfl

end Heeds

end Trace

namespace Planner

variable {γ : Type} {planner : Planner} {context : γ} {database : Database} {root : Plan γ}

/-! ## The statements of rounds -/

/-- A statement is built and handed over, or not even built. -/
theorem length_statements_fetch_le {α : Type} {m : Trace Query} (hm : m.Quiet)
    (before : List String) (f : Query → List Row → α) :
    (do
      let query ← m
      let rows ← execute database before query.sql
      return f query rows : Trace α).statements.length ≤ 1 := by
  refine Trace.length_statements_bind_le (i := 0) (j := 1) ?_ fun query => ?_
  · rw [hm]
    exact Nat.le_refl 0
  · exact Trace.length_statements_bind_le (i := 1) (j := 0) (Nat.le_refl 1)
      fun rows => Nat.le_refl 0

/-- **A round hands at most one statement over.** -/
theorem length_statements_round_le (s : Progress) :
    (planner.round context database root s).statements.length ≤ 1 := by
  rw [round]
  split
  · exact Nat.zero_le _
  · split
    · exact Nat.zero_le _
    · exact length_statements_fetch_le (planner.buildBatch_quiet context root _ _) _ _

/-- **Rounds hand at most one statement over each.** -/
theorem length_statements_loop_le (n : Nat) (s : Progress) :
    (planner.loop context database root n s).statements.length ≤ n := by
  induction n generalizing s with
  | zero => exact Nat.le_refl 0
  | succ n ih =>
    rw [loop, Nat.add_comm]
    exact Trace.length_statements_bind_le (length_statements_round_le s) ih

theorem length_statements_rounds_le (n : Nat) :
    (planner.rounds context database root n).statements.length ≤ 1 + n :=
  Trace.length_statements_bind_le
    (length_statements_fetch_le (planner.build_quiet context root) [] _)
    fun s => length_statements_loop_le n s

/-- A round goes on with the statements that were handed over. -/
theorem statements_of_round {s s' : Progress}
    (h : (planner.round context database root s).outcome = .ok s') :
    s'.statements = s.statements ++ (planner.round context database root s).statements := by
  rw [round] at h ⊢
  split at h
  · cases h
    exact (List.append_nil _).symm
  · next entry rest hqueue =>
    split at h
    · next hscope =>
      cases h
      rw [if_pos hscope]
      exact (List.append_nil _).symm
    · next hscope =>
      rw [if_neg hscope]
      obtain ⟨query, hquery, h⟩ := Trace.outcome_bind_eq_ok.mp h
      obtain ⟨rows, hrows, h⟩ := Trace.outcome_bind_eq_ok.mp h
      cases h
      rw [Progress.statements_fetched, Trace.statements_bind_ok hquery,
        Trace.statements_bind_ok hrows, planner.buildBatch_quiet]
      rfl

theorem statements_of_loop (n : Nat) {s s' : Progress}
    (h : (planner.loop context database root n s).outcome = .ok s') :
    s'.statements = s.statements ++ (planner.loop context database root n s).statements := by
  induction n generalizing s with
  | zero =>
    cases h
    exact (List.append_nil _).symm
  | succ n ih =>
    obtain ⟨next, hround, h⟩ := Trace.outcome_bind_eq_ok.mp h
    rw [loop, Trace.statements_bind_ok hround, ← List.append_assoc, ← statements_of_round hround]
    exact ih h

/-- **The statements of a run up to the end of a round.** -/
theorem statements_of_rounds (n : Nat) {s : Progress}
    (h : (planner.rounds context database root n).outcome = .ok s) :
    (planner.rounds context database root n).statements = s.statements := by
  obtain ⟨first, hstart, hloop⟩ := Trace.outcome_bind_eq_ok.mp h
  rw [rounds, Trace.statements_bind_ok hstart, statements_of_loop n hloop]
  obtain ⟨query, hquery, hstart⟩ := Trace.outcome_bind_eq_ok.mp hstart
  obtain ⟨rows, hrows, hstart⟩ := Trace.outcome_bind_eq_ok.mp hstart
  cases hstart
  rw [start, Trace.statements_bind_ok hquery, Trace.statements_bind_ok hrows, planner.build_quiet]
  rfl

/-! ## Refused statements -/

theorem runQueue_heeds (before : List String) (queue : List (Pending γ)) :
    (planner.runQueue context database before queue).Heeds database before := by
  induction before, queue using runQueue.induct with
  | case1 before =>
    rw [runQueue]
    exact .of_quiet (.pure _)
  | case2 before p queue hscope ih =>
    rw [runQueue, if_pos hscope]
    exact ih
  | case3 before p queue hscope ih =>
    rw [runQueue, if_neg hscope]
    refine .quiet_bind (planner.queryAt_quiet context _ _) fun query => ?_
    refine .bind (.execute query.sql) fun rows => ?_
    exact .bind (ih query rows) fun results => .of_quiet (.pure _)

/-- **A run stops at the first statement that the database refuses.** -/
theorem run_heeds (root : Plan γ) : (planner.run context database root).Heeds database [] := by
  refine .quiet_bind (planner.build_quiet context root) fun query => ?_
  refine .bind (.execute query.sql) fun rows => ?_
  exact .bind (runQueue_heeds [query.sql] _) fun results => .of_quiet (.pure _)

/-! ## Statements that cannot be built -/

/-- A round stops where a statement cannot be built. -/
theorem round_stops_at_build (database : Database) {s : Progress}
    {entry : Deferred × Option Nat} {rest : List (Deferred × Option Nat)} {e : PlanError}
    (hqueue : s.queue = entry :: rest) (hscope : (s.scope entry).isEmpty = false)
    (hbuild : (planner.buildBatch context root entry.1.label (s.scope entry)).outcome = .error e) :
    (planner.round context database root s).outcome = .error e ∧
      (planner.round context database root s).statements = [] := by
  rw [round, hqueue]
  dsimp only
  rw [if_neg (by rw [hscope]; exact Bool.false_ne_true)]
  refine ⟨Trace.outcome_bind_error hbuild, ?_⟩
  rw [Trace.statements_bind_error hbuild]
  exact planner.buildBatch_quiet context root entry.1.label (s.scope entry)

/-- **A run stops where a statement cannot be built**, after the statements so far. -/
theorem run_stops_at_build (hvalid : root.validate = .ok ()) {n : Nat} {s : Progress}
    {entry : Deferred × Option Nat} {rest : List (Deferred × Option Nat)} {e : PlanError}
    (hrounds : (planner.rounds context database root n).outcome = .ok s)
    (hqueue : s.queue = entry :: rest) (hscope : (s.scope entry).isEmpty = false)
    (hbuild : (planner.buildBatch context root entry.1.label (s.scope entry)).outcome = .error e) :
    (planner.run context database root).outcome = .error e ∧
      (planner.run context database root).statements = s.statements := by
  obtain ⟨hround, hnone⟩ := round_stops_at_build database hqueue hscope hbuild
  -- the round that fails is the one after the first `n`
  have hlater : (planner.rounds context database root (n + (root.batchedBelow.length + 1))).outcome
      = .error e ∧
      (planner.rounds context database root (n + (root.batchedBelow.length + 1))).statements
        = s.statements := by
    rw [rounds_add, Trace.statements_bind_ok hrounds, statements_of_rounds n hrounds, loop,
      Trace.statements_bind_error hround, hnone, List.append_nil]
    refine ⟨?_, rfl⟩
    rw [Trace.bind_eq, Trace.bind_ok hrounds]
    exact Trace.outcome_bind_error hround
  rw [run_eq_rounds hvalid (n := n + (root.batchedBelow.length + 1)) (by omega)]
  exact ⟨Trace.outcome_bind_error hlater.1, (Trace.statements_bind_error hlater.1).trans hlater.2⟩

/-! ## Runs end -/

/-- **A run ends after a bounded number of statements**, whatever the database answers. -/
theorem run_ends_within_bound (planner : Planner) (context : γ) (database : Database)
    {root : Plan γ} (hvalid : root.validate = .ok ()) :
    (∀ n, root.batchedBelow.length ≤ n →
      planner.run context database root =
        planner.rounds context database root n >>= (fun s => pure s.execution) ∧
      ∀ s, (planner.rounds context database root n).outcome = .ok s → s.queue = []) ∧
    (∀ n s, (planner.rounds context database root n).outcome = .ok s →
      ∀ d k, (d, some k) ∈ s.queue → k < s.batches.length) ∧
    (planner.run context database root).statements.length ≤ 1 + root.batchedBelow.length ∧
    (∀ i reason, i < (planner.run context database root).statements.length →
      database ((planner.run context database root).statements.take (i + 1)) = .error reason →
      (planner.run context database root).outcome = .error (.execution reason) ∧
      (planner.run context database root).statements.length = i + 1) ∧
    (∀ e, (planner.build context root).outcome = .error e →
      (planner.run context database root).outcome = .error e ∧
      (planner.run context database root).statements = []) ∧
    ∀ n s entry rest e, (planner.rounds context database root n).outcome = .ok s →
      s.queue = entry :: rest → (s.scope entry).isEmpty = false →
      (planner.buildBatch context root entry.1.label (s.scope entry)).outcome = .error e →
      (planner.run context database root).outcome = .error e ∧
      (planner.run context database root).statements = s.statements := by
  refine ⟨fun n hn => ⟨run_eq_rounds hvalid hn, fun s h => queue_eq_nil hvalid hn h⟩,
    fun n s h d k hentry => number_lt hvalid h hentry, ?_, run_heeds root, ?_, ?_⟩
  · rw [run_eq_rounds hvalid (Nat.le_refl _)]
    exact Trace.length_statements_bind_le (j := 0) (length_statements_rounds_le _)
      fun s => Nat.le_refl 0
  · intro e hbuild
    refine ⟨Trace.outcome_bind_error hbuild, ?_⟩
    rw [run, Trace.statements_bind_error hbuild]
    exact planner.build_quiet context root
  · intro n s entry rest e hrounds hqueue hscope hbuild
    exact run_stops_at_build hvalid hrounds hqueue hscope hbuild

/-- A database that refuses the second statement. -/
def refusesSecond : Database := fun statements =>
  if statements.length = 2 then .error "gone away" else twoPosts statements

/-- Of the three statements for users, posts and comments the third is not handed over if the second
is refused. -/
theorem run_usersWithPosts_refused :
    usersWithPosts.batchedBelow.length = 2 ∧
    (run ⟨.sqlite3, {}⟩ () refusesSecond usersWithPosts).statements.length ≤ 1 + 2 ∧
    (run ⟨.sqlite3, {}⟩ () refusesSecond usersWithPosts).outcome =
      .error (.execution "gone away") ∧
    (run ⟨.sqlite3, {}⟩ () refusesSecond usersWithPosts).statements.length = 2 := by
  have hvalid : usersWithPosts.validate = .ok () := rfl
  have hsecond : 1 < (run ⟨.sqlite3, {}⟩ () refusesSecond usersWithPosts).statements.length := by
    decide +kernel
  obtain ⟨-, -, hbound, hrefused, -⟩ :=
    run_ends_within_bound ⟨.sqlite3, {}⟩ () refusesSecond hvalid
  refine ⟨rfl, hbound, hrefused 1 "gone away" hsecond ?_⟩
  have hlength : ((run ⟨.sqlite3, {}⟩ () refusesSecond usersWithPosts).statements.take 2).length =
      2 := by
    rw [List.length_take]
    omega
  exact if_pos hlength

end Planner

end RelationSql
