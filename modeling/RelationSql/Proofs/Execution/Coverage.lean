import RelationSql.Dialect.Builtin
import RelationSql.Proofs.Execution.Visits

/-!
# What a run fetches

A run that succeeds has fetched a batched relation exactly if the statement that holds its parent
was executed and gave a key for it, and then for those keys. The rows it takes the keys from are
those of the right statement, because an alias names one relation, a relation has one parent, and
one statement holds it.
-/

namespace RelationSql

/-- The rows of the statement that starts from a relation of a plan, if it was executed. -/
def Execution.rowsFor {γ : Type} (e : Execution) (root home : Plan γ) : Option (List Row) :=
  if home.relation.label = root.relation.label then some e.rows
  else (e.batch? home.relation.label).map BatchResult.rows

namespace Planner

variable {γ : Type} {planner : Planner} {context : γ} {database : Database}

/-- A relation has keys if a row of its parent's statement holds one. -/
theorem scope_isEmpty_eq_false {p : Pending γ} : p.scope.isEmpty = false ↔
    ∃ row ∈ p.parents, ∃ value key,
      row.get? p.deferral.columns.parentKeyColumn = some value ∧
      Scalar.ofRowValue? value = some key ∧ key ≠ .null := by
  rw [Pending.scope, KeyScope.isEmpty_ofList]
  constructor
  · rintro ⟨key, hkey, hnull⟩
    obtain ⟨row, hrow, hbind⟩ := List.mem_filterMap.mp hkey
    obtain ⟨value, hvalue, hscalar⟩ := Option.bind_eq_some_iff.mp hbind
    exact ⟨row, hrow, value, key, hvalue, hscalar, hnull⟩
  · rintro ⟨row, hrow, value, key, hvalue, hscalar, hnull⟩
    refine ⟨key, List.mem_filterMap.mpr ⟨row, hrow, ?_⟩, hnull⟩
    exact Option.bind_eq_some_iff.mpr ⟨value, hvalue, hscalar⟩

/-- An execution of a plan without repeated aliases, with its visits. -/
structure Ran (planner : Planner) (context : γ) (database : Database) (root : Plan γ)
    (e : Execution) (visits : List (Visit γ)) : Prop where
  /-- no alias is repeated -/
  nodup : root.labels.Nodup
  /-- the visits serve what the plan defers -/
  serves : Serves planner context database [e.sql] (Pending.ofPlan root e.rows) visits
  /-- they are what is reported -/
  batches : e.batches = visits.map Visit.result

namespace Ran

variable {root : Plan γ} {e : Execution} {visits : List (Visit γ)}

/-- The deferred relations of a plan and of its visits start statements of the plan. -/
theorem home (h : Ran planner context database root e visits) {v : Visit γ} (hv : v ∈ visits) :
    root.Home v.plan v.plan := by
  refine h.serves.home (fun p hp => ?_) hv
  obtain ⟨d, hd, rfl⟩ := Pending.mem_ofPlan.mp hp
  exact Plan.home_of_mem_deferrals .root hd

/-- **No relation is visited twice.** -/
theorem nodup_visits (h : Ran planner context database root e visits) :
    (visits.map fun v => v.plan.relation.label).Nodup := by
  have hsub := h.serves.sublist_breadthFirst.map fun d => d.plan.relation.label
  rw [List.map_map] at hsub
  exact (Plan.nodup_label_breadthFirst h.nodup).sublist hsub

theorem nodup_batches (h : Ran planner context database root e visits) :
    (e.batches.map fun b => b.deferred.label).Nodup := by
  rw [h.batches, List.map_map]
  exact h.nodup_visits

/-- The result of a visit is found by its alias. -/
theorem batch?_of_mem (h : Ran planner context database root e visits) {v : Visit γ}
    (hv : v ∈ visits) : e.batch? v.plan.relation.label = some v.result := by
  have hmem : v.result ∈ e.batches := h.batches ▸ List.mem_map_of_mem hv
  exact Plan.find?_key (fun b => b.deferred.label) h.nodup_batches hmem

/-- What is found by an alias is the result of a visit. -/
theorem exists_of_batch? (h : Ran planner context database root e visits) {label : String}
    {b : BatchResult} (hb : e.batch? label = some b) :
    ∃ v ∈ visits, v.result = b ∧ v.plan.relation.label = label := by
  have hmem := List.mem_of_find?_eq_some hb
  have hlabel : b.deferred.label = label := by simpa using List.find?_some hb
  rw [h.batches] at hmem
  obtain ⟨v, hv, rfl⟩ := List.mem_map.mp hmem
  exact ⟨v, hv, rfl, hlabel⟩

/-- A visited relation lies below the root. -/
theorem label_ne (h : Ran planner context database root e visits) {v : Visit γ} (hv : v ∈ visits) :
    v.plan.relation.label ≠ root.relation.label := by
  have hmem : v.pending.deferral ∈ Plan.breadthFirst root.deferrals :=
    h.serves.sublist_breadthFirst.subset (List.mem_map_of_mem hv)
  have hplan := (Plan.breadthFirst_perm root.deferrals).mem_iff.mp (List.mem_map_of_mem hmem)
  have hbelow := (Plan.batchedBelow_perm root).mem_iff.mpr hplan
  exact Plan.label_ne_of_mem_descendants h.nodup (List.mem_filter.mp hbelow).1

theorem rowsFor_root : e.rowsFor root root = some e.rows := if_pos rfl

theorem rowsFor_of_mem (h : Ran planner context database root e visits) {v : Visit γ}
    (hv : v ∈ visits) : e.rowsFor root v.plan = some v.rows := by
  rw [Execution.rowsFor, if_neg (h.label_ne hv), h.batch?_of_mem hv]
  rfl

/-- **Where a visit took its keys from**: the rows of the statement that holds the parent. -/
theorem pending_eq (h : Ran planner context database root e visits) {home p c : Plan γ}
    {keys : BatchKeys γ} (hhome : root.Home home p) (hc : c ∈ p.children)
    (hkeys : c.relation.batchKeys? = some keys) {v : Visit γ} (hv : v ∈ visits)
    (hlabel : v.plan.relation.label = c.relation.label) :
    ∃ rows, e.rowsFor root home = some rows ∧ v.pending = ⟨⟨p.relation, keys, c⟩, rows⟩ := by
  -- the statement that deferred the visited relation
  obtain ⟨source, rows, hfrom, hrows, hd, hparents⟩ : ∃ source rows, root.Home source source ∧
      e.rowsFor root source = some rows ∧ v.pending.deferral ∈ source.deferrals ∧
      v.pending.parents = rows := by
    rcases h.serves.origin hv with hqueue | ⟨u, hu, d, hd, heq⟩
    · obtain ⟨d, hd, heq⟩ := Pending.mem_ofPlan.mp hqueue
      exact ⟨root, e.rows, .root, rowsFor_root, heq ▸ hd, heq ▸ rfl⟩
    · exact ⟨u.plan, u.rows, h.home hu, h.rowsFor_of_mem hu, heq ▸ hd, heq ▸ rfl⟩
  obtain ⟨p', c', keys', hhome', hc', hkeys', hdeferral⟩ :=
    Plan.exists_home_of_mem_deferrals hfrom hd
  -- aliases are unique, so this is the relation, the parent and the statement given
  have hplan : v.plan = c' := congrArg Deferral.plan hdeferral
  obtain rfl : c' = c := Plan.eq_of_label_eq h.nodup
    (List.mem_cons_of_mem _ (Plan.mem_descendants hhome'.mem_nodes hc'))
    (List.mem_cons_of_mem _ (Plan.mem_descendants hhome.mem_nodes hc)) (hplan ▸ hlabel)
  obtain rfl := Plan.parent_unique h.nodup hhome'.mem_nodes hc' hhome.mem_nodes hc
  obtain rfl := hhome'.unique h.nodup hhome
  obtain rfl : keys' = keys := Option.some.inj (hkeys'.symm.trans hkeys)
  refine ⟨rows, hrows, ?_⟩
  rw [← hdeferral, ← hparents]

/-- **Every relation with keys is visited.** -/
theorem exists_visit (h : Ran planner context database root e visits) {home p c : Plan γ}
    {keys : BatchKeys γ} (hhome : root.Home home p) (hc : c ∈ p.children)
    (hkeys : c.relation.batchKeys? = some keys) {rows : List Row}
    (hrows : e.rowsFor root home = some rows)
    (hscope : (Pending.mk ⟨p.relation, keys, c⟩ rows).scope.isEmpty = false) :
    ∃ v ∈ visits, v.pending = ⟨⟨p.relation, keys, c⟩, rows⟩ := by
  have hd := Plan.mem_deferrals_of_home hhome hc hkeys
  -- the keys come from the rows of the plan, or from those of an earlier visit
  rw [Execution.rowsFor] at hrows
  split at hrows
  · next hlabel =>
    cases hrows
    obtain rfl := Plan.eq_of_label_eq h.nodup hhome.self.mem_nodes List.mem_cons_self hlabel
    exact h.serves.queue_served (Pending.mem_ofPlan.mpr ⟨_, hd, rfl⟩) hscope
  · obtain ⟨b, hb, rfl⟩ := Option.map_eq_some_iff.mp hrows
    obtain ⟨u, hu, rfl, hlabel⟩ := h.exists_of_batch? hb
    obtain rfl := Plan.eq_of_label_eq h.nodup (h.home hu).mem_nodes hhome.self.mem_nodes hlabel
    exact h.serves.deferred_served hu hd hscope

/-- **A relation is fetched exactly if its parent's statement was executed and gave a key.** -/
theorem isSome_batch?_iff (h : Ran planner context database root e visits) {home p c : Plan γ}
    {keys : BatchKeys γ} (hhome : root.Home home p) (hc : c ∈ p.children)
    (hkeys : c.relation.batchKeys? = some keys) :
    (e.batch? c.relation.label).isSome = true ↔
      ∃ rows, e.rowsFor root home = some rows ∧ ∃ row ∈ rows, ∃ value key,
        row.get? (Deferral.columns ⟨p.relation, keys, c⟩).parentKeyColumn = some value ∧
        Scalar.ofRowValue? value = some key ∧ key ≠ .null := by
  constructor
  · intro hsome
    obtain ⟨b, hb⟩ := Option.isSome_iff_exists.mp hsome
    obtain ⟨v, hv, -, hlabel⟩ := h.exists_of_batch? hb
    obtain ⟨rows, hrows, hpending⟩ := h.pending_eq hhome hc hkeys hv hlabel
    have hscope := (h.serves.built hv).1
    rw [hpending] at hscope
    exact ⟨rows, hrows, scope_isEmpty_eq_false.mp hscope⟩
  · rintro ⟨rows, hrows, hkey⟩
    obtain ⟨v, hv, hpending⟩ :=
      h.exists_visit hhome hc hkeys hrows (scope_isEmpty_eq_false.mpr hkey)
    have hbatch := h.batch?_of_mem hv
    rw [Visit.plan, hpending] at hbatch
    rw [hbatch]
    rfl

/-- **A fetched relation** meets its parent by its own columns, and its statement is built for the
keys that the rows of its parent's statement hold. -/
theorem batch_built (h : Ran planner context database root e visits)
    (hvalid : root.validate = .ok ()) {home p c : Plan γ} {keys : BatchKeys γ}
    (hhome : root.Home home p) (hc : c ∈ p.children) (hkeys : c.relation.batchKeys? = some keys)
    {b : BatchResult} (hb : e.batch? c.relation.label = some b) :
    b.deferred = Deferral.columns ⟨p.relation, keys, c⟩ ∧
      ∃ rows scope query, e.rowsFor root home = some rows ∧
        scope.keys = ((Row.scalarsIn rows b.deferred.parentKeyColumn).filter
          fun key => key ≠ .null).eraseDups ∧
        (planner.buildBatch context root c.relation.label scope).outcome = .ok query ∧
        b.sql = query.sql := by
  obtain ⟨v, hv, rfl, hlabel⟩ := h.exists_of_batch? hb
  obtain ⟨rows, hrows, hpending⟩ := h.pending_eq hhome hc hkeys hv hlabel
  obtain ⟨hscope, query, hquery, hsql⟩ := h.serves.built hv
  have hcolumns : v.result.deferred = Deferral.columns ⟨p.relation, keys, c⟩ :=
    congrArg (fun q => q.deferral.columns) hpending
  rw [Visit.plan, hpending] at hquery
  rw [hpending] at hscope
  have hmem : c ∈ root.nodes := List.mem_cons_of_mem _ (Plan.mem_descendants hhome.mem_nodes hc)
  have hbatched : c.relation.isBatched = true := by rw [Relation.isBatched, hkeys]; rfl
  refine ⟨hcolumns, rows, Pending.scope ⟨⟨p.relation, keys, c⟩, rows⟩, query, hrows, ?_, ?_, hsql⟩
  · rw [hcolumns]
    exact KeyScope.keys_ofList _
  · rw [planner.buildBatch_eq context hvalid hmem hbatched hscope]
    exact hquery

end Ran

/-- **A run fetches the relations that have keys, over these keys.** -/
theorem run_fetches_keyed_relations (planner : Planner) (context : γ) (database : Database)
    {root : Plan γ} {e : Execution} (hvalid : root.validate = .ok ())
    (hrun : (planner.run context database root).outcome = .ok e) :
    (e.batches.map fun b => b.deferred.label).Nodup ∧
    (∀ (parent child : Plan γ) (keys : BatchKeys γ), (parent, child) ∈ root.links →
      child.relation.batchKeys? = some keys → ∃ home, root.Home home parent ∧
        ((e.batch? child.relation.label).isSome = true ↔
          ∃ rows, e.rowsFor root home = some rows ∧ ∃ row ∈ rows, ∃ value key,
            row.get? (Deferral.columns ⟨parent.relation, keys, child⟩).parentKeyColumn =
              some value ∧
            Scalar.ofRowValue? value = some key ∧ key ≠ .null) ∧
        ∀ batch, e.batch? child.relation.label = some batch →
          batch.deferred = Deferral.columns ⟨parent.relation, keys, child⟩ ∧
          ∃ rows scope query, e.rowsFor root home = some rows ∧
            scope.keys = ((Row.scalarsIn rows batch.deferred.parentKeyColumn).filter
              fun key => key ≠ .null).eraseDups ∧
            (planner.buildBatch context root child.relation.label scope).outcome = .ok query ∧
            batch.sql = query.sql) ∧
    (e.batches.map BatchResult.deferred).Sublist
      ((Plan.breadthFirst root.deferrals).map Deferral.columns) ∧
    (planner.run context database root).statements = e.sql :: e.batches.map BatchResult.sql ∧
    database [e.sql] = .ok e.rows ∧
    ∀ (k : Nat) (batch : BatchResult), e.batches[k]? = some batch →
      database (e.sql :: (e.batches.take (k + 1)).map BatchResult.sql) = .ok batch.rows := by
  obtain ⟨-, visits, -, -, hrows, hserves, hbatches, hstatements⟩ := exists_visits hrun
  have h : Ran planner context database root e visits :=
    ⟨Plan.labels_nodup hvalid, hserves, hbatches⟩
  refine ⟨h.nodup_batches, ?_, ?_, ?_, hrows, ?_⟩
  · intro parent child keys hlink hkeys
    obtain ⟨hc, home, hhome⟩ := Plan.exists_home_of_mem_links .root hlink
    exact ⟨home, hhome, h.isSome_batch?_iff hhome hc hkeys,
      fun b hb => h.batch_built hvalid hhome hc hkeys hb⟩
  · rw [hbatches, List.map_map]
    have hsub := hserves.sublist_breadthFirst.map Deferral.columns
    rw [List.map_map] at hsub
    exact hsub
  · rw [hstatements, hbatches, List.map_map]
    rfl
  · intro k b hb
    rw [hbatches, List.getElem?_map, Option.map_eq_some_iff] at hb
    obtain ⟨v, hv, rfl⟩ := hb
    rw [hbatches, ← List.map_take, List.map_map]
    exact hserves.answered hv

/-- Users with their posts, and these with their comments, each fetched in a batch. -/
def usersWithPosts : Plan Unit where
  relation := { name := "users", table := "users", label := "users", uniqueKey := ["id"] }
  children := [{
    relation := {
      name := "posts", table := "posts", label := "posts"
      batch := some { thisKey := "author", parentKey := "id" } }
    children := [{
      relation := {
        name := "comments", table := "comments", label := "comments"
        batch := some { thisKey := "post", parentKey := "id" } } }] }]

/-- A database with one user who wrote two posts. It answers every statement alike. -/
def twoPosts : Database := fun _ => .ok [
  [("users__id", .integer 1), ("posts__id", .integer 7)],
  [("users__id", .integer 1), ("posts__id", .integer 8)]]

/-- The posts of all users are fetched at once, and then the comments on all posts. -/
theorem run_usersWithPosts : ∃ e : Execution,
    (run ⟨.sqlite3, {}⟩ () twoPosts usersWithPosts).outcome = .ok e ∧
    e.batches.map (fun b => b.deferred.label) = ["posts", "comments"] ∧
    (run ⟨.sqlite3, {}⟩ () twoPosts usersWithPosts).statements =
      e.sql :: e.batches.map BatchResult.sql ∧
    (e.batches.map BatchResult.deferred).Sublist
      ((Plan.breadthFirst usersWithPosts.deferrals).map Deferral.columns) := by
  have hlabels : ((run ⟨.sqlite3, {}⟩ () twoPosts usersWithPosts).outcome.toOption.map
      fun e => e.batches.map fun b => b.deferred.label) = some ["posts", "comments"] := by
    decide +kernel
  obtain ⟨e, he, hlabels⟩ := Option.map_eq_some_iff.mp hlabels
  have hrun : (run ⟨.sqlite3, {}⟩ () twoPosts usersWithPosts).outcome = .ok e := by
    cases h : (run ⟨.sqlite3, {}⟩ () twoPosts usersWithPosts).outcome with
    | error fault => rw [h] at he; cases he
    | ok e' => rw [h] at he; cases he; rfl
  obtain ⟨-, -, horder, hstatements, -⟩ :=
    run_fetches_keyed_relations ⟨.sqlite3, {}⟩ () twoPosts rfl hrun
  exact ⟨e, hrun, hlabels, hstatements, horder⟩

end Planner

end RelationSql
