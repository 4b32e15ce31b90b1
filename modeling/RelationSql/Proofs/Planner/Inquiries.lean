import RelationSql.Proofs.Planner.Stations

/-!
# The hooks of a statement

A plan says which hooks are to be asked for its statement, in which order and about which tables:
for each relation of the statement, parents before children and children in declared order, first
the hooks that link it to what stands before it, then the filter of its junction, then its own. Such
a request is an *inquiry*.

* `Plan.inquiries` — the inquiries of a statement, read off the plan;
* `nodup_inquiries` — in a valid plan they are about different hooks.
-/

namespace RelationSql

/-! ## Inquiries -/

/-- The reason of a failure. -/
def reason? {α : Type} : Except String α → Option String
  | .ok _ => none
  | .error reason => some reason

theorem reason?_map {α β : Type} (f : α → β) (answer : Except String α) :
    reason? (answer.map f) = reason? answer := by
  cases answer <;> rfl

/-- A hook that is to be asked. -/
structure Inquiry where
  /-- the relation, the place of the hook in it, and the quoted names of the tables -/
  call : HookCall
  /-- the alias of the table that the hook is evaluated for -/
  label : String
  /-- why the hook fails, if it does -/
  failure : Option String
deriving DecidableEq

namespace Inquiry

variable {γ : Type} (d : Dialect) (context : γ) (r : Relation γ)

/-- Asking a filter about a table. -/
def ofFilter (slot : HookSlot) (label : String) (hook : FilterHook γ) : Inquiry where
  call := ⟨r.label, slot, [d.quote label]⟩
  label
  failure := reason? (hook.run (d.quote label) r.args context)

/-- Asking a join about two tables; it is evaluated for the second one. -/
def ofJoin (slot : HookSlot) (parent child : String) (hook : JoinHook γ) : Inquiry where
  call := ⟨r.label, slot, [d.quote parent, d.quote child]⟩
  label := child
  failure := reason? (hook.run (d.quote parent) (d.quote child) r.args context)

end Inquiry

namespace Relation

variable {γ : Type} (d : Dialect) (context : γ) (r : Relation γ)

/-- The hooks that link a relation to what stands before it: none at the start of a statement, the
join or the two joins over the junction behind a parent, and the one from the junction behind a list
of keys. -/
def linkInquiries : Position γ → List Inquiry
  | .root => []
  | .joined parent =>
    match r.junction with
    | none => r.join.toList.map (.ofJoin d context r .join parent.label r.label)
    | some j => j.joins.toList.flatMap fun hooks =>
        [.ofJoin d context r .toJunction parent.label j.label hooks.1,
          .ofJoin d context r .toChild j.label r.label hooks.2]
  | .batch _ =>
    match r.junction with
    | none => []
    | some j => j.childJoin?.toList.map fun hook =>
        .ofJoin d context r hook.1 j.label r.label hook.2

/-- The filter of the junction. -/
def junctionInquiries : List Inquiry :=
  match r.junction with
  | none => []
  | some j => j.filter.toList.map (.ofFilter d context r .junctionFilter j.label)

/-- The filter of the junction and the relation's own. -/
def filterInquiries : List Inquiry :=
  r.junctionInquiries d context ++ r.filter.toList.map (.ofFilter d context r .filter r.label)

end Relation

/-- The hooks of a relation at its place. -/
def Station.inquiries {γ : Type} (d : Dialect) (context : γ) (s : Station γ) : List Inquiry :=
  s.relation.linkInquiries d context s.position ++ s.relation.filterInquiries d context

/-- **The inquiries of a statement**, in the order of its relations. -/
def Plan.inquiries {γ : Type} (d : Dialect) (context : γ) (position : Position γ) (p : Plan γ) :
    List Inquiry :=
  (p.stations position).flatMap (Station.inquiries d context)

/-- The inquiries of a batch are the same for all keys. -/
theorem Plan.inquiries_batch {γ : Type} (d : Dialect) (context : γ) (p : Plan γ)
    (scope scope' : KeyScope) :
    p.inquiries d context (.batch scope) = p.inquiries d context (.batch scope') := by
  rw [inquiries, inquiries, stations_eq, stations_eq]
  rfl

/-! ## Each hook once -/

section Once

variable {γ : Type} (d : Dialect) (context : γ)

theorem relation_of_mem_linkInquiries {r : Relation γ} {position : Position γ} {q : Inquiry}
    (hq : q ∈ r.linkInquiries d context position) : q.call.relation = r.label := by
  cases position with
  | root => cases hq
  | joined parent =>
    rw [Relation.linkInquiries] at hq
    split at hq
    · obtain ⟨hook, -, rfl⟩ := List.mem_map.mp hq
      rfl
    · obtain ⟨hooks, -, hq⟩ := List.mem_flatMap.mp hq
      rcases List.mem_pair.mp hq with rfl | rfl
      · rfl
      · rfl
  | batch scope =>
    rw [Relation.linkInquiries] at hq
    split at hq
    · cases hq
    · obtain ⟨hook, -, rfl⟩ := List.mem_map.mp hq
      rfl

theorem relation_of_mem_filterInquiries {r : Relation γ} {q : Inquiry}
    (hq : q ∈ r.filterInquiries d context) : q.call.relation = r.label := by
  rcases List.mem_append.mp hq with hq | hq
  · rw [Relation.junctionInquiries] at hq
    split at hq
    · cases hq
    · obtain ⟨hook, -, rfl⟩ := List.mem_map.mp hq
      rfl
  · obtain ⟨hook, -, rfl⟩ := List.mem_map.mp hq
    rfl

/-- The inquiries of a station are about its relation. -/
theorem relation_of_mem_inquiries {s : Station γ} {q : Inquiry}
    (hq : q ∈ s.inquiries d context) : q.call.relation = s.relation.label := by
  rcases List.mem_append.mp hq with hq | hq
  · exact relation_of_mem_linkInquiries d context hq
  · exact relation_of_mem_filterInquiries d context hq

theorem slots_linkInquiries (r : Relation γ) (position : Position γ) :
    ((r.linkInquiries d context position).map fun q => q.call.slot).Sublist
      [.join, .toJunction, .toChild, .batchJoin] := by
  cases position with
  | root => exact List.nil_sublist _
  | joined parent =>
    rw [Relation.linkInquiries]
    cases r.junction with
    | none =>
      cases r.join with
      | none => exact List.nil_sublist _
      | some hook => exact List.singleton_sublist.mpr List.mem_cons_self
    | some j =>
      dsimp only
      cases j.joins with
      | none => exact List.nil_sublist _
      | some hooks => exact .cons _ (.cons_cons _ (.cons_cons _ (List.nil_sublist _)))
  | batch scope =>
    rw [Relation.linkInquiries]
    cases r.junction with
    | none => exact List.nil_sublist _
    | some j =>
      dsimp only
      rw [Junction.childJoin?]
      cases j.joins with
      | some hooks => exact List.singleton_sublist.mpr (by simp [Inquiry.ofJoin])
      | none =>
        cases j.batch.bind (·.join) with
        | none => exact List.nil_sublist _
        | some hook => exact List.singleton_sublist.mpr (by simp [Inquiry.ofJoin])

theorem slots_filterInquiries (r : Relation γ) :
    ((r.filterInquiries d context).map fun q => q.call.slot).Sublist
      [.junctionFilter, .filter] := by
  have hjunction : ((r.junctionInquiries d context).map fun q => q.call.slot).Sublist
      [.junctionFilter] := by
    rw [Relation.junctionInquiries]
    cases r.junction with
    | none => exact List.nil_sublist _
    | some j =>
      dsimp only
      cases j.filter <;> simp [Inquiry.ofFilter]
  have hown : ((r.filter.toList.map (Inquiry.ofFilter d context r .filter r.label)).map
      fun q => q.call.slot).Sublist [.filter] := by
    cases r.filter <;> simp [Inquiry.ofFilter]
  rw [Relation.filterInquiries, List.map_append]
  exact hjunction.append hown

/-- No hook of a relation is asked twice. -/
theorem nodup_call_inquiries (s : Station γ) :
    ((s.inquiries d context).map Inquiry.call).Nodup := by
  have hslots := (slots_linkInquiries d context s.relation s.position).append
    (slots_filterInquiries d context s.relation)
  rw [← List.map_append] at hslots
  have hnodup : ((s.inquiries d context).map fun q => q.call.slot).Nodup :=
    List.Nodup.sublist hslots (by decide)
  exact List.Nodup.of_map HookCall.slot (by rwa [List.map_map])

/-- **No hook is asked twice** in the statement of a relation of a valid plan. -/
theorem nodup_inquiries {root p : Plan γ} (hvalid : root.validate = .ok ()) (hp : p ∈ root.nodes)
    (position : Position γ) : ((p.inquiries d context position).map Inquiry.call).Nodup := by
  rw [Plan.inquiries, List.map_flatMap, List.nodup_flatMap]
  refine ⟨fun s _ => nodup_call_inquiries d context s, ?_⟩
  -- hooks of different relations are told apart by the aliases of the relations
  refine (List.pairwise_map.mp (Plan.nodup_label_stations hvalid hp position)).imp ?_
  intro s t hlabel call hs ht
  obtain ⟨q, hq, rfl⟩ := List.mem_map.mp hs
  obtain ⟨q', hq', hcall⟩ := List.mem_map.mp ht
  apply hlabel
  rw [← relation_of_mem_inquiries d context hq, ← relation_of_mem_inquiries d context hq', hcall]

end Once

end RelationSql
