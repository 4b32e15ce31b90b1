import RelationSql.Dialect.Builtin
import RelationSql.Proofs.Planner.Asking
import RelationSql.Proofs.Planner.Likeness

/-!
# Hook discipline

What callers may rely on when hooks carry authorization: a build asks each hook of its statement
once, in an order that the plan fixes, and goes no further when one of them fails
(`builds_follow_inquiries`).
-/

namespace RelationSql

/-- What callers may rely on when a computation goes through inquiries. -/
structure Trace.Disciplined {α : Type} (inquiries : List Inquiry) (m : Trace α) : Prop where
  /-- hooks are asked in the order of the inquiries, and none is left out on the way -/
  asked_prefix : m.hookCalls <+: inquiries.map Inquiry.call
  /-- a success has asked all of them -/
  asked_all : ∀ a, m.outcome = .ok a → m.hookCalls = inquiries.map Inquiry.call
  /-- a hook that is asked and fails is the last one, and the result is its failure -/
  failed_last : ∀ (i : Nat) (q : Inquiry) (reason : String), inquiries[i]? = some q →
    i < m.hookCalls.length → q.failure = some reason →
      m.hookCalls.length = i + 1 ∧ m.outcome = .error (.hookFailure q.label reason)

theorem Trace.Follows.disciplined {α : Type} {inquiries : List Inquiry} {m : Trace α}
    (h : m.Follows inquiries) : m.Disciplined inquiries := by
  cases h with
  | through hevents hfine hend =>
    have hcalls := hookCalls_of_events hevents
    refine ⟨hcalls ▸ List.prefix_refl _, fun _ _ => hcalls, ?_⟩
    intro i q reason hq _ hfailed
    rw [hfine q (List.mem_of_getElem? hq)] at hfailed
    cases hfailed
  | stops asked rest hsplit hevents hfine hend =>
    subst hsplit
    have hcalls := hookCalls_of_events hevents
    refine ⟨?_, ?_, ?_⟩
    · rw [hcalls, List.map_append]
      exact List.prefix_append _ _
    · intro a ha
      rw [hend] at ha
      cases ha
    · intro i q reason hq hi hfailed
      rw [hcalls, List.length_map] at hi
      rw [List.getElem?_append_left hi] at hq
      rw [hfine q (List.mem_of_getElem? hq)] at hfailed
      cases hfailed
  | refused asked rest last hsplit hevents hfine hlast hend =>
    subst hsplit
    have hcalls := hookCalls_of_events hevents
    refine ⟨?_, ?_, ?_⟩
    · rw [hcalls, List.map_append, List.map_append, List.map_cons]
      exact ⟨rest.map Inquiry.call, by rw [List.append_assoc]; rfl⟩
    · intro a ha
      rw [hend] at ha
      cases ha
    · intro i q reason hq hi hfailed
      rw [hcalls, List.length_map, List.length_append, List.length_singleton] at hi ⊢
      rcases Nat.lt_succ_iff_lt_or_eq.mp hi with hlt | rfl
      · -- the hooks before the last one have answered
        rw [List.getElem?_append_left hlt] at hq
        rw [hfine q (List.mem_of_getElem? hq)] at hfailed
        cases hfailed
      · rw [List.getElem?_append_right (Nat.le_refl _), Nat.sub_self] at hq
        cases hq
        rw [hlast] at hfailed
        cases hfailed
        exact ⟨rfl, hend⟩

namespace Planner

open Trace

/-- **Hook discipline.** The build of a valid plan asks the hooks of its statement in their order,
each at most once, all of them if it succeeds, and none after one that fails. So does the build of a
batch, for which neither the inquiries nor the hooks asked depend on the keys; it asks nothing if
the alias is not one of a batched relation. -/
theorem builds_follow_inquiries {γ : Type} (planner : Planner) (context : γ) {root : Plan γ}
    (hvalid : root.validate = .ok ()) :
    ((root.inquiries planner.dialect context .root).map Inquiry.call).Nodup ∧
    (planner.build context root).Disciplined (root.inquiries planner.dialect context .root) ∧
    (∀ p ∈ root.nodes, p.relation.isBatched = true → ∃ inquiries : List Inquiry,
      (inquiries.map Inquiry.call).Nodup ∧
      (∀ scope : KeyScope, p.inquiries planner.dialect context (.batch scope) = inquiries ∧
        (planner.buildBatch context root p.relation.label scope).Disciplined inquiries) ∧
      ∀ scope scope' : KeyScope, scope.isEmpty = false → scope'.isEmpty = false →
        (planner.buildBatch context root p.relation.label scope).hookCalls =
          (planner.buildBatch context root p.relation.label scope').hookCalls) ∧
    ∀ (label : String) (scope : KeyScope),
      (∀ p ∈ root.nodes, p.relation.isBatched = true → p.relation.label ≠ label) →
        (planner.buildBatch context root label scope).hookCalls = [] := by
  refine ⟨nodup_inquiries _ context hvalid List.mem_cons_self .root, ?_, ?_, ?_⟩
  · rw [planner.build_eq context hvalid]
    exact (planner.queryAt_follows context .root root).disciplined
  · intro p hp hbatched
    refine ⟨p.inquiries planner.dialect context (.batch .empty),
      nodup_inquiries _ context hvalid hp _, ?_, ?_⟩
    · intro scope
      refine ⟨p.inquiries_batch _ context _ _, ?_⟩
      rw [planner.buildBatch_found context hvalid hp hbatched]
      split
      · exact (Follows.fail _ _).disciplined
      · rw [p.inquiries_batch _ context .empty scope]
        exact (planner.queryAt_follows context (.batch scope) p).disciplined
    · intro scope scope' hscope hscope'
      rw [planner.buildBatch_eq context hvalid hp hbatched hscope,
        planner.buildBatch_eq context hvalid hp hbatched hscope']
      exact (planner.queryAt_batch_alike context scope scope' p).hookCalls_eq
  · intro label scope hlabel
    obtain ⟨e, he⟩ := planner.buildBatch_eq_fail context hvalid hlabel scope
    rw [he]
    rfl

/-- Users with their groups, joined through a junction that nobody may read, and with their posts in
batches. -/
def guardedGroups : Plan Unit where
  relation := {
    name := "users", table := "accounts", label := "u", uniqueKey := ["id"]
    filter := some ⟨fun _ _ _ => .ok none⟩ }
  children := [
    { relation := {
        name := "groups", table := "groups", label := "g", uniqueKey := ["id"]
        filter := some ⟨fun _ _ _ => .ok none⟩
        junction := some {
          table := "membership", label := "m"
          filter := some ⟨fun _ _ _ => .error "not allowed"⟩
          joins := some (⟨fun _ _ _ _ => .ok "TRUE"⟩, ⟨fun _ _ _ _ => .ok "TRUE"⟩) } } },
    { relation := {
        name := "posts", table := "posts", label := "p", uniqueKey := ["id"]
        filter := some ⟨fun _ _ _ => .ok none⟩
        batch := some { thisKey := "author", parentKey := "id" } } }]

/-- The filter of the junction is the last hook of the first statement; the posts of any users are
found by asking their own filter. -/
theorem build_guardedGroups_hooks :
    guardedGroups.validate = .ok () ∧
    (build ⟨.pg, {}⟩ () guardedGroups).hookCalls = [
      ⟨"u", .filter, ["\"u\""]⟩, ⟨"g", .toJunction, ["\"u\"", "\"m\""]⟩,
      ⟨"g", .toChild, ["\"m\"", "\"g\""]⟩, ⟨"g", .junctionFilter, ["\"m\""]⟩] ∧
    (build ⟨.pg, {}⟩ () guardedGroups).outcome = .error (.hookFailure "m" "not allowed") ∧
    (buildBatch ⟨.pg, {}⟩ () guardedGroups "p" (.ofList [.integer 1, .integer 2])).hookCalls =
      [⟨"p", .filter, ["\"p\""]⟩] := by
  have hvalid : guardedGroups.validate = .ok () := rfl
  obtain ⟨-, hbuild, hbatch, -⟩ := builds_follow_inquiries ⟨.pg, {}⟩ () hvalid
  have hasked : 3 < (build ⟨.pg, {}⟩ () guardedGroups).hookCalls.length := by decide +kernel
  obtain ⟨hlength, hfailure⟩ := hbuild.failed_last 3 _ "not allowed" rfl hasked rfl
  refine ⟨hvalid, ?_, hfailure, ?_⟩
  · rw [List.prefix_iff_eq_take.mp hbuild.asked_prefix, hlength]
    rfl
  · obtain ⟨inquiries, -, hfollows, -⟩ :=
      hbatch _ (List.mem_cons_of_mem _ (List.mem_cons_of_mem _ List.mem_cons_self)) rfl
    obtain ⟨hinquiries, hposts⟩ := hfollows (.ofList [.integer 1, .integer 2])
    rw [hposts.asked_all _ rfl, ← hinquiries]
    rfl

end Planner

end RelationSql
