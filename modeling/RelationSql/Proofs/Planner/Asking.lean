import RelationSql.Proofs.Planner.Composition
import RelationSql.Proofs.Planner.Inquiries

/-!
# How a build asks its hooks

All that a build does outside is to ask the hooks of its statement. It goes through the inquiries in
their order; it may end early, for one of many reasons, but it never skips a hook, and one that
fails is the last. In particular nothing is handed to the database meanwhile.

* `Trace.Follows` — how a computation goes through inquiries, with `Follows.bind` for sequences;
* `gather_follows` — a statement follows the inquiries of its stations;
* `queryAt_quiet` — a build hands nothing to the database.
-/

namespace RelationSql

/-! ## Computations that ask hooks -/

/-- What happens when a hook is asked. -/
def Inquiry.event (q : Inquiry) : Event := .hook q.call

namespace Trace

variable {α β : Type}

/-- A computation goes through inquiries in their order. -/
inductive Follows (inquiries : List Inquiry) (m : Trace α) : Prop where
  /-- it asks all hooks, and none of them fails -/
  | through {a : α} (hevents : m.events = inquiries.map Inquiry.event)
      (hfine : ∀ q ∈ inquiries, q.failure = none) (hend : m.outcome = .ok a)
  /-- it ends after some of them for a reason of its own -/
  | stops (asked rest : List Inquiry) {e : PlanError} (hsplit : inquiries = asked ++ rest)
      (hevents : m.events = asked.map Inquiry.event) (hfine : ∀ q ∈ asked, q.failure = none)
      (hend : m.outcome = .error e)
  /-- it ends with the failure of a hook -/
  | refused (asked rest : List Inquiry) (q : Inquiry) {reason : String}
      (hsplit : inquiries = asked ++ q :: rest)
      (hevents : m.events = (asked ++ [q]).map Inquiry.event)
      (hfine : ∀ q ∈ asked, q.failure = none) (hfailed : q.failure = some reason)
      (hend : m.outcome = .error (.hookFailure q.label reason))

theorem hookCalls_of_events {m : Trace α} {asked : List Inquiry}
    (h : m.events = asked.map Inquiry.event) : m.hookCalls = asked.map Inquiry.call := by
  rw [hookCalls, h, List.filterMap_map]
  exact congrFun (List.filterMap_eq_map (f := Inquiry.call)) asked

theorem mem_hookCalls {m : Trace α} {call : HookCall} :
    call ∈ m.hookCalls ↔ Event.hook call ∈ m.events := by
  rw [hookCalls, List.mem_filterMap]
  constructor
  · rintro ⟨event, hevent, hcall⟩
    cases event with
    | hook _ =>
      cases hcall
      exact hevent
    | statement _ => cases hcall
  · exact fun h => ⟨_, h, rfl⟩

theorem quiet_of_events {m : Trace α} {asked : List Inquiry}
    (h : m.events = asked.map Inquiry.event) : m.Quiet := by
  rw [Quiet, statements, h, List.filterMap_map]
  exact List.filterMap_eq_nil_iff.mpr fun q _ => rfl

namespace Follows

variable {xs ys : List Inquiry} {m : Trace α} {f : α → Trace β}

theorem pure (a : α) : Follows [] (pure a) :=
  .through rfl (fun _ hq => absurd hq List.not_mem_nil) rfl

/-- A computation that fails at once follows any inquiries. -/
theorem fail (xs : List Inquiry) (e : PlanError) : Follows xs (fail e : Trace α) :=
  .stops [] xs rfl rfl (fun _ hq => absurd hq List.not_mem_nil) rfl

theorem ofExcept (result : Except PlanError α) : Follows [] (ofExcept result) := by
  cases result with
  | ok a => exact .pure a
  | error e => exact .fail [] e

/-- Asking one hook. -/
theorem hook (call : HookCall) (label : String) (answer : Except String α) :
    Follows [⟨call, label, reason? answer⟩]
      (happen (.hook call) (answer.mapError (.hookFailure label))) := by
  cases answer with
  | ok a => exact .through rfl (fun q hq => by rw [List.mem_singleton.mp hq]; rfl) rfl
  | error reason =>
    exact .refused [] [] _ rfl rfl (fun _ hq => absurd hq List.not_mem_nil) rfl rfl

/-- **A sequence follows the inquiries of its parts.** -/
theorem bind (hm : m.Follows xs) (hf : ∀ a, (f a).Follows ys) : (m >>= f).Follows (xs ++ ys) := by
  rw [bind_eq]
  cases hm with
  | stops asked rest hsplit hevents hfine hend =>
    rw [bind_error hend]
    refine .stops asked (rest ++ ys) ?_ hevents hfine rfl
    rw [hsplit, List.append_assoc]
  | refused asked rest q hsplit hevents hfine hfailed hend =>
    rw [bind_error hend]
    refine .refused asked (rest ++ ys) q ?_ hevents hfine hfailed rfl
    rw [hsplit, List.append_assoc, List.cons_append]
  | @through a hevents hfine hend =>
    -- the second part is reached; what it asks comes behind all of the first part
    rw [bind_ok hend, hevents]
    cases hf a with
    | through hevents' hfine' hend' =>
      refine .through ?_ ?_ hend'
      · rw [hevents', List.map_append]
      · exact fun q hq => (List.mem_append.mp hq).elim (hfine q) (hfine' q)
    | stops asked rest hsplit hevents' hfine' hend' =>
      refine .stops (xs ++ asked) rest ?_ ?_ ?_ hend'
      · rw [hsplit, List.append_assoc]
      · rw [hevents', List.map_append]
      · exact fun q hq => (List.mem_append.mp hq).elim (hfine q) (hfine' q)
    | refused asked rest q hsplit hevents' hfine' hfailed hend' =>
      refine .refused (xs ++ asked) rest q ?_ ?_ ?_ hfailed hend'
      · rw [hsplit, List.append_assoc]
      · rw [hevents', List.append_assoc, ← List.map_append]
      · exact fun q hq => (List.mem_append.mp hq).elim (hfine q) (hfine' q)

/-- What comes behind the last hook asks nothing. -/
theorem bind_nil (hm : m.Follows xs) (hf : ∀ a, (f a).Follows []) : (m >>= f).Follows xs := by
  have h := hm.bind hf
  rwa [List.append_nil] at h

theorem map (hm : m.Follows xs) (g : α → β) : (m >>= fun a => Pure.pure (g a)).Follows xs :=
  hm.bind_nil fun a => .pure (g a)

/-- A hook comes before the rest. -/
theorem cons {q : Inquiry} (hm : m.Follows [q]) (hf : ∀ a, (f a).Follows ys) :
    (m >>= f).Follows (q :: ys) :=
  hm.bind hf

/-- A result without hooks. -/
theorem ofExcept_bind {result : Except PlanError α} (hf : ∀ a, (f a).Follows xs) :
    (Trace.ofExcept result >>= f).Follows xs :=
  (Follows.ofExcept result).bind hf

/-- A value that is missing ends a computation before it asks. -/
theorem require_bind {value? : Option α} {e : PlanError}
    (hf : ∀ a, value? = some a → (f a).Follows xs) : (Trace.require value? e >>= f).Follows xs := by
  cases value? with
  | some a => exact hf a rfl
  | none => exact .fail xs e

/-- All that happens is that hooks among the inquiries are asked. -/
theorem exists_of_mem_events (h : m.Follows xs) {event : Event} (hevent : event ∈ m.events) :
    ∃ q ∈ xs, q.event = event := by
  cases h with
  | through hevents =>
    rw [hevents] at hevent
    exact List.mem_map.mp hevent
  | stops asked rest hsplit hevents =>
    rw [hevents] at hevent
    obtain ⟨q, hq, hevent⟩ := List.mem_map.mp hevent
    exact ⟨q, hsplit ▸ List.mem_append_left _ hq, hevent⟩
  | refused asked rest last hsplit hevents =>
    rw [hevents] at hevent
    obtain ⟨q, hq, hevent⟩ := List.mem_map.mp hevent
    refine ⟨q, ?_, hevent⟩
    rw [hsplit, List.append_cons]
    exact List.mem_append_left _ hq

theorem quiet (h : m.Follows xs) : m.Quiet := by
  cases h with
  | through hevents => exact quiet_of_events hevents
  | stops asked rest hsplit hevents => exact quiet_of_events hevents
  | refused asked rest q hsplit hevents => exact quiet_of_events hevents

end Follows

end Trace

/-! ## Builds follow their inquiries -/

namespace Planner

open Trace

variable {γ : Type} (planner : Planner) (context : γ) (r : Relation γ)

theorem askJoin_follows (slot : HookSlot) (parent child : String) (hook : JoinHook γ) :
    (planner.askJoin context r slot parent child hook).Follows
      [.ofJoin planner.dialect context r slot parent child hook] :=
  .hook _ _ _

theorem filterConditions_follows (slot : HookSlot) (label : String)
    (hook? : Option (FilterHook γ)) : (planner.filterConditions context r slot label hook?).Follows
      (hook?.toList.map (.ofFilter planner.dialect context r slot label)) := by
  cases hook? with
  | none => exact .pure _
  | some hook =>
    have h := Follows.hook ⟨r.label, slot, [planner.dialect.quote label]⟩ label
      (hook.condition (planner.dialect.quote label) r.args context)
    rw [FilterHook.condition, reason?_map] at h
    exact h.map _

/-- The filters are asked in the order junction, relation. -/
theorem conditions_follows :
    (planner.conditions context r).Follows (r.filterInquiries planner.dialect context) := by
  refine .bind ?_ fun _ => .map (planner.filterConditions_follows context r _ _ _) _
  rw [junctionConditions, Relation.junctionInquiries]
  cases r.junction with
  | none => exact .pure _
  | some j => exact planner.filterConditions_follows context r _ _ _

/-- A relation is attached by asking for its links. -/
theorem attach_follows (position : Position γ) : (planner.attach context r position).Follows
    (r.linkInquiries planner.dialect context position) := by
  rw [attach.eq_def]
  cases position with
  | root => exact .pure _
  | joined parent =>
    rw [Relation.linkInquiries]
    cases r.junction with
    | none =>
      refine .require_bind fun hook hhook => ?_
      rw [hhook]
      exact .map (planner.askJoin_follows context r _ _ _ hook) _
    | some j =>
      refine .require_bind fun hooks hhooks => ?_
      dsimp only
      rw [hhooks]
      exact .cons (planner.askJoin_follows context r _ _ _ hooks.1) fun _ =>
        .map (planner.askJoin_follows context r _ _ _ hooks.2) _
  | batch scope =>
    rw [Relation.linkInquiries]
    cases r.junction with
    | none => exact .require_bind fun keys _ => .pure _
    | some j =>
      refine .require_bind fun keys _ => .require_bind fun hook hhook => ?_
      dsimp only
      rw [hhook]
      exact .map (planner.askJoin_follows context r _ _ _ hook.2) _

/-- What is attached is written down by asking for the conditions on its rows. -/
theorem sourceOf_follows (a : Attachment γ) : (planner.sourceOf context r a).Follows
    (r.filterInquiries planner.dialect context) := by
  rw [sourceOf]
  split
  · refine .map (.require_bind fun _ _ => ?_) _
    exact .ofExcept_bind fun _ => .map (.map (planner.conditions_follows context r) _) _
  · exact .map (planner.conditions_follows context r) _

/-- **The source of a station follows its inquiries.** -/
theorem source_follows (position : Position γ) : (planner.source context position r).Follows
    (r.linkInquiries planner.dialect context position ++
      r.filterInquiries planner.dialect context) := by
  rw [source_eq]
  exact .bind (planner.attach_follows context r position) (planner.sourceOf_follows context r)

theorem contribution_follows (s : Station γ) :
    (planner.contribution context s.position s.relation s.batched).Follows
      (s.inquiries planner.dialect context) :=
  .ofExcept_bind fun _ => .bind_nil (planner.source_follows context s.relation s.position)
    fun _ => .ofExcept_bind fun _ => .pure _

/-- **What stations contribute follows their inquiries**, one station after the other. -/
theorem gather_follows (ss : List (Station γ)) : (planner.gather context ss).Follows
    (ss.flatMap (Station.inquiries planner.dialect context)) := by
  induction ss with
  | nil => exact .pure _
  | cons s rest ih =>
    rw [List.flatMap_cons, gather]
    exact .bind (planner.contribution_follows context s) fun _ => ih.map _

theorem queryAt_follows (position : Position γ) (p : Plan γ) :
    (planner.queryAt context position p).Follows
      (p.inquiries planner.dialect context position) := by
  refine .map ?_ _
  rw [statementAt, assemble_eq_gather]
  refine .bind_nil (planner.gather_follows context (p.stations position)) fun statement => ?_
  split
  · exact .fail _ _
  · exact .pure _

/-- **A build hands nothing to the database.** -/
theorem queryAt_quiet (position : Position γ) (p : Plan γ) :
    (planner.queryAt context position p).Quiet :=
  (planner.queryAt_follows context position p).quiet

theorem build_quiet (p : Plan γ) : (planner.build context p).Quiet :=
  .bind (.ofExcept _) fun _ => planner.queryAt_quiet context .root p

theorem buildBatch_quiet (p : Plan γ) (label : String) (scope : KeyScope) :
    (planner.buildBatch context p label scope).Quiet := by
  refine .bind (.ofExcept _) fun _ => .bind (.require _ _) fun _ => ?_
  dsimp only
  split
  · exact .fail _
  · split
    · exact .fail _
    · exact planner.queryAt_quiet context _ _

end Planner

end RelationSql
