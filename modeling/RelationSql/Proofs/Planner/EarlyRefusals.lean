import RelationSql.Dialect.Builtin
import RelationSql.Proofs.Planner.Asking
import RelationSql.Proofs.Planner.KeyColumns
import RelationSql.Proofs.Planner.Suspension
import Mathlib.Data.List.Pairwise

/-!
# Bad requests are refused early

A page whose arguments make no sense ends a build, and it does so before the filters that would have
restricted its rows are asked. What the arguments ask for is worked out in two places: the sort
columns are selected before anything else is done for a relation, and the page itself is interpreted
behind the joins that lead to it. Either of them may find the fault. They find the same one.

* `Trace.Halts` — a computation that fails on its way through inquiries, with its sequences;
* `source_halts`, `contribution_halts` — a relation with a bad page asks for its links at most, and
  `contribution_root_refused` that at the root the fault of the page is the result;
* `Plan.Surrounds` — what stands before and behind a relation in its statement;
* `queryAt_endsBefore` — a build that goes in turn ends before the filters of the relation and what
  stands behind it; `course_spares` — one whose hooks take a while asks neither those filters nor
  what lies below;
* `bad_pages_refused_first` — so it is for whole builds.
-/

namespace RelationSql

variable {γ : Type}

/-! ## Computations that fail on the way -/

/-- A computation goes through inquiries in their order and fails, at the latest behind all of
them. -/
structure Trace.Halts {α : Type} (inquiries : List Inquiry) (m : Trace α) : Prop where
  /-- it goes through them in order -/
  follows : m.Follows inquiries
  /-- there is no result -/
  fails : ∃ e, m.outcome = .error e

namespace Trace.Halts

variable {α β : Type} {xs ys : List Inquiry} {m : Trace α} {f : α → Trace β}

theorem fail (xs : List Inquiry) (e : PlanError) : Halts xs (Trace.fail e : Trace α) :=
  ⟨.fail xs e, e, rfl⟩

/-- What comes behind a failure plays no part. -/
theorem bind (h : m.Halts xs) : (m >>= f).Halts xs := by
  obtain ⟨hfollows, e, he⟩ := h
  rw [bind_eq, bind_error he]
  refine ⟨?_, e, rfl⟩
  cases hfollows with
  | through hevents hfine hend =>
    rw [he] at hend
    cases hend
  | stops asked rest hsplit hevents hfine hend => exact .stops asked rest hsplit hevents hfine rfl
  | refused asked rest q hsplit hevents hfine hfailed hend =>
    rw [he] at hend
    cases hend
    exact .refused asked rest q hsplit hevents hfine hfailed rfl

/-- A sequence whose second part fails does not get past it. -/
theorem bind_right (hm : m.Follows xs) (hf : ∀ a, (f a).Halts ys) : (m >>= f).Halts (xs ++ ys) := by
  refine ⟨hm.bind fun a => (hf a).follows, ?_⟩
  cases h : m.outcome with
  | error e => exact ⟨e, outcome_bind_error h⟩
  | ok a =>
    rw [bind_eq, bind_ok h]
    exact (hf a).fails

/-- A value that is missing is a failure, too. -/
theorem require_bind {value? : Option α} {e : PlanError} (hf : ∀ a, (f a).Halts xs) :
    (Trace.require value? e >>= f).Halts xs := by
  cases value? with
  | some a => exact hf a
  | none => exact .fail xs e

end Trace.Halts

/-! ## One relation -/

/-- The selection of the sort columns fails as the page does. -/
theorem Relation.selections_refused {r : Relation γ} {settings : PageSettings} {e e' : PlanError}
    (hpaging : r.paging settings = .error e) {position : Position γ}
    (h : r.selections position = .error e') : e' = e := by
  rw [selections, pageSelections] at h
  cases hmode : r.pagingMode? with
  | none =>
    rw [hmode] at h
    cases h
  | some mode =>
    rw [hmode] at h
    cases mode with
    | offset => cases h
    | keyset =>
      -- both read the arguments first, and the sort key of a paginated relation is there
      obtain ⟨order, horder⟩ := Option.isSome_iff_exists.mp (isSome_sortKey? hmode)
      rw [paging, hmode, keysetPaging, requireSortKey, horder] at hpaging
      rw [pagingOrder, hmode, requireSortKey, horder] at h
      cases hargs : r.pageArgs with
      | error fault =>
        rw [hargs] at h hpaging
        cases h
        cases hpaging
        rfl
      | ok args =>
        rw [hargs] at h
        cases h

namespace Planner

open Trace

variable {planner : Planner} {context : γ} {r : Relation γ} {e : PlanError}

section Refused

variable (hpaging : r.paging planner.settings = .error e)
include hpaging

/-- A page that makes no sense is not written down, and its filters are not asked. -/
theorem sourceOf_halts (hpaged : r.isPaged = true) (a : Attachment γ) :
    (planner.sourceOf context r a).Halts [] := by
  rw [sourceOf, if_pos hpaged, pageOf, pagingOf, hpaging]
  exact .bind (.require_bind fun _ => .fail [] e)

/-- **A relation with a bad page asks for its links at most.** -/
theorem source_halts (hpaged : r.isPaged = true) (position : Position γ) :
    (planner.source context position r).Halts
      (r.linkInquiries planner.dialect context position) := by
  have hsource (a : Attachment γ) : (planner.sourceOf context r a).Halts [] :=
    sourceOf_halts hpaging hpaged a
  have h := Halts.bind_right (planner.attach_follows context r position) hsource
  rwa [← source_eq, List.append_nil] at h

theorem contribution_halts (hpaged : r.isPaged = true) (position : Position γ)
    (batched : List (Deferral γ)) : (planner.contribution context position r batched).Halts
      (r.linkInquiries planner.dialect context position) := by
  rw [contribution]
  cases r.selections position with
  | error e' => exact .fail _ e'
  | ok selections => exact .bind_right (.ofExcept _) fun _ => .bind (source_halts hpaging hpaged _)

/-- **At the root the fault of the page is the result**, and no hook is asked. -/
theorem contribution_root_refused (hpaged : r.isPaged = true)
    (hsupports : planner.dialect.supports .root = true) (batched : List (Deferral γ)) :
    planner.contribution context .root r batched = .fail e := by
  rw [contribution]
  cases hselections : r.selections .root with
  | error e' =>
    rw [Relation.selections_refused hpaging hselections]
    rfl
  | ok selections =>
    -- the root hangs off nothing, and there is a layout for its page
    have hsource : planner.source context .root r = .fail e := by
      have hlayout := planner.dialect.paging.isSome_layout? r .root
      obtain ⟨layout, hlayout⟩ := Option.isSome_iff_exists.mp (hlayout.trans hsupports)
      rw [source_eq]
      change planner.sourceOf context r .root = .fail e
      rw [sourceOf, if_pos hpaged, pageOf, layoutOf, hlayout, pagingOf, hpaging]
      rfl
    rw [hsource]
    rfl

end Refused

/-- **Nothing is asked behind a relation that halts.** -/
theorem gather_halts {s : Station γ} {links : List Inquiry}
    (hs : (planner.contribution context s.position s.relation s.batched).Halts links)
    (before after : List (Station γ)) : (planner.gather context (before ++ s :: after)).Halts
      (before.flatMap (Station.inquiries planner.dialect context) ++ links) := by
  induction before with
  | nil => exact hs.bind
  | cons first rest ih =>
    rw [List.cons_append, gather, List.flatMap_cons, List.append_assoc]
    exact .bind_right (planner.contribution_follows context first) fun _ => ih.bind

/-- **A statement halts at a relation with a bad page.** -/
theorem queryAt_halts {position : Position γ} {p : Plan γ} {before after : List (Station γ)}
    {s : Station γ} (hstations : p.stations position = before ++ s :: after)
    (hpaged : s.relation.isPaged = true)
    (hpaging : s.relation.paging planner.settings = .error e) :
    (planner.queryAt context position p).Halts
      (before.flatMap (Station.inquiries planner.dialect context) ++
        s.relation.linkInquiries planner.dialect context s.position) := by
  rw [queryAt, statementAt, assemble_eq_gather, hstations]
  exact (gather_halts (contribution_halts hpaging hpaged _ _) before after).bind.bind

end Planner

/-! ## Before and behind a relation -/

namespace Plan

/-- A relation stands in the statement of a plan: there are stations before and behind it, and
relations of the plan before and behind it, with the former stations among the former relations. -/
structure Surrounds (p q : Plan γ) (position position' : Position γ)
    (before after : List (Station γ)) (front back : List (Plan γ)) : Prop where
  /-- what the statement holds -/
  stations_eq : p.stations position = before ++ (q.stations position' ++ after)
  /-- what the plan holds -/
  nodes_eq : p.nodes = front ++ (q.nodes ++ back)
  /-- stations are relations of the plan, in its order -/
  sublist : (before.map Station.relation).Sublist (front.map Plan.relation)

namespace Surrounds

variable {p q : Plan γ} {position position' : Position γ} {before after : List (Station γ)}
variable {front back : List (Plan γ)}

theorem refl (p : Plan γ) (position : Position γ) :
    Surrounds p p position position [] [] [] [] :=
  ⟨by simp, by simp, .slnil⟩

theorem trans (h : Surrounds p q position position' before after front back) {c : Plan γ}
    {position'' : Position γ} {before' after' : List (Station γ)} {front' back' : List (Plan γ)}
    (h' : Surrounds q c position' position'' before' after' front' back') :
    Surrounds p c position position'' (before ++ before') (after' ++ after) (front ++ front')
      (back' ++ back) := by
  refine ⟨?_, ?_, ?_⟩
  · rw [h.stations_eq, h'.stations_eq]
    simp only [List.append_assoc]
  · rw [h.nodes_eq, h'.nodes_eq]
    simp only [List.append_assoc]
  · rw [List.map_append, List.map_append]
    exact h.sublist.append h'.sublist

/-- A joined child stands behind its parent and the children before it, and before the others. -/
theorem child (position : Position γ) {older younger : List (Plan γ)}
    (hchildren : p.children = older ++ q :: younger) (hjoined : q.relation.isBatched = false) :
    Surrounds p q position (.joined p.relation)
      (⟨position, p.relation, batchedAmong p.relation p.children⟩ ::
        (joinedAmong older).flatMap (stations (.joined p.relation)))
      ((joinedAmong younger).flatMap (stations (.joined p.relation)))
      (p :: older.flatMap nodes) (younger.flatMap nodes) := by
  have hamong : joinedAmong p.children = joinedAmong older ++ q :: joinedAmong younger := by
    simp [joinedAmong, hchildren, hjoined]
  refine ⟨?_, ?_, ?_⟩
  · rw [Plan.stations_eq, hamong]
    simp
  · rw [nodes, descendants_eq, hchildren]
    simp
  · have holder : (joinedAmong older).Sublist older := List.filter_sublist
    have hbelow := (holder.flatMap fun c => (c.stations (.joined p.relation)).map
      Station.relation).trans
      (List.Sublist.flatMap_right older fun c _ => c.stations_sublist (.joined p.relation))
    rw [List.map_cons, List.map_cons, List.map_flatMap, List.map_flatMap]
    exact hbelow.cons_cons _

end Surrounds

/-- **Every relation of a statement stands somewhere in it.** -/
theorem exists_surrounds {p q : Plan γ} (hq : q ∈ p.joinedPart) (position : Position γ) :
    ∃ position' before after front back,
      Surrounds p q position position' before after front back := by
  induction p using rec_children generalizing position with
  | h r children ih =>
    rw [joinedPart_eq] at hq
    rcases List.mem_cons.mp hq with rfl | hq
    · exact ⟨position, [], [], [], [], .refl _ position⟩
    · obtain ⟨c, hc, hq⟩ := List.mem_flatMap.mp hq
      obtain ⟨hmem, hjoined⟩ := mem_joinedAmong.mp hc
      obtain ⟨older, younger, hchildren⟩ := List.append_of_mem hmem
      obtain ⟨position', before, after, front, back, h⟩ := ih c hmem hq (.joined r)
      have hchild := Surrounds.child (p := ⟨r, children⟩) position hchildren hjoined
      exact ⟨position', _, _, _, _, hchild.trans h⟩

/-- Before a relation stand others than it and than all that lie behind it. -/
theorem Surrounds.label_ne {p q : Plan γ} {position position' : Position γ}
    {before after : List (Station γ)} {front back : List (Plan γ)}
    (h : Surrounds p q position position' before after front back) (hnodup : p.labels.Nodup)
    {s : Station γ} (hs : s ∈ before) {c : Plan γ} (hc : c ∈ q.nodes ∨ c ∈ back) :
    s.relation.label ≠ c.relation.label := by
  rw [labels, h.nodes_eq, List.map_append] at hnodup
  obtain ⟨f, hf, hrelation⟩ := List.mem_map.mp (h.sublist.subset (List.mem_map_of_mem hs))
  rw [← hrelation]
  refine (List.nodup_append.mp hnodup).2.2 _ (List.mem_map_of_mem hf) _ ?_
  exact List.mem_map_of_mem (List.mem_append.mpr hc)

/-- Behind a relation stand others than it. -/
theorem Surrounds.label_ne_behind {p q : Plan γ} {position position' : Position γ}
    {before after : List (Station γ)} {front back : List (Plan γ)}
    (h : Surrounds p q position position' before after front back) (hnodup : p.labels.Nodup)
    {c : Plan γ} (hc : c ∈ q.descendants ∨ c ∈ back) : c.relation.label ≠ q.relation.label := by
  rw [labels, h.nodes_eq, List.map_append, nodes, List.cons_append, List.map_cons] at hnodup
  have hbehind := (List.nodup_cons.mp (List.nodup_append.mp hnodup).2.1).1
  intro heq
  exact hbehind (heq ▸ List.mem_map_of_mem (List.mem_append.mpr hc))

end Plan

/-- A relation of a valid plan that is paginated has an order. -/
theorem Plan.isPaged_of_mem_nodes {root p : Plan γ} (hvalid : root.validate = .ok ())
    (hp : p ∈ root.nodes) (hpaginate : p.relation.paginate = true) : p.relation.isPaged = true :=
  (rules_root (validate_of_mem_nodes hvalid hp)).ordered hpaginate

/-! ## Builds -/

/-- A relation that is joined in the statement of a plan asks for a page that makes no sense. The
siblings that are declared behind it are given. -/
structure Plan.BadPage (settings : PageSettings) (p q : Plan γ) (younger : List (Plan γ)) :
    Prop where
  /-- its parent is in the statement -/
  declared : ∃ parent ∈ p.joinedPart, ∃ older, parent.children = older ++ q :: younger
  /-- and so is the relation -/
  joined : q.relation.isBatched = false
  /-- it is paginated -/
  paginated : q.relation.paginate = true
  /-- there is no such page -/
  refused : ∃ e, q.relation.paging settings = .error e

namespace Plan.BadPage

variable {settings : PageSettings} {p q : Plan γ} {younger : List (Plan γ)}

theorem mem_joinedPart (h : p.BadPage settings q younger) : q ∈ p.joinedPart := by
  obtain ⟨parent, hparent, older, hchildren⟩ := h.declared
  have hq : q ∈ parent.children := hchildren ▸ List.mem_append_right _ List.mem_cons_self
  exact mem_joinedPart_of_mem_children hparent hq h.joined

theorem isPaged (h : p.BadPage settings q younger) {root : Plan γ} (hvalid : root.validate = .ok ())
    (hp : p ∈ root.nodes) : q.relation.isPaged = true := by
  have hq := (Plan.nodes_sublist hp).subset (p.joinedPart_subset h.mem_joinedPart)
  exact Plan.isPaged_of_mem_nodes hvalid hq h.paginated

end Plan.BadPage

/-- Asking a hook spares the filters of a relation, and all hooks of some others. -/
structure HookCall.Spares (call : HookCall) (q : Plan γ) (others : Plan γ → Prop) : Prop where
  /-- it is neither the filter of the relation nor that of its junction -/
  unfiltered : call.relation = q.relation.label → call.slot ≠ .filter ∧ call.slot ≠ .junctionFilter
  /-- it is no hook of the others -/
  unasked : ∀ c, others c → call.relation ≠ c.relation.label

/-- A build ends before the filters of a relation are asked, and asks nothing of some others. -/
structure Trace.EndsBefore {α : Type} (m : Trace α) (q : Plan γ) (others : Plan γ → Prop) :
    Prop where
  /-- there is no result -/
  fails : ∃ e, m.outcome = .error e
  /-- what is asked is something else -/
  spares : ∀ call ∈ m.hookCalls, call.Spares q others

/-- The links of a relation are none of its filters. -/
theorem Inquiry.spares_of_mem_linkInquiries {d : Dialect} {context : γ} {q : Plan γ}
    {position : Position γ} {i : Inquiry} (hi : i ∈ q.relation.linkInquiries d context position)
    {others : Plan γ → Prop} (hothers : ∀ c, others c → c.relation.label ≠ q.relation.label) :
    i.call.Spares q others := by
  have hslot := (slots_linkInquiries d context q.relation position).subset (List.mem_map_of_mem hi)
  refine ⟨fun _ => ⟨fun hfilter => ?_, fun hfilter => ?_⟩, fun c hc heq => ?_⟩
  · rw [hfilter] at hslot
    revert hslot
    decide
  · rw [hfilter] at hslot
    revert hslot
    decide
  · exact hothers c hc (heq.symm.trans (relation_of_mem_linkInquiries d context hi))

/-- The hooks of another relation are none of its filters. -/
theorem Inquiry.spares_of_mem_inquiries {d : Dialect} {context : γ} {q : Plan γ} {s : Station γ}
    {i : Inquiry} (hi : i ∈ s.inquiries d context) {others : Plan γ → Prop}
    (hown : s.relation.label ≠ q.relation.label)
    (hothers : ∀ c, others c → s.relation.label ≠ c.relation.label) : i.call.Spares q others := by
  have hlabel := relation_of_mem_inquiries d context hi
  exact ⟨fun heq => absurd (hlabel.symm.trans heq) hown,
    fun c hc heq => hothers c hc (hlabel.symm.trans heq)⟩

namespace Planner

open Trace

variable {planner : Planner} {context : γ} {α : Type} {m : Trace α} {q : Plan γ}
variable {others : Plan γ → Prop}

theorem endsBefore_fail (e : PlanError) : (fail e : Trace α).EndsBefore q others :=
  ⟨⟨e, rfl⟩, fun _ hcall => absurd hcall List.not_mem_nil⟩

/-- What halts at the links of a relation has asked no filter of it, and nothing of relations that
do not stand before it. -/
theorem endsBefore_of_halts {d : Dialect} {position : Position γ} {before : List (Station γ)}
    (h : m.Halts (before.flatMap (Station.inquiries d context) ++
      q.relation.linkInquiries d context position))
    (hown : ∀ s ∈ before, s.relation.label ≠ q.relation.label)
    (hothers : ∀ c, others c → c.relation.label ≠ q.relation.label ∧
      ∀ s ∈ before, s.relation.label ≠ c.relation.label) : m.EndsBefore q others := by
  refine ⟨h.fails, fun call hcall => ?_⟩
  obtain ⟨i, hi, hevent⟩ := h.follows.exists_of_mem_events (mem_hookCalls.mp hcall)
  cases hevent
  rcases List.mem_append.mp hi with hi | hi
  · obtain ⟨s, hs, hi⟩ := List.mem_flatMap.mp hi
    exact i.spares_of_mem_inquiries hi (hown s hs) fun c hc => (hothers c hc).2 s hs
  · exact i.spares_of_mem_linkInquiries hi fun c hc => (hothers c hc).1

section Valid

variable {root p : Plan γ} (hvalid : root.validate = .ok ()) (hp : p ∈ root.nodes)
include hvalid hp

/-- **A bad page of a joined relation** ends the statement that holds the relation. -/
theorem queryAt_endsBefore {younger : List (Plan γ)} (h : p.BadPage planner.settings q younger)
    (position : Position γ) : (planner.queryAt context position p).EndsBefore q
      fun c => c ∈ q.descendants ∨ c ∈ younger.flatMap Plan.nodes := by
  have hpaged := h.isPaged hvalid hp
  obtain ⟨⟨parent, hparent, older, hchildren⟩, hjoined, hpaginate, e, hpaging⟩ := h
  have hnodup := Plan.labels_nodup (Plan.validate_of_mem_nodes hvalid hp)
  obtain ⟨position', before, after, front, back, hsurrounds⟩ :=
    Plan.exists_surrounds hparent position
  have h := hsurrounds.trans (.child position' hchildren hjoined)
  have hstations := h.stations_eq
  rw [q.stations_eq, List.cons_append] at hstations
  refine endsBefore_of_halts (queryAt_halts hstations hpaged hpaging) (fun s hs => ?_) ?_
  · exact h.label_ne hnodup hs (.inl List.mem_cons_self)
  · intro c hc
    refine ⟨h.label_ne_behind hnodup (hc.imp_right (List.mem_append_left _)), fun s hs => ?_⟩
    exact h.label_ne hnodup hs (hc.imp (List.mem_cons_of_mem _) (List.mem_append_left _))

/-- **A bad page of a batched relation** ends its statement, which asks for the link from the
junction at most. -/
theorem queryAt_batch_endsBefore {e : PlanError} (hpaginate : p.relation.paginate = true)
    (hpaging : p.relation.paging planner.settings = .error e) (scope : KeyScope) :
    (planner.queryAt context (.batch scope) p).EndsBefore p
      fun c => c ∈ root.nodes ∧ c ≠ p := by
  have hpaged := Plan.isPaged_of_mem_nodes hvalid hp hpaginate
  have hstations : p.stations (.batch scope) =
      [] ++ ⟨.batch scope, p.relation, Plan.batchedAmong p.relation p.children⟩ :: _ :=
    p.stations_eq _
  refine endsBefore_of_halts (queryAt_halts hstations hpaged hpaging)
    (fun _ hs => absurd hs List.not_mem_nil) ?_
  rintro c ⟨hc, hne⟩
  refine ⟨fun hlabel => hne ?_, fun _ hs => absurd hs List.not_mem_nil⟩
  exact Plan.eq_of_label_eq (Plan.labels_nodup hvalid) hc hp hlabel

end Valid

/-! ### Hooks that take a while -/

/-- Nothing below a relation that fails is taken on. -/
theorem course_within_of_fails {P : Event → Prop} {E : PlanError → Prop} {p : Plan γ}
    {position : Position γ} {e : PlanError}
    (hevents : ∀ event ∈ (planner.own context position p).events, P event)
    (hfails : (planner.own context position p).outcome = .error e) (he : E e) :
    (planner.course context position p).Within P E := by
  rw [course_eq]
  refine .asking hevents (fun e' he' => ?_) fun own hown => ?_
  · rw [hfails] at he'
    cases he'
    exact he
  · rw [hfails] at hown
    cases hown

/-- All hooks that are asked spare the filters of a relation, and all hooks of some others. -/
def SparedBy (q : Plan γ) (others : Plan γ → Prop) (event : Event) : Prop :=
  ∀ call, event = .hook call → call.Spares q others

theorem course_within_of_halts {p : Plan γ} {position : Position γ}
    (h : (planner.own context position p).Halts
      (p.relation.linkInquiries planner.dialect context position))
    (hothers : ∀ c, others c → c.relation.label ≠ p.relation.label) :
    (planner.course context position p).Within (SparedBy p others) fun _ => True := by
  obtain ⟨hfollows, e, he⟩ := h
  refine course_within_of_fails (fun event hevent call hcall => ?_) he trivial
  obtain ⟨i, hi, rfl⟩ := hfollows.exists_of_mem_events hevent
  cases hcall
  exact i.spares_of_mem_linkInquiries hi hothers

/-- A station that is neither a relation nor below it spares both. -/
theorem contribution_spares {s : Station γ} (hs : s.relation.label ∉ q.labels) :
    ∀ event ∈ (planner.contribution context s.position s.relation s.batched).events,
      SparedBy q (fun c => c ∈ q.descendants) event := by
  intro event hevent call hcall
  obtain ⟨i, hi, rfl⟩ := (planner.contribution_follows context s).exists_of_mem_events hevent
  cases hcall
  rw [Plan.labels, Plan.nodes, List.map_cons, List.mem_cons, not_or] at hs
  refine i.spares_of_mem_inquiries hi hs.1 fun c hc heq => hs.2 ?_
  exact List.mem_map.mpr ⟨c, hc, heq.symm⟩

/-- **What lies below a relation with a bad page is never asked**, whatever is waited for. -/
theorem course_spares {p : Plan γ} (hnodup : p.labels.Nodup) (hq : q ∈ p.joinedPart)
    (hpaged : q.relation.isPaged = true) {e : PlanError}
    (hpaging : q.relation.paging planner.settings = .error e) (position : Position γ) :
    (planner.course context position p).Within (SparedBy q fun c => c ∈ q.descendants)
      fun _ => True := by
  induction p using Plan.rec_children generalizing position with
  | h r children ih =>
    rw [Plan.joinedPart_eq] at hq
    rcases List.mem_cons.mp hq with rfl | hq
    · exact course_within_of_halts (contribution_halts hpaging hpaged position _) fun c hc =>
        Plan.label_ne_of_mem_descendants hnodup hc
    · obtain ⟨c, hc, hq⟩ := List.mem_flatMap.mp hq
      have hmem := (Plan.mem_joinedAmong.mp hc).1
      rw [Plan.labels_eq, List.nodup_cons, List.nodup_flatMap] at hnodup
      obtain ⟨hroot, hchildren, hdisjoint⟩ := hnodup
      have hlabels : q.labels ⊆ c.labels :=
        ((Plan.nodes_sublist (c.joinedPart_subset hq)).map _).subset
      rw [course_eq]
      refine .asking (contribution_spares (s := ⟨position, r, _⟩) fun h => ?_)
        (fun _ _ => trivial) fun _ _ => List.forall_mem_map.mpr fun c' hc' => ?_
      · exact hroot (List.mem_flatMap.mpr ⟨c, hmem, hlabels h⟩)
      · have hmem' := (Plan.mem_joinedAmong.mp hc').1
        by_cases heq : c' = c
        · exact heq ▸ ih c hmem (hchildren c hmem) hq _
        · -- relations below another child have other aliases
          refine planner.within_course context (fun s hs => contribution_spares fun h => ?_)
            fun _ _ _ _ => trivial
          have hs := ((c'.stations_sublist (.joined r)).map Relation.label).subset
            (List.mem_map_of_mem (List.mem_map_of_mem hs))
          rw [List.map_map] at hs
          have : Std.Symm (Function.onFun List.Disjoint (Plan.labels (γ := γ))) :=
            ⟨fun _ _ h _ ha hb => h hb ha⟩
          exact hdisjoint.forall hmem' hmem heq hs (hlabels h)

section Suspended

variable {root p : Plan γ} (hvalid : root.validate = .ok ()) (hp : p ∈ root.nodes)
variable {slow : Event → Prop} {position : Position γ} {m : Trace Query}

/-- A query that cannot be had in turn ends as its relations do. -/
theorem endsBefore_of_mayQuery (hm : planner.MayQuery slow context position p m)
    (hwithin : (planner.course context position p).Within (SparedBy q others) fun _ => True)
    (hfails : ∃ e, (planner.queryAt context position p).outcome = .error e) :
    m.EndsBefore q others := by
  obtain ⟨hevents, hends⟩ := hm.ends hwithin
  refine ⟨?_, fun call hcall => hevents _ (mem_hookCalls.mp hcall) call rfl⟩
  rcases hends with ⟨e, -, he⟩ | hends
  · exact ⟨e, he⟩
  · rwa [hends]

include hvalid

/-- **At the root the fault of the page is the result**, whatever may be waited for. -/
theorem eq_fail_of_mayQuery (hpaginate : root.relation.paginate = true)
    (hsupports : planner.dialect.supports .root = true) {e : PlanError}
    (hpaging : root.relation.paging planner.settings = .error e)
    (hm : planner.MayQuery slow context .root root m) : m = .fail e := by
  have hpaged := Plan.isPaged_of_mem_nodes hvalid List.mem_cons_self hpaginate
  have hrefused (batched : List (Deferral γ)) :
      planner.contribution context .root root.relation batched = .fail e :=
    contribution_root_refused hpaging hpaged hsupports batched
  have hwithin : (planner.course context .root root).Within (fun _ => False) (· = e) := by
    refine course_within_of_fails ?_ (congrArg Trace.outcome (hrefused _)) rfl
    rw [own, hrefused]
    exact fun _ h => absurd h List.not_mem_nil
  have hquery : planner.queryAt context .root root = .fail e := by
    rw [queryAt, statementAt, assemble_eq_gather, Plan.stations_eq, gather, hrefused]
    rfl
  obtain ⟨hevents, hends⟩ := hm.ends hwithin
  have houtcome : m.outcome = .error e := by
    rcases hends with ⟨_, rfl, he⟩ | hends
    · exact he
    · rw [hends, hquery]
      rfl
  obtain ⟨events, outcome⟩ := m
  obtain rfl : events = [] := List.eq_nil_iff_forall_not_mem.mpr hevents
  obtain rfl : outcome = .error e := houtcome
  rfl

include hp

/-- A bad page of a joined relation, if something may be waited for. -/
theorem endsBefore_of_badPage {younger : List (Plan γ)} (h : p.BadPage planner.settings q younger)
    (hm : planner.MayQuery slow context position p m) :
    m.EndsBefore q (fun c => c ∈ q.descendants) ∧
      ((∀ event, ¬slow event) →
        m.EndsBefore q fun c => c ∈ q.descendants ∨ c ∈ younger.flatMap Plan.nodes) := by
  have hturn : (planner.queryAt context position p).EndsBefore q _ :=
    queryAt_endsBefore hvalid hp h position
  refine ⟨?_, fun hslow => hm.eq_queryAt hslow ▸ hturn⟩
  have hnodup := Plan.labels_nodup (Plan.validate_of_mem_nodes hvalid hp)
  obtain ⟨e, hpaging⟩ := h.refused
  exact endsBefore_of_mayQuery hm
    (course_spares hnodup h.mem_joinedPart (h.isPaged hvalid hp) hpaging position) hturn.fails

/-- A bad page of a batched relation, if something may be waited for. -/
theorem endsBefore_of_batch {e : PlanError} (hpaginate : p.relation.paginate = true)
    (hpaging : p.relation.paging planner.settings = .error e) {scope : KeyScope}
    (hm : planner.MayQuery slow context (.batch scope) p m) :
    m.EndsBefore p fun c => c ∈ root.nodes ∧ c ≠ p := by
  have hturn : (planner.queryAt context (.batch scope) p).EndsBefore p _ :=
    queryAt_batch_endsBefore hvalid hp hpaginate hpaging scope
  have hpaged := Plan.isPaged_of_mem_nodes hvalid hp hpaginate
  have hhalts : (planner.own context (.batch scope) p).Halts _ :=
    contribution_halts hpaging hpaged _ _
  refine endsBefore_of_mayQuery hm (course_within_of_halts hhalts ?_) hturn.fails
  rintro c ⟨hc, hne⟩ hlabel
  exact hne (Plan.eq_of_label_eq (Plan.labels_nodup hvalid) hc hp hlabel)

end Suspended

/-- **Bad requests are refused before filters are asked**, in every way in which a build may come
about. If the page that the root of a valid plan asks for makes no sense, and its dialect supports
pages at the root, the build ends with that fault and asks no hook. If it is the page of a joined
relation, in the statement of the plan or of a batch, or that of the batched relation itself, the
build fails without asking the filters of the relation and its junction, nor any hook of the
relations below it. If all hooks answer at once, no hook of the siblings declared behind a joined
relation and of what lies below them is asked, either. -/
theorem bad_pages_refused_first (planner : Planner) (context : γ) (slow : Event → Prop)
    {root : Plan γ} (hvalid : root.validate = .ok ()) :
    (∀ m, planner.MayBuild slow context root m →
      (root.relation.paginate = true → planner.dialect.supports .root = true →
        ∀ e, root.relation.paging planner.settings = .error e → m = .fail e) ∧
      ∀ q younger, root.BadPage planner.settings q younger →
        m.EndsBefore q (fun c => c ∈ q.descendants) ∧
        ((∀ event, ¬slow event) →
          m.EndsBefore q fun c => c ∈ q.descendants ∨ c ∈ younger.flatMap Plan.nodes)) ∧
    ∀ p ∈ root.nodes, p.relation.isBatched = true → ∀ (scope : KeyScope) (m : Trace Query),
      planner.MayBuildBatch slow context root p.relation.label scope m →
      (p.relation.paginate = true → ∀ e, p.relation.paging planner.settings = .error e →
        m.EndsBefore p fun c => c ∈ root.nodes ∧ c ≠ p) ∧
      ∀ q younger, p.BadPage planner.settings q younger →
        m.EndsBefore q (fun c => c ∈ q.descendants) ∧
        ((∀ event, ¬slow event) →
          m.EndsBefore q fun c => c ∈ q.descendants ∨ c ∈ younger.flatMap Plan.nodes) := by
  refine ⟨fun m hm => ?_, fun p hp hbatched scope m hm => ?_⟩
  · have hquery := (mayBuild_iff hvalid).mp hm
    refine ⟨fun hpaginate hsupports e hpaging => ?_, fun q younger h => ?_⟩
    · exact eq_fail_of_mayQuery hvalid hpaginate hsupports hpaging hquery
    · exact endsBefore_of_badPage hvalid List.mem_cons_self h hquery
  · have hquery := hm.query hvalid hp hbatched
    split at hquery
    · subst hquery
      exact ⟨fun _ _ _ => endsBefore_fail _,
        fun _ _ _ => ⟨endsBefore_fail _, fun _ => endsBefore_fail _⟩⟩
    · exact ⟨fun hpaginate e hpaging => endsBefore_of_batch hvalid hp hpaginate hpaging hquery,
        fun q younger h => endsBefore_of_badPage hvalid hp h hquery⟩

/-- A page of posts with their likes, for some arguments. -/
def postsPage (args : Args) : Plan Unit where
  relation := {
    name := "posts", table := "posts", label := "p", args, uniqueKey := ["id"]
    filter := some ⟨fun table _ _ => .ok (some s!"{table}.visible")⟩
    join := some ⟨fun parent child _ _ => .ok s!"{parent}.id = {child}.author"⟩
    sortKey := some [⟨"id", .asc⟩], paginate := true }
  children := [{
    relation := {
      name := "likes", table := "likes", label := "l", uniqueKey := ["id"]
      join := some ⟨fun parent child _ _ => .ok s!"{parent}.id = {child}.post"⟩ } }]

/-- The notes of users. -/
def notes : Plan Unit where
  relation := {
    name := "notes", table := "notes", label := "n", uniqueKey := ["id"]
    join := some ⟨fun parent child _ _ => .ok s!"{parent}.id = {child}.user"⟩ }

/-- The groups of users, page by page in batches, for some arguments. -/
def groupsPage (args : Args) : Plan Unit where
  relation := {
    name := "groups", table := "groups", label := "g", args, uniqueKey := ["id"], paginate := true
    junction := some {
      table := "members", label := "m", orderBy := some [⟨"rank", .asc⟩]
      filter := some ⟨fun table _ _ => .ok (some s!"{table}.active")⟩
      batch := some {
        thisKey := "user", parentKey := "id"
        join := some ⟨fun parent child _ _ => .ok s!"{parent}.group = {child}.id"⟩ } } }

/-- A page of users with their posts, notes and groups, each for some arguments. -/
def usersPage (users posts groups : Args) : Plan Unit where
  relation := {
    name := "users", table := "accounts", label := "u", args := users, uniqueKey := ["id"]
    filter := some ⟨fun table _ _ => .ok (some s!"{table}.active")⟩
    sortKey := some [⟨"id", .asc⟩], paginate := true }
  children := [postsPage posts, notes, groupsPage groups]

/-- The first posts, with a cursor that goes with the last ones. -/
def badPosts : Args := [("first", .integer 2), ("before", .text "?")]

/-- The last groups, which cannot be found by counting. -/
def badGroups : Args := [("last", .text " 2 ")]

/-- A cursor of the users that is none is found before their filter is asked, a cursor of the posts
on the wrong side behind the join that leads to them, and a bad page of the groups behind the join
from their junction. -/
theorem usersPage_refused :
    build ⟨.mariadb, {}⟩ () (usersPage [("after", .text "?")] [] []) =
      .fail (.invalidCursor .notBase64) ∧
    (build ⟨.pg, {}⟩ () (usersPage [] badPosts [])).EndsBefore (postsPage badPosts) (fun c =>
      c ∈ (postsPage badPosts).descendants ∨ c ∈ [notes, groupsPage []].flatMap Plan.nodes) ∧
    (build ⟨.pg, {}⟩ () (usersPage [] badPosts [])).hookCalls =
      [⟨"u", .filter, ["\"u\""]⟩, ⟨"p", .join, ["\"u\"", "\"p\""]⟩] ∧
    (buildBatch ⟨.oracle, {}⟩ () (usersPage [] [] badGroups) "g" (.ofList [.integer 1])).EndsBefore
      (groupsPage badGroups)
      (fun c => c ∈ (usersPage [] [] badGroups).nodes ∧ c ≠ groupsPage badGroups) ∧
    (buildBatch ⟨.oracle, {}⟩ () (usersPage [] [] badGroups) "g" (.ofList [.integer 1])).hookCalls =
      [⟨"g", .batchJoin, ["\"m\"", "\"g\""]⟩] := by
  have hnone : ∀ event, ¬(fun _ : Event => False) event := fun _ h => h
  obtain ⟨hroot, -⟩ := bad_pages_refused_first ⟨.mariadb, {}⟩ () (fun _ => True)
    (rfl : (usersPage [("after", .text "?")] [] []).validate = .ok ())
  obtain ⟨hjoined, -⟩ := bad_pages_refused_first ⟨.pg, {}⟩ () (fun _ => False)
    (rfl : (usersPage [] badPosts []).validate = .ok ())
  obtain ⟨-, hbatch⟩ := bad_pages_refused_first ⟨.oracle, {}⟩ () (fun _ => True)
    (rfl : (usersPage [] [] badGroups).validate = .ok ())
  have hgroups : groupsPage badGroups ∈ (usersPage [] [] badGroups).nodes :=
    .tail _ (.tail _ (.tail _ (.tail _ (.head _))))
  refine ⟨(hroot _ (mayBuild_build ..)).1 rfl rfl _ rfl, ?_, rfl, ?_, rfl⟩
  · exact ((hjoined _ (mayBuild_build ..)).2 _ _ ⟨⟨_, .head _, [], rfl⟩, rfl, rfl, _, rfl⟩).2 hnone
  · exact (hbatch _ hgroups rfl _ _ (mayBuildBatch_buildBatch ..)).1 rfl _ rfl

/-- Users with notes in batches, each with a bad page of posts. -/
def usersWithBadNotes : Plan Unit where
  relation := { name := "users", table := "accounts", label := "u", uniqueKey := ["id"] }
  children := [{
    relation := {
      name := "notes", table := "notes", label := "n", uniqueKey := ["id"]
      batch := some { thisKey := "user", parentKey := "id" } }
    children := [postsPage badPosts] }]

/-- A bad page that lies below a batched relation does not end the build of the plan, to which it
does not belong. And while the join of posts with a bad page is waited for, the join of the notes,
which are declared behind them, may be asked. -/
theorem bad_pages_passed_over :
    (usersWithBadNotes.validate = .ok () ∧ postsPage badPosts ∈ usersWithBadNotes.nodes ∧
      (postsPage badPosts).relation.isBatched = false ∧
      (postsPage badPosts).relation.paginate = true ∧
      Dialect.pg.supports .joinedOneToMany = true ∧
      (∃ e, (postsPage badPosts).relation.paging {} = .error e) ∧
      ∃ query, (build ⟨.pg, {}⟩ () usersWithBadNotes).outcome = .ok query) ∧
    (usersPage [] badPosts []).validate = .ok () ∧
    (usersPage [] badPosts []).BadPage {} (postsPage badPosts) [notes, groupsPage []] ∧
    ∃ m, MayBuild ⟨.pg, {}⟩ (· = .hook ⟨"p", .join, ["\"u\"", "\"p\""]⟩) ()
        (usersPage [] badPosts []) m ∧
      m.hookCalls = [⟨"u", .filter, ["\"u\""]⟩, ⟨"p", .join, ["\"u\"", "\"p\""]⟩,
        ⟨"n", .join, ["\"u\"", "\"n\""]⟩] ∧
      ¬m.EndsBefore (postsPage badPosts) (fun c =>
        c ∈ (postsPage badPosts).descendants ∨ c ∈ [notes, groupsPage []].flatMap Plan.nodes) := by
  refine ⟨⟨rfl, .tail _ (.tail _ (.head _)), rfl, rfl, rfl, ⟨_, rfl⟩, _, rfl⟩, rfl,
    ⟨⟨_, .head _, [], rfl⟩, rfl, rfl, _, rfl⟩, ?_⟩
  have hm : MayQuery ⟨.pg, {}⟩ (· = .hook ⟨"p", .join, ["\"u\"", "\"p\""]⟩) () .root
      (usersPage [] badPosts []) _ := mayQuery_overtaking rfl rfl rfl rfl
  refine ⟨_, (mayBuild_iff rfl).mpr hm, rfl, fun h => ?_⟩
  have hnotes := h.spares _ (.tail _ (.tail _ (.head _)))
  exact hnotes.unasked notes (.inr (.head _)) rfl

end Planner

end RelationSql
