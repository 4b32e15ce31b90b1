import RelationSql.Dialect.Builtin
import RelationSql.Proofs.Plan.Validity
import RelationSql.Proofs.Planner.Asking
import RelationSql.Proofs.Planner.Faults
import RelationSql.Proofs.Planner.PageReads
import RelationSql.Proofs.Planner.Suspension

/-!
# Which pages a dialect supports

A dialect says which techniques it supports. Whether a statement can be built is decided elsewhere:
each kind of page looks at what the dialect offers and gives up or goes on, somewhere in the middle
of a build and at any depth. The two agree. If the hooks answer and the arguments make sense, a
build is refused exactly if its statement has a page whose technique is not supported. One such page
is named, and it is the first one if the hooks answer at once.

* `Trace.Ends` — how a computation ends, with `Ends.bind` for sequences;
* `source_ends` — one relation is refused by its technique;
* `gather_ends` — a statement that is built in turn is refused by the first of its relations that
  is, and `course_within_refusals` that one whose hooks take a while is refused by one of them;
* `refusals_told` — so it is for whole builds.
-/

namespace RelationSql

variable {γ : Type}

/-! ## How computations end -/

/-- A computation ends with the given error, or well if there is none. -/
inductive Trace.Ends {α : Type} (m : Trace α) : Option PlanError → Prop where
  /-- it gives a result -/
  | well {a : α} (h : m.outcome = .ok a) : Ends m none
  /-- it fails -/
  | badly {e : PlanError} (h : m.outcome = .error e) : Ends m (some e)

namespace Trace.Ends

variable {α β : Type} {m : Trace α} {f : α → Trace β} {e? e'? : Option PlanError}

theorem pure (a : α) : Ends (pure a) none := .well rfl

/-- A part that ends well plays no part, but for its result. -/
theorem bind_of_ok (hm : m.Ends none) (hf : ∀ a, m.outcome = .ok a → (f a).Ends e?) :
    (m >>= f).Ends e? := by
  cases hm with
  | @well a h =>
    rw [bind_eq, bind_ok h]
    cases hf a h with
    | well h => exact .well h
    | badly h => exact .badly h

theorem well_bind (hm : m.Ends none) (hf : ∀ a, (f a).Ends e?) : (m >>= f).Ends e? :=
  hm.bind_of_ok fun a _ => hf a

/-- **The first part that fails decides how a sequence ends.** -/
theorem bind (hm : m.Ends e?) (hf : ∀ a, (f a).Ends e'?) : (m >>= f).Ends (e?.or e'?) := by
  cases hm with
  | badly h => exact .badly (outcome_bind_error h)
  | well h =>
    rw [Option.none_or]
    exact well_bind (.well h) hf

theorem map (hm : m.Ends e?) (g : α → β) : (m >>= fun a => Pure.pure (g a)).Ends e? := by
  have h := hm.bind fun a => pure (g a)
  rwa [Option.or_none] at h

theorem ofExcept {result : Except PlanError α} (h : ∃ a, result = .ok a) :
    (Trace.ofExcept result).Ends none := by
  obtain ⟨a, rfl⟩ := h
  exact .well rfl

/-- What is required is there. -/
theorem require_bind {value? : Option α} {a : α} (h : value? = some a) {e : PlanError}
    (hf : (f a).Ends e?) : (Trace.require value? e >>= f).Ends e? := by
  rw [h]
  exact hf

/-- A hook that answers. -/
theorem hook {answer : Except String α} (h : reason? answer = none) (call : HookCall)
    (label : String) : (happen (.hook call) (answer.mapError (.hookFailure label))).Ends none := by
  cases answer with
  | ok a => exact .well rfl
  | error reason => cases h

end Trace.Ends

/-! ## Techniques -/

/-- The technique by which the pages of a relation are fetched in a position. -/
def Relation.technique (r : Relation γ) : Position γ → Technique
  | .root => .root
  | .joined _ => if r.junction.isSome then .joinedManyToMany else .joinedOneToMany
  | .batch _ => if r.junction.isSome then .batchedManyToMany else .batchedOneToMany

/-- What a relation comes to in a position goes with the technique of the position. -/
theorem Relation.Attaches.technique_eq {d : Dialect} {context : γ} {r : Relation γ}
    {position : Position γ} {a : Attachment γ} (h : r.Attaches d context position a) :
    a.technique = r.technique position := by
  cases h with
  | root => rfl
  | parent hj | junction hj | keys hj | junctionKeys hj =>
    rw [Relation.technique, hj]
    rfl

/-- The techniques of the paginated relations of a statement, parents before children and children
in declared order. -/
def Plan.pageTechniques (position : Position γ) (p : Plan γ) : List Technique :=
  ((p.stations position).filter fun s => s.relation.paginate).map fun s =>
    s.relation.technique s.position

namespace Planner

open Trace

variable (planner : Planner) (context : γ)

/-- The error of a technique that the dialect does not support. -/
def refusal? (technique : Technique) : Option PlanError :=
  if planner.dialect.supports technique then none
  else some (.unsupportedPagination planner.dialect.name technique)

/-- The error of the page of a relation, if it has one and it is not supported. -/
def pageRefusal? (position : Position γ) (r : Relation γ) : Option PlanError :=
  if r.isPaged then planner.refusal? (r.technique position) else none

/-! ## One relation -/

section Relation

variable {planner context} {r : Relation γ}

theorem filterConditions_ends {slot : HookSlot} {label : String} {hook? : Option (FilterHook γ)}
    (h : ∀ q ∈ hook?.toList.map (Inquiry.ofFilter planner.dialect context r slot label),
      q.failure = none) :
    (planner.filterConditions context r slot label hook?).Ends none := by
  cases hook? with
  | none => exact .pure _
  | some hook =>
    have hanswer :
        reason? (hook.condition (planner.dialect.quote label) r.args context) = none := by
      rw [FilterHook.condition, reason?_map]
      exact h _ List.mem_cons_self
    exact (Ends.hook hanswer _ label).map _

theorem askJoin_ends {slot : HookSlot} {parent child : String} {hook : JoinHook γ}
    (h : (Inquiry.ofJoin planner.dialect context r slot parent child hook).failure = none) :
    (planner.askJoin context r slot parent child hook).Ends none :=
  .hook h _ child

section Filters

variable (hfilters : ∀ q ∈ r.filterInquiries planner.dialect context, q.failure = none)
include hfilters

theorem conditions_ends : (planner.conditions context r).Ends none := by
  rw [Relation.filterInquiries, List.forall_mem_append] at hfilters
  refine .well_bind ?_ fun _ => .map (filterConditions_ends hfilters.2) _
  have hjunction := hfilters.1
  rw [Relation.junctionInquiries] at hjunction
  rw [junctionConditions]
  cases hj : r.junction with
  | none => exact .pure _
  | some j =>
    rw [hj] at hjunction
    exact filterConditions_ends hjunction

/-- A relation that is attached is refused by the technique of its attachment. -/
theorem sourceOf_ends (a : Attachment γ)
    (hpaging : r.isPaged = true → ∃ paging, r.paging planner.settings = .ok paging) :
    (planner.sourceOf context r a).Ends
      (if r.isPaged then planner.refusal? a.technique else none) := by
  rw [sourceOf]
  split
  · next hpaged =>
    refine .map ?_ _
    rw [pageOf, layoutOf, refusal?, Dialect.supports, ← PagingStyle.isSome_layout? _ r]
    cases planner.dialect.paging.layout? r a with
    | none => exact .badly rfl
    | some layout =>
      exact .require_bind rfl (.well_bind (.ofExcept (hpaging hpaged)) fun _ =>
        .map (.map (conditions_ends hfilters) _) _)
  · exact .map (conditions_ends hfilters) _

end Filters

/-- A relation in its place is attached if its links answer. -/
theorem attach_ends {position : Position γ} (hplaced : r.Placed position)
    (hlinks : ∀ q ∈ r.linkInquiries planner.dialect context position, q.failure = none) :
    (planner.attach context r position).Ends none := by
  rw [attach.eq_def]
  cases position with
  | root => exact .pure _
  | joined parent =>
    rw [Relation.linkInquiries] at hlinks
    cases hj : r.junction with
    | none =>
      obtain ⟨hook, hhook⟩ := Option.isSome_iff_exists.mp (hplaced.1 hj)
      rw [hj, hhook] at hlinks
      exact .require_bind hhook (.map (askJoin_ends (hlinks _ List.mem_cons_self)) _)
    | some j =>
      obtain ⟨hooks, hhooks⟩ := Option.isSome_iff_exists.mp (hplaced.2 j hj)
      rw [hj] at hlinks
      dsimp only at hlinks
      rw [hhooks] at hlinks
      exact .require_bind hhooks
        (.well_bind (askJoin_ends (hlinks _ List.mem_cons_self)) fun toJunction =>
          .map (askJoin_ends (hlinks _ (List.mem_cons_of_mem _ List.mem_cons_self))) _)
  | batch scope =>
    rw [Relation.linkInquiries] at hlinks
    obtain ⟨hbatched, hchild⟩ := hplaced
    rw [Relation.isBatched, Relation.batchKeys?] at hbatched
    cases hj : r.junction with
    | none =>
      rw [hj] at hbatched
      obtain ⟨keys, hkeys⟩ := Option.isSome_iff_exists.mp hbatched
      exact .require_bind hkeys (.pure _)
    | some j =>
      rw [hj] at hbatched hlinks
      obtain ⟨keys, hkeys⟩ := Option.isSome_iff_exists.mp hbatched
      obtain ⟨hook, hhook⟩ := Option.isSome_iff_exists.mp (hchild j hj)
      dsimp only at hlinks
      rw [hhook] at hlinks
      exact .require_bind hkeys (.require_bind hhook
        (.map (askJoin_ends (hlinks _ List.mem_cons_self)) _))

/-- **A relation is refused by its technique**, if all else is in place. -/
theorem source_ends {position : Position γ} (hplaced : r.Placed position)
    (hlinks : ∀ q ∈ r.linkInquiries planner.dialect context position, q.failure = none)
    (hfilters : ∀ q ∈ r.filterInquiries planner.dialect context, q.failure = none)
    (hpaging : r.isPaged = true → ∃ paging, r.paging planner.settings = .ok paging) :
    (planner.source context position r).Ends (planner.pageRefusal? position r) := by
  rw [source_eq]
  refine (attach_ends hplaced hlinks).bind_of_ok fun a hattach => ?_
  have hends := sourceOf_ends hfilters a hpaging
  rwa [(attaches_of_attach hattach).technique_eq] at hends

theorem contribution_ends {s : Station γ} (hplaced : s.relation.Placed s.position)
    (hanswered : ∀ q ∈ s.inquiries planner.dialect context, q.failure = none)
    (hpaging : s.relation.isPaged = true →
      ∃ paging, s.relation.paging planner.settings = .ok paging) :
    (planner.contribution context s.position s.relation s.batched).Ends
      (planner.pageRefusal? s.position s.relation) := by
  rw [Station.inquiries, List.forall_mem_append] at hanswered
  have hselections : ∃ selections, s.relation.selections s.position = .ok selections := by
    cases hpaged : s.relation.isPaged with
    | true =>
      obtain ⟨paging, hpaging⟩ := hpaging hpaged
      obtain ⟨selections, hselections, -⟩ := Relation.selections_of_paging hpaging s.position
      exact ⟨selections, hselections⟩
    | false =>
      rw [Relation.isPaged, Option.isSome_eq_false_iff, Option.isNone_iff_eq_none] at hpaged
      rw [Relation.selections, Relation.pageSelections, hpaged]
      exact ⟨_, rfl⟩
  have horder : ∃ order?, s.relation.outerOrder = .ok order? := by
    cases hpaged : s.relation.isPaged with
    | true =>
      obtain ⟨paging, hpaging⟩ := hpaging hpaged
      exact ⟨_, Relation.outerOrder_of_paging hpaging⟩
    | false =>
      rw [Relation.outerOrder, hpaged]
      exact ⟨_, rfl⟩
  refine .well_bind (.ofExcept hselections) fun selections => ?_
  have hsource := source_ends hplaced hanswered.1 hanswered.2 hpaging
  have hrest := hsource.bind fun origin => (Ends.ofExcept horder).map fun order? =>
    ({ selections := selections ++
         s.batched.map fun d => .ofColumn s.relation.label d.keys.parentKey
       tables := origin.tables
       conditions := origin.conditions
       orders := order?.toList } : Statement)
  rwa [Option.or_none] at hrest

end Relation

/-! ## Statements -/

section Statements

variable {planner context}

/-- **A statement is refused by the first of its relations that is.** -/
theorem gather_ends {ss : List (Station γ)}
    (h : ∀ s ∈ ss, (planner.contribution context s.position s.relation s.batched).Ends
      (planner.pageRefusal? s.position s.relation)) :
    (planner.gather context ss).Ends
      (ss.findSome? fun s => planner.pageRefusal? s.position s.relation) := by
  induction ss with
  | nil => exact .pure _
  | cons s rest ih =>
    have hrest := ih fun s hs => h s (List.mem_cons_of_mem _ hs)
    have hends := (h s List.mem_cons_self).bind fun own => hrest.map fun others => own ++ others
    rw [List.findSome?_cons]
    cases hrefusal : planner.pageRefusal? s.position s.relation with
    | none =>
      rw [hrefusal, Option.none_or] at hends
      exact hends
    | some e =>
      rw [hrefusal, Option.some_or] at hends
      exact hends

/-- The first relation that is refused has the first technique that is not supported. -/
theorem findSome?_pageRefusal? {ss : List (Station γ)}
    (h : ∀ s ∈ ss, s.relation.isPaged = s.relation.paginate) :
    (ss.findSome? fun s => planner.pageRefusal? s.position s.relation) =
      (((ss.filter fun s => s.relation.paginate).map fun s =>
        s.relation.technique s.position).find? fun t => !planner.dialect.supports t).map
          (.unsupportedPagination planner.dialect.name) := by
  induction ss with
  | nil => rfl
  | cons s rest ih =>
    have hrest := ih fun s hs => h s (List.mem_cons_of_mem _ hs)
    have hpaged := h s List.mem_cons_self
    rw [List.findSome?_cons, hrest, pageRefusal?, refusal?, hpaged]
    cases hpaginate : s.relation.paginate with
    | false => simp [hpaginate]
    | true =>
      cases hsupports : planner.dialect.supports (s.relation.technique s.position) <;>
        simp [hpaginate, hsupports]

end Statements

end Planner

namespace Trace

variable {α : Type} {m m' : Trace α} {d : Dialect} {techniques : List Technique}

/-- A computation tells which pages cannot be fetched. -/
structure TellsSupport (m : Trace α) (d : Dialect) (techniques : List Technique) : Prop where
  /-- it is refused exactly if a technique is not supported -/
  refused_iff : (∃ name technique, m.outcome = .error (.unsupportedPagination name technique)) ↔
    ∃ technique ∈ techniques, d.supports technique = false
  /-- the dialect is named, and such a technique -/
  named : ∀ name technique, m.outcome = .error (.unsupportedPagination name technique) →
    name = d.name ∧ technique ∈ techniques ∧ d.supports technique = false
  /-- if all are supported, nothing can go wrong but that nothing is selected -/
  otherwise : (∀ technique ∈ techniques, d.supports technique = true) →
    (∃ a, m.outcome = .ok a) ∨ ∃ label, m.outcome = .error (.invalidPlan (.noColumns label))

/-- A computation names the first page that cannot be fetched. -/
def TellsFirst (m : Trace α) (d : Dialect) (techniques : List Technique) : Prop :=
  ∀ name technique, m.outcome = .error (.unsupportedPagination name technique) →
    (techniques.find? fun t => !d.supports t) = some technique

theorem tellsFirst_of_ends
    (hrefused : ∀ technique, (techniques.find? fun t => !d.supports t) = some technique →
      m.outcome = .error (.unsupportedPagination d.name technique))
    (hnot : (techniques.find? fun t => !d.supports t) = none →
      (∃ a, m.outcome = .ok a) ∨ ∃ label, m.outcome = .error (.invalidPlan (.noColumns label))) :
    m.TellsFirst d techniques := by
  intro name technique h
  cases hfirst : techniques.find? fun t => !d.supports t with
  | some first =>
    cases (hrefused first hfirst).symm.trans h
    rfl
  | none =>
    rcases hnot hfirst with ⟨a, ha⟩ | ⟨label, hlabel⟩
    · cases ha.symm.trans h
    · cases hlabel.symm.trans h

namespace TellsSupport

/-- A refusal for a technique that is not supported. -/
theorem of_refused {technique : Technique} (hmem : technique ∈ techniques)
    (hunsupported : d.supports technique = false)
    (h : m.outcome = .error (.unsupportedPagination d.name technique)) :
    m.TellsSupport d techniques := by
  refine ⟨⟨fun _ => ⟨technique, hmem, hunsupported⟩, fun _ => ⟨_, _, h⟩⟩, ?_, fun hall => ?_⟩
  · intro name technique' h'
    cases h.symm.trans h'
    exact ⟨rfl, hmem, hunsupported⟩
  · rw [hall technique hmem] at hunsupported
    cases hunsupported

/-- An end that is no refusal, if all techniques are supported. -/
theorem of_supported (hall : ∀ technique ∈ techniques, d.supports technique = true)
    (h : (∃ a, m.outcome = .ok a) ∨ ∃ label, m.outcome = .error (.invalidPlan (.noColumns label))) :
    m.TellsSupport d techniques := by
  have hdifferent (name : String) (technique : Technique) :
      m.outcome ≠ .error (.unsupportedPagination name technique) := by
    intro h'
    rcases h with ⟨a, ha⟩ | ⟨label, hlabel⟩
    · cases ha.symm.trans h'
    · cases hlabel.symm.trans h'
  refine ⟨⟨?_, ?_⟩, fun name technique h => absurd h (hdifferent name technique), fun _ => h⟩
  · rintro ⟨name, technique, h⟩
    exact absurd h (hdifferent name technique)
  · rintro ⟨technique, hmem, hunsupported⟩
    rw [hall technique hmem] at hunsupported
    cases hunsupported

theorem congr (h : m.TellsSupport d techniques) (heq : m'.outcome = m.outcome) :
    m'.TellsSupport d techniques := by
  obtain ⟨hiff, hnamed, hotherwise⟩ := h
  rw [← heq] at hiff hnamed hotherwise
  exact ⟨hiff, hnamed, hotherwise⟩

theorem of_ends
    (hrefused : ∀ technique, (techniques.find? fun t => !d.supports t) = some technique →
      m.outcome = .error (.unsupportedPagination d.name technique))
    (hnot : (techniques.find? fun t => !d.supports t) = none →
      (∃ a, m.outcome = .ok a) ∨ ∃ label, m.outcome = .error (.invalidPlan (.noColumns label))) :
    m.TellsSupport d techniques := by
  cases hfirst : techniques.find? fun t => !d.supports t with
  | some first =>
    have hunsupported : d.supports first = false := by simpa using List.find?_some hfirst
    exact .of_refused (List.mem_of_find?_eq_some hfirst) hunsupported (hrefused first hfirst)
  | none => exact .of_supported (by simpa using List.find?_eq_none.mp hfirst) (hnot hfirst)

end TellsSupport

end Trace

/-! ## Builds -/

namespace Plan

/-- **The relations of a statement are placed**, if the one it starts from is. -/
theorem placed_of_mem_stations {position : Position γ} {p : Plan γ}
    (hplaced : p.relation.Placed position) (hrules : ∀ q ∈ p.descendants, q.relation.Rules false)
    {s : Station γ} (hs : s ∈ p.stations position) : s.relation.Placed s.position := by
  induction p using rec_children generalizing position with
  | h r children ih =>
    rw [stations_eq] at hs
    rcases List.mem_cons.mp hs with rfl | hs
    · exact hplaced
    · obtain ⟨c, hc, hs⟩ := List.mem_flatMap.mp hs
      obtain ⟨hmem, hjoined⟩ := mem_joinedAmong.mp hc
      have hsub : c.nodes ⊆ (Plan.mk r children).descendants := by
        rw [descendants_eq]
        exact fun q hq => List.mem_flatMap.mpr ⟨c, hmem, hq⟩
      have hplaced := Relation.placed_joined (hrules c (hsub List.mem_cons_self)) hjoined r
      exact ih c hmem hplaced (fun q hq => hrules q (hsub (List.mem_cons_of_mem _ hq))) hs

end Plan

namespace Planner

open Trace

/-- Nothing hinders a statement but what the dialect supports: its hooks answer, and its pages can
be interpreted. -/
structure Unhindered (planner : Planner) (context : γ) (position : Position γ) (p : Plan γ) :
    Prop where
  /-- no hook fails -/
  answered : ∀ q ∈ p.inquiries planner.dialect context position, q.failure = none
  /-- every page that is asked for makes sense -/
  interpreted : ∀ s ∈ p.stations position, s.relation.paginate = true →
    ∃ paging, s.relation.paging planner.settings = .ok paging

section Valid

variable {planner : Planner} {context : γ} {root p : Plan γ}
variable (hvalid : root.validate = .ok ()) (hp : p ∈ root.nodes)
include hvalid hp

/-- In a valid plan the relations that are paged are the paginated ones. -/
theorem isPaged_of_mem_stations {position : Position γ} {s : Station γ}
    (hs : s ∈ p.stations position) : s.relation.isPaged = s.relation.paginate := by
  have hmem := (p.stations_sublist position).subset (List.mem_map_of_mem hs)
  obtain ⟨q, hq, hrelation⟩ := List.mem_map.mp hmem
  have hordered : s.relation.paginate = true → s.relation.isPaged = true := by
    rw [← hrelation]
    rcases List.mem_cons.mp ((Plan.nodes_sublist hp).subset hq) with rfl | hq
    · exact (Plan.rules_root hvalid).ordered
    · exact (Plan.rules_of_mem_descendants hvalid hq).ordered
  cases hpaginate : s.relation.paginate with
  | true => exact hordered hpaginate
  | false => simp [Relation.isPaged, Relation.pagingMode?, hpaginate]

section Unhindered

variable {position : Position γ} (hplaced : p.relation.Placed position)
variable (h : planner.Unhindered context position p)
include hplaced h

/-- Every relation of the statement is refused by its technique. -/
theorem contribution_ends_of_mem_stations {s : Station γ} (hs : s ∈ p.stations position) :
    (planner.contribution context s.position s.relation s.batched).Ends
      (planner.pageRefusal? s.position s.relation) := by
  have hrules : ∀ q ∈ p.descendants, q.relation.Rules false := fun q hq =>
    Plan.rules_of_mem_descendants (Plan.validate_of_mem_nodes hvalid hp) hq
  refine contribution_ends (Plan.placed_of_mem_stations hplaced hrules hs)
    (fun q hq => h.answered q (List.mem_flatMap.mpr ⟨s, hs, hq⟩)) fun hpaged => ?_
  rw [isPaged_of_mem_stations hvalid hp hs] at hpaged
  exact h.interpreted s hs hpaged

/-- **The query of a relation of a valid plan tells which of its pages cannot be fetched**, and
names the first of them. -/
theorem queryAt_tellsSupport :
    (planner.queryAt context position p).TellsSupport planner.dialect (p.pageTechniques position) ∧
      (planner.queryAt context position p).TellsFirst planner.dialect
        (p.pageTechniques position) := by
  have hends : (planner.gather context (p.stations position)).Ends
      (((p.pageTechniques position).find? fun t => !planner.dialect.supports t).map
        (.unsupportedPagination planner.dialect.name)) := by
    rw [Plan.pageTechniques, ← findSome?_pageRefusal? fun s => isPaged_of_mem_stations hvalid hp]
    exact gather_ends fun s hs => contribution_ends_of_mem_stations hvalid hp hplaced h hs
  rw [← assemble_eq_gather] at hends
  have hrefused (technique : Technique)
      (hfirst : ((p.pageTechniques position).find? fun t => !planner.dialect.supports t) =
        some technique) : (planner.queryAt context position p).outcome =
          .error (.unsupportedPagination planner.dialect.name technique) := by
    rw [hfirst] at hends
    cases hends with
    | badly he => exact outcome_bind_error (outcome_bind_error he)
  have hnot
      (hfirst : ((p.pageTechniques position).find? fun t => !planner.dialect.supports t) = none) :
      (∃ query, (planner.queryAt context position p).outcome = .ok query) ∨
        ∃ label, (planner.queryAt context position p).outcome =
          .error (.invalidPlan (.noColumns label)) := by
    rw [hfirst] at hends
    cases hends with
    | @well statement hstatement =>
      rw [queryAt, statementAt, Trace.bind_assoc, bind_eq, bind_ok hstatement]
      cases statement.selections.isEmpty with
      | true => exact .inr ⟨_, rfl⟩
      | false => exact .inl ⟨_, rfl⟩
  exact ⟨.of_ends hrefused hnot, tellsFirst_of_ends hrefused hnot⟩

/-- A course through the statement fails with a technique that is not supported. -/
theorem course_within_refusals : (planner.course context position p).Within (fun _ => True) fun e =>
    ∃ technique ∈ p.pageTechniques position, planner.dialect.supports technique = false ∧
      e = .unsupportedPagination planner.dialect.name technique := by
  refine planner.within_course context (fun _ _ _ _ => trivial) fun s hs e he => ?_
  have hends := contribution_ends_of_mem_stations hvalid hp hplaced h hs
  rw [pageRefusal?, isPaged_of_mem_stations hvalid hp hs, refusal?] at hends
  split at hends
  · next hpaginate =>
    have hmem : s.relation.technique s.position ∈ p.pageTechniques position :=
      List.mem_map.mpr ⟨s, List.mem_filter.mpr ⟨hs, hpaginate⟩, rfl⟩
    split at hends
    · cases hends with
      | well hok => cases hok.symm.trans he
    · next hunsupported =>
      cases hends with
      | badly herror =>
        cases herror.symm.trans he
        exact ⟨_, hmem, Bool.eq_false_iff.mpr hunsupported, rfl⟩
  · cases hends with
    | well hok => cases hok.symm.trans he

/-- So does every query that may come about, if something is waited for; it need not name the first
of them then. -/
theorem tellsSupport_of_mayQuery {slow : Event → Prop} {m : Trace Query}
    (hm : planner.MayQuery slow context position p m) :
    m.TellsSupport planner.dialect (p.pageTechniques position) ∧
      ((∀ event, ¬slow event) → m.TellsFirst planner.dialect (p.pageTechniques position)) := by
  obtain ⟨hsupport, hfirst⟩ := queryAt_tellsSupport hvalid hp hplaced h
  refine ⟨?_, fun hslow => hm.eq_queryAt hslow ▸ hfirst⟩
  obtain ⟨-, hends⟩ := hm.ends (course_within_refusals hvalid hp hplaced h)
  rcases hends with ⟨_, ⟨technique, hmem, hunsupported, rfl⟩, he⟩ | hends
  · exact .of_refused hmem hunsupported he
  · exact hsupport.congr hends

end Unhindered

end Valid

/-- **Support is told truthfully**, in every way in which a build may come about. If nothing else
hinders it, the build of a valid plan is refused exactly if a page of its statement is not
supported, and names such a page; so is the build of a batch for some keys. If all hooks answer at
once, it is the first such page. Without keys the build of a batch ends before any page is looked
at. -/
theorem refusals_told (planner : Planner) (context : γ) (slow : Event → Prop) {root : Plan γ}
    (hvalid : root.validate = .ok ()) :
    (planner.Unhindered context .root root → ∀ m, planner.MayBuild slow context root m →
      m.TellsSupport planner.dialect (root.pageTechniques .root) ∧
      ((∀ event, ¬slow event) → m.TellsFirst planner.dialect (root.pageTechniques .root))) ∧
    ∀ p ∈ root.nodes, p.relation.isBatched = true → ∀ (scope : KeyScope) (m : Trace Query),
      planner.MayBuildBatch slow context root p.relation.label scope m →
      (scope.isEmpty = true →
        m.outcome = .error (.invalidArguments (.noParentKeys p.relation.name))) ∧
      (scope.isEmpty = false → planner.Unhindered context (.batch scope) p →
        m.TellsSupport planner.dialect (p.pageTechniques (.batch scope)) ∧
        ((∀ event, ¬slow event) →
          m.TellsFirst planner.dialect (p.pageTechniques (.batch scope)))) := by
  refine ⟨fun h m hm => ?_, fun p hp hbatched scope m hm => ?_⟩
  · have hplaced : root.relation.Placed .root := trivial
    exact tellsSupport_of_mayQuery hvalid List.mem_cons_self hplaced h ((mayBuild_iff hvalid).mp hm)
  · have hquery := hm.query hvalid hp hbatched
    refine ⟨fun hscope => ?_, fun hscope h => ?_⟩
    · rw [if_pos hscope] at hquery
      rw [hquery]
      rfl
    · rw [hscope, if_neg Bool.false_ne_true] at hquery
      exact tellsSupport_of_mayQuery hvalid hp (Plan.placed_of_batched hvalid hp hbatched scope) h
        hquery

/-- The events of shops in batches, page by page. -/
def events : Plan Unit where
  relation := {
    name := "events", table := "events", label := "e", uniqueKey := ["id"], paginate := true
    sortKey := some [⟨"id", .desc⟩]
    batch := some { thisKey := "shop", parentKey := "id" } }

/-- The owners of shops, page by page. -/
def owners : Plan Unit where
  relation := {
    name := "owners", table := "persons", label := "o", uniqueKey := ["id"], paginate := true
    sortKey := some [⟨"id", .asc⟩]
    junction := some {
      table := "shares", label := "h"
      joins := some (⟨fun parent child _ _ => .ok s!"{parent}.id = {child}.shop"⟩,
        ⟨fun parent child _ _ => .ok s!"{parent}.owner = {child}.id"⟩) } }

/-- Books by their titles, page by page. -/
def books : Plan Unit where
  relation := {
    name := "books", table := "books", label := "b", uniqueKey := ["id"], paginate := true
    orderBy := some [⟨"title", .asc⟩]
    join := some ⟨fun parent child _ _ => .ok s!"{parent}.id = {child}.shelf"⟩ }

/-- The shelves of shops with pages of the books on them. -/
def shelves : Plan Unit where
  relation := {
    name := "shelves", table := "shelves", label := "f", uniqueKey := ["id"]
    join := some ⟨fun parent child _ _ => .ok s!"{parent}.id = {child}.shop"⟩ }
  children := [books]

/-- Shops with some of what belongs to them. -/
def shops (children : List (Plan Unit)) : Plan Unit where
  relation := { name := "shops", table := "shops", label := "s", uniqueKey := ["id"] }
  children

theorem events_unhindered (d : Dialect) (scope : KeyScope) :
    Unhindered ⟨d, {}⟩ () (.batch scope) events := by
  refine ⟨?_, ?_⟩
  · rintro q ⟨⟩
  · rintro s (_ | ⟨_, ⟨⟩⟩) -
    exact ⟨_, rfl⟩

theorem shops_unhindered (d : Dialect) :
    Unhindered ⟨d, {}⟩ () .root (shops [shelves, owners, events]) := by
  refine ⟨?_, ?_⟩
  · rintro q (_ | ⟨_, _ | ⟨_, _ | ⟨_, _ | ⟨_, ⟨⟩⟩⟩⟩⟩)
    all_goals rfl
  · rintro s (_ | ⟨_, _ | ⟨_, _ | ⟨_, _ | ⟨_, ⟨⟩⟩⟩⟩⟩) hpaginate
    · cases hpaginate
    · cases hpaginate
    · exact ⟨_, rfl⟩
    · exact ⟨_, rfl⟩

/-- MariaDB supports no joined pages: the books, which lie deeper, are named before the owners. It
does fetch pages of events, which MySQL does not. -/
theorem refusals_told_of_shops :
    (shops [shelves, owners, events]).validate = .ok () ∧
    (build ⟨.mariadb, {}⟩ () (shops [shelves, owners, events])).TellsSupport .mariadb
      [.joinedOneToMany, .joinedManyToMany] ∧
    (build ⟨.mariadb, {}⟩ () (shops [shelves, owners, events])).TellsFirst .mariadb
      [.joinedOneToMany, .joinedManyToMany] ∧
    (buildBatch ⟨.mariadb, {}⟩ () (shops [shelves, owners, events]) "e"
      (.ofList [.integer 1])).TellsSupport .mariadb [.batchedOneToMany] ∧
    (buildBatch ⟨.mysql, {}⟩ () (shops [shelves, owners, events]) "e"
      (.ofList [.integer 1])).TellsSupport .mysql [.batchedOneToMany] ∧
    (buildBatch ⟨.mysql, {}⟩ () (shops [shelves, owners, events]) "e" .empty).outcome =
      .error (.invalidArguments (.noParentKeys "events")) := by
  have hvalid : (shops [shelves, owners, events]).validate = .ok () := rfl
  have hevents : events ∈ (shops [shelves, owners, events]).nodes :=
    .tail _ (.tail _ (.tail _ (.tail _ (.head _))))
  obtain ⟨hbuild, hmariadb⟩ := refusals_told ⟨.mariadb, {}⟩ () (fun _ => False) hvalid
  obtain ⟨-, hmysql⟩ := refusals_told ⟨.mysql, {}⟩ () (fun _ => False) hvalid
  obtain ⟨hsupport, hfirst⟩ := hbuild (shops_unhindered _) _ (mayBuild_build ..)
  refine ⟨hvalid, hsupport, hfirst fun _ h => h, ?_, ?_, ?_⟩
  · have hbatch := hmariadb events hevents rfl (.ofList [.integer 1]) _
      (mayBuildBatch_buildBatch ..)
    exact (hbatch.2 rfl (events_unhindered _ _)).1
  · have hbatch := hmysql events hevents rfl (.ofList [.integer 1]) _ (mayBuildBatch_buildBatch ..)
    exact (hbatch.2 rfl (events_unhindered _ _)).1
  · exact (hmysql events hevents rfl _ _ (mayBuildBatch_buildBatch ..)).1 rfl

/-- Without keys it is not told that MySQL does not support the pages of a batch. And while the join
of the books is waited for, MariaDB may refuse the page of the owners, which are declared behind
them, first. -/
theorem refusals_untold :
    ((shops [events]).validate = .ok () ∧ events ∈ (shops [events]).nodes ∧
      events.relation.isBatched = true ∧
      Unhindered ⟨.mysql, {}⟩ () (.batch .empty) events ∧
      (∃ technique ∈ events.pageTechniques (.batch .empty),
        Dialect.mysql.supports technique = false) ∧
      (buildBatch ⟨.mysql, {}⟩ () (shops [events]) "e" .empty).outcome =
        .error (.invalidArguments (.noParentKeys "events")) ∧
      ¬(buildBatch ⟨.mysql, {}⟩ () (shops [events]) "e" .empty).TellsSupport .mysql
        (events.pageTechniques (.batch .empty))) ∧
    (shops [books, owners]).validate = .ok () ∧
    Unhindered ⟨.mariadb, {}⟩ () .root (shops [books, owners]) ∧
    (shops [books, owners]).pageTechniques .root = [.joinedOneToMany, .joinedManyToMany] ∧
    ∃ m, MayBuild ⟨.mariadb, {}⟩ (· = .hook ⟨"b", .join, ["`s`", "`b`"]⟩) ()
        (shops [books, owners]) m ∧
      m.outcome = .error (.unsupportedPagination "mariadb" .joinedManyToMany) ∧
      ¬m.TellsFirst .mariadb [.joinedOneToMany, .joinedManyToMany] := by
  refine ⟨?_, rfl, ⟨?_, ?_⟩, rfl, ?_⟩
  · have houtcome : (buildBatch ⟨.mysql, {}⟩ () (shops [events]) "e" .empty).outcome =
        .error (.invalidArguments (.noParentKeys "events")) := rfl
    have hunsupported : ∃ technique ∈ events.pageTechniques (.batch .empty),
        Dialect.mysql.supports technique = false := ⟨.batchedOneToMany, .head _, rfl⟩
    refine ⟨rfl, .tail _ (.head _), rfl, events_unhindered _ _, hunsupported, houtcome, fun h => ?_⟩
    obtain ⟨name, technique, hrefused⟩ := h.refused_iff.mpr hunsupported
    cases houtcome.symm.trans hrefused
  · rintro q (_ | ⟨_, _ | ⟨_, _ | ⟨_, ⟨⟩⟩⟩⟩)
    all_goals rfl
  · rintro s (_ | ⟨_, _ | ⟨_, _ | ⟨_, ⟨⟩⟩⟩⟩) hpaginate
    · cases hpaginate
    · exact ⟨_, rfl⟩
    · exact ⟨_, rfl⟩
  · have hm : MayQuery ⟨.mariadb, {}⟩ (· = .hook ⟨"b", .join, ["`s`", "`b`"]⟩) () .root
        (shops [books, owners]) _ := mayQuery_overtaking rfl rfl rfl rfl
    refine ⟨_, (mayBuild_iff rfl).mpr hm, rfl, fun h => ?_⟩
    cases h _ _ rfl

end Planner

end RelationSql
