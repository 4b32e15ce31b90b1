import RelationSql.Dialect.Builtin
import RelationSql.Proofs.Plan.Rules
import RelationSql.Proofs.Planner.Composition

/-!
# The plan faults of a build

A build asks for links, batch keys and orders where the position of a relation in its statement
makes it need them, and would end with a plan fault where one is missing. Two of these places are
settled by their types: a joined position holds the parent, and a deferral holds its keys. For the
others the rules of valid plans, which are checked elsewhere and in another order, have to provide.
What is left are two faults that the rules do not exclude: a statement that selects nothing, and a
sort key without columns.

* `Relation.Placed` — what a relation needs in a position; `placed_joined` and `placed_batch` say
  that the rules provide it;
* `paging_faults`, `source_faults` — the faults of one relation;
* `assemble_faults` — the faults of the joined part of a plan;
* `build_faults_of_valid` — the faults of whole builds.
-/

namespace RelationSql

/-! ## Computations by the faults they end with -/

/-- If the result is a plan fault, it is one of the given ones. -/
def FaultsIn {α : Type} (P : PlanFault → Prop) (result : Except PlanError α) : Prop :=
  ∀ fault, result = .error (.invalidPlan fault) → P fault

namespace FaultsIn

variable {α β : Type} {P Q : PlanFault → Prop}

theorem ok (a : α) : FaultsIn P (.ok a) := fun _ h => by cases h

/-- The error is a plan fault among the given ones. -/
theorem error {fault : PlanFault} (h : P fault) :
    FaultsIn P (.error (.invalidPlan fault) : Except PlanError α) := fun _ he => by
  cases he
  exact h

/-- Errors of another kind are no plan faults. -/
theorem mapError {ε : Type} {kind : ε → PlanError} (hkind : ∀ e fault, kind e ≠ .invalidPlan fault)
    (result : Except ε α) : FaultsIn P (result.mapError kind) := by
  intro fault h
  cases result with
  | ok a => cases h
  | error e => exact absurd (Except.error.inj h) (hkind e fault)

theorem mono {result : Except PlanError α} (h : FaultsIn P result)
    (hPQ : ∀ fault, P fault → Q fault) : FaultsIn Q result := fun fault he => hPQ fault (h fault he)

theorem bind {result : Except PlanError α} {f : α → Except PlanError β}
    (hresult : FaultsIn P result) (hf : ∀ a, FaultsIn P (f a)) : FaultsIn P (result >>= f) := by
  cases result with
  | ok a => exact hf a
  | error e => exact fun fault h => hresult fault (congrArg Except.error (Except.error.inj h))

theorem map {result : Except PlanError α} (f : α → β) (hresult : FaultsIn P result) :
    FaultsIn P (result.map f) := by
  cases result with
  | ok a => exact ok (f a)
  | error e => exact fun fault h => hresult fault (congrArg Except.error (Except.error.inj h))

end FaultsIn

namespace Trace

variable {α β : Type} {P : PlanFault → Prop}

/-- If the computation ends with a plan fault, it is one of the given ones. -/
def EndsIn (P : PlanFault → Prop) (m : Trace α) : Prop := FaultsIn P m.outcome

namespace EndsIn

theorem pure (a : α) : EndsIn P (pure a) := FaultsIn.ok a

/-- What is required is there. -/
theorem require {value? : Option α} (h : value?.isSome = true) (e : PlanError) :
    EndsIn P (require value? e) := by
  obtain ⟨a, rfl⟩ := Option.isSome_iff_exists.mp h
  exact pure a

theorem mono {Q : PlanFault → Prop} {m : Trace α} (h : m.EndsIn P)
    (hPQ : ∀ fault, P fault → Q fault) : m.EndsIn Q := FaultsIn.mono h hPQ

theorem bind {m : Trace α} {f : α → Trace β} (hm : m.EndsIn P) (hf : ∀ a, (f a).EndsIn P) :
    (m >>= f).EndsIn P := by
  cases h : m.outcome with
  | ok a =>
    rw [EndsIn, bind_eq, bind_ok h]
    exact hf a
  | error e =>
    rw [EndsIn, bind_eq, bind_error h]
    exact fun fault he => hm fault (by rw [h, Except.error.inj he])

end EndsIn

end Trace

/-! ## Orders and pages -/

namespace Relation

variable {γ : Type} {r : Relation γ}

/-- The fault that the sort key of a relation has no columns. -/
def EmptyKey (r : Relation γ) (fault : PlanFault) : Prop :=
  (∃ table, r.sortKey? = some ⟨table, []⟩) ∧ fault = .emptySortKey r.name

theorem pageArgs_faults {P : PlanFault → Prop} : FaultsIn P r.pageArgs :=
  .mapError (fun _ _ h => by cases h) _

theorem offsetOrder_faults {P : PlanFault → Prop} (h : r.pagingMode? = some .offset) :
    FaultsIn P r.offsetOrder := by
  obtain ⟨order, horder⟩ := Option.isSome_iff_exists.mp (isSome_orderBy? h)
  rw [offsetOrder, horder]
  exact .ok order

/-- **A paginated relation has an order.** -/
theorem pagingOrder_faults {P : PlanFault → Prop} (h : r.isPaged = true) :
    FaultsIn P r.pagingOrder := by
  obtain ⟨mode, hmode⟩ := Option.isSome_iff_exists.mp h
  rw [pagingOrder, hmode]
  cases mode with
  | offset => exact offsetOrder_faults hmode
  | keyset =>
    obtain ⟨order, horder⟩ := Option.isSome_iff_exists.mp (isSome_sortKey? hmode)
    have hkey : r.requireSortKey = .ok order := by rw [requireSortKey, horder]
    exact .bind (hkey ▸ .ok order) fun _ => .bind pageArgs_faults fun _ => .ok _

theorem keysetPaging_faults (h : r.pagingMode? = some .keyset) (settings : PageSettings) :
    FaultsIn r.EmptyKey (r.keysetPaging settings) := by
  obtain ⟨⟨table, columns⟩, horder⟩ := Option.isSome_iff_exists.mp (isSome_sortKey? h)
  have hkey : r.requireSortKey = .ok ⟨table, columns⟩ := by rw [requireSortKey, horder]
  rw [keysetPaging, hkey]
  refine .bind pageArgs_faults fun args => ?_
  change FaultsIn _ (if columns = [] then _ else _)
  split
  · next hcolumns =>
    subst hcolumns
    exact .error ⟨⟨table, horder⟩, rfl⟩
  · refine .bind (.mapError ?_ _) fun request => .bind (.mapError ?_ _) fun seek => .ok _
    all_goals exact fun _ _ h => by cases h

theorem offsetPaging_faults {P : PlanFault → Prop} (h : r.pagingMode? = some .offset)
    (settings : PageSettings) : FaultsIn P (r.offsetPaging settings) := by
  rw [offsetPaging]
  refine .bind pageArgs_faults fun args => ?_
  split
  · exact fun fault h => by cases h
  · refine .bind (offsetOrder_faults h) fun order => .bind (.mapError ?_ _) fun skipped => .ok _
    exact fun _ _ h => by cases h

/-- **The page of a paginated relation** fails with a plan fault only where the sort key has no
columns. -/
theorem paging_faults (h : r.isPaged = true) (settings : PageSettings) :
    FaultsIn r.EmptyKey (r.paging settings) := by
  obtain ⟨mode, hmode⟩ := Option.isSome_iff_exists.mp h
  rw [paging, hmode]
  cases mode with
  | keyset => exact .map _ (keysetPaging_faults hmode settings)
  | offset => exact .map _ (offsetPaging_faults hmode settings)

theorem selections_faults {P : PlanFault → Prop} (position : Position γ) :
    FaultsIn P (r.selections position) := by
  refine .bind ?_ fun page => .ok _
  rw [pageSelections]
  split
  · exact .ok _
  · exact .ok _
  · next hmode => exact .map _ (pagingOrder_faults (by rw [isPaged, hmode]; rfl))

theorem outerOrder_faults {P : PlanFault → Prop} : FaultsIn P r.outerOrder := by
  rw [outerOrder]
  split
  · next hpaged => exact .map _ (pagingOrder_faults hpaged)
  · exact .ok _

/-! ## Positions -/

/-- What a relation needs in a position: the links of a joined one, or the keys of a batched one and
the link from its junction. -/
def Placed (r : Relation γ) : Position γ → Prop
  | .root => True
  | .joined _ => (r.junction = none → r.join.isSome = true) ∧
      ∀ j, r.junction = some j → j.joins.isSome = true
  | .batch _ => r.isBatched = true ∧ ∀ j, r.junction = some j → j.childJoin?.isSome = true

/-- **The rules provide for a joined relation.** -/
theorem placed_joined (h : r.Rules false) (hjoined : r.isBatched = false) (parent : Relation γ) :
    r.Placed (.joined parent) := by
  rw [isBatched] at hjoined
  refine ⟨fun hnone => ?_, fun j hj => ?_⟩
  · have hkeys : r.batchKeys? = r.batch := by rw [batchKeys?, hnone]
    rcases h.linked hnone with hroot | hjoin | hbatch
    · cases hroot
    · exact hjoin
    · rw [hkeys, hbatch] at hjoined
      cases hjoined
  · have hkeys : r.batchKeys? = j.batch := by rw [batchKeys?, hj]
    rcases (h.junction j hj).linked with hroot | hbatch | hjoins
    · cases hroot
    · rw [hkeys, hbatch] at hjoined
      cases hjoined
    · exact hjoins

/-- **The rules provide for a batched relation.** -/
theorem placed_batch {isRoot : Bool} (h : r.Rules isRoot) (hbatched : r.isBatched = true)
    (scope : KeyScope) : r.Placed (.batch scope) :=
  ⟨hbatched, fun j hj => (h.junction j hj).childJoined⟩

end Relation

namespace Plan

variable {γ : Type} {p q : Plan γ} {fault : PlanFault}

/-- The fault of a sort key without columns somewhere in a plan. -/
def EmptyKey (p : Plan γ) (fault : PlanFault) : Prop := ∃ q ∈ p.nodes, q.relation.EmptyKey fault

theorem emptyKey_of_subset (hsub : q.nodes ⊆ p.nodes) (h : q.EmptyKey fault) :
    p.EmptyKey fault := by
  obtain ⟨node, hnode, hkey⟩ := h
  exact ⟨node, hsub hnode, hkey⟩

/-- The faults of the statement of a plan that the rules do not exclude. -/
def Unexcluded (p : Plan γ) (fault : PlanFault) : Prop :=
  fault = .noColumns p.relation.label ∨ p.EmptyKey fault

theorem message_of_unexcluded (h : p.Unexcluded fault) :
    fault.message = s!"statement for '{p.relation.label}' selects no columns" ∨
      ∃ q ∈ p.nodes, fault.message = s!"'{q.relation.name}' has an empty sort key" := by
  rcases h with rfl | ⟨q, hq, -, rfl⟩
  · exact .inl rfl
  · exact .inr ⟨q, hq, rfl⟩

/-- **A batched relation of a valid plan is placed**, wherever it stands. -/
theorem placed_of_batched {root : Plan γ} (hvalid : root.validate = .ok ()) (hp : p ∈ root.nodes)
    (hbatched : p.relation.isBatched = true) (scope : KeyScope) :
    p.relation.Placed (.batch scope) := by
  rcases List.mem_cons.mp hp with rfl | hp
  · exact Relation.placed_batch (rules_root hvalid) hbatched scope
  · exact Relation.placed_batch (rules_of_mem_descendants hvalid hp) hbatched scope

end Plan

/-! ## Sources -/

namespace Planner

open Trace

variable {γ : Type} (planner : Planner) (context : γ) {P : PlanFault → Prop} (r : Relation γ)

theorem askFilter_faults (slot : HookSlot) (label : String) (hook : FilterHook γ) :
    (planner.askFilter context r slot label hook).EndsIn P :=
  FaultsIn.mapError (fun _ _ h => by cases h) _

theorem askJoin_faults (slot : HookSlot) (parent child : String) (hook : JoinHook γ) :
    (planner.askJoin context r slot parent child hook).EndsIn P :=
  FaultsIn.mapError (fun _ _ h => by cases h) _

theorem filterConditions_faults (slot : HookSlot) (label : String) (hook? : Option (FilterHook γ)) :
    (planner.filterConditions context r slot label hook?).EndsIn P := by
  cases hook? with
  | none => exact .pure _
  | some hook => exact .bind (planner.askFilter_faults context r _ _ _) fun _ => .pure _

theorem conditions_faults : (planner.conditions context r).EndsIn P := by
  refine .bind ?_ fun _ => .bind (planner.filterConditions_faults context r _ _ _) fun _ => .pure _
  rw [junctionConditions]
  split
  · exact .pure _
  · exact planner.filterConditions_faults context r _ _ _

/-- **A relation in its place is attached.** -/
theorem attach_faults {position : Position γ} (hplaced : r.Placed position) :
    (planner.attach context r position).EndsIn P := by
  rw [attach.eq_def]
  split
  · exact .pure _
  · next parent hnone =>
    exact .bind (.require (hplaced.1 hnone) _) fun _ =>
      .bind (planner.askJoin_faults context r _ _ _ _) fun _ => .pure _
  · next parent j hj =>
    exact .bind (.require (hplaced.2 j hj) _) fun _ =>
      .bind (planner.askJoin_faults context r _ _ _ _) fun _ =>
        .bind (planner.askJoin_faults context r _ _ _ _) fun _ => .pure _
  · next scope hnone =>
    have hkeys : r.batch.isSome = true := by
      have hbatched := hplaced.1
      rwa [Relation.isBatched, Relation.batchKeys?, hnone] at hbatched
    exact .bind (.require hkeys _) fun _ => .pure _
  · next scope j hj =>
    have hkeys : j.batch.isSome = true := by
      have hbatched := hplaced.1
      rwa [Relation.isBatched, Relation.batchKeys?, hj] at hbatched
    exact .bind (.require hkeys _) fun _ => .bind (.require (hplaced.2 j hj) _) fun _ =>
      .bind (planner.askJoin_faults context r _ _ _ _) fun _ => .pure _

theorem layoutOf_faults (a : Attachment γ) : (planner.layoutOf r a).EndsIn P := by
  rw [layoutOf]
  cases planner.dialect.paging.layout? r a with
  | some layout => exact .pure _
  | none => exact fun fault h => by cases h

/-- What is attached is written down, unless its sort key has no columns. -/
theorem sourceOf_faults (a : Attachment γ) :
    (planner.sourceOf context r a).EndsIn r.EmptyKey := by
  rw [sourceOf]
  split
  · next hpaged =>
    refine .bind (.bind (planner.layoutOf_faults r a) fun _ => ?_) fun _ => .pure _
    exact .bind (r.paging_faults hpaged planner.settings) fun _ =>
      .bind (.bind (planner.conditions_faults context r) fun _ => .pure _) fun _ => .pure _
  · exact .bind (planner.conditions_faults context r) fun _ => .pure _

/-- **The source of a relation in its place** fails with a plan fault only where its sort key has no
columns. -/
theorem source_faults {position : Position γ} (hplaced : r.Placed position) :
    (planner.source context position r).EndsIn r.EmptyKey := by
  rw [source_eq]
  exact .bind (planner.attach_faults context r hplaced) (planner.sourceOf_faults context r)

theorem contribution_faults {position : Position γ} (hplaced : r.Placed position)
    (batched : List (Deferral γ)) :
    (planner.contribution context position r batched).EndsIn r.EmptyKey :=
  .bind (r.selections_faults position) fun _ =>
    .bind (planner.source_faults context r hplaced) fun _ =>
      .bind r.outerOrder_faults fun _ => .pure _

/-! ## Statements -/

theorem assembleBelow_faults (parent : Relation γ) {children : List (Plan γ)}
    (h : ∀ c ∈ children, c.relation.isBatched = false →
      (planner.assemble context (.joined parent) c).EndsIn P) :
    (planner.assembleBelow context parent children).EndsIn P := by
  induction children with
  | nil => exact .pure _
  | cons c rest ih =>
    have hrest := ih fun c hc => h c (List.mem_cons_of_mem _ hc)
    rw [assembleBelow]
    split
    · exact hrest
    · next hjoined =>
      have hc := h c List.mem_cons_self (Bool.eq_false_iff.mpr hjoined)
      exact .bind hc fun _ => .bind hrest fun _ => .pure _

/-- **The joined part of a plan** fails with a plan fault only where a sort key has no columns. -/
theorem assemble_faults {position : Position γ} {p : Plan γ} (hplaced : p.relation.Placed position)
    (hrules : ∀ q ∈ p.descendants, q.relation.Rules false) :
    (planner.assemble context position p).EndsIn p.EmptyKey := by
  induction p using Plan.rec_children generalizing position with
  | h r children ih =>
    rw [assemble]
    refine .bind ?_ fun _ => .bind ?_ fun _ => .pure _
    · have hown := planner.contribution_faults context r hplaced (Plan.batchedAmong r children)
      exact hown.mono fun _ h => ⟨_, List.mem_cons_self, h⟩
    · refine planner.assembleBelow_faults context r fun c hc hjoined => ?_
      have hsub : c.nodes ⊆ (Plan.mk r children).descendants := by
        rw [Plan.descendants_eq]
        exact fun q hq => List.mem_flatMap.mpr ⟨c, hc, hq⟩
      have hplaced := Relation.placed_joined (hrules c (hsub List.mem_cons_self)) hjoined r
      have hbelow := ih c hc hplaced fun q hq => hrules q (hsub (List.mem_cons_of_mem _ hq))
      exact hbelow.mono fun _ => Plan.emptyKey_of_subset (List.subset_cons_of_subset _ hsub)

/-- **The query of a plan** fails with a plan fault only where nothing is selected, or where a sort
key has no columns. -/
theorem queryAt_faults {position : Position γ} {p : Plan γ} (hplaced : p.relation.Placed position)
    (hrules : ∀ q ∈ p.descendants, q.relation.Rules false) :
    (planner.queryAt context position p).EndsIn p.Unexcluded := by
  refine .bind (.bind ?_ fun statement => ?_) fun _ => .pure _
  · exact (planner.assemble_faults context hplaced hrules).mono fun _ => .inr
  · split
    · exact FaultsIn.error (.inl rfl)
    · exact .pure _

/-- **The plan faults of builds.** A build of a valid plan, or of one of its batched relations for
some keys, ends with a plan fault only if its statement selects nothing or if a relation of it has a
sort key without columns. -/
theorem build_faults_of_valid {root : Plan γ} (hvalid : root.validate = .ok ()) :
    (∀ fault, (planner.build context root).outcome = .error (.invalidPlan fault) →
      root.Unexcluded fault ∧
        (fault.message = s!"statement for '{root.relation.label}' selects no columns" ∨
          ∃ q ∈ root.nodes, fault.message = s!"'{q.relation.name}' has an empty sort key")) ∧
    ∀ p ∈ root.nodes, p.relation.isBatched = true → ∀ scope : KeyScope, scope.isEmpty = false →
      ∀ fault,
        (planner.buildBatch context root p.relation.label scope).outcome =
          .error (.invalidPlan fault) →
        p.Unexcluded fault ∧
          (fault.message = s!"statement for '{p.relation.label}' selects no columns" ∨
            ∃ q ∈ p.nodes, fault.message = s!"'{q.relation.name}' has an empty sort key") := by
  refine ⟨fun fault h => ?_, fun p hp hbatched scope hscope fault h => ?_⟩
  · rw [planner.build_eq context hvalid] at h
    have hplaced : root.relation.Placed .root := trivial
    have hfault := planner.queryAt_faults context hplaced
      (fun q hq => Plan.rules_of_mem_descendants hvalid hq) fault h
    exact ⟨hfault, Plan.message_of_unexcluded hfault⟩
  · rw [planner.buildBatch_eq context hvalid hp hbatched hscope] at h
    have hplaced := Plan.placed_of_batched hvalid hp hbatched scope
    have hfault := planner.queryAt_faults context hplaced
      (fun q hq => Plan.rules_of_mem_descendants hvalid (Plan.descendants_subset hp hq)) fault h
    exact ⟨hfault, Plan.message_of_unexcluded hfault⟩

/-- Users, and their posts through a junction, both in pages by a sort key without columns. -/
def pagesWithoutOrder : Plan Unit where
  relation := {
    name := "users", table := "accounts", label := "users", uniqueKey := ["id"]
    sortKey := some [], paginate := true }
  children := [{
    relation := {
      name := "posts", table := "posts", label := "p", sortKey := some [], paginate := true
      junction := some {
        table := "authorship", label := "a"
        batch := some {
          thisKey := "author", parentKey := "id"
          join := some ⟨fun junction child _ _ => .ok s!"{junction}.post = {child}.id"⟩ } } } }]

/-- Both the statement for the users and the one for the posts of one of them fail. -/
theorem build_pagesWithoutOrder_faults :
    pagesWithoutOrder.validate = .ok () ∧
    (build ⟨.mariadb, {}⟩ () pagesWithoutOrder).outcome =
      .error (.invalidPlan (.emptySortKey "users")) ∧
    pagesWithoutOrder.Unexcluded (.emptySortKey "users") ∧
    ∃ p ∈ pagesWithoutOrder.nodes, ∃ scope : KeyScope,
      p.relation.isBatched = true ∧ scope.isEmpty = false ∧
      (buildBatch ⟨.mariadb, {}⟩ () pagesWithoutOrder "p" scope).outcome =
        .error (.invalidPlan (.emptySortKey "posts")) ∧
      p.Unexcluded (.emptySortKey "posts") := by
  have hvalid : pagesWithoutOrder.validate = .ok () := rfl
  obtain ⟨hbuild, hbatch⟩ := build_faults_of_valid ⟨.mariadb, {}⟩ () hvalid
  have husers : (build ⟨.mariadb, {}⟩ () pagesWithoutOrder).outcome =
      .error (.invalidPlan (.emptySortKey "users")) := rfl
  refine ⟨hvalid, husers, (hbuild _ husers).1, _, List.mem_cons_of_mem _ List.mem_cons_self,
    .ofList [.integer 1], rfl, rfl, ?_⟩
  have hposts :
      (buildBatch ⟨.mariadb, {}⟩ () pagesWithoutOrder "p" (.ofList [.integer 1])).outcome =
        .error (.invalidPlan (.emptySortKey "posts")) := rfl
  exact ⟨hposts, (hbatch _ (List.mem_cons_of_mem _ List.mem_cons_self) rfl _ rfl _ hposts).1⟩

end Planner

end RelationSql
