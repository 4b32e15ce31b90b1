import RelationSql.Dialect.Builtin
import RelationSql.Proofs.Plan.Validity
import RelationSql.Proofs.Planner.KeyColumns
import RelationSql.Proofs.Planner.Suspension

/-!
# What a statement depends on

A statement holds the joined part of a plan. What lies outside of that part has no say in it: not
the inside of the batched relations that hang off it, of which the statement needs to know no more
than where their rows will be attached, and not what a batched relation itself hangs off.

Hooks could be a way around this. A hook is handed the relation that it belongs to, with all that
hangs off it, and may look into batched relations there. Such hooks are given here as hooks whose
context also holds what they see of their relation. Only if they do not look that far, a statement
is determined by its joined part.

* `Plan.outline` — a plan with its batched relations folded, and `course_congr`, `close_congr` that
  it is all that a statement of the plan depends on;
* `Plan.handed` — a plan whose hooks are handed what they see of their relations;
* `build_depends_on_outline` — the statement of a plan with discreet hooks is determined by its
  outline, and `build_depends_on_more` that with other hooks it need not be;
* `buildBatch_depends_on_subtree` — the statement of a batched relation is determined by what lies
  at and below it.
-/

namespace RelationSql

variable {γ : Type}

/-! ## Outlines -/

/-- What can be seen of a plan from its own statement. -/
inductive Outline (γ : Type) where
  /-- a batched relation: its alias, that of its junction if it has one, and its pair of keys -/
  | folded (label : String) (junction? : Option String) (thisKey parentKey : String)
  /-- a relation of the statement, with what hangs off it -/
  | shown (relation : Relation γ) (children : List (Outline γ))

/-- The alias of a relation in an outline. -/
def Outline.label : Outline γ → String
  | folded label _ _ _ => label
  | shown relation _ => relation.label

/-- A batched relation as its parent's statement sees it. -/
def Relation.folded? (r : Relation γ) : Option (Outline γ) :=
  r.batchKeys?.map fun keys =>
    .folded r.label (r.junction.map Junction.label) keys.thisKey keys.parentKey

/-- What a statement takes from a relation that it defers. -/
def Deferral.face (d : Deferral γ) : Deferred × String := (d.columns, d.keys.parentKey)

/-- What a statement takes from one of its relations. -/
def Station.face (s : Station γ) : Position γ × Relation γ × List (Deferred × String) :=
  (s.position, s.relation, s.batched.map Deferral.face)

namespace Plan

mutual

/-- The outline of a plan: the batched relations that hang off its joined part are folded. -/
def outline : Plan γ → Outline γ
  | ⟨r, children⟩ => .shown r (outlineAll children)

/-- The outlines of the plans below a relation. -/
def outlineAll : List (Plan γ) → List (Outline γ)
  | [] => []
  | c :: rest => c.relation.folded?.getD (outline c) :: outlineAll rest

end

theorem outline_eq (p : Plan γ) : p.outline = .shown p.relation (outlineAll p.children) := by
  cases p
  rw [outline]

/-- The aliases of relations stand in their outlines. -/
theorem map_label_outlineAll (children : List (Plan γ)) :
    (outlineAll children).map Outline.label = children.map fun c => c.relation.label := by
  induction children with
  | nil => rfl
  | cons c rest ih =>
    rw [outlineAll, List.map_cons, List.map_cons, ih]
    cases hkeys : c.relation.batchKeys? <;>
      simp [Relation.folded?, hkeys, outline_eq, Outline.label]

/-- Folded relations that look alike are deferred alike. -/
theorem face_eq_of_folded? {c c' : Plan γ} {keys keys' : BatchKeys γ}
    (hkeys : c.relation.batchKeys? = some keys) (hkeys' : c'.relation.batchKeys? = some keys')
    (h : c.relation.folded? = c'.relation.folded?) (r : Relation γ) :
    Deferral.face ⟨r, keys, c⟩ = Deferral.face ⟨r, keys', c'⟩ := by
  simp only [Relation.folded?, hkeys, hkeys', Option.map_some, Option.some.injEq,
    Outline.folded.injEq] at h
  obtain ⟨hlabel, hjunction, hthis, hparent⟩ := h
  have hfacing : c.relation.facingAlias = c'.relation.facingAlias := by
    rw [Relation.facingAlias, Relation.facingAlias]
    cases hj : c.relation.junction <;> cases hj' : c'.relation.junction <;> simp_all
  simp [Deferral.face, Deferral.columns, hlabel, hfacing, hthis, hparent]

/-- **Outlines of children agree one by one**: both are batched and look alike, or both are joined
and have the same outline. -/
theorem exists_of_outlineAll_cons {c : Plan γ} {rest children : List (Plan γ)}
    (h : outlineAll (c :: rest) = outlineAll children) :
    ∃ c' rest', children = c' :: rest' ∧ outlineAll rest = outlineAll rest' ∧
      ((∃ keys keys', c.relation.batchKeys? = some keys ∧ c'.relation.batchKeys? = some keys' ∧
          c.relation.folded? = c'.relation.folded?) ∨
        (c.relation.batchKeys? = none ∧ c'.relation.batchKeys? = none ∧
          c.outline = c'.outline)) := by
  cases children with
  | nil => simp [outlineAll] at h
  | cons c' rest' =>
    rw [outlineAll, outlineAll] at h
    obtain ⟨hfirst, hrest⟩ := List.cons.inj h
    refine ⟨c', rest', rfl, hrest, ?_⟩
    cases hkeys : c.relation.batchKeys? <;> cases hkeys' : c'.relation.batchKeys? <;>
      simp [Relation.folded?, hkeys, hkeys', outline_eq] at hfirst ⊢ <;> exact hfirst

/-- The batched children of two outlines that agree are deferred alike. -/
theorem map_face_batchedAmong {children children' : List (Plan γ)} (r : Relation γ)
    (h : outlineAll children = outlineAll children') :
    (batchedAmong r children).map Deferral.face = (batchedAmong r children').map Deferral.face := by
  induction children generalizing children' with
  | nil =>
    cases children' with
    | nil => rfl
    | cons c' rest' => simp [outlineAll] at h
  | cons c rest ih =>
    obtain ⟨c', rest', rfl, hrest, ⟨keys, keys', hkeys, hkeys', hfolded⟩ | ⟨hnone, hnone', -⟩⟩ :=
      exists_of_outlineAll_cons h
    · have hface := face_eq_of_folded? hkeys hkeys' hfolded r
      simpa [batchedAmong, hkeys, hkeys', hface] using ih hrest
    · simpa [batchedAmong, hnone, hnone'] using ih hrest

/-- What depends on the outlines of the joined children only. -/
theorem flatMap_joinedAmong_congr {α : Type} {f : Plan γ → List α}
    {children children' : List (Plan γ)} (h : outlineAll children = outlineAll children')
    (hf : ∀ c ∈ children, ∀ c', c.outline = c'.outline → f c = f c') :
    (joinedAmong children).flatMap f = (joinedAmong children').flatMap f := by
  induction children generalizing children' with
  | nil =>
    cases children' with
    | nil => rfl
    | cons c' rest' => simp [outlineAll] at h
  | cons c rest ih =>
    obtain ⟨c', rest', rfl, hrest, ⟨keys, keys', hkeys, hkeys', -⟩ | ⟨hnone, hnone', houtline⟩⟩ :=
      exists_of_outlineAll_cons h
    · have hbelow := ih hrest fun c hc => hf c (List.mem_cons_of_mem _ hc)
      simpa [joinedAmong, Relation.isBatched, hkeys, hkeys'] using hbelow
    · have hbelow := ih hrest fun c hc => hf c (List.mem_cons_of_mem _ hc)
      have hfirst := hf c List.mem_cons_self c' houtline
      simpa [joinedAmong, Relation.isBatched, hnone, hnone', hfirst] using hbelow

/-- **The outline of a plan determines its stations**, as far as a statement looks at them. -/
theorem map_face_stations {p q : Plan γ} (h : p.outline = q.outline) (position : Position γ) :
    (p.stations position).map Station.face = (q.stations position).map Station.face := by
  induction p using rec_children generalizing q position with
  | h r children ih =>
    rw [outline_eq, outline_eq] at h
    obtain ⟨hr, hchildren⟩ := Outline.shown.inj h
    obtain ⟨r', children'⟩ := q
    obtain rfl : r = r' := hr
    have hbelow := flatMap_joinedAmong_congr
      (f := fun c => (c.stations (.joined r)).map Station.face) hchildren
      fun c hc c' houtline => ih c hc houtline (.joined r)
    have hbatched := map_face_batchedAmong r hchildren
    rw [stations_eq, stations_eq, List.map_cons, List.map_cons, List.map_flatMap, List.map_flatMap]
    exact congrArg₂ List.cons (by simp only [Station.face, hbatched]) hbelow

end Plan

namespace Planner

variable (planner : Planner) (context : γ)

theorem contribution_congr (position : Position γ) (r : Relation γ)
    {batched batched' : List (Deferral γ)}
    (h : batched.map Deferral.face = batched'.map Deferral.face) :
    planner.contribution context position r batched =
      planner.contribution context position r batched' := by
  have hkeys (ds : List (Deferral γ)) :
      (ds.map fun d => Selection.ofColumn r.label d.keys.parentKey) =
        (ds.map Deferral.face).map fun face => .ofColumn r.label face.2 := by
    simp [Deferral.face, Function.comp_def]
  rw [contribution, contribution, hkeys, hkeys, h]

/-- **What is gone through for a statement is determined by the outline of its plan.** -/
theorem course_congr {p q : Plan γ} (h : p.outline = q.outline) (position : Position γ) :
    planner.course context position p = planner.course context position q := by
  induction p using Plan.rec_children generalizing q position with
  | h r children ih =>
    rw [Plan.outline_eq, Plan.outline_eq] at h
    obtain ⟨hr, hchildren⟩ := Outline.shown.inj h
    obtain ⟨r', children'⟩ := q
    obtain rfl : r = r' := hr
    have hown : planner.own context position ⟨r, children⟩ =
        planner.own context position ⟨r, children'⟩ :=
      planner.contribution_congr context position r (Plan.map_face_batchedAmong r hchildren)
    have hbelow := Plan.flatMap_joinedAmong_congr
      (f := fun c => [planner.course context (.joined r) c]) hchildren
      fun c hc c' houtline => congrArg (fun w => [w]) (ih c hc houtline (.joined r))
    rw [course_eq, course_eq, hown, List.map_eq_flatMap, List.map_eq_flatMap, hbelow]

/-- So is what is made of it. -/
theorem close_congr {p q : Plan γ} (h : p.outline = q.outline) :
    planner.close p = planner.close q := by
  have hrelation : p.relation = q.relation := by
    rw [Plan.outline_eq, Plan.outline_eq] at h
    exact (Outline.shown.inj h).1
  have hcolumns (p : Plan γ) : p.deferrals.map Deferral.columns =
      ((p.stations .root).map Station.face).flatMap fun face => face.2.2.map Prod.fst := by
    rw [Plan.deferrals_eq_stations .root p, List.map_flatMap, List.flatMap_map]
    simp [Station.face, Deferral.face, Function.comp_def]
  funext statement
  rw [close, close, hrelation, hcolumns p, hcolumns q, Plan.map_face_stations h .root]

/-- **The query of a plan is determined by its outline**, and so are all that may come about. -/
theorem mayQuery_congr {p q : Plan γ} (h : p.outline = q.outline) (slow : Event → Prop)
    (position : Position γ) (m : Trace Query) :
    planner.MayQuery slow context position p m ↔ planner.MayQuery slow context position q m := by
  rw [MayQuery, MayQuery, planner.course_congr context h, planner.close_congr h]

theorem queryAt_congr {p q : Plan γ} (h : p.outline = q.outline) (position : Position γ) :
    planner.queryAt context position p = planner.queryAt context position q := by
  rw [queryAt_eq_close, queryAt_eq_close, ← rest_course, ← rest_course,
    planner.course_congr context h, planner.close_congr h]

end Planner

/-! ## Hooks that look at their relations -/

section Contexts

variable {δ : Type} (f : γ → δ)

/-- A hook that gets another context. -/
def FilterHook.comap (hook : FilterHook δ) : FilterHook γ :=
  ⟨fun table args context => hook.run table args (f context)⟩

/-- A hook that gets another context. -/
def JoinHook.comap (hook : JoinHook δ) : JoinHook γ :=
  ⟨fun parent child args context => hook.run parent child args (f context)⟩

def BatchKeys.comap (keys : BatchKeys δ) : BatchKeys γ where
  thisKey := keys.thisKey
  parentKey := keys.parentKey
  join := keys.join.map (.comap f)

def Junction.comap (j : Junction δ) : Junction γ where
  table := j.table
  label := j.label
  filter := j.filter.map (.comap f)
  orderBy := j.orderBy
  sortKey := j.sortKey
  batch := j.batch.map (.comap f)
  joins := j.joins.map fun hooks => (hooks.1.comap f, hooks.2.comap f)

/-- A relation all of whose hooks get another context. -/
def Relation.comap (r : Relation δ) : Relation γ where
  name := r.name
  table := r.table
  label := r.label
  args := r.args
  columns := r.columns
  uniqueKey := r.uniqueKey
  filter := r.filter.map (.comap f)
  join := r.join.map (.comap f)
  orderBy := r.orderBy
  sortKey := r.sortKey
  limit := r.limit
  paginate := r.paginate
  batch := r.batch.map (.comap f)
  junction := r.junction.map (.comap f)

theorem Relation.batchKeys?_comap (r : Relation δ) :
    (r.comap f).batchKeys? = r.batchKeys?.map (.comap f) := by
  rw [batchKeys?, batchKeys?, comap]
  cases r.junction <;> rfl

theorem Junction.isSome_childJoin?_comap (j : Junction δ) :
    (j.comap f).childJoin?.isSome = j.childJoin?.isSome := by
  rw [childJoin?, childJoin?, comap]
  cases j.joins with
  | some hooks => rfl
  | none =>
    cases j.batch with
    | none => rfl
    | some keys => cases hjoin : keys.join <;> simp [BatchKeys.comap, hjoin]

/-- What hooks get makes no difference to how a relation is paged. -/
theorem Relation.pagingMode?_comap (r : Relation δ) :
    (r.comap f).pagingMode? = r.pagingMode? := by
  simp only [pagingMode?, hasSortKey, hasOrderBy, comap, Option.any_map]
  rfl

/-- What hooks get makes no difference to the rules of a relation. -/
theorem Relation.check_comap (r : Relation δ) (isRoot : Bool) (used : List String) :
    (r.comap f).check isRoot used = r.check isRoot used := by
  have hlink (used : List String) :
      (r.comap f).checkLink isRoot used = r.checkLink isRoot used := by
    simp only [checkLink, hasSortKey, hasOrderBy, comap, Option.any_map, Option.isSome_map]
    cases r.junction with
    | none => rfl
    | some j =>
      simp only [Option.map_some, Junction.isSome_childJoin?_comap]
      simp only [Junction.comap, Option.isSome_map]
  have hpaged : (r.comap f).isPaged = r.isPaged := by rw [isPaged, isPaged, pagingMode?_comap]
  simp only [check, hlink, hpaged]
  rfl

end Contexts

section Handed

variable {ν : Type} (look : Plan (ν × γ) → ν)

/-- A relation whose hooks are handed what is seen. -/
def Relation.handed (seen : ν) (r : Relation (ν × γ)) : Relation γ :=
  r.comap fun context => (seen, context)

namespace Plan

mutual

/-- A plan whose hooks are handed what they see of their relations and of what hangs off them. -/
def handed : Plan (ν × γ) → Plan γ
  | ⟨r, children⟩ => ⟨r.handed (look ⟨r, children⟩), handedAll children⟩

/-- The plans below a relation, with the same done to them. -/
def handedAll : List (Plan (ν × γ)) → List (Plan γ)
  | [] => []
  | c :: rest => handed c :: handedAll rest

end

theorem relation_handed (p : Plan (ν × γ)) :
    (p.handed look).relation = p.relation.handed (look p) := by
  cases p
  rw [handed]

theorem check_handed (isRoot : Bool) (p : Plan (ν × γ)) (used : List String) :
    (p.handed look).check isRoot used = p.check isRoot used := by
  induction p using rec_children generalizing isRoot used with
  | h r children ih =>
    have hall (used : List String) :
        checkAll (handedAll look children) used = checkAll children used := by
      induction children generalizing used with
      | nil => rfl
      | cons c rest ihrest =>
        have hrest := ihrest fun c hc => ih c (List.mem_cons_of_mem _ hc)
        simp only [handedAll, checkAll, ih c List.mem_cons_self, hrest]
    simp only [handed, check, Relation.handed, Relation.check_comap, hall]

/-- **What hooks see makes no difference to the rules of a plan.** -/
theorem validate_handed (p : Plan (ν × γ)) : (p.handed look).validate = p.validate := by
  rw [validate, validate, check_handed]

/-- The hooks of the joined part of a plan do not tell apart what differs only within batched
relations: they answer alike for all relations with the same outline. -/
def Discreet (p : Plan (ν × γ)) : Prop :=
  ∀ c ∈ p.joinedPart, ∀ c' : Plan (ν × γ), c'.outline = c.outline →
    c'.relation.handed (look c') = c.relation.handed (look c)

variable {look}

/-- Hooks that see no more than outlines are discreet. -/
theorem discreet_of_outline
    (h : ∀ c c' : Plan (ν × γ), c'.outline = c.outline → look c' = look c) (p : Plan (ν × γ)) :
    p.Discreet look := by
  intro c _ c' houtline
  rw [h c c' houtline]
  rw [outline_eq, outline_eq] at houtline
  rw [(Outline.shown.inj houtline).1]

theorem Discreet.of_mem_children {p c : Plan (ν × γ)} (h : p.Discreet look) (hc : c ∈ p.children)
    (hjoined : c.relation.isBatched = false) : c.Discreet look := by
  have hp : p ∈ p.joinedPart := by
    rw [joinedPart_eq]
    exact List.mem_cons_self
  intro b hb
  exact h b (joinedPart_trans (mem_joinedPart_of_mem_children hp hc hjoined) hb)

/-- Folded relations that look alike do so whatever their hooks are handed. -/
theorem folded?_handed {r r' : Relation (ν × γ)} {keys keys' : BatchKeys (ν × γ)}
    (hkeys : r.batchKeys? = some keys) (hkeys' : r'.batchKeys? = some keys')
    (h : r.folded? = r'.folded?) (seen seen' : ν) :
    (r.handed seen).folded? = (r'.handed seen').folded? := by
  have hjunction (r : Relation (ν × γ)) (seen : ν) :
      (r.handed seen).junction.map Junction.label = r.junction.map Junction.label := by
    rw [Relation.handed, Relation.comap, Option.map_map]
    rfl
  simp only [Relation.folded?, hkeys, hkeys', Option.map_some, Option.some.injEq,
    Outline.folded.injEq] at h
  obtain ⟨hlabel, hlabels, hthis, hparent⟩ := h
  simp only [Relation.folded?, hjunction, hlabels]
  simp only [Relation.handed, Relation.batchKeys?_comap, hkeys, hkeys', Option.map_some,
    Option.some.injEq, Outline.folded.injEq]
  exact ⟨hlabel, trivial, hthis, hparent⟩

theorem outlineAll_handedAll {children children' : List (Plan (ν × γ))}
    (h : outlineAll children = outlineAll children')
    (hjoined : ∀ c ∈ children, c.relation.isBatched = false → ∀ c' : Plan (ν × γ),
      c.outline = c'.outline → (c.handed look).outline = (c'.handed look).outline) :
    outlineAll (handedAll look children) = outlineAll (handedAll look children') := by
  induction children generalizing children' with
  | nil =>
    cases children' with
    | nil => rfl
    | cons c' rest' => simp [outlineAll] at h
  | cons c rest ih =>
    obtain ⟨c', rest', rfl, hrest, hfirst⟩ := exists_of_outlineAll_cons h
    have hbelow := ih hrest fun c hc => hjoined c (List.mem_cons_of_mem _ hc)
    rw [handedAll, handedAll, outlineAll, outlineAll, hbelow, relation_handed, relation_handed]
    congr 1
    rcases hfirst with ⟨keys, keys', hkeys, hkeys', hfolded⟩ | ⟨hnone, hnone', houtline⟩
    · rw [folded?_handed hkeys hkeys' hfolded (look c) (look c')]
      simp only [Relation.folded?, Relation.handed, Relation.batchKeys?_comap, hkeys',
        Option.map_some, Option.getD_some]
    · have hc : c.relation.isBatched = false := by
        rw [Relation.isBatched, hnone]
        rfl
      simp only [Relation.folded?, Relation.handed, Relation.batchKeys?_comap, hnone, hnone',
        Option.map_none, Option.getD_none]
      exact hjoined c List.mem_cons_self hc c' houtline

/-- **Discreet hooks do not add to an outline.** -/
theorem outline_handed {p q : Plan (ν × γ)} (h : p.outline = q.outline)
    (hdiscreet : p.Discreet look) : (p.handed look).outline = (q.handed look).outline := by
  induction p using rec_children generalizing q with
  | h r children ih =>
    have hr := hdiscreet ⟨r, children⟩ (by rw [joinedPart_eq]; exact List.mem_cons_self) q h.symm
    rw [outline_eq, outline_eq] at h
    obtain ⟨-, hchildren⟩ := Outline.shown.inj h
    obtain ⟨r', children'⟩ := q
    rw [outline_eq, outline_eq, relation_handed, relation_handed, hr]
    refine congrArg _ (outlineAll_handedAll hchildren fun c hc hjoined c' houtline => ?_)
    exact ih c hc houtline (hdiscreet.of_mem_children hc hjoined)

end Plan

end Handed

namespace Planner

variable (planner : Planner) (context : γ)

/-- **A statement does not depend on the inside of batched relations**, if its hooks do not look
there. Two valid plans that differ only within batched relations below their joined part, which keep
their aliases, those of their junctions and their pairs of keys, are built alike: the same hooks are
asked, and the result is the same. So it is in every way in which a build may come about. -/
theorem build_depends_on_outline {ν : Type} (look : Plan (ν × γ) → ν) {p q : Plan (ν × γ)}
    (hp : p.validate = .ok ()) (hq : q.validate = .ok ()) (h : p.outline = q.outline)
    (hdiscreet : p.Discreet look) :
    planner.build context (p.handed look) = planner.build context (q.handed look) ∧
    ∀ slow m, planner.MayBuild slow context (p.handed look) m ↔
      planner.MayBuild slow context (q.handed look) m := by
  have houtline := Plan.outline_handed h hdiscreet
  rw [← Plan.validate_handed look] at hp hq
  refine ⟨?_, fun slow m => ?_⟩
  · rw [planner.build_eq context hp, planner.build_eq context hq,
      planner.queryAt_congr context houtline]
  · rw [mayBuild_iff hp, mayBuild_iff hq, planner.mayQuery_congr context houtline]

/-- Users with their profiles, which have pictures in batches, and with groups in batches. -/
def usersWithProfiles (pictures groups : Plan γ) : Plan γ where
  relation := {
    name := "users", table := "accounts", label := "u", columns := [⟨"name", "name"⟩]
    filter := some ⟨fun table _ _ => .ok (some s!"{table}.active")⟩ }
  children := [
    groups,
    { relation := {
        name := "profile", table := "profiles", label := "p", uniqueKey := ["id"]
        join := some ⟨fun parent child _ _ => .ok s!"{parent}.id = {child}.user"⟩ }
      children := [pictures] }]

/-- Pictures by their numbers. -/
def pictures : Plan γ where
  relation := {
    name := "pictures", table := "pictures", label := "pic", uniqueKey := ["id"]
    batch := some { thisKey := "profile", parentKey := "id" } }

/-- A page of the newest drawings with their licences, which nobody may see. -/
def drawings : Plan γ where
  relation := {
    name := "drawings", table := "drawings", label := "pic", args := [("first", .integer 3)]
    columns := [⟨"file", "file"⟩], sortKey := some [⟨"age", .desc⟩], paginate := true
    filter := some ⟨fun _ _ _ => .error "not allowed"⟩
    batch := some { thisKey := "profile", parentKey := "id" } }
  children := [{
    relation := {
      name := "licence", table := "licences", label := "lic", uniqueKey := ["id"]
      join := some ⟨fun parent child _ _ => .ok s!"{parent}.licence = {child}.id"⟩ } }]

/-- Groups by their numbers, over the table of members. -/
def groups : Plan γ where
  relation := {
    name := "groups", table := "groups", label := "g", uniqueKey := ["id"]
    junction := some {
      table := "members", label := "m"
      batch := some {
        thisKey := "user", parentKey := "id"
        join := some ⟨fun parent child _ _ => .ok s!"{parent}.group = {child}.id"⟩ } } }

/-- A page of the titles of teams, in an order of the table of players. -/
def teams : Plan γ where
  relation := {
    name := "teams", table := "teams", label := "g", columns := [⟨"title", "title"⟩]
    paginate := true
    junction := some {
      table := "players", label := "m", orderBy := some [⟨"rank", .asc⟩]
      batch := some { thisKey := "user", parentKey := "id" }
      joins := some (⟨fun _ _ _ _ => .ok "TRUE"⟩, ⟨fun _ _ _ _ => .ok "TRUE"⟩) } }

/-- Such users, with a hook that fails if it sees teams. -/
def waryUsers (pictures groups : Plan (List String × Unit)) : Plan (List String × Unit) where
  relation := { (usersWithProfiles pictures groups).relation with
    filter := some ⟨fun table _ seen =>
      if "teams" ∈ seen.1 then .error "not allowed" else .ok (some s!"{table}.active")⟩ }
  children := (usersWithProfiles pictures groups).children

/-- The aliases of the relations that hang off one. -/
def aliasesBelow (p : Plan (List String × Unit)) : List String :=
  p.children.map fun c => c.relation.label

/-- The tables of the relations that hang off one. -/
def tablesBelow (p : Plan (List String × Unit)) : List String :=
  p.children.map fun c => c.relation.table

/-- Hooks that see the aliases of the relations that hang off theirs are discreet. -/
theorem discreet_aliasesBelow (p : Plan (List String × Unit)) : p.Discreet aliasesBelow := by
  refine Plan.discreet_of_outline (fun c c' h => ?_) p
  rw [Plan.outline_eq, Plan.outline_eq] at h
  rw [aliasesBelow, aliasesBelow, ← Plan.map_label_outlineAll, ← Plan.map_label_outlineAll,
    (Outline.shown.inj h).2]

/-- The statement for the users is the same whatever the batches hold, although the statements for
the batches are not. The hook for the users sees the aliases of the batches. -/
theorem build_usersWithProfiles_alike :
    (waryUsers pictures groups).validate = .ok () ∧
    (waryUsers drawings teams).validate = .ok () ∧
    (waryUsers pictures groups).outline = (waryUsers drawings teams).outline ∧
    build ⟨.pg, {}⟩ () ((waryUsers pictures groups).handed aliasesBelow) =
      build ⟨.pg, {}⟩ () ((waryUsers drawings teams).handed aliasesBelow) ∧
    (∃ query, (build ⟨.pg, {}⟩ () ((waryUsers pictures groups).handed
      aliasesBelow)).outcome = .ok query) ∧
    (∃ query, (buildBatch ⟨.pg, {}⟩ () ((waryUsers pictures groups).handed aliasesBelow) "pic"
      (.ofList [.integer 1])).outcome = .ok query) ∧
    (buildBatch ⟨.pg, {}⟩ () ((waryUsers drawings teams).handed aliasesBelow) "pic"
      (.ofList [.integer 1])).outcome = .error (.hookFailure "pic" "not allowed") := by
  have hp : (waryUsers pictures groups).validate = .ok () := rfl
  have hq : (waryUsers drawings teams).validate = .ok () := rfl
  obtain ⟨hbuild, -⟩ := build_depends_on_outline ⟨.pg, {}⟩ () aliasesBelow hp hq rfl
    (discreet_aliasesBelow _)
  exact ⟨hp, hq, rfl, hbuild, ⟨_, rfl⟩, ⟨_, rfl⟩, rfl⟩

/-- The fans of users, with a pair of keys of their own that is not used: they are reached over a
junction, which has no keys, and so they are joined. -/
def fans (toFan : JoinHook γ) : Plan γ where
  relation := {
    name := "fans", table := "accounts", label := "f", uniqueKey := ["id"]
    batch := some { thisKey := "user", parentKey := "id" }
    junction := some {
      table := "follows", label := "w"
      joins := some (⟨fun parent child _ _ => .ok s!"{parent}.id = {child}.star"⟩, toFan) } }

/-- A hook that sees the tables of batched relations lets their inside into a statement. And keys of
a relation with a junction, which are no pair to fetch by, do not make it a batched one. -/
theorem build_depends_on_more :
    ((waryUsers pictures groups).validate = .ok () ∧ (waryUsers drawings teams).validate = .ok () ∧
      (waryUsers pictures groups).outline = (waryUsers drawings teams).outline ∧
      (∃ query, (build ⟨.pg, {}⟩ () ((waryUsers pictures groups).handed tablesBelow)).outcome =
        .ok query) ∧
      (build ⟨.pg, {}⟩ () ((waryUsers drawings teams).handed tablesBelow)).outcome =
        .error (.hookFailure "u" "not allowed")) ∧
    ∃ toFan toFan' : JoinHook Unit,
      (usersWithProfiles pictures (fans toFan)).validate = .ok () ∧
      (usersWithProfiles pictures (fans toFan')).validate = .ok () ∧
      (∃ query, (build ⟨.pg, {}⟩ () (usersWithProfiles pictures (fans toFan))).outcome =
        .ok query) ∧
      (build ⟨.pg, {}⟩ () (usersWithProfiles pictures (fans toFan'))).outcome =
        .error (.hookFailure "f" "not allowed") :=
  ⟨⟨rfl, rfl, rfl, ⟨_, rfl⟩, rfl⟩, ⟨fun _ _ _ _ => .ok "TRUE"⟩,
    ⟨fun _ _ _ _ => .error "not allowed"⟩, rfl, rfl, ⟨_, rfl⟩, rfl⟩

/-! ## Subtrees -/

/-- **A batched statement depends on its subtree only.** A batched relation of a valid plan is a
valid plan with what lies below it, and its statement for any keys is built alike from that plan,
from the whole one, and from any other valid plan that has the relation in it: the same hooks are
asked, and the result is the same. -/
theorem buildBatch_depends_on_subtree {root p : Plan γ} (hvalid : root.validate = .ok ())
    (hp : p ∈ root.nodes) (hbatched : p.relation.isBatched = true) :
    p.validate = .ok () ∧ ∀ scope : KeyScope,
      planner.buildBatch context root p.relation.label scope =
        planner.buildBatch context p p.relation.label scope ∧
      ∀ other : Plan γ, other.validate = .ok () → p ∈ other.nodes →
        planner.buildBatch context root p.relation.label scope =
          planner.buildBatch context other p.relation.label scope := by
  have hsubtree := Plan.validate_of_mem_nodes hvalid hp
  refine ⟨hsubtree, fun scope => ?_⟩
  have hbatch {whole : Plan γ} (hwhole : whole.validate = .ok ()) (hmem : p ∈ whole.nodes) :=
    planner.buildBatch_found context hwhole hmem hbatched scope
  refine ⟨?_, fun other hother hmem => ?_⟩
  · rw [hbatch hvalid hp, hbatch hsubtree List.mem_cons_self]
  · rw [hbatch hvalid hp, hbatch hother hmem]

/-- The teams of users are fetched alike from the whole plan, drawings included, and by
themselves. -/
theorem buildBatch_teams :
    (usersWithProfiles (γ := Unit) drawings teams).validate = .ok () ∧
    teams ∈ (usersWithProfiles (γ := Unit) drawings teams).nodes ∧
    (teams (γ := Unit)).validate = .ok () ∧
    buildBatch ⟨.mariadb, {}⟩ () (usersWithProfiles drawings teams) "g" (.ofList [.text "a"]) =
      buildBatch ⟨.mariadb, {}⟩ () teams "g" (.ofList [.text "a"]) ∧
    ∃ query,
      (buildBatch ⟨.mariadb, {}⟩ () teams "g" (.ofList [.text "a"])).outcome = .ok query := by
  have hvalid : (usersWithProfiles (γ := Unit) drawings teams).validate = .ok () := rfl
  have hmem : teams ∈ (usersWithProfiles (γ := Unit) drawings teams).nodes :=
    List.mem_cons_of_mem _ List.mem_cons_self
  obtain ⟨hteams, hbatch⟩ := buildBatch_depends_on_subtree ⟨.mariadb, {}⟩ () hvalid hmem rfl
  exact ⟨hvalid, hmem, hteams, (hbatch _).1, _, rfl⟩

end Planner

end RelationSql
