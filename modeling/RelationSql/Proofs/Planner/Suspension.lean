import RelationSql.Proofs.Planner.Stations

/-!
# Hooks that take a while

A hook need not answer at once. While one is waited for, the siblings behind its relation may be
taken on, so that a build goes through the joined part of a plan in one of many ways. Each relation
asks its hooks one after the other, and then what is joined to it is taken on, in declared order as
long as nothing is waited for. The parts are put together in declared order, whenever they have been
finished, and a part that fails ends the whole. Which hooks may take a while is given by `slow`;
nothing is said about how long they do.

* `Course`, `Course.Step`, `Course.Run` — how far a build has come, and how it gets on;
* `Run.within` — what is asked is asked by the relations of the plan, none of them below one that
  has failed, and the build fails as one of them does;
* `Run.result?_eq` — whether there is a result, and which, does not depend on the way taken;
* `run_rest` — to go through a plan in turn is one of the ways, and `rest_eq_of_run` that it is the
  only one if all hooks answer at once;
* `Planner.MayBuild`, `Planner.MayBuildBatch` — the builds that may come about, and
  `mayQuery_overtaking` that a relation may be overtaken by its sibling.
-/

namespace RelationSql

namespace Trace

variable {α β : Type}

/-- The result of a sequence is that of its parts. -/
theorem toOption_bind (m : Trace α) (f : α → Trace β) : (m >>= f).outcome.toOption =
    m.outcome.toOption.bind fun a => (f a).outcome.toOption := by
  rw [bind_eq]
  cases h : m.outcome with
  | error e =>
    rw [bind_error h]
    rfl
  | ok a =>
    rw [bind_ok h]
    rfl

/-- A computation behind some events. -/
def after (events : List Event) (m : Trace α) : Trace α := ⟨events ++ m.events, m.outcome⟩

theorem after_after (events more : List Event) (m : Trace α) :
    after events (after more m) = after (events ++ more) m := by
  simp only [after, List.append_assoc]

theorem after_bind (events : List Event) (m : Trace α) (f : α → Trace β) :
    after events m >>= f = after events (m >>= f) := by
  simp only [bind_eq]
  cases h : m.outcome with
  | error e =>
    have hafter : (after events m).outcome = .error e := h
    rw [bind_error h, bind_error hafter]
    rfl
  | ok a =>
    have hafter : (after events m).outcome = .ok a := h
    rw [bind_ok h, bind_ok hafter]
    simp only [after, List.append_assoc]

end Trace

/-- How far a build has come in a part of the plan. -/
inductive Course where
  /-- The hooks of a relation are being asked. The `last` one may still be waited for; the ones in
  `todo` come next, and then the `outcome` is known. What is joined to the relation waits. -/
  | asking (last : Option Event) (todo : List Event) (outcome : Except PlanError Statement)
      (below : List Course)
  /-- A relation has contributed its `own` part, and what is joined to it is being taken on. -/
  | joining (own : Statement) (below : List Course)
  /-- There is nothing left to do. -/
  | done (result : Except PlanError Statement)

namespace Course

/-! ## Steps -/

/-- Courses at whose ends there are parts of a statement. -/
def through (parts : List Statement) : List Course := parts.map fun part => done (.ok part)

/-- The parts of a statement in their order. -/
def merge (parts : List Statement) : Statement := parts.foldr (· ++ ·) {}

section Steps

variable (slow : Event → Prop)

/-- A course may be waiting for a hook: the last one of a relation, or one further below. -/
inductive Waits : Course → Prop
  /-- the last hook of a relation may take a while -/
  | hook {event : Event} {todo : List Event} {outcome : Except PlanError Statement}
      {below : List Course} (h : slow event) : Waits (asking (some event) todo outcome below)
  /-- the first of the courses below that is not through waits -/
  | among {own : Statement} (parts : List Statement) {w : Course} (behind : List Course)
      (h : Waits w) : Waits (joining own (through parts ++ w :: behind))

/-- What stands behind these courses may be taken on. -/
inductive Yield : List Course → Prop
  /-- all of them are through -/
  | through (parts : List Statement) : Yield (through parts)
  /-- the first one that is not waits -/
  | waits (parts : List Statement) {w : Course} (behind : List Course) (h : Waits slow w) :
      Yield (Course.through parts ++ w :: behind)

/-- A course gets on by one step, in which some hooks are asked. -/
inductive Step : Course → List Event → Course → Prop
  /-- the next hook is asked -/
  | ask {last : Option Event} {event : Event} {todo : List Event}
      {outcome : Except PlanError Statement} {below : List Course} :
      Step (asking last (event :: todo) outcome below) [event]
        (asking (some event) todo outcome below)
  /-- the relation has its own part -/
  | own {last : Option Event} {own : Statement} {below : List Course} :
      Step (asking last [] (.ok own) below) [] (joining own below)
  /-- the relation has failed -/
  | fail {last : Option Event} {e : PlanError} {below : List Course} :
      Step (asking last [] (.error e) below) [] (done (.error e))
  /-- one of the courses below gets on -/
  | among {own : Statement} {front behind : List Course} {w w' : Course} {events : List Event}
      (hfront : Yield slow front) (h : Step w events w') :
      Step (joining own (front ++ w :: behind)) events (joining own (front ++ w' :: behind))
  /-- one of the courses below has failed -/
  | failAmong {own : Statement} {front behind : List Course} {e : PlanError}
      (hfront : Yield slow front) :
      Step (joining own (front ++ done (.error e) :: behind)) [] (done (.error e))
  /-- all courses below are through -/
  | finish {own : Statement} (parts : List Statement) :
      Step (joining own (Course.through parts)) [] (done (.ok (own ++ merge parts)))

/-- A course gets on by some steps. -/
inductive Run : Course → List Event → Course → Prop
  /-- no step -/
  | refl (w : Course) : Run w [] w
  /-- one step and some more -/
  | step {w w' w'' : Course} {events more : List Event} (h : Step slow w events w')
      (hmore : Run w' more w'') : Run w (events ++ more) w''

end Steps

variable {slow : Event → Prop} {w w' w'' : Course} {events more : List Event}

namespace Run

theorem single (h : Step slow w events w') : Run slow w events w' := by
  have hrun := Run.step h (.refl w')
  rwa [List.append_nil] at hrun

theorem trans (h : Run slow w events w') (hmore : Run slow w' more w'') :
    Run slow w (events ++ more) w'' := by
  induction h with
  | refl => exact hmore
  | step hstep _ ih =>
    rw [List.append_assoc]
    exact .step hstep (ih hmore)

/-- A course below a relation gets on. -/
theorem among (own : Statement) {front : List Course} (hfront : Yield slow front)
    (behind : List Course) (h : Run slow w events w') :
    Run slow (joining own (front ++ w :: behind)) events
      (joining own (front ++ w' :: behind)) := by
  induction h with
  | refl => exact .refl _
  | step hstep _ ih => exact .step (.among hfront hstep) ih

/-- The hooks of a relation are asked one after the other. -/
theorem ask_all (slow : Event → Prop) (last : Option Event) (todo : List Event)
    (outcome : Except PlanError Statement) (ws : List Course) :
    ∃ last', Run slow (asking last todo outcome ws) todo (asking last' [] outcome ws) := by
  induction todo generalizing last with
  | nil => exact ⟨last, .refl _⟩
  | cons event todo ih =>
    obtain ⟨last', h⟩ := ih (some event)
    exact ⟨last', .step .ask h⟩

end Run

/-! ## What may happen -/

/-- Whatever a course asks is among some events, and however it fails is among some errors. -/
inductive Within (P : Event → Prop) (E : PlanError → Prop) : Course → Prop
  | asking {last : Option Event} {todo : List Event} {outcome : Except PlanError Statement}
      {below : List Course} (htodo : ∀ event ∈ todo, P event)
      (herror : ∀ e, outcome = .error e → E e)
      (hbelow : ∀ own, outcome = .ok own → ∀ w ∈ below, Within P E w) :
      Within P E (asking last todo outcome below)
  | joining {own : Statement} {below : List Course} (hbelow : ∀ w ∈ below, Within P E w) :
      Within P E (joining own below)
  | done {result : Except PlanError Statement} (herror : ∀ e, result = .error e → E e) :
      Within P E (done result)

variable {P : Event → Prop} {E : PlanError → Prop}

/-- One step stays within bounds. -/
theorem Step.within (h : Step slow w events w') (hw : w.Within P E) :
    (∀ event ∈ events, P event) ∧ w'.Within P E := by
  have hnone : ∀ event ∈ ([] : List Event), P event := fun _ h => absurd h List.not_mem_nil
  induction h with
  | ask =>
    cases hw with
    | asking htodo herror hbelow =>
      obtain ⟨hevent, htodo⟩ := List.forall_mem_cons.mp htodo
      exact ⟨List.forall_mem_singleton.mpr hevent, .asking htodo herror hbelow⟩
  | own =>
    cases hw with
    | asking _ _ hbelow => exact ⟨hnone, .joining (hbelow _ rfl)⟩
  | fail =>
    cases hw with
    | asking _ herror _ => exact ⟨hnone, .done herror⟩
  | among hfront hstep ih =>
    cases hw with
    | joining hbelow =>
      obtain ⟨hfront, hbelow⟩ := List.forall_mem_append.mp hbelow
      obtain ⟨hw, hbehind⟩ := List.forall_mem_cons.mp hbelow
      obtain ⟨hevents, hw'⟩ := ih hw
      refine ⟨hevents, .joining (List.forall_mem_append.mpr ⟨hfront, ?_⟩)⟩
      exact List.forall_mem_cons.mpr ⟨hw', hbehind⟩
  | failAmong =>
    cases hw with
    | joining hbelow => exact ⟨hnone, hbelow _ (by simp)⟩
  | finish => exact ⟨hnone, .done fun _ h => by cases h⟩

/-- **A course stays within bounds.** -/
theorem Run.within (h : Run slow w events w') (hw : w.Within P E) :
    (∀ event ∈ events, P event) ∧ w'.Within P E := by
  induction h with
  | refl => exact ⟨fun _ h => absurd h List.not_mem_nil, hw⟩
  | step hstep _ ih =>
    obtain ⟨hevents, hw'⟩ := hstep.within hw
    obtain ⟨hmore, hend⟩ := ih hw'
    exact ⟨List.forall_mem_append.mpr ⟨hevents, hmore⟩, hend⟩

/-! ## Going on in turn -/

mutual

/-- What is left of a course, if from now on it goes on in turn. -/
def rest : Course → Trace Statement
  | asking _ todo outcome below => do
    let own ← (⟨todo, outcome⟩ : Trace Statement)
    let others ← restAll below
    return own ++ others
  | joining own below => do
    let others ← restAll below
    return own ++ others
  | done result => .ofExcept result

/-- What is left of some courses, one after the other. -/
def restAll : List Course → Trace Statement
  | [] => pure {}
  | w :: ws => do
    let first ← rest w
    let others ← restAll ws
    return first ++ others

end

theorem restAll_eq_collect (ws : List Course) : restAll ws = Trace.collect rest ws := by
  induction ws with
  | nil => rfl
  | cons w ws ih => rw [restAll, Trace.collect, ih]

theorem restAll_append (ws vs : List Course) : restAll (ws ++ vs) = (do
    let first ← restAll ws
    let others ← restAll vs
    return first ++ others) := by
  simp only [restAll_eq_collect, Trace.collect_append]

/-- Courses that are through leave their parts. -/
theorem restAll_through (parts : List Statement) :
    restAll (through parts) = pure (merge parts) := by
  induction parts with
  | nil => rfl
  | cons part parts ih =>
    change restAll (done (.ok part) :: through parts) = _
    rw [restAll, ih, rest]
    rfl

/-- What is left behind courses that are through. -/
theorem restAll_behind (parts : List Statement) (ws : List Course) :
    restAll (through parts ++ ws) = (do
      let others ← restAll ws
      return merge parts ++ others) := by
  rw [restAll_append, restAll_through]
  rfl

/-! ## The result -/

/-- The result of a course, if it is to have one. -/
def result? (w : Course) : Option Statement := w.rest.outcome.toOption

/-- One course among others matters by its result only. -/
theorem toOption_restAll_congr (h : w.result? = w'.result?) (front behind : List Course) :
    (restAll (front ++ w :: behind)).outcome.toOption =
      (restAll (front ++ w' :: behind)).outcome.toOption := by
  have hw : w.rest.outcome.toOption = w'.rest.outcome.toOption := h
  simp only [restAll_append, restAll, Trace.toOption_bind, hw]

/-- A step does not change the result. -/
theorem Step.result?_eq (h : Step slow w events w') : w.result? = w'.result? := by
  induction h with
  | ask => simp only [result?, rest, Trace.toOption_bind]
  | own => rfl
  | fail => rfl
  | among _ _ ih =>
    simp only [result?, rest, Trace.toOption_bind, toOption_restAll_congr ih]
  | failAmong =>
    simp only [result?, rest, restAll_append, restAll, Trace.toOption_bind, Trace.ofExcept]
    simp [Except.toOption]
  | finish parts =>
    rw [result?, rest, restAll_through]
    rfl

/-- **Whether there is a result, and which, does not depend on the way taken.** -/
theorem Run.result?_eq (h : Run slow w events w') : w.result? = w'.result? := by
  induction h with
  | refl => rfl
  | step hstep _ ih => exact hstep.result?_eq.trans ih

/-! ## Hooks that answer at once -/

section AtOnce

variable (hslow : ∀ event, ¬slow event)
include hslow

theorem not_waits (h : Waits slow w) : False := by
  induction h with
  | hook h => exact hslow _ h
  | among _ _ _ ih => exact ih

theorem exists_through {front : List Course} (h : Yield slow front) :
    ∃ parts, front = through parts := by
  cases h with
  | through parts => exact ⟨parts, rfl⟩
  | waits _ _ h => exact (not_waits hslow h).elim

/-- One step takes from what is left what it asks. -/
theorem rest_eq_of_step (h : Step slow w events w') : w.rest = .after events w'.rest := by
  induction h with
  | @ask _ event todo outcome =>
    rw [rest, rest]
    exact Trace.after_bind [event] (⟨todo, outcome⟩ : Trace Statement) _
  | own => rfl
  | fail => rfl
  | among hfront _ ih =>
    obtain ⟨parts, rfl⟩ := exists_through hslow hfront
    rw [rest, rest, restAll_behind, restAll_behind, restAll, restAll, ih]
    simp only [Trace.after_bind]
  | failAmong hfront =>
    obtain ⟨parts, rfl⟩ := exists_through hslow hfront
    rw [rest, restAll_behind]
    rfl
  | finish parts =>
    rw [rest, restAll_through]
    rfl

/-- **A course goes on in turn**, if nothing is waited for. -/
theorem rest_eq_of_run (h : Run slow w events w') : w.rest = .after events w'.rest := by
  induction h with
  | refl => rfl
  | step hstep _ ih =>
    rw [rest_eq_of_step hslow hstep, ih, Trace.after_after]

end AtOnce

/-! ## One of the ways -/

section Mono

variable {slow' : Event → Prop} (hle : ∀ event, slow event → slow' event)
include hle

theorem Waits.mono (h : Waits slow w) : Waits slow' w := by
  induction h with
  | hook h => exact .hook (hle _ h)
  | among parts behind _ ih => exact .among parts behind ih

theorem Yield.mono {front : List Course} (h : Yield slow front) : Yield slow' front := by
  cases h with
  | through parts => exact .through parts
  | waits parts behind h => exact .waits parts behind (h.mono hle)

theorem Step.mono (h : Step slow w events w') : Step slow' w events w' := by
  induction h with
  | ask => exact .ask
  | own => exact .own
  | fail => exact .fail
  | among hfront _ ih => exact .among (hfront.mono hle) ih
  | failAmong hfront => exact .failAmong (hfront.mono hle)
  | finish parts => exact .finish parts

theorem Run.mono (h : Run slow w events w') : Run slow' w events w' := by
  induction h with
  | refl => exact .refl _
  | step hstep _ ih => exact .step (hstep.mono hle) ih

end Mono

mutual

/-- A course comes to an end, if its courses are taken on in turn. -/
theorem exists_run (slow : Event → Prop) :
    ∀ w : Course, ∃ events result, Run slow w events (done result)
  | asking last todo outcome below => by
    obtain ⟨last', hask⟩ := Run.ask_all slow last todo outcome below
    cases outcome with
    | error e => exact ⟨_, _, hask.trans (.single .fail)⟩
    | ok own =>
      obtain ⟨events, result, h⟩ := exists_run_among slow own [] below
      exact ⟨_, _, hask.trans (.step .own h)⟩
  | joining own below => exists_run_among slow own [] below
  | done result => ⟨[], result, .refl _⟩

theorem exists_run_among (slow : Event → Prop) (own : Statement) (parts : List Statement) :
    ∀ below : List Course, ∃ events result,
      Run slow (joining own (through parts ++ below)) events (done result)
  | [] => by
    rw [List.append_nil]
    exact ⟨_, _, .single (.finish parts)⟩
  | w :: ws => by
    obtain ⟨events, result, h⟩ := exists_run slow w
    have hfirst := h.among own (.through parts) ws
    cases result with
    | error e => exact ⟨_, _, hfirst.trans (.single (.failAmong (.through parts)))⟩
    | ok part =>
      obtain ⟨more, result, hmore⟩ := exists_run_among slow own (parts ++ [part]) ws
      have hparts : through (parts ++ [part]) ++ ws = through parts ++ done (.ok part) :: ws := by
        simp [through]
      rw [hparts] at hmore
      exact ⟨_, _, hfirst.trans hmore⟩

end

/-- **To go on in turn is one of the ways**, whatever may be waited for. -/
theorem run_rest (slow : Event → Prop) (w : Course) :
    Run slow w w.rest.events (done w.rest.outcome) := by
  obtain ⟨events, result, h⟩ := exists_run (fun _ => False) w
  have hrest : w.rest = ⟨events ++ [], result⟩ := rest_eq_of_run (fun _ h => h) h
  rw [hrest, List.append_nil]
  exact h.mono fun _ h => h.elim

/-- While the hook of a relation that is to fail is waited for, the next one may be gone through. If
that one fails, it does so first. -/
theorem run_overtaking {event : Event} (hslow : slow event) (own : Statement) (e : PlanError)
    (below : List Course) (w : Course) (behind : List Course) :
    Run slow (joining own (asking none [event] (.error e) below :: w :: behind))
      (event :: w.rest.events) (done (w.rest.outcome.bind fun _ => .error e)) := by
  have hwaits : Yield slow [asking (some event) [] (.error e) below] := .waits [] [] (.hook hslow)
  have hask : Step slow (joining own (asking none [event] (.error e) below :: w :: behind)) [event]
      (joining own (asking (some event) [] (.error e) below :: w :: behind)) :=
    .among (.through []) .ask
  have hnext := (run_rest slow w).among own hwaits behind
  have hend : Run slow
      (joining own (asking (some event) [] (.error e) below :: done w.rest.outcome :: behind)) []
      (done (w.rest.outcome.bind fun _ => .error e)) := by
    cases w.rest.outcome with
    | error e' => exact .single (.failAmong hwaits)
    | ok part =>
      exact .step (.among (.through []) .fail) (.single (.failAmong (.through [])))
  have hrun := Run.step hask (hnext.trans hend)
  rwa [List.append_nil] at hrun

end Course

/-! ## Builds -/

namespace Planner

open Course

variable {γ : Type} (planner : Planner) (slow : Event → Prop) (context : γ)

/-- What the root of a plan contributes in a position. -/
def own (position : Position γ) (p : Plan γ) : Trace Statement :=
  planner.contribution context position p.relation (Plan.batchedAmong p.relation p.children)

mutual

/-- The joined part of a plan, before anything is done. -/
def course (position : Position γ) : Plan γ → Course
  | ⟨r, children⟩ =>
    let own := planner.own context position ⟨r, children⟩
    .asking none own.events own.outcome (courseBelow r children)

/-- The joined parts of those plans below a relation that are joined to it. -/
def courseBelow (parent : Relation γ) : List (Plan γ) → List Course
  | [] => []
  | p :: rest =>
    if p.relation.isBatched then courseBelow parent rest
    else course (.joined parent) p :: courseBelow parent rest

end

theorem courseBelow_eq (parent : Relation γ) (children : List (Plan γ)) :
    planner.courseBelow context parent children =
      (Plan.joinedAmong children).map (planner.course context (.joined parent)) := by
  induction children with
  | nil => rfl
  | cons c rest ih =>
    rw [courseBelow]
    rcases Plan.among_cons parent c rest with ⟨-, hbatched, -, hjoins⟩ | ⟨hjoined, -, hjoins⟩
    · rw [if_pos hbatched, hjoins, ih]
    · rw [hjoined, if_neg Bool.false_ne_true, hjoins, List.map_cons, ih]

theorem course_eq (position : Position γ) (p : Plan γ) : planner.course context position p =
    .asking none (planner.own context position p).events (planner.own context position p).outcome
      ((Plan.joinedAmong p.children).map (planner.course context (.joined p.relation))) := by
  cases p
  rw [course, courseBelow_eq]

/-- **In turn, a plan is gone through as it is assembled.** -/
theorem rest_course (position : Position γ) (p : Plan γ) :
    (planner.course context position p).rest = planner.assemble context position p := by
  induction p using Plan.rec_children generalizing position with
  | h r children ih =>
    have hbelow : restAll (planner.courseBelow context r children) =
        planner.assembleBelow context r children := by
      induction children with
      | nil => rfl
      | cons c rest ihrest =>
        have hrest := ihrest fun c hc => ih c (List.mem_cons_of_mem _ hc)
        rw [courseBelow, assembleBelow]
        split
        · exact hrest
        · rw [restAll, ih c List.mem_cons_self, hrest]
    rw [course, assemble, rest, hbelow]
    rfl

/-- What the relations of a statement keep to, a course through it keeps to. -/
theorem within_course {P : Event → Prop} {E : PlanError → Prop} {position : Position γ} {p : Plan γ}
    (hevents : ∀ s ∈ p.stations position,
      ∀ event ∈ (planner.contribution context s.position s.relation s.batched).events, P event)
    (herrors : ∀ s ∈ p.stations position, ∀ e,
      (planner.contribution context s.position s.relation s.batched).outcome = .error e → E e) :
    (planner.course context position p).Within P E := by
  induction p using Plan.rec_children generalizing position with
  | h r children ih =>
    rw [Plan.stations_eq] at hevents herrors
    rw [course_eq]
    obtain ⟨hown, hevents⟩ := List.forall_mem_cons.mp hevents
    obtain ⟨hfails, herrors⟩ := List.forall_mem_cons.mp herrors
    refine .asking hown hfails fun _ _ => List.forall_mem_map.mpr fun c hc => ?_
    have hstations : ∀ s ∈ c.stations (.joined r),
        s ∈ (Plan.joinedAmong children).flatMap (Plan.stations (.joined r)) :=
      fun s hs => List.mem_flatMap.mpr ⟨c, hc, hs⟩
    exact ih c (Plan.mem_joinedAmong.mp hc).1 (fun s hs => hevents s (hstations s hs))
      fun s hs => herrors s (hstations s hs)

/-- What is done for a query when its statement has been assembled. -/
def close (p : Plan γ) (statement : Statement) : Trace Query :=
  if statement.selections.isEmpty then .fail (.invalidPlan (.noColumns p.relation.label))
  else return {
    sql := statement.toSql planner.dialect
    deferred := p.deferrals.map Deferral.columns }

theorem queryAt_eq_close (position : Position γ) (p : Plan γ) :
    planner.queryAt context position p =
      planner.assemble context position p >>= planner.close p := by
  rw [queryAt, statementAt, Trace.bind_assoc]
  congr 1
  funext statement
  rw [close]
  split
  · rfl
  · rfl

/-- The query of a plan whose root stands in a position may come about in this way. -/
def MayQuery (position : Position γ) (p : Plan γ) (m : Trace Query) : Prop :=
  ∃ assembled : Trace Statement,
    Course.Run slow (planner.course context position p) assembled.events (.done assembled.outcome) ∧
      m = assembled >>= planner.close p

/-- The build of a plan may come about in this way. -/
def MayBuild (p : Plan γ) (m : Trace Query) : Prop :=
  ∃ query, planner.MayQuery slow context .root p query ∧ m = validate p >>= fun _ => query

/-- The build of a batch may come about in this way. -/
def MayBuildBatch (p : Plan γ) (label : String) (scope : KeyScope) (m : Trace Query) : Prop :=
  ∃ query : Plan γ → Trace Query, (∀ q, planner.MayQuery slow context (.batch scope) q (query q)) ∧
    m = batchOf p label scope query

section Query

variable {planner slow context} {position : Position γ} {p : Plan γ} {m : Trace Query}

variable (planner slow context position p) in
/-- The query that is built in turn may come about. -/
theorem mayQuery_queryAt :
    planner.MayQuery slow context position p (planner.queryAt context position p) := by
  refine ⟨planner.assemble context position p, ?_, planner.queryAt_eq_close context position p⟩
  rw [← rest_course]
  exact run_rest slow _

/-- If nothing is waited for, it is the only one. -/
theorem MayQuery.eq_queryAt (h : planner.MayQuery slow context position p m)
    (hslow : ∀ event, ¬slow event) : m = planner.queryAt context position p := by
  obtain ⟨assembled, hrun, rfl⟩ := h
  have hrest := rest_eq_of_run hslow hrun
  rw [rest_course] at hrest
  rw [queryAt_eq_close, hrest]
  simp only [Trace.after, rest, Trace.ofExcept, List.append_nil]

/-- **A query ends as it does in turn, or with the error of one of its relations.** What is asked on
the way is asked by its relations. -/
theorem MayQuery.ends {P : Event → Prop} {E : PlanError → Prop}
    (h : planner.MayQuery slow context position p m)
    (hwithin : (planner.course context position p).Within P E) :
    (∀ event ∈ m.events, P event) ∧
      ((∃ e, E e ∧ m.outcome = .error e) ∨
        m.outcome = (planner.queryAt context position p).outcome) := by
  obtain ⟨assembled, hrun, rfl⟩ := h
  obtain ⟨hevents, hdone⟩ := hrun.within hwithin
  have hresult := hrun.result?_eq
  rw [result?, result?, rest_course] at hresult
  cases houtcome : assembled.outcome with
  | error e =>
    rw [Trace.bind_eq, Trace.bind_error houtcome]
    cases hdone with
    | done herror => exact ⟨hevents, .inl ⟨e, herror e houtcome, rfl⟩⟩
  | ok statement =>
    have hassemble : (planner.assemble context position p).outcome = .ok statement := by
      rw [houtcome] at hresult
      revert hresult
      cases (planner.assemble context position p).outcome with
      | error e => intro h; cases h
      | ok _ => intro h; cases h; rfl
    rw [queryAt_eq_close, Trace.bind_eq, Trace.bind_eq, Trace.bind_ok houtcome,
      Trace.bind_ok hassemble]
    have hquiet : (planner.close p statement).events = [] := by
      rw [close]
      split <;> rfl
    rw [hquiet, List.append_nil]
    exact ⟨hevents, .inr rfl⟩

/-- **A sibling may overtake a relation that fails behind a slow hook.** All of its hooks are asked,
and if it fails, too, it is its error that the query ends with. -/
theorem mayQuery_overtaking {part : Statement} {c d : Plan γ} {others : List (Plan γ)}
    {event : Event} {e : PlanError} (hslow : slow event)
    (hown : (planner.own context position p).outcome = .ok part)
    (hjoined : Plan.joinedAmong p.children = c :: d :: others)
    (hc : planner.own context (.joined p.relation) c = ⟨[event], .error e⟩) :
    planner.MayQuery slow context position p
      ⟨(planner.own context position p).events ++
        event :: (planner.assemble context (.joined p.relation) d).events,
      (planner.assemble context (.joined p.relation) d).outcome.bind fun _ => .error e⟩ := by
  have hrun : Course.Run slow (planner.course context position p)
      ((planner.own context position p).events ++
        event :: (planner.assemble context (.joined p.relation) d).events)
      (.done ((planner.assemble context (.joined p.relation) d).outcome.bind
        fun _ => .error e)) := by
    rw [course_eq, hown, hjoined, List.map_cons, List.map_cons, course_eq _ _ _ c, hc,
      ← rest_course]
    obtain ⟨last, hask⟩ := Course.Run.ask_all slow none (planner.own context position p).events
      (.ok part) _
    exact hask.trans (.step .own (run_overtaking hslow part e _ _ _))
  -- either way there is no statement to make a query of
  revert hrun
  cases (planner.assemble context (.joined p.relation) d).outcome with
  | error e' => exact fun hrun => ⟨⟨_, .error e'⟩, hrun, rfl⟩
  | ok _ => exact fun hrun => ⟨⟨_, .error e⟩, hrun, rfl⟩

/-- **The result of a query does not depend on what is waited for.** -/
theorem MayQuery.toOption_eq (h : planner.MayQuery slow context position p m) :
    m.outcome.toOption = (planner.queryAt context position p).outcome.toOption := by
  obtain ⟨assembled, hrun, rfl⟩ := h
  have hresult := hrun.result?_eq
  rw [result?, result?, rest_course] at hresult
  rw [queryAt_eq_close, Trace.toOption_bind, Trace.toOption_bind, hresult]
  rfl

end Query

variable {planner slow context} {root : Plan γ} {m : Trace Query}

variable (planner slow context root) in
theorem mayBuild_build : planner.MayBuild slow context root (planner.build context root) :=
  ⟨_, planner.mayQuery_queryAt slow context .root root, rfl⟩

variable (planner slow context root) in
theorem mayBuildBatch_buildBatch (label : String) (scope : KeyScope) :
    planner.MayBuildBatch slow context root label scope
      (planner.buildBatch context root label scope) :=
  ⟨_, fun q => planner.mayQuery_queryAt slow context (.batch scope) q, rfl⟩

/-- **If nothing is waited for, a build is gone through in turn.** -/
theorem mayBuild_iff_of_atOnce (hslow : ∀ event, ¬slow event) :
    planner.MayBuild slow context root m ↔ m = planner.build context root := by
  constructor
  · rintro ⟨query, hquery, rfl⟩
    rw [hquery.eq_queryAt hslow]
    rfl
  · rintro rfl
    exact planner.mayBuild_build slow context root

theorem mayBuildBatch_iff_of_atOnce (hslow : ∀ event, ¬slow event) {label : String}
    {scope : KeyScope} : planner.MayBuildBatch slow context root label scope m ↔
      m = planner.buildBatch context root label scope := by
  constructor
  · rintro ⟨query, hquery, rfl⟩
    have hquery : query = planner.queryAt context (.batch scope) :=
      funext fun q => (hquery q).eq_queryAt hslow
    rw [hquery]
    rfl
  · rintro rfl
    exact planner.mayBuildBatch_buildBatch slow context root label scope

section Valid

variable (hvalid : root.validate = .ok ())
include hvalid

theorem mayBuild_iff :
    planner.MayBuild slow context root m ↔ planner.MayQuery slow context .root root m := by
  have hquery (query : Trace Query) : (validate root >>= fun _ => query) = query := by
    rw [validate, hvalid]
    rfl
  simp only [MayBuild, hquery, exists_eq_right']

/-- The batch of a relation of a valid plan ends for the lack of keys, or is a query of the
relation. -/
theorem MayBuildBatch.query {q : Plan γ} (hq : q ∈ root.nodes)
    (hbatched : q.relation.isBatched = true) {scope : KeyScope}
    (h : planner.MayBuildBatch slow context root q.relation.label scope m) :
    if scope.isEmpty then m = .fail (.invalidArguments (.noParentKeys q.relation.name))
    else planner.MayQuery slow context (.batch scope) q m := by
  obtain ⟨query, hquery, rfl⟩ := h
  rw [batchOf_found hvalid hq hbatched]
  split
  · rfl
  · exact hquery q

end Valid

end Planner

end RelationSql
