import RelationSql.Proofs.Planner.Composition

/-!
# Builds that go alike

Two computations go alike if they do the same outside and end in the same way: both with results
that are related, or both with one error. A build for a batch of keys goes alike whatever the keys
are; they only change what the statement says, and in pages they change no more than themselves.

* `Trace.Alike` — computations that go alike, and `Alike.bind` for sequences;
* `BatchTables` — how the tables for two lists of keys compare, by the way a dialect fetches pages;
* `source_batch_alike` — two batches of one relation go alike, and their pages compare so;
* `queryAt_batch_alike` — so do the builds for two lists of keys.
-/

namespace RelationSql

namespace Trace

variable {α β δ ε : Type} {R : α → β → Prop} {S : δ → ε → Prop}

/-- Two computations do the same and end in the same way. -/
inductive Alike (R : α → β → Prop) : Trace α → Trace β → Prop where
  /-- both succeed -/
  | ok {events : List Event} {a : α} {b : β} (h : R a b) :
      Alike R ⟨events, .ok a⟩ ⟨events, .ok b⟩
  /-- both fail -/
  | error {events : List Event} {e : PlanError} : Alike R ⟨events, .error e⟩ ⟨events, .error e⟩

namespace Alike

theorem refl {R : α → α → Prop} (h : ∀ a, R a a) (m : Trace α) : Alike R m m := by
  obtain ⟨events, outcome⟩ := m
  cases outcome with
  | ok a => exact .ok (h a)
  | error e => exact .error

/-- A sequence goes alike if its parts do. -/
theorem bind {m : Trace α} {m' : Trace β} {f : α → Trace δ} {f' : β → Trace ε} (hm : Alike R m m')
    (hf : ∀ a b, R a b → Alike S (f a) (f' b)) : Alike S (m >>= f) (m' >>= f') := by
  cases hm with
  | error => exact .error
  | @ok events a b h =>
    have hnext := hf a b h
    change Alike S ⟨events ++ (f a).events, (f a).outcome⟩ ⟨events ++ (f' b).events, (f' b).outcome⟩
    generalize f a = next at hnext ⊢
    generalize f' b = next' at hnext ⊢
    cases hnext with
    | ok h => exact .ok h
    | error => exact .error

/-- One computation, ended in two ways. -/
theorem bind_left (m : Trace α) {f : α → Trace δ} {f' : α → Trace ε}
    (hf : ∀ a, Alike S (f a) (f' a)) : Alike S (m >>= f) (m >>= f') := by
  refine bind (refl (fun a => rfl) m) fun a b hab => ?_
  subst hab
  exact hf a

/-- What is required is there for both, or for neither. -/
theorem require {a? : Option α} {b? : Option β} (h : Option.Rel R a? b?) (e : PlanError) :
    Alike R (Trace.require a? e) (Trace.require b? e) := by
  cases h with
  | some h => exact .ok h
  | none => exact .error

theorem hookCalls_eq {m : Trace α} {m' : Trace β} (h : Alike R m m') :
    m.hookCalls = m'.hookCalls := by
  cases h with
  | ok h => rfl
  | error => rfl

/-- Where one succeeds the other does, with a related result. -/
theorem outcome_ok {m : Trace α} {m' : Trace β} (h : Alike R m m') {a : α}
    (ha : m.outcome = .ok a) : ∃ b, m'.outcome = .ok b ∧ R a b := by
  cases h with
  | @ok events a' b hab =>
    obtain rfl : a' = a := Except.ok.inj ha
    exact ⟨b, rfl, hab⟩
  | error => cases ha

/-- Both fail with one error. -/
theorem outcome_error {m : Trace α} {m' : Trace β} (h : Alike R m m') (e : PlanError) :
    m.outcome = .error e ↔ m'.outcome = .error e := by
  cases h with
  | ok h => simp
  | error => simp

end Alike

end Trace

/-! ## Batches of keys -/

/-- The tables that fetch a page for each key of a scope, and those for another scope. A union has
one member for each key. Behind a list of keys the tables depend on whether the keys are texts. -/
inductive BatchTables (scope scope' : KeyScope) :
    PagingStyle → List Fragment → List Fragment → Prop where
  /-- one member for each key -/
  | union (label : String) (member : Scalar → PagedSelect) (rest : List Fragment) :
      BatchTables scope scope' .union
        (.union label (scope.keys.map member) :: rest)
        (.union label (scope'.keys.map member) :: rest)
  /-- a list of keys, and the same page for each of them -/
  | keys (style : Correlation) (parentKey : String) (rest : Bool → List Fragment) :
      BatchTables scope scope' (.correlated style)
        (.keys style parentKey scope :: rest scope.startsWithText)
        (.keys style parentKey scope' :: rest scope'.startsWithText)

namespace BatchTables

variable {scope scope' : KeyScope} {tables tables' : List Fragment}

/-- More tables may follow. -/
theorem append {style : PagingStyle} (h : BatchTables scope scope' style tables tables')
    (more : List Fragment) : BatchTables scope scope' style (tables ++ more) (tables' ++ more) := by
  cases h with
  | union label member rest => exact .union label member (rest ++ more)
  | keys style parentKey rest => exact .keys style parentKey fun asText => rest asText ++ more

theorem exists_union (h : BatchTables scope scope' .union tables tables') :
    ∃ label member rest, tables = .union label (scope.keys.map member) :: rest ∧
      tables' = .union label (scope'.keys.map member) :: rest := by
  cases h with
  | union label member rest => exact ⟨label, member, rest, rfl, rfl⟩

theorem exists_keys {style : Correlation}
    (h : BatchTables scope scope' (.correlated style) tables tables') :
    ∃ (parentKey : String) (rest : Bool → List Fragment),
      tables = .keys style parentKey scope :: rest scope.startsWithText ∧
      tables' = .keys style parentKey scope' :: rest scope'.startsWithText := by
  cases h with
  | keys style parentKey rest => exact ⟨parentKey, rest, rfl, rfl⟩

end BatchTables

section Rescoped

variable {γ : Type} {scope scope' : KeyScope}

/-- Two attachments to keys that differ in the keys. -/
inductive Attachment.Rescoped (scope scope' : KeyScope) : Attachment γ → Attachment γ → Prop where
  /-- by the same columns -/
  | keys (keys : BatchKeys γ) : Rescoped scope scope' (.keys keys scope) (.keys keys scope')
  /-- by the same columns of a junction, with the same answer of its join -/
  | junctionKeys (j : Junction γ) (keys : BatchKeys γ) (toChild : String) :
      Rescoped scope scope' (.junctionKeys j keys scope toChild)
        (.junctionKeys j keys scope' toChild)

theorem Attachment.Rescoped.technique_eq {a a' : Attachment γ} (h : a.Rescoped scope scope' a') :
    a.technique = a'.technique := by
  cases h <;> rfl

theorem Layout.keyed_batchTables (style : Correlation) (kind : JoinKind) (keys : BatchKeys γ)
    (table label : String) (extraJoin : Option ExtraJoin) (paging : Paging)
    (conditions : List Condition) : BatchTables scope scope' (.correlated style)
      (keyed style kind keys scope table label extraJoin paging conditions)
      (keyed style kind keys scope' table label extraJoin paging conditions) :=
  .keys style keys.parentKey fun asText =>
    let isCurrent := Condition.keyIsCurrent style label keys.thisKey keys.parentKey asText
    [.correlatedPage style kind isCurrent
      (.ofPaging table label (isCurrent :: conditions) paging extraJoin)]

/-- A dialect has layouts for both or for neither, and they compare. -/
theorem PagingStyle.layout?_rescoped (style : PagingStyle) (r : Relation γ) {a a' : Attachment γ}
    (h : a.Rescoped scope scope' a') :
    Option.Rel (fun layout layout' => ∀ paging conditions,
        BatchTables scope scope' style (layout paging conditions) (layout' paging conditions))
      (style.layout? r a) (style.layout? r a') := by
  cases h with
  | keys keys =>
    cases style with
    | unsupported => exact .none
    | correlated style =>
      exact .some (Layout.keyed_batchTables style .inner keys r.table r.label none)
    | union => exact .some fun paging conditions => .union r.label _ []
  | junctionKeys j keys toChild =>
    cases style with
    | unsupported => exact .none
    | correlated style =>
      exact .some fun paging conditions => (Layout.keyed_batchTables style .left keys j.table
        j.label (r.extraJoin toChild) paging conditions).append _
    | union => exact .some fun paging conditions => .union j.label _ [_]

end Rescoped

namespace Planner

open Trace

variable {γ : Type} (planner : Planner) (context : γ) (r : Relation γ) (scope scope' : KeyScope)

theorem attach_batch_alike : Alike (Attachment.Rescoped scope scope')
    (planner.attach context r (.batch scope)) (planner.attach context r (.batch scope')) := by
  rw [attach.eq_def, attach.eq_def]
  cases r.junction with
  | none => exact .bind_left _ fun keys => .ok (.keys keys)
  | some j =>
    exact .bind_left _ fun keys => .bind_left _ fun hook => .bind_left _ fun toChild =>
      .ok (.junctionKeys j keys toChild)

/-- **Two batches of a relation go alike**, and fetch their pages from like tables. -/
theorem source_batch_alike :
    Alike (fun source source' => r.isPaged = true → source.conditions = [] ∧
        source'.conditions = [] ∧
        BatchTables scope scope' planner.dialect.paging source.tables source'.tables)
      (planner.source context (.batch scope) r) (planner.source context (.batch scope') r) := by
  rw [source_eq, source_eq]
  refine .bind (planner.attach_batch_alike context r scope scope') fun a a' hrescoped => ?_
  have hlayout := planner.dialect.paging.layout?_rescoped r hrescoped
  rw [sourceOf, sourceOf]
  split
  · rw [pageOf, pageOf, layoutOf, layoutOf, hrescoped.technique_eq]
    refine .bind (.bind (.require hlayout _) fun layout layout' h => ?_) fun _ _ htables =>
      .ok fun _ => ⟨rfl, rfl, htables⟩
    exact .bind_left _ fun paging => .bind_left _ fun conditions => .ok (h paging conditions)
  · next hplain => exact .bind_left _ fun _ => .ok fun hpaged => absurd hpaged hplain

/-- **The statement of a batch goes alike for all keys**, and selects the same. -/
theorem assemble_batch_alike (p : Plan γ) :
    Alike (fun s t => s.selections = t.selections) (planner.assemble context (.batch scope) p)
      (planner.assemble context (.batch scope') p) := by
  obtain ⟨r, children⟩ := p
  rw [assemble, assemble]
  have hown : Alike (fun s t => s.selections = t.selections)
      (planner.contribution context (.batch scope) r (Plan.batchedAmong r children))
      (planner.contribution context (.batch scope') r (Plan.batchedAmong r children)) :=
    .bind_left _ fun _ => .bind (planner.source_batch_alike context r scope scope') fun _ _ _ =>
      .bind_left _ fun _ => .ok rfl
  refine .bind hown fun own own' hselections => .bind_left _ fun below => .ok ?_
  rw [Statement.selections_append, Statement.selections_append, hselections]

/-- **The build of a batch goes alike for all keys.** -/
theorem queryAt_batch_alike (p : Plan γ) : Alike (fun _ _ => True)
    (planner.queryAt context (.batch scope) p) (planner.queryAt context (.batch scope') p) := by
  have hstatement : Alike (fun _ _ => True)
      (planner.statementAt context (.batch scope) p)
      (planner.statementAt context (.batch scope') p) := by
    refine .bind (planner.assemble_batch_alike context scope scope' p) fun s t hselections => ?_
    rw [hselections]
    split
    · exact .error
    · exact .ok trivial
  exact .bind hstatement fun _ _ _ => .ok trivial

end Planner

end RelationSql
