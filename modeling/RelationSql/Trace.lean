import RelationSql.Error
import RelationSql.Hook

/-!
# Traced computations

A computation that evaluates hooks and hands statements to a database leaves a record of both, in
the order in which they happened, whether it succeeds or fails. The record of a sequence is the
record of its parts up to the first failure.
-/

namespace RelationSql

/-- Something that happened outside. -/
inductive Event where
  /-- a hook was evaluated -/
  | hook (call : HookCall)
  /-- a statement was handed to the database -/
  | statement (sql : String)
deriving DecidableEq

/-- What a computation did and how it ended. -/
structure Trace (α : Type) where
  /-- what happened, in order -/
  events : List Event
  /-- the result, or why there is none -/
  outcome : Except PlanError α

namespace Trace

variable {α β : Type}

/-- Nothing happens and the value is the result. -/
protected def pure (a : α) : Trace α := ⟨[], .ok a⟩

/-- Run `m`; if it succeeds, go on with `f`. -/
protected def bind (m : Trace α) (f : α → Trace β) : Trace β :=
  match m.outcome with
  | .error e => ⟨m.events, .error e⟩
  | .ok a => ⟨m.events ++ (f a).events, (f a).outcome⟩

instance : Monad Trace where
  pure := Trace.pure
  bind := Trace.bind

/-- End with an error. -/
def fail (e : PlanError) : Trace α := ⟨[], .error e⟩

/-- A result that needs nothing from outside. -/
def ofExcept (result : Except PlanError α) : Trace α := ⟨[], result⟩

/-- The value, or the error if there is none. -/
def require (value? : Option α) (e : PlanError) : Trace α :=
  match value? with
  | some a => .pure a
  | none => fail e

/-- One event with its result. -/
def happen (event : Event) (result : Except PlanError α) : Trace α := ⟨[event], result⟩

/-- The hooks that were evaluated, in order. -/
def hookCalls (m : Trace α) : List HookCall :=
  m.events.filterMap fun event => match event with
    | .hook call => some call
    | .statement _ => none

/-- The statements that were handed to the database, in order. -/
def statements (m : Trace α) : List String :=
  m.events.filterMap fun event => match event with
    | .statement sql => some sql
    | .hook _ => none

@[simp] theorem pure_eq (a : α) : (pure a : Trace α) = ⟨[], .ok a⟩ := rfl

@[simp] theorem bind_eq (m : Trace α) (f : α → Trace β) : m >>= f = Trace.bind m f := rfl

/-- Left identity. -/
theorem pure_bind (a : α) (f : α → Trace β) : Trace.bind (Trace.pure a) f = f a := rfl

/-- A success of a sequence is one of both parts, and the records are joined. -/
theorem bind_ok {m : Trace α} {f : α → Trace β} {a : α} (h : m.outcome = .ok a) :
    Trace.bind m f = ⟨m.events ++ (f a).events, (f a).outcome⟩ := by
  simp [Trace.bind, h]

/-- A failure of the first part is one of the sequence, and nothing more happens. -/
theorem bind_error {m : Trace α} {f : α → Trace β} {e : PlanError} (h : m.outcome = .error e) :
    Trace.bind m f = ⟨m.events, .error e⟩ := by
  simp [Trace.bind, h]

/-- **A sequence succeeds when both parts do.** -/
theorem outcome_bind_eq_ok {m : Trace α} {f : α → Trace β} {b : β} :
    (Trace.bind m f).outcome = .ok b ↔ ∃ a, m.outcome = .ok a ∧ (f a).outcome = .ok b := by
  cases h : m.outcome with
  | error e => simp [bind_error h]
  | ok a => simp [bind_ok h]

end Trace

end RelationSql
