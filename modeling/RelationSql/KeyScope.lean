import RelationSql.Scalar

/-!
# Key scopes

The parent keys for which one batched statement fetches rows. A scope holds no null and no key
twice, and keeps the keys in the order in which they were first seen.
-/

namespace RelationSql

/-- Distinct keys in first-seen order. -/
structure KeyScope where
  /-- the keys -/
  keys : List Scalar
  /-- no key is repeated -/
  nodup : keys.Nodup
  /-- no key is null -/
  no_null : .null ∉ keys

namespace KeyScope

/-- The scope without keys. -/
def empty : KeyScope := ⟨[], List.nodup_nil, List.not_mem_nil⟩

instance : Inhabited KeyScope := ⟨empty⟩

/-- Add a key at the end, unless it is null or already there. -/
def push (scope : KeyScope) (key : Scalar) : KeyScope :=
  if h : key ≠ .null ∧ key ∉ scope.keys then
    { keys := scope.keys ++ [key]
      nodup := by
        rw [List.nodup_append]
        refine ⟨scope.nodup, by simp, fun a ha b hb => ?_⟩
        rw [List.mem_singleton.mp hb]
        exact fun he => h.2 (he ▸ ha)
      no_null := by
        rw [List.mem_append, List.mem_singleton]
        rintro (hm | hm)
        · exact scope.no_null hm
        · exact h.1 hm.symm }
  else scope

/-- A key is added unless it is null or already there. -/
theorem keys_push (scope : KeyScope) (key : Scalar) :
    (scope.push key).keys =
      if key ≠ .null ∧ key ∉ scope.keys then scope.keys ++ [key] else scope.keys := by
  rw [push]
  split <;> rfl

/-- The scope of a list of keys. -/
def ofList (keys : List Scalar) : KeyScope := keys.foldl push empty

/-- Whether there is no key. -/
def isEmpty (scope : KeyScope) : Bool := scope.keys.isEmpty

/-- Whether the first key is a text, which decides how keys are compared. -/
def startsWithText (scope : KeyScope) : Bool := scope.keys.head?.any Scalar.isText

end KeyScope

end RelationSql
