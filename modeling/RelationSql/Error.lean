import RelationSql.Technique
import RelationSql.Text.Quoted

/-!
# Errors

Everything that can go wrong, by cause. The wording lives in the `message` functions and nowhere
else, so that a statement about errors is one about causes.
-/

namespace RelationSql

/-- What is wrong with a cursor, or with a row that should give one. -/
inductive CursorFault where
  /-- the text is no Base64 -/
  | notBase64
  /-- the payload is no object of distinct columns and scalars -/
  | malformed
  /-- the object is empty -/
  | noValues
  /-- the number of values differs from the number of sort columns -/
  | wrongCount (values columns : Nat)
  /-- a sort column has no value -/
  | missingColumn (column : String)
  /-- values and sort columns cannot be paired -/
  | misaligned
  /-- the value of a sort column is null -/
  | nullValue (column : String)
  /-- a fetched row has no scalar for a sort column -/
  | unusableRow (column : String)
  /-- the payload of an offset cursor is no text -/
  | offsetNotText
  /-- the payload is a text but names no offset -/
  | notOffset (payload : String)
deriving DecidableEq

namespace CursorFault

/-- The wording. -/
def message : CursorFault → String
  | notBase64 => "not base64"
  | malformed => "malformed payload"
  | noValues => "cursor carries no sort values"
  | wrongCount values columns =>
    s!"cursor has {values} values but the sort key has {columns} columns"
  | missingColumn column => s!"cursor is missing sort column '{column}'"
  | misaligned => "cursor values do not line up with the sort key"
  | nullValue column => s!"cursor value for '{column}' is null"
  | unusableRow column => s!"row has no usable value for sort column '{column}'"
  | offsetNotText => "offset cursor is not UTF-8"
  | notOffset payload => s!"'{payload}' is not an offset cursor"

end CursorFault

/-- What is wrong with the arguments of a request. -/
inductive ArgumentFault where
  /-- the argument should be a count -/
  | notCount (argument : String)
  /-- the argument should be a cursor -/
  | notCursor (argument : String)
  /-- a page cannot be both the first and the last rows -/
  | firstAndLast
  /-- a last page has no start -/
  | afterWithLast
  /-- a first page has no end -/
  | beforeWithFirst
  /-- offsets only go forward -/
  | backwardOffset
  /-- a batch without keys fetches nothing -/
  | noParentKeys (relation : String)
deriving DecidableEq

namespace ArgumentFault

/-- The wording. -/
def message : ArgumentFault → String
  | notCount argument => s!"\"{argument}\" must be a non-negative integer"
  | notCursor argument => s!"\"{argument}\" must be a cursor string"
  | firstAndLast => "\"first\" and \"last\" cannot be combined"
  | afterWithLast => "using \"after\" with \"last\" is nonsensical"
  | beforeWithFirst => "using \"before\" with \"first\" is nonsensical"
  | backwardOffset => "backward pagination is not supported with offsets, use a sort key instead"
  | noParentKeys relation => s!"batch for '{relation}' has no parent keys"

end ArgumentFault

/-- Where a sort spec stops being one. -/
inductive SortSpecFault where
  /-- no column stands at the front of the text -/
  | noColumn (rest : String)
  /-- text is left after the longest list of columns -/
  | leftOver (rest : String)
deriving DecidableEq

namespace SortSpecFault

/-- The wording: the text at the fault, and what was expected there. -/
def message : SortSpecFault → String
  | noColumn rest => s!"Error(Error \x7b input: {Text.quoted rest}, code: TakeWhile1 \x7d)"
  | leftOver rest => s!"Error(Error \x7b input: {Text.quoted rest}, code: Eof \x7d)"

end SortSpecFault

/-- What is wrong with a plan. -/
inductive PlanFault where
  /-- the plan cannot be read from its text -/
  | unreadable (reason : String)
  /-- a sort spec cannot be read -/
  | badSortSpec (spec : String) (fault : SortSpecFault)
  /-- two tables of the tree share an alias -/
  | repeatedAlias (label : String)
  /-- a relation has two orderings -/
  | twoOrderings (relation : String)
  /-- a junction has two orderings -/
  | junctionTwoOrderings (relation : String)
  /-- a paginated relation is ordered for keysets on one side and for offsets on the other -/
  | mixedOrderings (relation : String)
  /-- nothing says how the junction leads to the child table -/
  | junctionWithoutChild (relation : String)
  /-- nothing says how the parent leads to the junction -/
  | junctionWithoutLink (relation : String)
  /-- nothing says how the parent leads to the relation -/
  | withoutLink (relation : String)
  /-- a paginated relation has no ordering -/
  | unordered (relation : String)
  /-- the relation is not paginated -/
  | notPaginated (relation : String)
  /-- neither relation nor junction has a sort key -/
  | noSortKey (relation : String)
  /-- the sort key has no columns -/
  | emptySortKey (relation : String)
  /-- there is nothing to order offsets by -/
  | noOffsetOrder (relation : String)
  /-- no relation has the alias -/
  | unknownAlias (label : String)
  /-- the relation is not fetched in batches -/
  | notBatched (relation : String)
  /-- the statement would select nothing -/
  | noColumns (label : String)
  /-- the join to the parent is missing -/
  | noJoin (relation : String)
  /-- the joins over the junction are missing -/
  | noJunctionJoins (relation : String)
  /-- the batch keys are missing -/
  | noBatchKeys (relation : String)
  /-- the batch keys of the junction are missing -/
  | noJunctionBatch (relation : String)
  /-- the batch keys of the junction are missing, found while rendering a union -/
  | noJunctionBatchKeys (relation : String)
  /-- the join from junction to child is missing -/
  | noChildJoin (relation : String)
  /-- the junction is missing -/
  | noJunction (relation : String)
deriving DecidableEq

namespace PlanFault

/-- The wording. -/
def message : PlanFault → String
  | unreadable reason => reason
  | badSortSpec spec fault => s!"cannot parse sort spec '{spec}': {fault.message}"
  | repeatedAlias label => s!"alias '{label}' is used twice"
  | twoOrderings relation => s!"'{relation}' declares both orderBy and sortKey"
  | junctionTwoOrderings relation => s!"junction of '{relation}' declares both orderBy and sortKey"
  | mixedOrderings relation => s!"'{relation}' mixes keyset and offset ordering across its junction"
  | junctionWithoutChild relation => s!"junction of '{relation}' has no join to the child table"
  | junctionWithoutLink relation => s!"junction of '{relation}' needs sqlJoins or sqlBatch"
  | withoutLink relation => s!"'{relation}' has neither sqlJoin nor sqlBatch"
  | unordered relation => s!"'{relation}' is paginated but has no orderBy or sortKey"
  | notPaginated relation => s!"'{relation}' is not paginated"
  | noSortKey relation => s!"'{relation}' has no sort key"
  | emptySortKey relation => s!"'{relation}' has an empty sort key"
  | noOffsetOrder relation => s!"'{relation}' has no orderBy and no unique key to order by"
  | unknownAlias label => s!"no node with alias '{label}'"
  | notBatched relation => s!"'{relation}' is not a batched relation"
  | noColumns label => s!"statement for '{label}' selects no columns"
  | noJoin relation => s!"'{relation}' has no sqlJoin"
  | noJunctionJoins relation => s!"junction of '{relation}' has no sqlJoins"
  | noBatchKeys relation => s!"'{relation}' has no sqlBatch"
  | noJunctionBatch relation => s!"junction of '{relation}' has no sqlBatch"
  | noJunctionBatchKeys relation => s!"'{relation}' has no junction sqlBatch"
  | noChildJoin relation => s!"junction of '{relation}' has no join to the child"
  | noJunction relation => s!"'{relation}' has no junction"

end PlanFault

/-- What is wrong with the settings. -/
inductive SettingsFault where
  /-- the settings text cannot be read -/
  | unreadable (reason : String)
  /-- pages without a requested size would exceed the greatest size -/
  | defaultAboveMax (default max : UInt64)
  /-- no dialect has the name -/
  | unknownDialect (name : String)
deriving DecidableEq

namespace SettingsFault

/-- The wording. -/
def message : SettingsFault → String
  | unreadable reason => reason
  | defaultAboveMax default max =>
    s!"default_page_size ({default.toNat}) exceeds max_page_size ({max.toNat})"
  | unknownDialect name =>
    s!"unknown dialect '{name}', expected one of pg, mysql, mysql8, mariadb, oracle, sqlite3"

end SettingsFault

/-- Why a file cannot be read. -/
inductive FileFault where
  /-- nothing is at the path -/
  | missing
  /-- a folder is at the path -/
  | isFolder
  /-- the path goes on behind something that is no folder -/
  | notFolder
  /-- the path or a name in it is longer than one can be -/
  | nameTooLong
  /-- some other reason, in words -/
  | other (reason : String)
deriving DecidableEq

namespace FileFault

/-- The wording. -/
def message : FileFault → String
  | missing => "No such file or directory (os error 2)"
  | isFolder => "Is a directory (os error 21)"
  | notFolder => "Not a directory (os error 20)"
  | nameTooLong => "File name too long (os error 36)"
  | other reason => reason

end FileFault

/-- Why a plan could not be built, run or cut into pages. -/
inductive PlanError where
  /-- the dialect has no rendering for the technique -/
  | unsupportedPagination (dialect : String) (technique : Technique)
  /-- a cursor is unusable -/
  | invalidCursor (fault : CursorFault)
  /-- a hook failed while it was evaluated for the table with the alias -/
  | hookFailure (label reason : String)
  /-- the arguments of the request are unusable -/
  | invalidArguments (fault : ArgumentFault)
  /-- the plan is malformed -/
  | invalidPlan (fault : PlanFault)
  /-- the database refused a statement -/
  | execution (reason : String)
  /-- the settings are unusable -/
  | settings (fault : SettingsFault)
  /-- a file could not be read -/
  | file (fault : FileFault)
deriving DecidableEq

namespace PlanError

/-- The wording. -/
def message : PlanError → String
  | unsupportedPagination dialect technique =>
    s!"{technique.name} pagination is not supported on the {dialect} dialect"
  | invalidCursor fault => s!"Invalid cursor: {fault.message}"
  | hookFailure label reason => s!"Predicate hook failed on '{label}': {reason}"
  | invalidArguments fault => s!"Invalid pagination arguments: {fault.message}"
  | invalidPlan fault => s!"Invalid plan: {fault.message}"
  | execution reason => s!"Execution error: {reason}"
  | settings fault => s!"Configuration error: {fault.message}"
  | file fault => s!"IO error: {fault.message}"

end PlanError

/-! ## Results -/

section Results

variable {α β ε ε' : Type} {result : Except ε α}

/-- A sequence succeeds when both parts do. -/
theorem bind_eq_ok {f : α → Except ε β} {b : β} (h : result >>= f = .ok b) :
    ∃ a, result = .ok a ∧ f a = .ok b := by
  cases result with
  | error e => cases h
  | ok a => exact ⟨a, rfl, h⟩

theorem map_eq_ok {f : α → β} {b : β} (h : result.map f = .ok b) :
    ∃ a, result = .ok a ∧ f a = b := by
  cases result with
  | error e => cases h
  | ok a => exact ⟨a, rfl, Except.ok.inj h⟩

theorem mapError_eq_ok {f : ε → ε'} {a : α} (h : result.mapError f = .ok a) : result = .ok a := by
  cases result with
  | error e => cases h
  | ok b => exact congrArg Except.ok (Except.ok.inj h)

end Results

end RelationSql
