import RelationSql.Proofs.Keyset.SaneRequests
import Mathlib.Data.List.Perm.Subperm

/-!
# The values of a sort key

A cursor names its columns, so a sort key finds its values by name and not by place. The check that
is made is a weak one: there are as many entries as columns, and each column is found. Since neither
side names a column twice, counting makes it an exact one.

* `perm_columns_iff` — as many columns, all of them found, are the same columns;
* `get?_of_perm` — the order of the entries plays no part;
* `values_by_name` — what a sort key gets from a cursor that was read.
-/

namespace RelationSql

namespace Cursor

variable {cursor other : Cursor} {keys : List OrderColumn}

/-! ## Finding by name -/

/-- **Counting.** If no column is asked for twice, and as many are asked for as there are, all of
which are found, then nothing else is there. -/
theorem perm_columns_iff {columns : List String} (hcolumns : columns.Nodup) :
    (cursor.entries.map Prod.fst).Perm columns ↔ cursor.entries.length = columns.length ∧
      ∀ column ∈ columns, column ∈ cursor.entries.map Prod.fst := by
  constructor
  · intro h
    refine ⟨?_, fun column hcolumn => h.mem_iff.mpr hcolumn⟩
    rw [← h.length_eq, List.length_map]
  · rintro ⟨hlength, hfound⟩
    have hpart := List.subperm_of_subset hcolumns hfound
    refine (hpart.perm_of_length_le ?_).symm
    rw [List.length_map, hlength]

/-- The values of a sort key are those that stand behind its columns, in the order of the key. -/
theorem valuesFor_eq_ok_iff_holds (hnodup : (cursor.entries.map Prod.fst).Nodup)
    {values : List Scalar} : cursor.valuesFor keys = .ok values ↔
      cursor.entries.length = keys.length ∧
        List.Forall₂ (fun key value => (key.column, value) ∈ cursor.entries) keys values := by
  simp only [valuesFor_eq_ok_iff, ← List.forall₂_eq_eq_eq, List.forall₂_map_left_iff,
    List.forall₂_map_right_iff, get?_eq_some_iff hnodup]

/-- Each column of a list is found exactly if there are values for all of them. -/
theorem exists_holds_iff : (∃ values : List Scalar,
    List.Forall₂ (fun key value => (key.column, value) ∈ cursor.entries) keys values) ↔
      ∀ column ∈ keys.map OrderColumn.column, column ∈ cursor.entries.map Prod.fst := by
  induction keys with
  | nil => simp
  | cons key keys ih =>
    rw [List.map_cons, List.forall_mem_cons, ← ih]
    constructor
    · rintro ⟨values, h⟩
      obtain ⟨value, rest, hvalue, hrest, -⟩ := List.forall₂_cons_left_iff.mp h
      exact ⟨List.mem_map_of_mem (f := Prod.fst) hvalue, rest, hrest⟩
    · rintro ⟨hfound, rest, hrest⟩
      obtain ⟨⟨column, value⟩, hentry, rfl⟩ := List.mem_map.mp hfound
      exact ⟨value :: rest, .cons hentry hrest⟩

/-- **A sort key gets its values exactly from the cursors with its columns**, in any order. -/
theorem exists_valuesFor_iff_perm (hnodup : (cursor.entries.map Prod.fst).Nodup)
    (hkeys : (keys.map OrderColumn.column).Nodup) :
    (∃ values, cursor.valuesFor keys = .ok values) ↔
      (cursor.entries.map Prod.fst).Perm (keys.map OrderColumn.column) := by
  simp only [valuesFor_eq_ok_iff_holds hnodup, exists_and_left, exists_holds_iff,
    perm_columns_iff hkeys, List.length_map]

/-! ## Entries in another order -/

section Reordered

variable (hnodup : (cursor.entries.map Prod.fst).Nodup) (h : other.entries.Perm cursor.entries)
include hnodup h

/-- The value of a column does not depend on its place. -/
theorem get?_of_perm (column : String) : other.get? column = cursor.get? column := by
  have hother : (other.entries.map Prod.fst).Nodup := (h.map Prod.fst).nodup_iff.mpr hnodup
  refine Option.ext fun value => ?_
  rw [get?_eq_some_iff hother, get?_eq_some_iff hnodup, h.mem_iff]

theorem valuesFor_of_perm (keys : List OrderColumn) :
    other.valuesFor keys = cursor.valuesFor keys := by
  have hvalues : other.valuesOf keys = cursor.valuesOf keys := by
    induction keys with
    | nil => rfl
    | cons key keys ih => rw [valuesOf, valuesOf, get?_of_perm hnodup h, ih]
  rw [valuesFor, valuesFor, h.length_eq, hvalues]

end Reordered

/-- A cursor in another order is read back as well. -/
theorem decode_encode_of_perm (hformed : cursor.WellFormed)
    (h : other.entries.Perm cursor.entries) : decode other.encode = .ok other := by
  refine decode_encode ?_ ?_ fun entry _ => entry.2.recoverable
  · intro hnil
    rw [hnil] at h
    exact hformed.nonempty h.nil_eq.symm
  · exact (h.map Prod.fst).nodup_iff.mpr hformed.nodup

/-! ## Conditions -/

/-- The condition to come after a cursor that was read depends on its values only. -/
theorem seekAfter_of_decode {text : String} (hread : decode text = .ok cursor) :
    Relation.seekAfter keys text = (cursor.valuesFor keys).bind (Seek.after keys) := by
  rw [Relation.seekAfter, hread]
  rfl

/-- **Values are matched by name.** A sort key without repeated columns gets values from a cursor
that was read exactly if the columns of the cursor are those of the key, in some order; the values
are those that the cursor holds for the columns, in the order of the key. So the entries of a cursor
can be put in any order, which is a cursor as well, with the same values and the same condition to
come after it. A column that only one of the two has makes the cursor be refused. -/
theorem values_by_name {text : String} {cursor : Cursor} (hread : decode text = .ok cursor)
    {keys : List OrderColumn} (hkeys : (keys.map OrderColumn.column).Nodup) :
    ((∃ values, cursor.valuesFor keys = .ok values) ↔
      (cursor.entries.map Prod.fst).Perm (keys.map OrderColumn.column)) ∧
    (∀ values, cursor.valuesFor keys = .ok values ↔
      (cursor.entries.map Prod.fst).Perm (keys.map OrderColumn.column) ∧
        List.Forall₂ (fun key value => (key.column, value) ∈ cursor.entries) keys values) ∧
    (∀ other : Cursor, other.entries.Perm cursor.entries →
      decode other.encode = .ok other ∧ other.valuesFor keys = cursor.valuesFor keys ∧
        Relation.seekAfter keys other.encode = Relation.seekAfter keys text) ∧
    ∀ column, ¬(column ∈ cursor.entries.map Prod.fst ↔ column ∈ keys.map OrderColumn.column) →
      ∃ fault, cursor.valuesFor keys = .error fault ∧
        Relation.seekAfter keys text = .error fault := by
  have hformed := wellFormed_of_decode hread
  have hnodup := hformed.nodup
  have hperm := exists_valuesFor_iff_perm hnodup hkeys
  refine ⟨hperm, fun values => ?_, fun other hother => ?_, fun column hcolumn => ?_⟩
  · constructor
    · intro hvalues
      exact ⟨hperm.mp ⟨values, hvalues⟩, ((valuesFor_eq_ok_iff_holds hnodup).mp hvalues).2⟩
    · rintro ⟨hcolumns, hholds⟩
      refine (valuesFor_eq_ok_iff_holds hnodup).mpr ⟨?_, hholds⟩
      simpa using hcolumns.length_eq
  · have hback := decode_encode_of_perm hformed hother
    have hvalues := valuesFor_of_perm hnodup hother keys
    refine ⟨hback, hvalues, ?_⟩
    rw [seekAfter_of_decode hback, seekAfter_of_decode hread, hvalues]
  · cases hvalues : cursor.valuesFor keys with
    | ok values => exact absurd (hperm.mp ⟨values, hvalues⟩).mem_iff hcolumn
    | error fault =>
      refine ⟨fault, rfl, ?_⟩
      rw [seekAfter_of_decode hread, hvalues]
      rfl

/-- A place among posts by rank and day, for a sort key that names the day first; a key that also
names the author gets nothing from it. -/
theorem values_by_name_of_day :
    let day : Scalar := .timestamp ⟨⟨2024, 2, 29, by decide, by decide⟩, 23, 59, 60, 5, by decide⟩
    let cursor : Cursor := ⟨[("rank", .integer (-3)), ("day", day)]⟩
    let keys : List OrderColumn := [⟨"day", .desc⟩, ⟨"rank", .asc⟩]
    decode cursor.encode = .ok cursor ∧ (keys.map OrderColumn.column).Nodup ∧
      cursor.valuesFor keys = .ok [day, .integer (-3)] ∧
      Relation.seekAfter keys (Cursor.mk cursor.entries.reverse).encode =
        Relation.seekAfter keys cursor.encode ∧
      ∃ fault, cursor.valuesFor (⟨"author", .asc⟩ :: keys) = .error fault := by
  intro day cursor keys
  have hread : decode cursor.encode = .ok cursor :=
    decode_encode (by decide) (by decide) fun entry _ => entry.2.recoverable
  have hkeys : (keys.map OrderColumn.column).Nodup := by decide
  have hmore : ((⟨"author", .asc⟩ :: keys).map OrderColumn.column).Nodup := by decide
  obtain ⟨-, hvalues, hother, -⟩ := values_by_name hread hkeys
  obtain ⟨-, -, -, hrefused⟩ := values_by_name hread hmore
  obtain ⟨fault, hfault, -⟩ := hrefused "author" (by decide)
  refine ⟨hread, hkeys, (hvalues _).mpr ⟨.swap _ _ [], ?_⟩,
    (hother _ (List.reverse_perm _)).2.2, fault, hfault⟩
  exact .cons (List.mem_cons_of_mem _ List.mem_cons_self) (.cons List.mem_cons_self .nil)

end Cursor

end RelationSql
