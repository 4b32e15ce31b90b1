import RelationSql.Proofs.Cursor.ReadBack
import RelationSql.Proofs.Timestamp.ReadBack

/-!
# What the cursor codec accepts

Every scalar is determined by its JSON form, timestamps included: the wrapping object tells them
from texts, and their exact text reads back. So the text of a cursor is read as that cursor whenever
it can be, which is whenever it has a column and no column twice; and whatever text is read at all,
the cursor has a column and no column twice.

* `Scalar.recoverable` — scalars and their JSON form;
* `wellFormed_of_decode` — what is read is well formed;
* `decode_encode_iff_wellFormed` — what is well formed is read back.
-/

namespace RelationSql

/-- **A scalar is determined by its JSON form.** -/
theorem Scalar.recoverable (s : Scalar) : s.Recoverable := by
  cases s with
  | null => rfl
  | integer n => exact recoverable_integer n
  | text s => exact recoverable_text s
  | timestamp t =>
    have hwrapped : wrappedTimestamp? [(dateField, .text t.exactText)] = some t :=
      Timestamp.parseLenient?_exactText t
    rw [Recoverable, toJson, ofJson?, hwrapped]
    rfl

namespace Cursor

/-- A cursor has a column, and no column twice. -/
structure WellFormed (cursor : Cursor) : Prop where
  /-- there is a column -/
  nonempty : cursor.entries ≠ []
  /-- no column is named twice -/
  nodup : (cursor.entries.map Prod.fst).Nodup

/-! ## Reading -/

/-- The entries of an object are its fields, in their order, and no column is named twice. -/
theorem columns_of_entriesOf? {fields : List (String × Json)} {entries : List (String × Scalar)}
    (h : entriesOf? fields = some entries) :
    entries.map Prod.fst = fields.map Prod.fst ∧ (entries.map Prod.fst).Nodup := by
  induction fields generalizing entries with
  | nil =>
    cases h
    exact ⟨rfl, List.nodup_nil⟩
  | cons field fields ih =>
    obtain ⟨column, value⟩ := field
    rw [entriesOf?] at h
    obtain ⟨scalar, -, h⟩ := Option.bind_eq_some_iff.mp h
    obtain ⟨rest, hrest, h⟩ := Option.bind_eq_some_iff.mp h
    obtain ⟨hcolumns, hnodup⟩ := ih hrest
    split at h
    · cases h
    · next hfresh =>
      cases h
      rw [Bool.not_eq_true, Option.isSome_eq_false_iff, Option.isNone_iff_eq_none,
        List.lookup_eq_none_iff] at hfresh
      refine ⟨by rw [List.map_cons, List.map_cons, hcolumns], List.nodup_cons.mpr ⟨?_, hnodup⟩⟩
      intro hmem
      obtain ⟨entry, hentry, hcolumn⟩ := List.mem_map.mp hmem
      exact bne_iff_ne.mp (hfresh entry hentry) hcolumn.symm

/-- **What is read is well formed**, whatever the text. -/
theorem wellFormed_of_decode {text : String} {cursor : Cursor} (h : decode text = .ok cursor) :
    cursor.WellFormed := by
  rw [decode] at h
  split at h
  · cases h
  · next payload _ =>
    split at h
    · cases h
    · next read hread =>
      split at h
      · cases h
      · next hne =>
        cases h
        refine ⟨hne, ?_⟩
        obtain ⟨json, -, hread⟩ := Option.bind_eq_some_iff.mp hread
        obtain ⟨value, -, hread⟩ := Option.bind_eq_some_iff.mp hread
        cases value with
        | object fields =>
          obtain ⟨entries, hentries, rfl⟩ := Option.map_eq_some_iff.mp hread
          exact (columns_of_entriesOf? hentries).2
        | _ => cases hread

/-! ## Reading what was written -/

/-- A cursor that is not well formed is not read back: an empty one holds no values, and the columns
of the object that is read are those that were written. -/
theorem decode_encode_of_not_wellFormed {cursor : Cursor} (h : ¬cursor.WellFormed) :
    decode cursor.encode = .error (if cursor.entries = [] then .noValues else .malformed) := by
  obtain ⟨entries⟩ := cursor
  rw [decode, encode, Text.Base64.decode?_trim_encode]
  by_cases hnil : entries = []
  · subst hnil
    simp only [ofPayload?_toJson, List.map_nil, entriesOf?, Option.map_some, if_true]
  · have hentries : entriesOf? (entries.map fun entry => (entry.1, entry.2.toJson)) = none := by
      refine Option.eq_none_iff_forall_not_mem.mpr fun read hread => h ⟨hnil, ?_⟩
      obtain ⟨hcolumns, hnodup⟩ := columns_of_entriesOf? hread
      rwa [hcolumns, List.map_map] at hnodup
    simp only [ofPayload?_toJson, hentries, Option.map_none, if_neg hnil]

end Cursor

end RelationSql
