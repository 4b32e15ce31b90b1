import RelationSql.Cursor
import RelationSql.Proofs.Json.ReadBack
import RelationSql.Proofs.Text.Base64

/-!
# Cursors read back

A keyset cursor survives being handed out: the text of a cursor with at least one column, no column
twice, and values that their JSON form determines is read as that cursor. What a sort key then asks
of it is found by name, so that the direction of a column plays no part. An offset cursor is read as
the index that it was written for.
-/

namespace RelationSql

namespace Scalar

/-- The JSON form of a scalar reads back inside a cursor. -/
theorem readsBack_toJson (nesting : Nat) (s : Scalar) :
    Json.ReadsBack (Json.readValue (nesting + 1)) s.toJson := by
  cases s with
  | null => exact Json.readsBack_null _
  | integer n =>
    refine Json.readsBack_integer _ n.minValue_le_toInt ?_
    exact Int.lt_of_lt_of_le n.toInt_lt (by decide)
  | text s => exact Json.readsBack_text _ s
  | timestamp t =>
    refine Json.readsBack_object fun field hfield => ?_
    rw [List.mem_singleton.mp hfield]
    exact Json.readsBack_text nesting _

/-- The scalars that their JSON form determines. -/
def Recoverable (s : Scalar) : Prop := ofJson? s.toJson = some s

theorem recoverable_integer (n : Int64) : (integer n).Recoverable := by
  have hn : Text.int64OfInt? n.toInt = some n := by
    rw [Text.int64OfInt?, if_pos ⟨n.minValue_le_toInt, n.toInt_le⟩, Int64.ofInt_toInt]
  simp [Recoverable, toJson, ofJson?, ofRowValue?, hn]

theorem recoverable_text (s : String) : (text s).Recoverable := rfl

end Scalar

namespace Cursor

/-- The entries are read back from the fields of the JSON object. -/
theorem entriesOf?_toJson {entries : List (String × Scalar)} (hnodup : (entries.map Prod.fst).Nodup)
    (hvalues : ∀ entry ∈ entries, entry.2.Recoverable) :
    entriesOf? (entries.map fun entry => (entry.1, entry.2.toJson)) = some entries := by
  induction entries with
  | nil => rfl
  | cons entry entries ih =>
    obtain ⟨column, value⟩ := entry
    rw [List.map_cons, List.nodup_cons] at hnodup
    have hrest := ih hnodup.2 fun entry he => hvalues entry (List.mem_cons_of_mem _ he)
    have hvalue : Scalar.ofJson? value.toJson = some value := hvalues _ List.mem_cons_self
    have hfresh : entries.lookup column = none := by
      refine List.lookup_eq_none_iff.mpr fun entry he => bne_iff_ne.mpr fun h => ?_
      exact hnodup.1 (List.mem_map.mpr ⟨entry, he, h.symm⟩)
    rw [List.map_cons, entriesOf?, hvalue, hrest]
    simp [hfresh]

/-- The payload of a cursor holds the JSON object that was written. -/
theorem ofPayload?_toJson (cursor : Cursor) :
    ofPayload? cursor.toJson.compact.toUTF8 =
      (entriesOf? (cursor.entries.map fun entry => (entry.1, entry.2.toJson))).map Cursor.mk := by
  have hparse : Json.parse? cursor.toJson.compact = some cursor.toJson := by
    refine Json.parse?_compact_object fun field hfield => ?_
    obtain ⟨entry, -, rfl⟩ := List.mem_map.mp hfield
    exact entry.2.readsBack_toJson 125
  rw [ofPayload?, Text.Base64.fromUTF8?_toUTF8]
  simp only [Option.bind_eq_bind, Option.bind_some, hparse]
  rfl

/-- **Cursors read back.** -/
theorem decode_encode {cursor : Cursor} (hne : cursor.entries ≠ [])
    (hnodup : (cursor.entries.map Prod.fst).Nodup)
    (hvalues : ∀ entry ∈ cursor.entries, entry.2.Recoverable) :
    decode cursor.encode = .ok cursor := by
  have hentries := entriesOf?_toJson hnodup hvalues
  rw [decode, encode, Text.Base64.decode?_trim_encode]
  simp only [ofPayload?_toJson, hentries, Option.map_some, if_neg hne]

/-! ## The values of a sort key -/

/-- The value of each column is found where every column has one. -/
theorem get?_map {columns : List OrderColumn} (value : String → Scalar) {key : OrderColumn}
    (hkey : key.column ∈ columns.map OrderColumn.column) :
    get? ⟨columns.map fun key => (key.column, value key.column)⟩ key.column =
      some (value key.column) := by
  rw [get?]
  induction columns with
  | nil => simp at hkey
  | cons first columns ih =>
    rw [List.map_cons, List.lookup_cons]
    by_cases hfirst : key.column = first.column
    · rw [hfirst, beq_self_eq_true]
    · rw [beq_eq_false_iff_ne.mpr hfirst]
      refine ih ?_
      rw [List.map_cons, List.mem_cons] at hkey
      exact hkey.resolve_left hfirst

/-- **The values of a sort key**, in its order, whatever the directions. The cursor may have been
made for the same columns with other directions. -/
theorem valuesFor_map {columns keys : List OrderColumn} (value : String → Scalar)
    (hcolumns : keys.map OrderColumn.column = columns.map OrderColumn.column) :
    valuesFor ⟨columns.map fun key => (key.column, value key.column)⟩ keys =
      .ok (keys.map fun key => value key.column) := by
  have hlength : keys.length = columns.length := by
    have := congrArg List.length hcolumns
    rwa [List.length_map, List.length_map] at this
  have hvalues : ∀ rest : List OrderColumn,
      (∀ key ∈ rest, key.column ∈ columns.map OrderColumn.column) →
      valuesOf ⟨columns.map fun key => (key.column, value key.column)⟩ rest =
        .ok (rest.map fun key => value key.column) := by
    intro rest hrest
    induction rest with
    | nil => rfl
    | cons key rest ih =>
      have hmore := ih fun key hk => hrest key (List.mem_cons_of_mem _ hk)
      rw [valuesOf, get?_map value (hrest key List.mem_cons_self), hmore]
      rfl
  rw [valuesFor, if_pos (by rw [List.length_map, hlength])]
  exact hvalues keys fun key hk => hcolumns ▸ List.mem_map_of_mem hk

end Cursor

/-! ## Offset cursors -/

/-- The numeral of a count is read as that count: it has no sign and fits the width. -/
theorem Text.unsigned?_numeral (n : UInt64) : unsigned? (numeral n.toNat) = some n := by
  have hplus (rest : List Char) : numeral n.toNat ≠ '+' :: rest := by
    intro h
    have hdigit := Json.all_isDigit_numeral n.toNat '+' (by rw [h]; exact List.mem_cons_self)
    exact absurd hdigit (by decide)
  rw [unsigned?, natural?_numeral, Option.bind_some, if_pos n.toNat_lt, UInt64.ofNat_toNat]
  exact hplus

/-- **Offset cursors read back.** -/
theorem OffsetCursor.decode_encode (n : UInt64) : decode (encode n) = .ok n := by
  have hpayload : ofPayload? (mark ++ Text.unsignedText n).toList = some n := by
    rw [ofPayload?, String.toList_append, if_pos (List.isPrefixOf_iff_prefix.mpr
      (List.prefix_append _ _)), List.drop_left, Text.unsignedText, String.toList_ofList,
      Text.unsigned?_numeral]
  rw [decode, encode, Text.Base64.decode?_trim_encode]
  simp only [Text.Base64.fromUTF8?_toUTF8, hpayload]

end RelationSql
