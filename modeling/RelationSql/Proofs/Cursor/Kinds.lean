import RelationSql.Proofs.Keyset.SaneRequests

/-!
# Two kinds of cursors

Both kinds of cursors are Base64 texts, so that nothing about a cursor as it is handed out tells
which kind it is of. What lies behind does, by its first character: an offset cursor starts with a
mark that no JSON value starts with, and the object of a keyset cursor starts with a brace, which
the mark does not start with. So a relation that is no longer paged in the way in which it was paged
when it handed out a cursor refuses the cursor.

* `Cursor.decode_of_offset` — an offset cursor is not read as a keyset cursor;
* `OffsetCursor.decode_of_keyset` — nor a keyset cursor as an offset cursor;
* `cursors_kept_apart` — so neither kind is taken for the other in a request.
-/

namespace RelationSql

/-! ## Payloads -/

/-- No value starts with the first letter of the mark. -/
theorem Json.parse?_of_mark {s : String} (h : OffsetCursor.mark.toList.isPrefixOf s.toList = true) :
    parse? s = none := by
  obtain ⟨rest, hrest⟩ := List.isPrefixOf_iff_prefix.mp h
  have hs : s.toList = 'a' :: ("rrayconnection:".toList ++ rest) := hrest.symm
  have hread (tail : List Char) : readValue nestingLimit ('a' :: tail) = none := by
    refine Eq.trans (b := readNumber ('a' :: tail)) ?_ rfl
    refine readValue.eq_9 nestingLimit ('a' :: tail) ?_ ?_ ?_ ?_ ?_ ?_ ?_ ?_
    all_goals
      intros
      exact absurd (List.cons.inj ‹_›).1 (by decide)
  rw [parse?, readWholeText, hs, skipSpace_cons (by decide), hread]

/-- The object of a cursor starts with a brace. -/
theorem Cursor.toChars_toJson (cursor : Cursor) :
    ∃ rest, cursor.toJson.toChars = '\x7b' :: rest := by
  obtain ⟨entries⟩ := cursor
  cases entries with
  | nil => exact ⟨_, rfl⟩
  | cons entry entries => exact ⟨_, Json.toChars_object entry.1 entry.2.toJson _⟩

/-! ## Texts -/

/-- What is read as an offset cursor is the mark with an index behind it. -/
theorem OffsetCursor.mark_of_decode {text : String} {n : UInt64} (h : decode text = .ok n) :
    ∃ bytes payload, Text.Base64.decode? (Text.trim text) = some bytes ∧
      String.fromUTF8? bytes = some payload ∧ mark.toList.isPrefixOf payload.toList = true := by
  rw [decode] at h
  split at h
  · cases h
  · next bytes hbytes =>
    split at h
    · cases h
    · next payload hpayload =>
      refine ⟨bytes, payload, hbytes, hpayload, ?_⟩
      split at h
      · cases h
      · next hread =>
        rw [ofPayload?] at hread
        split at hread
        · next hmark => exact hmark
        · cases hread

/-- **An offset cursor is not read as a keyset cursor**, however the index is written and whatever
blanks stand around it. -/
theorem Cursor.decode_of_offset {text : String} {n : UInt64}
    (h : OffsetCursor.decode text = .ok n) : decode text = .error .malformed := by
  obtain ⟨bytes, payload, hbytes, hpayload, hmark⟩ := OffsetCursor.mark_of_decode h
  have hread : ofPayload? bytes = none := by
    rw [ofPayload?, hpayload, Option.bind_eq_bind, Option.bind_some, Json.parse?_of_mark hmark]
    rfl
  simp only [decode, hbytes, hread]

/-- **A keyset cursor is not read as an offset cursor**, whatever its columns and values. -/
theorem OffsetCursor.decode_of_keyset (cursor : Cursor) :
    decode cursor.encode = .error (.notOffset cursor.toJson.compact) := by
  have hread : ofPayload? cursor.toJson.compact.toList = none := by
    obtain ⟨rest, hrest⟩ := cursor.toChars_toJson
    rw [Json.compact, String.toList_ofList, hrest, ofPayload?]
    rfl
  rw [decode, Cursor.encode, Text.Base64.decode?_trim_encode]
  simp only [Text.Base64.fromUTF8?_toUTF8, hread]

/-! ## Requests -/

/-- A cursor is given, on one side or on the other. -/
def Args.Carries (args : Args) (text : String) : Prop :=
  args.get? "after" = some (.text text) ∨ args.get? "before" = some (.text text)

theorem Args.Carries.usesCursor {args : Args} {text : String} (h : args.Carries text)
    (hside : args.OneSided) : args.UsesCursor text := by
  rcases h with h | h
  · refine .inr ⟨fun hlast => hside.after ⟨?_, hlast⟩, h⟩
    exact ⟨_, h, Json.noConfusion⟩
  · exact .inl ⟨hside.before ⟨_, h, Json.noConfusion⟩, h⟩

namespace Relation

variable {γ : Type} {r : Relation γ} {settings : PageSettings} {text : String}

/-- A request behind a cursor that cannot be read is not for rows by their sort values. -/
theorem not_cursorFits {columns : List String} {fault : CursorFault}
    (hcursor : r.args.UsesCursor text) (hread : Cursor.decode text = .error fault) :
    ¬r.args.CursorFits columns := by
  intro hfits
  obtain ⟨cursor, hcursor, -⟩ := hfits text hcursor
  cases hread.symm.trans hcursor

/-- **A page that is sought refuses offset cursors.** -/
theorem paging_refuses_offset {n : UInt64} (hmode : r.pagingMode? = some .keyset)
    (hcarries : r.args.Carries text) (hread : OffsetCursor.decode text = .ok n) :
    (∃ e, r.paging settings = .error e) ∧
    (r.args.Readable → r.args.OneSided → (∀ order ∈ r.sortKey?, order.columns ≠ []) →
      ∃ fault, r.paging settings = .error (.invalidCursor fault)) := by
  have hrefused := Cursor.decode_of_offset hread
  obtain ⟨order, hkey⟩ := Option.isSome_iff_exists.mp (isSome_sortKey? hmode)
  constructor
  · cases hpaging : r.paging settings with
    | error e => exact ⟨e, rfl⟩
    | ok paging =>
      rw [Relation.paging, hmode] at hpaging
      obtain ⟨keyset, hkeyset, -⟩ := map_eq_ok hpaging
      obtain ⟨-, -, hside, hfits⟩ := sane_of_keysetPaging settings hkey hkeyset
      exact absurd hfits (not_cursorFits (hcarries.usesCursor hside) hrefused)
  · intro hreadable hside hne
    obtain ⟨fault, hfault⟩ := keysetPaging_unfit settings hreadable hkey (hne order hkey) hside
      (not_cursorFits (hcarries.usesCursor hside) hrefused)
    refine ⟨fault, ?_⟩
    rw [Relation.paging, hmode]
    exact congrArg (Except.map Paging.keyset) hfault

/-- A counted page has no cursor behind it, and one that can be read before it. -/
theorem of_offsetPaging {offset : OffsetPaging} (h : r.offsetPaging settings = .ok offset) :
    (∀ s, r.args.get? "before" ≠ some (.text s)) ∧
      ∀ s, r.args.get? "after" = some (.text s) → ∃ n, OffsetCursor.decode s = .ok n := by
  obtain ⟨a, hargs, h⟩ := bind_eq_ok h
  have hread := (PageArgs.readable_of_ofArgs (mapError_eq_ok hargs)).2
  split at h
  · cases h
  · next hforward =>
    obtain ⟨order, -, h⟩ := bind_eq_ok h
    obtain ⟨skipped, hskipped, -⟩ := bind_eq_ok h
    refine ⟨fun s hs => ?_, fun s hs => ?_⟩
    · rw [← hread.before_eq_some] at hs
      rw [hs, Option.isSome_some, Bool.or_true] at hforward
      exact hforward rfl
    · rw [← hread.after_eq_some] at hs
      rw [hs, Option.mapM_some] at hskipped
      cases hn : OffsetCursor.decode s with
      | ok n => exact ⟨n, rfl⟩
      | error fault =>
        rw [hn] at hskipped
        cases hskipped

/-- **A page that is counted refuses cursors without an index.** -/
theorem paging_refuses_keyset {fault : CursorFault} (hmode : r.pagingMode? = some .offset)
    (hcarries : r.args.Carries text) (hread : OffsetCursor.decode text = .error fault) :
    (∃ e, r.paging settings = .error e) ∧
    (r.args.Readable → ¬r.args.Given "last" → ¬r.args.Given "before" →
      r.paging settings = .error (.invalidCursor fault)) := by
  rw [Relation.paging, hmode]
  constructor
  · cases hoffset : r.offsetPaging settings with
    | error e => exact ⟨e, rfl⟩
    | ok offset =>
      obtain ⟨hbefore, hafter⟩ := of_offsetPaging hoffset
      rcases hcarries with hcarries | hcarries
      · obtain ⟨n, hn⟩ := hafter text hcarries
        cases hread.symm.trans hn
      · exact absurd hcarries (hbefore text)
  · intro hreadable hlast hbefore
    obtain ⟨a, hargs⟩ := PageArgs.exists_ofArgs hreadable
    obtain ⟨order, horder⟩ := Option.isSome_iff_exists.mp (isSome_orderBy? hmode)
    have hfrom := (PageArgs.readable_of_ofArgs hargs).2
    have hcursor : a.after = some text := by
      refine (hfrom.after_eq_some text).mpr (hcarries.resolve_right fun hcarried => hbefore ?_)
      exact ⟨_, hcarried, Json.noConfusion⟩
    rw [← hfrom.last, Option.not_isSome_iff_eq_none] at hlast
    rw [← hfrom.before, Option.not_isSome_iff_eq_none] at hbefore
    have hoffset : r.offsetPaging settings = .error (.invalidCursor fault) := by
      simp [offsetPaging, pageArgs, hargs, hlast, hbefore, hcursor, hread, offsetOrder, horder,
        Except.mapError, bind, Except.bind, Functor.map, Except.map]
    exact congrArg (Except.map Paging.offset) hoffset

end Relation

/-- **The two kinds of cursors are kept apart.** An offset cursor is read as its index, and never as
a keyset cursor; a keyset cursor is never read as an index, whatever it holds; no text is read both
ways. So a page that is sought refuses every offset cursor and a page that is counted every keyset
cursor, as an unusable cursor where nothing else is wrong with the request. -/
theorem cursors_kept_apart {γ : Type} (r : Relation γ) (settings : PageSettings) :
    (∀ n : UInt64, OffsetCursor.decode (OffsetCursor.encode n) = .ok n ∧
      Cursor.decode (OffsetCursor.encode n) = .error .malformed) ∧
    (∀ cursor : Cursor, OffsetCursor.decode cursor.encode =
      .error (.notOffset cursor.toJson.compact)) ∧
    (∀ (text : String) (n : UInt64), OffsetCursor.decode text = .ok n →
      Cursor.decode text = .error .malformed) ∧
    (r.pagingMode? = some .keyset → ∀ n : UInt64, r.args.Carries (OffsetCursor.encode n) →
      (∃ e, r.paging settings = .error e) ∧
      (r.args.Readable → r.args.OneSided → (∀ order ∈ r.sortKey?, order.columns ≠ []) →
        ∃ fault, r.paging settings = .error (.invalidCursor fault))) ∧
    (r.pagingMode? = some .offset → ∀ cursor : Cursor, r.args.Carries cursor.encode →
      (∃ e, r.paging settings = .error e) ∧
      (r.args.Readable → ¬r.args.Given "last" → ¬r.args.Given "before" →
        ∃ fault, r.paging settings = .error (.invalidCursor fault))) := by
  have hindex (n : UInt64) := OffsetCursor.decode_encode n
  refine ⟨fun n => ⟨hindex n, Cursor.decode_of_offset (hindex n)⟩, OffsetCursor.decode_of_keyset,
    fun text n => Cursor.decode_of_offset, fun hmode n hcarries => ?_,
    fun hmode cursor hcarries => ?_⟩
  · exact Relation.paging_refuses_offset hmode hcarries (hindex n)
  · obtain ⟨hrefused, hfault⟩ := Relation.paging_refuses_keyset hmode hcarries
      (OffsetCursor.decode_of_keyset cursor)
    exact ⟨hrefused, fun hreadable hlast hbefore => ⟨_, hfault hreadable hlast hbefore⟩⟩

/-- The users by name, or in the order in which they came, behind a cursor. -/
def usersBehind (mode : PagingMode) (text : String) : Relation Unit where
  name := "users"
  table := "accounts"
  label := "u"
  args := [("first", .integer 10), ("after", .text text)]
  paginate := true
  sortKey := if mode = .keyset then some [⟨"name", .asc⟩, ⟨"id", .asc⟩] else none
  orderBy := if mode = .offset then some [⟨"created", .asc⟩] else none

theorem readable_usersBehind (mode : PagingMode) (text : String) :
    (usersBehind mode text).args.Readable where
  first := by
    intro value hvalue _
    obtain rfl : .integer 10 = value := Option.some.inj hvalue
    exact ⟨10, .number 10⟩
  last := by
    intro value hvalue
    cases hvalue
  after := by
    intro value hvalue _
    exact ⟨text, (Option.some.inj hvalue).symm⟩
  before := by
    intro value hvalue
    cases hvalue
  oneEnd h := Args.not_given_of_absent rfl h.2

/-- The greatest index is no place among names, and a name that looks like an index is none. -/
theorem usersBehind_refused :
    let place : Cursor := ⟨[("name", .text "arrayconnection:7"), ("id", .integer 3)]⟩
    (∃ fault, (usersBehind .keyset (OffsetCursor.encode 18446744073709551615)).paging {} =
      .error (.invalidCursor fault)) ∧
    ∃ fault, (usersBehind .offset place.encode).paging {} = .error (.invalidCursor fault) := by
  intro place
  have hlast (mode : PagingMode) (text : String) : ¬(usersBehind mode text).args.Given "last" :=
    Args.not_given_of_absent rfl
  have hbefore (mode : PagingMode) (text : String) :
      ¬(usersBehind mode text).args.Given "before" := Args.not_given_of_absent rfl
  constructor
  · obtain ⟨-, -, -, hsought, -⟩ :=
      cursors_kept_apart (usersBehind .keyset (OffsetCursor.encode 18446744073709551615)) {}
    refine (hsought rfl _ (.inl rfl)).2 (readable_usersBehind _ _) ⟨?_, ?_⟩ ?_
    · exact fun h => hlast _ _ h.2
    · exact fun h => absurd h (hbefore _ _)
    · intro order horder
      cases horder
      exact List.cons_ne_nil _ _
  · obtain ⟨-, -, -, -, hcounted⟩ := cursors_kept_apart (usersBehind .offset place.encode) {}
    exact (hcounted rfl _ (.inl rfl)).2 (readable_usersBehind _ _) (hlast _ _) (hbefore _ _)

end RelationSql
