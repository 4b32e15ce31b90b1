import RelationSql.Proofs.Keyset.Issued
import RelationSql.Proofs.Planner.PageReads

/-!
# How large a page can get

The size of a page is what the request asks for, or else the limit of the relation, or else the
default size; then it is cut down to the limit of the relation and to the greatest size of the
settings. A cap is only ever applied to a size, so a request that names none, for a relation without
a limit and without a default, is for all rows, whatever the greatest size.

* `PageSettings.pageSize_eq_none_iff` — when a page has no size;
* `PageSettings.pageSize_le` — a size is within both caps;
* `Page.length_edges` — a page has as many edges as rows within its size, and
  `Page.length_edges_of_unlimited` as many as rows if it has none;
* `Relation.page_sizes_capped` — so every page with a size is within both caps.
-/

namespace RelationSql

variable {γ : Type}

/-! ## Sizes -/

/-- The smaller of two bounds is within each that is given. -/
theorem exists_smallerBound_le {a b : Option UInt64} {cap : UInt64}
    (h : a = some cap ∨ b = some cap) : ∃ bound, smallerBound a b = some bound ∧ bound ≤ cap := by
  rcases h with rfl | rfl
  · cases b with
    | none => exact ⟨cap, rfl, UInt64.le_refl cap⟩
    | some other => exact ⟨min cap other, rfl, Std.min_le_left⟩
  · cases a with
    | none => exact ⟨cap, rfl, UInt64.le_refl cap⟩
    | some other => exact ⟨min other cap, rfl, Std.min_le_right⟩

namespace PageSettings

variable {settings : PageSettings} {requested limit : Option UInt64}

/-- **A page has no size** if none of the three that could stand for it is given. -/
theorem pageSize_eq_none_iff : settings.pageSize requested limit = none ↔
    requested = none ∧ limit = none ∧ settings.defaultPageSize = none := by
  rw [pageSize]
  cases requested <;> cases limit <;> cases settings.defaultPageSize <;>
    cases settings.maxPageSize <;> simp [smallerBound]

/-- **A size is within both caps**, the limit of the relation and the greatest size. -/
theorem pageSize_le {size cap : UInt64} (hsize : settings.pageSize requested limit = some size)
    (hcap : limit = some cap ∨ settings.maxPageSize = some cap) : size ≤ cap := by
  obtain ⟨bound, hbound, hle⟩ := exists_smallerBound_le hcap
  rw [pageSize, hbound] at hsize
  split at hsize
  · cases hsize
  · next asked _ =>
    obtain rfl := Option.some.inj hsize
    exact UInt64.le_trans Std.min_le_right hle

end PageSettings

theorem Limit.forPage_eq_unlimited_iff {size : Option UInt64} :
    forPage size = .unlimited ↔ size = none := by
  cases size <;> simp [forPage]

/-- The number of rows that the arguments ask for, from either end. -/
def PageArgs.size? (args : PageArgs) : Option UInt64 := args.first <|> args.last

theorem PageArgs.size?_eq_none_iff {args : PageArgs} :
    args.size? = none ↔ args.first = none ∧ args.last = none := by
  rw [size?]
  cases args.first <;> simp

/-- A request to a sort key has the size that is given: of the two, there is one at most. -/
theorem PageArgs.size_of_keysetRequest {args : Args} {a : PageArgs} {request : PageRequest}
    (hargs : ofArgs args = .ok a) (hrequest : a.keysetRequest = .ok request) :
    request.size = a.size? := by
  obtain ⟨-, -, -, -, hone⟩ := ofArgs_eq_ok.mp hargs
  rw [size?]
  rcases keysetRequest_eq_ok.mp hrequest with ⟨hlast, -, rfl⟩ | ⟨hlast, -, rfl⟩
  · cases hfirst : a.first with
    | none => rfl
    | some first => simp [hfirst, hlast] at hone
  · cases a.first <;> simp [hlast]

namespace Relation

variable {r : Relation γ} {settings : PageSettings}

theorem limit_of_keysetPaging {keyset : KeysetPaging} (h : r.keysetPaging settings = .ok keyset) :
    ∃ args, PageArgs.ofArgs r.args = .ok args ∧
      keyset.limit = .forPage (settings.pageSize args.size? r.limit) := by
  obtain ⟨args, hargs, h⟩ := bind_eq_ok h
  obtain ⟨order, -, h⟩ := bind_eq_ok h
  split at h
  · cases h
  · obtain ⟨request, hrequest, h⟩ := bind_eq_ok h
    obtain ⟨seek, -, h⟩ := bind_eq_ok h
    cases h
    have hsize := PageArgs.size_of_keysetRequest (mapError_eq_ok hargs) (mapError_eq_ok hrequest)
    exact ⟨args, mapError_eq_ok hargs, by rw [hsize]⟩

theorem limit_of_offsetPaging {offset : OffsetPaging} (h : r.offsetPaging settings = .ok offset) :
    ∃ args, PageArgs.ofArgs r.args = .ok args ∧
      offset.limit = .forPage (settings.pageSize args.size? r.limit) := by
  obtain ⟨args, hargs, h⟩ := bind_eq_ok h
  split at h
  · cases h
  · next hforward =>
    obtain ⟨order, -, h⟩ := bind_eq_ok h
    obtain ⟨skipped, -, h⟩ := bind_eq_ok h
    cases h
    obtain ⟨hlast, -⟩ : args.last = none ∧ args.before = none := by simpa using hforward
    have hsize : args.first = args.size? := by
      rw [PageArgs.size?, hlast]
      cases args.first <;> rfl
    exact ⟨args, mapError_eq_ok hargs, by rw [hsize]⟩

/-- **The limit of an interpreted request** is the one for the size that it asks for. -/
theorem limit_of_paging {paging : Paging} (h : r.paging settings = .ok paging) :
    ∃ args, PageArgs.ofArgs r.args = .ok args ∧
      paging.limit = .forPage (settings.pageSize args.size? r.limit) := by
  rcases paging_eq_ok h with ⟨keyset, -, hkeyset, rfl⟩ | ⟨offset, -, hoffset, rfl⟩
  · exact limit_of_keysetPaging hkeyset
  · exact limit_of_offsetPaging hoffset

end Relation

/-! ## Edges -/

theorem length_of_mapM_eq_ok {α β ε : Type} {f : α → Except ε β} {xs : List α} {ys : List β}
    (h : xs.mapM f = .ok ys) : ys.length = xs.length := by
  induction xs generalizing ys with
  | nil =>
    cases h
    rfl
  | cons x xs ih =>
    rw [List.mapM_cons] at h
    obtain ⟨first, -, h⟩ := bind_eq_ok h
    obtain ⟨rest, hrest, h⟩ := bind_eq_ok h
    cases h
    rw [List.length_cons, List.length_cons, ih hrest]

namespace Page

theorem length_offsetEdges (label : String) (index : UInt64) (rows : List Row) :
    (offsetEdges label index rows).length = rows.length := by
  induction rows generalizing index with
  | nil => rfl
  | cons row rows ih => rw [offsetEdges, List.length_cons, List.length_cons, ih]

/-- **A page has as many edges as rows within its size.** -/
theorem length_edges {r : Relation γ} {paging : Paging} {rows : List Row} {page : Page}
    (h : ofRows r paging rows = .ok page) :
    page.edges.length = (kept paging.limit rows).length := by
  cases paging with
  | keyset keyset =>
    obtain ⟨edges, hedges, hpage⟩ := bind_eq_ok (mapError_eq_ok h)
    cases hpage
    refine (length_of_mapM_eq_ok hedges).trans ?_
    split
    · exact List.length_reverse
    · rfl
  | offset offset =>
    cases h
    exact length_offsetEdges _ _ _

end Page

/-! ## Caps -/

/-- A page has a size, and never more than so many edges, whatever rows it is made of. -/
structure Paging.CappedAt (paging : Paging) (cap : UInt64) : Prop where
  /-- one row more than the cap is fetched at most, as far as counts go -/
  limit : ∃ count, paging.limit = .rows count ∧
    count.toNat ≤ min (cap.toNat + 1) (UInt64.size - 1)
  /-- no page has more edges -/
  edges : ∀ (γ : Type) (r : Relation γ) (rows : List Row) (page : Page),
    Page.ofRows r paging rows = .ok page → page.edges.length ≤ cap.toNat

theorem Paging.cappedAt_of_size {paging : Paging} {size cap : UInt64}
    (hlimit : paging.limit = .forPage (some size)) (hle : size ≤ cap) : paging.CappedAt cap := by
  have hle : size.toNat ≤ cap.toNat := UInt64.le_iff_toNat_le.mp hle
  have hcount := toNat_countSucc size
  refine ⟨⟨countSucc size, hlimit, by omega⟩, ?_⟩
  intro γ r rows page hpage
  have hpred := toNat_countPred (countSucc size)
  rw [Page.length_edges hpage, hlimit, Limit.forPage, Page.kept, Limit.pageSize,
    List.length_take]
  omega

/-- A page without a size holds all rows. -/
theorem Page.length_edges_of_unlimited {r : Relation γ} {paging : Paging} {rows : List Row}
    {page : Page} (hlimit : paging.limit = .unlimited) (h : ofRows r paging rows = .ok page) :
    page.edges.length = rows.length := by
  rw [length_edges h, hlimit]
  rfl

/-- **Every page with a size is within both caps.** It has no size exactly if neither the request
nor the relation nor the settings name one, and then it holds all rows; otherwise it is within the
greatest size of the settings, and it always is within the limit of its relation. -/
theorem Relation.page_sizes_capped {r : Relation γ} {settings : PageSettings} {paging : Paging}
    (h : r.paging settings = .ok paging) : ∃ args, PageArgs.ofArgs r.args = .ok args ∧
      (paging.limit = .unlimited ↔ args.first = none ∧ args.last = none ∧ r.limit = none ∧
        settings.defaultPageSize = none) ∧
      (∀ cap, settings.maxPageSize = some cap → paging.limit ≠ .unlimited →
        paging.CappedAt cap) ∧
      (∀ cap, r.limit = some cap → paging.CappedAt cap) ∧
      (paging.limit = .unlimited → ∀ rows page, Page.ofRows r paging rows = .ok page →
        page.edges.length = rows.length) := by
  obtain ⟨args, hargs, hlimit⟩ := limit_of_paging h
  have hunlimited : paging.limit = .unlimited ↔ args.first = none ∧ args.last = none ∧
      r.limit = none ∧ settings.defaultPageSize = none := by
    rw [hlimit, Limit.forPage_eq_unlimited_iff, PageSettings.pageSize_eq_none_iff,
      PageArgs.size?_eq_none_iff, and_assoc]
  have hcapped (cap : UInt64) (hcap : r.limit = some cap ∨ settings.maxPageSize = some cap)
      (hlimited : paging.limit ≠ .unlimited) : paging.CappedAt cap := by
    rw [hlimit, Ne, Limit.forPage_eq_unlimited_iff] at hlimited
    obtain ⟨size, hsize⟩ := Option.ne_none_iff_exists'.mp hlimited
    rw [hsize] at hlimit
    exact Paging.cappedAt_of_size hlimit (PageSettings.pageSize_le hsize hcap)
  refine ⟨args, hargs, hunlimited, fun cap hcap => hcapped cap (.inr hcap), fun cap hcap => ?_,
    fun hnone _ _ hpage => Page.length_edges_of_unlimited hnone hpage⟩
  refine hcapped cap (.inl hcap) fun hnone => ?_
  obtain ⟨-, -, hown, -⟩ := hunlimited.mp hnone
  rw [hown] at hcap
  cases hcap

/-- Five rows from the end are asked for, as a text, and two are allowed. -/
theorem page_capped_of_last :
    let r := (usersBy [⟨"id", .asc⟩]).withArgs [("last", .text " 5 ")]
    ∃ paging, r.paging { maxPageSize := some 2 } = .ok paging ∧ paging.CappedAt 2 := by
  intro r
  have hpaging : r.paging { maxPageSize := some 2 } =
      .ok (.keyset ⟨.rows 3, ⟨"users", [⟨"id", .desc⟩]⟩, none, true⟩) := rfl
  obtain ⟨args, -, -, hcapped, -⟩ := Relation.page_sizes_capped hpaging
  exact ⟨_, hpaging, hcapped 2 rfl (by decide)⟩

/-- Where nothing names a size, the greatest size is not applied, and a page holds all rows. -/
theorem page_uncapped_without_size :
    let r := (usersBy [⟨"id", .asc⟩]).withArgs []
    let settings : PageSettings := { maxPageSize := some 1 }
    ∃ paging page, r.paging settings = .ok paging ∧ paging.limit = .unlimited ∧
      Page.ofRows r paging namesakes = .ok page ∧ page.edges.length = 2 := by
  intro r settings
  exact ⟨.keyset ⟨.unlimited, ⟨"users", [⟨"id", .asc⟩]⟩, none, false⟩, _, rfl, rfl, rfl, rfl⟩

end RelationSql
