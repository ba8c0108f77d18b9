import Keyset.Error
import Keyset.Page
import Keyset.Proofs.Cursor.Selection
import Keyset.Proofs.Cursor.Token

/-! # Turning pages

A client pages through stores by the token of the last record that it was given: the next page
holds the first records behind that record in the store of the next fetch (`Keyset.Paging.run`).
On records with values of one kind at every level, a token says exactly which records are left
(`Keyset.Paging.page_eq`), so a run goes on with the last record of a page as its only memory
(`Keyset.Paging.run_cons`).
-/

namespace Keyset

/-- How a client pages: the order, the field of the ids, the size of a page, and a filter. -/
structure Paging where
  order : Order
  idField : String
  limit : Nat
  filter : Option Predicate

/-- The records of a page. -/
def Connection.records (connection : Connection) : List Record :=
  connection.items.map Edge.value

namespace Paging

/-- The token of a record. -/
def token (paging : Paging) (record : Record) : String :=
  Position.encode (.named (Order.fields paging.order)) record

/-- The condition of the records behind a token. Without a token every record matches. -/
def place (paging : Paging) : Option String → Except Error Predicate
  | none => .ok .unconstrained
  | some token => do
    let cursor ← (Position.decode token).mapError .position
    .ok (afterCursor paging.order cursor paging.idField false)

/-- The predicate of a page. -/
def wanted (paging : Paging) (place : Predicate) : Predicate :=
  match paging.filter with
  | none => place
  | some filter => .andAll [filter, place]

/-- The page of a store behind a token. -/
def page (paging : Paging) (token : Option String) (store : List Record) :
    Except Error Connection := do
  let place ← paging.place token
  (Connection.ofStore (.named (Order.fields paging.order)) (Order.keys paging.order)
    (some paging.limit) (paging.wanted place) store).mapError .eval

/-- The pages of successive stores, up to the first page that no more records follow. -/
def run (paging : Paging) : Option String → List (List Record) → Except Error (List Connection)
  | _, [] => .ok []
  | token, store :: later => do
    let page ← paging.page token store
    if page.hasMore then
      let further ← run paging page.endPosition later
      .ok (page :: further)
    else .ok [page]

/-- All records of the pages, in the order in which they were given out. -/
def returned (pages : List Connection) : List Record :=
  pages.flatMap Connection.records

/-- The last page says that no more records follow. -/
def Stopped (pages : List Connection) : Prop :=
  pages.getLast?.map Connection.hasMore = some false

theorem returned_cons (page : Connection) (further : List Connection) :
    returned (page :: further) = page.records ++ returned further :=
  List.flatMap_cons

theorem ne_nil_of_stopped {pages : List Connection} (stopped : Stopped pages) : pages ≠ [] := by
  rintro rfl
  simp [Stopped] at stopped

theorem stopped_cons {page : Connection} {further : List Connection} (stopped : Stopped further) :
    Stopped (page :: further) := by
  rwa [Stopped, List.getLast?_cons_of_ne_nil (ne_nil_of_stopped stopped)]

/-- A run that goes on after a page stops only with a further page. -/
theorem stopped_of_cons {page : Connection} {further : List Connection}
    (more : page.hasMore = true) (stopped : Stopped (page :: further)) : Stopped further := by
  cases further with
  | nil =>
      have ended : page.hasMore = false := Option.some.inj stopped
      rw [more] at ended
      contradiction
  | cons second rest => rwa [Stopped, List.getLast?_cons_cons] at stopped

/-- The ids have a field among the levels of the order, no level holds timestamps, and a page
has room for a record. -/
structure Usable (schema : String → Value.Kind) (paging : Paging) : Prop where
  named : paging.idField ≠ ""
  ordered : Order.hasField paging.order paging.idField
  timeless : ∀ entry ∈ paging.order, schema entry.field ≠ .timestamp
  limited : 0 < paging.limit

end Paging

/-! ## The pages of a store -/

namespace Connection

variable (fields : PositionFields) (more : Bool) (records : List Record)

@[simp] theorem records_assemble : (assemble fields more records).records = records := by
  rw [Connection.records, assemble, List.map_map]
  exact List.map_id _

@[simp] theorem hasMore_assemble : (assemble fields more records).hasMore = more := rfl

theorem endPosition_assemble : (assemble fields more records).endPosition =
    records.getLast?.map (Position.encode fields) := by
  rw [assemble, List.getLast?_map, Option.map_map]
  rfl

end Connection

/-- Whether a record lies behind the last one, if there was one. -/
def Sorting.isBehind (keys : List SortKey) (last : Option Record) (record : Record) : Bool :=
  match last with
  | none => true
  | some last => isBefore keys last record

theorem Value.fits_of_kind {value : Value} {kind : Value.Kind} (hasKind : value.kind? = some kind)
    (timeless : kind ≠ .timestamp) (depth : Nat) : value.Fits depth ∧ value.untimed = value := by
  cases value <;> cases hasKind
  case timestamp => contradiction
  all_goals
    refine ⟨?_, rfl⟩
    cases depth <;> trivial

namespace Paging

open Sorting

variable {schema : String → Value.Kind} {paging : Paging}

/-- The token of a record stands for the values of the record at the levels of the order. -/
theorem decode_token (usable : paging.Usable schema) {record : Record}
    (conforms : record.Conforms schema paging.order) :
    Position.decode (paging.token record) = .ok (record.restrict (Order.fields paging.order)) := by
  apply Position.decode_encode_named
  intro name listed value found
  obtain ⟨entry, inOrder, rfl⟩ := List.mem_map.mp listed
  have hasKind := conforms entry inOrder
  rw [Record.value, found, Option.getD_some] at hasKind
  exact Value.fits_of_kind hasKind (usable.timeless entry inOrder) _

/-- What the filter says about a record. -/
def Admits (paging : Paging) (hit : Record → Bool) (record : Record) : Prop :=
  match paging.filter with
  | none => hit record = true
  | some filter => filter.eval record = .ok (hit record)

theorem eval_wanted {hit : Record → Bool} {record : Record} (admits : paging.Admits hit record)
    {place : Predicate} {behind : Bool} (placeEval : place.eval record = .ok behind) :
    (paging.wanted place).eval record = .ok (hit record && behind) := by
  rw [wanted]
  rw [Admits] at admits
  cases filtered : paging.filter with
  | none =>
      rw [filtered] at admits
      rw [placeEval, admits, Bool.true_and]
  | some filter =>
      rw [filtered] at admits
      rw [Predicate.eval_andAll]
      exact Predicate.eval_and_pair record filter place admits placeEval

/-- Behind the token of a record, the condition is true of the records behind it. -/
theorem place_token (usable : paging.Usable schema) {last : Option Record} {store : List Record}
    (lastConforms : ∀ record ∈ last, record.Conforms schema paging.order)
    (storeConforms : ∀ record ∈ store, record.Conforms schema paging.order)
    (identified : ∀ cursor ∈ last, ∀ record ∈ store,
      record.value paging.idField = cursor.value paging.idField → record = cursor) :
    ∃ place, paging.place (last.map paging.token) = .ok place ∧
      ∀ record ∈ store, place.eval record =
        .ok (isBehind (Order.keys paging.order) last record) := by
  cases last with
  | none => exact ⟨.unconstrained, rfl, fun _ _ => rfl⟩
  | some cursor =>
      have cursorConforms := lastConforms cursor rfl
      refine ⟨afterCursor paging.order cursor paging.idField false, ?_, ?_⟩
      · rw [Option.map_some, place, decode_token usable cursorConforms,
          ← afterCursor_restrict cursor false usable.ordered]
        rfl
      · intro record member
        exact eval_pageCondition_exclusive usable.named usable.ordered .forward cursorConforms
          (storeConforms record member) (identified cursor rfl record member)

/-- The records that are left behind the last one, in the order of paging. -/
def left (paging : Paging) (hit : Record → Bool) (last : Option Record) (store : List Record) :
    List Record :=
  sort (Order.keys paging.order) (store.filter fun record =>
    hit record && isBehind (Order.keys paging.order) last record)

/-- The page of the records that are left. -/
def pageOf (paging : Paging) (left : List Record) : Connection :=
  .assemble (.named (Order.fields paging.order)) (paging.limit < left.length)
    (left.take paging.limit)

@[simp] theorem records_pageOf (left : List Record) :
    (paging.pageOf left).records = left.take paging.limit :=
  Connection.records_assemble _ _ _

@[simp] theorem hasMore_pageOf (left : List Record) :
    (paging.pageOf left).hasMore = decide (paging.limit < left.length) :=
  Connection.hasMore_assemble _ _ _

theorem size_pageOf (left : List Record) :
    (paging.pageOf left).size = (left.take paging.limit).length :=
  List.length_map _

theorem endPosition_pageOf (left : List Record) :
    (paging.pageOf left).endPosition = (left.take paging.limit).getLast?.map paging.token :=
  Connection.endPosition_assemble _ _ _

theorem mem_left {hit : Record → Bool} {last : Option Record} {store : List Record}
    {record : Record} : record ∈ paging.left hit last store ↔
      record ∈ store ∧ hit record = true ∧
        isBehind (Order.keys paging.order) last record = true := by
  rw [left, (perm_sort _ _).mem_iff, List.mem_filter, Bool.and_eq_true]

theorem pairwise_left (usable : paging.Usable schema) (hit : Record → Bool)
    (last : Option Record) {store : List Record}
    (pageable : Pageable schema paging.order paging.idField store) :
    (paging.left hit last store).Pairwise fun earlier later =>
      isBefore (Order.keys paging.order) earlier later = true :=
  ((pageable.ranked usable.ordered).sublist List.filter_sublist).pairwise_sort

section Page

variable {hit : Record → Bool} {last : Option Record} {store : List Record}
  (usable : paging.Usable schema) (admits : ∀ record ∈ store, paging.Admits hit record)
  (lastConforms : ∀ record ∈ last, record.Conforms schema paging.order)
  (storeConforms : ∀ record ∈ store, record.Conforms schema paging.order)
  (identified : ∀ cursor ∈ last, ∀ record ∈ store,
    record.value paging.idField = cursor.value paging.idField → record = cursor)

include usable admits lastConforms storeConforms identified

/-- The page behind the token of a record holds the first records that are left. -/
theorem page_eq : paging.page (last.map paging.token) store =
    .ok (paging.pageOf (paging.left hit last store)) := by
  obtain ⟨place, decoded, placeEval⟩ :=
    place_token usable lastConforms storeConforms identified
  have selected := Predicate.select_eq_filter (paging.wanted place) fun record member =>
    eval_wanted (admits record member) (placeEval record member)
  have size : (store.filter fun record =>
      hit record && isBehind (Order.keys paging.order) last record).length =
        (paging.left hit last store).length := (perm_sort _ _).length_eq.symm
  have cut : (((paging.left hit last store).take paging.limit).length <
      (paging.left hit last store).length) =
        (paging.limit < (paging.left hit last store).length) := by
    rw [List.length_take, eq_iff_iff]
    omega
  have turned : Connection.ofStore (.named (Order.fields paging.order)) (Order.keys paging.order)
      (some paging.limit) (paging.wanted place) store =
        .ok (Connection.assemble (.named (Order.fields paging.order))
          (((paging.left hit last store).take paging.limit).length <
            (paging.left hit last store).length)
          ((paging.left hit last store).take paging.limit)) := by
    rw [Connection.ofStore, selected, ← size]
    rfl
  rw [page, decoded]
  change (Connection.ofStore _ _ _ (paging.wanted place) store).mapError Error.eval = _
  rw [turned, pageOf]
  simp only [cut]
  rfl

/-- A run goes on behind the last record of its page. -/
theorem run_cons (later : List (List Record)) :
    paging.run (last.map paging.token) (store :: later) =
      let left := paging.left hit last store
      if paging.limit < left.length then
        (paging.run ((left.take paging.limit).getLast?.map paging.token) later).map
          (paging.pageOf left :: ·)
      else .ok [paging.pageOf left] := by
  have turned := page_eq usable admits lastConforms storeConforms identified
  rw [run, turned]
  simp only [bind, Except.bind, hasMore_pageOf, endPosition_pageOf, decide_eq_true_eq]
  split
  next =>
    cases paging.run (((paging.left hit last store).take paging.limit).getLast?.map paging.token)
      later <;> rfl
  next => rfl

end Page

end Paging

end Keyset
