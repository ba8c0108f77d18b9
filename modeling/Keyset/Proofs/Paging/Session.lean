import Keyset.Proofs.Paging.Loop
import Keyset.Session

/-! # Sessions as clients

A session keeps the position that a client would send back. If it gives out tokens of the levels of
its order and goes on behind its position, its pages are those of a client with the same order and
filter (`Keyset.Session.turn_eq`), also over many pages with changes of the store between them
(`Keyset.Session.turns_eq_run`). So what holds of the runs of clients holds of such sessions.
-/

namespace Keyset

/-- The lenient condition of a place, whether the place has a defect or not. -/
theorem CursorCondition.build_eq_pageCondition (order : Order) (cursor : Cursor) (idField : String)
    (inclusive : Bool) (direction : PageDirection) :
    (CursorCondition.mk order cursor idField inclusive .unconstrained).build direction =
      .ok (pageCondition direction order cursor idField inclusive) := by
  rw [pageCondition, build]
  cases defect? _ <;> rfl

/-- A page with room for a record that leaves records out has an end. -/
theorem Paging.exists_endPosition {paging : Paging} {token : Option String} {store : List Record}
    {connection : Connection} (positive : 0 < paging.limit)
    (drawn : paging.page token store = .ok connection) (more : connection.hasMore = true) :
    ∃ last, connection.endPosition = some last := by
  obtain ⟨place, -, made⟩ := of_bind drawn
  obtain ⟨hits, -, assembled⟩ := of_bind (of_mapError made)
  obtain rfl := Except.ok.inj assembled
  rw [Connection.hasMore_assemble, decide_eq_true_eq] at more
  rw [Connection.endPosition_assemble]
  cases ended : (upTo (some paging.limit)
      (Sorting.sort (Order.keys paging.order) hits)).getLast? with
  | some last => exact ⟨_, rfl⟩
  | none =>
      have size := (Sorting.perm_sort (Order.keys paging.order) hits).length_eq
      rcases List.take_eq_nil_iff.mp (List.getLast?_eq_none_iff.mp ended) with zero | nothing
      · exact absurd zero (Nat.ne_of_gt positive)
      · rw [nothing] at size
        rw [← size] at more
        exact absurd more (Nat.not_lt_zero _)

namespace Session

/-- How a session pages: by tokens of the levels of its order, behind its position, with the
lenient fallback and a filter that has a predicate. -/
structure PagesBy (session : Session) (filter : Predicate) : Prop where
  keyset : session.fields = .named (Order.fields session.order)
  exclusive : session.inclusive = false
  lenient : session.fallback = .unconstrained
  compiled : session.predicate = .ok filter

/-- A new session pages so once it has an order and gives out tokens of the levels. -/
example (order : Order) :
    PagesBy { empty with order := order, fields := .named (Order.fields order) } .unconstrained :=
  ⟨rfl, rfl, rfl, rfl⟩

/-- The client with the order and the filter of a session. -/
def client (session : Session) (limit : Nat) (filter : Predicate) : Paging :=
  ⟨session.order, session.idField, limit, some filter⟩

/-- Turn to the next page of a limit. -/
def turn (session : Session) (limit : Nat) : Except Error (Session × Connection) :=
  (session.page .forward (some limit)).map fun turned => (turned.1, turned.2.connection)

/-- The pages that a session turns, its store being another one at each of them, up to the first
page that no more records follow. -/
def turns (limit : Nat) : Session → List (List Record) → Except Error (List Connection)
  | _, [] => .ok []
  | session, store :: later => do
    let turned ← turn { session with store := store } limit
    if turned.2.hasMore then
      let further ← turns limit turned.1 later
      .ok (turned.2 :: further)
    else .ok [turned.2]

variable {session : Session} {filter : Predicate} {limit : Nat}

theorem condition_eq_place (limit : Nat) (pages : session.PagesBy filter) :
    session.condition .forward = (session.client limit filter).place session.position := by
  unfold condition
  cases session.position with
  | none => rfl
  | some token =>
      refine bind_congr fun cursor => ?_
      have built := CursorCondition.build_eq_pageCondition session.order cursor session.idField
        false .forward
      rw [pages.exclusive, pages.lenient]
      exact congrArg (Except.mapError Error.cursor) built

/-- **A page of a session is a page of the client**, and its end becomes the position. -/
theorem turn_eq (limit : Nat) (pages : session.PagesBy filter) :
    session.turn limit =
      ((session.client limit filter).page session.position session.store).map fun connection =>
        ({ session with position := connection.endPosition <|> session.position }, connection) := by
  have turned (past : Predicate) :
      Connection.ofStore session.fields (PageDirection.forward.keys session.order) (some limit)
        (.andAll [filter, past]) session.store =
      Connection.ofStore (.named (Order.fields (session.client limit filter).order))
        (Order.keys (session.client limit filter).order) (some (session.client limit filter).limit)
        ((session.client limit filter).wanted past) session.store := by
    rw [pages.keyset]
    rfl
  rw [turn, page, Paging.page, condition_eq_place limit pages, pages.compiled]
  cases (session.client limit filter).place session.position with
  | error problem => rfl
  | ok past =>
      simp only [bind, Except.bind, turned past]
      cases Connection.ofStore _ _ _ ((session.client limit filter).wanted past) session.store <;>
        rfl

/-- **A session turns the pages of the client.** -/
theorem turns_eq_run (positive : 0 < limit) (pages : session.PagesBy filter)
    (stores : List (List Record)) :
    session.turns limit stores = (session.client limit filter).run session.position stores := by
  induction stores generalizing session with
  | nil => rfl
  | cons store later ih =>
      have here : PagesBy { session with store := store } filter :=
        ⟨pages.keyset, pages.exclusive, pages.lenient, pages.compiled⟩
      rw [turns, turn_eq limit here]
      change (((session.client limit filter).page session.position store).map _ >>= _) =
        ((session.client limit filter).page session.position store >>= _)
      cases drawn : (session.client limit filter).page session.position store with
      | error problem => rfl
      | ok connection =>
          -- The session goes on from its own position, the client from the end of the page.
          have goesOn (more : connection.hasMore = true) :
              turns limit { session with
                  store := store
                  position := connection.endPosition <|> session.position } later =
                (session.client limit filter).run connection.endPosition later := by
            obtain ⟨token, ended⟩ := Paging.exists_endPosition positive drawn more
            rw [ended]
            exact ih ⟨pages.keyset, pages.exclusive, pages.lenient, pages.compiled⟩
          change (if connection.hasMore = true then _ else _) =
            (if connection.hasMore = true then _ else _)
          split
          next more =>
            exact congrArg (· >>= fun further => Except.ok (connection :: further)) (goesOn more)
          next => rfl

end Session

end Keyset
