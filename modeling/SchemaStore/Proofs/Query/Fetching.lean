import SchemaStore.Proofs.Backend.Ending
import SchemaStore.Proofs.Query.Pages

/-!
# Reading from tables

What a model reads from tables are the rows of its statement, with the included rows nested.
-/

namespace SchemaStore

theorem Select.rows_eq_ok {query : Select} {tables : List StoredTable} {items : List Row} :
    query.rows tables = .ok items ↔
      query.check tables = .ok () ∧ (query.scopes tables).mapM query.rowOf = .ok items := by
  rw [rows, Except.bind_eq_ok]
  constructor
  · rintro ⟨⟨⟩, checked, read⟩
    exact ⟨checked, read⟩
  · rintro ⟨checked, read⟩
    exact ⟨(), checked, read⟩

namespace Model

variable {State : Type} {backend : Backend State} {state between : State} {model : Model}
  {tables : List StoredTable} {query : Select} {includes : List Include} {items : List Row}
  {events : List (Event Request Request.Reply)}

theorem exists_rows_of_fetch (reads : model.Reads backend state tables)
    (ends : (model.fetch query includes).Ends backend state (.ok items) events between) :
    between = state ∧
      ∃ rows, query.rows tables = .ok rows ∧ rows.map (nestAll includes) = items := by
  have keeps (other : State) (same : other = state) :
      (backend (.execute model.pool (.select query)) other).2 = state := by
    rw [same, reads]
  obtain ⟨same, _, reply, next, rfl, answered, -, outcome⟩ := answersTo_of_fetch keeps rfl ends
  refine ⟨same, ?_⟩
  rw [reads] at answered
  cases rows : query.rows tables with
  | ok found =>
      rw [rows] at answered
      cases answered
      cases outcome
      exact ⟨found, rfl, rfl⟩
  | error failure =>
      rw [rows] at answered
      cases answered
      rcases outcome with ⟨⟨⟩⟩ | ⟨⟨⟩⟩ | ⟨⟨⟩⟩

theorem fetch_nested_gives_iff (reads : model.Reads backend state tables) :
    (model.fetch query includes).Gives backend state items ↔
      ∃ rows, query.rows tables = .ok rows ∧ rows.map (nestAll includes) = items := by
  constructor
  · rintro ⟨events, ends⟩
    exact (exists_rows_of_fetch reads ends).2
  · rintro ⟨rows, read, rfl⟩
    have answered : backend (.execute model.pool (.select query)) state =
        (.ok { rows }, state) := by
      rw [reads, read]
      rfl
    exact ⟨_, fetch_nested_ends answered includes⟩

/-- What a model reads from tables are the rows of the query. -/
theorem ok_of_fetch (reads : model.Reads backend state tables)
    (ends : (model.fetch query []).Ends backend state (.ok items) events between) :
    between = state ∧ query.rows tables = .ok items := by
  obtain ⟨same, rows, read, made⟩ := exists_rows_of_fetch reads ends
  rw [← made, show rows.map (nestAll []) = rows from List.map_id' rows]
  exact ⟨same, read⟩

theorem fetch_gives_iff (reads : model.Reads backend state tables) :
    (model.fetch query []).Gives backend state items ↔ query.rows tables = .ok items := by
  rw [fetch_nested_gives_iff reads]
  constructor
  · rintro ⟨rows, read, rfl⟩
    rwa [show rows.map (nestAll []) = rows from List.map_id' rows]
  · exact fun read => ⟨items, read, List.map_id' items⟩

/-- A search gives the rows of its statement, each of them with its included rows nested. -/
theorem findMany_gives_iff {search : Search} (reads : model.Reads backend state tables)
    (stated : model.statementOf search = .ok (query, includes)) :
    (model.findMany search).Gives backend state items ↔
      query.check tables = .ok () ∧
        (query.scopes tables).mapM (fun scope => nestAll includes <$> query.rowOf scope) =
          .ok items := by
  rw [findMany, stated, ← Except.map_mapM, Except.map_eq_ok]
  refine (fetch_nested_gives_iff reads).trans ⟨?_, ?_⟩
  · rintro ⟨rows, rowsRead, made⟩
    obtain ⟨checked, read⟩ := Select.rows_eq_ok.mp rowsRead
    exact ⟨checked, rows, read, made⟩
  · rintro ⟨checked, rows, read, made⟩
    exact ⟨rows, Select.rows_eq_ok.mpr ⟨checked, read⟩, made⟩

end Model
end SchemaStore
