import SchemaStore.Proofs.Query.Criteria
import SchemaStore.Proofs.Query.Fetching

/-!
# Steps of a query

A query is built in steps.  Of its limits the last one stands, and the other steps do what they
do without any limit.  The first row of a query is the first one of the query without its
limit.  It is the head of all rows unless these are limited to none.
-/

namespace SchemaStore

namespace Query

/-- A step in which a query is built. -/
inductive Step where
  | matching (filter : Value)
  | excluding (filter : Value)
  | limit (amount : Value)
  | offset (amount : Value)
  | orderBy (field : Value) (direction : String)
  | distinct

namespace Step

def isLimit : Step → Bool
  | .limit _ => true
  | _ => false

/-- The number of rows that a step limits a query to. -/
def limit? : Step → Option Nat
  | .limit value => (amount "limit" value).toOption
  | _ => none

end Step

/-- Take a step. -/
def step (query : Query) : Step → Except Failure Query
  | .matching filter => query.matching filter
  | .excluding filter => query.excluding filter
  | .limit value => query.limit value
  | .offset value => query.offset value
  | .orderBy field direction => query.orderBy field direction
  | .distinct => .ok query.distinct

/-- The query that steps lead to from all rows of a model. -/
def chain (model : Model) (steps : List Step) : Except Failure Query :=
  steps.foldlM step (.ofModel model)

/-- The limit that stands after steps. -/
def lastLimit (steps : List Step) : Option Nat :=
  (steps.filterMap Step.limit?).getLast?

/-- A query without its limit. -/
def unlimited (query : Query) : Query :=
  { query with select.limit := none }

section Building

variable {model : Model} {query next : Query} {taken : Step} {steps : List Step}

theorem Built.step (built : query.Built model) (stepped : query.step taken = .ok next) :
    next.Built model := by
  cases taken with
  | matching filter => exact built.matching stepped
  | excluding filter => exact built.excluding stepped
  | limit value => exact built.limit stepped
  | offset value => exact built.offset stepped
  | orderBy field direction => exact built.orderBy stepped
  | distinct =>
      cases stepped
      exact built.distinct

theorem built_of_chain (ran : chain model steps = .ok query) : query.Built model :=
  Except.foldlM_invariant (fun _ _ _ built stepped => built.step stepped) .all ran

/-- A limit takes the place of the one before.  Any other step leaves the limit as it is, and
does the same without it. -/
theorem step_cases (stepped : query.step taken = .ok next) :
    (taken.isLimit = true ∧ next.unlimited = query.unlimited ∧
        ∃ n, taken.limit? = some n ∧ next.select.limit = some n) ∨
      (taken.isLimit = false ∧ query.unlimited.step taken = .ok next.unlimited ∧
        taken.limit? = none ∧ next.select.limit = query.select.limit) := by
  cases taken with
  | matching filter =>
      obtain ⟨conditions, accepted, rfl⟩ := Except.map_eq_ok.mp stepped
      exact .inr ⟨rfl, Except.map_eq_ok.mpr ⟨conditions, accepted, rfl⟩, rfl, rfl⟩
  | excluding filter =>
      simp only [step, excluding] at stepped ⊢
      split at stepped
      · next given =>
        obtain ⟨conditions, accepted, rfl⟩ := Except.map_eq_ok.mp stepped
        rw [if_pos given]
        exact .inr ⟨rfl, Except.map_eq_ok.mpr ⟨conditions, accepted, rfl⟩, rfl, rfl⟩
      · next empty =>
        cases stepped
        rw [if_neg empty]
        exact .inr ⟨rfl, rfl, rfl, rfl⟩
  | limit value =>
      obtain ⟨n, read, rfl⟩ := Except.map_eq_ok.mp stepped
      refine .inl ⟨rfl, rfl, n, ?_, rfl⟩
      rw [Step.limit?, read]
      rfl
  | offset value =>
      obtain ⟨n, read, rfl⟩ := Except.map_eq_ok.mp stepped
      exact .inr ⟨rfl, Except.map_eq_ok.mpr ⟨n, read, rfl⟩, rfl, rfl⟩
  | orderBy field direction =>
      simp only [step, orderBy] at stepped ⊢
      split at stepped
      · cases stepped
      · obtain ⟨column, known, rfl⟩ := Except.map_eq_ok.mp stepped
        exact .inr ⟨rfl, Except.map_eq_ok.mpr ⟨column, known, rfl⟩, rfl, rfl⟩
  | distinct =>
      cases stepped
      exact .inr ⟨rfl, rfl, rfl, rfl⟩

/-- After steps the last limit stands, and without their limits they lead to the same query
without a limit. -/
theorem steps_unlimited (ran : steps.foldlM step query = .ok next) :
    (steps.filter (!·.isLimit)).foldlM step query.unlimited = .ok next.unlimited ∧
      next.select.limit = (lastLimit steps).or query.select.limit := by
  induction steps generalizing query with
  | nil =>
      cases ran
      exact ⟨rfl, rfl⟩
  | cons taken rest induction =>
      rw [List.foldlM_cons] at ran
      obtain ⟨between, stepped, others⟩ := Except.bind_eq_ok.mp ran
      obtain ⟨without, limited⟩ := induction others
      rcases step_cases stepped with ⟨isLimit, same, n, given, here⟩ | ⟨other, goes, none, here⟩
      · rw [List.filter_cons_of_neg (by simp [isLimit]), ← same]
        refine ⟨without, ?_⟩
        rw [limited, here, lastLimit, lastLimit, List.filterMap_cons_some given,
          List.getLast?_cons]
        cases (rest.filterMap Step.limit?).getLast? <;> rfl
      · rw [List.filter_cons_of_pos (by simp [other]), List.foldlM_cons, goes]
        refine ⟨without, ?_⟩
        rw [limited, here, lastLimit, lastLimit, List.filterMap_cons_none none]

theorem chain_unlimited (ran : chain model steps = .ok query) :
    chain model (steps.filter (!·.isLimit)) = .ok query.unlimited ∧
      query.select.limit = lastLimit steps := by
  obtain ⟨without, limited⟩ := steps_unlimited ran
  exact ⟨without, limited.trans Option.or_none⟩

end Building

end Query

namespace Select

variable {query : Select} {tables : List StoredTable} {items : List Row}

theorem dropRepeated_limited (query : Select) (limit : Option Nat) (seen : List (List Cell))
    (scopes : List Scope) :
    ({ query with limit } : Select).dropRepeated seen scopes = query.dropRepeated seen scopes := by
  induction scopes generalizing seen with
  | nil => rfl
  | cons scope rest induction =>
      have same : ({ query with limit } : Select).outputCells scope = query.outputCells scope := rfl
      simp only [dropRepeated, same, induction]

/-- A limit takes the first of the rows that are given without it. -/
theorem scopes_limited (query : Select) (limit : Option Nat) (tables : List StoredTable) :
    ({ query with limit } : Select).scopes tables =
      slice limit none (({ query with limit := none } : Select).scopes tables) := by
  simp only [scopes, dropRepeated_limited]
  rfl

/-- With a limit that can be bound, a statement is carried out as with another one. -/
theorem check_limited {limit : Option Nat} (checked : query.check tables = .ok ())
    (bound : ∀ parameter ∈ amountParameter limit, Except.Succeeds parameter.cell) :
    ({ query with limit } : Select).check tables = .ok () := by
  obtain ⟨names, parameters⟩ := check_eq_ok.mp checked
  refine check_eq_ok.mpr ⟨names, fun parameter member => ?_⟩
  have known := parameters parameter
  simp only [Select.parameters, List.mem_append] at member known
  rcases member with (criterion | limited) | start
  · exact known (.inl (.inl criterion))
  · exact bound parameter limited
  · exact known (.inr start)

/-- What a statement that can be carried out gives with a limit. -/
theorem rows_limited {limit : Option Nat} (checked : query.check tables = .ok ())
    (bound : ∀ parameter ∈ amountParameter limit, Except.Succeeds parameter.cell) :
    ({ query with limit } : Select).rows tables = .ok items ↔
      (slice limit none (({ query with limit := none } : Select).scopes tables)).mapM query.rowOf =
        .ok items := by
  rw [rows_eq_ok, scopes_limited]
  exact and_iff_right (check_limited checked bound)

/-- The first row that is given with a limit is the first one that is given at all, unless the
limit is zero. -/
theorem rows_first (read : query.rows tables = .ok items) :
    (∃ first, ({ query with limit := some 1 } : Select).rows tables = .ok first ∧
        first.head? = items.head?) ↔
      (query.limit = some 0 → ({ query with limit := none } : Select).rows tables = .ok []) := by
  obtain ⟨checked, given⟩ := rows_eq_ok.mp read
  have whole : ({ query with limit := none } : Select).rows tables = .ok [] ↔ _ :=
    rows_limited checked (by decide)
  have one (first : List Row) : ({ query with limit := some 1 } : Select).rows tables = .ok first ↔
      _ := rows_limited checked (by decide)
  rw [scopes_limited query query.limit tables] at given
  simp only [whole, one]
  generalize ({ query with limit := none } : Select).scopes tables = scopes at given
  cases scopes with
  | nil =>
      have nothing : slice query.limit none ([] : List Scope) = [] := by
        cases query.limit <;> simp [slice]
      rw [nothing] at given
      cases given
      exact iff_of_true ⟨[], rfl, rfl⟩ fun _ => rfl
  | cons scope rest =>
      have some : ¬(scope :: rest).mapM query.rowOf = .ok [] := by
        intro ran
        cases Except.length_of_mapM ran
      by_cases limited : query.limit = .some 0
      · rw [limited] at given
        cases given
        refine iff_of_false ?_ fun holds => some (holds limited)
        rintro ⟨first, ran, same⟩
        have long := Except.length_of_mapM ran
        rw [List.head?_eq_none_iff.mp same] at long
        cases long
      · refine iff_of_true ?_ fun zero => absurd zero limited
        obtain ⟨more, sliced⟩ : ∃ more, slice query.limit none (scope :: rest) = scope :: more := by
          cases known : query.limit with
          | none => exact ⟨rest, rfl⟩
          | some n =>
              cases n with
              | zero => exact absurd known limited
              | succ n => exact ⟨rest.take n, rfl⟩
        rw [sliced, List.mapM_cons] at given
        obtain ⟨item, itemRead, others⟩ := Except.bind_eq_ok.mp given
        obtain ⟨items, -, made⟩ := Except.bind_eq_ok.mp others
        cases made
        exact ⟨[item], Except.bind_eq_ok.mpr ⟨item, itemRead, rfl⟩, rfl⟩

end Select

section Running

variable {State : Type} {backend : Backend State} {state : State} {model : Model}
  {tables : List StoredTable}

namespace Query

variable {query : Query} {steps : List Step}

theorem first_gives_iff {row? : Option Row} (reads : query.model.Reads backend state tables) :
    query.first.Gives backend state row? ↔
      ∃ items, ({ query.select with limit := some 1 } : Select).rows tables = .ok items ∧
        items.head? = row? := by
  constructor
  · rintro ⟨events, ends⟩
    obtain ⟨inner, fetched, same⟩ := Program.Ends.exists_of_map ends
    obtain ⟨items, rfl, rfl⟩ := Except.map_eq_ok.mp same.symm
    exact ⟨items, (Model.ok_of_fetch reads fetched).2, rfl⟩
  · rintro ⟨items, read, rfl⟩
    exact ((Model.fetch_gives_iff reads).mpr read).bind ⟨[], rfl⟩

/-- What is given first is the head of all that is given, unless the last limit is zero and
something is given without the limits.  In any case it is the head of what is given without the
limits. -/
theorem first_gives_head_iff {items : List Row} (built : chain model steps = .ok query)
    (reads : model.Reads backend state tables) (given : query.all.Gives backend state items) :
    ∃ unlimited, chain model (steps.filter (!·.isLimit)) = .ok unlimited ∧
      (query.first.Gives backend state items.head? ↔
        (lastLimit steps = some 0 → unlimited.all.Gives backend state [])) ∧
      ∀ others, unlimited.all.Gives backend state others →
        query.first.Gives backend state others.head? := by
  obtain ⟨without, limited⟩ := chain_unlimited built
  rw [← (Model.closed_of_built (built_of_chain built)).1] at reads
  refine ⟨query.unlimited, without, ?_, fun others givenOthers => ?_⟩
  · have read := (Model.fetch_gives_iff reads).mp given
    rw [first_gives_iff reads, Select.rows_first read, limited]
    exact imp_congr_right fun _ => (Model.fetch_gives_iff reads).symm
  · have read := (Model.fetch_gives_iff reads).mp givenOthers
    exact (first_gives_iff reads).mpr ((Select.rows_first read).mpr (by rintro ⟨⟩))

/-- After a limit to no rows, the first of two users is given although there is none among all
rows. -/
theorem first_gives_head_iff_users :
    let entity : Entity :=
      ⟨"User", [("id", { type := .int, isId := true }), ("name", { type := .string })]⟩
    let model : Model := {
      schema := ⟨⟨.sqlite, "file:./dev.db", none⟩, [entity]⟩
      entity
      dialect := .sqlite
      settings := {}
      pool := 0 }
    let user (id : Int) (name : String) : CellRow := [("id", .int id), ("name", .text name)]
    let stored : StoredTable := { table := model.table, rows := [user 1 "Bob", user 2 "Ann"] }
    let tables := [stored]
    let clock : Moment := ⟨2020, 1, 1, 0, 0, 0, 0, none⟩
    let host : Host := { pools := [.memory { tables, clock }], clock }
    let steps : List Step := [.limit (.int 0), .orderBy (.text "name") "asc"]
    ∃ query, chain model steps = .ok query ∧ query.all.Gives Host.backend host [] ∧
      ¬query.first.Gives Host.backend host none ∧
      query.first.Gives Host.backend host (some [("id", .int 2), ("name", .text "Ann")]) := by
  intro entity model user stored tables clock host steps
  have table : model.table = {
      name := "users"
      columns := [{ name := "id", type := .integer, isKey := true },
        { name := "name", type := .varchar }] } := by
    decide +kernel
  have reads : model.Reads Host.backend host tables := fun _ => rfl
  let name : ColumnRef := ⟨"users", "name", .varchar⟩
  have known : model.column "name" = .ok name := by
    unfold Model.column
    rw [table]
    rfl
  let ordered : Select := { Select.all model.table with orderings := [⟨name, true⟩] }
  let query : Query := ⟨model, { ordered with limit := some 0 }⟩
  have orders (limit : Option Nat) :
      orderBy ⟨model, { Select.all model.table with limit }⟩ (.text "name") "asc" =
        .ok ⟨model, { ordered with limit }⟩ := by
    have named : model.columnOf (.text "name") = .ok name := known
    have direction : Direction.all.find? (·.label == Text.lower "asc") = some .ascending := by
      decide
    simp only [orderBy, direction, named]
    rfl
  have built : chain model steps = .ok query := orders (some 0)
  have checked : ordered.check tables = .ok () := by
    dsimp only [ordered, tables, stored]
    rw [table]
    rfl
  have scopes : ordered.scopes tables = [user 2 "Ann", user 1 "Bob"].map (rowScope model.table) := by
    have found : Database.find? tables ordered.table.name = some stored := by
      simp [Database.find?, tables, ordered, stored, Select.all]
    have same := ((Select.visited_perm found).filter fun row =>
      Clause.holdAll (rowScope model.table row).cell []).symm
    rw [Select.scopes_of_ordered tables name rfl rfl rfl (Model.column_eq_ref known).1]
    exact congrArg _ (sortedBy_eq _ (List.Perm.trans (.swap ..) same) (by decide))
  have rows : ordered.rows tables =
      .ok [[("id", .int 2), ("name", .text "Ann")], [("id", .int 1), ("name", .text "Bob")]] := by
    rw [Select.rows_eq_ok, scopes]
    refine ⟨checked, ?_⟩
    dsimp only [ordered]
    rw [table]
    rfl
  have given : query.all.Gives Host.backend host [] := by
    refine (Model.fetch_gives_iff reads).mpr ?_
    exact (Select.rows_limited checked (by decide)).mpr rfl
  obtain ⟨unlimited, without, head, first⟩ := first_gives_head_iff built reads given
  have plain : chain model [.orderBy (.text "name") "asc"] = .ok ⟨model, ordered⟩ := orders none
  cases without.symm.trans plain
  have all := (Model.fetch_gives_iff reads).mpr rows
  refine ⟨query, built, given, fun none => ?_, first _ all⟩
  cases (head.mp none rfl).unique all

end Query

end Running
end SchemaStore
