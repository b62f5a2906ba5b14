import SchemaStore.Proofs.Query.Issue

/-!
# Operations on rows

Every operation on the rows of a model is composed of queries and of at most one write, so it puts
them to the backend in their course: no write is repeated or follows a failed query, and an
operation fails with the failure of the last statement.
-/

namespace SchemaStore

/-- An operation on the rows of a model. -/
inductive Operation where
  | findOne (filter fields includes : Value)
  | findById (id fields includes : Value)
  | findMany (search : Search)
  | paginate (filter orderBy take cursor : Value)
  | count (filter : Value)
  /-- All rows of a query that was put together step by step. -/
  | all (select : Select)
  | first (select : Select)
  | countOf (select : Select)
  | create (data : Value)
  | updateOne (filter data : Value)
  | updateMany (filter data : Value)
  | delete (filter : Value)
  | upsert (filter data : Value)
  /-- A write of which anything is made that its result allows. -/
  | write (change : Write) (extract : Result → Except Failure Value) (words : String)

namespace Operation

def Result : Operation → Type
  | .findOne .. | .findById .. | .first _ | .create _ => Option Row
  | .findMany _ | .all _ => List Row
  | .paginate .. => Page
  | .count _ | .countOf _ | .write .. => Value
  | .updateOne .. => Updated (Option Row)
  | .updateMany .. => Updated (List Row)
  | .delete _ => Deleted
  | .upsert .. => Upserted

def program (model : Model) : (operation : Operation) → Program operation.Result
  | .findOne filter fields includes => model.findOne filter fields includes
  | .findById id fields includes => model.findById id fields includes
  | .findMany search => model.findMany search
  | .paginate filter orderBy take cursor => model.paginate filter orderBy take cursor
  | .count filter => model.count filter
  | .all select => Query.all ⟨model, select⟩
  | .first select => Query.first ⟨model, select⟩
  | .countOf select => Query.count ⟨model, select⟩
  | .create data => model.create data
  | .updateOne filter data => model.updateOne filter data
  | .updateMany filter data => model.updateMany filter data
  | .delete filter => model.delete filter
  | .upsert filter data => model.upsert filter data
  | .write change extract words => model.write change extract words

end Operation

namespace Model

variable (model : Model) (filter data fields includes : Value)

section Reading

theorem issues_findMany (search : Search) : (model.findMany search).Issues model 0 := by
  refine (Program.Issues.ofResult _).read_bind fun stated => ?_
  exact issues_fetch model stated.1 stated.2

theorem issues_findFirst (search : Search) : (model.findFirst search).Issues model 0 :=
  (issues_findMany model _).read_bind fun _ => .ofResult (.ok _)

theorem issues_requireFilter (operation : String) :
    (model.requireFilter operation filter).Issues model 0 :=
  .ite (.ofResult (.ok ())) (.ofResult _)

theorem issues_findOne : (model.findOne filter fields includes).Issues model 0 :=
  (issues_requireFilter model filter _).read_bind fun _ => issues_findFirst model _

theorem issues_findById (id : Value) : (model.findById id fields includes).Issues model 0 :=
  .ite (.ofResult _) (issues_findOne model _ fields includes)

theorem issues_findAllById : (model.findAllById filter).Issues model 0 :=
  issues_findMany model _

theorem issues_count : (model.count filter).Issues model 0 :=
  (Program.Issues.ofResult _).read_bind fun _ => issues_fetchScalar model rfl

theorem issues_paginate (orderBy take cursor : Value) :
    (model.paginate filter orderBy take cursor).Issues model 0 := by
  unfold paginate
  split
  · exact .ofResult _
  · refine (Program.Issues.ofResult _).read_bind fun query => ?_
    refine (issues_fetch model query []).read_bind fun rows => ?_
    dsimp only
    split
    · exact (Program.Issues.ofResult _).read_bind fun _ => .ofResult (.ok _)
    · exact .ofResult (.ok _)

theorem issues_matchingIds : (model.matchingIds filter).Issues model 0 := by
  refine (Program.Issues.ofResult _).read_bind fun column => ?_
  refine (Program.Issues.ofResult _).read_bind fun conditions => ?_
  exact (issues_fetch model _ []).read_bind fun rows => .ofResult _

end Reading

section Writing

theorem issues_create : (model.create data).Issues model 1 := by
  refine (Program.Issues.ofResult _).read_bind fun values => ?_
  exact (issues_write model _ _ _).bind_read fun key => issues_findById model _ _ _

theorem issues_updateOne : (model.updateOne filter data).Issues model 1 := by
  refine (Program.Issues.ofResult _).read_bind fun values => ?_
  refine (issues_findOne model filter _ _).read_bind fun found => ?_
  cases found with
  | none => exact .mono (.ofResult (.ok _)) (Nat.zero_le 1)
  | some row =>
      refine (Program.Issues.ofResult _).read_bind fun id => ?_
      refine (Program.Issues.ofResult _).read_bind fun column => ?_
      refine (issues_write model _ _ _).bind_read fun count => ?_
      exact (issues_findById model _ _ _).read_bind fun _ => .ofResult (.ok _)

theorem issues_updateMany : (model.updateMany filter data).Issues model 1 := by
  refine (Program.Issues.ofResult _).read_bind fun values => ?_
  refine .ite (.mono (.ofResult _) (Nat.zero_le 1)) ?_
  refine (issues_matchingIds model filter).read_bind fun ids => ?_
  refine .ite (.mono (.ofResult (.ok _)) (Nat.zero_le 1)) ?_
  refine (Program.Issues.ofResult _).read_bind fun column => ?_
  refine (issues_write model _ _ _).bind_read fun count => ?_
  exact (issues_findAllById model _).read_bind fun _ => .ofResult (.ok _)

theorem issues_delete : (model.delete filter).Issues model 1 := by
  refine (issues_requireFilter model filter _).read_bind fun _ => ?_
  refine (issues_findAllById model filter).read_bind fun rows => ?_
  refine .ite (.mono (.ofResult (.ok _)) (Nat.zero_le 1)) ?_
  refine (Program.Issues.ofResult _).read_bind fun ids => ?_
  refine (Program.Issues.ofResult _).read_bind fun column => ?_
  exact (issues_write model _ _ _).bind_read fun count => .ofResult (.ok _)

theorem issues_upsert : (model.upsert filter data).Issues model 1 := by
  refine (issues_findOne model filter _ _).read_bind fun found => ?_
  cases found with
  | none => exact (issues_create model data).bind_read fun row => .ofResult (.ok _)
  | some row =>
      refine (Program.Issues.ofResult _).read_bind fun id => ?_
      exact (issues_updateOne model _ data).bind_read fun updated => .ofResult (.ok _)

end Writing

theorem issues_of_operation (operation : Operation) :
    (operation.program model).Issues model 1 := by
  cases operation with
  | findOne filter fields includes => exact (issues_findOne model _ _ _).mono (Nat.zero_le 1)
  | findById id fields includes => exact (issues_findById model _ _ _).mono (Nat.zero_le 1)
  | findMany search => exact (issues_findMany model search).mono (Nat.zero_le 1)
  | paginate filter orderBy take cursor =>
      exact (issues_paginate model _ _ _ _).mono (Nat.zero_le 1)
  | count filter => exact (issues_count model filter).mono (Nat.zero_le 1)
  | all select => exact (issues_fetch model select []).mono (Nat.zero_le 1)
  | first select =>
      have reads : (Query.first ⟨model, select⟩).Issues model 0 :=
        (issues_fetch model _ []).read_bind fun _ => .ofResult (.ok _)
      exact reads.mono (Nat.zero_le 1)
  | countOf select => exact (issues_fetchScalar model rfl).mono (Nat.zero_le 1)
  | create data => exact issues_create model data
  | updateOne filter data => exact issues_updateOne model filter data
  | updateMany filter data => exact issues_updateMany model filter data
  | delete filter => exact issues_delete model filter
  | upsert filter data => exact issues_upsert model filter data
  | write change extract words => exact issues_write model change extract words

/-- However an operation is answered, its requests are those of statements in their course, of which
at most one is a write.  A query is attempted as often as the settings allow, and again just after a
broken connection.  A write is executed once, committed if that succeeded, and rolled back if it
failed in the access layer.  Nothing follows a failed statement, and the operation fails with it. -/
theorem operation_in_course {State : Type} (model : Model) (operation : Operation)
    (backend : Backend State) (start : State) :
    let held := (operation.program model).session.run backend start
    ∃ issues, Course model 1 held.result held.events issues :=
  issues_of_operation model operation State backend start _ _ _ rfl

end Model
end SchemaStore
