import SchemaStore.Proofs.Clause.Evaluation
import SchemaStore.Proofs.Clause.Reader

/-!
# Precedence

A run of tokens can stand in three places of a condition.  A `Tight` run is what a
NOT takes: a comparison or a group.  A `Conjunct` can stand beside AND, a
`Disjunct` beside OR.  Each rule says what a composed run means if its parts mean
something, whatever stands around it: the levels outside are not touched, and
nothing of the rest is read.
-/

namespace SchemaStore.Sql

/-- A truth value for every row. -/
abbrev Meaning : Type :=
  (ColumnRef → Cell) → Truth

namespace Level

variable {level next : Level} {meaning : Meaning}

/-- The truth value of what stands before the last OR. -/
def disjunction (level : Level) : Meaning := fun cellOf =>
  level.disjuncts.elim .no (·.eval cellOf)

/-- The truth value of what stands since the last OR. -/
def conjunction (level : Level) : Meaning := fun cellOf =>
  level.conjuncts.elim .yes (·.eval cellOf)

/-- A level that waits for a condition that no NOT stands before. -/
structure Ready (level : Level) : Prop where
  due : level.due = true
  negations : level.negations = 0

/-- A level that waits for no condition. -/
structure Complete (level : Level) : Prop where
  due : level.due = false
  negations : level.negations = 0
  conjuncts : level.conjuncts.isSome

structure Conjoins (level next : Level) (meaning : Meaning) : Prop where
  complete : next.Complete
  disjuncts : next.disjuncts = level.disjuncts
  conjunction : ∀ cellOf, next.conjunction cellOf = (level.conjunction cellOf).and (meaning cellOf)

/-- The next level has one more disjunct. -/
structure Disjoins (level next : Level) (meaning : Meaning) : Prop where
  complete : next.Complete
  value : ∀ cellOf, (next.disjunction cellOf).or (next.conjunction cellOf) =
    (level.disjunction cellOf).or (meaning cellOf)

theorem Complete.whole (complete : level.Complete) :
    ∃ condition, level.whole = some condition ∧ ∀ cellOf, condition.eval cellOf =
      (level.disjunction cellOf).or (level.conjunction cellOf) := by
  obtain ⟨conjunct, kept⟩ := Option.isSome_iff_exists.mp complete.conjuncts
  refine ⟨level.disjuncts.elim conjunct (.either · conjunct), ?_, ?_⟩
  · simp [Level.whole, complete.due, kept]
  · intro cellOf
    cases before : level.disjuncts with
    | none => simp [disjunction, conjunction, before, kept]
    | some disjunct => simp [disjunction, conjunction, before, kept, Condition.eval]

theorem Ready.accept (ready : level.Ready) (condition : Condition) :
    ∃ next, level.accept condition = some next ∧
      level.Conjoins next (fun cellOf => condition.eval cellOf) := by
  rw [Level.accept, if_pos ready.due]
  refine ⟨_, rfl, ⟨rfl, rfl, rfl⟩, rfl, ?_⟩
  intro cellOf
  rw [ready.negations]
  cases before : level.conjuncts with
  | none => simp [conjunction, before]
  | some conjunct => simp [conjunction, before, Condition.eval]

/-- A NOT before a condition is taken by it. -/
theorem accept_negation (level : Level) (condition : Condition) :
    level.accept (.negation condition) =
      { level with negations := level.negations + 1 : Level }.accept condition := rfl

/-- Where nothing stands since the last OR, a conjunct is a disjunct. -/
theorem Conjoins.disjoins (conjoins : level.Conjoins next meaning)
    (fresh : level.conjuncts = none) : level.Disjoins next meaning := by
  refine ⟨conjoins.complete, ?_⟩
  intro cellOf
  have same : next.disjunction cellOf = level.disjunction cellOf := by
    rw [disjunction, disjunction, conjoins.disjuncts]
  have nothing : level.conjunction cellOf = .yes := by
    rw [Level.conjunction, fresh]
    rfl
  rw [conjoins.conjunction, same, nothing, Truth.yes_and]

end Level

variable {dialect : Dialect} {table : Table} {run others : List Token} {meaning other : Meaning}

/-- A run that is read as one condition. -/
def Tight (dialect : Dialect) (table : Table) (run : List Token) (meaning : Meaning) : Prop :=
  ∃ condition : Condition, (∀ cellOf, condition.eval cellOf = meaning cellOf) ∧
    ∀ level next outer rest, level.accept condition = some next →
      readFrom dialect table ⟨level, outer⟩ (run ++ rest) =
        readFrom dialect table ⟨next, outer⟩ rest

/-- A run that is read as conjuncts of the disjunct under way. -/
def Conjunct (dialect : Dialect) (table : Table) (run : List Token) (meaning : Meaning) : Prop :=
  ∀ level, level.Ready → ∃ next, level.Conjoins next meaning ∧
    ∀ outer rest, readFrom dialect table ⟨level, outer⟩ (run ++ rest) =
      readFrom dialect table ⟨next, outer⟩ rest

/-- A run that is read as disjuncts. -/
def Disjunct (dialect : Dialect) (table : Table) (run : List Token) (meaning : Meaning) : Prop :=
  ∀ level, level.Ready → level.conjuncts = none → ∃ next, level.Disjoins next meaning ∧
    ∀ outer rest, readFrom dialect table ⟨level, outer⟩ (run ++ rest) =
      readFrom dialect table ⟨next, outer⟩ rest

theorem readFrom_symbol {tokens rest : List Token} {symbol : Symbol} {nesting next : Nesting}
    (read : readSymbol dialect table tokens = some (symbol, rest))
    (advanced : nesting.advance symbol = some next) :
    readFrom dialect table nesting tokens = readFrom dialect table next rest := by
  cases tokens with
  | nil => cases read
  | cons token others =>
      rw [readFrom]
      split
      · next missing =>
          rw [read] at missing
          cases missing
      · next found =>
          rw [read] at found
          cases found
          rw [advanced, Option.bind_some]

theorem Tight.of_symbol (condition : Condition)
    (read : ∀ rest, readSymbol dialect table (run ++ rest) = some (.condition condition, rest))
    (means : ∀ cellOf, condition.eval cellOf = meaning cellOf) :
    Tight dialect table run meaning := by
  refine ⟨condition, means, ?_⟩
  intro level next outer rest accepted
  exact readFrom_symbol (read rest) (by simp [Nesting.advance, accepted])

theorem Level.due_of_accept {level next : Level} {condition : Condition}
    (accepted : level.accept condition = some next) : level.due = true := by
  by_contra complete
  rw [Level.accept, if_neg complete] at accepted
  cases accepted

/-- A NOT takes what follows it, and nothing else. -/
theorem Tight.negation (tight : Tight dialect table run meaning) :
    Tight dialect table (.keyword "not" :: run) (fun cellOf => (meaning cellOf).not) := by
  obtain ⟨condition, means, read⟩ := tight
  refine ⟨.negation condition, ?_, ?_⟩
  · intro cellOf
    rw [Condition.eval, means]
  · intro level next outer rest accepted
    have due := Level.due_of_accept accepted
    rw [List.cons_append, readFrom_symbol rfl (by rw [Nesting.advance, if_pos due])]
    exact read _ next outer rest (level.accept_negation condition ▸ accepted)

/-- A run that a level starts with makes up one condition. -/
theorem Disjunct.whole (disjunct : Disjunct dialect table run meaning) :
    ∃ last condition, Level.whole last = some condition ∧
      (∀ cellOf, condition.eval cellOf = meaning cellOf) ∧
      ∀ outer rest, readFrom dialect table ⟨{}, outer⟩ (run ++ rest) =
        readFrom dialect table ⟨last, outer⟩ rest := by
  obtain ⟨last, disjoins, read⟩ := disjunct {} ⟨rfl, rfl⟩ rfl
  obtain ⟨condition, whole, value⟩ := disjoins.complete.whole
  refine ⟨last, condition, whole, ?_, read⟩
  intro cellOf
  have nothing : Level.disjunction {} cellOf = .no := rfl
  rw [value, disjoins.value, nothing, Truth.no_or]

/-- A group is read as one condition, whatever it holds and whatever stands around it. -/
theorem Disjunct.parens (disjunct : Disjunct dialect table run meaning) :
    Tight dialect table (Token.opening :: run ++ [Token.closing]) meaning := by
  -- The level inside starts afresh: what stands around the group is only put aside.
  obtain ⟨last, condition, whole, means, read⟩ := disjunct.whole
  refine ⟨condition, means, ?_⟩
  intro level next outer rest accepted
  have due := Level.due_of_accept accepted
  have closed : Nesting.advance ⟨last, level :: outer⟩ .closing = some ⟨next, outer⟩ := by
    simp [Nesting.advance, whole, accepted]
  rw [List.append_assoc, List.cons_append,
    readFrom_symbol rfl (by rw [Nesting.advance, if_pos due]), read, List.singleton_append,
    readFrom_symbol rfl closed]

theorem Tight.conjunct (tight : Tight dialect table run meaning) :
    Conjunct dialect table run meaning := by
  obtain ⟨condition, means, read⟩ := tight
  intro level ready
  obtain ⟨next, accepted, conjoins⟩ := ready.accept condition
  refine ⟨next, ?_, fun outer rest => read level next outer rest accepted⟩
  simpa only [means] using conjoins

theorem Conjunct.disjunct (conjunct : Conjunct dialect table run meaning) :
    Disjunct dialect table run meaning := by
  intro level ready fresh
  obtain ⟨next, conjoins, read⟩ := conjunct level ready
  exact ⟨next, conjoins.disjoins fresh, read⟩

theorem Conjunct.both (conjunct : Conjunct dialect table run meaning)
    (otherConjunct : Conjunct dialect table others other) :
    Conjunct dialect table (run ++ [Token.keyword "and"] ++ others)
      (fun cellOf => (meaning cellOf).and (other cellOf)) := by
  intro level ready
  obtain ⟨middle, conjoins, read⟩ := conjunct level ready
  -- The second run goes on with the conjuncts of the first one; no disjunct ends between them.
  obtain ⟨next, further, otherRead⟩ :=
    otherConjunct { middle with due := true } ⟨rfl, conjoins.complete.negations⟩
  refine ⟨next, ⟨further.complete, further.disjuncts.trans conjoins.disjuncts, ?_⟩, ?_⟩
  · intro cellOf
    have before : Level.conjunction { middle with due := true } cellOf =
        middle.conjunction cellOf := rfl
    rw [further.conjunction, before, conjoins.conjunction, Truth.and_assoc]
  · intro outer rest
    have waits : Nesting.advance ⟨middle, outer⟩ .and =
        some ⟨{ middle with due := true }, outer⟩ := by
      simp [Nesting.advance, conjoins.complete.due]
    rw [List.append_assoc, List.append_assoc, read, List.singleton_append,
      readFrom_symbol rfl waits, otherRead]

theorem Disjunct.either (disjunct : Disjunct dialect table run meaning)
    (otherDisjunct : Disjunct dialect table others other) :
    Disjunct dialect table (run ++ [Token.keyword "or"] ++ others)
      (fun cellOf => (meaning cellOf).or (other cellOf)) := by
  intro level ready fresh
  obtain ⟨middle, disjoins, read⟩ := disjunct level ready fresh
  obtain ⟨condition, whole, value⟩ := disjoins.complete.whole
  -- All that was read before the OR is one disjunct for the second run.
  obtain ⟨next, further, otherRead⟩ :=
    otherDisjunct { disjuncts := some condition } ⟨rfl, rfl⟩ rfl
  refine ⟨next, ⟨further.complete, ?_⟩, ?_⟩
  · intro cellOf
    have before : Level.disjunction { disjuncts := some condition } cellOf =
        condition.eval cellOf := rfl
    rw [further.value, before, value, disjoins.value, Truth.or_assoc]
  · intro outer rest
    have waits : Nesting.advance ⟨middle, outer⟩ .or =
        some ⟨{ disjuncts := some condition }, outer⟩ := by
      simp [Nesting.advance, whole]
    rw [List.append_assoc, List.append_assoc, read, List.singleton_append,
      readFrom_symbol rfl waits, otherRead]

/-- A run that makes up a whole text is read as one condition. -/
theorem Disjunct.readFrom_eq (disjunct : Disjunct dialect table run meaning) :
    ∃ condition, readFrom dialect table {} run = some condition ∧
      ∀ cellOf, condition.eval cellOf = meaning cellOf := by
  obtain ⟨last, condition, whole, means, read⟩ := disjunct.whole
  have ended := read [] []
  rw [List.append_nil] at ended
  refine ⟨condition, ?_, means⟩
  rw [ended, readFrom]
  exact whole

end SchemaStore.Sql
