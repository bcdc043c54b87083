import Snowbridge.Batch.Coordinator
import Snowbridge.Proofs.Session.Reply

/-!
# Statements of batches

Which of the requests of a batch change rows. The statements are told apart by the words that they
start with.
-/

namespace Snowbridge.Batch

/-! ## First words -/

/-- A request starts with a word. -/
def startsWith (word : String) (r : Request) : Bool := word.toList.isPrefixOf r.sql.toList

/-- A request that changes rows. -/
def isWrite (r : Request) : Bool :=
  startsWith "INSERT INTO " r || startsWith "UPDATE " r || startsWith "DELETE FROM " r

/-- A statement that is put together from a word and a rest starts with the word. -/
theorem startsWith_append (word rest : String) (params : List Value) :
    startsWith word ⟨word ++ rest, params⟩ = true := by
  rw [startsWith, String.toList_append]
  exact List.isPrefixOf_iff_prefix.2 (List.prefix_append _ _)

/-- The shape of the statements by condition: word, table, text between, condition. -/
theorem startsWith_where (word table between condition : String) (params : List Value) :
    startsWith word ⟨word ++ table ++ between ++ condition, params⟩ = true := by
  rw [String.append_assoc, String.append_assoc]
  exact startsWith_append word _ params

/-- Different first letters rule out that a request starts with a word. -/
theorem startsWith_of_head {word : String} {r : Request} {c d : Char}
    (hr : r.sql.toList.head? = some c) (hword : word.toList.head? = some d) (hcd : c ≠ d) :
    startsWith word r = false := by
  obtain ⟨cs, hsql⟩ := List.head?_eq_some_iff.1 hr
  obtain ⟨ds, hlist⟩ := List.head?_eq_some_iff.1 hword
  have hne : (d == c) = false := beq_false_of_ne (Ne.symm hcd)
  rw [startsWith, hsql, hlist, List.isPrefixOf, hne, Bool.false_and]

/-! ## Queries -/

/-- The request for the rows that a predicate accepts. -/
def Setup.selectRequest (s : Setup) (query : String × List Value) : Request :=
  ⟨"SELECT * FROM " ++ s.table.quotedName ++ " WHERE " ++ query.1, query.2⟩

/-- A fetch sends one SELECT and gives the rows of its reply. -/
theorem Setup.run_fetch (s : Setup) (query : String × List Value) (session : Session) :
    (s.fetch query.1 query.2).run session =
      ((session.reply (s.selectRequest query)).rowSet, session.logged (s.selectRequest query)) :=
  Session.run_execute session _ query.2

/-- A SELECT begins with S, which no write does. -/
theorem head_selectRequest (s : Setup) (query : String × List Value) :
    (s.selectRequest query).sql.toList.head? = some 'S' := by
  unfold Setup.selectRequest
  rw [String.toList_append, String.toList_append, String.toList_append]
  rfl

/-- A SELECT is no write. -/
theorem isWrite_selectRequest (s : Setup) (query : String × List Value) :
    isWrite (s.selectRequest query) = false := by
  have hhead := head_selectRequest s query
  have hinsert : startsWith "INSERT INTO " (s.selectRequest query) = false :=
    startsWith_of_head hhead rfl (by decide)
  have hupdate : startsWith "UPDATE " (s.selectRequest query) = false :=
    startsWith_of_head hhead rfl (by decide)
  have hdelete : startsWith "DELETE FROM " (s.selectRequest query) = false :=
    startsWith_of_head hhead rfl (by decide)
  rw [isWrite, hinsert, hupdate, hdelete]
  rfl

/-! ## Writes -/

/-- The statement for a new record is an INSERT. -/
theorem startsWith_insertRecord {t : Catalog.Table} {as : List Assignment} {r : Request}
    (h : insertRecord t as = .ok r) : startsWith "INSERT INTO " r = true := by
  unfold insertRecord at h
  split at h
  · cases h
  · split at h
    · cases h
    · simp only [Except.ok.injEq, String.append_assoc] at h
      rw [← h]
      exact startsWith_append _ _ _

theorem startsWith_updateText (t : Catalog.Table) (sets : List Assignment) (condition : String)
    (params : List Value) : startsWith "UPDATE " ⟨updateText t sets condition, params⟩ = true := by
  simp only [updateText, String.append_assoc]
  exact startsWith_append _ _ _

/-- The statement for a changed record is an UPDATE. -/
theorem startsWith_updateRecord {t : Catalog.Table} {as : List Assignment} {params : List Value}
    {r : Request} (h : updateRecord t as params = .ok r) : startsWith "UPDATE " r = true := by
  simp only [updateRecord] at h
  split at h
  · cases h
  · simp only [Except.ok.injEq] at h
    rw [← h]
    exact startsWith_updateText _ _ _ _

theorem startsWith_deleteRecord (t : Catalog.Table) (params : List Value) :
    startsWith "DELETE FROM " (deleteRecord t params) = true :=
  startsWith_where _ _ _ _ params

/-- Inversion of `writeRecord`: the fields name columns, and an UPDATE or DELETE also takes the
values of the key from them. -/
theorem exists_of_writeRecord {t : Catalog.Table} {verb : WriteVerb} {fields : Record}
    {r : Request} (h : writeRecord t verb fields = .ok r) :
    ∃ as, fields.mapM (assignment t) = .ok as ∧
      match verb with
      | .create => insertRecord t as = .ok r
      | .update => ∃ params, t.primaryKeyColumns.mapM (requiredKey as) = .ok params ∧
          updateRecord t as params = .ok r
      | .delete => ∃ params, t.primaryKeyColumns.mapM (requiredKey as) = .ok params ∧
          deleteRecord t params = r := by
  unfold writeRecord at h
  cases has : fields.mapM (assignment t) with
  | error e => simp [has, bind, Except.bind] at h
  | ok as =>
    refine ⟨as, rfl, ?_⟩
    cases verb with
    | create => simpa [has, bind, Except.bind] using h
    | update =>
      cases hkeys : t.primaryKeyColumns.mapM (requiredKey as) with
      | error e => simp [has, hkeys, bind, Except.bind] at h
      | ok params =>
        refine ⟨params, rfl, ?_⟩
        simpa [has, hkeys, bind, Except.bind] using h
    | delete =>
      cases hkeys : t.primaryKeyColumns.mapM (requiredKey as) with
      | error e => simp [has, hkeys, bind, Except.bind] at h
      | ok params =>
        refine ⟨params, rfl, ?_⟩
        simpa [has, hkeys, bind, Except.bind, pure, Except.pure] using h

/-- `writeRecord` builds an INSERT, an UPDATE or a DELETE. -/
theorem isWrite_of_writeRecord {t : Catalog.Table} {verb : WriteVerb} {fields : Record}
    {r : Request} (h : writeRecord t verb fields = .ok r) : isWrite r = true := by
  obtain ⟨as, -, hverb⟩ := exists_of_writeRecord h
  cases verb with
  | create => rw [isWrite, startsWith_insertRecord hverb, Bool.true_or, Bool.true_or]
  | update =>
    obtain ⟨params, -, hupdate⟩ := hverb
    rw [isWrite, startsWith_updateRecord hupdate, Bool.or_true, Bool.true_or]
  | delete =>
    obtain ⟨params, -, rfl⟩ := hverb
    rw [isWrite, startsWith_deleteRecord, Bool.or_true]

end Snowbridge.Batch
