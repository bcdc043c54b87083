import Snowbridge.Proofs.Batch.Deletion
import Snowbridge.Proofs.Batch.Outcome
import Snowbridge.Proofs.Batch.Update

/-!
# Transactions of batches

Whether a batch that finds no transaction open leaves one open, and whether a batch that rolls back
and fails has committed. Both are read off the ways in which the batches may go. Every batch but one
closes what it opens and commits only what it then reports as done; the one is an update by
identifiers, which reads its rows back between its statement and its commit.
-/

namespace Snowbridge.Batch

/-- The batches. -/
inductive Operation where
  | write (verb : WriteVerb) (records : List Json)
  | retrieveByIds (ids : List Identifier) (filter : Option String) (named : Filter.Named)
  | deleteByIds (ids : List Identifier) (filter : Option String) (named : Filter.Named)
  | updateByIds (ids : List Identifier) (fields : Record) (filter : Option String)
      (named : Filter.Named)

namespace Operation

/-- What a batch does. -/
def work (s : Setup) : Operation → Work Outcome
  | write verb records => s.write verb records
  | retrieveByIds ids filter named => s.retrieveByIds ids filter named
  | deleteByIds ids filter named => s.deleteByIds ids filter named
  | updateByIds ids fields filter named => s.updateByIds ids fields filter named

/-- Batches that are meant to change rows. -/
def writes : Operation → Bool
  | retrieveByIds _ _ _ => false
  | _ => true

/-- An update by identifiers has changed one row for each of them, and the reply to the query that
reads the rows back is as `P` says. -/
def ReadsBack (s : Setup) (p : Progress) (P : List Identifier → Reply → Prop) :
    Operation → Prop
  | updateByIds ids fields filter named => ∃ change query,
      s.UpdatePlan ids fields filter named change query ∧
      (p.replyAfter (s.opening p) change).count = .ok ids.length ∧
      P ids (s.readBackReply p change query)
  | _ => False

end Operation

/-- Some identifier has no row among those of a reply. -/
def Misses (t : Catalog.Table) (ids : List Identifier) (r : Reply) : Prop :=
  ∃ keys rows, keyColumns t = .ok keys ∧ r.rowSet = .ok rows ∧
    ∃ id ∈ ids, rowFor? keys rows.toList id = none

/-! ## Commits -/

/-- What was sent between two states. -/
def sentBetween (p p' : Progress) : List Request := p'.session.log.drop p.session.log.length

/-- What is sent between the ends of a run is what the run sends. -/
theorem Runs.sentBetween_eq {α : Type} {x : Work α} {p p' : Progress} {r : Except BatchError α}
    {sent : List Request} {b : Bool} (h : Runs x p r sent b p') : sentBetween p p' = sent := by
  rw [sentBetween, h.log, List.drop_left]

/-- Some request commits. -/
def Commits (sent : List Request) : Prop := ∃ r ∈ sent, r.sql = "COMMIT"

instance (sent : List Request) : Decidable (Commits sent) :=
  List.decidableBEx (fun (r : Request) => r.sql = "COMMIT") sent

theorem commits_cons {r : Request} {sent : List Request} :
    Commits (r :: sent) ↔ r.sql = "COMMIT" ∨ Commits sent := by
  simp [Commits]

theorem commits_append {xs ys : List Request} :
    Commits (xs ++ ys) ↔ Commits xs ∨ Commits ys := by
  simp [Commits, or_and_right, exists_or]

theorem not_commits_nil : ¬Commits [] := by
  rintro ⟨r, hr, -⟩
  cases hr

theorem not_commits_iff {sent : List Request} : ¬Commits sent ↔ ∀ r ∈ sent, r.sql ≠ "COMMIT" := by
  simp [Commits]

/-- `committing` sends a COMMIT exactly if a transaction is open. -/
theorem commits_committing {b : Bool} : Commits (committing b) ↔ b = true := by
  cases b with
  | true => exact iff_of_true ⟨commitRequest, List.mem_singleton_self _, rfl⟩ rfl
  | false => exact iff_of_false not_commits_nil Bool.false_ne_true

theorem not_commits_undoing (b : Bool) : ¬Commits (undoing b) :=
  not_commits_iff.2 (forall_mem_optional (by decide) b)

/-- `opening` sends no COMMIT, unless the engine opens transactions by that word. -/
theorem not_commits_opening {s : Setup} {p : Progress}
    (hbegin : p.session.engine.beginText ≠ "COMMIT") : ¬Commits (s.opening p) :=
  not_commits_iff.2 (forall_mem_optional hbegin _)

/-- No write is a COMMIT. -/
theorem sql_ne_commit_of_isWrite {r : Request} (h : isWrite r = true) : r.sql ≠ "COMMIT" := by
  intro hsql
  simp only [isWrite, startsWith, hsql] at h
  revert h
  decide

theorem sql_ne_commit_selectRequest (s : Setup) (query : String × List Value) :
    (s.selectRequest query).sql ≠ "COMMIT" := by
  intro hsql
  have hhead := head_selectRequest s query
  rw [hsql] at hhead
  revert hhead
  decide

/-- The requests for a record contain no COMMIT. -/
theorem RecordRequests.not_commits {s : Setup} {verb : WriteVerb} {record : Json}
    {sent : List Request} (h : RecordRequests s verb record sent) : ¬Commits sent := by
  cases h with
  | none => exact not_commits_nil
  | @written _ r _ hwrite =>
    have hne := sql_ne_commit_of_isWrite (isWrite_of_writeRecord hwrite)
    simp [commits_cons, not_commits_nil, hne]
  | @readBack _ r query _ hwrite _ =>
    have hne := sql_ne_commit_of_isWrite (isWrite_of_writeRecord hwrite)
    have hselect := sql_ne_commit_selectRequest s query
    simp [commits_cons, not_commits_nil, hne, hselect]

/-- The requests for all records contain no COMMIT. -/
theorem Staged.not_commits {s : Setup} {verb : WriteVerb} {index : Nat} {records : List Json}
    {results : List RecordOutcome} {blocks : List (List Request)}
    (h : Staged s verb index records results blocks) : ¬Commits blocks.flatten := by
  rintro ⟨r, hr, hsql⟩
  obtain ⟨sent, hsent, hmem⟩ := List.mem_flatten.1 hr
  obtain ⟨record, hrecord⟩ := h.exists_record hsent
  exact hrecord.not_commits ⟨r, hmem, hsql⟩

theorem sql_ne_commit_deleteRequest (s : Setup) (query : String × List Value) :
    (s.deleteRequest query).sql ≠ "COMMIT" :=
  sql_ne_commit_of_isWrite (s.isWrite_deleteRequest query)

theorem sql_ne_commit_updateRequest {s : Setup} {ids : List Identifier} {fields : Record}
    {filter : Option String} {named : Filter.Named} {change : Request}
    (h : s.updateRequest ids fields filter named = .ok change) : change.sql ≠ "COMMIT" :=
  sql_ne_commit_of_isWrite (Setup.isWrite_of_updateRequest h)

/-! ## Updates that are read back -/

namespace Operation

variable {s : Setup} {p : Progress} {ids : List Identifier} {fields : Record}
  {filter : Option String} {named : Filter.Named} {change : Request}
  {query : String × List Value} {P : List Identifier → Reply → Prop}

/-- `ReadsBack` said by the plan of the update, which is unique. -/
theorem readsBack_iff (plan : s.UpdatePlan ids fields filter named change query) :
    (updateByIds ids fields filter named).ReadsBack s p P ↔
      (p.replyAfter (s.opening p) change).count = .ok ids.length ∧
      P ids (s.readBackReply p change query) := by
  constructor
  · rintro ⟨change', query', plan', hcount, hread⟩
    obtain ⟨rfl, rfl⟩ := plan.unique plan'
    exact ⟨hcount, hread⟩
  · rintro ⟨hcount, hread⟩
    exact ⟨change, query, plan, hcount, hread⟩

/-- An update without a plan reads nothing back. -/
theorem not_readsBack
    (hrefused : ¬∃ change query, s.UpdatePlan ids fields filter named change query) :
    ¬(updateByIds ids fields filter named).ReadsBack s p P := by
  rintro ⟨change, query, plan, -⟩
  exact hrefused ⟨change, query, plan⟩

/-! ## Transactions that stay open -/

/-- The state in which a batch ends. -/
def stop (s : Setup) (op : Operation) (p : Progress) : Progress := ((op.work s).run p).2

/-- The answer of a batch. -/
def answer (s : Setup) (op : Operation) (p : Progress) : Except BatchError Outcome :=
  ((op.work s).run p).1

/-- A batch of records leaves no transaction open. -/
theorem isOpen_write (h : p.session.engine.Transactional) (hclosed : p.isOpen = false)
    (verb : WriteVerb) (records : List Json) : ((write verb records).stop s p).isOpen = false := by
  unfold stop work
  rcases Setup.runs_write_cases h verb records with ⟨e, hrun⟩ | ⟨results, blocks, q, -, hrun⟩
  · rw [hrun.run]
    exact hclosed
  · rw [hrun.run]
    exact hrun.flag

/-- A retrieval leaves no transaction open. -/
theorem isOpen_retrieveByIds (h : p.session.engine.Transactional) (hclosed : p.isOpen = false) :
    ((retrieveByIds ids filter named).stop s p).isOpen = false := by
  unfold stop work
  obtain ⟨r, sent, b, q, hrun, hcourse⟩ := Setup.runs_retrieveByIds (s := s) h ids filter named
  rw [hrun.run]
  cases hcourse with
  | refused => exact hrun.flag.trans hclosed
  | fetched => exact hrun.flag.trans hclosed
  | committed => exact hrun.flag

/-- A deletion leaves no transaction open. -/
theorem isOpen_deleteByIds (h : p.session.engine.Transactional) (hclosed : p.isOpen = false) :
    ((deleteByIds ids filter named).stop s p).isOpen = false := by
  unfold stop work
  obtain ⟨r, sent, b, q, hrun, hcourse⟩ := Setup.runs_deletion (s := s) h ids filter named
  rw [hrun.run]
  cases hcourse with
  | unfetched => exact hrun.flag.trans hclosed
  | missing => exact hrun.flag.trans hclosed
  | nothing => exact hrun.flag.trans hclosed
  | deleted => exact hrun.flag
  | undone => exact hrun.flag

/-- An update leaves a transaction open exactly if it opened one, changed its rows, and had its
read-back refused. -/
theorem isOpen_updateByIds (h : p.session.engine.Transactional) (hclosed : p.isOpen = false) :
    ((updateByIds ids fields filter named).stop s p).isOpen = true ↔
      s.policy = .rollBack ∧
        (updateByIds ids fields filter named).ReadsBack s p fun _ r => ∃ e, r = .failed e := by
  unfold stop work
  obtain ⟨r, sent, b, q, hrun, hcourse⟩ := Setup.runs_updateByIds (s := s) h ids fields filter named
  rw [hrun.run]
  show q.isOpen = true ↔ _
  rw [hrun.flag]
  -- only the course `unread` ends before the transaction is closed
  cases hcourse with
  | refused _ hrefused =>
    rw [hclosed]
    exact iff_of_false Bool.false_ne_true fun hread => not_readsBack hrefused hread.2
  | undone _ plan hcount =>
    refine iff_of_false Bool.false_ne_true ?_
    rintro ⟨-, hread⟩
    exact hcount ((readsBack_iff plan).1 hread).1
  | @unread _ _ e plan hcount hrows =>
    -- nothing closes the transaction that was opened before the statement
    have hfailed := Reply.rowSet_eq_error_iff.1 hrows
    rw [hclosed, Bool.or_false, Policy.rollsBack_iff, readsBack_iff plan]
    constructor
    · intro hpolicy
      exact ⟨hpolicy, hcount, e, hfailed⟩
    · rintro ⟨hpolicy, -⟩
      exact hpolicy
  | kept plan _ hrows _ =>
    refine iff_of_false Bool.false_ne_true ?_
    rintro ⟨-, hread⟩
    obtain ⟨-, e, hfailed⟩ := (readsBack_iff plan).1 hread
    rw [Reply.rowSet_eq_error_iff.2 hfailed] at hrows
    cases hrows

/-- A batch leaves a transaction open exactly if it is an update by identifiers under `rollBack`
whose statement changed its rows and whose read-back was refused. -/
theorem isOpen_stop_iff (h : p.session.engine.Transactional) (hclosed : p.isOpen = false)
    (op : Operation) :
    (op.stop s p).isOpen = true ↔
      s.policy = .rollBack ∧ op.ReadsBack s p fun _ r => ∃ e, r = .failed e := by
  cases op with
  | write verb records =>
    rw [isOpen_write h hclosed]
    exact iff_of_false Bool.false_ne_true fun hread => hread.2
  | retrieveByIds ids filter named =>
    rw [isOpen_retrieveByIds h hclosed]
    exact iff_of_false Bool.false_ne_true fun hread => hread.2
  | deleteByIds ids filter named =>
    rw [isOpen_deleteByIds h hclosed]
    exact iff_of_false Bool.false_ne_true fun hread => hread.2
  | updateByIds ids fields filter named => exact isOpen_updateByIds h hclosed

/-- An update of two accounts. -/
def renameBoth : Operation := updateByIds [[.int 1], [.int 2]] [("NAME", .str "z")] none []

/-- A session before its first request. -/
def starting (e : Engine) : Progress := { session := { engine := e } }

/-- An engine that changes both accounts and then cannot read them. -/
def unreadableEngine : Engine :=
  .scripted "queue" true [⟨"UPDATE", [.affected 2]⟩, ⟨"SELECT", [.fails (.execution "gone")]⟩]

theorem transactional_unreadableEngine : unreadableEngine.Transactional :=
  Engine.transactional_scripted (by decide +kernel) (by decide +kernel) (by decide +kernel)

theorem isOpen_renameBoth :
    (renameBoth.stop undoingAccounts (starting unreadableEngine)).isOpen = true := by
  decide +kernel

/-- The update of both accounts is accepted, and its read-back refused. -/
theorem readsBack_unreadableEngine :
    renameBoth.ReadsBack undoingAccounts (starting unreadableEngine) fun _ r =>
      ∃ e, r = .failed e :=
  ((isOpen_stop_iff (p := starting unreadableEngine) transactional_unreadableEngine rfl
    renameBoth).1 isOpen_renameBoth).2

/-- An update fails and leaves open the transaction it began. -/
theorem isOpen_stop_renameBoth :
    unreadableEngine.Transactional ∧ (starting unreadableEngine).isOpen = false ∧
      (renameBoth.stop undoingAccounts (starting unreadableEngine)).isOpen = true :=
  ⟨transactional_unreadableEngine, rfl, isOpen_renameBoth⟩

/-! ## Commits before failures -/

/-- If failures are not tolerated, the answer is a fault exactly if the outcome is no success. -/
theorem answer_eq_error_iff (hcontinues : s.policy.continues = false) {action : String}
    {o : Outcome} : (∃ e, s.answer action o = .error e) ↔ o.isSuccess = false := by
  unfold Setup.answer
  cases hsuccess : o.isSuccess with
  | true => simp
  | false => simp [hcontinues]

/-- If failures are not tolerated, a read-back makes the answer a fault exactly if it misses a
row. -/
theorem misses_iff {results : List RecordOutcome} {rows : RowSet} {r : Reply}
    (hcontinues : s.policy.continues = false) (hrows : r.rowSet = .ok rows)
    (hresults : reconcile s.table ids rows = .ok results) :
    (∃ e, s.answer "update" { results := results } = .error e) ↔ Misses s.table ids r := by
  rw [answer_eq_error_iff hcontinues, Outcome.isSuccess, not_isSuccess_reconcile hresults]
  constructor
  · rintro ⟨keys, hkeys, hmissing⟩
    exact ⟨keys, rows, hkeys, hrows, hmissing⟩
  · rintro ⟨keys, rows', hkeys, hrows', hmissing⟩
    rw [Except.ok.inj (hrows.symm.trans hrows')]
    exact ⟨keys, hkeys, hmissing⟩

/-- A batch of records that fails under `rollBack` sends no COMMIT. -/
theorem not_commits_write (h : p.session.engine.Transactional)
    (hbegin : p.session.engine.beginText ≠ "COMMIT") (hpolicy : s.policy = .rollBack)
    {verb : WriteVerb} {records : List Json} {e : BatchError}
    (herror : (write verb records).answer s p = .error e) :
    ¬Commits (sentBetween p ((write verb records).stop s p)) := by
  unfold answer stop work at *
  rcases Setup.runs_write_cases h verb records with
    ⟨e', hrun⟩ | ⟨results, blocks, q, hstaged, hrun⟩
  · rw [hrun.run, hrun.sentBetween_eq]
    exact not_commits_nil
  · rw [hrun.run] at herror ⊢
    have hfailed : Outcome.isSuccess ⟨results, _⟩ = false :=
      (answer_eq_error_iff (Policy.continues_of_rollBack hpolicy)).1 ⟨e, herror⟩
    have hundoes : s.undoes results = true := by
      rw [Setup.undoes, Policy.rollsBack_iff.2 hpolicy, hstaged.anyFailed_of_not_isSuccess hfailed]
      rfl
    rw [hrun.sentBetween_eq, commits_append, commits_append, Setup.closing, if_pos hundoes]
    rintro (hopening | hblocks | hclosing)
    · exact not_commits_opening hbegin hopening
    · exact hstaged.not_commits hblocks
    · exact not_commits_undoing true hclosing

/-- A deletion that fails under `rollBack` sends no COMMIT. -/
theorem not_commits_deleteByIds (h : p.session.engine.Transactional)
    (hbegin : p.session.engine.beginText ≠ "COMMIT") {e : BatchError}
    (herror : (deleteByIds ids filter named).answer s p = .error e) :
    ¬Commits (sentBetween p ((deleteByIds ids filter named).stop s p)) := by
  unfold answer stop work at *
  obtain ⟨r, sent, b, q, hrun, hcourse⟩ := Setup.runs_deletion (s := s) h ids filter named
  rw [hrun.run] at herror ⊢
  rw [hrun.sentBetween_eq]
  have hselect : ∀ query, ¬Commits [s.selectRequest query] := fun query =>
    not_commits_iff.2 (List.forall_mem_singleton.2 (sql_ne_commit_selectRequest s query))
  cases hcourse with
  | unfetched _ _ hsent _ =>
    rcases hsent with rfl | ⟨query, rfl⟩
    · exact not_commits_nil
    · exact hselect query
  | missing => exact hselect _
  | nothing => cases herror
  | deleted => cases herror
  | undone =>
    rw [commits_cons, commits_append, commits_cons]
    rintro (hquery | hopening | hdelete | hundoing)
    · exact sql_ne_commit_selectRequest s _ hquery
    · exact not_commits_opening hbegin hopening
    · exact sql_ne_commit_deleteRequest s _ hdelete
    · exact not_commits_undoing _ hundoing

/-- An update under `rollBack` fails after its COMMIT exactly if its read-back misses a row. -/
theorem fails_and_commits_updateByIds (h : p.session.engine.Transactional)
    (hbegin : p.session.engine.beginText ≠ "COMMIT") (hpolicy : s.policy = .rollBack) :
    ((∃ e, (updateByIds ids fields filter named).answer s p = .error e) ∧
        Commits (sentBetween p ((updateByIds ids fields filter named).stop s p))) ↔
      (updateByIds ids fields filter named).ReadsBack s p (Misses s.table) := by
  unfold answer stop work
  obtain ⟨r, sent, b, q, hrun, hcourse⟩ := Setup.runs_updateByIds (s := s) h ids fields filter named
  have hopening := not_commits_opening (s := s) hbegin
  rw [hrun.run, hrun.sentBetween_eq]
  -- only the course `kept` commits
  cases hcourse with
  | refused _ hrefused =>
    refine iff_of_false ?_ (not_readsBack hrefused)
    rintro ⟨-, hcommits⟩
    exact not_commits_nil hcommits
  | undone _ plan hcount =>
    refine iff_of_false ?_ fun hread => hcount ((readsBack_iff plan).1 hread).1
    rw [commits_append, commits_cons]
    rintro ⟨-, hcommits | hcommits | hcommits⟩
    · exact hopening hcommits
    · exact sql_ne_commit_updateRequest plan.change hcommits
    · exact not_commits_undoing _ hcommits
  | @unread _ query _ plan _ hrows =>
    refine iff_of_false ?_ ?_
    · simp only [commits_append, commits_cons, not_commits_nil, or_false]
      rintro ⟨-, (hcommits | hcommits) | hcommits⟩
      · exact hopening hcommits
      · exact sql_ne_commit_updateRequest plan.change hcommits
      · exact sql_ne_commit_selectRequest s query hcommits
    · intro hread
      obtain ⟨-, keys, rows, -, hrows', -⟩ := (readsBack_iff plan).1 hread
      -- the read-back is refused here, so there are no rows to miss one of
      rw [hrows] at hrows'
      cases hrows'
  | kept plan hcount hrows hresults =>
    -- the commit is sent whatever the rows are, so that only the answer depends on them
    have hcommits : Commits (committing (s.policy.rollsBack || p.isOpen)) := by
      rw [commits_committing, Policy.rollsBack_iff.2 hpolicy, Bool.true_or]
    rw [misses_iff (Policy.continues_of_rollBack hpolicy) hrows hresults, readsBack_iff plan,
      commits_append, commits_cons]
    constructor
    · rintro ⟨hmisses, -⟩
      exact ⟨hcount, hmisses⟩
    · rintro ⟨-, hmisses⟩
      exact ⟨hmisses, .inr (.inr hcommits)⟩

/-- A batch under `rollBack` fails after its COMMIT exactly if it is an update by identifiers whose
statement changed its rows and whose read-back misses one of them. -/
theorem fails_and_commits_iff (h : p.session.engine.Transactional)
    (hbegin : p.session.engine.beginText ≠ "COMMIT") (hpolicy : s.policy = .rollBack)
    (op : Operation) (hwrites : op.writes = true) :
    ((∃ e, op.answer s p = .error e) ∧ Commits (sentBetween p (op.stop s p))) ↔
      op.ReadsBack s p (Misses s.table) := by
  cases op with
  | write verb records =>
    refine iff_of_false ?_ id
    rintro ⟨⟨e, herror⟩, hcommits⟩
    exact not_commits_write h hbegin hpolicy herror hcommits
  | retrieveByIds ids filter named => cases hwrites
  | deleteByIds ids filter named =>
    refine iff_of_false ?_ id
    rintro ⟨⟨e, herror⟩, hcommits⟩
    exact not_commits_deleteByIds h hbegin herror hcommits
  | updateByIds ids fields filter named => exact fails_and_commits_updateByIds h hbegin hpolicy

/-- An engine that changes both accounts and then finds one of them. -/
def losingEngine : Engine :=
  .scripted "queue" true [⟨"UPDATE", [.affected 2]⟩, ⟨"SELECT", [.rows ⟨["ID"], [[.int 1]]⟩]⟩]

theorem transactional_losingEngine : losingEngine.Transactional :=
  Engine.transactional_scripted (by decide +kernel) (by decide +kernel) (by decide +kernel)

/-- The update of both accounts is committed and answered with a fault. -/
theorem commits_renameBoth :
    (renameBoth.answer undoingAccounts (starting losingEngine)).isOk = false ∧
      Commits (sentBetween (starting losingEngine)
        (renameBoth.stop undoingAccounts (starting losingEngine))) := by
  decide +kernel

theorem exists_answer_renameBoth :
    ∃ e, renameBoth.answer undoingAccounts (starting losingEngine) = .error e := by
  have hfailed := commits_renameBoth.1
  cases hanswer : renameBoth.answer undoingAccounts (starting losingEngine) with
  | error e => exact ⟨e, rfl⟩
  | ok o =>
    rw [hanswer] at hfailed
    cases hfailed

/-- The update of both accounts is accepted, and its read-back misses the second. -/
theorem readsBack_losingEngine :
    renameBoth.ReadsBack undoingAccounts (starting losingEngine) (Misses accounts) :=
  (fails_and_commits_iff (p := starting losingEngine) transactional_losingEngine (by decide) rfl
    renameBoth rfl).1 ⟨exists_answer_renameBoth, commits_renameBoth.2⟩

/-- An update fails although it has committed. -/
theorem fails_and_commits_renameBoth :
    losingEngine.Transactional ∧ losingEngine.beginText = "BEGIN" ∧
      undoingAccounts.policy = .rollBack ∧ renameBoth.writes = true ∧
      (∃ e, renameBoth.answer undoingAccounts (starting losingEngine) = .error e) ∧
      Commits (sentBetween (starting losingEngine)
        (renameBoth.stop undoingAccounts (starting losingEngine))) :=
  ⟨transactional_losingEngine, rfl, rfl, rfl, exists_answer_renameBoth, commits_renameBoth.2⟩

end Operation

end Snowbridge.Batch
