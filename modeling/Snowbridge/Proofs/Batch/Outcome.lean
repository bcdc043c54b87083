import Mathlib.Data.List.Forall2
import Snowbridge.Proofs.Batch.Record
import Snowbridge.Sql.Expression

/-!
# Outcomes of batches of records

What a batch of records promises under every policy and every sequence of replies: one result for
each record, under its own number; after a failure either all later records are tried or none is;
one write at most for each record, in their order; and a transaction that is closed in the way that
the results say. All of it is read off the staged results, case by case.
-/

namespace Snowbridge.Batch

/-! ## Staged results -/

section Staged

variable {s : Setup} {verb : WriteVerb} {index : Nat} {records : List Json}
  {results : List RecordOutcome} {blocks : List (List Request)}

/-- The requests for one record contain at most one write: the other is the read-back SELECT. -/
theorem RecordRequests.writes_le_one {record : Json} {sent : List Request}
    (h : RecordRequests s verb record sent) :
    (sent.filter isWrite).length ≤ 1 := by
  cases h with
  | none => exact Nat.zero_le 1
  | @written _ r _ _ => exact List.length_filter_le isWrite [r]
  | @readBack _ r query _ _ _ =>
    have hselect := isWrite_selectRequest s query
    rw [List.filter_cons, List.filter_cons, hselect]
    split
    · exact Nat.le_refl 1
    · exact Nat.zero_le 1

/-- One result for each record. -/
theorem Staged.length_results (h : Staged s verb index records results blocks) :
    results.length = records.length := by
  induction h with
  | nil => rfl
  | success _ _ ih => rw [List.length_cons, List.length_cons, ih]
  | goOn _ _ _ _ ih => rw [List.length_cons, List.length_cons, ih]
  | halt _ _ _ => rw [List.length_cons, List.length_cons, List.length_map]

/-- A failure carries the index of its record. -/
theorem Staged.index_eq (h : Staged s verb index records results blocks) {i : Nat} {e : ItemError}
    (he : results[i]? = some (.failed e)) : e.index = index + i := by
  -- induction on the staging: behind the first record the index is that of the rest, one further
  induction h generalizing i with
  | nil => simp at he
  | success _ _ ih =>
    cases i with
    | zero => simp at he
    | succ i =>
      have hi := ih (by simpa using he)
      omega
  | goOn _ hindex _ _ ih =>
    cases i with
    | zero =>
      simp only [List.getElem?_cons_zero, Option.some.injEq, RecordOutcome.failed.injEq] at he
      rw [← he, hindex, Nat.add_zero]
    | succ i =>
      have hi := ih (by simpa using he)
      omega
  | halt _ hindex _ =>
    cases i with
    | zero =>
      simp only [List.getElem?_cons_zero, Option.some.injEq, RecordOutcome.failed.injEq] at he
      rw [← he, hindex, Nat.add_zero]
    | succ i =>
      rw [List.getElem?_cons_succ, List.getElem?_map] at he
      obtain ⟨_, _, heq⟩ := Option.map_eq_some_iff.1 he
      cases heq

/-- Under `goOn` no record is skipped. -/
theorem Staged.not_skipped (h : Staged s verb index records results blocks)
    (hpolicy : s.policy = .goOn) : RecordOutcome.skipped ∉ results := by
  induction h with
  | nil => simp
  | success _ _ ih => simpa using ih
  | goOn _ _ _ _ ih => simpa using ih
  | halt hne _ _ => exact absurd hpolicy hne

/-- Under `stop` and `rollBack` the batch has a first failure `k`, or none: all before it succeed,
and all after it are skipped and send nothing. -/
theorem Staged.stopsAtFailure (h : Staged s verb index records results blocks)
    (hpolicy : s.policy ≠ .goOn) :
    ∃ k, k ≤ records.length ∧ (∀ i, i < k → ∃ written, results[i]? = some (.success written)) ∧
      (k < records.length → ∃ e, results[k]? = some (.failed e)) ∧
      ∀ i, k < i → i < records.length → results[i]? = some .skipped ∧ blocks[i]? = some [] := by
  induction h with
  | nil =>
    refine ⟨0, Nat.le_refl 0, ?_, ?_, ?_⟩
    · intro i hi
      exact absurd hi (Nat.not_lt_zero i)
    · intro hk
      exact absurd hk (Nat.lt_irrefl 0)
    · intro i _ hi
      exact absurd hi (Nat.not_lt_zero i)
  | success _ _ ih =>
    -- a success moves the first failure one record on
    obtain ⟨k, hk, hbefore, hat, hafter⟩ := ih
    refine ⟨k + 1, Nat.succ_le_succ hk, ?_, ?_, ?_⟩
    · intro i hi
      cases i with
      | zero => exact ⟨_, rfl⟩
      | succ i => exact hbefore i (Nat.lt_of_succ_lt_succ hi)
    · intro hlt
      exact hat (Nat.lt_of_succ_lt_succ hlt)
    · intro i hki hi
      cases i with
      | zero => exact absurd hki (Nat.not_lt_zero _)
      | succ i => exact hafter i (Nat.lt_of_succ_lt_succ hki) (Nat.lt_of_succ_lt_succ hi)
  | goOn hgoOn _ _ _ _ => exact absurd hgoOn hpolicy
  | @halt _ _ records e _ _ _ _ =>
    refine ⟨0, Nat.zero_le _, ?_, ?_, ?_⟩
    · intro i hi
      exact absurd hi (Nat.not_lt_zero i)
    · intro _
      exact ⟨e, rfl⟩
    · intro i hi hlt
      cases i with
      | zero => exact absurd hi (Nat.lt_irrefl 0)
      | succ i =>
        have hi' : i < records.length := Nat.lt_of_succ_lt_succ hlt
        exact ⟨by simp [hi'], by simp [hi']⟩

/-- The blocks of requests belong to the records one by one. -/
theorem Staged.requests (h : Staged s verb index records results blocks) :
    List.Forall₂ (RecordRequests s verb) records blocks := by
  induction h with
  | nil => exact .nil
  | success hsent _ ih => exact .cons hsent ih
  | goOn _ _ hsent _ ih => exact .cons hsent ih
  | halt _ _ hsent =>
    refine .cons hsent ?_
    rw [List.forall₂_map_right_iff]
    exact List.forall₂_same.2 fun _ _ => .none

/-- Each block of requests is that of some record. -/
theorem Staged.exists_record (h : Staged s verb index records results blocks)
    {sent : List Request} (hsent : sent ∈ blocks) :
    ∃ record, RecordRequests s verb record sent := by
  induction h with
  | nil => cases hsent
  | success hfirst _ ih =>
    rcases List.mem_cons.1 hsent with rfl | hrest
    · exact ⟨_, hfirst⟩
    · exact ih hrest
  | goOn _ _ hfirst _ ih =>
    rcases List.mem_cons.1 hsent with rfl | hrest
    · exact ⟨_, hfirst⟩
    · exact ih hrest
  | @halt _ record _ _ _ _ _ hfirst =>
    rcases List.mem_cons.1 hsent with rfl | hrest
    · exact ⟨_, hfirst⟩
    · obtain ⟨_, _, rfl⟩ := List.mem_map.1 hrest
      exact ⟨record, .none⟩

/-- Results that are not all successes contain a failure: skipping starts at a failure. -/
theorem Staged.anyFailed_of_not_isSuccess (h : Staged s verb index records results blocks)
    (hfailed : results.all RecordOutcome.isSuccess = false) : anyFailed results = true := by
  induction h with
  | nil => cases hfailed
  | success _ _ ih =>
    rw [anyFailed_success]
    exact ih hfailed
  | goOn _ _ _ _ _ => exact anyFailed_failed _ _
  | halt _ _ _ => exact anyFailed_failed _ _

/-- A batch of one record does not skip it. -/
theorem Staged.ne_skipped (h : Staged s verb index records results blocks) :
    results ≠ [.skipped] := by
  cases h <;> simp

end Staged

/-! ## Answers -/

/-- The answer `r` tells the outcome `o`: it is `o`, a batch fault that holds `o`, or, for a batch
of one record, the fault of that record. -/
inductive Tells (o : Outcome) : Except BatchError Outcome → Prop where
  | done : Tells o (.ok o)
  | batch (reason : String) (hlength : o.results.length ≠ 1) : Tells o (.error (.batch reason o))
  | item (e : ItemError) (hresults : o.results = [.failed e]) : Tells o (.error (.ofItem e))

/-- The outcome that an answer carries, if any: the fault of a single record carries none. -/
def reported : Except BatchError Outcome → Option Outcome
  | .ok o => some o
  | .error (.batch _ o) => some o
  | .error _ => none

/-- The answer of a batch that has not just one record carries the outcome. -/
theorem Tells.reported {o : Outcome} {r : Except BatchError Outcome} (h : Tells o r)
    (hlength : o.results.length ≠ 1) : reported r = some o := by
  cases h with
  | done => rfl
  | batch _ _ => rfl
  | item e hresults => exact absurd (by rw [hresults]; rfl) hlength

/-- The aggregate fault tells the outcome: a single failure as that failure, any other outcome
inside a batch fault. -/
theorem tells_aggregate (s : Setup) (action : String) {o : Outcome} (hfailed : o.isSuccess = false)
    (hskipped : o.results ≠ [.skipped]) : Tells o (.error (s.aggregate action o)) := by
  unfold Setup.aggregate
  split
  · next result e es hresults hfailures =>
    -- the only result of a batch of one, which is what its failures are
    have hresult : result = .failed e := by
      rw [Outcome.failures, hresults] at hfailures
      cases result with
      | failed e' =>
        cases hfailures
        rfl
      | success w => cases hfailures
      | skipped => cases hfailures
    exact .item e (by rw [hresults, hresult])
  · next hnone =>
    -- a batch of one record that failed has that failure alone, which is the case before
    refine .batch _ fun hlength => ?_
    obtain ⟨result, hresults⟩ := List.length_eq_one_iff.1 hlength
    cases result with
    | failed e =>
      refine hnone (.failed e) e [] hresults ?_
      rw [Outcome.failures, hresults]
      rfl
    | success w =>
      rw [Outcome.isSuccess, hresults] at hfailed
      cases hfailed
    | skipped => exact hskipped hresults

/-- The answer tells the outcome, whether it is a success or a fault. -/
theorem tells_answer (s : Setup) (action : String) {o : Outcome}
    (hskipped : o.results ≠ [.skipped]) : Tells o (s.answer action o) := by
  unfold Setup.answer
  split
  · exact .done
  · next hdone =>
    have hfailed : o.isSuccess = false := by
      cases hsuccess : o.isSuccess with
      | true => simp [hsuccess] at hdone
      | false => rfl
    exact tells_aggregate s action hfailed hskipped

/-! ## The promise -/

/-- What a batch of records promises of its answer `r` and the state `p'` that it leads to from `p`,
in terms of an outcome and of what was sent for each record. -/
structure Promise (s : Setup) (verb : WriteVerb) (records : List Json) (p : Progress)
    (r : Except BatchError Outcome) (p' : Progress) (o : Outcome) (blocks : List (List Request)) :
    Prop where
  told : Tells o r
  /-- Each record has a result under its own number. -/
  length : o.results.length = records.length
  index : ∀ (i : Nat) (e : ItemError), o.results[i]? = some (.failed e) → e.index = i
  /-- After a failure every later record is tried, or none is and nothing is sent for it. -/
  triesAll : s.policy = .goOn → RecordOutcome.skipped ∉ o.results
  stops : s.policy ≠ .goOn → ∃ k, k ≤ records.length ∧
    (∀ i, i < k → ∃ written, o.results[i]? = some (.success written)) ∧
    (k < records.length → ∃ e, o.results[k]? = some (.failed e)) ∧
    ∀ i, k < i → i < records.length → o.results[i]? = some .skipped ∧ blocks[i]? = some []
  /-- Each record sends one write at most. -/
  requests : List.Forall₂ (RecordRequests s verb) records blocks
  writes : ∀ sent ∈ blocks, (sent.filter isWrite).length ≤ 1
  /-- A rollback is told of if and only if one was due, and as what it was. -/
  undone : o.rollback.isSome = true ↔ s.policy = .rollBack ∧ ∃ e, RecordOutcome.failed e ∈ o.results
  rollback : ∀ u, o.rollback = some u →
    u = if p.session.engine.undoesWrites then .rolledBack else .unsupported
  /-- The requests for the records stand between those that open and close the transaction. -/
  log : p'.session.log =
    p.session.log ++ (s.opening p ++ (blocks.flatten ++ s.closing p o.results))
  closed : p'.isOpen = false
  /-- A batch that rolls back and finds no transaction open runs in one of its own; others send
  nothing about transactions. -/
  ownTransaction : p.isOpen = false → s.policy = .rollBack → p'.session.log =
    p.session.log ++ ([p.session.engine.beginRequest] ++ (blocks.flatten ++
      if anyFailed o.results then [rollbackRequest] else [commitRequest]))
  noTransaction : p.isOpen = false → s.policy ≠ .rollBack →
    p'.session.log = p.session.log ++ blocks.flatten

namespace Setup

variable {s : Setup} {p : Progress} {verb : WriteVerb} {records : List Json}

/-- A batch is undone exactly if its policy rolls back and a record failed. -/
theorem undoes_iff {results : List RecordOutcome} : s.undoes results = true ↔
    s.policy = .rollBack ∧ ∃ e, RecordOutcome.failed e ∈ results := by
  rw [undoes, Bool.and_eq_true, Policy.rollsBack_iff, anyFailed_iff]

/-- A batch of records that passes the limit and the check of the key keeps its promise, whatever
the engine answers to the requests for the records. -/
theorem write_keeps_promise (h : p.session.engine.Transactional)
    (hlimit : s.checkLimit records.length = .ok ())
    (hkeys : verb ≠ .create → ∃ keys, keyColumns s.table = .ok keys) :
    ∃ o blocks, Promise s verb records p ((s.write verb records).run p).1
      ((s.write verb records).run p).2 o blocks := by
  obtain ⟨results, blocks, q, hstaged, hrun⟩ := runs_write h hlimit hkeys
  -- the outcome is what was staged, with the rollback that its failures call for
  refine ⟨⟨results, s.rollbackOutcome p.session.engine results⟩, blocks, ?_⟩
  rw [hrun.run]
  exact {
    told := tells_answer s verb.name hstaged.ne_skipped
    length := hstaged.length_results
    index := fun i e he => by
      have hindex := hstaged.index_eq he
      rwa [Nat.zero_add] at hindex
    triesAll := hstaged.not_skipped
    stops := hstaged.stopsAtFailure
    requests := hstaged.requests
    writes := fun sent hsent => by
      obtain ⟨record, hrecord⟩ := hstaged.exists_record hsent
      exact hrecord.writes_le_one
    undone := by
      rw [← undoes_iff, rollbackOutcome]
      split
      · next hundoes => simp [hundoes]
      · next hundoes => simp [hundoes]
    rollback := fun u hu => by
      rw [rollbackOutcome] at hu
      split at hu
      · rw [← Option.some.inj hu]
        rfl
      · cases hu
    log := hrun.log
    closed := hrun.flag
    ownTransaction := fun hopen hpolicy => by
      rw [hrun.log, opening, closing, undoes, hopen, hpolicy]
      cases anyFailed results <;> rfl
    noTransaction := fun hopen hpolicy => by
      have hkeeps := Policy.rollsBack_of_ne hpolicy
      rw [hrun.log, opening, closing, undoes, hopen, hkeeps]
      simp [committing] }

end Setup

/-- A table whose key is one column. -/
def accounts : Catalog.Table where
  schema := "PUBLIC"
  name := "ACCOUNTS"
  kind := .table
  columns := [Catalog.Column.ofType "ID" "NUMBER(38,0)", Catalog.Column.ofType "NAME" "VARCHAR(64)"]
  primaryKeys := ["ID"]

/-- Batches of accounts that end at the first failure. -/
def stoppingAccounts : Setup := { table := accounts, parser := Sql.Expression.parse }

/-- Batches of accounts that a failure undoes. -/
def undoingAccounts : Setup := { stoppingAccounts with policy := .rollBack }

/-- The record of an account. -/
def account (id : Int) : Json := .obj [("ID", .int id)]

/-- An engine that finds the first of the rows to delete and no other. -/
def oneRowEngine : Engine := .scripted "queue" true [⟨"DELETE", [.affected 1, .affected 0]⟩]

/-- A batch that fails at its second record, for which there is no row, and tells of the rollback
that undid the first. -/
theorem write_keeps_promise_accounts :
    let records := [account 1, account 2, account 3]
    let p : Progress := { session := { engine := oneRowEngine } }
    let ended := (undoingAccounts.write .delete records).run p
    ∃ o blocks, Promise undoingAccounts .delete records p ended.1 ended.2 o blocks ∧
      o.results.map RecordOutcome.error? = [none, some (.notFound 1), none] ∧
      o.rollback = some .rolledBack := by
  intro records p ended
  have hkept : ∃ o blocks, Promise undoingAccounts .delete records p ended.1 ended.2 o blocks :=
    Setup.write_keeps_promise
      (Engine.transactional_scripted (by decide +kernel) (by decide +kernel) (by decide +kernel)) rfl
      fun _ => ⟨_, rfl⟩
  obtain ⟨o, blocks, hpromise⟩ := hkept
  have htold : (reported ended.1).map (fun o => (o.results.map RecordOutcome.error?, o.rollback)) =
      some ([none, some (.notFound 1), none], some .rolledBack) := by
    decide +kernel
  have hlength : o.results.length ≠ 1 := by
    rw [hpromise.length]
    decide
  rw [hpromise.told.reported hlength, Option.map_some, Option.some.injEq, Prod.mk.injEq] at htold
  exact ⟨o, blocks, hpromise, htold.1, htold.2⟩

end Snowbridge.Batch
