import Snowbridge.Proofs.Batch.Command
import Snowbridge.Proofs.Batch.Work

/-!
# Batches of records

A batch writes its records one after another. Each record sends at most the statement that writes
it and the query for the row as it is then (`RecordRequests`). What the batch has come to is told by
its results and, record by record, by the requests that were sent for it (`Staged`); one more record
extends both, and a failure either goes on with the next record or ends the batch, in which case all
later records are skipped and send nothing.
-/

namespace Snowbridge.Batch

namespace Setup

variable {s : Setup} {p : Progress} {verb : WriteVerb}

/-! ## One record -/

/-- What is sent to read a record back. -/
def readBackRequests (s : Setup) (fields : Record) : List Request :=
  match readBackQuery? s.table fields with
  | some query => [s.selectRequest query]
  | none => []

/-- The row that a record is read back as, if its key is known and there is one. -/
def rowRead (s : Setup) (p : Progress) (fields : Record) : Option Record :=
  (readBackQuery? s.table fields).bind fun query =>
    ((p.reply (s.selectRequest query)).rowSet.toOption).bind fun rows => rows.records.head?

/-- A read-back sends its SELECT, if the key is known, and never fails: a refused SELECT counts as
no row. -/
theorem runs_readBack (s : Setup) (fields : Record) (p : Progress) :
    ∃ q, Runs (s.readBack fields) p (.ok (s.rowRead p fields)) (s.readBackRequests fields)
      p.isOpen q := by
  unfold readBack readBackRequests rowRead
  cases hquery : readBackQuery? s.table fields with
  | none => exact ⟨p, runs_pure none p⟩
  | some query =>
    have hfetch := runs_onSession (s.run_fetch query p.session) rfl rfl
    rw [Option.bind_some]
    cases hset : (p.reply (s.selectRequest query)).rowSet with
    | ok rows =>
      rw [hset] at hfetch
      exact ⟨_, hfetch.bind_last (runs_pure _ _)⟩
    | error e =>
      rw [hset] at hfetch
      obtain ⟨q, hnotify⟩ := runs_notify (.warning ("Could not read back written row on " ++
        s.table.internalName ++ ": " ++ (BatchError.database e).message))
        (p.logged (s.selectRequest query))
      have hpure := runs_pure (none : Option Record) q
      rw [hnotify.flag] at hpure
      exact ⟨q, hfetch.bind_last (hnotify.bind_silent hpure)⟩

end Setup

/-- What is sent for one record: nothing, the statement that writes it, or this statement and the
query for the written row. -/
inductive RecordRequests (s : Setup) (verb : WriteVerb) (record : Json) : List Request → Prop where
  | none : RecordRequests s verb record []
  | written {fields : Record} {r : Request} (hrecord : record = .obj fields)
      (hwrite : writeRecord s.table verb fields = .ok r) : RecordRequests s verb record [r]
  | readBack {fields : Record} {r : Request} {query : String × List Value}
      (hrecord : record = .obj fields) (hwrite : writeRecord s.table verb fields = .ok r)
      (hquery : readBackQuery? s.table fields = some query) :
      RecordRequests s verb record [r, s.selectRequest query]

namespace Setup

variable {s : Setup} {p : Progress} {verb : WriteVerb}

/-- The write of a record and its read-back are requests that the record may send. -/
theorem recordRequests_readBack {fields : Record} {r : Request}
    (hwrite : writeRecord s.table verb fields = .ok r) :
    RecordRequests s verb (.obj fields) (r :: s.readBackRequests fields) := by
  unfold readBackRequests
  cases hquery : readBackQuery? s.table fields with
  | none => exact .written rfl hwrite
  | some query => exact .readBack rfl hwrite hquery

/-- After a write that reached a row, an INSERT or UPDATE is read back, and the record is the row
found or the fields given. -/
theorem runs_writeFields_readBack (index : Nat) {affected : Nat} {fields : Record} {r : Request}
    {record : Option Record} {sent : List Request} {q : Progress}
    (hwrite : writeRecord s.table verb fields = .ok r)
    (hcount : (p.reply r).count = .ok affected) (hfound : ¬(verb ≠ .create ∧ affected = 0))
    (hverb : verb ≠ .delete)
    (hread : Runs (s.readBack fields) (p.logged r) (.ok record) sent p.isOpen q) :
    Runs (s.writeFields verb index fields) p (.ok (.ok (record.getD fields))) (r :: sent)
      p.isOpen q := by
  have hchange := runs_change r p
  have hpure := runs_pure (Except.ok (record.getD fields) : Except ItemError Record) q
  rw [hcount] at hchange
  rw [hread.flag] at hpure
  unfold writeFields
  rw [hwrite]
  refine hchange.bind ?_
  dsimp only
  rw [if_neg (by simpa using hfound), if_neg (by simpa using hverb)]
  exact hread.bind_last hpure

/-- Writing one record gives its result under its own index, sends what `RecordRequests` allows and
leaves the transaction alone. -/
theorem runs_writeFields (s : Setup) (verb : WriteVerb) (index : Nat) (fields : Record)
    (p : Progress) : ∃ r sent q, Runs (s.writeFields verb index fields) p (.ok r) sent p.isOpen q ∧
      RecordRequests s verb (.obj fields) sent ∧ ∀ e, r = .error e → e.index = index := by
  unfold writeFields
  cases hwrite : writeRecord s.table verb fields with
  | error reason =>
    -- the fields do not make a statement, so nothing is sent
    refine ⟨_, [], p, runs_pure _ p, .none, ?_⟩
    rintro e ⟨rfl⟩
    rfl
  | ok r =>
    have hchange := runs_change r p
    cases hcount : (p.reply r).count with
    | error e =>
      rw [hcount] at hchange
      refine ⟨.error (.write index e.message), [r], p.logged r, hchange.bind_last (runs_pure _ _),
        .written rfl hwrite, ?_⟩
      rintro e ⟨rfl⟩
      rfl
    | ok affected =>
      rw [hcount] at hchange
      -- only a new record may change no row, and a deleted one is not read back
      by_cases hmissing : verb ≠ .create ∧ affected = 0
      · refine ⟨.error (.notFound index), [r], p.logged r, hchange.bind_last ?_,
          .written rfl hwrite, ?_⟩
        · dsimp only
          rw [if_pos (by simpa using hmissing)]
          exact runs_pure _ _
        · rintro e ⟨rfl⟩
          rfl
      · by_cases hdelete : verb = .delete
        · refine ⟨.ok fields, [r], p.logged r, hchange.bind_last ?_, .written rfl hwrite, ?_⟩
          · dsimp only
            rw [if_neg (by simpa using hmissing), if_pos (by simpa using hdelete)]
            exact runs_pure _ _
          · rintro e ⟨⟩
        · obtain ⟨q, hread⟩ := s.runs_readBack fields (p.logged r)
          have hwritten :=
            runs_writeFields_readBack index hwrite hcount hmissing hdelete hread
          unfold writeFields at hwritten
          rw [hwrite] at hwritten
          refine ⟨_, r :: s.readBackRequests fields, q, hwritten,
            recordRequests_readBack hwrite, ?_⟩
          rintro e ⟨⟩

/-- The same for a JSON value, which fails without a request if it is not an object. -/
theorem runs_writeOne (s : Setup) (verb : WriteVerb) (index : Nat) (record : Json)
    (p : Progress) : ∃ r sent q, Runs (s.writeOne verb index record) p (.ok r) sent p.isOpen q ∧
      RecordRequests s verb record sent ∧ ∀ e, r = .error e → e.index = index := by
  cases record with
  | obj fields => exact s.runs_writeFields verb index fields p
  | _ =>
    refine ⟨_, [], p, runs_pure _ p, .none, ?_⟩
    rintro e ⟨rfl⟩
    rfl

end Setup

/-! ## All records -/

/-- The results of the records from number `index` on, with what was sent for each. A failure ends
the batch unless the policy goes on: the later records are skipped and send nothing. -/
inductive Staged (s : Setup) (verb : WriteVerb) :
    Nat → List Json → List RecordOutcome → List (List Request) → Prop where
  | nil {index : Nat} : Staged s verb index [] [] []
  | success {index : Nat} {record : Json} {records : List Json} {written : Record}
      {sent : List Request} {results : List RecordOutcome} {blocks : List (List Request)}
      (hsent : RecordRequests s verb record sent)
      (hrest : Staged s verb (index + 1) records results blocks) :
      Staged s verb index (record :: records) (.success written :: results) (sent :: blocks)
  | goOn {index : Nat} {record : Json} {records : List Json} {e : ItemError}
      {sent : List Request} {results : List RecordOutcome} {blocks : List (List Request)}
      (hpolicy : s.policy = .goOn) (hindex : e.index = index)
      (hsent : RecordRequests s verb record sent)
      (hrest : Staged s verb (index + 1) records results blocks) :
      Staged s verb index (record :: records) (.failed e :: results) (sent :: blocks)
  | halt {index : Nat} {record : Json} {records : List Json} {e : ItemError}
      {sent : List Request} (hpolicy : s.policy ≠ .goOn) (hindex : e.index = index)
      (hsent : RecordRequests s verb record sent) :
      Staged s verb index (record :: records)
        (.failed e :: records.map fun _ => .skipped) (sent :: records.map fun _ => [])

/-- Some record failed. -/
def anyFailed (results : List RecordOutcome) : Bool := results.any fun r => r.error?.isSome

theorem anyFailed_success (written : Record) (results : List RecordOutcome) :
    anyFailed (.success written :: results) = anyFailed results := rfl

theorem anyFailed_failed (e : ItemError) (results : List RecordOutcome) :
    anyFailed (.failed e :: results) = true := rfl

/-- `anyFailed` means that some result is a failure. -/
theorem anyFailed_iff {results : List RecordOutcome} :
    anyFailed results = true ↔ ∃ e, RecordOutcome.failed e ∈ results := by
  rw [anyFailed, List.any_eq_true]
  constructor
  · rintro ⟨r, hr, herror⟩
    cases r with
    | failed e => exact ⟨e, hr⟩
    | success _ => cases herror
    | skipped => cases herror
  · rintro ⟨e, he⟩
    exact ⟨.failed e, he, rfl⟩

namespace Setup

variable {s : Setup} {p : Progress} {verb : WriteVerb}

/-- The batch is undone. -/
def undoes (s : Setup) (results : List RecordOutcome) : Bool :=
  s.policy.rollsBack && anyFailed results

/-- What the batch tells about its rollback. -/
def rollbackOutcome (s : Setup) (e : Engine) (results : List RecordOutcome) :
    Option RollbackOutcome :=
  if s.undoes results then some (undone e true) else none

/-- Only the policy `rollBack` undoes. -/
theorem undoes_of_ne (hpolicy : s.policy ≠ .rollBack) (results : List RecordOutcome) :
    s.undoes results = false := by
  rw [undoes, Policy.rollsBack_of_ne hpolicy, Bool.false_and]

/-- Under `rollBack` a failure undoes the batch. -/
theorem undoes_failed (hpolicy : s.policy = .rollBack) (e : ItemError)
    (results : List RecordOutcome) : s.undoes (.failed e :: results) = true := by
  rw [undoes, hpolicy, anyFailed_failed]
  rfl

/-- `writeAll` from index `index` on gives staged results, and rolls back the open transaction if
one of them fails under `rollBack`. -/
def WritesAll (s : Setup) (verb : WriteVerb) (index : Nat) (records : List Json)
    (p : Progress) : Prop :=
  ∃ results blocks q, Staged s verb index records results blocks ∧
    Runs (s.writeAll verb index records) p
      (.ok (results, s.rollbackOutcome p.session.engine results))
      (blocks.flatten ++ undoing (s.undoes results)) (p.isOpen && !s.undoes results) q

/-- No records: no results and no requests. -/
theorem writesAll_nil (s : Setup) (verb : WriteVerb) (index : Nat) (p : Progress) :
    s.WritesAll verb index [] p := by
  have hnone : s.undoes [] = false := Bool.and_false _
  refine ⟨[], [], p, .nil, ?_⟩
  rw [rollbackOutcome, hnone, Bool.not_false, Bool.and_true]
  exact runs_pure _ p

section Step

variable {index : Nat} {record : Json} {records : List Json} {sent : List Request} {q : Progress}
  {e : ItemError}

/-- The step for a success: its result and its requests go in front. -/
theorem writesAll_success {written : Record}
    (hwrite : Runs (s.writeOne verb index record) p (.ok (.ok written)) sent p.isOpen q)
    (hsent : RecordRequests s verb record sent) (hrest : s.WritesAll verb (index + 1) records q) :
    s.WritesAll verb index (record :: records) p := by
  obtain ⟨results, blocks, q', hstaged, hrun⟩ := hrest
  refine ⟨.success written :: results, sent :: blocks, q', .success hsent hstaged, ?_⟩
  rw [hwrite.flag, hwrite.engine] at hrun
  have hend := runs_pure (RecordOutcome.success written :: results,
    s.rollbackOutcome p.session.engine results) q'
  rw [hrun.flag] at hend
  rw [List.flatten_cons, List.append_assoc]
  exact hwrite.bind (hrun.bind_last hend)

/-- The step for a failure under `goOn`: a notice is logged and the next record is tried. -/
theorem writesAll_goOn (hpolicy : s.policy = .goOn)
    (hwrite : Runs (s.writeOne verb index record) p (.ok (.error e)) sent p.isOpen q)
    (hsent : RecordRequests s verb record sent) (hindex : e.index = index)
    (hrest : ∀ q', q'.session.engine = q.session.engine → q'.isOpen = q.isOpen →
      s.WritesAll verb (index + 1) records q') :
    s.WritesAll verb index (record :: records) p := by
  have hkeeps := undoes_of_ne (s := s) (by simp [hpolicy])
  obtain ⟨q', htold⟩ := runs_notify (s.recordFailed verb e) q
  obtain ⟨results, blocks, q'', hstaged, hrun⟩ := hrest q' htold.engine htold.flag
  refine ⟨.failed e :: results, sent :: blocks, q'', .goOn hpolicy hindex hsent hstaged, ?_⟩
  rw [rollbackOutcome, hkeeps, htold.flag, hwrite.flag] at hrun
  have hend := runs_pure (RecordOutcome.failed e :: results, (none : Option RollbackOutcome)) q''
  rw [hrun.flag] at hend
  rw [rollbackOutcome, hkeeps, List.flatten_cons, List.append_assoc]
  refine hwrite.bind (htold.bind_silent ?_)
  rw [hpolicy]
  exact hrun.bind_last hend

theorem flatten_map_nil (records : List Json) :
    (records.map fun _ => ([] : List Request)).flatten = [] := by
  simp

/-- The step for a failure under `rollBack`: ROLLBACK is sent and the other records are skipped. -/
theorem writesAll_rollBack (h : p.session.engine.Transactional) (hpolicy : s.policy = .rollBack)
    (hopen : p.isOpen = true)
    (hwrite : Runs (s.writeOne verb index record) p (.ok (.error e)) sent p.isOpen q)
    (hsent : RecordRequests s verb record sent) (hindex : e.index = index) :
    s.WritesAll verb index (record :: records) p := by
  obtain ⟨q', htold⟩ := runs_notify (s.recordFailed verb e) q
  have hengine : q'.session.engine = p.session.engine := htold.engine.trans hwrite.engine
  obtain ⟨q'', hundo⟩ := runs_rollback (s := s) (p := q') (hengine ▸ h)
  refine ⟨_, _, q'', .halt (by simp [hpolicy]) hindex hsent, ?_⟩
  rw [htold.flag, hwrite.flag, hopen, hengine] at hundo
  have hend := runs_pure (RecordOutcome.failed e :: records.map fun _ => .skipped,
    some (undone p.session.engine true)) q''
  rw [hundo.flag] at hend
  rw [rollbackOutcome, undoes_failed hpolicy, List.flatten_cons, flatten_map_nil, List.append_nil,
    Bool.not_true, Bool.and_false]
  refine hwrite.bind (htold.bind_silent ?_)
  rw [hpolicy]
  exact hundo.bind_last hend

/-- The step for a failure under `stop`: the other records are skipped, and what was written
stays. -/
theorem writesAll_stop (hpolicy : s.policy = .stop)
    (hwrite : Runs (s.writeOne verb index record) p (.ok (.error e)) sent p.isOpen q)
    (hsent : RecordRequests s verb record sent) (hindex : e.index = index) :
    s.WritesAll verb index (record :: records) p := by
  obtain ⟨q', htold⟩ := runs_notify (s.recordFailed verb e) q
  refine ⟨_, _, q', .halt (by simp [hpolicy]) hindex hsent, ?_⟩
  have hend := runs_pure (RecordOutcome.failed e :: records.map fun _ => .skipped,
    (none : Option RollbackOutcome)) q'
  rw [htold.flag, hwrite.flag] at hend
  rw [rollbackOutcome, undoes_of_ne (by simp [hpolicy]), List.flatten_cons, flatten_map_nil,
    List.append_nil, Bool.not_false, Bool.and_true]
  refine hwrite.bind (htold.bind_silent ?_)
  rw [hpolicy]
  exact hend

end Step

/-- Induction on the records: the four steps cover every run of `writeAll`. -/
theorem runs_writeAll (h : p.session.engine.Transactional)
    (hopen : s.policy = .rollBack → p.isOpen = true) (verb : WriteVerb) (index : Nat)
    (records : List Json) : s.WritesAll verb index records p := by
  -- induction on the records: the policy decides which step a failure takes
  induction records generalizing index p with
  | nil => exact writesAll_nil s verb index p
  | cons record records ih =>
    obtain ⟨r, sent, q, hwrite, hsent, hindex⟩ := s.runs_writeOne verb index record p
    -- the transaction is as open for the rest as it was for this record
    have hrest : ∀ q', q'.session.engine = q.session.engine → q'.isOpen = q.isOpen →
        s.WritesAll verb (index + 1) records q' := by
      intro q' hengine hflag
      have hengine' : q'.session.engine = p.session.engine := hengine.trans hwrite.engine
      exact ih (hengine' ▸ h) (fun hpolicy => (hflag.trans hwrite.flag).trans (hopen hpolicy)) _
    cases r with
    | ok written => exact writesAll_success hwrite hsent (hrest q rfl rfl)
    | error e =>
      cases hpolicy : s.policy with
      | goOn => exact writesAll_goOn hpolicy hwrite hsent (hindex e rfl) hrest
      | rollBack =>
        exact writesAll_rollBack h hpolicy (hopen hpolicy) hwrite hsent (hindex e rfl)
      | stop => exact writesAll_stop hpolicy hwrite hsent (hindex e rfl)

/-! ## The whole batch -/

/-- What is sent after the records: ROLLBACK if the batch is undone, else COMMIT if a transaction is
open. -/
def closing (s : Setup) (p : Progress) (results : List RecordOutcome) : List Request :=
  if s.undoes results then [rollbackRequest] else committing (s.policy.rollsBack || p.isOpen)

/-- The check of the key passes for a table with a key, and is not made for new records. -/
theorem runs_keyed {α : Type} {x : Work α} {r : Except BatchError α} {sent : List Request}
    {b : Bool} {q : Progress} (hkeys : verb ≠ .create → ∃ keys, keyColumns s.table = .ok keys)
    (hx : Runs x p r sent b q) :
    Runs (if verb ≠ .create then lift (keyColumns s.table) >>= fun _ => x else x) p r sent b q := by
  split
  · next hverb =>
    obtain ⟨keys, hkeys⟩ := hkeys hverb
    exact runs_lift_bind hkeys hx
  · exact hx

/-- A batch that passes the limit and the check of the key sends `opening`, the requests of its
records and `closing`, and leaves no transaction open. -/
theorem runs_write {records : List Json} (h : p.session.engine.Transactional)
    (hlimit : s.checkLimit records.length = .ok ())
    (hkeys : verb ≠ .create → ∃ keys, keyColumns s.table = .ok keys) :
    ∃ results blocks q, Staged s verb 0 records results blocks ∧
      Runs (s.write verb records) p
        (s.answer verb.name ⟨results, s.rollbackOutcome p.session.engine results⟩)
        (s.opening p ++ (blocks.flatten ++ s.closing p results)) false q := by
  unfold write
  have hphase := runs_setPhase .staging p
  obtain ⟨q, hbegin⟩ := runs_beginIfNeeded (s := s) (p := { p with phase := .staging }) h
  have hengine : q.session.engine = p.session.engine := hbegin.engine
  -- under `rollBack` the records run inside a transaction, which is what `runs_writeAll` asks for
  have hopen : s.policy = .rollBack → q.isOpen = true := by
    intro hpolicy
    rw [hbegin.flag, hpolicy]
    rfl
  obtain ⟨results, blocks, q₁, hstaged, hwrite⟩ :=
    runs_writeAll (s := s) (p := q) (hengine ▸ h) hopen verb 0 records
  rw [hbegin.flag, hengine] at hwrite
  refine ⟨results, blocks, ?_⟩
  cases hundoes : s.undoes results with
  | true =>
    -- the transaction was closed at the failure, so that nothing is left to commit
    rw [rollbackOutcome, hundoes, Bool.not_true, Bool.and_false] at hwrite
    obtain ⟨q₂, hsettle⟩ := s.runs_settle verb.name
      ⟨results, some (undone p.session.engine true)⟩ q₁
    rw [hwrite.flag] at hsettle
    refine ⟨q₂, hstaged, ?_⟩
    rw [rollbackOutcome, closing, hundoes]
    refine runs_lift_bind hlimit ?_
    refine runs_keyed hkeys (hphase.bind_silent (hbegin.bind ?_))
    exact hwrite.bind_last hsettle
  | false =>
    rw [rollbackOutcome, hundoes, Bool.not_false, Bool.and_true] at hwrite
    obtain ⟨q₂, hcommit⟩ := runs_commitOpen (s := s) (p := q₁)
      (hwrite.engine.trans hengine ▸ h)
    obtain ⟨q₃, hsettle⟩ := s.runs_settle verb.name ⟨results, none⟩ q₂
    rw [hwrite.flag] at hcommit
    rw [hcommit.flag] at hsettle
    refine ⟨q₃, hstaged, ?_⟩
    rw [rollbackOutcome, closing, hundoes]
    refine runs_lift_bind hlimit ?_
    refine runs_keyed hkeys (hphase.bind_silent (hbegin.bind ?_))
    -- nothing is undone, so the log ends with the requests of the records
    have hflat : blocks.flatten = blocks.flatten ++ undoing false := (List.append_nil _).symm
    rw [hflat]
    exact hwrite.bind (hcommit.bind_last hsettle)

/-- A batch is refused before its first request, or runs as in `runs_write`. -/
theorem runs_write_cases (h : p.session.engine.Transactional) (verb : WriteVerb)
    (records : List Json) :
    (∃ e, Runs (s.write verb records) p (.error e) [] p.isOpen p) ∨
    ∃ results blocks q, Staged s verb 0 records results blocks ∧
      Runs (s.write verb records) p
        (s.answer verb.name ⟨results, s.rollbackOutcome p.session.engine results⟩)
        (s.opening p ++ (blocks.flatten ++ s.closing p results)) false q := by
  cases hlimit : s.checkLimit records.length with
  | error e =>
    refine Or.inl ⟨e, ?_⟩
    unfold write
    exact runs_lift_error hlimit
  | ok _ =>
    by_cases hverb : verb = .create
    · exact Or.inr (runs_write h hlimit fun hne => absurd hverb hne)
    · cases hkeys : keyColumns s.table with
      | error e =>
        refine Or.inl ⟨e, ?_⟩
        unfold write
        refine runs_lift_bind hlimit ?_
        dsimp only
        rw [if_pos hverb]
        exact runs_lift_error hkeys
      | ok keys => exact Or.inr (runs_write h hlimit fun _ => ⟨keys, hkeys⟩)

end Setup

end Snowbridge.Batch
