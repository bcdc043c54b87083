import Snowbridge.Session.Scripted

/-!
# Requests and their replies

What one request does to a session: it is kept in the log, and the reply is the engine's answer
after all requests before it. Whatever the reply is, the engine stays the same; only the statements
that open and close transactions change whether one is open.
-/

namespace Snowbridge

/-! ## Computations that may fail -/

section Bind

variable {ε σ α β : Type} {c : ExceptT ε (StateM σ) α} {f : α → ExceptT ε (StateM σ) β} {s s' : σ}

/-- Running a sequence whose first part succeeds. -/
theorem run_bind_ok {a : α} (h : c.run s = (.ok a, s')) : (c >>= f).run s = (f a).run s' := by
  rw [ExceptT.run_bind]
  simp only [bind, StateT.bind, h]

/-- Running a sequence whose first part fails. -/
theorem run_bind_error {e : ε} (h : c.run s = (.error e, s')) :
    (c >>= f).run s = (.error e, s') := by
  rw [ExceptT.run_bind]
  simp only [bind, StateT.bind, h]
  rfl

end Bind

/-! ## Replies -/

namespace Reply

/-- The rows of a reply. A reply without rows counts as no rows. -/
def rowSet : Reply → Except DatabaseError RowSet
  | .rows set => .ok set
  | .affected _ => .ok {}
  | .failed e => .error e

/-- Reading rows fails only with the fault of the reply. -/
theorem rowSet_eq_error_iff {r : Reply} {e : DatabaseError} :
    r.rowSet = .error e ↔ r = .failed e := by
  cases r <;> simp [rowSet]

/-- The number of changed rows of a reply. A reply without a count counts as none. -/
def count : Reply → Except DatabaseError Nat
  | .rows _ => .ok 0
  | .affected n => .ok n
  | .failed e => .error e

/-- The reply, unless it is a fault. -/
def result : Reply → Except DatabaseError Reply
  | .failed e => .error e
  | r => .ok r

/-- No fault was reported. -/
def Succeeds (r : Reply) : Prop := ∀ e, r ≠ .failed e

/-- A fault was reported. -/
def isFailed : Reply → Bool
  | .failed _ => true
  | _ => false

theorem isFailed_iff {r : Reply} : r.isFailed = true ↔ ∃ e, r = .failed e := by
  cases r <;> simp [isFailed]

theorem succeeds_iff {r : Reply} : r.Succeeds ↔ r.isFailed = false := by
  cases r <;> simp [Succeeds, isFailed]

end Reply

/-- The request that opens a transaction. -/
def Engine.beginRequest (e : Engine) : Request := ⟨e.beginText, []⟩

/-- The request that keeps the writes of a transaction. -/
def commitRequest : Request := ⟨"COMMIT", []⟩

/-- The request that takes back the writes of a transaction. -/
def rollbackRequest : Request := ⟨"ROLLBACK", []⟩

/-- Transactions open and close without fault, whatever was sent before. -/
structure Engine.Transactional (e : Engine) : Prop where
  begins : ∀ log, (e.answer log e.beginRequest).Succeeds
  commits : ∀ log, (e.answer log commitRequest).Succeeds
  rollsBack : ∀ log, (e.answer log rollbackRequest).Succeeds

/-- A scripted engine without rules for BEGIN, COMMIT and ROLLBACK accepts them. -/
theorem Engine.transactional_scripted {name : String} {undoesWrites : Bool}
    {rules : List ReplyRule} (hbegin : ruleFor? rules "BEGIN" = none)
    (hcommit : ruleFor? rules "COMMIT" = none) (hrollback : ruleFor? rules "ROLLBACK" = none) :
    (Engine.scripted name undoesWrites rules).Transactional := by
  have hsucceeds : ∀ (sql : String) (log : List Request), ruleFor? rules sql = none →
      (scriptedAnswer rules log ⟨sql, []⟩).Succeeds := by
    intro sql log hsql e hfailed
    simp [scriptedAnswer, hsql] at hfailed
  constructor
  · intro log
    exact hsucceeds "BEGIN" log hbegin
  · intro log
    exact hsucceeds "COMMIT" log hcommit
  · intro log
    exact hsucceeds "ROLLBACK" log hrollback

namespace Session

/-- The answer that a request gets. -/
def reply (s : Session) (r : Request) : Reply := s.engine.answer s.log r

/-- The session after a request. -/
def logged (s : Session) (r : Request) : Session := { s with log := s.log ++ [r] }

/-! ## Calls -/

/-- A request is logged and answered. -/
theorem run_send (s : Session) (r : Request) :
    (send r).run s = ((s.reply r).result, s.logged r) := by
  show (match s.reply r with
    | .failed e => throw e
    | reply => pure reply : Call DatabaseError Reply).run (s.logged r) = _
  cases s.reply r <;> rfl

/-- A query returns the rows of its reply. -/
theorem run_execute (s : Session) (sql : String) (params : List Value) :
    (execute sql params).run s = ((s.reply ⟨sql, params⟩).rowSet, s.logged ⟨sql, params⟩) := by
  have hsend := run_send s ⟨sql, params⟩
  unfold execute
  cases hr : s.reply ⟨sql, params⟩ with
  | rows set =>
    rw [hr] at hsend
    rw [run_bind_ok hsend]
    rfl
  | affected n =>
    rw [hr] at hsend
    rw [run_bind_ok hsend]
    rfl
  | failed e =>
    rw [hr] at hsend
    rw [run_bind_error hsend]
    rfl

/-- A change returns the count of its reply. -/
theorem run_change (s : Session) (sql : String) (params : List Value) :
    (change sql params).run s = ((s.reply ⟨sql, params⟩).count, s.logged ⟨sql, params⟩) := by
  have hsend := run_send s ⟨sql, params⟩
  unfold change
  cases hr : s.reply ⟨sql, params⟩ with
  | rows set =>
    rw [hr] at hsend
    rw [run_bind_ok hsend]
    rfl
  | affected n =>
    rw [hr] at hsend
    rw [run_bind_ok hsend]
    rfl
  | failed e =>
    rw [hr] at hsend
    rw [run_bind_error hsend]
    rfl

/-- A statement that is accepted. -/
theorem run_run {s : Session} {sql : String} (h : (s.reply ⟨sql, []⟩).Succeeds) :
    (run sql).run s = (.ok (), s.logged ⟨sql, []⟩) := by
  have hresult : (s.reply ⟨sql, []⟩).result = .ok (s.reply ⟨sql, []⟩) := by
    cases hr : s.reply ⟨sql, []⟩ with
    | rows set => rfl
    | affected n => rfl
    | failed e => exact absurd hr (h e)
  have hsend := run_send s ⟨sql, []⟩
  rw [hresult] at hsend
  unfold run
  rw [run_bind_ok hsend]
  rfl

/-- A statement that is refused. -/
theorem run_run_failed {s : Session} {sql : String} {e : DatabaseError}
    (h : s.reply ⟨sql, []⟩ = .failed e) : (run sql).run s = (.error e, s.logged ⟨sql, []⟩) := by
  have hsend := run_send s ⟨sql, []⟩
  rw [h] at hsend
  exact run_bind_error hsend

/-! ## Transactions -/

/-- An accepted statement sets the transaction flag. -/
theorem run_setTransaction {s : Session} {sql : String} (h : (s.reply ⟨sql, []⟩).Succeeds)
    (isOpen : Bool) : (setTransaction sql isOpen).run s =
      (.ok (), { s.logged ⟨sql, []⟩ with inTransaction := isOpen }) := by
  unfold setTransaction
  rw [run_bind_ok (run_run h)]
  rfl

/-- A refused one leaves it. -/
theorem run_setTransaction_failed {s : Session} {sql : String} {e : DatabaseError}
    (isOpen : Bool) (h : s.reply ⟨sql, []⟩ = .failed e) :
    (setTransaction sql isOpen).run s = (.error e, s.logged ⟨sql, []⟩) :=
  run_bind_error (run_run_failed h)

/-- BEGIN on a transactional engine. -/
theorem run_begin {s : Session} (h : s.engine.Transactional) :
    begin.run s = (.ok (), { s.logged s.engine.beginRequest with inTransaction := true }) := by
  have hset : (setTransaction s.engine.beginText true).run s =
      (.ok (), { s.logged s.engine.beginRequest with inTransaction := true }) :=
    run_setTransaction (h.begins s.log) true
  exact hset

/-- COMMIT on a transactional engine. -/
theorem run_commit {s : Session} (h : s.engine.Transactional) :
    commit.run s = (.ok (), { s.logged commitRequest with inTransaction := false }) :=
  run_setTransaction (h.commits s.log) false

/-- ROLLBACK on a transactional engine. -/
theorem run_rollback {s : Session} (h : s.engine.Transactional) :
    rollback.run s = (.ok (), { s.logged rollbackRequest with inTransaction := false }) :=
  run_setTransaction (h.rollsBack s.log) false

end Session

end Snowbridge
