import Snowbridge.Batch.Coordinator
import Snowbridge.Proofs.Session.Reply

/-!
# Runs of batches

What a computation of a batch does is told by its result, the requests that it sends, in order, and
whether a transaction is open at its end. A run of a computation is put together from runs of its
parts (`Runs.bind`); the steps that open, undo and commit transactions each have one run that is
known in advance, if the engine opens and closes transactions without fault.
-/

namespace Snowbridge.Batch

namespace Policy

variable {policy : Policy}

/-- `rollsBack` is the policy that undoes a batch. -/
theorem rollsBack_iff : policy.rollsBack = true ↔ policy = .rollBack := by
  rw [rollsBack, beq_iff_eq]

theorem rollsBack_of_ne (h : policy ≠ .rollBack) : policy.rollsBack = false :=
  Bool.eq_false_iff.2 fun hrollsBack => h (rollsBack_iff.1 hrollsBack)

/-- The policies that undo a batch and that go on exclude each other. -/
theorem continues_of_rollBack (h : policy = .rollBack) : policy.continues = false := by
  rw [h]
  rfl

end Policy

/-- Whether a transaction is open. -/
abbrev Progress.isOpen (p : Progress) : Bool := p.session.inTransaction

/-- The answer that a request gets. -/
abbrev Progress.reply (p : Progress) (r : Request) : Reply := p.session.reply r

/-- The answer that a request gets once others have been sent. -/
def Progress.replyAfter (p : Progress) (sent : List Request) (r : Request) : Reply :=
  p.session.engine.answer (p.session.log ++ sent) r

/-- A run of `x` from `p` to `p'` with the result `r`: the engine stays the same, `sent` is appended
to the log, and `isOpen` is the transaction flag at the end. -/
structure Runs {α : Type} (x : Work α) (p : Progress) (r : Except BatchError α)
    (sent : List Request) (isOpen : Bool) (p' : Progress) : Prop where
  run : x.run p = (r, p')
  engine : p'.session.engine = p.session.engine
  log : p'.session.log = p.session.log ++ sent
  flag : p'.isOpen = isOpen

namespace Runs

variable {α β : Type} {x : Work α} {f : α → Work β} {p q p' : Progress} {a : α}
  {r : Except BatchError β} {xs ys : List Request} {b b' : Bool}

/-! ## Composition -/

/-- Sequencing: the requests of the first part come before those of the rest. -/
theorem bind (hx : Runs x p (.ok a) xs b q) (hf : Runs (f a) q r ys b' p') :
    Runs (x >>= f) p r (xs ++ ys) b' p' := by
  refine ⟨?_, ?_, ?_, hf.flag⟩
  · rw [run_bind_ok hx.run, hf.run]
  · rw [hf.engine, hx.engine]
  · rw [hf.log, hx.log, List.append_assoc]

/-- A fault in the first part ends the computation: the rest sends nothing. -/
theorem bind_error {e : BatchError} (hx : Runs x p (.error e) xs b q) :
    Runs (x >>= f) p (.error e) xs b q :=
  ⟨run_bind_error hx.run, hx.engine, hx.log, hx.flag⟩

/-- Sequencing after a first part that sends nothing. -/
theorem bind_silent (hx : Runs x p (.ok a) [] b q) (hf : Runs (f a) q r ys b' p') :
    Runs (x >>= f) p r ys b' p' := by
  have hall := hx.bind hf
  rwa [List.nil_append] at hall

/-- Sequencing before a rest that sends nothing. -/
theorem bind_last (hx : Runs x p (.ok a) xs b q) (hf : Runs (f a) q r [] b' p') :
    Runs (x >>= f) p r xs b' p' := by
  have hall := hx.bind hf
  rwa [List.append_nil] at hall

/-- The engine answers by its log, so the answer after a run is fixed by what the run has sent. -/
theorem reply {x : Work α} {r : Except BatchError α} (h : Runs x p r xs b q) (req : Request) :
    q.reply req = p.replyAfter xs req := by
  rw [Progress.reply, Session.reply, h.engine, h.log, Progress.replyAfter]

end Runs

/-! ## Parts that send nothing -/

theorem runs_pure {α : Type} (a : α) (p : Progress) : Runs (pure a) p (.ok a) [] p.isOpen p :=
  ⟨rfl, rfl, (List.append_nil _).symm, rfl⟩

theorem runs_throw {α : Type} (e : BatchError) (p : Progress) :
    Runs (throw e : Work α) p (.error e) [] p.isOpen p :=
  ⟨rfl, rfl, (List.append_nil _).symm, rfl⟩

theorem runs_lift {α : Type} (e : Except BatchError α) (p : Progress) :
    Runs (lift e) p e [] p.isOpen p :=
  ⟨rfl, rfl, (List.append_nil _).symm, rfl⟩

/-- `lift` commutes with bind: checks without the session may be made one at a time. -/
theorem lift_bind {α β : Type} (x : Except BatchError α) (f : α → Except BatchError β) :
    lift (x >>= f) = lift x >>= fun a => lift (f a) := by
  cases x with
  | error e => rfl
  | ok a => rfl

/-- A check that passes sends nothing, and the computation goes on with its result. -/
theorem runs_lift_bind {α β : Type} {x : Except BatchError α} {f : α → Work β} {p q : Progress}
    {a : α} {r : Except BatchError β} {sent : List Request} {b : Bool} (hx : x = .ok a)
    (hf : Runs (f a) p r sent b q) : Runs (lift x >>= f) p r sent b q := by
  rw [hx]
  exact (runs_lift (.ok a) p).bind_silent hf

/-- A check that fails ends the computation before anything is sent. -/
theorem runs_lift_error {α β : Type} {x : Except BatchError α} {f : α → Work β} {p : Progress}
    {e : BatchError} (hx : x = .error e) : Runs (lift x >>= f) p (.error e) [] p.isOpen p := by
  rw [hx]
  exact (runs_lift (.error e) p).bind_error

theorem runs_get (p : Progress) : Runs get p (.ok p) [] p.isOpen p :=
  ⟨rfl, rfl, (List.append_nil _).symm, rfl⟩

theorem runs_inTransaction (p : Progress) : Runs inTransaction p (.ok p.isOpen) [] p.isOpen p :=
  ⟨rfl, rfl, (List.append_nil _).symm, rfl⟩

theorem runs_setPhase (phase : Phase) (p : Progress) :
    Runs (setPhase phase) p (.ok ()) [] p.isOpen { p with phase := phase } :=
  ⟨rfl, rfl, (List.append_nil _).symm, rfl⟩

theorem runs_notify (n : Notice) (p : Progress) : ∃ q, Runs (notify n) p (.ok ()) [] p.isOpen q :=
  ⟨_, rfl, rfl, (List.append_nil _).symm, rfl⟩

/-! ## Requests -/

/-- The state after a request. -/
def Progress.logged (p : Progress) (r : Request) : Progress :=
  { p with session := p.session.logged r }

/-- A call on the session as a step of a batch; its fault is returned as a value. -/
theorem runs_onSession {α : Type} {c : Call DatabaseError α} {result : Except DatabaseError α}
    {p : Progress} {s : Session} {sent : List Request} (h : c.run p.session = (result, s))
    (hengine : s.engine = p.session.engine) (hlog : s.log = p.session.log ++ sent) :
    Runs (onSession c) p (.ok result) sent s.inTransaction { p with session := s } := by
  refine ⟨?_, hengine, hlog, rfl⟩
  show (Except.ok (c.run p.session).1, { p with session := (c.run p.session).2 }) = _
  rw [h]

/-- A change sends its statement and returns the count that the engine gives. -/
theorem runs_change (r : Request) (p : Progress) :
    Runs (onSession (Session.change r.sql r.params)) p (.ok (p.reply r).count) [r] p.isOpen
      (p.logged r) :=
  runs_onSession (Session.run_change p.session r.sql r.params) rfl rfl

/-- A call on the session that succeeds, as a step of a batch. -/
theorem runs_call {α : Type} {c : Call DatabaseError α} {a : α} {p : Progress} {s : Session}
    {sent : List Request} (h : c.run p.session = (.ok a, s))
    (hengine : s.engine = p.session.engine) (hlog : s.log = p.session.log ++ sent) :
    Runs (call c) p (.ok a) sent s.inTransaction { p with session := s } := by
  unfold call
  exact (runs_onSession h hengine hlog).bind_last (runs_pure a _)

/-- A call on the session that fails ends the batch with a database fault. -/
theorem runs_call_error {α : Type} {c : Call DatabaseError α} {e : DatabaseError} {p : Progress}
    {s : Session} {sent : List Request} (h : c.run p.session = (.error e, s))
    (hengine : s.engine = p.session.engine) (hlog : s.log = p.session.log ++ sent) :
    Runs (call c) p (.error (.database e)) sent s.inTransaction { p with session := s } := by
  unfold call
  exact (runs_onSession h hengine hlog).bind_last (runs_throw (.database e) _)

/-- `call` depends on a computation only through its run from the present session. -/
theorem Runs.call_congr {α : Type} {c c' : Call DatabaseError α} {p q : Progress}
    {r : Except BatchError α} {sent : List Request} {b : Bool}
    (hrun : Runs (call c) p r sent b q) (h : c'.run p.session = c.run p.session) :
    Runs (call c') p r sent b q := by
  have hcall : ∀ c : Call DatabaseError α, (onSession c).run p =
      (.ok (c.run p.session).1, { p with session := (c.run p.session).2 }) := fun _ => rfl
  -- only the run of the call enters `onSession`
  have hsame : (onSession c').run p = (onSession c).run p := by
    rw [hcall, hcall, h]
  refine ⟨?_, hrun.engine, hrun.log, hrun.flag⟩
  rw [← hrun.run, call, run_bind_ok (hsame.trans (hcall c)), call, run_bind_ok (hcall c)]

/-! ## Transactions -/

/-- BEGIN, COMMIT and ROLLBACK keep the phase. An accepted one sets the transaction flag, a refused
one leaves it. -/
theorem runs_transact (sql : String) (isOpen : Bool) (p : Progress) :
    ((p.reply ⟨sql, []⟩).isFailed = false ∧
      ∃ q, Runs (call (Session.setTransaction sql isOpen)) p (.ok ()) [⟨sql, []⟩] isOpen q ∧
        q.phase = p.phase) ∨
    ((p.reply ⟨sql, []⟩).isFailed = true ∧
      ∃ e q, Runs (call (Session.setTransaction sql isOpen)) p (.error (.database e)) [⟨sql, []⟩]
        p.isOpen q ∧ q.phase = p.phase) := by
  cases hfailed : (p.reply ⟨sql, []⟩).isFailed with
  | false =>
    have hset := Session.run_setTransaction (Reply.succeeds_iff.2 hfailed) isOpen
    exact .inl ⟨rfl, _, runs_call hset rfl rfl, rfl⟩
  | true =>
    obtain ⟨e, hreply⟩ := Reply.isFailed_iff.1 hfailed
    have hset := Session.run_setTransaction_failed isOpen hreply
    exact .inr ⟨rfl, e, p.logged ⟨sql, []⟩, runs_call_error hset rfl rfl, rfl⟩

/-- BEGIN, COMMIT and ROLLBACK send one statement each, accepted or refused. -/
theorem exists_runs_transact (sql : String) (isOpen : Bool) (p : Progress) :
    ∃ r b q, Runs (call (Session.setTransaction sql isOpen)) p r [⟨sql, []⟩] b q := by
  rcases runs_transact sql isOpen p with ⟨-, q, hrun, -⟩ | ⟨-, e, q, hrun, -⟩
  · exact ⟨_, _, q, hrun⟩
  · exact ⟨_, _, q, hrun⟩

/-- What is sent to commit: COMMIT if a transaction is open, else nothing. -/
def committing (isOpen : Bool) : List Request := if isOpen then [commitRequest] else []

/-- What is sent to undo: ROLLBACK if a transaction is open, else nothing. -/
def undoing (isOpen : Bool) : List Request := if isOpen then [rollbackRequest] else []

/-- A property of the one request that may be sent holds of every request sent. -/
theorem forall_mem_optional {P : Request → Prop} {r : Request} (h : P r) (b : Bool) :
    ∀ r' ∈ (if b then [r] else []), P r' := by
  cases b with
  | true => exact List.forall_mem_singleton.2 h
  | false => exact List.forall_mem_nil _

namespace Setup

variable {s : Setup} {p : Progress}

/-- What is sent before the first write: BEGIN if the policy rolls back and no transaction is
open. -/
def opening (s : Setup) (p : Progress) : List Request :=
  if s.policy.rollsBack && !p.isOpen then [p.session.engine.beginRequest] else []

/-- The outcome that a rollback reports. -/
def undone (e : Engine) (isOpen : Bool) : RollbackOutcome :=
  if isOpen then if e.undoesWrites then .rolledBack else .unsupported else .nothingToUndo

theorem runs_begin (h : p.session.engine.Transactional) :
    ∃ q, Runs (call Session.begin) p (.ok ()) [p.session.engine.beginRequest] true q :=
  ⟨_, runs_call (Session.run_begin h) rfl rfl⟩

theorem runs_commit (h : p.session.engine.Transactional) :
    ∃ q, Runs (call Session.commit) p (.ok ()) [commitRequest] false q :=
  ⟨_, runs_call (Session.run_commit h) rfl rfl⟩

theorem runs_sessionRollback (h : p.session.engine.Transactional) :
    ∃ q, Runs (call Session.rollback) p (.ok ()) [rollbackRequest] false q :=
  ⟨_, runs_call (Session.run_rollback h) rfl rfl⟩

/-- `beginIfNeeded` sends `opening`, and leaves a transaction open if the policy rolls back or one
was open before. -/
theorem runs_beginIfNeeded (h : p.session.engine.Transactional) :
    ∃ q, Runs s.beginIfNeeded p (.ok ()) (s.opening p) (s.policy.rollsBack || p.isOpen) q := by
  unfold beginIfNeeded opening
  have hask := runs_inTransaction p
  cases hneed : s.policy.rollsBack && !p.isOpen with
  | true =>
    obtain ⟨hpolicy, -⟩ := Bool.and_eq_true_iff.1 hneed
    obtain ⟨q, hbegin⟩ := runs_begin h
    refine ⟨q, hask.bind_silent ?_⟩
    rw [hneed, hpolicy]
    exact hbegin
  | false =>
    -- nothing is due, because the policy asks for no transaction or one is open already
    have hflag : (s.policy.rollsBack || p.isOpen) = p.isOpen := by
      cases hopen : p.isOpen with
      | true => exact Bool.or_true _
      | false => simpa [hopen] using hneed
    refine ⟨p, hask.bind_silent ?_⟩
    rw [hneed, hflag]
    exact runs_pure () p

/-- `commitOpen` sends COMMIT if a transaction is open, and leaves none open. -/
theorem runs_commitOpen (h : p.session.engine.Transactional) :
    ∃ q, Runs s.commitOpen p (.ok ()) (committing p.isOpen) false q := by
  unfold commitOpen committing
  have hask := runs_inTransaction p
  cases hopen : p.isOpen with
  | true =>
    have hphase := runs_setPhase .committing p
    obtain ⟨q, hcommit⟩ := runs_commit (p := { p with phase := .committing }) h
    refine ⟨q, hask.bind_silent ?_⟩
    rw [hopen]
    exact hphase.bind_silent hcommit
  | false =>
    have hpure := runs_pure () p
    rw [hopen] at hpure hask
    exact ⟨p, hask.bind_silent hpure⟩

/-- The outcome of a rollback that was accepted: writes are undone, or the engine cannot undo them
and a notice says so. -/
theorem runs_tellUndone (s : Setup) (e : Engine) (q : Progress) :
    ∃ q', Runs (if e.undoesWrites then pure .rolledBack
        else notify (s.mayPersist e.name) >>= fun _ => pure .unsupported : Work RollbackOutcome) q
      (.ok (undone e true)) [] q.isOpen q' := by
  unfold undone
  cases hundo : e.undoesWrites with
  | true => exact ⟨q, runs_pure _ q⟩
  | false =>
    obtain ⟨q', hnotify⟩ := runs_notify (s.mayPersist e.name) q
    have hpure := runs_pure RollbackOutcome.unsupported q'
    rw [hnotify.flag] at hpure
    exact ⟨q', hnotify.bind_silent hpure⟩

section Undo

variable {q : Progress} {b : Bool}

/-- Without an open transaction a rollback sends nothing. -/
theorem runs_rollback_closed (hclosed : p.isOpen = false) :
    Runs s.rollback p (.ok .nothingToUndo) [] false p := by
  have hask := runs_inTransaction p
  have hpure := runs_pure RollbackOutcome.nothingToUndo p
  rw [hclosed] at hask hpure
  unfold rollback
  exact hask.bind_silent hpure

/-- A rollback whose ROLLBACK is accepted. -/
theorem runs_rollback_open (hopen : p.isOpen = true)
    (hcall : Runs (call Session.rollback) { p with phase := .rollingBack } (.ok ())
      [rollbackRequest] b q) :
    ∃ q', Runs s.rollback p (.ok (undone p.session.engine true)) [rollbackRequest] b q' := by
  have hask := runs_inTransaction p
  rw [hopen] at hask
  obtain ⟨q', htell⟩ := s.runs_tellUndone p.session.engine q
  rw [hcall.flag] at htell
  unfold rollback
  exact ⟨q', hask.bind_silent ((runs_setPhase .rollingBack p).bind_silent
    ((runs_get _).bind_silent (hcall.bind_last htell)))⟩

/-- A rollback whose ROLLBACK is refused passes the fault on. -/
theorem runs_rollback_refused {e : BatchError} (hopen : p.isOpen = true)
    (hcall : Runs (call Session.rollback) { p with phase := .rollingBack } (.error e)
      [rollbackRequest] b q) :
    Runs s.rollback p (.error e) [rollbackRequest] b q := by
  have hask := runs_inTransaction p
  rw [hopen] at hask
  unfold rollback
  exact hask.bind_silent ((runs_setPhase .rollingBack p).bind_silent
    ((runs_get _).bind_silent hcall.bind_error))

end Undo

/-- A transactional engine accepts the ROLLBACK, so no transaction stays open. -/
theorem runs_rollback (h : p.session.engine.Transactional) :
    ∃ q, Runs s.rollback p (.ok (undone p.session.engine p.isOpen)) (undoing p.isOpen) false q := by
  cases hopen : p.isOpen with
  | true =>
    obtain ⟨q, hcall⟩ := runs_sessionRollback (p := { p with phase := .rollingBack }) h
    exact runs_rollback_open hopen hcall
  | false => exact ⟨p, runs_rollback_closed hopen⟩

/-- A rollback sends ROLLBACK exactly if a transaction is open, accepted or refused. -/
theorem exists_runs_rollback (s : Setup) (p : Progress) :
    ∃ r b q, Runs s.rollback p r (undoing p.isOpen) b q := by
  cases hopen : p.isOpen with
  | true =>
    obtain ⟨r, b, q, hcall⟩ :=
      exists_runs_transact "ROLLBACK" false { p with phase := .rollingBack }
    cases r with
    | ok _ =>
      obtain ⟨q', hundo⟩ := runs_rollback_open (s := s) hopen hcall
      exact ⟨_, b, q', hundo⟩
    | error e => exact ⟨_, b, q, runs_rollback_refused hopen hcall⟩
  | false => exact ⟨_, _, p, runs_rollback_closed hopen⟩

/-- `abort` fails with its own fault even if the rollback fails: the fault of the rollback is only
logged. -/
theorem runs_abort_of_rollback {α : Type} {r : Except BatchError RollbackOutcome}
    {sent : List Request} {b : Bool} {q : Progress} (e : BatchError)
    (hundo : Runs s.rollback p r sent b q) :
    ∃ q', Runs (s.abort e : Work α) p (.error e) sent b q' ∧ q'.phase = .failed := by
  cases r with
  | ok undone =>
    refine ⟨{ q with phase := .failed }, ⟨?_, hundo.engine, hundo.log, hundo.flag⟩, rfl⟩
    unfold abort
    rw [run_bind_ok (runs_get p).run, hundo.run]
    rfl
  | error fault =>
    -- the fault of the rollback becomes a notice, and the batch fails with `e` all the same
    obtain ⟨q', htold⟩ := runs_notify
      (.failure ("Rollback after failed batch also failed: " ++ fault.message)) q
    let rest : Unit → Work α := fun _ => setPhase .failed >>= fun _ => throw e
    have hrest : Runs (rest ()) q' (.error e) [] q'.isOpen { q' with phase := .failed } :=
      (runs_setPhase .failed q').bind_silent (runs_throw e _)
    refine ⟨{ q' with phase := .failed }, ⟨?_, ?_, ?_, ?_⟩, rfl⟩
    · unfold abort
      rw [run_bind_ok (runs_get p).run, hundo.run]
      exact (run_bind_ok (f := rest) htold.run).trans hrest.run
    · exact htold.engine.trans hundo.engine
    · rw [hrest.log, htold.log, hundo.log, List.append_nil, List.append_nil]
    · exact htold.flag.trans hundo.flag

/-- On a transactional engine `abort` rolls back what is open and fails. -/
theorem runs_abort {α : Type} (h : p.session.engine.Transactional) (e : BatchError) :
    ∃ q, Runs (s.abort e : Work α) p (.error e) (undoing p.isOpen) false q := by
  obtain ⟨q, hundo⟩ := runs_rollback (s := s) h
  obtain ⟨q', habort, -⟩ := runs_abort_of_rollback (α := α) e hundo
  exact ⟨q', habort⟩

/-- On any engine `abort` fails and ends in the phase `failed`. -/
theorem exists_runs_abort {α : Type} (s : Setup) (e : BatchError) (p : Progress) :
    ∃ b q, Runs (s.abort e : Work α) p (.error e) (undoing p.isOpen) b q ∧ q.phase = .failed := by
  obtain ⟨r, b, q, hundo⟩ := s.exists_runs_rollback p
  exact ⟨b, runs_abort_of_rollback e hundo⟩

/-! ## Ends -/

/-- The answer of a batch: its outcome if all records succeeded or failures are tolerated, else the
aggregate of the failures. -/
def answer (s : Setup) (action : String) (o : Outcome) : Except BatchError Outcome :=
  if o.isSuccess || s.policy.continues then .ok o else .error (s.aggregate action o)

theorem answer_of_done {action : String} {o : Outcome}
    (hdone : (o.isSuccess || s.policy.continues) = true) : s.answer action o = .ok o := by
  rw [answer, if_pos hdone]

/-- `settle` sends nothing and gives the answer. -/
theorem runs_settle (action : String) (o : Outcome) (p : Progress) :
    ∃ q, Runs (s.settle action o) p (s.answer action o) [] p.isOpen q := by
  unfold settle answer
  cases hdone : o.isSuccess || s.policy.continues with
  | true =>
    exact ⟨_, (runs_setPhase .done p).bind_silent (runs_pure o _)⟩
  | false =>
    exact ⟨_, (runs_setPhase .failed p).bind_silent (runs_throw (s.aggregate action o) _)⟩

end Setup

end Snowbridge.Batch
