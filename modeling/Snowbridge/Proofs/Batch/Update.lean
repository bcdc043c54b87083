import Snowbridge.Proofs.Batch.Identifier

/-!
# Updates by identifier

How an update by identifiers may go. Its statement and the query that reads its rows back are
planned before anything is sent (`UpdatePlan`); then the replies decide, one after another, whether
it is undone, fails with its query or is kept (`UpdateCourse`).
-/

namespace Snowbridge.Batch.Setup

variable {s : Setup} {p : Progress} {ids : List Identifier} {query : String × List Value}

/-- The statement of an update. -/
def updateRequest (s : Setup) (ids : List Identifier) (fields : Record) (filter : Option String)
    (named : Filter.Named) : Except BatchError Request := do
  let sets ← updateFields s.table fields
  let f ← s.predicate filter named
  let (sql, params) ← scope s.table ids f
  .ok ⟨updateText s.table sets sql, sets.map Prod.snd ++ params⟩

/-- Reads the rows of an update back and ends it. -/
def readBackIds (s : Setup) (ids : List Identifier) : Work Outcome := do
  let (sql, params) ← lift (scope s.table ids none)
  let o ← s.fetchByIds ids sql params
  s.commitOpen
  s.settle "update" o

/-- An update checks everything before its statement, so its checks come first and its effects are
`stageChange` and `readBackIds`. -/
theorem updateByIds_eq (s : Setup) (ids : List Identifier) (fields : Record)
    (filter : Option String) (named : Filter.Named) :
    s.updateByIds ids fields filter named = (do
      lift (s.checkLimit ids.length)
      if ids.isEmpty then return {}
      let change ← lift (s.updateRequest ids fields filter named)
      setPhase .staging
      s.stageChange ids.length change
      s.readBackIds ids) := by
  -- the checks before the first request are one computation without the session
  simp only [updateByIds, updateRequest, stageChange, lift_bind, bind_assoc]
  rfl

/-- A refused read-back ends the update at once: no COMMIT and no ROLLBACK follow. -/
theorem runs_readBackIds_error (hquery : scope s.table ids none = .ok query) {e : DatabaseError}
    (hrows : (p.reply (s.selectRequest query)).rowSet = .error e) :
    Runs (s.readBackIds ids) p (.error (.database e)) [s.selectRequest query] p.isOpen
      (p.logged (s.selectRequest query)) :=
  runs_lift_bind hquery (s.runs_fetchByIds_error ids hrows).bind_error

/-- An answered read-back is followed by COMMIT, whatever rows it has found. -/
theorem runs_readBackIds (h : p.session.engine.Transactional)
    (hquery : scope s.table ids none = .ok query) {rows : RowSet} {results : List RecordOutcome}
    (hrows : (p.reply (s.selectRequest query)).rowSet = .ok rows)
    (hresults : reconcile s.table ids rows = .ok results) :
    ∃ q, Runs (s.readBackIds ids) p (s.answer "update" { results := results })
      (s.selectRequest query :: committing p.isOpen) false q := by
  have hfetch := runs_fetchByIds hrows hresults
  obtain ⟨q, hend⟩ := runs_commitOpen_settle (s := s) (p := p.logged (s.selectRequest query)) h
    "update" { results := results }
  exact ⟨q, runs_lift_bind hquery (hfetch.bind hend)⟩

/-- The answer to the query that reads the rows of an update back. -/
def readBackReply (s : Setup) (p : Progress) (change : Request) (query : String × List Value) :
    Reply :=
  p.replyAfter (s.opening p ++ [change]) (s.selectRequest query)

/-- What an update sends once it is accepted: the statement that changes the rows of some
identifiers, and the query that reads them back. -/
structure UpdatePlan (s : Setup) (ids : List Identifier) (fields : Record)
    (filter : Option String) (named : Filter.Named) (change : Request)
    (query : String × List Value) : Prop where
  limit : s.checkLimit ids.length = .ok ()
  nonempty : ids.isEmpty = false
  change : s.updateRequest ids fields filter named = .ok change
  query : scope s.table ids none = .ok query

section Plan

variable {fields : Record} {filter : Option String} {named : Filter.Named} {change : Request}

/-- Inversion of `updateRequest`: the assignments, the filter and the scope of the statement. -/
theorem exists_of_updateRequest (h : s.updateRequest ids fields filter named = .ok change) :
    ∃ sets f target, updateFields s.table fields = .ok sets ∧
      s.predicate filter named = .ok f ∧ scope s.table ids f = .ok target ∧
      change = ⟨updateText s.table sets target.1, sets.map Prod.snd ++ target.2⟩ := by
  unfold updateRequest at h
  cases hsets : updateFields s.table fields with
  | error e => simp [hsets, bind, Except.bind] at h
  | ok sets =>
    cases hf : s.predicate filter named with
    | error e => simp [hsets, hf, bind, Except.bind] at h
    | ok f =>
      cases hscope : scope s.table ids f with
      | error e => simp [hsets, hf, hscope, bind, Except.bind] at h
      | ok target =>
        simp only [hsets, hf, hscope, bind, Except.bind, Except.ok.injEq] at h
        exact ⟨sets, f, target, rfl, rfl, hscope, h.symm⟩

/-- The statement of an update is a write. -/
theorem isWrite_of_updateRequest (h : s.updateRequest ids fields filter named = .ok change) :
    isWrite change = true := by
  obtain ⟨sets, f, target, -, -, -, rfl⟩ := exists_of_updateRequest h
  rw [isWrite, startsWith_updateText, Bool.or_true, Bool.true_or]

/-- An accepted update has a plan: identifiers that fit with a filter also fit without one. -/
theorem exists_updatePlan (hlimit : s.checkLimit ids.length = .ok ())
    (hnonempty : ids.isEmpty = false)
    (hchange : s.updateRequest ids fields filter named = .ok change) :
    ∃ query, UpdatePlan s ids fields filter named change query := by
  obtain ⟨sets, f, target, -, -, hscope, -⟩ := exists_of_updateRequest hchange
  obtain ⟨query, hquery⟩ := exists_scope_of_subset (g := none) hscope fun id hid => hid
  exact ⟨query, hlimit, hnonempty, hchange, hquery⟩

/-- The plan of an update is unique. -/
theorem UpdatePlan.unique {change' : Request} {query' : String × List Value}
    (plan : UpdatePlan s ids fields filter named change query)
    (plan' : UpdatePlan s ids fields filter named change' query') :
    change' = change ∧ query' = query := by
  constructor
  · exact Except.ok.inj (plan'.change.symm.trans plan.change)
  · exact Except.ok.inj (plan'.query.symm.trans plan.query)

/-- Without a plan an update sends nothing. -/
theorem runs_updateByIds_refused
    (hrefused : ¬∃ change query, UpdatePlan s ids fields filter named change query) :
    ∃ r, Runs (s.updateByIds ids fields filter named) p r [] p.isOpen p := by
  rw [updateByIds_eq]
  cases hlimit : s.checkLimit ids.length with
  | error e => exact ⟨_, runs_lift_error rfl⟩
  | ok _ =>
    cases hempty : ids.isEmpty with
    | true => exact ⟨_, runs_lift_bind rfl (runs_pure _ p)⟩
    | false =>
      cases hchange : s.updateRequest ids fields filter named with
      | error e => exact ⟨_, runs_lift_bind rfl (runs_lift_error rfl)⟩
      | ok change =>
        obtain ⟨query, hplan⟩ := exists_updatePlan hlimit hempty hchange
        exact absurd ⟨change, query, hplan⟩ hrefused

/-- With a plan an update is `stageChange` followed by `readBackIds`. -/
theorem UpdatePlan.runs (plan : UpdatePlan s ids fields filter named change query)
    {r : Except BatchError Outcome} {sent : List Request} {b : Bool} {q : Progress}
    (hrun : Runs (s.stageChange ids.length change >>= fun _ => s.readBackIds ids)
      { p with phase := .staging } r sent b q) :
    Runs (s.updateByIds ids fields filter named) p r sent b q := by
  rw [updateByIds_eq]
  refine runs_lift_bind plan.limit ?_
  rw [plan.nonempty]
  exact runs_lift_bind plan.change ((runs_setPhase .staging p).bind_silent hrun)

/-- An UPDATE that does not change one row for each identifier is rolled back. -/
theorem UpdatePlan.runs_undone (h : p.session.engine.Transactional)
    (plan : UpdatePlan s ids fields filter named change query)
    (hcount : (p.replyAfter (s.opening p) change).count ≠ .ok ids.length) :
    ∃ e q, Runs (s.updateByIds ids fields filter named) p (.error e)
      (s.opening p ++ (change :: undoing (s.policy.rollsBack || p.isOpen))) false q := by
  obtain ⟨q, hchange⟩ := runs_stageChange_error (s := s) (p := { p with phase := .staging }) h
    hcount
  exact ⟨_, q, plan.runs hchange.bind_error⟩

/-- An UPDATE that is accepted but whose read-back is refused: the transaction stays open. -/
theorem UpdatePlan.runs_unread (h : p.session.engine.Transactional)
    (plan : UpdatePlan s ids fields filter named change query) {e : DatabaseError}
    (hcount : (p.replyAfter (s.opening p) change).count = .ok ids.length)
    (hrows : (s.readBackReply p change query).rowSet = .error e) :
    ∃ q, Runs (s.updateByIds ids fields filter named) p (.error (.database e))
      (s.opening p ++ [change] ++ [s.selectRequest query]) (s.policy.rollsBack || p.isOpen) q := by
  obtain ⟨q, hchange⟩ := runs_stageChange (s := s) (p := { p with phase := .staging }) h hcount
  have hfailed : (q.reply (s.selectRequest query)).rowSet = .error e := by
    rw [hchange.reply]
    exact hrows
  have hread := runs_readBackIds_error plan.query hfailed
  rw [hchange.flag] at hread
  exact ⟨_, plan.runs (hchange.bind hread)⟩

/-- An UPDATE that is accepted and read back is committed, even if rows are missing from the
read-back. -/
theorem UpdatePlan.runs_kept (h : p.session.engine.Transactional)
    (plan : UpdatePlan s ids fields filter named change query) {rows : RowSet}
    {results : List RecordOutcome}
    (hcount : (p.replyAfter (s.opening p) change).count = .ok ids.length)
    (hrows : (s.readBackReply p change query).rowSet = .ok rows)
    (hresults : reconcile s.table ids rows = .ok results) :
    ∃ q, Runs (s.updateByIds ids fields filter named) p
      (s.answer "update" { results := results })
      (s.opening p ++ [change] ++ (s.selectRequest query ::
        committing (s.policy.rollsBack || p.isOpen))) false q := by
  obtain ⟨q, hchange⟩ := runs_stageChange (s := s) (p := { p with phase := .staging }) h hcount
  have hread : (q.reply (s.selectRequest query)).rowSet = .ok rows := by
    rw [hchange.reply]
    exact hrows
  obtain ⟨q', hend⟩ := runs_readBackIds (s := s) (hchange.engine ▸ h) plan.query hread hresults
  rw [hchange.flag] at hend
  exact ⟨q', plan.runs (hchange.bind hend)⟩

/-- How an update may go, by its answer, its requests and whether a transaction is open at the end:
it has no plan, its statement does not change what it should, its rows cannot be read back, or it is
kept. -/
inductive UpdateCourse (s : Setup) (p : Progress) (ids : List Identifier) (fields : Record)
    (filter : Option String) (named : Filter.Named) :
    Except BatchError Outcome → List Request → Bool → Prop where
  | refused (r : Except BatchError Outcome)
      (hrefused : ¬∃ change query, UpdatePlan s ids fields filter named change query) :
      UpdateCourse s p ids fields filter named r [] p.isOpen
  | undone {change : Request} {query : String × List Value} (e : BatchError)
      (plan : UpdatePlan s ids fields filter named change query)
      (hcount : (p.replyAfter (s.opening p) change).count ≠ .ok ids.length) :
      UpdateCourse s p ids fields filter named (.error e)
        (s.opening p ++ (change :: undoing (s.policy.rollsBack || p.isOpen))) false
  | unread {change : Request} {query : String × List Value} {e : DatabaseError}
      (plan : UpdatePlan s ids fields filter named change query)
      (hcount : (p.replyAfter (s.opening p) change).count = .ok ids.length)
      (hrows : (s.readBackReply p change query).rowSet = .error e) :
      UpdateCourse s p ids fields filter named (.error (.database e))
        (s.opening p ++ [change] ++ [s.selectRequest query]) (s.policy.rollsBack || p.isOpen)
  | kept {change : Request} {query : String × List Value} {rows : RowSet}
      {results : List RecordOutcome}
      (plan : UpdatePlan s ids fields filter named change query)
      (hcount : (p.replyAfter (s.opening p) change).count = .ok ids.length)
      (hrows : (s.readBackReply p change query).rowSet = .ok rows)
      (hresults : reconcile s.table ids rows = .ok results) :
      UpdateCourse s p ids fields filter named (s.answer "update" { results := results })
        (s.opening p ++ [change] ++ (s.selectRequest query ::
          committing (s.policy.rollsBack || p.isOpen))) false

/-- Every run of an update takes one of the courses of `UpdateCourse`. -/
theorem runs_updateByIds (h : p.session.engine.Transactional) (ids : List Identifier)
    (fields : Record) (filter : Option String) (named : Filter.Named) :
    ∃ r sent b q, Runs (s.updateByIds ids fields filter named) p r sent b q ∧
      UpdateCourse s p ids fields filter named r sent b := by
  -- without a plan nothing is sent; with one the two replies decide
  by_cases hplan : ∃ change query, UpdatePlan s ids fields filter named change query
  · obtain ⟨change, query, plan⟩ := hplan
    by_cases hcount : (p.replyAfter (s.opening p) change).count = .ok ids.length
    · cases hrows : (s.readBackReply p change query).rowSet with
      | error e =>
        obtain ⟨q, hrun⟩ := plan.runs_unread h hcount hrows
        exact ⟨_, _, _, q, hrun, .unread plan hcount hrows⟩
      | ok rows =>
        obtain ⟨results, hresults⟩ := exists_reconcile plan.query rows
        obtain ⟨q, hrun⟩ := plan.runs_kept h hcount hrows hresults
        exact ⟨_, _, _, q, hrun, .kept plan hcount hrows hresults⟩
    · obtain ⟨e, q, hrun⟩ := plan.runs_undone h hcount
      exact ⟨_, _, _, q, hrun, .undone e plan hcount⟩
  · obtain ⟨r, hrun⟩ := runs_updateByIds_refused (p := p) hplan
    exact ⟨r, _, _, p, hrun, .refused r hplan⟩

end Plan

end Snowbridge.Batch.Setup
