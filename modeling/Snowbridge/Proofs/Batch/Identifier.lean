import Snowbridge.Proofs.Batch.Command
import Snowbridge.Proofs.Batch.Work

/-!
# Batches by identifier

The steps of batches by identifier: the query of the rows that some identifiers name, the rows that
it fetches, and a statement that has to change a number of rows. A batch that only retrieves rows is
made of the first two.
-/

namespace Snowbridge.Batch

open Catalog (Column)

/-! ## Scopes -/

/-- No identifier misfits exactly if each has one value for each key column. -/
theorem misfit?_eq_none_iff {keys : List Column} {index : Nat} {ids : List Identifier} :
    misfit? keys index ids = none ↔ ∀ id ∈ ids, id.length = keys.length := by
  induction ids generalizing index with
  | nil => simp [misfit?]
  | cons id ids ih =>
    by_cases hid : id.length = keys.length
    · simp [misfit?, hid, ih]
    · simp [misfit?, hid]

/-- A scope exists exactly if the table has a key and every identifier has its length. -/
theorem scope_eq_ok_iff {t : Catalog.Table} {ids : List Identifier}
    {filter : Option Filter.Predicate} :
    (∃ query, scope t ids filter = .ok query) ↔
      ∃ keys, keyColumns t = .ok keys ∧ ∀ id ∈ ids, id.length = keys.length := by
  unfold scope
  cases hkeys : keyColumns t with
  | error e => simp [bind, Except.bind]
  | ok keys =>
    cases hmisfit : misfit? keys 0 ids with
    | some e =>
      have hsome : ¬∀ id ∈ ids, id.length = keys.length := by
        intro hall
        have hnone : misfit? keys 0 ids = none := misfit?_eq_none_iff.2 hall
        rw [hmisfit] at hnone
        cases hnone
      simpa [bind, Except.bind, hmisfit] using hsome
    | none =>
      have hall := misfit?_eq_none_iff.1 hmisfit
      cases filter with
      | none => simpa [bind, Except.bind, hmisfit] using hall
      | some f => simpa [bind, Except.bind, hmisfit] using hall

/-- `n` values for each identifier make `ids.length * n` values in all. -/
theorem length_flatten_of_forall {ids : List Identifier} {n : Nat}
    (h : ∀ id ∈ ids, id.length = n) : ids.flatten.length = ids.length * n := by
  rw [List.length_flatten, List.map_congr_left h, List.map_const', List.sum_replicate_nat]

/-- What a filter adds to the predicate of some identifiers. -/
def narrowing : Option Filter.Predicate → String
  | none => ""
  | some f => " AND (" ++ f.sql ++ ")"

/-- The values of a filter. -/
def filterValues (f : Option Filter.Predicate) : List Value :=
  (f.map Filter.Predicate.params).getD []

/-- Inversion of `scope`: the predicate compares the key once for each identifier and then adds the
filter, and the values come in the same order. -/
theorem exists_of_scope {t : Catalog.Table} {ids : List Identifier}
    {f : Option Filter.Predicate} {query : String × List Value}
    (h : scope t ids f = .ok query) :
    ∃ keys, keyColumns t = .ok keys ∧ (∀ id ∈ ids, id.length = keys.length) ∧
      query = (idPredicate keys ids.length ++ narrowing f, ids.flatten ++ filterValues f) := by
  obtain ⟨keys, hkeys, hall⟩ := scope_eq_ok_iff.1 ⟨query, h⟩
  have hmisfit : misfit? keys 0 ids = none := misfit?_eq_none_iff.2 hall
  refine ⟨keys, hkeys, hall, ?_⟩
  unfold scope at h
  cases f with
  | none =>
    simp only [hkeys, hmisfit, bind, Except.bind, Except.ok.injEq] at h
    simp [← h, narrowing, filterValues]
  | some p =>
    simp only [hkeys, hmisfit, bind, Except.bind, Except.ok.injEq] at h
    simp [← h, narrowing, filterValues, String.append_assoc]

/-- Rows can be matched to any identifiers that have a scope. -/
theorem exists_reconcile {t : Catalog.Table} {ids : List Identifier}
    {filter : Option Filter.Predicate} {query : String × List Value}
    (h : scope t ids filter = .ok query) (rows : RowSet) :
    ∃ results, reconcile t ids rows = .ok results := by
  obtain ⟨keys, hkeys, -⟩ := scope_eq_ok_iff.1 ⟨query, h⟩
  exact ⟨matchRows keys rows.toList 0 ids, by rw [reconcile, hkeys]; rfl⟩

/-- Matching has a failure exactly if some identifier has no row. -/
theorem not_isSuccess_matchRows {keys : List Column} {rows : List Row} {index : Nat}
    {ids : List Identifier} :
    (matchRows keys rows index ids).all RecordOutcome.isSuccess = false ↔
      ∃ id ∈ ids, rowFor? keys rows id = none := by
  induction ids generalizing index with
  | nil => simp [matchRows]
  | cons id ids ih =>
    cases hrow : rowFor? keys rows id with
    | none => simp [matchRows, hrow, RecordOutcome.isSuccess]
    | some row => simp [matchRows, hrow, RecordOutcome.isSuccess, ih]

/-- `reconcile` gives a failure exactly if some identifier has no row. -/
theorem not_isSuccess_reconcile {t : Catalog.Table} {ids : List Identifier} {rows : RowSet}
    {results : List RecordOutcome} (h : reconcile t ids rows = .ok results) :
    results.all RecordOutcome.isSuccess = false ↔
      ∃ keys, keyColumns t = .ok keys ∧ ∃ id ∈ ids, rowFor? keys rows.toList id = none := by
  unfold reconcile at h
  cases hkeys : keyColumns t with
  | error e =>
    rw [hkeys] at h
    cases h
  | ok keys =>
    rw [hkeys] at h
    have hresults : matchRows keys rows.toList 0 ids = results := Except.ok.inj h
    rw [← hresults, not_isSuccess_matchRows]
    constructor
    · intro hmissing
      exact ⟨keys, rfl, hmissing⟩
    · rintro ⟨keys', hkeys', hmissing⟩
      rw [Except.ok.inj hkeys']
      exact hmissing

/-- The entry of an identifier with a number: its row, or that it has none. -/
def entryFor (keys : List Column) (rows : List Row) (index : Nat) (id : Identifier) :
    RecordOutcome :=
  match rowFor? keys rows id with
  | some row => .success row.record
  | none => .failed (.notFound index)

/-- `matchRows` is a map: the entry of an identifier depends on no other identifier. -/
theorem matchRows_eq_map (keys : List Column) (rows : List Row) (index : Nat)
    (ids : List Identifier) : matchRows keys rows index ids =
      (ids.zipIdx index).map fun numbered => entryFor keys rows numbered.2 numbered.1 := by
  induction ids generalizing index with
  | nil => rfl
  | cons id ids ih => rw [matchRows, ih, List.zipIdx_cons, List.map_cons]; rfl

/-- A part of identifiers that have a scope has one too, under any filter. -/
theorem exists_scope_of_subset {t : Catalog.Table} {ids found : List Identifier}
    {f g : Option Filter.Predicate} {query : String × List Value}
    (h : scope t ids f = .ok query) (hsub : ∀ id ∈ found, id ∈ ids) :
    ∃ query, scope t found g = .ok query := by
  obtain ⟨keys, hkeys, hall⟩ := scope_eq_ok_iff.1 ⟨query, h⟩
  exact scope_eq_ok_iff.2 ⟨keys, hkeys, fun id hid => hall id (hsub id hid)⟩

/-! ## Faults -/

/-- A fault about the number of rows that a statement has changed. -/
def IsMismatch (e : BatchError) : Prop :=
  ∃ expected actual, e = .writeCountMismatch expected actual

/-- The fault of a misfit is not about a number of changed rows. -/
theorem not_isMismatch_misfit {keys : List Column} {index : Nat} {e : BatchError}
    (h : misfit? keys index ids = some e) : ¬IsMismatch e := by
  rintro ⟨expected, actual, rfl⟩
  induction ids generalizing index with
  | nil => cases h
  | cons id ids ih =>
    simp only [misfit?] at h
    split at h
    · exact ih h
    · cases h

/-! ## Fetched rows -/

/-- What a batch has fetched: its filter and its query, the key of its table and the rows. -/
structure Fetch where
  predicate : Option Filter.Predicate
  query : String × List Value
  keys : List Column
  rows : RowSet

namespace Fetch

variable (fetch : Fetch)

/-- The row of an identifier. -/
def row? (id : Identifier) : Option Row := rowFor? fetch.keys fetch.rows.toList id

/-- The identifiers that have a row. -/
def matched (ids : List Identifier) : List Identifier := ids.filter fun id => (fetch.row? id).isSome

/-- What was found for each identifier. -/
def outcome (ids : List Identifier) : Outcome :=
  { results := matchRows fetch.keys fetch.rows.toList 0 ids }

/-- What is told of the identifier with a number: its row, or that it has none. -/
def resultOf (index : Nat) (id : Identifier) : RecordOutcome :=
  match fetch.row? id with
  | some row => .success row.record
  | none => .failed (.notFound index)

/-- The entries of matched rows, said by `resultOf`. -/
theorem matchRows_eq (index : Nat) (ids : List Identifier) :
    matchRows fetch.keys fetch.rows.toList index ids =
      (ids.zipIdx index).map fun entry => fetch.resultOf entry.2 entry.1 :=
  matchRows_eq_map fetch.keys fetch.rows.toList index ids

/-- The outcome has one entry for each identifier, at its index. -/
theorem results_outcome (ids : List Identifier) :
    (fetch.outcome ids).results = ids.zipIdx.map fun entry => fetch.resultOf entry.2 entry.1 :=
  fetch.matchRows_eq 0 ids

/-- An entry is a success exactly if its identifier has a row. -/
theorem isSuccess_resultOf (index : Nat) (id : Identifier) :
    (fetch.resultOf index id).isSuccess = (fetch.row? id).isSome := by
  unfold resultOf
  cases fetch.row? id <;> rfl

/-- The outcome is no success exactly if some identifier has no row. -/
theorem isSuccess_outcome (ids : List Identifier) :
    (fetch.outcome ids).isSuccess = false ↔ ∃ id ∈ ids, fetch.row? id = none :=
  not_isSuccess_matchRows

end Fetch

namespace Setup

variable {s : Setup} {p : Progress}

/-! ## Steps -/

section Change

variable {expected : Nat} {r : Request}

/-- A statement that changes the expected number of rows succeeds. -/
theorem runs_changeExactly (hcount : (p.reply r).count = .ok expected) :
    Runs (s.changeExactly expected r) p (.ok ()) [r] p.isOpen (p.logged r) := by
  have hchange := runs_change r p
  rw [hcount] at hchange
  unfold changeExactly
  refine hchange.bind_last ?_
  dsimp only
  rw [if_neg (not_not_intro rfl)]
  exact runs_pure () _

/-- The fault of a statement that should change `expected` rows: the fault of the engine, or the two
counts. -/
def changeFault (expected : Nat) : Except DatabaseError Nat → BatchError
  | .error e => .database e
  | .ok affected => .writeCountMismatch expected affected

/-- A statement that fails or changes another number of rows rolls back what is open. -/
theorem runs_changeExactly_error (h : p.session.engine.Transactional)
    (hcount : (p.reply r).count ≠ .ok expected) :
    ∃ q, Runs (s.changeExactly expected r) p (.error (changeFault expected (p.reply r).count))
      (r :: undoing p.isOpen) false q := by
  have hchange := runs_change r p
  unfold changeExactly
  cases hreply : (p.reply r).count with
  | error e =>
    rw [hreply] at hchange
    obtain ⟨q, habort⟩ := runs_abort (s := s) (p := p.logged r) (α := Unit) h (.database e)
    exact ⟨q, hchange.bind habort⟩
  | ok affected =>
    rw [hreply] at hchange hcount
    have hne : affected ≠ expected := fun heq => hcount (by rw [heq])
    obtain ⟨q, habort⟩ := runs_abort (s := s) (p := p.logged r) (α := Unit) h
      (.writeCountMismatch expected affected)
    refine ⟨q, hchange.bind ?_⟩
    dsimp only
    rw [if_pos hne]
    exact habort

end Change

section Fetch

variable {ids : List Identifier} {query : String × List Value}

/-- A refused SELECT ends the fetch, after that one request. -/
theorem runs_fetchByIds_error (s : Setup) (ids : List Identifier) {e : DatabaseError}
    (hrows : (p.reply (s.selectRequest query)).rowSet = .error e) :
    Runs (s.fetchByIds ids query.1 query.2) p (.error (.database e)) [s.selectRequest query]
      p.isOpen (p.logged (s.selectRequest query)) := by
  have hrun := s.run_fetch query p.session
  rw [hrows] at hrun
  unfold fetchByIds
  exact (runs_call_error hrun rfl rfl).bind_error

/-- A fetch that is answered sends one request and matches the rows to the identifiers. -/
theorem runs_fetchByIds {rows : RowSet} {results : List RecordOutcome}
    (hrows : (p.reply (s.selectRequest query)).rowSet = .ok rows)
    (hresults : reconcile s.table ids rows = .ok results) :
    Runs (s.fetchByIds ids query.1 query.2) p (.ok { results := results })
      [s.selectRequest query] p.isOpen (p.logged (s.selectRequest query)) := by
  have hrun := s.run_fetch query p.session
  rw [hrows] at hrun
  unfold fetchByIds
  exact (runs_call hrun rfl rfl).bind_last (runs_lift_bind hresults (runs_pure _ _))

end Fetch

/-- Opens a transaction if it has to and runs a statement that has to change `expected` rows. -/
def stageChange (s : Setup) (expected : Nat) (r : Request) : Work Unit := do
  s.beginIfNeeded
  s.changeExactly expected r

section Stage

variable {expected : Nat} {r : Request}

/-- A staged change opens a transaction first if the policy asks for one. -/
theorem runs_stageChange (h : p.session.engine.Transactional)
    (hcount : (p.replyAfter (s.opening p) r).count = .ok expected) :
    ∃ q, Runs (s.stageChange expected r) p (.ok ()) (s.opening p ++ [r])
      (s.policy.rollsBack || p.isOpen) q := by
  obtain ⟨q, hbegin⟩ := runs_beginIfNeeded (s := s) h
  rw [← hbegin.reply r] at hcount
  have hchange := runs_changeExactly (s := s) hcount
  rw [hbegin.flag] at hchange
  exact ⟨_, hbegin.bind hchange⟩

/-- A staged change that fails, or reaches another number of rows, is undone, and no transaction
stays open. -/
theorem runs_stageChange_error (h : p.session.engine.Transactional)
    (hcount : (p.replyAfter (s.opening p) r).count ≠ .ok expected) :
    ∃ q, Runs (s.stageChange expected r) p
      (.error (changeFault expected (p.replyAfter (s.opening p) r).count))
      (s.opening p ++ (r :: undoing (s.policy.rollsBack || p.isOpen))) false q := by
  obtain ⟨q, hbegin⟩ := runs_beginIfNeeded (s := s) h
  rw [← hbegin.reply r] at hcount ⊢
  obtain ⟨q', hchange⟩ := runs_changeExactly_error (s := s) (hbegin.engine ▸ h) hcount
  rw [hbegin.flag] at hchange
  exact ⟨q', hbegin.bind hchange⟩

/-- The end of a batch whose statements succeeded: COMMIT if a transaction is open, then the
answer. -/
theorem runs_commitOpen_settle (h : p.session.engine.Transactional) (action : String)
    (o : Outcome) : ∃ q, Runs (s.commitOpen >>= fun _ => s.settle action o) p
      (s.answer action o) (committing p.isOpen) false q := by
  obtain ⟨q, hcommit⟩ := runs_commitOpen (s := s) h
  obtain ⟨q', hsettle⟩ := s.runs_settle action o q
  rw [hcommit.flag] at hsettle
  exact ⟨q', hcommit.bind_last hsettle⟩

end Stage

/-! ## Batches that fetch rows -/

section Fetched

variable {ids : List Identifier} {filter : Option String} {named : Filter.Named}

/-- The filter of a batch by identifier and the query of the rows that it is about. -/
def scopeQuery (s : Setup) (ids : List Identifier) (filter : Option String)
    (named : Filter.Named) :
    Except BatchError (Option Filter.Predicate × (String × List Value)) := do
  let f ← s.predicate filter named
  let query ← scope s.table ids f
  .ok (f, query)

/-- The query of a scope is built exactly if the filter translates and the identifiers fit the
key. -/
theorem scopeQuery_eq_ok_iff {f : Option Filter.Predicate} {query : String × List Value} :
    s.scopeQuery ids filter named = .ok (f, query) ↔
      s.predicate filter named = .ok f ∧ scope s.table ids f = .ok query := by
  unfold scopeQuery
  cases hf : s.predicate filter named with
  | error e => simp [bind, Except.bind]
  | ok f' =>
    cases hscope : scope s.table ids f' with
    | error e =>
      simp only [bind, Except.bind, hscope, reduceCtorEq, Except.ok.injEq, false_iff]
      rintro ⟨rfl, hquery⟩
      rw [hscope] at hquery
      cases hquery
    | ok query' =>
      simp only [bind, Except.bind, hscope, Except.ok.injEq, Prod.mk.injEq]
      constructor
      · rintro ⟨rfl, rfl⟩
        exact ⟨rfl, hscope⟩
      · rintro ⟨rfl, hquery⟩
        exact ⟨rfl, Except.ok.inj (hscope.symm.trans hquery)⟩

/-- A batch that fetches the rows of its identifiers and goes on with what was found. -/
def fetchScoped (s : Setup) (ids : List Identifier) (filter : Option String)
    (named : Filter.Named) (rest : Option Filter.Predicate → Outcome → Work Outcome) :
    Work Outcome := do
  lift (s.checkLimit ids.length)
  if ids.isEmpty then return {}
  let (f, query) ← lift (s.scopeQuery ids filter named)
  setPhase .staging
  let o ← s.fetchByIds ids query.1 query.2
  rest f o

/-- A batch is accepted and its query finds rows. -/
structure Fetches (s : Setup) (p : Progress) (ids : List Identifier) (filter : Option String)
    (named : Filter.Named) (fetch : Fetch) : Prop where
  limit : s.checkLimit ids.length = .ok ()
  nonempty : ids.isEmpty = false
  predicate : s.predicate filter named = .ok fetch.predicate
  keys : keyColumns s.table = .ok fetch.keys
  query : scope s.table ids fetch.predicate = .ok fetch.query
  rows : (p.reply (s.selectRequest fetch.query)).rowSet = .ok fetch.rows

/-- A batch that has fetched its rows continues in the same transaction state, with one SELECT in
the log. -/
theorem Fetches.runs {fetch : Fetch} (h : Fetches s p ids filter named fetch)
    (rest : Option Filter.Predicate → Outcome → Work Outcome) :
    ∃ q, q.session.engine = p.session.engine ∧ q.isOpen = p.isOpen ∧
      q.session.log = p.session.log ++ [s.selectRequest fetch.query] ∧
      ∀ {r : Except BatchError Outcome} {sent b q'},
        Runs (rest fetch.predicate (fetch.outcome ids)) q r sent b q' →
        Runs (s.fetchScoped ids filter named rest) p r (s.selectRequest fetch.query :: sent) b
          q' := by
  have hresults : reconcile s.table ids fetch.rows = .ok (fetch.outcome ids).results := by
    rw [reconcile, h.keys]
    rfl
  have htarget := scopeQuery_eq_ok_iff.2 ⟨h.predicate, h.query⟩
  have hfetch := runs_fetchByIds (s := s) (p := { p with phase := .staging }) h.rows hresults
  refine ⟨_, hfetch.engine, hfetch.flag, hfetch.log, fun hrest => ?_⟩
  unfold fetchScoped
  refine runs_lift_bind h.limit ?_
  rw [h.nonempty]
  exact runs_lift_bind htarget ((runs_setPhase .staging p).bind_silent (hfetch.bind hrest))

/-- A batch that is too large is no mismatch of counts. -/
theorem not_isMismatch_checkLimit {count : Nat} {e : BatchError}
    (h : s.checkLimit count = .error e) : ¬IsMismatch e := by
  rintro ⟨expected, actual, rfl⟩
  simp only [checkLimit] at h
  split at h
  · split at h <;> cases h
  · cases h

theorem predicate_some (s : Setup) (text : String) (named : Filter.Named) :
    s.predicate (some text) named =
      (Filter.translate ⟨s.table.columns, named, s.dialect, s.parser⟩ text).mapError .filter := rfl

/-- A fault of the filter is no mismatch of counts. -/
theorem not_isMismatch_predicate {e : BatchError} (h : s.predicate filter named = .error e) :
    ¬IsMismatch e := by
  rintro ⟨expected, actual, rfl⟩
  cases filter with
  | none => cases h
  | some text =>
    rw [predicate_some] at h
    cases htext : Filter.translate ⟨s.table.columns, named, s.dialect, s.parser⟩ text with
    | error e =>
      rw [htext] at h
      cases h
    | ok found =>
      rw [htext] at h
      cases h

theorem not_isMismatch_scope {f : Option Filter.Predicate} {e : BatchError}
    (h : scope s.table ids f = .error e) : ¬IsMismatch e := by
  simp only [scope, keyColumns] at h
  split at h
  · rintro ⟨expected, actual, rfl⟩
    cases h
  · simp only [bind, Except.bind] at h
    split at h
    · next hmisfit =>
      rw [← Except.error.inj h]
      exact not_isMismatch_misfit hmisfit
    · rintro ⟨expected, actual, rfl⟩
      cases f <;> cases h

/-- No fault before the fetch is a mismatch of counts. -/
theorem not_isMismatch_scopeQuery {e : BatchError}
    (h : s.scopeQuery ids filter named = .error e) : ¬IsMismatch e := by
  unfold scopeQuery at h
  cases hf : s.predicate filter named with
  | error e' =>
    simp only [hf, bind, Except.bind, Except.error.injEq] at h
    rw [← h]
    exact not_isMismatch_predicate hf
  | ok f =>
    cases hscope : scope s.table ids f with
    | error e' =>
      simp only [hf, hscope, bind, Except.bind, Except.error.injEq] at h
      rw [← h]
      exact not_isMismatch_scope hscope
    | ok query => simp [hf, hscope, bind, Except.bind] at h

/-- A batch without fetched rows was refused before its SELECT, or the SELECT failed. -/
theorem runs_fetchScoped_unfetched (p : Progress)
    (hunfetched : ¬∃ fetch, Fetches s p ids filter named fetch)
    (rest : Option Filter.Predicate → Outcome → Work Outcome) :
    ∃ r sent q, Runs (s.fetchScoped ids filter named rest) p r sent p.isOpen q ∧
      (sent = [] ∨ ∃ query, sent = [s.selectRequest query]) ∧
      ∀ e, r = .error e → ¬IsMismatch e := by
  unfold fetchScoped
  cases hlimit : s.checkLimit ids.length with
  | error e =>
    refine ⟨_, _, _, runs_lift_error rfl, .inl rfl, ?_⟩
    rintro _ ⟨⟩
    exact not_isMismatch_checkLimit hlimit
  | ok _ =>
    cases hempty : ids.isEmpty with
    | true =>
      refine ⟨_, _, _, runs_lift_bind rfl (runs_pure _ p), .inl rfl, ?_⟩
      rintro _ ⟨⟩
    | false =>
      cases htarget : s.scopeQuery ids filter named with
      | error e =>
        refine ⟨_, _, _, runs_lift_bind rfl (runs_lift_error rfl), .inl rfl, ?_⟩
        rintro _ ⟨⟩
        exact not_isMismatch_scopeQuery htarget
      | ok target =>
        obtain ⟨f, query⟩ := target
        obtain ⟨hf, hquery⟩ := scopeQuery_eq_ok_iff.1 htarget
        cases hrows : (p.reply (s.selectRequest query)).rowSet with
        | error e =>
          have hfetch := s.runs_fetchByIds_error ids (p := { p with phase := .staging }) hrows
          refine ⟨_, _, _, runs_lift_bind rfl (runs_lift_bind rfl
            ((runs_setPhase .staging p).bind_silent hfetch.bind_error)), .inr ⟨query, rfl⟩, ?_⟩
          rintro _ ⟨⟩ ⟨expected, actual, he⟩
          cases he
        | ok rows =>
          -- a reply with rows would make this a fetch
          obtain ⟨keys, hkeys, -⟩ := scope_eq_ok_iff.1 ⟨query, hquery⟩
          exact absurd ⟨⟨f, query, keys, rows⟩, hlimit, hempty, hf, hkeys, hquery, hrows⟩ hunfetched

end Fetched

/-! ## Retrievals -/

section Retrieve

/-- How a retrieval may go, by its answer, its requests and whether a transaction is open at the
end: it is refused, it fetches its rows, or it also commits the caller's transaction. -/
inductive RetrieveCourse (s : Setup) (p : Progress) :
    Except BatchError Outcome → List Request → Bool → Prop where
  | refused (r : Except BatchError Outcome) : RetrieveCourse s p r [] p.isOpen
  | fetched (r : Except BatchError Outcome) (query : String × List Value) :
      RetrieveCourse s p r [s.selectRequest query] p.isOpen
  | committed (r : Except BatchError Outcome) (query : String × List Value) :
      RetrieveCourse s p r (s.selectRequest query :: committing p.isOpen) false

/-- Commits the caller's transaction, if there is one, and answers. -/
def endRetrieval (s : Setup) (o : Outcome) : Work Outcome := do
  if s.inCallersTransaction then s.commitOpen
  s.settle "retrieve" o

/-- A retrieval in the caller's transaction commits it, and any other sends nothing more. -/
theorem runs_endRetrieval (h : p.session.engine.Transactional) (o : Outcome) :
    (∃ q, Runs (s.endRetrieval o) p (s.answer "retrieve" o) (committing p.isOpen) false q) ∨
    ∃ q, Runs (s.endRetrieval o) p (s.answer "retrieve" o) [] p.isOpen q := by
  unfold endRetrieval
  cases s.inCallersTransaction with
  | true => exact Or.inl (runs_commitOpen_settle (s := s) h "retrieve" o)
  | false => exact Or.inr (s.runs_settle "retrieve" o p)

/-- A retrieval is a fetch followed by `endRetrieval`. -/
theorem retrieveByIds_eq (s : Setup) (ids : List Identifier) (filter : Option String)
    (named : Filter.Named) : s.retrieveByIds ids filter named =
      s.fetchScoped ids filter named fun _ o => s.endRetrieval o := by
  simp only [retrieveByIds, fetchScoped, scopeQuery, endRetrieval, lift_bind, bind_assoc]
  rfl

/-- Every run of a retrieval takes one of the courses of `RetrieveCourse`. -/
theorem runs_retrieveByIds (h : p.session.engine.Transactional) (ids : List Identifier)
    (filter : Option String) (named : Filter.Named) :
    ∃ r sent b q, Runs (s.retrieveByIds ids filter named) p r sent b q ∧
      RetrieveCourse s p r sent b := by
  rw [retrieveByIds_eq]
  by_cases hfetched : ∃ fetch, Fetches s p ids filter named fetch
  · obtain ⟨fetch, hfetch⟩ := hfetched
    obtain ⟨q, hengine, hopen, -, hrest⟩ := hfetch.runs fun _ o => s.endRetrieval o
    rcases runs_endRetrieval (s := s) (hengine ▸ h) (fetch.outcome ids) with ⟨q', hend⟩ | ⟨q', hend⟩
    · rw [hopen] at hend
      exact ⟨_, _, _, q', hrest hend, .committed _ fetch.query⟩
    · rw [hopen] at hend
      exact ⟨_, _, _, q', hrest hend, .fetched _ fetch.query⟩
  · obtain ⟨r, sent, q, hrun, rfl | ⟨query, rfl⟩, -⟩ :=
      runs_fetchScoped_unfetched p hfetched fun _ o => s.endRetrieval o
    · exact ⟨r, _, _, q, hrun, .refused r⟩
    · exact ⟨r, _, _, q, hrun, .fetched r query⟩

end Retrieve

end Setup

end Snowbridge.Batch
