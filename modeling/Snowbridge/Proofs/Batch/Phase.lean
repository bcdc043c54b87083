import Snowbridge.Proofs.Batch.Issue

/-!
# Phases in which batches end

A batch that has sent something ends done or failed, as its answer says, unless the engine refuses
its last request and the batch does not handle that. Then it is stranded in the phase in which it
has sent the request. The steps of a batch keep account of this (`Lands`): a step that goes on has
not been stranded, so that the last request of the whole batch is that of the step that fails. Nor
do they fail for a reason that lies in the request for the batch, which is looked at before.
-/

namespace Snowbridge.Batch

/-! ## Stranded batches -/

/-- The phase in which an unhandled refusal of `r` leaves a batch. Refused writes are always
handled, a refused SELECT only by a batch of records, and a refused ROLLBACK only by a batch by
identifiers. -/
def strandedPhase? (ofRecords : Bool) (r : Request) : Option Phase :=
  if startsWith "BEGIN" r then some .staging
  else if startsWith "COMMIT" r then some .committing
  else if startsWith "ROLLBACK" r then if ofRecords then some .rollingBack else none
  else if startsWith "SELECT * FROM " r then if ofRecords then none else some .staging
  else none

/-- The phase in which a batch from `p` is stranded by its last request, if that was refused and the
batch does not handle it. -/
def stranded? (ofRecords : Bool) (p : Progress) (sent : List Request) : Option Phase :=
  (sent.getLast?.filter fun r => (p.replyAfter sent.dropLast r).isFailed).bind
    (strandedPhase? ofRecords)

section Stranded

variable {ofRecords : Bool} {p q : Progress} {r : Request}

theorem stranded?_nil : stranded? ofRecords p [] = none := rfl

/-- Only the last request can strand a batch. -/
theorem stranded?_concat (sent : List Request) : stranded? ofRecords p (sent ++ [r]) =
    if (p.replyAfter sent r).isFailed then strandedPhase? ofRecords r else none := by
  rw [stranded?, List.getLast?_concat, List.dropLast_concat]
  cases hreply : (p.replyAfter sent r).isFailed <;> simp [Option.filter, hreply]

theorem stranded?_singleton : stranded? ofRecords p [r] =
    if (p.reply r).isFailed then strandedPhase? ofRecords r else none := by
  have hreply : p.replyAfter [] r = p.reply r := by
    rw [Progress.replyAfter, List.append_nil, Progress.reply, Session.reply]
  rw [← hreply]
  exact stranded?_concat []

/-- A request whose refusal is handled does not strand the batch. -/
theorem stranded?_of_handled (h : strandedPhase? ofRecords r = none) :
    stranded? ofRecords p [r] = none := by
  rw [stranded?_singleton, h, ite_self]

/-- If the first requests did not strand the batch, the whole log strands it exactly as the later
requests do. -/
theorem Runs.stranded?_append {α : Type} {x : Work α} {result : Except BatchError α}
    {xs ys : List Request} {b : Bool} (hrun : Runs x p result xs b q)
    (hnone : stranded? ofRecords p xs = none) :
    stranded? ofRecords p (xs ++ ys) = stranded? ofRecords q ys := by
  rcases List.eq_nil_or_concat ys with rfl | ⟨zs, z, rfl⟩
  · rw [List.append_nil, hnone, stranded?_nil]
  · rw [List.concat_eq_append, ← List.append_assoc, stranded?_concat, stranded?_concat,
      Setup.replyAfter_eq hrun.engine hrun.log]

/-- The words with which the requests of batches start. -/
def requestWords : List String :=
  ["BEGIN", "COMMIT", "ROLLBACK", "SELECT * FROM ", "INSERT INTO ", "UPDATE ", "DELETE FROM "]

/-- None of the words of requests is a prefix of another, so the word that a request starts with is
unique. -/
theorem startsWith_eq_beq {v w : String} (h : startsWith w r = true) (hv : v ∈ requestWords)
    (hw : w ∈ requestWords) : startsWith v r = (v == w) := by
  have hapart : ∀ v ∈ requestWords, ∀ w ∈ requestWords,
      v.toList.isPrefixOf w.toList = true → v = w := by
    decide
  rw [Bool.eq_iff_iff, beq_iff_eq]
  constructor
  · intro hstart
    rw [startsWith, List.isPrefixOf_iff_prefix] at h hstart
    -- of two words at the start of one text, one is a prefix of the other
    rcases List.prefix_or_prefix_of_prefix hstart h with hprefix | hprefix
    · exact hapart v hv w hw (List.isPrefixOf_iff_prefix.2 hprefix)
    · exact (hapart w hw v hv (List.isPrefixOf_iff_prefix.2 hprefix)).symm
  · rintro rfl
    exact h

/-- The stranded phase is decided by the first word of the request. -/
theorem strandedPhase?_of_startsWith {w : String} (h : startsWith w r = true)
    (hw : w ∈ requestWords) : strandedPhase? ofRecords r =
      if "BEGIN" == w then some .staging
      else if "COMMIT" == w then some .committing
      else if "ROLLBACK" == w then if ofRecords then some .rollingBack else none
      else if "SELECT * FROM " == w then if ofRecords then none else some .staging
      else none := by
  rw [strandedPhase?, startsWith_eq_beq h (by decide) hw, startsWith_eq_beq h (by decide) hw,
    startsWith_eq_beq h (by decide) hw, startsWith_eq_beq h (by decide) hw]

theorem strandedPhase?_begin (h : startsWith "BEGIN" r = true) :
    strandedPhase? ofRecords r = some .staging := by
  rw [strandedPhase?, if_pos h]

theorem strandedPhase?_commit : strandedPhase? ofRecords commitRequest = some .committing := by
  rw [strandedPhase?_of_startsWith (w := "COMMIT") (by decide) (by decide)]
  rfl

theorem strandedPhase?_rollback : strandedPhase? ofRecords rollbackRequest =
    if ofRecords then some .rollingBack else none := by
  rw [strandedPhase?_of_startsWith (w := "ROLLBACK") (by decide) (by decide)]
  rfl

theorem strandedPhase?_select (s : Setup) (query : String × List Value) :
    strandedPhase? ofRecords (s.selectRequest query) =
      if ofRecords then none else some .staging := by
  have hselect : startsWith "SELECT * FROM " (s.selectRequest query) = true :=
    startsWith_where _ _ _ _ _
  rw [strandedPhase?_of_startsWith hselect (by decide)]
  rfl

/-- A refused write strands no batch. -/
theorem strandedPhase?_write (h : isWrite r = true) : strandedPhase? ofRecords r = none := by
  rw [isWrite, Bool.or_eq_true, Bool.or_eq_true] at h
  rcases h with (hinsert | hupdate) | hdelete
  · exact strandedPhase?_of_startsWith hinsert (by decide)
  · exact strandedPhase?_of_startsWith hupdate (by decide)
  · exact strandedPhase?_of_startsWith hdelete (by decide)

end Stranded

/-! ## Steps -/

/-- A fault that lies in the request for a batch. An invalid record is a fault of that record only,
invalid identifiers and fields are faults of the whole batch by identifiers. -/
def BatchError.Refuses (ofRecords : Bool) : BatchError → Prop
  | .invalidRequest _ | .tooManyRecords _ _ | .missingPrimaryKey _ | .filter _ => True
  | .validation _ _ => ofRecords = false
  | _ => False

/-- Transactions open with a statement that says so. -/
def Progress.Begins (p : Progress) : Prop := startsWith "BEGIN" p.session.engine.beginRequest = true

instance (p : Progress) : Decidable p.Begins :=
  inferInstanceAs (Decidable (startsWith "BEGIN" p.session.engine.beginRequest = true))

/-- The end of a step. It succeeds in a phase that satisfies `after`, without being stranded, or it
fails with a fault that does not refuse the batch, in the stranded phase or else in `failed`. -/
def Landed {α : Type} (ofRecords : Bool) (p : Progress) (after : Phase → Prop) (sent : List Request)
    (phase : Phase) : Except BatchError α → Prop
  | .ok _ => (p.Begins → stranded? ofRecords p sent = none) ∧ after phase
  | .error e =>
    (p.Begins → phase = (stranded? ofRecords p sent).getD .failed) ∧ ¬e.Refuses ofRecords

/-- From every phase that satisfies `before`, and whatever the replies are, `x` ends as `Landed`
says. -/
def Lands {α : Type} (ofRecords : Bool) (before : Phase → Prop) (x : Work α)
    (after : Phase → Prop) : Prop :=
  ∀ p, before p.phase →
    ∃ r sent b q, Runs x p r sent b q ∧ Landed ofRecords p after sent q.phase r

namespace Lands

variable {α β : Type} {ofRecords : Bool} {before between after : Phase → Prop} {x : Work α}
  {f : α → Work β}

/-- Sequencing, where the result of the first part is known to satisfy `P`. -/
theorem bind_of {P : α → Prop} (hx : Lands ofRecords before x between)
    (hresult : ∀ p a q, x.run p = (.ok a, q) → P a)
    (hf : ∀ a, P a → Lands ofRecords between (f a) after) :
    Lands ofRecords before (x >>= f) after := by
  intro p hbefore
  obtain ⟨r, sent, b, q, hrun, hland⟩ := hx p hbefore
  cases r with
  | error e => exact ⟨_, _, _, _, hrun.bind_error, hland⟩
  | ok a =>
    obtain ⟨hnone, hbetween⟩ := hland
    obtain ⟨r', sent', b', q', hrun', hland'⟩ := hf a (hresult p a q hrun.run) q hbetween
    have hbegins : p.Begins → q.Begins := fun hbegin => by rwa [Progress.Begins, hrun.engine]
    refine ⟨_, _, _, _, hrun.bind hrun', ?_⟩
    -- the first part has not been stranded, so that the requests of the second decide
    cases r' with
    | error e =>
      refine ⟨fun hbegin => ?_, hland'.2⟩
      rw [hrun.stranded?_append (hnone hbegin)]
      exact hland'.1 (hbegins hbegin)
    | ok a' =>
      refine ⟨fun hbegin => ?_, hland'.2⟩
      rw [hrun.stranded?_append (hnone hbegin)]
      exact hland'.1 (hbegins hbegin)

/-- Sequencing: the phases of the first part are those that the rest starts from. -/
theorem bind (hx : Lands ofRecords before x between)
    (hf : ∀ a, Lands ofRecords between (f a) after) : Lands ofRecords before (x >>= f) after :=
  hx.bind_of (fun _ _ _ _ => trivial) fun a _ => hf a

/-- A step without requests that succeeds. -/
theorem of_silent (h : ∀ p, before p.phase → ∃ a b q, Runs x p (.ok a) [] b q ∧ after q.phase) :
    Lands ofRecords before x after := by
  intro p hbefore
  obtain ⟨a, b, q, hrun, hafter⟩ := h p hbefore
  exact ⟨_, _, _, _, hrun, fun _ => stranded?_nil, hafter⟩

theorem pure (a : α) (h : ∀ phase, before phase → after phase) :
    Lands ofRecords before (pure a) after :=
  of_silent fun p hbefore => ⟨_, _, _, runs_pure a p, h _ hbefore⟩

theorem setPhase (phase : Phase) : Lands ofRecords before (setPhase phase) (· = phase) :=
  of_silent fun p _ => ⟨_, _, _, runs_setPhase phase p, rfl⟩

theorem notify (n : Notice) : Lands ofRecords before (notify n) before :=
  of_silent fun _ hbefore => ⟨_, _, _, ⟨rfl, rfl, (List.append_nil _).symm, rfl⟩, hbefore⟩

theorem inTransaction : Lands ofRecords before inTransaction before :=
  of_silent fun p hbefore => ⟨_, _, _, runs_inTransaction p, hbefore⟩

theorem get : Lands ofRecords before get before :=
  of_silent fun p hbefore => ⟨_, _, _, runs_get p, hbefore⟩

/-- A check that has passed changes nothing. -/
theorem lift_bind {e : Except BatchError α} {a : α} (he : e = .ok a)
    (hf : Lands ofRecords before (f a) after) : Lands ofRecords before (lift e >>= f) after := by
  intro p hbefore
  obtain ⟨r, sent, b, q, hrun, hland⟩ := hf p hbefore
  exact ⟨r, sent, b, q, runs_lift_bind he hrun, hland⟩

/-- `after` may be weakened. -/
theorem weaken {after' : Phase → Prop} (hx : Lands ofRecords before x after)
    (hafter : ∀ phase, after phase → after' phase) : Lands ofRecords before x after' := by
  intro p hbefore
  obtain ⟨r, sent, b, q, hrun, hland⟩ := hx p hbefore
  refine ⟨r, sent, b, q, hrun, ?_⟩
  cases r with
  | error e => exact hland
  | ok a => exact ⟨hland.1, hafter _ hland.2⟩

/-- A step with one request whose refusal is returned as a value. -/
theorem of_handled {c : Call DatabaseError α} {r : Request}
    (hhandled : strandedPhase? ofRecords r = none)
    (hc : ∀ session, ∃ result, c.run session = (result, session.logged r)) :
    Lands ofRecords before (onSession c) before := by
  intro p hbefore
  obtain ⟨result, hrun⟩ := hc p.session
  exact ⟨_, _, _, _, runs_onSession hrun rfl rfl, fun _ => stranded?_of_handled hhandled, hbefore⟩

/-- A step without requests that fails in the phase `failed`. -/
theorem of_failed {e : BatchError} (hfault : ¬e.Refuses ofRecords)
    (h : ∀ p, ∃ q, Runs x p (.error e) [] p.isOpen q ∧ q.phase = .failed) :
    Lands ofRecords before x after := by
  intro p _
  obtain ⟨q, hrun, hphase⟩ := h p
  exact ⟨_, _, _, q, hrun, fun _ => hphase, hfault⟩

end Lands

/-! ## Transactions -/

/-- BEGIN and COMMIT are sent in the phase in which their refusal strands the batch. -/
theorem landed_transact {ofRecords : Bool} {p : Progress} {phase : Phase} (sql : String)
    (isOpen : Bool) (hphase : p.Begins → strandedPhase? ofRecords ⟨sql, []⟩ = some phase)
    (hbefore : p.phase = phase) :
    ∃ r sent b q, Runs (call (Session.setTransaction sql isOpen)) p r sent b q ∧
      Landed ofRecords p (· = phase) sent q.phase r := by
  rcases runs_transact sql isOpen p with ⟨hreply, q, hrun, hkept⟩ | ⟨hreply, e, q, hrun, hkept⟩
  · refine ⟨_, _, _, _, hrun, fun _ => ?_, hkept.trans hbefore⟩
    rw [stranded?_singleton, hreply]
    rfl
  · refine ⟨_, _, _, _, hrun, fun hbegin => ?_, id⟩
    rw [stranded?_singleton, hreply, if_pos rfl, hphase hbegin]
    exact hkept.trans hbefore

theorem lands_transact {ofRecords : Bool} {phase : Phase} (sql : String) (isOpen : Bool)
    (hphase : strandedPhase? ofRecords ⟨sql, []⟩ = some phase) :
    Lands ofRecords (· = phase) (call (Session.setTransaction sql isOpen)) (· = phase) :=
  fun _ hbefore => landed_transact sql isOpen (fun _ => hphase) hbefore

namespace Setup

variable {s : Setup} {ofRecords : Bool} {before after : Phase → Prop}

/-- A refused BEGIN strands the batch in `staging`. -/
theorem lands_beginIfNeeded : Lands ofRecords (· = .staging) s.beginIfNeeded (· = .staging) := by
  refine Lands.inTransaction.bind fun isOpen => ?_
  split
  · intro p hbefore
    obtain ⟨r, sent, b, q, hrun, hland⟩ := landed_transact p.session.engine.beginText true
      strandedPhase?_begin hbefore
    exact ⟨r, sent, b, q, hrun.call_congr rfl, hland⟩
  · exact Lands.pure () fun _ => id

/-- A refused COMMIT strands the batch in `committing`. -/
theorem lands_commitOpen : Lands ofRecords before s.commitOpen fun _ => True := by
  refine Lands.inTransaction.bind fun isOpen => ?_
  split
  · refine (Lands.setPhase .committing).bind fun _ => ?_
    exact (lands_transact "COMMIT" false strandedPhase?_commit).weaken fun _ _ => trivial
  · exact Lands.pure () fun _ _ => trivial

/-- In a batch of records a refused ROLLBACK strands the batch in `rollingBack`. -/
theorem lands_rollback : Lands true before s.rollback fun _ => True := by
  refine Lands.inTransaction.bind fun isOpen => ?_
  split
  · exact Lands.pure _ fun _ _ => trivial
  · refine (Lands.setPhase .rollingBack).bind fun _ => Lands.get.bind fun p => ?_
    refine (lands_transact "ROLLBACK" false strandedPhase?_rollback).bind fun _ => ?_
    split
    · exact Lands.pure _ fun _ _ => trivial
    · exact (Lands.notify _).bind fun _ => Lands.pure _ fun _ _ => trivial

/-- In a batch by identifiers `abort` ends in `failed`, even if its ROLLBACK is refused. -/
theorem lands_abort {α : Type} {e : BatchError} (hfault : ¬e.Refuses false) :
    Lands false before (s.abort e : Work α) after := by
  intro p _
  obtain ⟨b, q, hrun, hphase⟩ := s.exists_runs_abort (α := α) e p
  have hnone : stranded? false p (undoing p.isOpen) = none := by
    cases p.isOpen with
    | true => exact stranded?_of_handled strandedPhase?_rollback
    | false => rfl
  refine ⟨_, _, b, q, hrun, fun _ => ?_, hfault⟩
  rw [hnone]
  exact hphase

/-- No failure in the outcome is a fault that refuses the batch. -/
def Spares (ofRecords : Bool) (o : Outcome) : Prop :=
  ∀ e ∈ o.failures, ¬(BatchError.ofItem e).Refuses ofRecords

/-- Failures of records never refuse a batch of records. -/
theorem spares_records (o : Outcome) : Spares true o := by
  intro e _
  cases e <;> simp [BatchError.ofItem, BatchError.Refuses]

/-- Nor does the fault that collects them. -/
theorem Spares.not_refuses_aggregate {o : Outcome} (h : Spares ofRecords o) (action : String) :
    ¬(s.aggregate action o).Refuses ofRecords := by
  unfold aggregate
  split
  · next e es _ hfailures => exact h e (hfailures ▸ List.mem_cons_self)
  · exact id

/-- `settle` ends in `done`, or in `failed` with the aggregate fault. -/
theorem lands_settle (action : String) {o : Outcome} (ho : Spares ofRecords o) :
    Lands ofRecords before (s.settle action o) (· = .done) := by
  unfold settle
  cases hdone : o.isSuccess || s.policy.continues with
  | true => exact (Lands.setPhase .done).bind fun _ => Lands.pure o fun _ => id
  | false =>
    exact Lands.of_failed (ho.not_refuses_aggregate action) fun p =>
      ⟨_, (runs_setPhase .failed p).bind_silent (runs_throw (s.aggregate action o) _), rfl⟩

theorem lands_commitOpen_settle (action : String) {o : Outcome} (ho : Spares ofRecords o) :
    Lands ofRecords before (s.commitOpen >>= fun _ => s.settle action o) (· = .done) :=
  lands_commitOpen.bind fun _ => lands_settle action ho

/-- A refused write is a result that the batch handles. -/
theorem lands_change {r : Request} (hwrite : isWrite r = true) :
    Lands ofRecords before (onSession (Session.change r.sql r.params)) before :=
  Lands.of_handled (strandedPhase?_write hwrite) fun session =>
    ⟨_, Session.run_change session r.sql r.params⟩

/-! ## Batches of records -/

/-- A batch of records handles a refused read-back. -/
theorem lands_readBack (fields : Record) : Lands true before (s.readBack fields) before := by
  unfold readBack
  cases readBackQuery? s.table fields with
  | none => exact Lands.pure _ fun _ => id
  | some query =>
    refine (Lands.of_handled (strandedPhase?_select s query) fun session =>
      ⟨_, s.run_fetch query session⟩).bind fun rows => ?_
    cases rows with
    | ok rows => exact Lands.pure _ fun _ => id
    | error e => exact (Lands.notify _).bind fun _ => Lands.pure _ fun _ => id

theorem lands_writeFields (verb : WriteVerb) (index : Nat) (fields : Record) :
    Lands true before (s.writeFields verb index fields) before := by
  unfold writeFields
  cases hwrite : writeRecord s.table verb fields with
  | error reason => exact Lands.pure _ fun _ => id
  | ok r =>
    refine (lands_change (isWrite_of_writeRecord hwrite)).bind fun count => ?_
    cases count with
    | error e => exact Lands.pure _ fun _ => id
    | ok affected =>
      dsimp only
      split
      · exact Lands.pure _ fun _ => id
      · split
        · exact Lands.pure _ fun _ => id
        · exact (lands_readBack fields).bind fun _ => Lands.pure _ fun _ => id

theorem lands_writeOne (verb : WriteVerb) (index : Nat) (record : Json) :
    Lands true before (s.writeOne verb index record) before := by
  cases record with
  | obj fields => exact lands_writeFields verb index fields
  | _ => exact Lands.pure _ fun _ => id

/-- Induction on the records: each keeps the phase, and only the ROLLBACK after a failure can strand
the batch. -/
theorem lands_writeAll (verb : WriteVerb) (index : Nat) (records : List Json) :
    Lands true before (s.writeAll verb index records) fun _ => True := by
  -- induction on the records; after a failure the policy decides
  induction records generalizing index with
  | nil => exact Lands.pure _ fun _ _ => trivial
  | cons record records ih =>
    refine (lands_writeOne verb index record).bind fun written => ?_
    cases written with
    | ok written => exact (ih (index + 1)).bind fun _ => Lands.pure _ fun _ => id
    | error e =>
      refine (Lands.notify _).bind fun _ => ?_
      cases hpolicy : s.policy with
      | goOn => exact (ih (index + 1)).bind fun _ => Lands.pure _ fun _ => id
      | rollBack => exact lands_rollback.bind fun _ => Lands.pure _ fun _ => id
      | stop => exact Lands.pure _ fun _ _ => trivial

/-! ## Batches by identifier -/

section Ids

variable {ids : List Identifier} {f : Option Filter.Predicate} {query : String × List Value}

/-- The failures of matched rows are missing rows, which refuse no batch. -/
theorem spares_matchRows {keys : List Catalog.Column} {rows : List Row} {index : Nat} :
    Spares ofRecords { results := matchRows keys rows index ids } := by
  induction ids generalizing index with
  | nil =>
    intro e he
    cases he
  | cons id ids ih =>
    intro e he
    simp only [Outcome.failures, matchRows, List.filterMap_cons] at he
    cases hrow : rowFor? keys rows id with
    | some row =>
      rw [hrow] at he
      exact ih e he
    | none =>
      rw [hrow] at he
      rcases List.mem_cons.1 he with rfl | hrest
      · exact fun hrefuses => hrefuses
      · exact ih e hrest

/-- The same for `reconcile`. -/
theorem spares_reconcile {rows : RowSet} {results : List RecordOutcome}
    (h : reconcile s.table ids rows = .ok results) : Spares ofRecords { results := results } := by
  unfold reconcile at h
  cases hkeys : keyColumns s.table with
  | error e =>
    rw [hkeys] at h
    cases h
  | ok keys =>
    rw [hkeys] at h
    rw [← Except.ok.inj h]
    exact spares_matchRows

/-- A batch by identifiers is stranded in `staging` if its SELECT is refused. -/
theorem lands_fetchByIds (hscope : scope s.table ids f = .ok query) :
    Lands false (· = .staging) (s.fetchByIds ids query.1 query.2) (· = .staging) := by
  intro p hbefore
  cases hrows : (p.reply (s.selectRequest query)).rowSet with
  | error e =>
    have hreply := Reply.rowSet_eq_error_iff.1 hrows
    refine ⟨_, _, _, _, s.runs_fetchByIds_error ids hrows, fun _ => ?_, id⟩
    rw [stranded?_singleton, Reply.isFailed_iff.2 ⟨e, hreply⟩, strandedPhase?_select]
    exact hbefore
  | ok rows =>
    obtain ⟨results, hresults⟩ := exists_reconcile hscope rows
    refine ⟨_, _, _, _, runs_fetchByIds hrows hresults, fun _ => ?_, hbefore⟩
    -- rows can only come from a reply that is no refusal
    have hreply : (p.reply (s.selectRequest query)).isFailed = false := by
      cases hreply : p.reply (s.selectRequest query) with
      | failed e =>
        rw [Reply.rowSet_eq_error_iff.2 hreply] at hrows
        cases hrows
      | _ => rfl
    rw [stranded?_singleton, hreply]
    rfl

/-- A fetched outcome has no failures but missing rows. -/
theorem spares_of_fetchByIds (hscope : scope s.table ids f = .ok query) {p q : Progress}
    {o : Outcome} (hrun : (s.fetchByIds ids query.1 query.2).run p = (.ok o, q)) :
    Spares ofRecords o := by
  cases hrows : (p.reply (s.selectRequest query)).rowSet with
  | error e =>
    rw [(s.runs_fetchByIds_error ids hrows).run] at hrun
    cases hrun
  | ok rows =>
    obtain ⟨results, hresults⟩ := exists_reconcile hscope rows
    rw [(runs_fetchByIds hrows hresults).run] at hrun
    cases hrun
    exact spares_reconcile hresults

/-- The fetch at the head of a batch, with what is known of its outcome passed on. -/
theorem lands_fetchByIds_bind {rest : Outcome → Work Outcome} {after : Phase → Prop}
    (hscope : scope s.table ids f = .ok query)
    (hrest : ∀ o, Spares false o → Lands false (· = .staging) (rest o) after) :
    Lands false (· = .staging) (s.fetchByIds ids query.1 query.2 >>= rest) after :=
  (lands_fetchByIds hscope).bind_of (fun _ _ _ => spares_of_fetchByIds hscope) hrest

/-- A statement that fails or changes another number of rows ends the batch in `failed`, by
`abort`. -/
theorem lands_changeExactly {expected : Nat} {r : Request} (hwrite : isWrite r = true) :
    Lands false before (s.changeExactly expected r) before := by
  refine (lands_change hwrite).bind fun count => ?_
  cases count with
  | error e => exact lands_abort id
  | ok affected =>
    dsimp only
    split
    · exact lands_abort id
    · exact Lands.pure () fun _ => id

theorem lands_stageChange {expected : Nat} {r : Request} (hwrite : isWrite r = true) :
    Lands false (· = .staging) (s.stageChange expected r) (· = .staging) :=
  lands_beginIfNeeded.bind fun _ => lands_changeExactly hwrite

theorem lands_endRetrieval {o : Outcome} (ho : Spares false o) :
    Lands false before (s.endRetrieval o) (· = .done) := by
  unfold endRetrieval
  split
  · exact lands_commitOpen_settle _ ho
  · exact lands_settle _ ho

/-- A deletion ends in `done`, unless a row is missing, its DELETE is undone or its COMMIT is
refused. -/
theorem lands_deleteFetched (hscope : scope s.table ids f = .ok query) {o : Outcome}
    (ho : Spares false o) : Lands false (· = .staging) (s.deleteFetched ids f o) (· = .done) := by
  unfold deleteFetched
  dsimp only
  split
  · exact Lands.of_failed (ho.not_refuses_aggregate "delete") fun p =>
      ⟨_, (runs_setPhase .failed p).bind_silent
        (runs_throw (s.aggregate "delete" o) _).bind_error, rfl⟩
  · split
    · exact (Lands.setPhase .done).bind fun _ => Lands.pure _ fun _ => id
    · -- what is found is part of what was asked for, so that it has a scope as well
      obtain ⟨target, htarget⟩ := exists_scope_of_subset (g := f) hscope (foundIds_subset (o := o))
      refine Lands.lift_bind htarget ?_
      exact (lands_stageChange (isWrite_deleteRequest s target)).bind fun _ =>
        lands_commitOpen_settle _ ho

theorem lands_readBackIds (hscope : scope s.table ids none = .ok query) :
    Lands false (· = .staging) (s.readBackIds ids) (· = .done) :=
  Lands.lift_bind hscope (lands_fetchByIds_bind hscope fun _ ho => lands_commitOpen_settle _ ho)

end Ids

end Setup

/-! ## All batches -/

/-- A batch is refused and leaves the state unchanged, or it ends as `Landed` says, in `done` if it
succeeds. -/
def Ends (ofRecords : Bool) (x : Work Outcome) : Prop :=
  ∀ p, ∃ r sent b q, Runs x p r sent b q ∧
    (q = p ∨ Landed ofRecords p (· = .done) sent q.phase r)

namespace Ends

variable {α : Type} {ofRecords : Bool}

/-- A batch first sets its phase, so its steps start from there. -/
theorem of_lands {x : Work Outcome} {phase : Phase}
    (hx : Lands ofRecords (· = phase) x (· = .done)) :
    Ends ofRecords (setPhase phase >>= fun _ => x) := by
  intro p
  obtain ⟨r, sent, b, q, hrun, hland⟩ := hx { p with phase := phase } rfl
  exact ⟨r, sent, b, q, (runs_setPhase phase p).bind_silent hrun, .inr hland⟩

theorem pure (o : Outcome) : Ends ofRecords (pure o) :=
  fun p => ⟨_, _, _, _, runs_pure o p, .inl rfl⟩

/-- A check that fails before the first request leaves the state unchanged. -/
theorem lift_bind {e : Except BatchError α} {f : α → Work Outcome}
    (hf : ∀ a, e = .ok a → Ends ofRecords (f a)) : Ends ofRecords (lift e >>= f) := by
  intro p
  cases he : e with
  | error fault => exact ⟨_, _, _, _, runs_lift_error rfl, .inl rfl⟩
  | ok a =>
    obtain ⟨r, sent, b, q, hrun, hend⟩ := hf a he p
    exact ⟨r, sent, b, q, runs_lift_bind rfl hrun, hend⟩

end Ends

namespace Setup

variable {s : Setup} {ids : List Identifier} {filter : Option String} {named : Filter.Named}

/-- The check of the key leaves the state unchanged. -/
theorem ends_keyed {verb : WriteVerb} {x : Work Outcome} (hx : Ends true x) :
    Ends true (if verb ≠ .create then lift (keyColumns s.table) >>= fun _ => x else x) := by
  split
  · exact Ends.lift_bind fun _ _ => hx
  · exact hx

theorem ends_write (verb : WriteVerb) (records : List Json) :
    Ends true (s.write verb records) := by
  refine Ends.lift_bind fun _ _ => ?_
  refine ends_keyed (Ends.of_lands (lands_beginIfNeeded.bind fun _ => ?_))
  refine (lands_writeAll verb 0 records).bind fun (results, undone) => ?_
  dsimp only
  split
  · exact lands_commitOpen_settle _ (spares_records _)
  · exact lands_settle _ (spares_records _)

/-- The checks of a batch by identifiers come before its phase is set, and its rows are fetched
next. -/
theorem ends_fetchScoped {rest : Option Filter.Predicate → Outcome → Work Outcome}
    (hrest : ∀ f query o, scope s.table ids f = .ok query → Spares false o →
      Lands false (· = .staging) (rest f o) (· = .done)) :
    Ends false (s.fetchScoped ids filter named rest) := by
  refine Ends.lift_bind fun _ _ => ?_
  dsimp only
  split
  · exact Ends.pure _
  · refine Ends.lift_bind fun (f, query) htarget => ?_
    obtain ⟨-, hscope⟩ := scopeQuery_eq_ok_iff.1 htarget
    exact Ends.of_lands (lands_fetchByIds_bind hscope fun o => hrest f query o hscope)

theorem ends_retrieveByIds : Ends false (s.retrieveByIds ids filter named) := by
  rw [retrieveByIds_eq]
  exact ends_fetchScoped fun _ _ _ _ ho => lands_endRetrieval ho

theorem ends_deleteByIds : Ends false (s.deleteByIds ids filter named) := by
  rw [deleteByIds_eq]
  exact ends_fetchScoped fun _ _ _ hscope ho => lands_deleteFetched hscope ho

/-- The checks of an update come before its phase is set, and its statement next. -/
theorem ends_updateByIds {fields : Record} :
    Ends false (s.updateByIds ids fields filter named) := by
  rw [updateByIds_eq]
  refine Ends.lift_bind fun _ _ => ?_
  split
  · exact Ends.pure _
  · refine Ends.lift_bind fun change hchange => ?_
    have hwrite := isWrite_of_updateRequest hchange
    -- the rows are read back without the filter, by identifiers that had a scope with it
    obtain ⟨_, f, target, -, -, hscope, -⟩ := exists_of_updateRequest hchange
    obtain ⟨query, hquery⟩ := exists_scope_of_subset (g := none) hscope fun _ => id
    exact Ends.of_lands ((lands_stageChange hwrite).bind fun _ => lands_readBackIds hquery)

end Setup

namespace Operation

variable {s : Setup} {p : Progress}

/-- The batch is one of records. -/
def isOfRecords : Operation → Bool
  | write _ _ => true
  | _ => false

/-- The phase that goes with an answer: `done` for an outcome, `failed` for a fault. -/
def endPhase : Except BatchError Outcome → Phase
  | .ok _ => .done
  | .error _ => .failed

/-- Every batch is refused unchanged or lands. -/
theorem ends_work (s : Setup) (op : Operation) : Ends op.isOfRecords (op.work s) := by
  cases op with
  | write verb records => exact Setup.ends_write verb records
  | retrieveByIds ids filter named => exact Setup.ends_retrieveByIds
  | deleteByIds ids filter named => exact Setup.ends_deleteByIds
  | updateByIds ids fields filter named => exact Setup.ends_updateByIds

/-- A stranded phase is neither `done` nor `failed`. -/
theorem ne_endPhase_of_strandedPhase? {ofRecords : Bool} {r : Request} {phase : Phase}
    (h : strandedPhase? ofRecords r = some phase) (answer : Except BatchError Outcome) :
    phase ≠ endPhase answer := by
  have hphase : phase = .staging ∨ phase = .committing ∨ phase = .rollingBack := by
    unfold strandedPhase? at h
    grind
  cases answer <;> rcases hphase with rfl | rfl | rfl <;> simp [endPhase]

/-- A batch that has sent something ends in the phase of its answer exactly if its last request did
not strand it; if it did, in the phase in which that request was sent. -/
theorem phase_stop (hbegin : p.Begins) (op : Operation)
    (hsent : sentBetween p (op.stop s p) ≠ []) :
    ((op.stop s p).phase = endPhase (op.answer s p) ↔
      stranded? op.isOfRecords p (sentBetween p (op.stop s p)) = none) ∧
    (op.stop s p).phase = (stranded? op.isOfRecords p (sentBetween p (op.stop s p))).getD
      (endPhase (op.answer s p)) := by
  obtain ⟨r, sent, b, q, hrun, hend⟩ := op.ends_work s p
  have hphase : q.phase = (stranded? op.isOfRecords p sent).getD (endPhase r) := by
    rcases hend with rfl | hland
    · -- a batch that was left alone has sent nothing
      rw [stop, hrun.run, sentBetween, List.drop_length] at hsent
      exact absurd rfl hsent
    · cases r with
      | ok o =>
        obtain ⟨hnone, hdone⟩ := hland
        rw [hnone hbegin]
        exact hdone
      | error e => exact hland.1 hbegin
  -- a stranded phase is never that of the answer
  rw [stop, answer, hrun.run, hrun.sentBetween_eq]
  refine ⟨?_, hphase⟩
  show q.phase = endPhase r ↔ _
  rw [hphase]
  cases hstranded : stranded? op.isOfRecords p sent with
  | none => exact iff_of_true rfl rfl
  | some phase =>
    obtain ⟨last, -, hlast⟩ := Option.bind_eq_some_iff.1 hstranded
    exact iff_of_false (ne_endPhase_of_strandedPhase? hlast r) (by simp)

/-- An update is stranded by its refused read-back. -/
theorem stranded_renameBoth :
    stranded? false (starting unreadableEngine) (sentBetween (starting unreadableEngine)
      (renameBoth.stop undoingAccounts (starting unreadableEngine))) ≠ none := by
  have hphase : (renameBoth.stop undoingAccounts (starting unreadableEngine)).phase ≠
      endPhase (renameBoth.answer undoingAccounts (starting unreadableEngine)) := by
    decide +kernel
  exact fun hnone => hphase
    ((phase_stop (by decide) renameBoth (by decide +kernel)).1.2 hnone)

/-- A retrieval of one account. -/
def retrieveFirst : Operation := retrieveByIds [[.int 1]] none []

/-- A retrieval whose SELECT is refused answers with a fault but stays in `staging`. -/
theorem phase_stop_retrieveFirst :
    sentBetween (starting unreadableEngine)
        (retrieveFirst.stop stoppingAccounts (starting unreadableEngine)) ≠ [] ∧
      endPhase (retrieveFirst.answer stoppingAccounts (starting unreadableEngine)) = .failed ∧
      (retrieveFirst.stop stoppingAccounts (starting unreadableEngine)).phase = .staging := by
  decide +kernel

end Operation

end Snowbridge.Batch
