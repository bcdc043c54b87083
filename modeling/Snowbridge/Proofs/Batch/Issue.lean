import Snowbridge.Proofs.Batch.Transaction

/-!
# Statements that batches send

Whatever an engine replies, also to the statements that open and close transactions, a batch only
sends statements of a few forms (`Issued`), and the fields that it writes are those that it was
given (`Operation.Offers`). Each step of a batch keeps to these forms and so does what is put
together from such steps (`Sends.bind`), hence every batch does (`sends_work`).
-/

namespace Snowbridge.Batch

/-- A batch was given some fields to write, as one of its records or as those of an update. -/
inductive Operation.Offers : Operation → Record → Prop where
  | record {verb : WriteVerb} {records : List Json} {fields : Record}
      (hrecord : .obj fields ∈ records) : Offers (.write verb records) fields
  | update {ids : List Identifier} {fields : Record} {filter : Option String}
      {named : Filter.Named} : Offers (.updateByIds ids fields filter named) fields

/-- A batch of records is given the fields of its records. -/
theorem Operation.offers_write_iff {verb : WriteVerb} {records : List Json} {fields : Record} :
    (write verb records).Offers fields ↔ .obj fields ∈ records := by
  refine ⟨?_, .record⟩
  rintro ⟨hrecord⟩
  exact hrecord

/-- The statements that a batch may send, given the fields that it may write. -/
inductive Issued (s : Setup) (e : Engine) (offers : Record → Prop) : Request → Prop where
  | begin : Issued s e offers e.beginRequest
  | commit : Issued s e offers commitRequest
  | rollback : Issued s e offers rollbackRequest
  | write {verb : WriteVerb} {fields : Record} {r : Request} (hoffers : offers fields)
      (hwrite : writeRecord s.table verb fields = .ok r) : Issued s e offers r
  | readBack {fields : Record} {query : String × List Value}
      (hquery : readBackQuery? s.table fields = some query) :
      Issued s e offers (s.selectRequest query)
  | fetch {ids : List Identifier} {filter : Option String} {named : Filter.Named}
      {f : Option Filter.Predicate} {query : String × List Value}
      (hf : s.predicate filter named = .ok f) (hscope : scope s.table ids f = .ok query) :
      Issued s e offers (s.selectRequest query)
  | delete {ids : List Identifier} {filter : Option String} {named : Filter.Named}
      {f : Option Filter.Predicate} {query : String × List Value}
      (hf : s.predicate filter named = .ok f) (hscope : scope s.table ids f = .ok query) :
      Issued s e offers (s.deleteRequest query)
  | update {ids : List Identifier} {fields : Record} {filter : Option String}
      {named : Filter.Named} {r : Request} (hoffers : offers fields)
      (hupdate : s.updateRequest ids fields filter named = .ok r) : Issued s e offers r

/-- `x` ends on every engine, and all its requests are of the forms `Issued` allows. -/
def Sends {α : Type} (s : Setup) (offers : Record → Prop) (x : Work α) : Prop :=
  ∀ p, ∃ r sent b q, Runs x p r sent b q ∧ ∀ req ∈ sent, Issued s p.session.engine offers req

namespace Sends

variable {α β : Type} {s : Setup} {offers : Record → Prop} {x : Work α} {f : α → Work β}

/-! ## Composition -/

/-- What a sequence sends is sent by its first part or by the rest. -/
theorem bind (hx : Sends s offers x) (hf : ∀ a, Sends s offers (f a)) :
    Sends s offers (x >>= f) := by
  intro p
  obtain ⟨r, sent, b, q, hrun, hsent⟩ := hx p
  cases r with
  | error e => exact ⟨_, _, _, _, hrun.bind_error, hsent⟩
  | ok a =>
    obtain ⟨r', sent', b', q', hrun', hsent'⟩ := hf a q
    rw [hrun.engine] at hsent'
    refine ⟨_, _, _, _, hrun.bind hrun', fun req hreq => ?_⟩
    rcases List.mem_append.1 hreq with hfirst | hrest
    · exact hsent req hfirst
    · exact hsent' req hrest

/-- A step without requests. -/
theorem of_silent (h : ∀ p, ∃ r b q, Runs x p r [] b q) : Sends s offers x := by
  intro p
  obtain ⟨r, b, q, hrun⟩ := h p
  refine ⟨r, [], b, q, hrun, fun req hreq => ?_⟩
  cases hreq

/-- A step with one request, of an allowed form. -/
theorem of_single {req : Request} (h : ∀ p, ∃ r b q, Runs x p r [req] b q)
    (hreq : ∀ e, Issued s e offers req) : Sends s offers x := by
  intro p
  obtain ⟨r, b, q, hrun⟩ := h p
  refine ⟨r, [req], b, q, hrun, fun req' hreq' => ?_⟩
  rw [List.mem_singleton.1 hreq']
  exact hreq _

theorem pure (a : α) : Sends s offers (pure a) := of_silent fun p => ⟨_, _, _, runs_pure a p⟩

theorem throw (e : BatchError) : Sends s offers (throw e : Work α) :=
  of_silent fun p => ⟨_, _, _, runs_throw e p⟩

/-- Nothing follows a fault. -/
theorem throw_bind {e : BatchError} : Sends s offers (MonadExcept.throw e >>= f) :=
  of_silent fun p => ⟨_, _, _, (runs_throw e p).bind_error⟩

/-- A check without the session sends nothing; if it passes, the rest may use its result. -/
theorem lift_bind {e : Except BatchError α} (hf : ∀ a, e = .ok a → Sends s offers (f a)) :
    Sends s offers (lift e >>= f) := by
  intro p
  cases he : e with
  | error fault =>
    refine ⟨_, [], _, _, runs_lift_error rfl, fun req hreq => ?_⟩
    cases hreq
  | ok a =>
    obtain ⟨r, sent, b, q, hrun, hsent⟩ := hf a he p
    exact ⟨r, sent, b, q, runs_lift_bind rfl hrun, hsent⟩

theorem setPhase (phase : Phase) : Sends s offers (setPhase phase) :=
  of_silent fun p => ⟨_, _, _, runs_setPhase phase p⟩

theorem notify (n : Notice) : Sends s offers (notify n) :=
  of_silent fun p => ⟨_, _, runs_notify n p⟩

theorem inTransaction : Sends s offers inTransaction :=
  of_silent fun p => ⟨_, _, _, runs_inTransaction p⟩

theorem get : Sends s offers get := of_silent fun p => ⟨_, _, _, runs_get p⟩

/-- A call on the session sends the same requests when its fault ends the batch. -/
theorem call {c : Call DatabaseError α} (h : Sends s offers (onSession c)) :
    Sends s offers (call c) := by
  refine h.bind fun result => ?_
  cases result with
  | ok a => exact pure a
  | error e => exact throw _

end Sends

/-! ## Transactions -/

namespace Setup

variable {s : Setup} {offers : Record → Prop}

/-- The statement for BEGIN is the engine's own. -/
theorem sends_begin : Sends s offers (call Session.begin) := by
  intro p
  obtain ⟨r, b, q, hrun⟩ := exists_runs_transact p.session.engine.beginText true p
  have hbegin : Runs (call Session.begin) p r [p.session.engine.beginRequest] b q :=
    hrun.call_congr rfl
  refine ⟨r, _, b, q, hbegin, fun req hreq => ?_⟩
  rw [List.mem_singleton.1 hreq]
  exact .begin

theorem sends_beginIfNeeded : Sends s offers s.beginIfNeeded := by
  refine Sends.inTransaction.bind fun isOpen => ?_
  split
  · exact sends_begin
  · exact Sends.pure ()

/-- A ROLLBACK may be sent, if one is due. -/
theorem issued_undoing {b : Bool} {e : Engine} : ∀ req ∈ undoing b, Issued s e offers req :=
  forall_mem_optional .rollback b

/-- A rollback sends at most a ROLLBACK. -/
theorem sends_rollback : Sends s offers s.rollback := by
  intro p
  obtain ⟨r, b, q, hrun⟩ := s.exists_runs_rollback p
  exact ⟨r, _, b, q, hrun, issued_undoing⟩

/-- `commitOpen` sends at most a COMMIT. -/
theorem sends_commitOpen : Sends s offers s.commitOpen := by
  refine Sends.inTransaction.bind fun isOpen => ?_
  split
  · refine (Sends.setPhase _).bind fun _ => ?_
    exact Sends.of_single (fun p => exists_runs_transact "COMMIT" false p) fun _ => .commit
  · exact Sends.pure ()

/-- `abort` sends what the rollback sends, also if that is refused. -/
theorem sends_abort {α : Type} (e : BatchError) : Sends s offers (s.abort e : Work α) := by
  intro p
  obtain ⟨b, q, hrun, -⟩ := s.exists_runs_abort (α := α) e p
  exact ⟨_, _, b, q, hrun, issued_undoing⟩

theorem sends_settle (action : String) (o : Outcome) : Sends s offers (s.settle action o) :=
  Sends.of_silent fun p => ⟨_, _, s.runs_settle action o p⟩

/-! ## Batches of records -/

theorem sends_fetch {query : String × List Value}
    (hquery : ∀ e, Issued s e offers (s.selectRequest query)) :
    Sends s offers (onSession (s.fetch query.1 query.2)) := by
  refine Sends.of_single (fun p => ?_) hquery
  exact ⟨_, _, _, runs_onSession (s.run_fetch query p.session) rfl rfl⟩

theorem sends_change {r : Request} (hr : ∀ e, Issued s e offers r) :
    Sends s offers (onSession (Session.change r.sql r.params)) :=
  Sends.of_single (fun p => ⟨_, _, _, runs_change r p⟩) hr

/-- A read-back sends the SELECT by the key of the fields. -/
theorem sends_readBack (fields : Record) : Sends s offers (s.readBack fields) := by
  unfold readBack
  cases hquery : readBackQuery? s.table fields with
  | none => exact Sends.pure _
  | some query =>
    refine (sends_fetch fun _ => .readBack hquery).bind fun rows => ?_
    cases rows with
    | ok rows => exact Sends.pure _
    | error e => exact (Sends.notify _).bind fun _ => Sends.pure _

/-- Writing one record sends its statement and perhaps its read-back. -/
theorem sends_writeFields (verb : WriteVerb) (index : Nat) {fields : Record}
    (hoffers : offers fields) :
    Sends s offers (s.writeFields verb index fields) := by
  unfold writeFields
  cases hwrite : writeRecord s.table verb fields with
  | error reason => exact Sends.pure _
  | ok r =>
    refine (sends_change fun _ => .write hoffers hwrite).bind fun count => ?_
    cases count with
    | error e => exact Sends.pure _
    | ok affected =>
      dsimp only
      split
      · exact Sends.pure _
      · split
        · exact Sends.pure _
        · exact (sends_readBack fields).bind fun _ => Sends.pure _

theorem sends_writeOne (verb : WriteVerb) (index : Nat) {record : Json}
    (hoffers : ∀ fields, record = .obj fields → offers fields) :
    Sends s offers (s.writeOne verb index record) := by
  cases record with
  | obj fields => exact sends_writeFields verb index (hoffers fields rfl)
  | _ => exact Sends.pure _

/-- Induction on the records: each is offered by the batch. -/
theorem sends_writeAll (verb : WriteVerb) (index : Nat) {records : List Json}
    (hoffers : ∀ fields, .obj fields ∈ records → offers fields) :
    Sends s offers (s.writeAll verb index records) := by
  -- induction on the records, which share the policy
  induction records generalizing index with
  | nil => exact Sends.pure _
  | cons record records ih =>
    have hfirst : ∀ fields, record = .obj fields → offers fields := by
      rintro fields rfl
      exact hoffers fields List.mem_cons_self
    have hrest : ∀ index, Sends s offers (s.writeAll verb index records) := fun index =>
      ih index fun fields hfields => hoffers fields (List.mem_cons_of_mem _ hfields)
    refine (sends_writeOne verb index hfirst).bind fun written => ?_
    cases written with
    | ok written => exact (hrest (index + 1)).bind fun _ => Sends.pure _
    | error e =>
      refine (Sends.notify _).bind fun _ => ?_
      cases hpolicy : s.policy with
      | goOn => exact (hrest (index + 1)).bind fun _ => Sends.pure _
      | rollBack => exact sends_rollback.bind fun _ => Sends.pure _
      | stop => exact Sends.pure _

/-- The check of the key sends nothing. -/
theorem sends_keyed {α : Type} {verb : WriteVerb} {x : Work α} (hx : Sends s offers x) :
    Sends s offers (if verb ≠ .create then lift (keyColumns s.table) >>= fun _ => x else x) := by
  split
  · exact Sends.lift_bind fun _ _ => hx
  · exact hx

/-- A batch of records sends allowed forms only. -/
theorem sends_write (verb : WriteVerb) {records : List Json}
    (hoffers : ∀ fields, .obj fields ∈ records → offers fields) :
    Sends s offers (s.write verb records) := by
  refine Sends.lift_bind fun _ _ => ?_
  refine sends_keyed ((Sends.setPhase _).bind fun _ => sends_beginIfNeeded.bind fun _ => ?_)
  refine (sends_writeAll verb 0 hoffers).bind fun (results, undone) => ?_
  dsimp only
  split
  · exact sends_commitOpen.bind fun _ => sends_settle _ _
  · exact sends_settle _ _

/-! ## Batches by identifier -/

section Ids

variable {ids : List Identifier} {filter : Option String} {named : Filter.Named}

theorem sends_fetchByIds {query : String × List Value}
    (hquery : ∀ e, Issued s e offers (s.selectRequest query)) :
    Sends s offers (s.fetchByIds ids query.1 query.2) := by
  refine (Sends.call (sends_fetch hquery)).bind fun rows => ?_
  exact Sends.lift_bind fun _ _ => Sends.pure _

/-- A statement that must change a number of rows may be followed by a ROLLBACK. -/
theorem sends_changeExactly {expected : Nat} {r : Request} (hr : ∀ e, Issued s e offers r) :
    Sends s offers (s.changeExactly expected r) := by
  refine (sends_change hr).bind fun count => ?_
  cases count with
  | error e => exact sends_abort _
  | ok affected =>
    dsimp only
    split
    · exact sends_abort _
    · exact Sends.pure ()

theorem sends_stageChange {expected : Nat} {r : Request} (hr : ∀ e, Issued s e offers r) :
    Sends s offers (s.stageChange expected r) :=
  sends_beginIfNeeded.bind fun _ => sends_changeExactly hr

theorem sends_commitOpen_settle (action : String) (o : Outcome) :
    Sends s offers (s.commitOpen >>= fun _ => s.settle action o) :=
  sends_commitOpen.bind fun _ => sends_settle action o

/-- A batch by identifiers sends the SELECT of its scope before the rest. -/
theorem sends_fetchScoped {rest : Option Filter.Predicate → Outcome → Work Outcome}
    (hrest : ∀ f o, s.predicate filter named = .ok f → Sends s offers (rest f o)) :
    Sends s offers (s.fetchScoped ids filter named rest) := by
  refine Sends.lift_bind fun _ _ => ?_
  dsimp only
  split
  · exact Sends.pure _
  · refine Sends.lift_bind fun (f, query) htarget => ?_
    obtain ⟨hf, hscope⟩ := scopeQuery_eq_ok_iff.1 htarget
    refine (Sends.setPhase _).bind fun _ => ?_
    exact (sends_fetchByIds fun _ => .fetch hf hscope).bind fun o => hrest f o hf

theorem sends_retrieveByIds : Sends s offers (s.retrieveByIds ids filter named) := by
  rw [retrieveByIds_eq]
  refine sends_fetchScoped fun _ o _ => ?_
  unfold endRetrieval
  split
  · exact sends_commitOpen_settle _ o
  · exact sends_settle _ o

/-- A deletion sends the SELECT of its scope and the DELETE of what was found. -/
theorem sends_deleteByIds : Sends s offers (s.deleteByIds ids filter named) := by
  rw [deleteByIds_eq]
  refine sends_fetchScoped fun f o hf => ?_
  unfold deleteFetched
  dsimp only
  split
  · exact (Sends.setPhase _).bind fun _ => Sends.throw_bind
  · split
    · exact (Sends.setPhase _).bind fun _ => Sends.pure _
    · refine Sends.lift_bind fun query hscope => ?_
      exact (sends_stageChange fun _ => .delete hf hscope).bind fun _ =>
        sends_commitOpen_settle _ o

theorem sends_readBackIds : Sends s offers (s.readBackIds ids) := by
  have hnone : s.predicate none [] = .ok none := rfl
  refine Sends.lift_bind fun query hscope => ?_
  exact (sends_fetchByIds fun _ => .fetch hnone hscope).bind fun o => sends_commitOpen_settle _ o

/-- An update sends its UPDATE and a SELECT of the same identifiers. -/
theorem sends_updateByIds {fields : Record} (hoffers : offers fields) :
    Sends s offers (s.updateByIds ids fields filter named) := by
  rw [updateByIds_eq]
  refine Sends.lift_bind fun _ _ => ?_
  split
  · exact Sends.pure _
  · refine Sends.lift_bind fun change hchange => (Sends.setPhase _).bind fun _ => ?_
    exact (sends_stageChange fun _ => .update hoffers hchange).bind fun _ => sends_readBackIds

end Ids

end Setup

/-! ## All batches -/

/-- Every batch sends allowed forms only. -/
theorem Operation.sends_work (s : Setup) (op : Operation) : Sends s op.Offers (op.work s) := by
  cases op with
  | write verb records => exact Setup.sends_write verb fun _ => Operation.offers_write_iff.2
  | retrieveByIds ids filter named => exact Setup.sends_retrieveByIds
  | deleteByIds ids filter named => exact Setup.sends_deleteByIds
  | updateByIds ids fields filter named => exact Setup.sends_updateByIds .update

/-- Every request between the start and the end of a batch has one of the forms of `Issued`,
whatever the engine replies. -/
theorem Operation.issued (s : Setup) (op : Operation) (p : Progress) :
    ∀ r ∈ sentBetween p (op.stop s p), Issued s p.session.engine op.Offers r := by
  obtain ⟨_, sent, _, q, hrun, hsent⟩ := op.sends_work s p
  rw [Operation.stop, hrun.run, hrun.sentBetween_eq]
  exact hsent

end Snowbridge.Batch
