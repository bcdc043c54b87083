import Snowbridge.Catalog.Error
import Snowbridge.Proofs.Session.Reply
import Snowbridge.Session.Script

/-!
# What running a script promises

The listing of a script and its run put commands and directives in the same order. A run issues the
statements of the listing from the first on, up to the first that fails (`Issues`): each statement
either ends the run there, under its number, or leaves the rest to a session that has logged one
more request.
-/

namespace Snowbridge

/-- Renaming faults does not change what a call does to the session. -/
theorem run_mapError {ε ε' α : Type} (f : ε → ε') (c : Call ε α) (s : Session) :
    (Call.mapError f c).run s = ((c.run s).1.mapError f, (c.run s).2) := rfl

namespace Script

variable {e : Engine} {log : List Request} {n : Nat} {rs rs' issued issued' : List Request}
  {r : Request} {fault : DatabaseError} {stop : Option DatabaseError}

/-! ## Issuing requests one after another -/

/-- `Issues e log n rs issued stop`: of the requests `rs`, numbered from `n`, the prefix `issued` is
sent up to the first that fails, and `stop` is its fault under its number. -/
inductive Issues (e : Engine) : List Request → Nat → List Request → List Request →
    Option DatabaseError → Prop where
  | done {log : List Request} {n : Nat} : Issues e log n [] [] none
  | fails {log : List Request} {n : Nat} {r : Request} {rs : List Request} {fault : DatabaseError}
      (hfails : e.answer log r = .failed fault) :
      Issues e log n (r :: rs) [r] (some (.scriptFailed n r.sql fault))
  | goesOn {log : List Request} {n : Nat} {r : Request} {rs issued : List Request}
      {stop : Option DatabaseError} (hsucceeds : (e.answer log r).Succeeds)
      (hrest : Issues e (log ++ [r]) (n + 1) rs issued stop) :
      Issues e log n (r :: rs) (r :: issued) stop

namespace Issues

/-- What is issued is a prefix of what was to be issued. -/
theorem issued_prefix (h : Issues e log n rs issued stop) : issued <+: rs := by
  induction h with
  | done => exact List.prefix_rfl
  | fails _ => exact ⟨_, rfl⟩
  | goesOn _ _ ih => exact (List.prefix_cons_inj _).2 ih

/-- A request that fails is the last one issued, and the run stops with its fault and number. -/
theorem of_failed (h : Issues e log n rs issued stop) {k : Nat} (hr : issued[k]? = some r)
    (hfails : e.answer (log ++ issued.take k) r = .failed fault) :
    issued.length = k + 1 ∧ stop = some (.scriptFailed (n + k) r.sql fault) := by
  induction h generalizing k with
  | done => cases hr
  | @fails log n r' rs fault' hfails' =>
    obtain ⟨hk, rfl⟩ : k = 0 ∧ r' = r := by
      cases k with
      | zero => exact ⟨rfl, Option.some.inj hr⟩
      | succ k => cases hr
    subst hk
    rw [List.take_zero, List.append_nil, hfails'] at hfails
    cases hfails
    exact ⟨rfl, rfl⟩
  | @goesOn log n r' rs issued stop hsucceeds _ ih =>
    cases k with
    | zero =>
      cases hr
      -- this request was accepted
      rw [List.take_zero, List.append_nil] at hfails
      exact absurd hfails (hsucceeds fault)
    | succ k =>
      rw [List.take_succ_cons, List.append_cons] at hfails
      -- the failure lies in the rest, where numbers are one higher
      obtain ⟨hlength, hstop⟩ := ih hr hfails
      refine ⟨congrArg Nat.succ hlength, ?_⟩
      rw [hstop, Nat.add_right_comm, Nat.add_assoc]

/-- A run does not stop exactly if all requests are issued and accepted. -/
theorem stop_eq_none_iff (h : Issues e log n rs issued stop) : stop = none ↔
    issued = rs ∧ ∀ k r, issued[k]? = some r → (e.answer (log ++ issued.take k) r).Succeeds := by
  constructor
  · intro hnone
    subst hnone
    refine ⟨?_, fun k r hr fault hfails => ?_⟩
    · -- only a failure cuts a run short
      generalize hstop : (none : Option DatabaseError) = stop at h
      induction h with
      | done => rfl
      | fails _ => cases hstop
      | goesOn _ _ ih => rw [ih hstop]
    · exact nomatch (h.of_failed hr hfails).2
  · rintro ⟨hall, hsucceeds⟩
    induction h with
    | done => rfl
    | @fails log n r rs fault hfails =>
      have hfirst := hsucceeds 0 r rfl
      rw [List.take_zero, List.append_nil] at hfirst
      exact absurd hfails (hfirst fault)
    | goesOn _ _ ih =>
      refine ih (List.cons.inj hall).2 fun k r hr => ?_
      have hlater := hsucceeds (k + 1) r hr
      rwa [List.take_succ_cons, List.append_cons] at hlater

/-- A run that stops has issued a last request, which failed. -/
theorem exists_of_stop (h : Issues e log n rs issued (some fault)) :
    ∃ before r cause, issued = before ++ [r] ∧ e.answer (log ++ before) r = .failed cause := by
  generalize hstop : some fault = s at h
  induction h with
  | done => cases hstop
  | @fails log n r rs cause hfails => exact ⟨[], r, cause, rfl, by rwa [List.append_nil]⟩
  | @goesOn log n r rs issued stop _ _ ih =>
    obtain ⟨before, last, cause, rfl, hfails⟩ := ih hstop
    refine ⟨r :: before, last, cause, rfl, ?_⟩
    rwa [List.append_cons]

/-- Sequencing after a run that did not stop. -/
theorem append (h : Issues e log n rs issued none)
    (hrest : Issues e (log ++ issued) (n + issued.length) rs' issued' stop) :
    Issues e log n (rs ++ rs') (issued ++ issued') stop := by
  generalize hstop : (none : Option DatabaseError) = s at h
  induction h with
  | done =>
    rw [List.append_nil, List.length_nil, Nat.add_zero] at hrest
    exact hrest
  | fails _ => cases hstop
  | goesOn hsucceeds _ ih =>
    rw [List.append_cons, List.length_cons, Nat.add_comm _ 1, ← Nat.add_assoc] at hrest
    exact .goesOn hsucceeds (ih hrest hstop)

/-- A run that has stopped issues nothing more. -/
theorem append_of_stop (h : Issues e log n rs issued (some fault)) (rs' : List Request) :
    Issues e log n (rs ++ rs') issued (some fault) := by
  generalize hstop : some fault = s at h ⊢
  induction h with
  | done => cases hstop
  | fails hfails => exact .fails hfails
  | goesOn hsucceeds _ ih => exact .goesOn hsucceeds (ih hstop)

end Issues

/-! ## Statements -/

/-- The session after some requests. -/
def sentBy (s : Session) (issued : List Request) : Session := { s with log := s.log ++ issued }

@[simp] theorem sentBy_sentBy (s : Session) (issued issued' : List Request) :
    sentBy (sentBy s issued) issued' = sentBy s (issued ++ issued') := by
  rw [sentBy, sentBy, sentBy, List.append_assoc]

/-- The query of a script, with its fault under its number. -/
theorem run_query (n : Nat) (r : Request) (s : Session) :
    (numbered n r.sql (Session.execute r.sql r.params)).run s =
      ((s.reply r).rowSet.mapError (.scriptFailed n r.sql), sentBy s [r]) := by
  rw [numbered, run_mapError, Session.run_execute]
  rfl

/-- A statement of a script is accepted, or its fault is reported under its number. -/
theorem run_statement (n : Nat) (sql : String) (s : Session) :
    (s.reply ⟨sql, []⟩).Succeeds ∧
      (numbered n sql (Session.run sql)).run s = (.ok (), sentBy s [⟨sql, []⟩]) ∨
    ∃ fault, s.reply ⟨sql, []⟩ = .failed fault ∧
      (numbered n sql (Session.run sql)).run s =
        (.error (.scriptFailed n sql fault), sentBy s [⟨sql, []⟩]) := by
  cases hreply : (s.reply ⟨sql, []⟩).isFailed with
  | false =>
    left
    have hsucceeds := Reply.succeeds_iff.2 hreply
    refine ⟨hsucceeds, ?_⟩
    rw [numbered, run_mapError, Session.run_run hsucceeds]
    rfl
  | true =>
    right
    obtain ⟨fault, hfails⟩ := Reply.isFailed_iff.1 hreply
    refine ⟨fault, hfails, ?_⟩
    rw [numbered, run_mapError, Session.run_run_failed hfails]
    rfl

/-- The requests of captures: each command, and right after it its directive. -/
def captureRequests : List Capture → List Request
  | [] => []
  | c :: cs => ⟨c.command, []⟩ :: ⟨c.directive, []⟩ :: captureRequests cs

/-- Induction on the captures: they issue their requests, and the number of the last is returned. -/
theorem run_runCaptures (n : Nat) (cs : List Capture) (s : Session) :
    ∃ issued stop, Issues s.engine s.log (n + 1) (captureRequests cs) issued stop ∧
      (runCaptures n cs).run s =
        ((match stop with
          | none => .ok (n + issued.length)
          | some fault => .error fault), sentBy s issued) := by
  induction cs generalizing n s with
  | nil =>
    refine ⟨[], none, .done, ?_⟩
    show _ = (Except.ok n, { s with log := s.log ++ [] })
    rw [List.append_nil]
    rfl
  | cons c cs ih =>
    -- the command of the first capture, then its directive, then the other captures
    rcases run_statement (n + 1) c.command s with ⟨hfirst, hcommand⟩ | ⟨fault, hfails, hcommand⟩
    · rcases run_statement (n + 2) c.directive (sentBy s [⟨c.command, []⟩]) with
        ⟨hsecond, hdirective⟩ | ⟨fault, hfails, hdirective⟩
      · obtain ⟨issued, stop, hissues, hrun⟩ :=
          ih (n + 2) (sentBy (sentBy s [⟨c.command, []⟩]) [⟨c.directive, []⟩])
        refine ⟨_, stop, .goesOn hfirst (.goesOn hsecond hissues), ?_⟩
        rw [runCaptures, run_bind_ok hcommand, run_bind_ok hdirective, hrun]
        cases stop with
        | none => simp [sentBy, Nat.add_assoc, Nat.add_comm 2]
        | some fault => simp [sentBy]
      · refine ⟨_, _, .goesOn hfirst (.fails hfails), ?_⟩
        rw [runCaptures, run_bind_ok hcommand, run_bind_error hdirective]
        simp [sentBy]
    · exact ⟨_, _, .fails hfails, run_bind_error hcommand⟩

/-! ## The listing -/

/-- The requests of a script: its query with the values of the script, after the other statements of
its listing, which have none. -/
def requests (sc : Script) : List Request :=
  (sc.statements.dropLast.map fun sql => ⟨sql, []⟩) ++ [⟨sc.query, sc.params⟩]

/-- The requests of captures are their commands and directives in turn. -/
theorem captureRequests_eq (cs : List Capture) : captureRequests cs =
    (cs.flatMap fun c => [c.command, c.directive]).map fun sql => ⟨sql, []⟩ := by
  induction cs with
  | nil => rfl
  | cons c cs ih =>
    rw [captureRequests, ih]
    rfl

/-- The requests of a script are those of its captures, and then its query. -/
theorem requests_eq (sc : Script) :
    sc.requests = captureRequests sc.captures ++ [⟨sc.query, sc.params⟩] := by
  rw [requests, statements, List.dropLast_concat, captureRequests_eq]

/-- The requests of a script have the texts of its listing. -/
theorem sql_requests (sc : Script) : sc.requests.map Request.sql = sc.statements := by
  rw [requests_eq, captureRequests_eq, List.map_append, List.map_map, statements]
  exact congrArg (· ++ [sc.query]) (List.map_id _)

/-- The request issued at a place has the text listed at that place. -/
theorem statement_of_issued (sc : Script) {k : Nat} (h : issued <+: sc.requests)
    (hr : issued[k]? = some r) : sc.statements[k]? = some r.sql := by
  obtain ⟨later, hrequests⟩ := h
  have hk : k < issued.length := (List.getElem?_eq_some_iff.1 hr).1
  rw [← sc.sql_requests, List.getElem?_map, ← hrequests, List.getElem?_append_left hk, hr]
  rfl

/-- A script issues its requests and returns the rows of its query, or the fault at which it
stops. -/
theorem run_issues (sc : Script) (s : Session) : ∃ issued result,
    sc.run.run s = (result, sentBy s issued) ∧
      ((∃ rows, result = .ok rows ∧ Issues s.engine s.log 1 sc.requests issued none ∧
          (s.engine.answer (s.log ++ issued.dropLast) ⟨sc.query, sc.params⟩).rowSet = .ok rows) ∨
        ∃ fault, result = .error fault ∧
          Issues s.engine s.log 1 sc.requests issued (some fault)) := by
  rw [requests_eq]
  obtain ⟨issued, stop, hissues, hrun⟩ := run_runCaptures 0 sc.captures s
  cases stop with
  | some fault =>
    exact ⟨issued, _, run_bind_error hrun, .inr ⟨fault, rfl, hissues.append_of_stop _⟩⟩
  | none =>
    -- the query comes after the captures, under the next number
    have hquery := run_query (0 + issued.length + 1) ⟨sc.query, sc.params⟩ (sentBy s issued)
    rw [sentBy_sentBy] at hquery
    refine ⟨issued ++ [⟨sc.query, sc.params⟩], _, (run_bind_ok hrun).trans hquery, ?_⟩
    have hnumber : 1 + issued.length = 0 + issued.length + 1 := by omega
    rw [List.dropLast_concat]
    cases hrows : ((sentBy s issued).reply ⟨sc.query, sc.params⟩).rowSet with
    | ok rows =>
      refine .inl ⟨rows, rfl, hissues.append (.goesOn ?_ .done), hrows⟩
      intro fault hfails
      cases hrows.symm.trans (Reply.rowSet_eq_error_iff.2 hfails)
    | error fault =>
      refine .inr ⟨_, rfl, hissues.append ?_⟩
      rw [hnumber]
      exact .fails (Reply.rowSet_eq_error_iff.1 hrows)

/-! ## The promise -/

/-- What running a script promises, from the requests that it issues and from what comes of it. -/
structure Promise (sc : Script) (s : Session) (issued : List Request)
    (result : Except DatabaseError RowSet) : Prop where
  /-- The statements are those of the listing, in its order. -/
  listed : sc.requests.map Request.sql = sc.statements ∧ issued <+: sc.requests
  /-- The script ends with rows if and only if all its statements are issued and succeed. -/
  ok_iff : (∃ rows, result = .ok rows) ↔ issued = sc.requests ∧
    ∀ k r, issued[k]? = some r → (s.engine.answer (s.log ++ issued.take k) r).Succeeds
  /-- The rows are those of the last statement. -/
  rows_eq : ∀ rows, result = .ok rows →
    (s.engine.answer (s.log ++ issued.dropLast) ⟨sc.query, sc.params⟩).rowSet = .ok rows
  /-- Nothing but a failure ends the script before all its statements are issued. -/
  stopped : ∀ fault, result = .error fault → ∃ before r cause,
    issued = before ++ [r] ∧ s.engine.answer (s.log ++ before) r = .failed cause
  /-- A statement that fails is the last one, and the fault tells its number, which counts from one,
  its text and what the engine has said. -/
  failed : ∀ k r fault, issued[k]? = some r →
    s.engine.answer (s.log ++ issued.take k) r = .failed fault →
    issued.length = k + 1 ∧ sc.statements[k]? = some r.sql ∧
      result = .error (.scriptFailed (k + 1) r.sql fault) ∧
      result.mapError Catalog.CatalogError.ofDatabase = .error (.introspection r.sql fault)

/-- Running a script keeps its promise, for every script and every engine. -/
theorem run_keeps_listing (sc : Script) (s : Session) : ∃ issued result,
    sc.run.run s = (result, { s with log := s.log ++ issued }) ∧ sc.Promise s issued result := by
  obtain ⟨issued, result, hrun, hends⟩ := sc.run_issues s
  refine ⟨issued, result, hrun, ?_⟩
  rcases hends with ⟨rows, rfl, hissues, hrows⟩ | ⟨fault, rfl, hissues⟩
  · have hall := hissues.stop_eq_none_iff.1 rfl
    exact {
      listed := ⟨sc.sql_requests, hissues.issued_prefix⟩
      ok_iff := ⟨fun _ => hall, fun _ => ⟨rows, rfl⟩⟩
      rows_eq := by
        rintro _ ⟨⟩
        exact hrows
      stopped := by
        rintro fault ⟨⟩
      failed := by
        intro k r fault hr hfails
        exact absurd hfails (hall.2 k r hr fault) }
  · exact {
      listed := ⟨sc.sql_requests, hissues.issued_prefix⟩
      ok_iff := by
        constructor
        · rintro ⟨rows, hok⟩
          cases hok
        · intro hall
          cases hissues.stop_eq_none_iff.2 hall
      rows_eq := by
        rintro rows ⟨⟩
      stopped := fun _ _ => hissues.exists_of_stop
      failed := by
        intro k r cause hr hfails
        obtain ⟨hlength, hstop⟩ := hissues.of_failed hr hfails
        cases Option.some.inj hstop
        rw [Nat.add_comm 1 k]
        exact ⟨hlength, sc.statement_of_issued hissues.issued_prefix hr, rfl, rfl⟩ }

end Script

end Snowbridge
