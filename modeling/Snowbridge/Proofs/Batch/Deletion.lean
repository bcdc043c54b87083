import Snowbridge.Proofs.Batch.Identifier

/-!
# Deletions by identifier

How a deletion by identifiers may go. It fetches its rows first, and what it has found decides
whether it ends there or deletes the found rows, which is kept or undone as a whole (`Deletion`).
-/

namespace Snowbridge.Batch.Setup

variable {s : Setup} {p : Progress} {ids : List Identifier} {f : Option Filter.Predicate}
  {o : Outcome}

/-- The statement of a deletion. -/
def deleteRequest (s : Setup) (query : String × List Value) : Request :=
  ⟨"DELETE FROM " ++ s.table.quotedName ++ " WHERE " ++ query.1, query.2⟩

/-- A DELETE by identifiers is a write. -/
theorem isWrite_deleteRequest (s : Setup) (query : String × List Value) :
    isWrite (s.deleteRequest query) = true := by
  have hdelete : startsWith "DELETE FROM " (s.deleteRequest query) = true :=
    startsWith_where _ _ _ _ _
  rw [isWrite, hdelete, Bool.or_true]

/-- Deletes the rows that were found and ends the batch. -/
def deleteFound (s : Setup) (ids : List Identifier) (f : Option Filter.Predicate) (o : Outcome) :
    Work Outcome := do
  let query ← lift (scope s.table (foundIds ids o) f)
  s.stageChange (foundIds ids o).length (s.deleteRequest query)
  s.commitOpen
  s.settle "delete" o

/-- What a deletion does after its fetch: it fails for a missing row, unless failures are tolerated,
and deletes what was found. -/
def deleteFetched (s : Setup) (ids : List Identifier) (f : Option Filter.Predicate) (o : Outcome) :
    Work Outcome := do
  if !o.isSuccess && !s.policy.continues then
    setPhase .failed
    throw (s.aggregate "delete" o)
  if (foundIds ids o).isEmpty then
    setPhase .done
    return o
  s.deleteFound ids f o

/-- A deletion is a fetch followed by `deleteFetched`. -/
theorem deleteByIds_eq (s : Setup) (ids : List Identifier) (filter : Option String)
    (named : Filter.Named) : s.deleteByIds ids filter named =
      s.fetchScoped ids filter named fun f o => s.deleteFetched ids f o := by
  simp only [deleteByIds, fetchScoped, scopeQuery, deleteFetched, deleteFound, stageChange,
    lift_bind, bind_assoc]
  rfl

/-! ## Steps -/

/-- Only identifiers that were asked for are found. -/
theorem foundIds_subset : ∀ id ∈ foundIds ids o, id ∈ ids := by
  intro id hid
  obtain ⟨pair, hpair, rfl⟩ := List.mem_map.1 hid
  exact (List.of_mem_zip (List.mem_filter.1 hpair).1).1

/-- A missing row fails the deletion before its DELETE. -/
theorem runs_deleteFetched_missing (p : Progress) (ids : List Identifier)
    (f : Option Filter.Predicate) (hmissing : o.isSuccess = false)
    (hcontinues : s.policy.continues = false) :
    ∃ q, Runs (s.deleteFetched ids f o) p (.error (s.aggregate "delete" o)) [] p.isOpen q := by
  unfold deleteFetched
  rw [hmissing, hcontinues]
  exact ⟨_, (runs_setPhase .failed p).bind_silent (runs_throw _ _).bind_error⟩

/-- A deletion that finds no rows succeeds without a DELETE. -/
theorem runs_deleteFetched_nothing {o : Outcome}
    (hdone : (o.isSuccess || s.policy.continues) = true) (hnone : foundIds ids o = []) :
    ∃ q, Runs (s.deleteFetched ids f o) p (.ok o) [] p.isOpen q := by
  have hgoes : (!o.isSuccess && !s.policy.continues) = false := by
    rw [← Bool.not_or, hdone]
    rfl
  unfold deleteFetched
  rw [hgoes, hnone]
  exact ⟨_, (runs_setPhase .done p).bind_silent (runs_pure o _)⟩

/-- A deletion with rows to delete goes on to `deleteFound`. -/
theorem deleteFetched_eq {o : Outcome} (hdone : (o.isSuccess || s.policy.continues) = true)
    (hfound : foundIds ids o ≠ []) : s.deleteFetched ids f o = s.deleteFound ids f o := by
  have hgoes : (!o.isSuccess && !s.policy.continues) = false := by
    rw [← Bool.not_or, hdone]
    rfl
  have hnonempty : (foundIds ids o).isEmpty = false := by
    rw [List.isEmpty_eq_false_iff]
    exact hfound
  unfold deleteFetched
  rw [hgoes, hnonempty]
  rfl

section Found

variable {query : String × List Value}

/-- A DELETE of the expected number of rows is committed. -/
theorem runs_deleteFound (h : p.session.engine.Transactional)
    (hscope : scope s.table (foundIds ids o) f = .ok query)
    (hdone : (o.isSuccess || s.policy.continues) = true)
    (hcount : (p.replyAfter (s.opening p) (s.deleteRequest query)).count =
      .ok (foundIds ids o).length) :
    ∃ q, Runs (s.deleteFound ids f o) p (.ok o)
      (s.opening p ++ (s.deleteRequest query :: committing (s.policy.rollsBack || p.isOpen)))
      false q := by
  obtain ⟨q, hchange⟩ := runs_stageChange h hcount
  obtain ⟨q', hend⟩ := runs_commitOpen_settle (s := s) (hchange.engine ▸ h) "delete" o
  rw [answer_of_done hdone, hchange.flag] at hend
  have hall : Runs (s.stageChange (foundIds ids o).length (s.deleteRequest query) >>= fun _ =>
      s.commitOpen >>= fun _ => s.settle "delete" o) p (.ok o) _ false q' := hchange.bind hend
  rw [List.append_assoc] at hall
  exact ⟨q', runs_lift_bind hscope hall⟩

/-- A DELETE that fails or removes another number of rows is rolled back. -/
theorem runs_deleteFound_error (h : p.session.engine.Transactional)
    (hscope : scope s.table (foundIds ids o) f = .ok query)
    (hcount : (p.replyAfter (s.opening p) (s.deleteRequest query)).count ≠
      .ok (foundIds ids o).length) :
    ∃ q, Runs (s.deleteFound ids f o) p
      (.error (changeFault (foundIds ids o).length
        (p.replyAfter (s.opening p) (s.deleteRequest query)).count))
      (s.opening p ++ (s.deleteRequest query :: undoing (s.policy.rollsBack || p.isOpen)))
      false q := by
  obtain ⟨q, hchange⟩ := runs_stageChange_error h hcount
  exact ⟨q, runs_lift_bind hscope hchange.bind_error⟩

end Found

/-! ## What was found -/

section Matched

variable (fetch : Fetch)

/-- After matching, the identifiers found are those with a row, in the order given. -/
theorem foundIds_matchRows (index : Nat) (ids : List Identifier) :
    foundIds ids { results := matchRows fetch.keys fetch.rows.toList index ids } =
      fetch.matched ids := by
  induction ids generalizing index with
  | nil => rfl
  | cons id ids ih =>
    have hrest := ih (index + 1)
    simp only [foundIds, fetch.matchRows_eq] at hrest ⊢
    rw [List.zipIdx_cons, List.map_cons, List.zip_cons_cons, List.filter_cons, Fetch.matched,
      List.filter_cons, fetch.isSuccess_resultOf]
    cases hrow : (fetch.row? id).isSome with
    | true => exact congrArg (id :: ·) hrest
    | false => exact hrest

/-- The identifiers found in a fetched outcome are the matched ones. -/
theorem foundIds_outcome (ids : List Identifier) :
    foundIds ids (fetch.outcome ids) = fetch.matched ids :=
  foundIds_matchRows fetch 0 ids

end Matched

/-! ## Courses -/

/-- How a deletion may go, by its answer, its requests and whether a transaction is open at the end:
it does not come to its rows, it fails because some of them are missing, it has none to delete, it
deletes those that it has found, or it does not delete just these and is undone. -/
inductive Deletion (s : Setup) (p : Progress) (ids : List Identifier) (filter : Option String)
    (named : Filter.Named) : Except BatchError Outcome → List Request → Bool → Prop where
  | unfetched (r : Except BatchError Outcome) {sent : List Request}
      (hunfetched : ¬∃ fetch, Fetches s p ids filter named fetch)
      (hsent : sent = [] ∨ ∃ query, sent = [s.selectRequest query])
      (hanswer : ∀ e, r = .error e → ¬IsMismatch e) :
      Deletion s p ids filter named r sent p.isOpen
  | missing {fetch : Fetch} (hfetch : Fetches s p ids filter named fetch)
      (hmissing : (fetch.outcome ids).isSuccess = false) (hcontinues : s.policy.continues = false) :
      Deletion s p ids filter named (.error (s.aggregate "delete" (fetch.outcome ids)))
        [s.selectRequest fetch.query] p.isOpen
  | nothing {fetch : Fetch} (hfetch : Fetches s p ids filter named fetch)
      (hdone : ((fetch.outcome ids).isSuccess || s.policy.continues) = true)
      (hnone : fetch.matched ids = []) :
      Deletion s p ids filter named (.ok (fetch.outcome ids)) [s.selectRequest fetch.query] p.isOpen
  | deleted {fetch : Fetch} {target : String × List Value}
      (hfetch : Fetches s p ids filter named fetch)
      (hdone : ((fetch.outcome ids).isSuccess || s.policy.continues) = true)
      (htarget : scope s.table (fetch.matched ids) fetch.predicate = .ok target)
      (hcount : (p.replyAfter (s.selectRequest fetch.query :: s.opening p)
        (s.deleteRequest target)).count = .ok (fetch.matched ids).length) :
      Deletion s p ids filter named (.ok (fetch.outcome ids))
        (s.selectRequest fetch.query :: (s.opening p ++ (s.deleteRequest target ::
          committing (s.policy.rollsBack || p.isOpen)))) false
  | undone {fetch : Fetch} {target : String × List Value} {count : Except DatabaseError Nat}
      (hfetch : Fetches s p ids filter named fetch)
      (hdone : ((fetch.outcome ids).isSuccess || s.policy.continues) = true)
      (htarget : scope s.table (fetch.matched ids) fetch.predicate = .ok target)
      (hreply : (p.replyAfter (s.selectRequest fetch.query :: s.opening p)
        (s.deleteRequest target)).count = count)
      (hcount : count ≠ .ok (fetch.matched ids).length) :
      Deletion s p ids filter named (.error (changeFault (fetch.matched ids).length count))
        (s.selectRequest fetch.query :: (s.opening p ++ (s.deleteRequest target ::
          undoing (s.policy.rollsBack || p.isOpen)))) false

/-- What was sent before a request is part of what its reply depends on. -/
theorem replyAfter_eq {p q : Progress} {sent : List Request}
    (hengine : q.session.engine = p.session.engine)
    (hlog : q.session.log = p.session.log ++ sent) (rest : List Request) (r : Request) :
    q.replyAfter rest r = p.replyAfter (sent ++ rest) r := by
  rw [Progress.replyAfter, Progress.replyAfter, hengine, hlog, List.append_assoc]

/-- Every run of a deletion takes one of the courses of `Deletion`, whatever the engine answers. -/
theorem runs_deletion (h : p.session.engine.Transactional) (ids : List Identifier)
    (filter : Option String) (named : Filter.Named) :
    ∃ r sent b q, Runs (s.deleteByIds ids filter named) p r sent b q ∧
      Deletion s p ids filter named r sent b := by
  rw [deleteByIds_eq]
  by_cases hfetched : ∃ fetch, Fetches s p ids filter named fetch
  · obtain ⟨fetch, hfetch⟩ := hfetched
    obtain ⟨q, hengine, hopen, hlog, hrest⟩ := hfetch.runs fun f o => s.deleteFetched ids f o
    have hopening : s.opening q = s.opening p := by rw [opening, opening, hengine, hopen]
    cases hdone : (fetch.outcome ids).isSuccess || s.policy.continues with
    | false =>
      obtain ⟨hmissing, hcontinues⟩ := Bool.or_eq_false_iff.1 hdone
      obtain ⟨q', hend⟩ := runs_deleteFetched_missing q ids fetch.predicate hmissing hcontinues
      rw [hopen] at hend
      exact ⟨_, _, _, q', hrest hend, .missing hfetch hmissing hcontinues⟩
    | true =>
      have hfound := foundIds_outcome fetch ids
      by_cases hnone : fetch.matched ids = []
      · obtain ⟨q', hend⟩ := runs_deleteFetched_nothing (p := q) (f := fetch.predicate) hdone
          (hfound.trans hnone)
        rw [hopen] at hend
        exact ⟨_, _, _, q', hrest hend, .nothing hfetch hdone hnone⟩
      · -- what was found is part of what was asked for, so it has a scope as well
        obtain ⟨target, htarget⟩ := exists_scope_of_subset (g := fetch.predicate) hfetch.query
          (foundIds_subset (o := fetch.outcome ids))
        have hgoes := deleteFetched_eq (f := fetch.predicate) hdone (hfound ▸ hnone)
        -- the count decides between keeping and undoing
        by_cases hcount : (q.replyAfter (s.opening q) (s.deleteRequest target)).count =
            .ok (foundIds ids (fetch.outcome ids)).length
        · obtain ⟨q', hend⟩ := runs_deleteFound (hengine ▸ h) htarget hdone hcount
          rw [← hgoes, hopening, hopen] at hend
          rw [hfound] at htarget hcount
          rw [hopening, replyAfter_eq hengine hlog] at hcount
          exact ⟨_, _, _, q', hrest hend, .deleted hfetch hdone htarget hcount⟩
        · obtain ⟨q', hend⟩ := runs_deleteFound_error (hengine ▸ h) htarget hcount
          rw [← hgoes, hfound, hopening, hopen, replyAfter_eq hengine hlog] at hend
          rw [hfound] at htarget hcount
          rw [hopening, replyAfter_eq hengine hlog] at hcount
          exact ⟨_, _, _, q', hrest hend, .undone hfetch hdone htarget rfl hcount⟩
  · obtain ⟨r, sent, q, hrun, hsent, hanswer⟩ :=
      runs_fetchScoped_unfetched p hfetched fun f o => s.deleteFetched ids f o
    exact ⟨r, sent, _, q, hrun, .unfetched r hfetched hsent hanswer⟩

end Snowbridge.Batch.Setup
