import Snowbridge.Proofs.Batch.Transaction

/-!
# What deletions delete

A deletion by identifiers deletes at most once, and just the rows that it has found before
(`DeletionPromise`). The answer tells how that went: a missing row keeps the batch from deleting
anything, and a number of deleted rows that is not the number of found ones undoes it.
-/

namespace Snowbridge.Batch

/-- A request that deletes rows. -/
def isDelete (r : Request) : Bool := startsWith "DELETE FROM " r

/-! ## Requests around a deletion -/

section Around

variable {α : Type} {P : α → Bool} {xs ys xs' ys' : List α} {x x' : α}

/-- A list with only one member that can satisfy `P` splits around that member in one way. -/
theorem eq_of_append_cons (hxs : ∀ a ∈ xs, P a = false) (hys : ∀ a ∈ ys, P a = false)
    (h : xs ++ x :: ys = xs' ++ x' :: ys') (hx' : P x' = true) :
    xs' = xs ∧ x' = x ∧ ys' = ys := by
  -- the cut lies at the member itself: any other cut puts `x'` among the `xs` or the `ys`
  rcases List.append_eq_append_iff.1 h with ⟨zs, hxs', htail⟩ | ⟨zs, hxs', htail⟩
  · cases zs with
    | nil =>
      obtain ⟨rfl, rfl⟩ := List.cons.inj htail
      exact ⟨by rw [hxs', List.append_nil], rfl, rfl⟩
    | cons z zs =>
      obtain ⟨-, rfl⟩ := List.cons.inj htail
      have hnot := hys x' (List.mem_append_right zs List.mem_cons_self)
      rw [hx'] at hnot
      cases hnot
  · cases zs with
    | nil =>
      obtain ⟨rfl, rfl⟩ := List.cons.inj htail
      exact ⟨by rw [hxs', List.append_nil], rfl, rfl⟩
    | cons z zs =>
      obtain ⟨rfl, -⟩ := List.cons.inj htail
      have hnot := hxs x' (hxs' ▸ List.mem_append_right xs' List.mem_cons_self)
      rw [hx'] at hnot
      cases hnot

/-- A list with only one member that can satisfy `P` counts at most one. -/
theorem countP_append_cons_le (hxs : ∀ a ∈ xs, P a = false) (hys : ∀ a ∈ ys, P a = false) :
    (xs ++ x :: ys).countP P ≤ 1 := by
  have hbefore : xs.countP P = 0 := List.countP_eq_zero.2 fun a ha => by rw [hxs a ha]; decide
  have hafter : ys.countP P = 0 := List.countP_eq_zero.2 fun a ha => by rw [hys a ha]; decide
  rw [List.countP_append, List.countP_cons, hbefore, hafter]
  split <;> decide

end Around

/-- A SELECT deletes nothing. -/
theorem isDelete_selectRequest (s : Setup) (query : String × List Value) :
    isDelete (s.selectRequest query) = false :=
  startsWith_of_head (head_selectRequest s query) rfl (by decide)

theorem isDelete_deleteRequest (s : Setup) (target : String × List Value) :
    isDelete (s.deleteRequest target) = true :=
  startsWith_where _ _ _ _ _

/-! ## Answers -/

section Answers

variable {s : Setup} {p : Progress} {ids : List Identifier} {filter : Option String}
  {named : Filter.Named} {fetch fetch' : Fetch}

/-- What a batch fetches is determined by the state it starts from. -/
theorem Setup.Fetches.unique (h : s.Fetches p ids filter named fetch)
    (h' : s.Fetches p ids filter named fetch') : fetch' = fetch := by
  obtain ⟨f, query, keys, rows⟩ := fetch
  obtain ⟨f', query', keys', rows'⟩ := fetch'
  obtain rfl : f' = f := Except.ok.inj (h'.predicate.symm.trans h.predicate)
  obtain rfl : keys' = keys := Except.ok.inj (h'.keys.symm.trans h.keys)
  obtain rfl : query' = query := Except.ok.inj (h'.query.symm.trans h.query)
  obtain rfl : rows' = rows := Except.ok.inj (h'.rows.symm.trans h.rows)
  rfl

/-- A batch of one identifier fails with that one fault, and a larger batch with its whole
outcome. -/
theorem aggregate_missing (s : Setup) (action : String)
    (hmissing : (fetch.outcome ids).isSuccess = false) :
    (ids.length = 1 ∧ s.aggregate action (fetch.outcome ids) = .notFound 0) ∨
      ids.length ≠ 1 ∧ ∃ text, s.aggregate action (fetch.outcome ids) =
        .batch text (fetch.outcome ids) := by
  have hresults := fetch.results_outcome ids
  cases ids with
  | nil => cases hmissing
  | cons id rest =>
    -- a batch of one has a fault of its own
    cases rest with
    | nil =>
      obtain ⟨id', hid, hrow⟩ := (fetch.isSuccess_outcome [id]).1 hmissing
      obtain rfl := List.mem_singleton.1 hid
      have hone : (fetch.outcome [id']).results = [.failed (.notFound 0)] := by
        simp [hresults, List.zipIdx_cons, Fetch.resultOf, hrow]
      left
      simp [Setup.aggregate, Outcome.failures, hone, RecordOutcome.error?, BatchError.ofItem]
    | cons id' rest =>
      right
      refine ⟨by simp, ?_⟩
      simp only [List.zipIdx_cons, List.map_cons] at hresults
      unfold Setup.aggregate
      rw [hresults]
      exact ⟨_, rfl⟩

/-- The scope of the matched identifiers, written out. -/
theorem Setup.Fetches.target_eq (h : s.Fetches p ids filter named fetch)
    {target : String × List Value}
    (htarget : scope s.table (fetch.matched ids) fetch.predicate = .ok target) :
    target = (idPredicate fetch.keys (fetch.matched ids).length ++ narrowing fetch.predicate,
      (fetch.matched ids).flatten ++ filterValues fetch.predicate) := by
  obtain ⟨keys, hkeys, -, rfl⟩ := exists_of_scope htarget
  rw [Except.ok.inj (hkeys.symm.trans h.keys)]

end Answers

/-- What a deletion by identifiers promises about its answer `r`, its requests and the state in
which it ends. -/
structure DeletionPromise (s : Setup) (ids : List Identifier) (filter : Option String)
    (named : Filter.Named) (p : Progress) (r : Except BatchError Outcome) (p' : Progress) :
    Prop where
  once : (sentBetween p p').countP isDelete ≤ 1
  /-- Unless failures are tolerated, an identifier without a row ends the batch after its query. The
  fault has an entry for each identifier, or it is that of the only one. -/
  missing : ∀ fetch, s.Fetches p ids filter named fetch → s.policy.continues = false →
    (∃ id ∈ ids, fetch.row? id = none) →
    sentBetween p p' = [s.selectRequest fetch.query] ∧
      ((ids.length = 1 ∧ r = .error (.notFound 0)) ∨
        ids.length ≠ 1 ∧ ∃ text o, r = .error (.batch text o) ∧
          o.results = ids.zipIdx.map fun entry => fetch.resultOf entry.2 entry.1)
  /-- What is deleted are the rows that were found, with the filter on them. A batch that succeeds
  has deleted one for each identifier that has a row. -/
  deletes : ∀ before d after, sentBetween p p' = before ++ d :: after → isDelete d = true →
    ∃ fetch, s.Fetches p ids filter named fetch ∧
      d = s.deleteRequest
        (idPredicate fetch.keys (fetch.matched ids).length ++ narrowing fetch.predicate,
          (fetch.matched ids).flatten ++ filterValues fetch.predicate) ∧
      ∀ o, r = .ok o → (p.replyAfter before d).count = .ok (fetch.matched ids).length
  /-- A fault about the number of deleted rows tells the numbers as they are, and what was open then
  has been undone at last. -/
  mismatch : ∀ expected actual, r = .error (.writeCountMismatch expected actual) →
    ∃ fetch before d after, s.Fetches p ids filter named fetch ∧
      sentBetween p p' = before ++ d :: after ∧ isDelete d = true ∧
      expected = (fetch.matched ids).length ∧ (p.replyAfter before d).count = .ok actual ∧
      ((s.policy = .rollBack ∨ p.isOpen = true) → after = [rollbackRequest]) ∧ p'.isOpen = false

section Promise

variable {s : Setup} {p p' : Progress} {ids : List Identifier} {filter : Option String}
  {named : Filter.Named} {fetch : Fetch} {r : Except BatchError Outcome}

/-- The promise of a run that sends no DELETE: only its answer to missing rows is left to show. -/
theorem DeletionPromise.of_silent (hsent : ∀ r ∈ sentBetween p p', isDelete r = false)
    (hanswer : ∀ e, r = .error e → ¬IsMismatch e)
    (hmissing : ∀ fetch, s.Fetches p ids filter named fetch → s.policy.continues = false →
      (∃ id ∈ ids, fetch.row? id = none) →
      sentBetween p p' = [s.selectRequest fetch.query] ∧
        ((ids.length = 1 ∧ r = .error (.notFound 0)) ∨
          ids.length ≠ 1 ∧ ∃ text o, r = .error (.batch text o) ∧
            o.results = ids.zipIdx.map fun entry => fetch.resultOf entry.2 entry.1)) :
    DeletionPromise s ids filter named p r p' where
  once := by
    have hnone : (sentBetween p p').countP isDelete = 0 :=
      List.countP_eq_zero.2 fun r hr => by rw [hsent r hr]; decide
    rw [hnone]
    decide
  missing := hmissing
  deletes := fun before d after heq hd => by
    have hnot := hsent d (heq ▸ List.mem_append_right before List.mem_cons_self)
    rw [hd] at hnot
    cases hnot
  mismatch := fun expected actual hr => absurd ⟨expected, actual, rfl⟩ (hanswer _ hr)

/-- If failures are not tolerated, a deletion that goes on after its fetch misses no row. -/
theorem Setup.Fetches.not_missing (h : s.Fetches p ids filter named fetch)
    (hdone : ((fetch.outcome ids).isSuccess || s.policy.continues) = true) {fetch' : Fetch}
    (h' : s.Fetches p ids filter named fetch') (hcontinues : s.policy.continues = false) :
    ¬∃ id ∈ ids, fetch'.row? id = none := by
  rintro hmissing
  rw [h.unique h', ← fetch.isSuccess_outcome] at hmissing
  rw [hmissing, hcontinues] at hdone
  cases hdone

/-- The SELECT and the BEGIN before a DELETE delete nothing. -/
theorem isDelete_before (hbegin : isDelete p.session.engine.beginRequest = false)
    (query : String × List Value) : ∀ r ∈ s.selectRequest query :: s.opening p,
      isDelete r = false := by
  intro r hr
  rcases List.mem_cons.1 hr with rfl | hr
  · exact isDelete_selectRequest s query
  · exact forall_mem_optional (P := fun r => isDelete r = false) hbegin _ r hr

/-- The promise of a run that sends one DELETE, from its place among the requests and the count in
its answer. -/
theorem DeletionPromise.of_delete (hbegin : isDelete p.session.engine.beginRequest = false)
    (hfetch : s.Fetches p ids filter named fetch)
    (hdone : ((fetch.outcome ids).isSuccess || s.policy.continues) = true)
    {target : String × List Value}
    (htarget : scope s.table (fetch.matched ids) fetch.predicate = .ok target)
    {after : List Request} (hafter : ∀ r ∈ after, isDelete r = false)
    (hsent : sentBetween p p' =
      (s.selectRequest fetch.query :: s.opening p) ++ s.deleteRequest target :: after)
    (hok : ∀ o, r = .ok o → (p.replyAfter (s.selectRequest fetch.query :: s.opening p)
      (s.deleteRequest target)).count = .ok (fetch.matched ids).length)
    (hmismatch : ∀ expected actual, r = .error (.writeCountMismatch expected actual) →
      expected = (fetch.matched ids).length ∧
        (p.replyAfter (s.selectRequest fetch.query :: s.opening p)
          (s.deleteRequest target)).count = .ok actual ∧
        ((s.policy = .rollBack ∨ p.isOpen = true) → after = [rollbackRequest]) ∧
        p'.isOpen = false) :
    DeletionPromise s ids filter named p r p' where
  once := hsent ▸ countP_append_cons_le (isDelete_before hbegin fetch.query) hafter
  missing := fun fetch' hfetch' hcontinues hmissing =>
    absurd hmissing (hfetch.not_missing hdone hfetch' hcontinues)
  deletes := fun before d after' heq hd => by
    -- the one deletion that was sent is this one
    obtain ⟨rfl, rfl, rfl⟩ := eq_of_append_cons (isDelete_before hbegin fetch.query) hafter
      (hsent.symm.trans heq) hd
    refine ⟨fetch, hfetch, ?_, hok⟩
    rw [hfetch.target_eq htarget]
  mismatch := fun expected actual hr => by
    obtain ⟨hexpected, hactual, hundone⟩ := hmismatch expected actual hr
    exact ⟨fetch, _, _, _, hfetch, hsent, isDelete_deleteRequest s target, hexpected, hactual,
      hundone⟩

/-- The fault for missing rows is not a mismatch of counts. -/
theorem not_isMismatch_aggregate {action : String}
    (hmissing : (fetch.outcome ids).isSuccess = false) :
    ¬IsMismatch (s.aggregate action (fetch.outcome ids)) := by
  rintro ⟨expected, actual, he⟩
  rcases aggregate_missing s action hmissing with ⟨-, hone⟩ | ⟨-, text, hall⟩
  · rw [hone] at he
    cases he
  · rw [hall] at he
    cases he

/-- A mismatch reports the expected number and the count that the engine gave. -/
theorem changeFault_eq_mismatch {n expected actual : Nat} {count : Except DatabaseError Nat}
    (h : Setup.changeFault n count = .writeCountMismatch expected actual) :
    expected = n ∧ count = .ok actual := by
  cases count with
  | error e => cases h
  | ok m =>
    cases h
    exact ⟨rfl, rfl⟩

end Promise

/-- An engine that finds both accounts and then deletes one. -/
def shrinkingEngine : Engine :=
  .scripted "queue" true
    [⟨"SELECT", [.rows ⟨["ID"], [[.int 1], [.int 2]]⟩]⟩, ⟨"DELETE", [.affected 1]⟩]

end Snowbridge.Batch
