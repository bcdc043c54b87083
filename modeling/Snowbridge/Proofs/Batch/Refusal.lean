import Snowbridge.Batch.Request
import Snowbridge.Proofs.Batch.Phase

/-!
# Refused batches

A batch that fails for a reason that lies in its request has not begun: nothing has been sent, and
neither the transaction nor the phase is another one. A request that does not name a batch is
refused in the same way.
-/

namespace Snowbridge.Batch

variable {s : Setup} {p : Progress}

/-- A fault that refuses every batch refuses a batch by identifiers. -/
theorem BatchError.Refuses.of_records {e : BatchError} (h : e.Refuses true) (ofRecords : Bool) :
    e.Refuses ofRecords := by
  cases e with
  | validation index reason => cases h
  | _ => exact h

/-- A batch that is refused leaves the session, the transaction flag and the phase unchanged:
`phase_stop` leaves no other way to end with such a fault. -/
theorem Operation.stop_of_refuses (op : Operation) {e : BatchError}
    (herror : op.answer s p = .error e) (hrefuses : e.Refuses op.isOfRecords) :
    op.stop s p = p := by
  obtain ⟨r, sent, b, q, hrun, hend⟩ := op.ends_work s p
  rw [answer, hrun.run] at herror
  rw [stop, hrun.run]
  rcases hend with hkept | hland
  · exact hkept
  · change r = .error e at herror
    rw [herror] at hland
    exact absurd hrefuses hland.2

/-- A request runs one of the four batches, or is invalid. -/
theorem Setup.execute_cases (s : Setup) (request : BatchRequest) :
    (∃ op : Operation, s.execute request = op.work s) ∨
      ∃ reason, s.execute request = throw (.invalidRequest reason) := by
  obtain ⟨verb, target, filter, named⟩ := request
  cases target with
  | records records =>
    cases filter with
    | some text => exact .inr ⟨_, rfl⟩
    | none =>
      cases verb with
      | create => exact .inl ⟨.write .create records, rfl⟩
      | update => exact .inl ⟨.write .update records, rfl⟩
      | delete => exact .inl ⟨.write .delete records, rfl⟩
      | read => exact .inr ⟨_, rfl⟩
  | ids ids update =>
    cases verb <;> cases update
    case read.none => exact .inl ⟨.retrieveByIds ids filter named, rfl⟩
    case delete.none => exact .inl ⟨.deleteByIds ids filter named, rfl⟩
    case update.some fields => exact .inl ⟨.updateByIds ids fields filter named, rfl⟩
    all_goals exact .inr ⟨_, rfl⟩

/-- A fault that refuses the batch leaves its state unchanged, for requests and for batches called
directly. -/
theorem stop_of_refused (s : Setup) (p : Progress) :
    (∀ request e, ((s.execute request).run p).1 = .error e → e.Refuses true →
      ((s.execute request).run p).2 = p) ∧
    ∀ (op : Operation) e, op.answer s p = .error e → e.Refuses op.isOfRecords →
      op.stop s p = p := by
  refine ⟨fun request e herror hrefuses => ?_, fun op e => op.stop_of_refuses⟩
  rcases s.execute_cases request with ⟨op, hop⟩ | ⟨reason, hinvalid⟩
  · rw [hop] at herror ⊢
    exact op.stop_of_refuses herror (hrefuses.of_records _)
  · rw [hinvalid]
    rfl

/-- Records with a filter, and an identifier with a value too many. -/
theorem stop_of_refused_accounts :
    let p := Operation.starting Operation.unreadableEngine
    let filtered : BatchRequest :=
      { verb := .create, target := .records [account 1], filter := some "ID = 1" }
    let misfit := Operation.deleteByIds [[.int 1], [.int 1, .int 2]] none []
    ((undoingAccounts.execute filtered).run p).2 = p ∧
      misfit.stop undoingAccounts p = p :=
  have hrefused := stop_of_refused undoingAccounts
    (Operation.starting Operation.unreadableEngine)
  ⟨hrefused.1 _ (.invalidRequest _) rfl trivial, hrefused.2 _ (.validation 1 _) rfl rfl⟩

end Snowbridge.Batch
