import Mathlib.Data.List.Find
import Mathlib.Data.List.Forall2
import Mathlib.Data.List.Pairwise
import Snowbridge.Proofs.Catalog.Filling
import Snowbridge.Proofs.Catalog.Table
import Snowbridge.Proofs.Sql.Placeholder

/-!
# Calls of routines

A call looks at its arguments one after another and stops at the first that cannot be passed, before
anything is sent (`bindArguments_eq_error_iff`). If there is none, each parameter gets a value, in
the order of positions, and one request goes out with these values. Both kinds of calls do the same
with their arguments and differ in the text of the request and in what they read from the reply
(`PassesArguments`).
-/

namespace Snowbridge.Catalog

variable {r : Routine} {as as' : List Argument} {a : Argument} {e : CatalogError}

/-! ## Arguments that are refused -/

/-- No parameter is found exactly if none has that name up to case. -/
theorem Routine.parameter?_isNone_iff (name : String) : (r.parameter? name).isNone = true ↔
    ∀ p ∈ r.parameters, Text.sameName p.name name = false := by
  rw [Option.isNone_iff_eq_none, parameter?, List.find?_eq_none]
  simp only [Bool.not_eq_true]

namespace Argument

/-- The argument goes in, and there is a parameter of its name. -/
def Passable (r : Routine) (a : Argument) : Prop :=
  a.direction = .input ∧ ∃ p ∈ r.parameters, Text.sameName p.name a.name = true

/-- The fault of an argument that cannot be passed. One that does not go in is not looked up. -/
inductive Refused (r : Routine) (a : Argument) : CatalogError → Prop where
  | direction (h : a.direction ≠ .input) :
      Refused r a (.unsupportedDirection r.internalName a.name a.direction.word)
  | unknown (hinput : a.direction = .input)
      (hnone : ∀ p ∈ r.parameters, Text.sameName p.name a.name = false) :
      Refused r a (.unknownArgument r.internalName a.name)

/-- The fault of an argument is the one that `Refused` describes. -/
theorem fault?_eq_some_iff : a.fault? r = some e ↔ a.Refused r e := by
  unfold fault?
  constructor
  · intro h
    split at h
    · next hdirection =>
      cases h
      exact .direction hdirection
    · next hinput =>
      split at h
      · next hnone =>
        cases h
        exact .unknown (not_not.1 hinput) ((Routine.parameter?_isNone_iff a.name).1 hnone)
      · cases h
  · rintro (hdirection | ⟨hinput, hnone⟩)
    · rw [if_pos hdirection]
    · rw [if_neg (not_not.2 hinput), if_pos ((Routine.parameter?_isNone_iff a.name).2 hnone)]

/-- An argument has no fault exactly if it is passable. -/
theorem fault?_eq_none_iff : a.fault? r = none ↔ a.Passable r := by
  unfold fault? Passable
  by_cases hinput : a.direction = .input
  · have hknown := not_congr (Routine.parameter?_isNone_iff (r := r) a.name)
    simp only [not_forall, Bool.not_eq_false, exists_prop] at hknown
    rw [if_neg (not_not.2 hinput), and_iff_right hinput, ← hknown]
    split <;> simp [*]
  · simp [hinput]

end Argument

/-- The fault of the first argument that cannot be passed. -/
def FirstRefused (r : Routine) (as : List Argument) (e : CatalogError) : Prop :=
  ∃ before a after, as = before ++ a :: after ∧ (∀ b ∈ before, b.Passable r) ∧ a.Refused r e

/-- Binding fails with the fault of the first argument that cannot be passed. -/
theorem bindArguments_eq_error_iff : r.bindArguments as = .error e ↔ FirstRefused r as e := by
  have hfault : r.bindArguments as = .error e ↔ as.findSome? (Argument.fault? r) = some e := by
    unfold Routine.bindArguments
    cases as.findSome? (Argument.fault? r) <;> simp
  rw [hfault, List.findSome?_eq_some_iff]
  constructor
  · rintro ⟨before, a, after, rfl, hfault, hbefore⟩
    exact ⟨before, a, after, rfl, fun b hb => Argument.fault?_eq_none_iff.1 (hbefore b hb),
      Argument.fault?_eq_some_iff.1 hfault⟩
  · rintro ⟨before, a, after, rfl, hbefore, hrefused⟩
    exact ⟨before, a, after, rfl, Argument.fault?_eq_some_iff.2 hrefused,
      fun b hb => Argument.fault?_eq_none_iff.2 (hbefore b hb)⟩

/-- If all arguments are passable, each parameter gets its value, in the order of positions. -/
theorem bindArguments_of_passable (h : ∀ a ∈ as, a.Passable r) :
    r.bindArguments as = .ok (r.ordered.map (argumentFor as)) := by
  have hnone : as.findSome? (Argument.fault? r) = none :=
    List.findSome?_eq_none_iff.2 fun a ha => Argument.fault?_eq_none_iff.2 (h a ha)
  rw [Routine.bindArguments, hnone]

/-- If some argument is not passable, there is a first one that is not. -/
theorem exists_firstRefused (h : ∃ a ∈ as, ¬ a.Passable r) : ∃ e, FirstRefused r as e := by
  cases hfault : as.findSome? (Argument.fault? r) with
  | some e =>
    refine ⟨e, bindArguments_eq_error_iff.1 ?_⟩
    rw [Routine.bindArguments, hfault]
  | none =>
    obtain ⟨a, ha, hrefused⟩ := h
    exact absurd (Argument.fault?_eq_none_iff.1 (List.findSome?_eq_none_iff.1 hfault a ha)) hrefused

/-! ## Values in the order of parameters -/

/-- The same parameters by position, where those of one position keep their order. -/
structure ByPosition (ps qs : List Parameter) : Prop where
  perm : ps.Perm qs
  sorted : ps.Pairwise fun p q => p.position ≤ q.position
  stable : ∀ n, (ps.filter fun p => p.position = n) = qs.filter fun p => p.position = n

/-- Sorting by position is stable. -/
theorem byPosition_ordered (r : Routine) : ByPosition r.ordered r.parameters := by
  have htrans : ∀ p q t : Parameter, decide (p.position ≤ q.position) = true →
      decide (q.position ≤ t.position) = true → decide (p.position ≤ t.position) = true := by
    intro p q t hpq hqt
    simp only [decide_eq_true_eq] at hpq hqt ⊢
    exact Nat.le_trans hpq hqt
  have htotal : ∀ p q : Parameter,
      (decide (p.position ≤ q.position) || decide (q.position ≤ p.position)) = true := by
    intro p q
    simpa using Nat.le_total p.position q.position
  have hperm : r.ordered.Perm r.parameters := List.mergeSort_perm _ _
  refine ⟨hperm, ?_, fun n => ?_⟩
  · have hsorted := List.pairwise_mergeSort htrans htotal r.parameters
    exact hsorted.imp of_decide_eq_true
  · -- those of one position are in order as they stand, so sorting leaves them in that order
    have hequal : (r.parameters.filter fun p => p.position = n).Pairwise
        fun p q => decide (p.position ≤ q.position) = true := by
      refine List.pairwise_of_forall_mem_list fun p hp q hq => ?_
      have hp' := of_decide_eq_true (List.mem_filter.1 hp).2
      have hq' := of_decide_eq_true (List.mem_filter.1 hq).2
      rw [hp', hq']
      exact decide_eq_true (Nat.le_refl n)
    have hkept := (List.sublist_mergeSort htrans htotal hequal List.filter_sublist).filter
      fun p => decide (p.position = n)
    rw [List.filter_filter] at hkept
    simp only [Bool.and_self] at hkept
    exact (hkept.eq_of_length (hperm.filter _).length_eq.symm).symm

/-- The value of a parameter: that of the first argument of its name, or null without one. -/
inductive Gives (as : List Argument) (p : Parameter) : Value → Prop where
  | given {before after : List Argument} {a : Argument} (has : as = before ++ a :: after)
      (hfirst : ∀ b ∈ before, Text.sameName b.name p.name = false)
      (hname : Text.sameName a.name p.name = true) : Gives as p a.value
  | missing (hnone : ∀ a ∈ as, Text.sameName a.name p.name = false) : Gives as p .null

/-- `argumentFor` gives a parameter the first argument of its name, or null. -/
theorem gives_argumentFor (as : List Argument) (p : Parameter) : Gives as p (argumentFor as p) := by
  unfold argumentFor
  cases hfind : as.find? fun a => Text.sameName a.name p.name with
  | none =>
    refine .missing fun a ha => ?_
    simpa using List.find?_eq_none.1 hfind a ha
  | some a =>
    obtain ⟨hname, before, after, has, hbefore⟩ := List.find?_eq_some_iff_append.1 hfind
    exact .given has (fun b hb => by simpa using hbefore b hb) hname

/-- Arguments with different names may be permuted. -/
theorem argumentFor_of_perm (hperm : as.Perm as')
    (hdistinct : as.Pairwise fun a b => Text.sameName a.name b.name = false) :
    argumentFor as' = argumentFor as := by
  funext p
  have hfind : (as.find? fun a => Text.sameName a.name p.name) =
      as'.find? fun a => Text.sameName a.name p.name := by
    refine List.find?_eq_find?_of_perm hperm ?_
    rintro a ⟨ha, haname⟩ b ⟨hb, hbname⟩
    by_contra hne
    have hsymm : Std.Symm fun a b : Argument => Text.sameName a.name b.name = false :=
      ⟨fun a b h => by rw [Text.sameName_comm, h]⟩
    have hnames := hdistinct.forall ha hb hne
    rw [Text.sameName_comm, Text.sameName_congr haname, hbname] at hnames
    cases hnames
  rw [argumentFor, argumentFor, hfind]

/-! ## What is sent -/

/-- The request that calls a procedure with some values. -/
def procedureRequest (r : Routine) (values : List Value) : Request :=
  ⟨"CALL " ++ r.quotedName ++ "(" ++ Sql.placeholders values.length ++ ")", values⟩

/-- The request that calls a function with some values. -/
def functionRequest (r : Routine) (values : List Value) : Request :=
  ⟨"SELECT " ++ r.quotedName ++ "(" ++ Sql.placeholders values.length ++ ") AS \"output\"", values⟩

theorem run_query (sql : String) (params : List Value) (s : Session) : (query sql params).run s =
    ((s.reply ⟨sql, params⟩).rowSet.mapError .ofDatabase, s.logged ⟨sql, params⟩) := by
  rw [query, run_mapError, Session.run_execute]

/-- How a call ends, and the session after it, if its arguments are refused or give some values. -/
def called {α : Type} (request : List Value → Request) (read : RowSet → α) (s : Session) :
    Except CatalogError (List Value) → Except CatalogError α × Session
  | .error e => (.error e, s)
  | .ok values => (((s.reply (request values)).rowSet.mapError .ofDatabase).map read,
      s.logged (request values))

/-- The arguments are bound before the request: a fault leaves the session unchanged. -/
theorem run_bindArguments {α : Type} {request : List Value → Request} {read : RowSet → α}
    {send : List Value → Call CatalogError α} {s : Session}
    (hsend : ∀ values, (send values).run s =
      (((s.reply (request values)).rowSet.mapError .ofDatabase).map read,
        s.logged (request values))) (r : Routine) (as : List Argument) :
    (lift (r.bindArguments as) >>= send).run s = called request read s (r.bindArguments as) := by
  have hbind : (lift (r.bindArguments as)).run s = (r.bindArguments as, s) := rfl
  cases hvalues : r.bindArguments as with
  | error e =>
    rw [hvalues] at hbind
    exact run_bind_error hbind
  | ok values =>
    rw [hvalues] at hbind
    rw [run_bind_ok hbind, hsend, called]

/-- A procedure call returns the rows of its reply. -/
theorem run_callProcedure (r : Routine) (as : List Argument) (s : Session) :
    (callProcedure r as).run s = called (procedureRequest r) id s (r.bindArguments as) := by
  refine run_bindArguments (fun values => ?_) r as
  rw [run_query, Except.map_id]
  rfl

/-- A function call reads its value from the rows of its reply. -/
theorem run_callFunction (r : Routine) (as : List Argument) (s : Session) :
    (callFunction r as).run s =
      called (functionRequest r) (outputValue r) s (r.bindArguments as) := by
  refine run_bindArguments (fun values => ?_) r as
  have hquery := run_query (functionRequest r values).sql values s
  cases hrows : (s.reply (functionRequest r values)).rowSet.mapError CatalogError.ofDatabase with
  | error e => exact run_bind_error (hquery.trans (congrArg (·, _) hrows))
  | ok rows => exact run_bind_ok (hquery.trans (congrArg (·, _) hrows))

/-- The text of a call has one placeholder for each value. -/
theorem takes_call {start tail : String} (hstart : Sql.Takes start.toList 0)
    (htail : Sql.Takes tail.toList 0) (r : Routine) (n : Nat) :
    Sql.Takes (start ++ r.quotedName ++ "(" ++ Sql.placeholders n ++ tail).toList n := by
  have hname : Sql.Takes r.quotedName.toList 0 := Sql.Takes.quoteName [r.schema, r.name]
  have hopen : Sql.Takes "(".toList 0 := Sql.Takes.bare (by decide)
  have hlist := ((hstart.string_append hname).string_append hopen).string_append
    (Sql.Takes.placeholders n)
  have hall := hlist.string_append htail
  simpa only [Nat.zero_add, Nat.add_zero] using hall

theorem takes_procedureRequest (r : Routine) (values : List Value) :
    Sql.Takes (procedureRequest r values).sql.toList values.length :=
  takes_call (Sql.Takes.bare (by decide)) (Sql.Takes.bare (by decide)) r values.length

theorem takes_functionRequest (r : Routine) (values : List Value) :
    Sql.Takes (functionRequest r values).sql.toList values.length :=
  takes_call (Sql.Takes.bare (by decide)) ⟨by decide, by decide⟩ r values.length

/-! ## Calls -/

/-- What a call does with its arguments. -/
structure PassesArguments {α : Type} (r : Routine) (request : List Value → Request)
    (read : RowSet → α) (call : List Argument → Call CatalogError α) : Prop where
  /-- The first argument that cannot be passed ends the call, and nothing is sent. -/
  refuses : ∀ as s e, FirstRefused r as e → (call as).run s = (.error e, s)
  /-- A call ends so only if there is such an argument. -/
  refuses_iff : ∀ as s, (∃ e, (call as).run s = (.error e, s)) ↔ ∃ a ∈ as, ¬ a.Passable r
  /-- Otherwise one request goes out, with the values of the parameters by position. -/
  sends : ∀ as s, (∀ a ∈ as, a.Passable r) → ∃ ps values, ByPosition ps r.parameters ∧
    List.Forall₂ (Gives as) ps values ∧ (request values).params = values ∧
    Sql.placeholderCount (request values).sql = r.parameters.length ∧
    (call as).run s = (((s.reply (request values)).rowSet.mapError .ofDatabase).map read,
      s.logged (request values))
  /-- Arguments of different names may stand in any order. -/
  permuted : ∀ as as' s, as.Perm as' →
    (as.Pairwise fun a b => Text.sameName a.name b.name = false) →
    ((call as').run s).2 = ((call as).run s).2

/-- A request changes the session, by its log. -/
theorem logged_ne (s : Session) (q : Request) : s.logged q ≠ s := by
  intro h
  have hlength := congrArg (fun s : Session => s.log.length) h
  simp [Session.logged] at hlength

/-- Every call that binds its arguments and then sends one request passes its arguments. Both kinds
of calls are of this form. -/
theorem passesArguments {α : Type} {request : List Value → Request} {read : RowSet → α}
    {call : List Argument → Call CatalogError α}
    (hparams : ∀ values, (request values).params = values)
    (htakes : ∀ values, Sql.Takes (request values).sql.toList values.length)
    (hrun : ∀ as s, (call as).run s = called request read s (r.bindArguments as)) :
    PassesArguments r request read call := by
  -- a call that is refused, and a call that goes out
  have hrefuses : ∀ as s e, FirstRefused r as e → (call as).run s = (.error e, s) := by
    intro as s e h
    rw [hrun, bindArguments_eq_error_iff.2 h, called]
  have hsends : ∀ as s, (∀ a ∈ as, a.Passable r) → (call as).run s =
      called request read s (.ok (r.ordered.map (argumentFor as))) := by
    intro as s h
    rw [hrun, bindArguments_of_passable h]
  constructor
  · exact hrefuses
  · intro as s
    constructor
    · rintro ⟨e, h⟩
      -- if all were passable, the log would have grown
      by_contra hpassable
      have hall : ∀ a ∈ as, a.Passable r := by simpa using hpassable
      rw [hsends as s hall] at h
      exact logged_ne s _ (congrArg Prod.snd h)
    · intro h
      obtain ⟨e, he⟩ := exists_firstRefused h
      exact ⟨e, hrefuses as s e he⟩
  · intro as s h
    have hordered := byPosition_ordered r
    refine ⟨r.ordered, r.ordered.map (argumentFor as), hordered, ?_, hparams _, ?_,
      hsends as s h⟩
    · rw [List.forall₂_map_right_iff]
      exact List.forall₂_same.2 fun p _ => gives_argumentFor as p
    · rw [(htakes _).placeholderCount_eq, List.length_map, hordered.perm.length_eq]
  · intro as as' s hperm hdistinct
    by_cases hall : ∀ a ∈ as, a.Passable r
    · have hall' : ∀ a ∈ as', a.Passable r := fun a ha => hall a (hperm.mem_iff.2 ha)
      rw [hsends as' s hall', hsends as s hall, argumentFor_of_perm hperm hdistinct]
    · -- both lists have an argument that cannot be passed, and neither call sends anything
      have hrefused : ∃ a ∈ as, ¬ a.Passable r := by simpa using hall
      obtain ⟨a, ha, hnot⟩ := hrefused
      obtain ⟨e, he⟩ := exists_firstRefused ⟨a, ha, hnot⟩
      obtain ⟨e', he'⟩ := exists_firstRefused ⟨a, hperm.mem_iff.1 ha, hnot⟩
      rw [hrefuses as s e he, hrefuses as' s e' he']

/-- Procedure and function calls report the first argument that cannot be passed and send nothing.
Otherwise they send one request with a placeholder for each parameter, bound by position to the
first argument of its name, or to null. -/
theorem calls_pass_arguments (r : Routine) :
    PassesArguments r (procedureRequest r) id (callProcedure r) ∧
      PassesArguments r (functionRequest r) (outputValue r) (callFunction r) := by
  constructor
  · exact passesArguments (fun _ => rfl) (takes_procedureRequest r) (run_callProcedure r)
  · exact passesArguments (fun _ => rfl) (takes_functionRequest r) (run_callFunction r)

/-- A routine with two parameters at one position. -/
def shipOrder : Routine where
  kind := .procedure
  schema := "SALES"
  name := "SHIP"
  parameters := [Parameter.ofType "NOTE" 2 "VARCHAR", Parameter.ofType "ORDER_ID" 1 "NUMBER",
    Parameter.ofType "RATE" 2 "NUMBER(5, 2)"]

/-- Values for two of its parameters. -/
def shipArguments : List Argument :=
  [{ name := "rate", value := .int 5 }, { name := "order_id", value := .int 7 }]

/-- A value for the third one, which would have to come out. -/
def noteOut : Argument := { name := "NOTE", value := .null, direction := .output }

/-- An OUT argument that is refused, two parameters at one position, and arguments in another
order. -/
theorem calls_pass_arguments_shipOrder :
    (FirstRefused shipOrder (shipArguments ++ [noteOut])
        (.unsupportedDirection "SALES.SHIP" "NOTE" "OUT") ∧
      (callFunction shipOrder (shipArguments ++ [noteOut])).run (describing {}) =
        (.error (.unsupportedDirection "SALES.SHIP" "NOTE" "OUT"), describing {})) ∧
    ((∀ a ∈ shipArguments, a.Passable shipOrder) ∧
      ∃ ps values, ByPosition ps shipOrder.parameters ∧
        List.Forall₂ (Gives shipArguments) ps values ∧
        ((callProcedure shipOrder shipArguments).run (describing {})).2 =
          (describing {}).logged (procedureRequest shipOrder values)) ∧
    (shipArguments.Pairwise fun a b => Text.sameName a.name b.name = false) ∧
      ((callProcedure shipOrder shipArguments.reverse).run (describing {})).2 =
        ((callProcedure shipOrder shipArguments).run (describing {})).2 := by
  obtain ⟨hprocedure, hfunction⟩ := calls_pass_arguments shipOrder
  have hpassable : ∀ a ∈ shipArguments, a.Passable shipOrder := by
    unfold Argument.Passable
    decide +kernel
  have hrefused : FirstRefused shipOrder (shipArguments ++ [noteOut])
      (.unsupportedDirection "SALES.SHIP" "NOTE" "OUT") :=
    ⟨shipArguments, noteOut, [], rfl, hpassable, .direction (by decide)⟩
  have hdistinct : shipArguments.Pairwise fun a b => Text.sameName a.name b.name = false := by
    decide
  obtain ⟨ps, values, hordered, hgives, -, -, hrun⟩ := hprocedure.sends _ (describing {}) hpassable
  refine ⟨⟨hrefused, hfunction.refuses _ _ _ hrefused⟩,
    ⟨hpassable, ps, values, hordered, hgives, ?_⟩, hdistinct,
    hprocedure.permuted _ _ _ (List.reverse_perm _).symm hdistinct⟩
  rw [hrun]

end Snowbridge.Catalog
