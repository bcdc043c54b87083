import Snowbridge.Proofs.Session.Reply
import Snowbridge.Session.Opening

/-!
# What opening a session promises

A configuration that is refused is refused before anything is attempted. Otherwise one attempt is
made, and a second one if and only if the first has lost its connection. A session that was opened
gets the statements of its attributes one after another, up to the first that fails
(`SetsUp`); each attribute either ends the run there or leaves the rest to a session that has logged
one more statement.
-/

namespace Snowbridge

/-! ## Faults of attempts -/

namespace DatabaseError

/-- The fault is a lost connection, perhaps inside faults of scripts. -/
inductive Lost : DatabaseError → Prop where
  | here (reason : String) : Lost (.lost reason)
  | within (step : Nat) (statement : String) {source : DatabaseError} (h : Lost source) :
      Lost (.scriptFailed step statement source)

/-- `isLost` decides `Lost`. -/
theorem isLost_iff {e : DatabaseError} : e.isLost = true ↔ e.Lost := by
  constructor
  · intro h
    induction e with
    | lost reason => exact .here reason
    | scriptFailed step statement source ih => exact .within step statement (ih h)
    | _ => cases h
  · intro h
    induction h with
    | here reason => rfl
    | within step statement _ ih => exact ih

/-- A fault of the handshake becomes one of the configuration or of the connection. -/
theorem ofHandshake_cases (e : DatabaseError) :
    (∃ cause, e.ofHandshake = .config cause) ∨ ∃ reason, e.ofHandshake = .connection reason := by
  cases e with
  | config cause => exact .inl ⟨cause, rfl⟩
  | _ => exact .inr ⟨_, rfl⟩

/-- Neither of them is a lost connection. -/
theorem not_lost_ofHandshake (e : DatabaseError) : ¬e.ofHandshake.Lost := by
  intro h
  rcases e.ofHandshake_cases with ⟨cause, he⟩ | ⟨reason, he⟩
  · rw [he] at h
    cases h
  · rw [he] at h
    cases h

end DatabaseError

/-! ## Attributes -/

/-- The request that sets an attribute. -/
def Attribute.request (a : Attribute) : Request := ⟨a.statement, []⟩

/-- An option gives an attribute. -/
def Attribute.GivenBy (option : String × String) (a : Attribute) : Prop :=
  ∃ key, AttributeKey.ofName? option.1 = some key ∧ key.parse option.1 option.2 = .ok a

/-- An option is known, and its value has not the right form. -/
def Attribute.Faulty (option : String × String) : Prop :=
  ∃ key e, AttributeKey.ofName? option.1 = some key ∧ key.parse option.1 option.2 = .error e

/-- The known options, in the order of their names, with the attributes that they give. -/
structure KnownOptions (options : List (String × String)) (known : List (String × Attribute)) :
    Prop where
  ordered : known.Pairwise fun a b => a.1 < b.1
  mem_iff : ∀ name a, (name, a) ∈ known ↔
    ∃ value, (name, value) ∈ options ∧ Attribute.GivenBy (name, value) a

namespace KnownOptions

variable {options : List (String × String)} {known : List (String × Attribute)}
  {option : String × String}

theorem nil : KnownOptions [] [] where
  ordered := .nil
  mem_iff name a := by simp

/-- An unknown option adds nothing. -/
theorem cons_unknown (h : KnownOptions options known)
    (hname : AttributeKey.ofName? option.1 = none) : KnownOptions (option :: options) known where
  ordered := h.ordered
  mem_iff name a := by
    rw [h.mem_iff]
    constructor
    · rintro ⟨value, hmem, hgiven⟩
      exact ⟨value, List.mem_cons_of_mem _ hmem, hgiven⟩
    · rintro ⟨value, hmem, key, hkey, hparse⟩
      rcases List.mem_cons.1 hmem with rfl | hmem
      · rw [hname] at hkey
        cases hkey
      · exact ⟨value, hmem, key, hkey, hparse⟩

/-- A known option whose name comes first adds its attribute in front. -/
theorem cons {a : Attribute} (h : KnownOptions options known) (hgiven : a.GivenBy option)
    (hfirst : ∀ other ∈ options, option.1 < other.1) :
    KnownOptions (option :: options) ((option.1, a) :: known) where
  ordered := by
    refine List.pairwise_cons.2 ⟨fun entry hentry => ?_, h.ordered⟩
    obtain ⟨value, hmem, -⟩ := (h.mem_iff entry.1 entry.2).1 hentry
    exact hfirst _ hmem
  mem_iff name b := by
    rw [List.mem_cons, h.mem_iff]
    constructor
    · rintro (heq | ⟨value, hmem, hgiven'⟩)
      · obtain ⟨rfl, rfl⟩ := Prod.mk.inj heq
        exact ⟨option.2, List.mem_cons_self, hgiven⟩
      · exact ⟨value, List.mem_cons_of_mem _ hmem, hgiven'⟩
    · rintro ⟨value, hmem, hgiven'⟩
      rcases List.mem_cons.1 hmem with rfl | hmem
      · -- an option gives one attribute only
        obtain ⟨key, hkey, hparse⟩ := hgiven
        obtain ⟨key', hkey', hparse'⟩ := hgiven'
        rw [hkey] at hkey'
        cases hkey'
        rw [hparse] at hparse'
        cases hparse'
        exact .inl rfl
      · exact .inr ⟨value, hmem, hgiven'⟩

end KnownOptions

/-- Resolving the options fails exactly if one of them is faulty, and else gives the attributes in
the order of the names. -/
theorem Attribute.ofOptions_cases {options : List (String × String)}
    (horder : options.Pairwise fun a b => a.1 < b.1) :
    (∃ e, Attribute.ofOptions options = .error e ∧ ∃ option ∈ options, Faulty option) ∨
    ∃ known, Attribute.ofOptions options = .ok (known.map Prod.snd) ∧ KnownOptions options known ∧
      ∀ option ∈ options, ¬Faulty option := by
  induction options with
  | nil => exact .inr ⟨[], rfl, .nil, fun _ h => nomatch h⟩
  | cons option options ih =>
    obtain ⟨hfirst, hrest⟩ := List.pairwise_cons.1 horder
    obtain ⟨name, value⟩ := option
    rw [Attribute.ofOptions]
    cases hname : AttributeKey.ofName? name with
    | none =>
      have hharmless : ¬Faulty (name, value) := by
        rintro ⟨key, e, hkey, -⟩
        rw [hname] at hkey
        cases hkey
      rcases ih hrest with ⟨e, he, option, hmem, hfaulty⟩ | ⟨known, hok, hknown, hall⟩
      · exact .inl ⟨e, he, option, List.mem_cons_of_mem _ hmem, hfaulty⟩
      · exact .inr ⟨known, hok, hknown.cons_unknown hname,
          List.forall_mem_cons.2 ⟨hharmless, hall⟩⟩
    | some key =>
      cases hparse : key.parse name value with
      | error e =>
        exact .inl ⟨e, by simp only [hparse], (name, value), List.mem_cons_self, key, e, hname,
          hparse⟩
      | ok a =>
        have hharmless : ¬Faulty (name, value) := by
          rintro ⟨key', e, hkey, hfault⟩
          rw [hname] at hkey
          cases hkey
          rw [hparse] at hfault
          cases hfault
        rcases ih hrest with ⟨e, he, option, hmem, hfaulty⟩ | ⟨known, hok, hknown, hall⟩
        · exact .inl ⟨e, by simp only [hparse, he, Except.map], option,
            List.mem_cons_of_mem _ hmem, hfaulty⟩
        · exact .inr ⟨(name, a) :: known, by simp only [hparse, hok, Except.map, List.map_cons],
            hknown.cons ⟨key, hname, hparse⟩ hfirst, List.forall_mem_cons.2 ⟨hharmless, hall⟩⟩

/-! ## Setting attributes -/

namespace Opening

/-- The engine accepts requests one after another. -/
def Accepts (e : Engine) (log : List Request) : List Request → Prop
  | [] => True
  | r :: rs => (e.answer log r).Succeeds ∧ Accepts e (log ++ [r]) rs

/-- Setting `as` sends their statements up to the first that is refused, and ends with its fault, or
with success. -/
inductive SetsUp (e : Engine) (log : List Request) :
    List Attribute → List Request → Except DatabaseError Unit → Prop where
  | all {as : List Attribute} (haccepts : Accepts e log (as.map Attribute.request)) :
      SetsUp e log as (as.map Attribute.request) (.ok ())
  | upTo {before after : List Attribute} {a : Attribute} {fault : DatabaseError}
      (haccepts : Accepts e log (before.map Attribute.request))
      (hfails : e.answer (log ++ before.map Attribute.request) a.request = .failed fault) :
      SetsUp e log (before ++ a :: after) (before.map Attribute.request ++ [a.request])
        (.error fault)

/-- The step for an attribute that is accepted. -/
theorem SetsUp.cons {e : Engine} {log sent : List Request} {a : Attribute} {as : List Attribute}
    {r : Except DatabaseError Unit} (haccepts : (e.answer log a.request).Succeeds)
    (h : SetsUp e (log ++ [a.request]) as sent r) :
    SetsUp e log (a :: as) (a.request :: sent) r := by
  cases h with
  | all hrest => exact .all ⟨haccepts, hrest⟩
  | @upTo before after b fault hrest hfails =>
    have hbefore : Accepts e log ((a :: before).map Attribute.request) := ⟨haccepts, hrest⟩
    refine .upTo hbefore ?_
    rwa [List.append_assoc] at hfails

/-- Induction on the attributes: `applyAll` sets them as `SetsUp` says, whatever the engine
replies. -/
theorem run_applyAll (as : List Attribute) (s : Session) (h : s.engine.hasAttributes = true) :
    ∃ r sent q, (applyAll as).run s = (r, q) ∧ q.engine = s.engine ∧ q.log = s.log ++ sent ∧
      SetsUp s.engine s.log as sent r := by
  induction as generalizing s with
  | nil => exact ⟨_, [], s, rfl, rfl, (List.append_nil _).symm, .all trivial⟩
  | cons a as ih =>
    have happly : (Attribute.apply a).run s = (Session.run a.statement).run s := by
      have hget : (get : Call DatabaseError Session).run s = (.ok s, s) := rfl
      unfold Attribute.apply
      rw [run_bind_ok hget, if_pos h]
    -- the reply decides whether the others are set at all
    cases hreply : s.reply a.request with
    | failed fault =>
      have hrun := happly.trans (Session.run_run_failed hreply)
      have hfails : s.engine.answer (s.log ++ [].map Attribute.request) a.request =
          .failed fault := by
        rwa [List.map_nil, List.append_nil]
      exact ⟨_, [a.request], _, run_bind_error hrun, rfl, rfl,
        @SetsUp.upTo _ _ [] as a fault trivial hfails⟩
    | _ =>
      have haccepts : (s.reply a.request).Succeeds := by
        rw [hreply]
        exact fun e he => nomatch he
      have hrun := happly.trans (Session.run_run haccepts)
      obtain ⟨r, sent, q, hrest, hengine, hlog, hsets⟩ := ih (s.logged a.request) h
      refine ⟨r, a.request :: sent, q, (run_bind_ok hrun).trans hrest, hengine, ?_,
        hsets.cons haccepts⟩
      rw [hlog, Session.logged, List.append_assoc, List.singleton_append]

/-! ## Attempts -/

/-- There are one or two attempts, two exactly if the first lost its connection, and the last one
gives the result. -/
theorem attempt_spec (connector : Connector) :
    ((attempt connector).1 = 1 ∨ (attempt connector).1 = 2) ∧
    ((attempt connector).1 = 2 ↔ ∃ e, connector 0 = .error e ∧ e.Lost) ∧
    (attempt connector).2.1 =
      (connector ((attempt connector).1 - 1)).mapError DatabaseError.ofHandshake := by
  unfold attempt
  cases hfirst : connector 0 with
  | ok engine =>
    refine ⟨.inl rfl, iff_of_false (Nat.ne_of_lt Nat.one_lt_two) ?_, ?_⟩
    · rintro ⟨e, he, -⟩
      cases he
    · show Except.ok engine = (connector 0).mapError _
      rw [hfirst]
      rfl
  | error e =>
    dsimp only
    cases hlost : e.isLost with
    | true =>
      exact ⟨.inr rfl, iff_of_true rfl ⟨e, rfl, DatabaseError.isLost_iff.1 hlost⟩, rfl⟩
    | false =>
      refine ⟨.inl rfl, iff_of_false (Nat.ne_of_lt Nat.one_lt_two) ?_, ?_⟩
      · rintro ⟨fault, hfault, hfaultLost⟩
        cases hfault
        rw [DatabaseError.isLost_iff.2 hfaultLost] at hlost
        cases hlost
      · show Except.error e.ofHandshake = (connector 0).mapError _
        rw [hfirst]
        rfl

/-! ## The promise -/

/-- A configuration that is refused: it has no connection string, or a faulty option. -/
def Refused (keyFile : String → Option String) (c : Connection)
    (options : List (String × String)) : Prop :=
  (∃ e, ConnectionString.build keyFile c = .error e) ∨ ∃ option ∈ options, Attribute.Faulty option

/-- What opening a session promises. -/
structure Promise (connector : Connector) (keyFile : String → Option String) (c : Connection)
    (options : List (String × String)) (o : Opening) : Prop where
  refused : Refused keyFile c options →
    o.attempts = 0 ∧ o.session = none ∧ ∃ e, o.outcome = .error (.config e)
  /-- A second attempt is made if and only if the first has lost its connection. -/
  attempts : ¬Refused keyFile c options →
    (o.attempts = 1 ∨ o.attempts = 2) ∧
      (o.attempts = 2 ↔ ∃ e, connector 0 = .error e ∧ e.Lost)
  /-- A last attempt that fails ends with a fault of the configuration or of the connection, which
  is no lost connection. -/
  failed : ¬Refused keyFile c options → ∀ e, connector (o.attempts - 1) = .error e →
    o.session = none ∧ ∃ fault, o.outcome = .error fault ∧ ¬fault.Lost ∧
      ((∃ cause, fault = .config cause) ∨ ∃ reason, fault = .connection reason)
  /-- A session gets the statements of the known options in the order of their names, and what comes
  of that is what comes of the opening. -/
  opened : ¬Refused keyFile c options → ∀ engine, connector (o.attempts - 1) = .ok engine →
    ∃ session known, o.session = some session ∧ session.engine = engine ∧
      KnownOptions options known ∧ SetsUp engine [] (known.map Prod.snd) session.log o.outcome

/-- A refused configuration keeps the promise without an attempt. -/
theorem Promise.of_refused {connector : Connector} {keyFile : String → Option String}
    {c : Connection} {options : List (String × String)} {o : Opening}
    (hrefused : Refused keyFile c options) (hattempts : o.attempts = 0)
    (hsession : o.session = none) (houtcome : ∃ e, o.outcome = .error (.config e)) :
    Promise connector keyFile c options o where
  refused _ := ⟨hattempts, hsession, houtcome⟩
  attempts haccepted := absurd hrefused haccepted
  failed haccepted := absurd hrefused haccepted
  opened haccepted := absurd hrefused haccepted

section Accepted

variable {connector : Connector} {keyFile : String → Option String} {c : Connection}
  {options : List (String × String)} {known : List (String × Attribute)}
  {target : ConnectionString} {n : Nat} {lost : List Notice}

/-- The notices of an opening: those of the connection string, of the options and of a lost first
attempt. -/
def told (c : Connection) (options : List (String × String)) (lost : List Notice) : List Notice :=
  ConnectionString.notices c ++ Attribute.optionNotices options ++ lost

/-- An opening whose last attempt fails. -/
theorem run_of_error (hbuild : ConnectionString.build keyFile c = .ok target)
    (hok : Attribute.ofOptions options = .ok (known.map Prod.snd)) {e : DatabaseError}
    (hattempt : attempt connector = (n, .error e, lost)) :
    run connector keyFile c options =
      { attempts := n, outcome := .error e, notices := told c options lost } := by
  simp only [run, hbuild, hok, hattempt, told]

/-- An opening whose last attempt succeeds goes on to the attributes. -/
theorem run_of_ok (hbuild : ConnectionString.build keyFile c = .ok target)
    (hok : Attribute.ofOptions options = .ok (known.map Prod.snd)) {engine : Engine}
    (hattempt : attempt connector = (n, .ok engine, lost))
    (hattributes : engine.hasAttributes = true) :
    ∃ session outcome, run connector keyFile c options =
        { attempts := n, session := some session, outcome, notices := told c options lost } ∧
      session.engine = engine ∧ SetsUp engine [] (known.map Prod.snd) session.log outcome := by
  obtain ⟨r, sent, session, happly, hengine, hlog, hsets⟩ :=
    run_applyAll (known.map Prod.snd) { engine } hattributes
  have hsent : session.log = sent := hlog
  refine ⟨session, r, ?_, hengine, hsent ▸ hsets⟩
  simp only [run, hbuild, hok, hattempt, happly, told]

/-- An accepted configuration keeps the promise, by what its last attempt comes to. -/
theorem promise_of_accepted (hattributes : ∀ n e, connector n = .ok e → e.hasAttributes = true)
    (hbuild : ConnectionString.build keyFile c = .ok target)
    (hok : Attribute.ofOptions options = .ok (known.map Prod.snd))
    (hknown : KnownOptions options known) (haccepted : ¬Refused keyFile c options) :
    Promise connector keyFile c options (run connector keyFile c options) := by
  have hspec := attempt_spec connector
  rcases hattempt : attempt connector with ⟨n, made, lost⟩
  rw [hattempt] at hspec
  obtain ⟨hcount, htwice, hmade⟩ := hspec
  dsimp only at hcount htwice hmade
  -- what is left of the promise speaks of the last attempt only
  cases hlast : connector (n - 1) with
  | error e =>
    rw [hlast] at hmade
    rw [run_of_error hbuild hok (hmade ▸ hattempt)]
    exact {
      refused := fun hrefused => absurd hrefused haccepted
      attempts := fun _ => ⟨hcount, htwice⟩
      failed := fun _ _ _ => ⟨rfl, e.ofHandshake, rfl, e.not_lost_ofHandshake,
        e.ofHandshake_cases⟩
      opened := fun _ engine hengine => by
        rw [hlast] at hengine
        cases hengine }
  | ok engine =>
    rw [hlast] at hmade
    obtain ⟨session, outcome, hrun, hengine, hsets⟩ :=
      run_of_ok hbuild hok (hmade ▸ hattempt) (hattributes _ _ hlast)
    rw [hrun]
    exact {
      refused := fun hrefused => absurd hrefused haccepted
      attempts := fun _ => ⟨hcount, htwice⟩
      failed := fun _ e he => by
        rw [hlast] at he
        cases he
      opened := fun _ engine' hengine' => by
        rw [hlast] at hengine'
        cases hengine'
        exact ⟨session, known, rfl, hengine, hknown, hsets⟩ }

end Accepted

/-- Opening a session keeps its promise for every connector and every engine that takes attributes
as statements. -/
theorem run_keeps_promise {connector : Connector} {options : List (String × String)}
    (hattributes : ∀ n e, connector n = .ok e → e.hasAttributes = true)
    (horder : options.Pairwise fun a b => a.1 < b.1) (keyFile : String → Option String)
    (c : Connection) :
    Promise connector keyFile c options (run connector keyFile c options) := by
  -- the connection string, the options and the attempts may fail in turn
  cases hbuild : ConnectionString.build keyFile c with
  | error e =>
    have hrun : run connector keyFile c options =
        { outcome := .error (.config e), notices := ConnectionString.notices c } := by
      simp only [run, hbuild]
    rw [hrun]
    exact .of_refused (.inl ⟨e, hbuild⟩) rfl rfl ⟨e, rfl⟩
  | ok target =>
    rcases Attribute.ofOptions_cases horder with ⟨e, he, hfaulty⟩ | ⟨known, hok, hknown, hall⟩
    · have hrun : run connector keyFile c options =
          { outcome := .error (.config e), notices := told c options [] } := by
        simp only [run, hbuild, he, told, List.append_nil]
      rw [hrun]
      exact .of_refused (.inr hfaulty) rfl rfl ⟨e, rfl⟩
    · refine promise_of_accepted hattributes hbuild hok hknown ?_
      rintro (⟨e, he⟩ | ⟨option, hmem, hfaulty⟩)
      · rw [hbuild] at he
        cases he
      · exact hall option hmem hfaulty

/-- An engine that refuses to set the time zone. -/
def zonelessEngine : Engine :=
  .scripted "queue" true [⟨"ALTER SESSION SET TIMEZONE", [.fails (.execution · "unknown zone")]⟩]

/-- A connector of which the first attempt loses its connection within a script. -/
def flakyConnector : Connector
  | 0 => .error (.scriptFailed 1 "SELECT 1" (.lost "gone"))
  | _ => .ok zonelessEngine

/-- A first attempt that loses its connection inside a script, and a second one whose last attribute
is refused. -/
theorem run_keeps_promise_flakyConnector :
    let c : Connection :=
      { account := "acme", database := "DB", warehouse := "WH", password := some "pw" }
    let options := [("autocommit", "off"), ("colour", "red"), ("timezone", "Mars")]
    let o := run flakyConnector (fun _ => none) c options
    (o.attempts = 2 ∧ o.session.map (·.log.map Request.sql) =
        some ["ALTER SESSION SET AUTOCOMMIT = FALSE", "ALTER SESSION SET TIMEZONE = 'Mars'"]) ∧
      Promise flakyConnector (fun _ => none) c options o := by
  have hattributes : ∀ n e, flakyConnector n = .ok e → e.hasAttributes = true := by
    intro n e he
    cases n with
    | zero => cases he
    | succ n =>
      cases he
      rfl
  exact ⟨by decide +kernel, run_keeps_promise hattributes (by decide +kernel) _ _⟩

end Opening

end Snowbridge
