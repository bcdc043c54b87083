import Snowbridge.CommandLine.Report
import Snowbridge.Proofs.Connection.Override

/-!
# Secrets

Two connections that differ in what their secrets hold, and in nothing else, show the same to an
operator. The relation between the two is kept by every override, both are refused for the same
reason or none is, and of what is then written only a masked passphrase comes from a secret.
-/

namespace Snowbridge

namespace Connection

/-- Connections that agree on all plain fields, and on which secrets are absent and which are
empty. -/
structure AlikeButSecrets (c c' : Connection) : Prop where
  plain : ∀ f : Field, f.isSecret = false → c.get f = c'.get f
  secret : ∀ f : Field, f.isSecret = true →
    (c.get f).map (· == "") = (c'.get f).map (· == "")

/-! ## Single secrets -/

section Secret

variable {a b : Option String}

/-- Such secrets are given in both or in neither. -/
theorem isSome_eq_of_map_eq (h : a.map (· == "") = b.map (· == "")) : a.isSome = b.isSome := by
  have hsome := congrArg Option.isSome h
  rwa [Option.isSome_map, Option.isSome_map] at hsome

/-- Such secrets are given and nonempty in both or in neither. -/
theorem isSome_secret?_eq (h : a.map (· == "") = b.map (· == "")) :
    (secret? a).isSome = (secret? b).isSome := by
  have hgiven : ∀ s : Option String,
      (secret? s).isSome = true ↔ s.map (· == "") = some false := by
    intro s
    simp only [isSome_secret?, Option.map_eq_some_iff, beq_eq_false_iff_ne]
  rw [Bool.eq_iff_iff, hgiven, hgiven, h]

/-- A masked secret shows only whether it is given. -/
theorem masked_eq (h : a.isSome = b.isSome) : masked a = masked b := by
  cases a <;> cases b <;> first | rfl | cases h

end Secret

/-! ## Overrides -/

namespace AlikeButSecrets

variable {c c' : Connection}

/-- Setting a field of both keeps them alike. -/
theorem set (h : c.AlikeButSecrets c') (f : Field) (value : String) :
    (c.set f value).AlikeButSecrets (c'.set f value) where
  plain g hg := by rw [get_set, get_set, h.plain g hg]
  secret g hg := by
    rw [get_set, get_set]
    split
    · rfl
    · exact h.secret g hg

/-- Overriding both from one source keeps them alike and applies the same fields. -/
theorem replaceFields (h : c.AlikeButSecrets c') (source : Field → Option String)
    (fs : List Field) :
    (Connection.replaceFields source c fs).1.AlikeButSecrets
        (Connection.replaceFields source c' fs).1 ∧
      (Connection.replaceFields source c fs).2 = (Connection.replaceFields source c' fs).2 := by
  induction fs generalizing c c' with
  | nil => exact ⟨h, rfl⟩
  | cons f fs ih =>
    unfold Connection.replaceFields
    -- the value comes from the source, so it is the same for both
    cases source f with
    | none => exact ih h
    | some value =>
      obtain ⟨halike, happlied⟩ := ih (h.set f (f.clean value))
      exact ⟨halike, congrArg (f :: ·) happlied⟩

/-- Overriding both from the environment. -/
theorem overrideFromEnvironment (h : c.AlikeButSecrets c') (environment : String → Option String) :
    (c.overrideFromEnvironment environment).1.AlikeButSecrets
        (c'.overrideFromEnvironment environment).1 ∧
      (c.overrideFromEnvironment environment).2 = (c'.overrideFromEnvironment environment).2 :=
  h.replaceFields _ _

/-- Overriding both from a request. -/
theorem override (h : c.AlikeButSecrets c') (m : Mapping) (r : Request) :
    (c.override m r).1.AlikeButSecrets (c'.override m r).1 ∧
      (c.override m r).2 = (c'.override m r).2 :=
  h.replaceFields _ _

/-! ## What is left of a connection without its secrets -/

/-- Connections that are alike differ in the two secrets only. -/
theorem eq (h : c.AlikeButSecrets c') : c' =
    { c with password := c'.password, privateKeyPassphrase := c'.privateKeyPassphrase } := by
  obtain ⟨hostname, account, database, schema, warehouse, role, username, _, path, _⟩ := c
  obtain ⟨hostname', account', database', schema', warehouse', role', username', _, path', _⟩ := c'
  have hhostname : hostname = hostname' := h.plain .hostname rfl
  have haccount : account = account' := Option.some.inj (h.plain .account rfl)
  have hdatabase : database = database' := Option.some.inj (h.plain .database rfl)
  have hschema : schema = schema' := h.plain .schema rfl
  have hwarehouse : warehouse = warehouse' := Option.some.inj (h.plain .warehouse rfl)
  have hrole : role = role' := h.plain .role rfl
  have husername : username = username' := h.plain .username rfl
  have hpath : path = path' := h.plain .privateKeyPath rfl
  subst hhostname haccount hdatabase hschema hwarehouse hrole husername hpath
  rfl

theorem isSome_password? (h : c.AlikeButSecrets c') :
    c.password?.isSome = c'.password?.isSome :=
  isSome_secret?_eq (h.secret .password rfl)

theorem isSome_passphrase? (h : c.AlikeButSecrets c') :
    c.passphrase?.isSome = c'.passphrase?.isSome :=
  isSome_secret?_eq (h.secret .privateKeyPassphrase rfl)

/-- Both authenticate in the same way. -/
theorem usesKeyPair (h : c.AlikeButSecrets c') : c.usesKeyPair = c'.usesKeyPair := by
  rw [h.eq]
  rfl

/-- Both are valid, or refused with the same fault. -/
theorem validate (h : c.AlikeButSecrets c') : c.validate = c'.validate := by
  -- of the password it only counts whether it is there
  have hpassword : c.password?.isNone = c'.password?.isNone := by
    rw [← Option.not_isSome, ← Option.not_isSome, h.isSome_password?]
  unfold Connection.validate
  rw [hpassword]
  rw [h.eq]
  rfl

/-- Both have the same debug text. -/
theorem shown (h : c.AlikeButSecrets c') : c.shown = c'.shown := by
  have hpassword : masked c.password = masked c'.password :=
    masked_eq (isSome_eq_of_map_eq (h.secret .password rfl))
  have hpassphrase : masked c.privateKeyPassphrase = masked c'.privateKeyPassphrase :=
    masked_eq (isSome_eq_of_map_eq (h.secret .privateKeyPassphrase rfl))
  unfold Connection.shown
  rw [hpassword, hpassphrase]
  rw [h.eq]

end AlikeButSecrets

end Connection

/-! ## Connection strings -/

namespace ConnectionString

/-- Connection strings with the same visible text, user and authentication. -/
structure LooksLike (s s' : ConnectionString) : Prop where
  display : s.display = s'.display
  username : s.username = s'.username
  password : s.password.isSome = s'.password.isSome
  authentication : s.authentication = s'.authentication

variable {s s' : ConnectionString}

/-- They have the same debug text. -/
theorem LooksLike.shown (h : s.LooksLike s') : s.shown = s'.shown := by
  unfold ConnectionString.shown
  rw [h.display, h.username, h.authentication, Connection.masked_eq h.password]

/-- A masked passphrase is written the same, whatever it is. -/
theorem flatMap_passphrase {a b : Option String} (h : a.isSome = b.isSome) :
    (field? Dsn.passphraseKey a).flatMap (writeField true) =
      (field? Dsn.passphraseKey b).flatMap (writeField true) := by
  cases a <;> cases b <;> first | rfl | cases h

/-- Authentication by key pair: only the passphrase is a field, and it is masked. -/
theorem looksLike_keyPair {c c' : Connection} (h : c.AlikeButSecrets c') (path : String) :
    LooksLike
      ⟨targetFields c ++ keyFields c path ++ [applicationField], c.username?, none, .keyPair⟩
      ⟨targetFields c' ++ keyFields c' path ++ [applicationField], c'.username?, none,
        .keyPair⟩ where
  display := by
    -- all fields but the passphrase are plain
    have htarget : targetFields c = targetFields c' := by
      rw [h.eq]
      rfl
    simp only [display, write, keyFields, List.flatMap_append, htarget,
      flatMap_passphrase h.isSome_passphrase?]
  username := by
    rw [h.eq]
    rfl
  password := rfl
  authentication := rfl

/-- Authentication by password: no secret is a field. -/
theorem looksLike_password {c c' : Connection} (h : c.AlikeButSecrets c') :
    LooksLike ⟨targetFields c ++ [applicationField], c.username?, c.password?, .password⟩
      ⟨targetFields c' ++ [applicationField], c'.username?, c'.password?, .password⟩ where
  display := by
    rw [h.eq]
    rfl
  username := by
    rw [h.eq]
    rfl
  password := h.isSome_password?
  authentication := rfl

/-- Both build, into strings that look alike, or both fail with the same fault. -/
theorem build_cases {c c' : Connection} (h : c.AlikeButSecrets c')
    (keyFile : String → Option String) :
    (∃ s s', build keyFile c = .ok s ∧ build keyFile c' = .ok s' ∧ s.LooksLike s') ∨
      ∃ e, build keyFile c = .error e ∧ build keyFile c' = .error e := by
  -- no secret decides which way the connection authenticates
  have hpath : c.privateKeyPath? = c'.privateKeyPath? := by
    rw [h.eq]
    rfl
  unfold build
  rw [h.validate, hpath]
  cases c'.validate with
  | error e => exact .inr ⟨e, rfl, rfl⟩
  | ok _ =>
    cases c'.privateKeyPath? with
    | none => exact .inl ⟨_, _, rfl, rfl, looksLike_password h⟩
    | some given =>
      cases hfile : keyFile given with
      | none =>
        simp only [hfile]
        exact .inr ⟨_, rfl, rfl⟩
      | some path =>
        simp only [hfile]
        exact .inl ⟨_, _, rfl, rfl, looksLike_keyPair h path⟩

/-- Both log the same notices. -/
theorem notices_eq {c c' : Connection} (h : c.AlikeButSecrets c') : notices c = notices c' := by
  rw [notices, notices, h.validate, h.usesKeyPair, h.isSome_password?]

end ConnectionString

/-! ## Reports -/

namespace CommandLine

/-- The JSON report does not depend on the secrets. -/
theorem DsnReport.toJson_eq {s s' : ConnectionString} (h : s.LooksLike s')
    (statements : List String) (fields : List Connection.Field) :
    (DsnReport.mk s statements fields).toJson = (DsnReport.mk s' statements fields).toJson := by
  simp only [toJson, h.display, h.username, h.authentication]

/-- Nor does the text report. -/
theorem DsnReport.lines_eq {s s' : ConnectionString} (h : s.LooksLike s')
    (statements : List String) (fields : List Connection.Field) :
    (DsnReport.mk s statements fields).lines = (DsnReport.mk s' statements fields).lines := by
  simp only [lines, h.display, h.username, h.authentication]

variable {c c' : Connection}

/-- The overrides of the command keep the connections alike and apply the same fields. -/
theorem overridden_alike (h : c.AlikeButSecrets c') (environment : String → Option String)
    (s : DsnSettings) (config : Configuration) :
    (overridden environment s { config with connection := c }).1.AlikeButSecrets
        (overridden environment s { config with connection := c' }).1 ∧
      (overridden environment s { config with connection := c }).2 =
        (overridden environment s { config with connection := c' }).2 := by
  obtain ⟨halike, hfields⟩ := h.overrideFromEnvironment environment
  obtain ⟨halike', hfields'⟩ := halike.override config.overrides s.request
  unfold overridden
  dsimp only
  exact ⟨halike', by rw [hfields, hfields']⟩

/-- The whole command has the same result and notices for both. -/
theorem reportDsn_eq (h : c.AlikeButSecrets c') (files : FileTree)
    (environment : String → Option String) (s : DsnSettings) (config : Configuration) :
    reportDsn files environment s { config with connection := c } =
      reportDsn files environment s { config with connection := c' } := by
  -- the report is made from the overridden connections, which are alike again
  obtain ⟨halike, hfields⟩ := overridden_alike h environment s config
  unfold reportDsn
  dsimp only
  rw [hfields, ConnectionString.notices_eq halike]
  rcases ConnectionString.build_cases halike files.canonicalFile? with
    ⟨target, target', hbuild, hbuild', hlooks⟩ | ⟨e, hbuild, hbuild'⟩
  · rw [hbuild, hbuild']
    simp only [DsnReport.toJson_eq hlooks, DsnReport.lines_eq hlooks]
    rfl
  · rw [hbuild, hbuild']

/-- Two results of `build` with the same visible texts and reports, or with the same fault. -/
def SeenAlike : Except ConfigError ConnectionString → Except ConfigError ConnectionString → Prop
  | .ok s, .ok s' => s.display = s'.display ∧ s.shown = s'.shown ∧ ∀ statements fields,
    (DsnReport.mk s statements fields).toJson = (DsnReport.mk s' statements fields).toJson ∧
      (DsnReport.mk s statements fields).lines = (DsnReport.mk s' statements fields).lines
  | .error e, .error e' => e = e'
  | _, _ => False

/-- Connections that are alike are built into results that are seen alike. -/
theorem seenAlike_build (h : c.AlikeButSecrets c') (keyFile : String → Option String) :
    SeenAlike (ConnectionString.build keyFile c) (ConnectionString.build keyFile c') := by
  rcases ConnectionString.build_cases h keyFile with ⟨s, s', hs, hs', hlooks⟩ | ⟨e, he, he'⟩
  · rw [hs, hs']
    exact ⟨hlooks.display, hlooks.shown, fun statements fields =>
      ⟨DsnReport.toJson_eq hlooks statements fields, DsnReport.lines_eq hlooks statements fields⟩⟩
  · rw [he, he']
    exact rfl

/-- No output depends on the secrets: not the debug text of the connection, not the texts and
reports of the connection string, not the faults, and not the result of the command. -/
theorem secrets_unseen (h : c.AlikeButSecrets c') :
    c.shown = c'.shown ∧
    (∀ keyFile, SeenAlike (ConnectionString.build keyFile c) (ConnectionString.build keyFile c')) ∧
    ∀ files environment s (config : Configuration),
      reportDsn files environment s { config with connection := c } =
        reportDsn files environment s { config with connection := c' } :=
  ⟨h.shown, seenAlike_build h, reportDsn_eq h⟩

/-- A connection with a private key. -/
def keyConnection (password passphrase : String) : Connection where
  account := "acme"
  database := "DB"
  warehouse := "WH"
  password := some password
  privateKeyPath := some "key.p8"
  privateKeyPassphrase := some passphrase

/-- Two passphrases and two passwords, of which the passphrase is a field of the connection
string. -/
theorem secrets_unseen_keyConnection :
    ((ConnectionString.build some (keyConnection "a" "x;")).toOption.bind
        (·.get? Dsn.passphraseKey) = some "x;") ∧
      SeenAlike (ConnectionString.build some (keyConnection "a" "x;"))
        (ConnectionString.build some (keyConnection "b" "hunter2")) := by
  have halike : (keyConnection "a" "x;").AlikeButSecrets (keyConnection "b" "hunter2") := by
    constructor <;> intro f hf <;> cases f <;> first | rfl | cases hf
  exact ⟨rfl, (secrets_unseen halike).2.1 some⟩

end CommandLine

end Snowbridge
