import Snowbridge.Connection.Override
import Snowbridge.Proofs.Text.Parts

/-!
# Overrides of a connection

What a source of values leaves of a connection: the fields for which it has a value hold that value,
and every other field stays (`get_replaceFields`). A connection is what its fields hold
(`ext_get`), so a second override finds nothing to change. A value is never blank, and trimming
does not make it so, hence an override takes no required field and no credential away
(`validate_replaceFields`).
-/

namespace Snowbridge.Connection

/-! ## Fields -/

/-- Setting a field changes that field only. -/
theorem get_set (c : Connection) (f g : Field) (value : String) :
    (c.set f value).get g = if f = g then some value else c.get g := by
  cases f <;> cases g <;> rfl

theorem Field.mem_all (f : Field) : f ∈ Field.all := by
  cases f <;> decide

theorem Field.nodup_all : Field.all.Nodup := by
  decide

/-- A connection is determined by its fields. -/
theorem ext_get {c c' : Connection} (h : ∀ f, c.get f = c'.get f) : c = c' := by
  obtain ⟨hostname, account, database, schema, warehouse, role, username, password, path,
    passphrase⟩ := c
  obtain ⟨hostname', account', database', schema', warehouse', role', username', password', path',
    passphrase'⟩ := c'
  -- one equation for each field
  obtain rfl : hostname = hostname' := h .hostname
  obtain rfl : account = account' := Option.some.inj (h .account)
  obtain rfl : database = database' := Option.some.inj (h .database)
  obtain rfl : schema = schema' := h .schema
  obtain rfl : warehouse = warehouse' := Option.some.inj (h .warehouse)
  obtain rfl : role = role' := h .role
  obtain rfl : username = username' := h .username
  obtain rfl : password = password' := h .password
  obtain rfl : path = path' := h .privateKeyPath
  obtain rfl : passphrase = passphrase' := h .privateKeyPassphrase
  rfl

/-! ## Sources of values -/

section Source

variable (source : Field → Option String)

/-- The applied fields are those with a value in the source. -/
theorem applied_replaceFields (c : Connection) (fs : List Field) :
    (replaceFields source c fs).2 = fs.filter fun f => (source f).isSome := by
  induction fs generalizing c with
  | nil => rfl
  | cons f fs ih =>
    rw [List.filter_cons, replaceFields]
    cases source f with
    | none => exact ih c
    | some value => exact congrArg (f :: ·) (ih _)

/-- A field with a value in the source holds that value, cleaned, and any other field is kept. -/
theorem get_replaceFields (c : Connection) (fs : List Field) (g : Field) :
    (replaceFields source c fs).1.get g =
      if g ∈ fs then ((source g).map g.clean).or (c.get g) else c.get g := by
  -- induction on the fields that are still to be replaced
  induction fs generalizing c with
  | nil => rfl
  | cons f fs ih =>
    rw [replaceFields]
    cases hf : source f with
    | none =>
      by_cases hgf : g = f
      · subst hgf
        simp [ih, hf]
      · simp [ih, hgf]
    | some value =>
      have hrest := ih (c.set f (f.clean value))
      rw [get_set] at hrest
      by_cases hgf : g = f
      · -- if the field comes again, the same value replaces it again
        subst hgf
        simpa [hf] using hrest
      · simpa [hgf, Ne.symm hgf] using hrest

/-- Overriding is idempotent. -/
theorem replaceFields_again (c : Connection) :
    replaceFields source (replaceFields source c Field.all).1 Field.all =
      replaceFields source c Field.all := by
  refine Prod.ext (ext_get fun g => ?_) ?_
  · rw [get_replaceFields, get_replaceFields, if_pos (Field.mem_all g), if_pos (Field.mem_all g)]
    cases source g <;> rfl
  · rw [applied_replaceFields, applied_replaceFields]

end Source

/-! ## Valid connections -/

/-- A field is given: a nonempty secret, or another nonblank text. -/
def IsGiven (c : Connection) (f : Field) : Prop :=
  ∃ v, c.get f = some v ∧ if f.isSecret then v ≠ "" else Text.isBlankText v = false

theorem isSome_nonBlank (s : Option String) :
    (s.bind Text.nonBlank).isSome = true ↔ ∃ v, s = some v ∧ Text.isBlankText v = false := by
  cases s with
  | none => simp
  | some v => cases hv : Text.isBlankText v <;> simp [Text.nonBlank, hv]

theorem isSome_secret? (s : Option String) :
    (secret? s).isSome = true ↔ ∃ v, s = some v ∧ v ≠ "" := by
  cases s <;> simp [secret?, Option.isSome_filter]

/-- A connection is valid exactly if account, database and warehouse are given, and a private key
path or a password. -/
theorem validate_eq_ok_iff (c : Connection) : c.validate = .ok () ↔
    c.IsGiven .account ∧ c.IsGiven .database ∧ c.IsGiven .warehouse ∧
      (c.IsGiven .privateKeyPath ∨ c.IsGiven .password) := by
  have hrequired : ∀ f v, f.isSecret = false → c.get f = some v →
      (c.IsGiven f ↔ Text.isBlankText v = false) := by
    intro f v hf hv
    simp [IsGiven, hf, hv]
  have hkey : c.IsGiven .privateKeyPath ↔ c.privateKeyPath?.isSome = true :=
    (isSome_nonBlank c.privateKeyPath).symm
  have hpassword : c.IsGiven .password ↔ c.password?.isSome = true :=
    (isSome_secret? c.password).symm
  rw [hrequired .account c.account rfl rfl, hrequired .database c.database rfl rfl,
    hrequired .warehouse c.warehouse rfl rfl, hkey, hpassword, validate]
  cases Text.isBlankText c.account <;> cases Text.isBlankText c.database <;>
    cases Text.isBlankText c.warehouse <;> cases c.privateKeyPath? <;> cases c.password? <;> simp

section Validity

variable {source : Field → Option String}
  (hvalues : ∀ f v, source f = some v → Text.isBlankText v = false)

include hvalues

/-- Overriding by nonblank values keeps a field given. -/
theorem IsGiven.replaceFields {c : Connection} {f : Field} (h : c.IsGiven f) :
    (Connection.replaceFields source c Field.all).1.IsGiven f := by
  have hget := get_replaceFields source c Field.all f
  rw [if_pos (Field.mem_all f)] at hget
  cases hf : source f with
  | none =>
    rw [hf] at hget
    obtain ⟨v, hv, hgiven⟩ := h
    exact ⟨v, hget.trans hv, hgiven⟩
  | some v =>
    rw [hf] at hget
    refine ⟨f.clean v, hget, ?_⟩
    -- a secret is taken as it is, another value is trimmed, and neither becomes blank
    have hv := hvalues f v hf
    unfold Field.clean
    split
    · rintro rfl
      cases hv
    · rwa [Text.isBlankText_trimmed]

/-- Overriding by nonblank values keeps a connection valid. -/
theorem validate_replaceFields {c : Connection} (h : c.validate = .ok ()) :
    (Connection.replaceFields source c Field.all).1.validate = .ok () := by
  rw [validate_eq_ok_iff] at h ⊢
  obtain ⟨haccount, hdatabase, hwarehouse, hcredential⟩ := h
  exact ⟨haccount.replaceFields hvalues, hdatabase.replaceFields hvalues,
    hwarehouse.replaceFields hvalues,
    hcredential.imp (IsGiven.replaceFields hvalues) (IsGiven.replaceFields hvalues)⟩

end Validity

/-! ## What an override does -/

/-- The connection `c'` is `c` with the values that `gives` has, trimmed unless they are secrets;
`applied` lists the replaced fields in the order of all fields. -/
structure Replaced (gives : Field → String → Prop) (c c' : Connection) (applied : List Field) :
    Prop where
  ordered : applied.Sublist Field.all
  distinct : applied.Nodup
  mem_iff : ∀ f, f ∈ applied ↔ ∃ value, gives f value
  replaced : ∀ f value, gives f value →
    c'.get f = some (if f.isSecret then value else Text.trimmed value)
  kept : ∀ f, f ∉ applied → c'.get f = c.get f

/-- `replaceFields` replaces as `Replaced` says, for any source. -/
theorem replaced_replaceFields {source : Field → Option String} {gives : Field → String → Prop}
    (h : ∀ f value, source f = some value ↔ gives f value) (c : Connection) :
    Replaced gives c (replaceFields source c Field.all).1 (replaceFields source c Field.all).2 := by
  have happlied := applied_replaceFields source c Field.all
  have hmem : ∀ f, f ∈ (replaceFields source c Field.all).2 ↔ (source f).isSome = true := by
    intro f
    rw [happlied, List.mem_filter]
    exact and_iff_right (Field.mem_all f)
  have hget : ∀ f, (replaceFields source c Field.all).1.get f =
      ((source f).map f.clean).or (c.get f) := by
    intro f
    rw [get_replaceFields, if_pos (Field.mem_all f)]
  refine ⟨?_, ?_, ?_, ?_, ?_⟩
  · rw [happlied]
    exact List.filter_sublist
  · rw [happlied]
    exact Field.nodup_all.filter _
  · intro f
    rw [hmem, Option.isSome_iff_exists]
    exact exists_congr (h f)
  · intro f value hgives
    rw [hget, (h f value).2 hgives]
    rfl
  · intro f hf
    rw [hmem, Option.not_isSome_iff_eq_none] at hf
    rw [hget, hf]
    rfl

/-- The mapping names a header or parameter for the field, and the request has this value under that
name. -/
def Mapping.Carries (m : Mapping) (r : Request) (f : Field) (value : String) : Prop :=
  ∃ name, m.entries.lookup f = some name ∧ Text.isBlankText name = false ∧
    r.lookup name = some value

/-- The source that a mapping and a request make has the values that the request carries. -/
theorem Mapping.carries_iff (m : Mapping) (r : Request) (f : Field) (value : String) :
    (m.nameFor f).bind r.lookup = some value ↔ m.Carries r f value := by
  simp only [Option.bind_eq_some_iff, nameFor, Option.filter_eq_some_iff, Bool.not_eq_true', Carries,
    and_assoc]

/-- A request never gives a blank value. -/
theorem Request.not_blank_of_lookup {r : Request} {name value : String}
    (h : r.lookup name = some value) : Text.isBlankText value = false := by
  simpa using (Option.filter_eq_some_iff.1 h).2

/-- An override replaces exactly the fields for which the request carries a value. It is idempotent,
and keeps a valid connection valid. -/
theorem override_takes_over (c : Connection) (m : Mapping) (r : Request) :
    Replaced (m.Carries r) c (c.override m r).1 (c.override m r).2 ∧
    (c.override m r).1.override m r = c.override m r ∧
    (c.validate = .ok () → (c.override m r).1.validate = .ok ()) := by
  refine ⟨replaced_replaceFields (m.carries_iff r) c, replaceFields_again _ c, ?_⟩
  refine validate_replaceFields fun f v hv => ?_
  obtain ⟨name, -, hlookup⟩ := Option.bind_eq_some_iff.1 hv
  exact Request.not_blank_of_lookup hlookup

/-- A mapping in which one name carries two fields, and the name for a third field is blank. -/
def sharedMapping : Mapping :=
  ⟨[(.hostname, "X-Target"), (.account, "X-Target"), (.password, "X-Password"), (.role, " ")]⟩

/-- A request with blanks around its values. -/
def paddedRequest : Request :=
  (Request.addHeader {} "x-target" " acme ").addQuery "X-Password" " p w "

/-- A connection that authenticates with a password. -/
def passwordConnection : Connection where
  account := "old"
  database := "DB"
  warehouse := "WH"
  password := some "pw"

/-- One name for two fields, a blank name, padded values and a secret. -/
theorem override_takes_over_paddedRequest :
    let after := passwordConnection.override sharedMapping paddedRequest
    passwordConnection.validate = .ok () ∧ after.1.validate = .ok () ∧
      after.2 = [.hostname, .account, .password] ∧ after.1.get .hostname = some "acme" ∧
      after.1.get .account = some "acme" ∧ after.1.get .password = some " p w " ∧
      after.1.get .role = none ∧ after.1.override sharedMapping paddedRequest = after := by
  intro after
  have hvalid : passwordConnection.validate = .ok () := rfl
  have happlied : after.2 = [.hostname, .account, .password] := by
    decide +kernel
  obtain ⟨htaken, hagain, hstill⟩ :=
    override_takes_over passwordConnection sharedMapping paddedRequest
  have htarget : ∀ f, sharedMapping.entries.lookup f = some "X-Target" →
      sharedMapping.Carries paddedRequest f " acme " := by
    intro f hf
    exact ⟨"X-Target", hf, by decide +kernel, by decide +kernel⟩
  have hpassword : sharedMapping.Carries paddedRequest .password " p w " :=
    ⟨"X-Password", rfl, by decide +kernel, by decide +kernel⟩
  refine ⟨hvalid, hstill hvalid, happlied, ?_, ?_, ?_, ?_, hagain⟩
  · exact (htaken.replaced _ _ (htarget .hostname rfl)).trans (by decide +kernel)
  · exact (htaken.replaced _ _ (htarget .account rfl)).trans (by decide +kernel)
  · exact htaken.replaced _ _ hpassword
  · exact htaken.kept .role (by rw [happlied]; decide)

/-- The same for an override from the environment, by the variables that are set and not blank. -/
theorem overrideFromEnvironment_takes_over (c : Connection) (environment : String → Option String) :
    Replaced (fun f value => environment f.environmentName = some value ∧
        Text.isBlankText value = false) c
      (c.overrideFromEnvironment environment).1 (c.overrideFromEnvironment environment).2 ∧
    (c.overrideFromEnvironment environment).1.overrideFromEnvironment environment =
      c.overrideFromEnvironment environment ∧
    (c.validate = .ok () → (c.overrideFromEnvironment environment).1.validate = .ok ()) := by
  let source := fun f : Field =>
    (environment f.environmentName).filter fun v => !Text.isBlankText v
  have hsource : ∀ f value, source f = some value ↔
      environment f.environmentName = some value ∧ Text.isBlankText value = false := by
    intro f value
    rw [Option.filter_eq_some_iff, Bool.not_eq_true']
  refine ⟨replaced_replaceFields hsource c, replaceFields_again source c, ?_⟩
  exact validate_replaceFields fun f v hv => ((hsource f v).1 hv).2

end Snowbridge.Connection
