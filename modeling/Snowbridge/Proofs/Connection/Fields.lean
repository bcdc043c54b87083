import Snowbridge.Proofs.Connection.Grammar

/-!
# Fields of connection strings

A connection string is read back as the fields that it was written from: a key without reserved
characters and an escaped value are parts in writing, so what is written for fields says those fields
(`fields_writeFields`). The fields themselves come from the connection alone (`fields_of_build`).
-/

namespace Snowbridge

namespace Dsn

/-! ## Written fields -/

/-- A key that is written as it is: nonempty and without reserved characters. -/
def IsKey (key : String) : Prop := key ≠ "" ∧ ∀ c ∈ key.toList, isReserved c = false

instance (key : String) : Decidable (IsKey key) :=
  @instDecidableAnd _ _ _ (List.decidableBAll (fun c => isReserved c = false) key.toList)

theorem isReserved_iff {c : Char} : isReserved c = true ↔ c ∈ keyMarks := by
  simp [isReserved, keyMarks, or_assoc, or_comm, or_left_comm]

/-- A key without reserved characters is written as it is. -/
theorem part_key {key : List Char} (h : ∀ c ∈ key, isReserved c = false) :
    Part keyMarks key key := by
  induction key with
  | nil => exact .nil
  | cons c key ih =>
    have hc := h c List.mem_cons_self
    refine .plain ?_ (ih fun d hd => h d (List.mem_cons_of_mem c hd))
    rw [← isReserved_iff, hc]
    exact Bool.false_ne_true

/-- `escape` writes a value so that it is read back. -/
theorem part_escape (value : List Char) : Part valueMarks (escape value) value := by
  induction value with
  | nil => exact .nil
  | cons c value ih =>
    have hescape : escape (c :: value) =
        (if isReserved c then ['\\', c] else [c]) ++ escape value := rfl
    rw [hescape]
    split
    · exact .escaped c ih
    · next hc =>
      have hmarks : valueMarks ⊆ keyMarks := by decide
      exact .plain (fun hmark => hc (isReserved_iff.2 (hmarks hmark))) ih

/-- Written fields are in the grammar, with the fields they were written from. -/
theorem fields_writeFields {fs : List (String × String)} (h : ∀ f ∈ fs, IsKey f.1) :
    Fields (fs.flatMap fun f => writeField f.1 f.2) fs := by
  induction fs with
  | nil => exact .nil
  | cons f fs ih =>
    obtain ⟨hne, hplain⟩ := h f List.mem_cons_self
    have hwritten : (f :: fs).flatMap (fun f => writeField f.1 f.2) = f.1.toList ++
        '=' :: (escape f.2.toList ++ ';' :: fs.flatMap fun f => writeField f.1 f.2) := by
      simp [writeField]
    have hfield : Fields _ ((String.ofList f.1.toList, String.ofList f.2.toList) :: fs) :=
      .cons (part_key hplain) (by simpa using hne) (part_escape f.2.toList)
        (ih fun g hg => h g (List.mem_cons_of_mem f hg))
    rw [String.ofList_toList, String.ofList_toList] at hfield
    rw [hwritten]
    exact hfield

end Dsn

/-! ## Connection strings -/

namespace ConnectionString

/-- Reading a connection string inverts writing it. -/
theorem fields_dsn {s : ConnectionString} (h : ∀ f ∈ s.fields, Dsn.IsKey f.1) :
    Dsn.fields s.dsn = .ok s.fields := by
  have htext : s.dsn.toList =
      Dsn.scheme.toList ++ s.fields.flatMap fun f => Dsn.writeField f.1 f.2 := by
    rw [dsn, write, String.toList_ofList]
    rfl
  have hread := Dsn.readFields?_eq_some_iff.2 (Dsn.fields_writeFields h)
  simp only [Dsn.fields, Dsn.afterScheme?_eq_some_iff.2 htext, hread]

/-- The fields that have a value. -/
def present (fs : List (String × Option String)) : List (String × String) :=
  fs.filterMap fun f => f.2.map fun value => (f.1, value)

/-- The fields of a connection with their values, where the key file is the resolved path of the
private key. Authentication by password has no field of its own. -/
def announced (c : Connection) (keyFile : Option String) : List (String × Option String) :=
  [("account", some (Text.trimmed c.account)),
    ("host", c.hostname.bind Text.nonBlank),
    ("database", some (Text.trimmed c.database)),
    ("schema", some ((c.schema.bind Text.nonBlank).getD "PUBLIC")),
    ("warehouse", some (Text.trimmed c.warehouse)),
    ("role", c.role.bind Text.nonBlank),
    ("authenticator", keyFile.map fun _ => "SNOWFLAKE_JWT"),
    ("priv_key_file", keyFile),
    ("priv_key_file_pwd", keyFile.bind fun _ => c.privateKeyPassphrase.filter (· != "")),
    ("application", some "Snowbridge")]

/-- A field with a value is written, one without is left out. -/
theorem present_cons (key : String) (value : Option String)
    (fs : List (String × Option String)) :
    present ((key, value) :: fs) = field? key value ++ present fs := by
  cases value <;> rfl

/-- No other fields are written. -/
theorem exists_of_mem_present {fs : List (String × Option String)} {f : String × String}
    (h : f ∈ present fs) : f.1 ∈ fs.map Prod.fst := by
  obtain ⟨g, hg, hf⟩ := List.mem_filterMap.1 h
  obtain ⟨value, -, rfl⟩ := Option.map_eq_some_iff.1 hf
  exact List.mem_map_of_mem hg

/-- The names of the fields need no escape. -/
theorem isKey_of_mem_announced {c : Connection} {keyFile : Option String}
    {f : String × String} (h : f ∈ present (announced c keyFile)) : Dsn.IsKey f.1 := by
  have hall : ∀ key ∈ ["account", "host", "database", "schema", "warehouse", "role",
      "authenticator", "priv_key_file", "priv_key_file_pwd", "application"], Dsn.IsKey key := by
    decide
  exact hall f.1 (exists_of_mem_present h)

/-- `build` gives the announced fields that have a value. -/
theorem fields_of_build {keyFile : String → Option String} {c : Connection} {s : ConnectionString}
    (h : build keyFile c = .ok s) : ∃ path, path = c.privateKeyPath?.bind keyFile ∧
      path.isSome = c.usesKeyPair ∧ s.fields = present (announced c path) := by
  unfold build at h
  cases hvalid : c.validate with
  | error e => simp [hvalid] at h
  | ok _ =>
    -- the fields differ by whether a key is given, since only then a key file is sought
    cases hpath : c.privateKeyPath? with
    | none =>
      simp only [hvalid, hpath, Except.ok.injEq] at h
      refine ⟨none, rfl, by rw [Connection.usesKeyPair, hpath], ?_⟩
      rw [← h]
      simp only [announced, present_cons, targetFields, List.append_assoc]
      rfl
    | some given =>
      -- the connection is refused if the key file cannot be found
      cases hfile : keyFile given with
      | none => simp [hvalid, hpath, hfile] at h
      | some resolved =>
        simp only [hvalid, hpath, hfile, Except.ok.injEq] at h
        refine ⟨some resolved, hfile.symm, by rw [Connection.usesKeyPair, hpath]; rfl, ?_⟩
        rw [← h]
        simp only [announced, present_cons, targetFields, keyFields, List.append_assoc]
        rfl

/-- The connection string of a connection is read back as exactly its announced fields, in order,
whatever characters the values hold. -/
theorem fields_dsn_of_build {keyFile : String → Option String} {c : Connection}
    {s : ConnectionString} (h : build keyFile c = .ok s) :
    ∃ path, path = c.privateKeyPath?.bind keyFile ∧ path.isSome = c.usesKeyPair ∧
      Dsn.fields s.dsn = .ok (present (announced c path)) := by
  obtain ⟨path, hpath, hsome, hfields⟩ := fields_of_build h
  refine ⟨path, hpath, hsome, ?_⟩
  have hkeys : ∀ f ∈ s.fields, Dsn.IsKey f.1 := by
    intro f hf
    rw [hfields] at hf
    exact isKey_of_mem_announced hf
  rw [← hfields]
  exact fields_dsn hkeys

/-- A connection with delimiters in its values. -/
def oddConnection : Connection where
  hostname := some " h;ost=x "
  account := "acme\\"
  database := " D;B "
  schema := some "  "
  warehouse := "w=h"
  privateKeyPath := some " key;file "
  privateKeyPassphrase := some "pa;ss=wo\\rd; "

/-- The connection string of the odd connection, where keys are found in one folder. -/
def oddString : ConnectionString where
  fields := [("account", "acme\\"), ("host", "h;ost=x"), ("database", "D;B"), ("schema", "PUBLIC"),
    ("warehouse", "w=h"), ("authenticator", "SNOWFLAKE_JWT"), ("priv_key_file", "/keys/key;file"),
    ("priv_key_file_pwd", "pa;ss=wo\\rd; "), ("application", "Snowbridge")]
  username := none
  password := none
  authentication := .keyPair

/-- Values with semicolons, equals signs, backslashes and blanks. -/
theorem fields_dsn_oddConnection :
    build (fun path => some ("/keys/" ++ path)) oddConnection = .ok oddString ∧
      ∃ path, path = oddConnection.privateKeyPath?.bind (fun path => some ("/keys/" ++ path)) ∧
        path.isSome = oddConnection.usesKeyPair ∧
        Dsn.fields oddString.dsn = .ok (present (announced oddConnection path)) := by
  have hbuild : build (fun path => some ("/keys/" ++ path)) oddConnection = .ok oddString := by
    rfl
  exact ⟨hbuild, fields_dsn_of_build hbuild⟩

end ConnectionString

end Snowbridge
