import Mathlib.Logic.Basic
import Snowbridge.Connection.Dsn

/-!
# The form of connection strings

After its prefix a connection string has any number of fields, each a key and a value in writing.
The reader adds what a part says to the part that is being read (`readFields?_part`) and then meets
one of the few texts that no part goes over (`exists_part`). Of these only the equals sign after a
key and the semicolon after a value let it go on, so it accepts the texts that are made of fields and
no others (`readFields?_eq_some_iff`).
-/

namespace Snowbridge.Dsn

/-! ## Parts in writing -/

/-- The characters that stand for themselves in a key only behind a backslash. -/
def keyMarks : List Char := ['\\', '=', ';']

/-- Likewise in a value, which may hold a plain equals sign. -/
def valueMarks : List Char := ['\\', ';']

/-- `Part marks cs ds`: the text `cs` is written for the characters `ds`, with a backslash before
every mark. -/
inductive Part (marks : List Char) : List Char → List Char → Prop where
  | nil : Part marks [] []
  | plain {c : Char} {cs ds : List Char} (hc : c ∉ marks) (h : Part marks cs ds) :
      Part marks (c :: cs) (c :: ds)
  | escaped (c : Char) {cs ds : List Char} (h : Part marks cs ds) :
      Part marks ('\\' :: c :: cs) (c :: ds)

/-- `Fields cs fs`: the text `cs` is written for the fields `fs`. -/
inductive Fields : List Char → List (String × String) → Prop where
  | nil : Fields [] []
  | cons {k key v value rest : List Char} {fs : List (String × String)}
      (hkey : Part keyMarks k key) (hne : k ≠ []) (hvalue : Part valueMarks v value)
      (hrest : Fields rest fs) : Fields (k ++ '=' :: (v ++ ';' :: rest))
        ((String.ofList key, String.ofList value) :: fs)

/-- The texts at which a part ends: the end of the text, a final backslash, or a mark other than the
backslash. -/
inductive Stops (marks : List Char) : List Char → Prop where
  | nil : Stops marks []
  | slash : Stops marks ['\\']
  | mark {c : Char} (hc : c ∈ marks) (hne : c ≠ '\\') (cs : List Char) : Stops marks (c :: cs)

section Part

variable {marks cs ds : List Char}

theorem Part.eq_nil_iff (h : Part marks cs ds) : cs = [] ↔ ds = [] := by
  cases h <;> simp

/-- Every text splits into a longest part and a text at which it stops. -/
theorem exists_part (hslash : '\\' ∈ marks) : ∀ cs : List Char,
    ∃ written said rest, cs = written ++ rest ∧ Part marks written said ∧ Stops marks rest
  | [] => ⟨[], [], [], rfl, .nil, .nil⟩
  | c :: cs => by
    -- only a mark can stop the part, and a backslash only at the end of the text
    by_cases hc : c ∈ marks
    · by_cases hbackslash : c = '\\'
      · subst hbackslash
        cases cs with
        | nil => exact ⟨[], [], ['\\'], rfl, .nil, .slash⟩
        | cons d cs =>
          obtain ⟨written, said, rest, rfl, hpart, hstops⟩ := exists_part hslash cs
          exact ⟨'\\' :: d :: written, d :: said, rest, rfl, .escaped d hpart, hstops⟩
      · exact ⟨[], [], c :: cs, rfl, .nil, .mark hc hbackslash cs⟩
    · obtain ⟨written, said, rest, rfl, hpart, hstops⟩ := exists_part hslash cs
      exact ⟨c :: written, c :: said, rest, rfl, .plain hc hpart, hstops⟩

end Part

/-! ## The reader -/

namespace Pending

variable {p : Pending} {cs : List Char} {c : Char}

/-- The marks of the part that is being read. -/
def marks (p : Pending) : List Char :=
  match p.value with
  | none => keyMarks
  | some _ => valueMarks

/-- Adds plain characters to the part that is being read. -/
def pushAll (p : Pending) (cs : List Char) : Pending := cs.foldl push p

theorem marks_push (p : Pending) (c : Char) : (p.push c).marks = p.marks := by
  rcases p with ⟨key, _ | value⟩ <;> rfl

/-- Characters that join a key are kept in reverse. -/
theorem pushAll_key (key cs : List Char) :
    pushAll ⟨key, none⟩ cs = ⟨cs.reverse ++ key, none⟩ := by
  induction cs generalizing key with
  | nil => rfl
  | cons c cs ih =>
    have hpush : pushAll ⟨key, none⟩ (c :: cs) = pushAll ⟨c :: key, none⟩ cs := rfl
    rw [hpush, ih, List.reverse_cons, List.append_assoc, List.singleton_append]

/-- Characters that join a value are kept in reverse. -/
theorem pushAll_value (key value cs : List Char) :
    pushAll ⟨key, some value⟩ cs = ⟨key, some (cs.reverse ++ value)⟩ := by
  induction cs generalizing value with
  | nil => rfl
  | cons c cs ih =>
    have hpush : pushAll ⟨key, some value⟩ (c :: cs) = pushAll ⟨key, some (c :: value)⟩ cs := rfl
    rw [hpush, ih, List.reverse_cons, List.append_assoc, List.singleton_append]

end Pending

section Reader

variable {p : Pending} {cs ds : List Char} {c : Char}

/-- An escaped character joins the current part. -/
theorem readFields?_escaped (p : Pending) (c : Char) (cs : List Char) :
    readFields? p ('\\' :: c :: cs) = readFields? (p.push c) cs := by
  rw [readFields?]

/-- A character that is no mark joins the current part. -/
theorem readFields?_plain (hc : c ∉ p.marks) (cs : List Char) :
    readFields? p (c :: cs) = readFields? (p.push c) cs := by
  have hslash : c ≠ '\\' ∧ c ≠ ';' ∧ (c == '=' && p.value.isNone) = false := by
    rcases p with ⟨key, _ | value⟩ <;>
      simpa [Pending.marks, keyMarks, valueMarks, and_comm] using hc
  obtain ⟨hslash, hsemicolon, hequals⟩ := hslash
  rw [readFields?]
  · simp [hsemicolon, hequals]
  · exact fun h _ => hslash h
  · exact fun _ _ h _ => hslash h

/-- Reading a part adds the characters it is written for. -/
theorem readFields?_part (h : Part p.marks cs ds) (rest : List Char) :
    readFields? p (cs ++ rest) = readFields? (p.pushAll ds) rest := by
  generalize hmarks : p.marks = marks at h
  induction h generalizing p with
  | nil => rfl
  | @plain c cs ds hc _ ih =>
    rw [List.cons_append, readFields?_plain (hmarks ▸ hc), ih ((p.marks_push c).trans hmarks)]
    rfl
  | @escaped c cs ds _ ih =>
    rw [List.cons_append, List.cons_append, readFields?_escaped,
      ih ((p.marks_push c).trans hmarks)]
    rfl

/-- Reading a key from the start of a field. -/
theorem readFields?_key (h : Part keyMarks cs ds) (rest : List Char) :
    readFields? {} (cs ++ rest) = readFields? ⟨ds.reverse, none⟩ rest := by
  have hread := readFields?_part (p := ⟨[], none⟩) h rest
  rwa [Pending.pushAll_key, List.append_nil] at hread

/-- Reading a value from behind the equals sign. -/
theorem readFields?_value (h : Part valueMarks cs ds) (key rest : List Char) :
    readFields? ⟨key, some []⟩ (cs ++ rest) = readFields? ⟨key, some ds.reverse⟩ rest := by
  have hread := readFields?_part (p := ⟨key, some []⟩) h rest
  rwa [Pending.pushAll_value, List.append_nil] at hread

/-- The equals sign ends the key. -/
theorem readFields?_equals (key cs : List Char) :
    readFields? ⟨key, none⟩ ('=' :: cs) = readFields? ⟨key, some []⟩ cs := rfl

/-- A semicolon inside a key is refused. -/
theorem readFields?_semicolon (key cs : List Char) :
    readFields? ⟨key, none⟩ (';' :: cs) = none := rfl

/-- A semicolon ends the value, and the field is refused if its key is empty. -/
theorem readFields?_close (key value cs : List Char) :
    readFields? ⟨key, some value⟩ (';' :: cs) = if key = [] then none else
      (readFields? {} cs).map fun fs =>
        (String.ofList key.reverse, String.ofList value.reverse) :: fs := by
  cases key <;> rfl

/-- Inversion at the start of a field: the text is empty, or a key and an equals sign follow. -/
theorem exists_key_of_readFields? {fs : List (String × String)}
    (h : readFields? {} cs = some fs) : (cs = [] ∧ fs = []) ∨
      ∃ k key rest, cs = k ++ '=' :: rest ∧ Part keyMarks k key ∧
        readFields? ⟨key.reverse, some []⟩ rest = some fs := by
  obtain ⟨k, key, rest, rfl, hkey, hstops⟩ := exists_part (by decide : '\\' ∈ keyMarks) cs
  rw [readFields?_key hkey] at h
  cases hstops with
  | nil =>
    -- at the end of the text no key may have begun
    rw [readFields?] at h
    split at h
    · next hempty =>
      have hnone : key = [] := by simpa using hempty
      cases h
      exact .inl ⟨by rw [hkey.eq_nil_iff.2 hnone, List.append_nil], rfl⟩
    · cases h
  | slash => cases h
  | @mark c hc hne rest =>
    -- a key stops at an equals sign or at a semicolon
    obtain rfl | rfl : c = '=' ∨ c = ';' := by simpa [keyMarks, hne] using hc
    · rw [readFields?_equals] at h
      exact .inr ⟨k, key, rest, rfl, hkey, h⟩
    · rw [readFields?_semicolon] at h
      cases h

/-- Inversion behind the equals sign: the key is nonempty, and a value and a semicolon follow. -/
theorem exists_value_of_readFields? {key : List Char} {fs : List (String × String)}
    (h : readFields? ⟨key, some []⟩ cs = some fs) : key ≠ [] ∧
      ∃ v value rest fs', cs = v ++ ';' :: rest ∧ Part valueMarks v value ∧
        readFields? {} rest = some fs' ∧
        fs = (String.ofList key.reverse, String.ofList value) :: fs' := by
  obtain ⟨v, value, rest, rfl, hvalue, hstops⟩ := exists_part (by decide : '\\' ∈ valueMarks) cs
  rw [readFields?_value hvalue] at h
  cases hstops with
  | nil => cases h
  | slash => cases h
  | @mark c hc hne rest =>
    -- a value stops at a semicolon only
    obtain rfl : c = ';' := by simpa [valueMarks, hne] using hc
    rw [readFields?_close] at h
    split at h
    · cases h
    · next hnonempty =>
      obtain ⟨fs', hrest, rfl⟩ := Option.map_eq_some_iff.1 h
      rw [List.reverse_reverse]
      exact ⟨hnonempty, v, value, rest, fs', rfl, hvalue, hrest, rfl⟩

/-- Soundness: what is read is in the grammar. -/
theorem fields_of_readFields? {fs : List (String × String)} (h : readFields? {} cs = some fs) :
    Fields cs fs := by
  -- induction on the length of the text: one field is read off its head
  induction hlength : cs.length using Nat.strongRecOn generalizing cs fs with
  | _ n ih =>
    rcases exists_key_of_readFields? h with ⟨rfl, rfl⟩ | ⟨k, key, rest, rfl, hkey, hafter⟩
    · exact .nil
    · obtain ⟨hnonempty, v, value, rest, fs, rfl, hvalue, hrest, rfl⟩ :=
        exists_value_of_readFields? hafter
      have hk : k ≠ [] := by
        rw [Ne, hkey.eq_nil_iff]
        rintro rfl
        exact hnonempty rfl
      have hshorter : rest.length < n := by
        rw [← hlength]
        simp
        omega
      rw [List.reverse_reverse]
      exact .cons hkey hk hvalue (ih rest.length hshorter hrest rfl)

/-- Completeness: what is in the grammar is read. -/
theorem Fields.readFields? {fs : List (String × String)} (h : Fields cs fs) :
    readFields? {} cs = some fs := by
  induction h with
  | nil => rfl
  | @cons k key v value rest fs hkey hne hvalue _ ih =>
    have hnonempty : key.reverse ≠ [] := by
      rwa [Ne, List.reverse_eq_nil_iff, ← hkey.eq_nil_iff]
    rw [readFields?_key hkey, readFields?_equals, readFields?_value hvalue, readFields?_close,
      if_neg hnonempty, ih, List.reverse_reverse, List.reverse_reverse]
    rfl

/-- The reader accepts exactly the grammar. -/
theorem readFields?_eq_some_iff {fs : List (String × String)} :
    readFields? {} cs = some fs ↔ Fields cs fs :=
  ⟨fields_of_readFields?, Fields.readFields?⟩

end Reader

/-! ## Connection strings -/

/-- The body of a connection string stands behind its scheme. -/
theorem afterScheme?_eq_some_iff {dsn : String} {body : List Char} :
    afterScheme? dsn = some body ↔ dsn.toList = scheme.toList ++ body := by
  have hlength : scheme.length = scheme.toList.length := rfl
  rw [afterScheme?, hlength]
  constructor
  · intro h
    split at h
    · next hprefix =>
      obtain ⟨rest, hrest⟩ := List.isPrefixOf_iff_prefix.1 hprefix
      rw [← hrest, List.drop_left, Option.some_inj] at h
      rw [← hrest, h]
    · cases h
  · intro h
    rw [h, if_pos (List.isPrefixOf_iff_prefix.2 (List.prefix_append _ _)), List.drop_left]

/-- A connection string is read exactly if it is the scheme followed by fields, and then as these.
Any other text is refused, and the fault shows at most its length. -/
theorem fields_follow_grammar (dsn : String) :
    (∀ fs, fields dsn = .ok fs ↔
      ∃ body, dsn.toList = "snowflake:".toList ++ body ∧ Fields body fs) ∧
    (∀ body, dsn.toList = "snowflake:".toList ++ body → (∀ fs, ¬ Fields body fs) →
      fields dsn =
        .error (.invalid ("Malformed DSN (" ++ toString dsn.utf8ByteSize ++ " bytes)"))) ∧
    ((∀ body, dsn.toList ≠ "snowflake:".toList ++ body) →
      fields dsn = .error (.invalid "DSN must start with 'snowflake:'")) := by
  refine ⟨fun fs => ?_, fun body hbody hnone => ?_, fun hnone => ?_⟩
  · constructor
    · intro h
      unfold fields at h
      split at h
      · cases h
      · next body hbody =>
        split at h
        · next fs' hread =>
          cases h
          exact ⟨body, afterScheme?_eq_some_iff.1 hbody, readFields?_eq_some_iff.1 hread⟩
        · cases h
    · rintro ⟨body, hbody, hfields⟩
      simp only [fields, afterScheme?_eq_some_iff.2 hbody, readFields?_eq_some_iff.2 hfields]
  · have hread : readFields? {} body = none := by
      cases hread : readFields? {} body with
      | none => rfl
      | some fs => exact absurd (readFields?_eq_some_iff.1 hread) (hnone fs)
    simp only [fields, afterScheme?_eq_some_iff.2 hbody, hread]
  · have hafter : afterScheme? dsn = none := by
      cases hafter : afterScheme? dsn with
      | none => rfl
      | some body => exact absurd (afterScheme?_eq_some_iff.1 hafter) (hnone body)
    simp only [fields, hafter]
    rfl

/-- Escapes in a key and a value, a plain equals sign in a value, a field without its end, and
another scheme. -/
theorem fields_follow_grammar_marks :
    (∃ body, "snowflake:a\\=b=c=d\\;;k=;".toList = "snowflake:".toList ++ body ∧
      Fields body [("a=b", "c=d;"), ("k", "")]) ∧
    (∀ fs, ¬ Fields "account=x".toList fs) ∧
    fields "snowflake:account=x" = .error (.invalid "Malformed DSN (19 bytes)") ∧
    (∀ body, "mysql:host=x;".toList ≠ "snowflake:".toList ++ body) ∧
    fields "mysql:host=x;" = .error (.invalid "DSN must start with 'snowflake:'") := by
  have hcut : ∀ fs, ¬ Fields "account=x".toList fs := by
    intro fs h
    have hread := (fields_follow_grammar "snowflake:account=x").1 fs |>.2 ⟨_, rfl, h⟩
    cases hread
  have hprefix : ∀ body, "mysql:host=x;".toList ≠ "snowflake:".toList ++ body := by
    intro body h
    cases h
  refine ⟨?_, hcut, ?_, hprefix, ?_⟩
  · exact ((fields_follow_grammar "snowflake:a\\=b=c=d\\;;k=;").1 _).1 rfl
  · exact (fields_follow_grammar "snowflake:account=x").2.1 _ rfl hcut
  · exact (fields_follow_grammar "mysql:host=x;").2.2 hprefix

end Snowbridge.Dsn
