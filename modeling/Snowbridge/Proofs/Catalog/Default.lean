import Snowbridge.Catalog.Default
import Snowbridge.Proofs.Sql.Quoted
import Snowbridge.Proofs.Text.Parts

/-!
# Text defaults

A default that is read as a text constant starts and ends with a single quote, and nothing else about
it is looked at (`read?_eq_text_iff`). The literal of a text is such a default, and it is read as that
text. A default between two quotes is itself such a literal only if the quotes in between stand in
pairs; otherwise it is another expression, and yet it is read as a constant
(`text_default_exact_iff`).
-/

namespace Snowbridge.Catalog

/-- `insideQuotes?` matches a text with a single quote at either end. -/
theorem insideQuotes?_eq_some_iff {cs inner : List Char} :
    insideQuotes? cs = some inner ↔ cs = '\'' :: (inner ++ ['\'']) := by
  constructor
  · intro h
    unfold insideQuotes? at h
    split at h
    · next r =>
      split at h
      · next hlast =>
        obtain ⟨front, rfl⟩ := List.getLast?_eq_some_iff.1 (beq_iff_eq.1 hlast)
        rw [List.dropLast_concat] at h
        rw [Option.some.inj h]
      · cases h
    · cases h
  · rintro rfl
    simp [insideQuotes?]

/-- A quoted text is neither empty nor NULL, which would be read as no default. -/
theorem isGiven_of_insideQuotes? {t : String} {inner : List Char}
    (h : insideQuotes? t.toList = some inner) :
    (t == "" || Text.sameName t "NULL") = false := by
  rw [insideQuotes?_eq_some_iff] at h
  rw [Bool.or_eq_false_iff]
  constructor
  · rw [beq_eq_false_iff_ne]
    rintro rfl
    cases h
  · rw [Text.sameName, h]
    rfl

/-- `constant?` never gives a text: unquoted constants are numbers and truth values. -/
theorem constant?_ne_text (type : ColumnType) (t s : String) :
    constant? type t ≠ some (.text s) := by
  unfold constant?
  split
  · split
    · simp
    · split <;> simp
  all_goals simp

/-- A quoted default is read as the text inside, with doubled quotes halved. -/
theorem read?_of_insideQuotes? {raw : String} {inner : List Char}
    (h : insideQuotes? (Text.trimmed raw).toList = some inner) (type : ColumnType) :
    Default.read? raw type =
      some (.literal (.text (String.ofList (Sql.undoubled '\'' inner)))) := by
  simp only [Default.read?, isGiven_of_insideQuotes? h, h]
  rfl

/-- Only a quoted default is read as a text. -/
theorem read?_ne_text {raw : String} (h : insideQuotes? (Text.trimmed raw).toList = none)
    (type : ColumnType) (s : String) : Default.read? raw type ≠ some (.literal (.text s)) := by
  simp only [Default.read?, h]
  split
  · simp
  · cases hconstant : constant? type (Text.trimmed raw) with
    | none => simp
    | some v =>
      rintro ⟨⟩
      exact constant?_ne_text type _ s hconstant

/-- A default is read as a text exactly if it has a single quote at either end, whatever the type of
its column. -/
theorem read?_eq_text_iff {raw s : String} {type : ColumnType} :
    Default.read? raw type = some (.literal (.text s)) ↔
      ∃ inner, Text.trim raw.toList = '\'' :: (inner ++ ['\'']) ∧
        s = String.ofList (Sql.undoubled '\'' inner) := by
  have htext : (Text.trimmed raw).toList = Text.trim raw.toList := String.toList_ofList
  simp only [← insideQuotes?_eq_some_iff, ← htext]
  cases hinside : insideQuotes? (Text.trimmed raw).toList with
  | none => exact iff_of_false (read?_ne_text hinside type s) (by simp)
  | some inner =>
    rw [read?_of_insideQuotes? hinside]
    simp [eq_comm]

/-! ## Literals -/

/-- A quoted default is the literal of a text exactly if the text with its quotes doubled stands
inside. -/
theorem trimmed_eq_quoteLiteral_iff {raw s : String} {inner : List Char}
    (h : Text.trim raw.toList = '\'' :: (inner ++ ['\''])) :
    Text.trimmed raw = Sql.quoteLiteral s ↔ Sql.doubled '\'' s.toList = inner := by
  rw [← String.toList_inj, Text.trimmed, String.toList_ofList, h, Sql.toList_quoteLiteral,
    Sql.quotedRun, List.cons_inj_right, List.append_left_inj, eq_comm]

/-- The literal of every text is read as that text. Conversely, a default that is read as a text is
its literal exactly if all quotes inside are paired. -/
theorem text_default_exact_iff (type : ColumnType) :
    (∀ s, Default.read? (Sql.quoteLiteral s) type = some (.literal (.text s))) ∧
    ∀ raw, (∀ s, Default.read? raw type = some (.literal (.text s)) →
        Text.trimmed raw = Sql.quoteLiteral s) ↔
      ∀ inner, Text.trim raw.toList = '\'' :: (inner ++ ['\'']) → Sql.Paired '\'' inner := by
  refine ⟨fun s => ?_, fun raw => ⟨fun h inner hinner => ?_, fun h s hread => ?_⟩⟩
  · rw [read?_eq_text_iff, Sql.toList_quoteLiteral, Sql.trim_quotedRun rfl]
    exact ⟨_, rfl, by rw [Sql.undoubled_doubled, String.ofList_toList]⟩
  · have hliteral := h _ (read?_eq_text_iff.2 ⟨inner, hinner, rfl⟩)
    rw [trimmed_eq_quoteLiteral_iff hinner, String.toList_ofList] at hliteral
    exact Sql.doubled_undoubled_iff.1 hliteral
  · obtain ⟨inner, hinner, rfl⟩ := read?_eq_text_iff.1 hread
    rw [trimmed_eq_quoteLiteral_iff hinner, String.toList_ofList]
    exact Sql.doubled_undoubled_iff.2 (h inner hinner)

/-- `'a' || 'b'` is an expression, but is read as the constant text `a' || 'b`. -/
theorem read?_joinedLiterals :
    Default.read? "'a' || 'b'" .string = some (.literal (.text "a' || 'b")) ∧
      Text.trimmed "'a' || 'b'" ≠ Sql.quoteLiteral "a' || 'b" := by
  refine ⟨read?_eq_text_iff.2 ⟨"a' || 'b".toList, ?_, ?_⟩, ?_⟩ <;> decide +kernel

end Snowbridge.Catalog
