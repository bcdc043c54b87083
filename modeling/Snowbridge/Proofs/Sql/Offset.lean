import Mathlib.Order.Bounds.Defs
import Snowbridge.Proofs.Sql.Search

/-!
# Offsets of words

A search tells where a word stands by an offset in bytes of UTF-8. The offset is the least one
between two characters at which the scan is outside every run and the bytes are those of the word up
to the case of ASCII letters (`findWord?_finds_first`). The search itself compares characters; this
is the same, because the bytes of the folded text are the folded bytes of the text
(`map_foldOctet_encoded`) and a text whose bytes begin with those of another begins with the other.
For the same reason the place behind the word lies between two characters, too.
-/

namespace Snowbridge.Sql

/-! ## Octets -/

/-- The bytes of characters in UTF-8. -/
def encoded (cs : List Char) : List UInt8 := cs.flatMap String.utf8EncodeChar

/-- The bytes of a text in UTF-8. -/
def octets (s : String) : List UInt8 := s.toUTF8.data.toList

/-- The lower-case form of the byte of an ASCII capital; every other byte stays. -/
def foldOctet (b : UInt8) : UInt8 := if 0x41 ≤ b ∧ b ≤ 0x5A then b + 0x20 else b

/-- The bytes of a text, as a list of those of its characters. -/
theorem octets_eq (s : String) : octets s = encoded s.toList := by
  rw [octets, String.toUTF8_eq_toByteArray, ← String.utf8Encode_toList, List.utf8Encode,
    List.toList_data_toByteArray, encoded]

theorem encoded_cons (c : Char) (cs : List Char) :
    encoded (c :: cs) = String.utf8EncodeChar c ++ encoded cs := rfl

theorem encoded_append (xs ys : List Char) : encoded (xs ++ ys) = encoded xs ++ encoded ys := by
  simp [encoded]

/-- `byteLength` counts the bytes of UTF-8. -/
theorem length_encoded (cs : List Char) : (encoded cs).length = byteLength cs := by
  induction cs with
  | nil => rfl
  | cons c cs ih =>
    rw [encoded_cons, List.length_append, String.length_utf8EncodeChar, ih]
    rfl

theorem byteLength_append (xs ys : List Char) :
    byteLength (xs ++ ys) = byteLength xs + byteLength ys := by
  simp only [← length_encoded, encoded_append, List.length_append]

theorem utf8ByteSize_eq (s : String) : s.utf8ByteSize = byteLength s.toList := by
  rw [← length_encoded, ← octets_eq]
  rfl

/-- The bytes of a character that is not ASCII are not ASCII. -/
theorem le_of_mem_utf8EncodeChar {c : Char} (hc : 0x80 ≤ c.toNat) {b : UInt8}
    (hb : b ∈ String.utf8EncodeChar c) : 0x80 ≤ b.toNat := by
  have hval : ¬ c.val.toNat ≤ 0x7F := Nat.not_le.2 hc
  have hbyte : ∀ n, 0x80 ≤ n → n < 0x100 → 0x80 ≤ (UInt8.ofNat n).toNat := by
    intro n hlow hhigh
    rw [UInt8.toNat_ofNat']
    omega
  simp only [String.utf8EncodeChar, if_neg hval] at hb
  split at hb
  · simp only [List.mem_cons, List.not_mem_nil, or_false] at hb
    rcases hb with rfl | rfl <;> exact hbyte _ (by omega) (by omega)
  · split at hb
    · simp only [List.mem_cons, List.not_mem_nil, or_false] at hb
      rcases hb with rfl | rfl | rfl <;> exact hbyte _ (by omega) (by omega)
    · simp only [List.mem_cons, List.not_mem_nil, or_false] at hb
      rcases hb with rfl | rfl | rfl | rfl <;> exact hbyte _ (by omega) (by omega)

/-- A letter has one byte, which is folded as the letter is; all other bytes stay as they are. -/
theorem map_foldOctet_utf8EncodeChar (c : Char) :
    (String.utf8EncodeChar c).map foldOctet = String.utf8EncodeChar (Text.foldAscii c) := by
  by_cases hc : c.toNat < 0x80
  · -- all 128 characters of ASCII are tried
    have hascii : ∀ n < 0x80, (String.utf8EncodeChar (Char.ofNat n)).map foldOctet =
        String.utf8EncodeChar (Text.foldAscii (Char.ofNat n)) := by decide +kernel
    have hn := hascii c.toNat hc
    rwa [Char.ofNat_toNat] at hn
  · have hlong : 0x80 ≤ c.toNat := Nat.le_of_not_lt hc
    have hfold : Text.foldAscii c = c := by
      rw [Text.foldAscii, if_neg]
      intro h
      have hhigh : c.toNat ≤ 0x5A := of_decide_eq_true (Bool.and_eq_true_iff.1 h).2
      omega
    have hsame : ∀ b ∈ String.utf8EncodeChar c, foldOctet b = id b := by
      intro b hb
      have hhigh := le_of_mem_utf8EncodeChar hlong hb
      rw [foldOctet, if_neg, id]
      rintro ⟨-, hle⟩
      have hle' : b.toNat ≤ 0x5A := hle
      omega
    rw [hfold, List.map_congr_left hsame, List.map_id]

/-- Folding the bytes of a text is folding its letters. -/
theorem map_foldOctet_encoded (cs : List Char) :
    (encoded cs).map foldOctet = encoded (cs.map Text.foldAscii) := by
  induction cs with
  | nil => rfl
  | cons c cs ih =>
    rw [encoded_cons, List.map_append, map_foldOctet_utf8EncodeChar, ih, List.map_cons,
      encoded_cons]

/-- Case does not change how many bytes a text has. -/
theorem byteLength_of_folded {xs ys : List Char}
    (h : xs.map Text.foldAscii = ys.map Text.foldAscii) : byteLength xs = byteLength ys := by
  -- both texts have the same folded bytes
  rw [← length_encoded, ← length_encoded, ← List.length_map foldOctet, map_foldOctet_encoded, h,
    ← map_foldOctet_encoded, List.length_map]

/-- A text whose bytes begin with those of another begins with the other. -/
theorem prefix_of_encoded_prefix {xs ys : List Char} (h : encoded xs <+: encoded ys) :
    xs <+: ys := by
  obtain ⟨bs, hbs⟩ := h
  apply List.isPrefix_of_utf8Encode_append_eq_utf8Encode bs.toByteArray
  simp only [List.utf8Encode]
  rw [← List.toByteArray_append]
  exact congrArg List.toByteArray hbs

/-- A text begins with a word, up to the case of ASCII letters. -/
def BeginsWith (word cs : List Char) : Prop :=
  ∃ w rest, cs = w ++ rest ∧ w.map Text.foldAscii = word.map Text.foldAscii

/-- As many bytes of a text as a word has are those of the word, up to case, if the text begins with
the word. -/
theorem folded_window_iff {word cs : List Char} :
    ((encoded cs).take (byteLength word)).map foldOctet = (encoded word).map foldOctet ↔
      BeginsWith word cs := by
  constructor
  · intro h
    -- both sides are the bytes of folded texts, and bytes determine their text
    have hprefix : encoded (word.map Text.foldAscii) <+: encoded (cs.map Text.foldAscii) := by
      rw [← map_foldOctet_encoded, ← map_foldOctet_encoded, ← h]
      exact (List.take_prefix _ _).map foldOctet
    obtain ⟨tail, htail⟩ := prefix_of_encoded_prefix hprefix
    obtain ⟨w, rest, hcs, hw, -⟩ := List.map_eq_append_iff.1 htail.symm
    exact ⟨w, rest, hcs, hw⟩
  · rintro ⟨w, rest, rfl, hw⟩
    have hfolded : (encoded w).map foldOctet = (encoded word).map foldOctet := by
      rw [map_foldOctet_encoded, map_foldOctet_encoded, hw]
    rw [encoded_append, ← byteLength_of_folded hw, ← length_encoded w, List.take_left, hfolded]

/-! ## Boundaries -/

/-- The offset lies between two characters of a text or at one of its ends. -/
def IsCharBoundary (text : String) (i : Nat) : Prop := (String.Pos.Raw.mk i).IsValid text

/-- The length of a start of a text is a boundary of it. -/
theorem isCharBoundary_of_append {text : String} {before rest : List Char}
    (h : text.toList = before ++ rest) : IsCharBoundary text (byteLength before) := by
  have htext : text = String.ofList before ++ String.ofList rest := by
    rw [← String.toList_inj, h, String.toList_append, String.toList_ofList, String.toList_ofList]
  refine String.Pos.Raw.isValid_iff_exists_append.2 ⟨_, _, htext, ?_⟩
  rw [String.Pos.Raw.ext_iff, String.byteIdx_rawEndPos, utf8ByteSize_eq, String.toList_ofList]

/-- A word stands at an offset of a text: the offset is a boundary, the character behind it stands
outside every run, counted from the start of the text, and the bytes from there are those of the
word up to the case of ASCII letters. -/
structure StandsAt (text word : String) (i : Nat) : Prop where
  boundary : IsCharBoundary text i
  outside : ∃ before c after, text.toList = before ++ c :: after ∧ byteLength before = i ∧
    (OpenQuote.after none before).outside c = true
  folded : (((octets text).drop i).take word.utf8ByteSize).map foldOctet =
    (octets word).map foldOctet

/-! ## Occurrences -/

section Occurrences

variable {word cs before rest : List Char} {q : OpenQuote}

/-- A word occurs behind a part of a text: the next character stands outside every run, and the word
begins with it. -/
def Occurs (word : List Char) (q : OpenQuote) (cs before : List Char) : Prop :=
  ∃ c after, cs = before ++ c :: after ∧ (q.after before).outside c = true ∧
    BeginsWith word (c :: after)

/-- A word occurs at the head of a text or behind it. -/
theorem occurs_cons_iff {c : Char} : Occurs word q (c :: cs) before ↔
    (before = [] ∧ q.outside c = true ∧ BeginsWith word (c :: cs)) ∨
      ∃ later, before = c :: later ∧ Occurs word (q.step c) cs later := by
  constructor
  · rintro ⟨d, after, hcs, hout, hword⟩
    cases before with
    | nil =>
      obtain ⟨rfl, rfl⟩ := List.cons.inj hcs
      exact .inl ⟨rfl, hout, hword⟩
    | cons e later =>
      obtain ⟨rfl, rfl⟩ := List.cons.inj hcs
      exact .inr ⟨later, rfl, d, after, rfl, hout, hword⟩
  · rintro (⟨rfl, hout, hword⟩ | ⟨later, rfl, d, after, rfl, hout, hword⟩)
    · exact ⟨c, cs, rfl, hout, hword⟩
    · exact ⟨d, after, rfl, hout, hword⟩

/-- The test of the search at one place. -/
theorem exists_dropFolded?_iff {c : Char} :
    (∃ r, (if q.outside c then Text.dropFolded? word (c :: cs) else none) = some r) ↔
      q.outside c = true ∧ BeginsWith word (c :: cs) := by
  constructor
  · rintro ⟨r, hr⟩
    split at hr
    · next hout =>
      obtain ⟨w, hcs, hw⟩ := Text.exists_word_of_dropFolded? hr
      exact ⟨hout, w, r, hcs, hw⟩
    · cases hr
  · rintro ⟨hout, w, r, hcs, hw⟩
    exact ⟨r, by rw [if_pos hout, hcs, Text.dropFolded?_of_folded hw]⟩

/-- A search without result means that the word occurs nowhere. -/
theorem not_occurs_of_splitAtWord? (h : splitAtWord? word q cs = none) (before : List Char) :
    ¬ Occurs word q cs before := by
  induction cs generalizing q before with
  | nil =>
    rintro ⟨c, after, hcs, -⟩
    simp at hcs
  | cons c cs ih =>
    rw [splitAtWord?] at h
    split at h
    · cases h
    · next hhere =>
      rw [occurs_cons_iff]
      -- at the head the test of the search would have found it, and behind it the search of the
      -- rest
      rintro (⟨-, hword⟩ | ⟨later, -, hlater⟩)
      · obtain ⟨r, hr⟩ := exists_dropFolded?_iff.2 hword
        rw [hhere] at hr
        cases hr
      · exact ih (Option.map_eq_none_iff.1 h) later hlater

/-- A search finds the first occurrence. -/
theorem occurs_of_splitAtWord? (h : splitAtWord? word q cs = some (before, rest)) :
    Occurs word q cs before ∧
      ∀ other, Occurs word q cs other → before.length ≤ other.length := by
  induction cs generalizing q before with
  | nil => simp [splitAtWord?] at h
  | cons c cs ih =>
    rw [splitAtWord?] at h
    split at h
    · next r hr =>
      cases h
      refine ⟨occurs_cons_iff.2 (.inl ⟨rfl, exists_dropFolded?_iff.1 ⟨_, hr⟩⟩), ?_⟩
      exact fun other _ => Nat.zero_le other.length
    -- the word does not occur here, so every occurrence lies further on
    · next hhere =>
      obtain ⟨⟨later, r⟩, hlater, heq⟩ := Option.map_eq_some_iff.1 h
      cases heq
      obtain ⟨hoccurs, hfirst⟩ := ih hlater
      refine ⟨occurs_cons_iff.2 (.inr ⟨later, rfl, hoccurs⟩), fun other hother => ?_⟩
      rcases occurs_cons_iff.1 hother with ⟨-, hword⟩ | ⟨next, rfl, hnext⟩
      · obtain ⟨r', hr'⟩ := exists_dropFolded?_iff.2 hword
        rw [hhere] at hr'
        cases hr'
      · exact Nat.succ_le_succ (hfirst next hnext)

end Occurrences

/-! ## Words at offsets -/

/-- An offset at which a word stands is the length of a part behind which it occurs. -/
theorem standsAt_iff {text word : String} {i : Nat} : StandsAt text word i ↔
    ∃ before, byteLength before = i ∧ Occurs word.toList none text.toList before := by
  -- bytes cut off at the length of a part are those of the rest
  have hwindow : ∀ before rest, text.toList = before ++ rest →
      ((((octets text).drop (byteLength before)).take word.utf8ByteSize).map foldOctet =
        (octets word).map foldOctet ↔ BeginsWith word.toList rest) := by
    intro before rest htext
    rw [octets_eq, octets_eq, utf8ByteSize_eq, htext, encoded_append, ← length_encoded before,
      List.drop_left, folded_window_iff]
  constructor
  · rintro ⟨-, ⟨before, c, after, htext, rfl, hout⟩, hfolded⟩
    exact ⟨before, rfl, c, after, htext, hout, (hwindow _ _ htext).1 hfolded⟩
  · rintro ⟨before, rfl, c, after, htext, hout, hword⟩
    exact ⟨isCharBoundary_of_append htext, ⟨before, c, after, htext, rfl, hout⟩,
      (hwindow _ _ htext).2 hword⟩

/-- The end of a word that stands in a text is a boundary. -/
theorem StandsAt.boundary_end {text word : String} {i : Nat} (h : StandsAt text word i) :
    IsCharBoundary text (i + word.utf8ByteSize) := by
  obtain ⟨before, rfl, c, after, htext, -, w, rest, hword, hw⟩ := standsAt_iff.1 h
  -- the text is cut behind the word, which has as many bytes in any case of its letters
  rw [hword, ← List.append_assoc] at htext
  rw [utf8ByteSize_eq, ← byteLength_of_folded hw, ← byteLength_append]
  exact isCharBoundary_of_append htext

/-- Of two starts of a text the one with fewer characters has no more bytes. -/
theorem byteLength_le_of_prefix {text before other : List Char} (hbefore : before <+: text)
    (hother : other <+: text) (h : before.length ≤ other.length) :
    byteLength before ≤ byteLength other := by
  obtain ⟨zs, rfl⟩ := List.prefix_of_prefix_length_le hbefore hother h
  rw [byteLength_append]
  exact Nat.le_add_right _ _

/-- What a search finds is the least offset at which the word stands. -/
theorem isLeast_of_findWord? {text word : String} (hword : word ≠ "") {i : Nat}
    (h : findWord? text word = some i) : IsLeast {j | StandsAt text word j} i := by
  rw [findWord?, if_neg (by simpa using hword)] at h
  obtain ⟨⟨before, rest⟩, hsplit, rfl⟩ := Option.map_eq_some_iff.1 h
  obtain ⟨hoccurs, hfirst⟩ := occurs_of_splitAtWord? hsplit
  refine ⟨standsAt_iff.2 ⟨before, rfl, hoccurs⟩, ?_⟩
  -- an occurrence with no fewer characters before it has no smaller offset
  intro j hj
  obtain ⟨other, rfl, hother⟩ := standsAt_iff.1 hj
  obtain ⟨c, after, htext, -⟩ := hoccurs
  obtain ⟨c', after', htext', -⟩ := id hother
  exact byteLength_le_of_prefix ⟨_, htext.symm⟩ ⟨_, htext'.symm⟩ (hfirst other hother)

/-- A search that finds nothing means that the word stands nowhere. -/
theorem not_standsAt_of_findWord? {text word : String} (hword : word ≠ "")
    (h : findWord? text word = none) (i : Nat) : ¬ StandsAt text word i := by
  rw [findWord?, if_neg (by simpa using hword), Option.map_eq_none_iff] at h
  rw [standsAt_iff]
  rintro ⟨before, -, hoccurs⟩
  exact not_occurs_of_splitAtWord? h before hoccurs

/-- A search for a word finds the least offset at which it stands, and nothing if it stands nowhere.
The text may be cut at both ends of what was found. -/
theorem findWord?_finds_first {text word : String} (hword : word ≠ "") :
    (∀ i, findWord? text word = some i ↔ IsLeast {j | StandsAt text word j} i) ∧
      (findWord? text word = none ↔ ∀ i, ¬ StandsAt text word i) ∧
      ∀ i, findWord? text word = some i →
        IsCharBoundary text i ∧ IsCharBoundary text (i + word.utf8ByteSize) := by
  refine ⟨fun i => ⟨isLeast_of_findWord? hword, fun hi => ?_⟩,
    ⟨not_standsAt_of_findWord? hword, fun hnone => ?_⟩, fun i h => ?_⟩
  · cases h : findWord? text word with
    | none => exact absurd hi.1 (not_standsAt_of_findWord? hword h i)
    | some k =>
      have hk := isLeast_of_findWord? hword h
      exact congrArg some (Nat.le_antisymm (hk.2 hi.1) (hi.2 hk.1))
  · cases h : findWord? text word with
    | none => rfl
    | some k => exact absurd (isLeast_of_findWord? hword h).1 (hnone k)
  · have hi := (isLeast_of_findWord? hword h).1
    exact ⟨hi.boundary, hi.boundary_end⟩

/-- The connective behind letters of two and three bytes, and behind itself within quotes. -/
theorem findWord?_finds_first_accented : "oder" ≠ "" ∧
    IsLeast {j | StandsAt "é € 'oder' ODER" "oder" j} 14 ∧
    IsCharBoundary "é € 'oder' ODER" 14 ∧ IsCharBoundary "é € 'oder' ODER" 18 := by
  have hfound : findWord? "é € 'oder' ODER" "oder" = some 14 := by decide +kernel
  obtain ⟨hleast, -, hboundaries⟩ :=
    @findWord?_finds_first "é € 'oder' ODER" "oder" (by decide)
  exact ⟨by decide, (hleast 14).1 hfound, hboundaries 14 hfound⟩

end Snowbridge.Sql
