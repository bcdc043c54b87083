import Snowbridge.Proofs.Catalog.Filling
import Snowbridge.Proofs.Sql.Parenthesis
import Snowbridge.Proofs.Sql.Search

/-!
# Signatures are read back

A signature is the list of its arguments between parentheses: a name, a blank and a type each, with
commas between them. The text of a type may hold blanks, quoted runs, parentheses and, within these,
commas. Still it is read as one type, and a routine gets one parameter for each argument.
-/

namespace Snowbridge.Catalog

open Sql (OpenQuote IsPiece)

/-! ## Arguments -/

/-- A name that may stand in a signature. -/
structure IsArgumentName (name : String) : Prop where
  nonempty : name ≠ ""
  plain : ∀ c ∈ name.toList, Text.isBlank c = false ∧ Sql.isQuote c = false ∧
    c ≠ '(' ∧ c ≠ ')' ∧ c ≠ ','

/-- A type that may stand in a signature: every run of it is closed, its parentheses match, and each
comma stands within a run or after an opening parenthesis that is not closed yet. -/
structure IsArgumentType (t : String) : Prop where
  nonempty : t ≠ ""
  trimmed : Text.trimmed t = t
  closed : OpenQuote.after none t.toList = none
  balanced : Sql.Balanced t.toList
  commas : ∀ before after, t.toList = before ++ ',' :: after →
    OpenQuote.after none before ≠ none ∨
      (Sql.parenthesisCounts before).2 < (Sql.parenthesisCounts before).1

/-- The text of an argument, which is a name and a type. -/
def writeArgument (a : String × String) : String := a.1 ++ " " ++ a.2

/-- The signature of arguments. -/
def writeSignature (as : List (String × String)) : String :=
  "(" ++ String.intercalate ", " (as.map writeArgument) ++ ")"

theorem toList_writeArgument (a : String × String) :
    (writeArgument a).toList = a.1.toList ++ ' ' :: a.2.toList := by
  simp [writeArgument]

theorem toList_writeSignature (as : List (String × String)) : (writeSignature as).toList =
    '(' :: ([',', ' '].intercalate (as.map fun a => (writeArgument a).toList) ++ [')']) := by
  simp [writeSignature, String.toList_intercalate, Function.comp_def]

section Arguments

variable {name t : String}

theorem IsArgumentName.head (h : IsArgumentName name) :
    ∃ c cs, name.toList = c :: cs ∧ Text.isBlank c = false := by
  obtain ⟨c, cs, hname⟩ := List.exists_cons_of_ne_nil (mt String.toList_eq_nil_iff.1 h.nonempty)
  exact ⟨c, cs, hname, (h.plain c (hname ▸ List.mem_cons_self)).1⟩

theorem IsArgumentType.trim_toList (h : IsArgumentType t) : Text.trim t.toList = t.toList := by
  have htrim := congrArg String.toList h.trimmed
  rwa [Text.trimmed, String.toList_ofList] at htrim

/-- A type does not end in a blank. -/
theorem IsArgumentType.last (h : IsArgumentType t) :
    ∃ cs c, t.toList = cs ++ [c] ∧ Text.isBlank c = false := by
  obtain ⟨cs, c, ht⟩ := (List.eq_nil_or_concat t.toList).resolve_left
    (mt String.toList_eq_nil_iff.1 h.nonempty)
  rw [List.concat_eq_append] at ht
  have hlast : (Text.trimRight (Text.trimLeft t.toList)).getLast? = some c := by
    rw [← Text.trim, h.trim_toList, ht, List.getLast?_concat]
  exact ⟨cs, c, ht, Text.isBlank_of_getLast?_trimRight hlast⟩

/-- A name and its blank hold no comma and open nothing, so they do not cut a list. -/
theorem IsArgumentName.isPiece (h : IsArgumentName name) :
    IsPiece ',' (name.toList ++ [' ']) := by
  have hplain : ∀ c ∈ name.toList ++ [' '],
      Sql.isQuote c = false ∧ c ≠ ',' ∧ c ≠ '(' ∧ c ≠ ')' := by
    intro c hc
    rcases List.mem_append.1 hc with hc | hc
    · obtain ⟨-, hquote, hopen, hclose, hcomma⟩ := h.plain c hc
      exact ⟨hquote, hcomma, hopen, hclose⟩
    · obtain rfl := List.mem_singleton.1 hc
      decide
  have hunquoted : Sql.Unquoted (name.toList ++ [' ']) := fun c hc => (hplain c hc).1
  refine .of_outsideChars rfl hunquoted.after fun c hc => ?_
  rw [hunquoted.outsideChars] at hc
  exact (hplain c hc).2

/-- In a text with matched parentheses, a comma outside quotes is not at the top level exactly if
more parentheses are open than closed before it. -/
theorem undivided_iff_of_balanced {cs : List Char} (h : Sql.Balanced cs) :
    Sql.Undivided ',' none 0 cs ↔ ∀ before after, cs = before ++ ',' :: after →
      OpenQuote.after none before ≠ none ∨
        (Sql.parenthesisCounts before).2 < (Sql.parenthesisCounts before).1 := by
  refine forall₂_congr fun before after => imp_congr_right fun hcs => or_congr_right ?_
  have hle := h.1 before (hcs ▸ List.prefix_append before _)
  have hopened : Sql.opened none before =
      (Sql.parenthesisCounts before).1 - (Sql.parenthesisCounts before).2 := rfl
  rw [hopened]
  omega

/-- A type has no comma at the top level and closes what it opens, so it does not cut a list. -/
theorem IsArgumentType.isPiece (h : IsArgumentType t) : IsPiece ',' t.toList where
  undivided := (undivided_iff_of_balanced h.balanced).2 h.commas
  closed := h.closed
  level := Int.sub_eq_zero.2 (congrArg Nat.cast h.balanced.2)

instance : Decidable (IsArgumentName name) :=
  decidable_of_iff (name ≠ "" ∧ ∀ c ∈ name.toList, Text.isBlank c = false ∧
      Sql.isQuote c = false ∧ c ≠ '(' ∧ c ≠ ')' ∧ c ≠ ',')
    ⟨fun ⟨hne, hplain⟩ => ⟨hne, hplain⟩, fun h => ⟨h.nonempty, h.plain⟩⟩

instance : Decidable (IsArgumentType t) :=
  decidable_of_iff (t ≠ "" ∧ Text.trimmed t = t ∧ OpenQuote.after none t.toList = none ∧
      Sql.Balanced t.toList ∧ Sql.Undivided ',' none 0 t.toList)
    ⟨fun ⟨hne, htrim, hclosed, hbalanced, hundivided⟩ =>
        ⟨hne, htrim, hclosed, hbalanced, (undivided_iff_of_balanced hbalanced).1 hundivided⟩,
      fun h => ⟨h.nonempty, h.trimmed, h.closed, h.balanced, h.isPiece.undivided⟩⟩

variable (hname : IsArgumentName name) (ht : IsArgumentType t)

include hname ht

/-- A written argument is one piece of the list. -/
theorem isPiece_writeArgument : IsPiece ',' (writeArgument (name, t)).toList := by
  rw [toList_writeArgument, List.append_cons]
  exact hname.isPiece.append ht.isPiece

theorem trim_writeArgument :
    Text.trim (writeArgument (name, t)).toList = (writeArgument (name, t)).toList := by
  obtain ⟨c, cs, hc, hblank⟩ := hname.head
  obtain ⟨front, d, hd, hblank'⟩ := ht.last
  have hstart : (writeArgument (name, t)).toList = c :: (cs ++ ' ' :: t.toList) := by
    rw [toList_writeArgument, hc, List.cons_append]
  have hend : (writeArgument (name, t)).toList = (name.toList ++ ' ' :: front) ++ [d] := by
    rw [toList_writeArgument, hd, List.append_assoc, List.cons_append]
  exact Text.trim_eq_self_of_ends hstart hend hblank hblank'

/-- The name of an argument ends at the first blank. -/
theorem ofPiece_writeArgument :
    SignatureArgument.ofPiece (writeArgument (name, t)).toList = ⟨some name, t⟩ := by
  have hword : ∀ c ∈ name.toList, (!Text.isBlank c) = true := by
    intro c hc
    rw [(hname.plain c hc).1]
    rfl
  have hstop : (!Text.isBlank ' ') = false := rfl
  have htaken : (writeArgument (name, t)).toList.takeWhile (fun c => !Text.isBlank c) =
      name.toList := by
    rw [toList_writeArgument, List.takeWhile_append_of_pos hword, List.takeWhile_cons, hstop]
    simp
  have hleft : (writeArgument (name, t)).toList.dropWhile (fun c => !Text.isBlank c) =
      ' ' :: t.toList := by
    rw [toList_writeArgument, List.dropWhile_append_of_pos hword, List.dropWhile_cons, hstop]
    rfl
  simp only [SignatureArgument.ofPiece, trim_writeArgument hname ht, htaken, hleft,
    ht.trim_toList, String.ofList_toList]

end Arguments

/-! ## Signatures -/

/-- Blanks around a piece are ignored. -/
theorem ofPiece_trim (piece : List Char) :
    SignatureArgument.ofPiece (Text.trim piece) = SignatureArgument.ofPiece piece := by
  simp only [SignatureArgument.ofPiece, Text.trim_trim]

theorem insideParentheses?_enclosed (cs : List Char) :
    insideParentheses? ('(' :: (cs ++ [')'])) = some cs := by
  simp [insideParentheses?]

section Signatures

variable {as : List (String × String)} (hne : as ≠ [])
  (has : ∀ a ∈ as, IsArgumentName a.1 ∧ IsArgumentType a.2)

include hne has

/-- `readSignature` is a left inverse of `writeSignature`. -/
theorem readSignature_writeSignature :
    readSignature (writeSignature as) = as.map fun a => ⟨some a.1, a.2⟩ := by
  have htrim : Text.trim (writeSignature as).toList = (writeSignature as).toList := by
    rw [toList_writeSignature, ← List.cons_append]
    exact Text.trim_eq_self_of_ends List.cons_append rfl (by decide) (by decide)
  have hitems : ∀ x ∈ as.map fun a => (writeArgument a).toList,
      IsPiece ',' x ∧ Text.trim x = x := by
    refine List.forall_mem_map.2 fun a ha => ?_
    obtain ⟨hname, ht⟩ := has a ha
    exact ⟨isPiece_writeArgument hname ht, trim_writeArgument hname ht⟩
  -- the pieces between the commas are the written arguments, but for blanks
  have hpieces := Sql.map_trim_splitTopLevel (mt List.map_eq_nil_iff.1 hne) hitems
  calc readSignature (writeSignature as)
      = (Sql.splitTopLevel ',' ([',', ' '].intercalate
          (as.map fun a => (writeArgument a).toList))).map SignatureArgument.ofPiece := by
        rw [readSignature, htrim, toList_writeSignature, insideParentheses?_enclosed]
        rfl
    _ = ((Sql.splitTopLevel ',' ([',', ' '].intercalate
          (as.map fun a => (writeArgument a).toList))).map Text.trim).map
            SignatureArgument.ofPiece := by
        rw [List.map_map]
        exact List.map_congr_left fun piece _ => (ofPiece_trim piece).symm
    _ = as.map fun a => SignatureArgument.ofPiece (writeArgument a).toList := by
        rw [hpieces, List.map_map]
        rfl
    _ = as.map fun a => ⟨some a.1, a.2⟩ :=
        List.map_congr_left fun a ha => ofPiece_writeArgument (has a ha).1 (has a ha).2

end Signatures

/-! ## Parameters -/

/-- A parameter is what an argument at a position declares. -/
structure Declared (a : String × String) (position : Nat) (p : Parameter) : Prop where
  name : p.name = a.1
  typeText : p.typeText = a.2
  type : p.type = ColumnType.ofType a.2
  position : p.position = position
  input : p.direction = .input

/-- The sizes in a row do not change what an argument declares. -/
theorem declared_fillSize (a : String × String) (position : Nat) (r : Row) :
    Declared a position ((Parameter.ofType a.1 position a.2).fillSize r) := by
  unfold Parameter.fillSize
  split
  · exact ⟨rfl, rfl, rfl, rfl, rfl⟩
  · split <;> exact ⟨rfl, rfl, rfl, rfl, rfl⟩

/-- Arguments become parameters at consecutive positions. -/
theorem forall₂_declared (r : Row) (position : Nat) (as : List (String × String)) :
    List.Forall₂ (fun x p => Declared x.1 x.2 p) (as.zipIdx position)
      (parametersFrom r position (as.map fun a => ⟨some a.1, a.2⟩)) := by
  induction as generalizing position with
  | nil => exact .nil
  | cons a as ih => exact .cons (declared_fillSize a position r) (ih (position + 1))

/-- A routine is filled from the first of its rows. -/
theorem exists_run_fillParameters {routine : Routine} {rows : RowSet} {row : Row}
    {rest : List Row} {s s' : Session} (hread : (signatureRows routine).run s = (.ok rows, s'))
    (hrows : rows.toList = row :: rest) :
    ∃ s'', fillParameters.run (routine, s) = (.ok (), routine.withRow row, s'') := by
  rw [fillParameters, run_bind_ok (Filling.run_held routine s),
    run_bind_ok (Filling.run_onSession hread routine), hrows]
  cases hrest : rest.isEmpty with
  | true => exact ⟨s', by simp only [hrest]; rfl⟩
  | false => exact ⟨_, by simp only [hrest]; rfl⟩

/-- A signature that is written from arguments is read back as these. A routine whose first row
has that signature gets one input parameter for each argument, at positions from 1, and keeps
all else. -/
theorem signatures_read_back (as : List (String × String)) (hne : as ≠ [])
    (has : ∀ a ∈ as, IsArgumentName a.1 ∧ IsArgumentType a.2) :
    readSignature (writeSignature as) = as.map (fun a => ⟨some a.1, a.2⟩) ∧
    ∀ (routine : Routine) (rows : RowSet) (row : Row) (rest : List Row) (s s' : Session),
      (signatureRows routine).run s = (.ok rows, s') → rows.toList = row :: rest →
      row.text? "ARGUMENT_SIGNATURE" = some (writeSignature as) →
      ∃ parameters s'', fillParameters.run (routine, s) =
          (.ok (), { routine with parameters := parameters }, s'') ∧
        List.Forall₂ (fun x p => Declared x.1 x.2 p) (as.zipIdx 1) parameters := by
  have hread := readSignature_writeSignature hne has
  refine ⟨hread, fun routine rows row rest s s' hrun hrows hsignature => ?_⟩
  obtain ⟨s'', hfill⟩ := exists_run_fillParameters hrun hrows
  have harguments : readSignature ((row.text? "ARGUMENT_SIGNATURE").getD "") =
      as.map fun a => ⟨some a.1, a.2⟩ := by
    rw [hsignature]
    exact hread
  -- no argument is without a name, so the return type stays
  have hnamed : ((as.map fun a => (⟨some a.1, a.2⟩ : SignatureArgument)).any
      fun a => a.name.isNone) = false := by
    rw [List.any_map]
    exact List.any_eq_false.2 fun a _ => Bool.false_ne_true
  have hrow : routine.withRow row = { routine with
      parameters := parametersFrom row 1 (as.map fun a => ⟨some a.1, a.2⟩) } := by
    rw [Routine.withRow, harguments, hnamed]
    rfl
  exact ⟨_, s'', hrow ▸ hfill, forall₂_declared row 1 as⟩

/-- Arguments whose types hold blanks, quoted commas and parentheses within each other. -/
def priceArguments : List (String × String) :=
  [("ID", "NUMBER(38, 0)"), ("NOTE", "VARCHAR DEFAULT 'it''s, (no'"),
    ("RATES", "MAP(VARCHAR(2), OBJECT(\"a)\" NUMBER(5,2), b DATE))"), ("DAY", "DATE")]

/-- The row of a procedure with a signature. -/
def signatureRow (signature : String) : Row where
  columns := ["PROCEDURE_NAME", "ARGUMENT_SIGNATURE", "DATA_TYPE", "NUMERIC_PRECISION"]
  cells := [.text "REFRESH", .text signature, .text "NUMBER", .text "9"]

/-- Two signatures of one procedure. -/
def overloadedRows : RowSet where
  columns := (signatureRow "").columns
  rows := [(signatureRow (writeSignature priceArguments)).cells, (signatureRow "()").cells]

/-- Types with nested parentheses, quoted commas and inner blanks. -/
theorem signatures_read_back_price :
    writeSignature priceArguments = "(ID NUMBER(38, 0), NOTE VARCHAR DEFAULT 'it''s, (no', " ++
      "RATES MAP(VARCHAR(2), OBJECT(\"a)\" NUMBER(5,2), b DATE)), DAY DATE)" ∧
    (∀ a ∈ priceArguments, IsArgumentName a.1 ∧ IsArgumentType a.2) ∧
    readSignature (writeSignature priceArguments) =
      priceArguments.map (fun a => ⟨some a.1, a.2⟩) ∧
    ∃ parameters s', fillParameters.run (staleRefresh, describing overloadedRows) =
        (.ok (), { staleRefresh with parameters := parameters }, s') ∧
      List.Forall₂ (fun x p => Declared x.1 x.2 p) (priceArguments.zipIdx 1) parameters := by
  have has : ∀ a ∈ priceArguments, IsArgumentName a.1 ∧ IsArgumentType a.2 := by
    decide +kernel
  have hrun : (signatureRows staleRefresh).run (describing overloadedRows) =
      (.ok overloadedRows, ((signatureRows staleRefresh).run (describing overloadedRows)).2) := rfl
  obtain ⟨hread, hfill⟩ := signatures_read_back priceArguments (by decide) has
  refine ⟨by decide +kernel, has, hread, ?_⟩
  exact hfill staleRefresh overloadedRows (signatureRow (writeSignature priceArguments))
    [signatureRow "()"] _ _ hrun rfl (by decide +kernel)

end Snowbridge.Catalog
