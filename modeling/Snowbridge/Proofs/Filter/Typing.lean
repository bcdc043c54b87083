import Snowbridge.Proofs.Filter.Precedence
import Snowbridge.Proofs.Filter.Render
import Snowbridge.Proofs.Filter.Spelling
import Snowbridge.Sql.Expression

/-!
# Types of bound values

Every literal of a tree is bound, from left to right (`Renders.bindsAll`). It is bound as null if it
stands for null, as a text if its operator takes wildcards, and else as a value of the type of its
column (`Bound`), whether it is written in the filter or given as a parameter of any kind.
-/

namespace Snowbridge.Filter

open Catalog (Column ColumnType)

/-- The values of a column's type, apart from null. A number with places may be whole, and all types
that are neither of numbers nor of truth values have texts. -/
inductive HasType : ColumnType → Value → Prop where
  | id (n : Int64) : HasType .id (.int n)
  | integer (n : Int64) : HasType .integer (.int n)
  | wholeDecimal (n : Int64) : HasType .decimal (.int n)
  | decimal (x : Float) : HasType .decimal (.float x)
  | wholeDouble (n : Int64) : HasType .double (.int n)
  | double (x : Float) : HasType .double (.float x)
  | boolean (b : Bool) : HasType .boolean (.bool b)
  | text {type : ColumnType} (htype : type ∉ [.id, .integer, .decimal, .double, .boolean])
      (s : String) : HasType type (.text s)

/-- What is bound for a literal, by its operator and the type of its column. -/
inductive Bound (named : Named) (o : Operator) (type : ColumnType) (raw : String) :
    Value → Prop where
  | null (hread : readScalar named raw = .ok .null) : Bound named o type raw .null
  | pattern {v : Value} (hread : readScalar named raw = .ok v) (hvalue : v ≠ .null)
      (hpattern : o.isPattern = true) : Bound named o type raw (.text (o.pattern v.display))
  | typed {v w : Value} (hread : readScalar named raw = .ok v) (hvalue : v ≠ .null)
      (hpattern : o.isPattern = false) (hconvert : convert? type v = some w)
      (htype : HasType type w) : Bound named o type raw w

/-- The values of a tree as they are written, from left to right, each with its comparison. -/
def Tree.literals (t : Tree) : List (Comparison × String) :=
  t.sentence.atoms.flatMap fun c => c.operand.texts.map fun text => (c, String.ofList text)

/-- A literal of a comparison is bound by the type of the column that the comparison names. -/
def BindsLiteral (k : Context) (literal : Comparison × String) (v : Value) : Prop :=
  ∃ column, k.column? literal.1.field = some column ∧
    Bound k.named literal.1.operator column.type literal.2 v

/-! ## Values -/

section Value

variable {v w : Value}

/-- What is converted to a number is one, whole or not. -/
theorem toNumber?_eq_some (h : toNumber? v = some w) :
    (∃ n, w = .int n) ∨ ∃ x, w = .float x := by
  cases v with
  | null => cases h
  | bool b => cases h
  | int n =>
    cases h
    exact .inl ⟨n, rfl⟩
  | float x =>
    cases h
    exact .inr ⟨x, rfl⟩
  | text s =>
    obtain ⟨x, -, rfl⟩ := Option.map_eq_some_iff.1 h
    exact .inr ⟨x, rfl⟩

/-- What is converted to a truth value is one. -/
theorem toBoolean?_eq_some (h : toBoolean? v = some w) : ∃ b, w = .bool b := by
  cases v with
  | null => cases h
  | float x => cases h
  | bool b =>
    cases h
    exact ⟨b, rfl⟩
  | int n =>
    simp only [toBoolean?] at h
    split_ifs at h <;> cases h <;> exact ⟨_, rfl⟩
  | text s =>
    simp only [toBoolean?] at h
    split_ifs at h <;> cases h <;> exact ⟨_, rfl⟩

/-- What a value is converted to has the type that was asked for. -/
theorem hasType_of_convert? {type : ColumnType} (h : convert? type v = some w) :
    HasType type w := by
  cases type with
  | id =>
    obtain ⟨n, -, rfl⟩ := Option.map_eq_some_iff.1 h
    exact .id n
  | integer =>
    obtain ⟨n, -, rfl⟩ := Option.map_eq_some_iff.1 h
    exact .integer n
  | decimal =>
    obtain ⟨n, rfl⟩ | ⟨x, rfl⟩ := toNumber?_eq_some h
    · exact .wholeDecimal n
    · exact .decimal x
  | double =>
    obtain ⟨n, rfl⟩ | ⟨x, rfl⟩ := toNumber?_eq_some h
    · exact .wholeDouble n
    · exact .double x
  | boolean =>
    obtain ⟨b, rfl⟩ := toBoolean?_eq_some h
    exact .boolean b
  | _ =>
    -- all other types have the text of the value
    obtain rfl := Option.some.inj h
    exact .text (by decide) _

theorem isNull_of_ne_null (h : v ≠ .null) : v.isNull = false := by
  cases v with
  | null => exact absurd rfl h
  | _ => rfl

/-- A literal is bound if it stands for a value that its operator and its column take. -/
theorem bindValue_eq_ok_iff {named : Named} {c : Column} {o : Operator} {raw : String} :
    bindValue named c o raw = .ok w ↔ Bound named o c.type raw w := by
  constructor
  · intro h
    unfold bindValue at h
    cases hread : readScalar named raw with
    | error e => simp [hread, bind, Except.bind] at h
    | ok v =>
      simp only [hread, bind, Except.bind] at h
      -- null has no type, a pattern is a text, and any other value is converted
      by_cases hv : v = .null
      · have hw : w = .null := by
          subst hv
          cases hpattern : o.isPattern <;> simpa [hpattern, cast, Value.isNull, eq_comm] using h
        rw [hw]
        exact .null (hv ▸ hread)
      · have hnull := isNull_of_ne_null hv
        cases hpattern : o.isPattern with
        | true =>
          simp only [hpattern, hnull, if_true, Bool.false_eq_true, if_false, Except.ok.injEq] at h
          rw [← h]
          exact .pattern hread hv hpattern
        | false =>
          simp only [hpattern, cast, hnull, Bool.false_eq_true, if_false] at h
          cases hconvert : convert? c.type v with
          | none => simp [hconvert] at h
          | some w' =>
            simp only [hconvert, Except.ok.injEq] at h
            subst h
            exact .typed hread hv hpattern hconvert (hasType_of_convert? hconvert)
  · intro h
    unfold bindValue
    cases h with
    | null hread =>
      simp only [hread, bind, Except.bind, cast, Value.isNull]
      cases o.isPattern <;> rfl
    | pattern hread hvalue hpattern =>
      simp only [hread, bind, Except.bind, hpattern, isNull_of_ne_null hvalue]
      rfl
    | typed hread hvalue hpattern hconvert _ =>
      simp only [hread, bind, Except.bind, hpattern, cast, isNull_of_ne_null hvalue, hconvert]
      rfl

end Value

/-! ## Trees -/

theorem atoms_comparison (c : Comparison) : c.sentence.atoms = [c] := by
  unfold Comparison.sentence
  split <;> rfl

/-- The operands of a tree are such as their operators take. -/
theorem Reads.kind_eq {P : List Char → Comparison → Prop} {cs : List Char} {t : Tree}
    (h : Reads P cs t) : ∀ c ∈ t.sentence.atoms, c.operand.kind = c.operator.operandKind := by
  induction h with
  | not _ _ ih => exact ih
  | group _ _ _ _ _ ih => exact ih
  | and _ _ _ _ ihl ihr => exact List.forall_mem_append.2 ⟨ihl, ihr⟩
  | or _ _ _ _ _ ihl ihr => exact List.forall_mem_append.2 ⟨ihl, ihr⟩
  | compare _ _ _ _ hc _ =>
    intro c hmem
    rw [Tree.sentence, atoms_comparison, List.mem_singleton] at hmem
    subst hmem
    obtain ⟨found, name, hreads⟩ := exists_of_readComparison hc
    rw [hreads.operator]
    exact (keepsValue_of_readOperand hreads.operand).kind_eq

section Render

variable {k : Context} {sql : List Char} {params : List Value}

theorem literals_compare (c : Comparison) : (Tree.compare c).literals =
    c.operand.texts.map fun text => (c, String.ofList text) := by
  rw [Tree.literals, Tree.sentence, atoms_comparison, List.flatMap_singleton]

/-- The literals of a connective are those of both sides, in their order. -/
theorem literals_join (κ : Connective) (left right : Tree) :
    (Tree.join κ left right).literals = left.literals ++ right.literals := List.flatMap_append

/-- The values of one comparison are bound in order. -/
theorem RendersOperand.bindsAll {c : Comparison} {column : Column} {shown : Option (List Char)}
    (hcolumn : k.column? c.field = some column)
    (h : RendersOperand k column c.operator c.operand shown params) :
    List.Forall₂ (BindsLiteral k) (Tree.compare c).literals params := by
  have hbinds : ∀ {raw v}, bindValue k.named column c.operator raw = .ok v →
      BindsLiteral k (c, String.ofList raw.toList) v := by
    intro raw v hv
    rw [String.ofList_toList]
    exact ⟨column, hcolumn, bindValue_eq_ok_iff.1 hv⟩
  rw [literals_compare]
  cases hoperand : c.operand with
  | none =>
    rw [hoperand] at h
    cases h
    exact .nil
  | scalar raw =>
    rw [hoperand] at h
    cases h with
    | scalar hv => exact .cons (hbinds hv) .nil
  | list items =>
    rw [hoperand] at h
    cases h with
    | list hvs =>
      rw [Operand.texts, List.map_map, List.forall₂_map_left_iff]
      exact hvs.imp fun _ _ hv => hbinds hv

/-- The values of a predicate are those of its literals, from left to right. -/
theorem Renders.bindsAll {t : Tree} (h : Renders k t sql params) :
    List.Forall₂ (BindsLiteral k) t.literals params := by
  induction h with
  | compare hcolumn _ hoperand => exact hoperand.bindsAll hcolumn
  | group _ ih => exact ih
  | notGroup _ ih => exact ih
  | not _ _ ih => exact ih
  | join _ _ ihl ihr =>
    rw [literals_join]
    exact List.rel_append ihl ihr

end Render

/-- A translated filter binds one value for each literal of its tree, in their order: null, or a
text for an operator with wildcards, or a value of the type of the literal's column. -/
theorem translate_binds_types {k : Context} {filter : String} {p : Predicate}
    (h : translate k filter = .ok (some p)) :
    ∃ t, Tree.ofText filter = .ok (some t) ∧
      (∀ c ∈ t.sentence.atoms, c.operand.kind = c.operator.operandKind) ∧
      List.Forall₂ (BindsLiteral k) t.literals p.params := by
  obtain ⟨t, htext, hrenders⟩ := exists_of_translate h
  have hreads := reads_of_read (ofText_eq_some_iff.1 htext).2
  exact ⟨t, htext, hreads.kind_eq, hrenders.bindsAll⟩

/-- Columns of a text and of a truth value, and a parameter that is a number. -/
def memberContext : Context where
  columns := [Column.ofType "NAME" "VARCHAR(64)", Column.ofType "ACTIVE" "BOOLEAN"]
  named := [("id", .int 7)]
  parser := Sql.Expression.parse

/-- The tree of an operator with wildcards and a list. -/
def memberTree : Tree :=
  .join .and (.group (.compare ⟨0, 0, "name", false, .startsWith, .scalar ":id"⟩))
    (.group (.compare ⟨0, 0, "active", true, .isIn, .list ["0", "'TRUE'", "null"]⟩))

/-- The tree of the filter: a conjunction of two groups. -/
theorem ofText_memberTree :
    Tree.ofText "(name STARTS WITH :id) AND (active NOT IN (0, 'TRUE', null))" =
      .ok (some memberTree) := by
  have hplace : splitAtConnective? .and none (Text.trim
      "(name STARTS WITH :id) AND (active NOT IN (0, 'TRUE', null))".toList) =
        some ("(name STARTS WITH :id)".toList, "(active NOT IN (0, 'TRUE', null))".toList) := by
    decide
  have hleft : Reads (fun _ _ => True) "(name STARTS WITH :id)".toList
      (.group (.compare ⟨0, 0, "name", false, .startsWith, .scalar ":id"⟩)) := by
    have hinside : insideGroup? (Text.trim "(name STARTS WITH :id)".toList) =
        some "name STARTS WITH :id".toList := by decide
    refine .group (by decide) (by decide) (by decide) hinside ?_
    exact .compare (by decide) (by decide) (by decide) (by decide) rfl trivial
  have hright : Reads (fun _ _ => True) "(active NOT IN (0, 'TRUE', null))".toList
      (.group (.compare ⟨0, 0, "active", true, .isIn, .list ["0", "'TRUE'", "null"]⟩)) := by
    have hinside : insideGroup? (Text.trim "(active NOT IN (0, 'TRUE', null))".toList) =
        some "active NOT IN (0, 'TRUE', null)".toList := by decide
    refine .group (by decide) (by decide) (by decide) hinside ?_
    exact .compare (by decide) (by decide) (by decide) (by decide) rfl trivial
  have hreads : Reads (fun _ _ => True)
      "(name STARTS WITH :id) AND (active NOT IN (0, 'TRUE', null))".toList memberTree :=
    .and (by decide) hplace hleft hright
  exact ofText_eq_some_iff.2 ⟨by decide, hreads.read_eq⟩

/-- A number becomes a text with a wildcard, and truth values are spelled in three ways. -/
theorem renders_memberTree : Renders memberContext memberTree
    "(\"NAME\" LIKE ?) AND (\"ACTIVE\" NOT IN (?, ?, ?))".toList
    [.text "7%", .bool false, .bool true, .null] := by
  have hzero : toBoolean? (.text "0") = some (.bool false) := by
    have hword : Text.foldedAscii (Text.trimmed "0") = "0" := by decide +kernel
    rw [toBoolean?, hword]
    rfl
  have htrue : toBoolean? (.text "TRUE") = some (.bool true) := by
    have hword : Text.foldedAscii (Text.trimmed "TRUE") = "true" := by decide +kernel
    rw [toBoolean?, hword]
    rfl
  have hname : Renders memberContext (.compare ⟨0, 0, "name", false, .startsWith, .scalar ":id"⟩)
      "\"NAME\" LIKE ?".toList [.text "7%"] := renders_of_render rfl
  have hlist : RendersOperand memberContext (Column.ofType "ACTIVE" "BOOLEAN") .isIn
      (.list ["0", "'TRUE'", "null"]) (some "(?, ?, ?)".toList)
      [.bool false, .bool true, .null] := by
    refine .list (.cons (bindValue_eq_ok_iff.2 ?_) (.cons (bindValue_eq_ok_iff.2 ?_)
      (.cons rfl .nil)))
    · exact .typed rfl (by simp) rfl hzero (.boolean false)
    · exact .typed rfl (by simp) rfl htrue (.boolean true)
  have hactive : Renders memberContext
      (.compare ⟨0, 0, "active", true, .isIn, .list ["0", "'TRUE'", "null"]⟩)
      "\"ACTIVE\" NOT IN (?, ?, ?)".toList [.bool false, .bool true, .null] := by
    have hcompare := Renders.compare (k := memberContext)
      (c := ⟨0, 0, "active", true, .isIn, .list ["0", "'TRUE'", "null"]⟩) rfl rfl hlist
    exact hcompare
  exact .join (.group hname) (.group hactive)

/-- Its values by their types: a text with a wildcard, two truth values and null. -/
theorem translate_binds_types_members :
    translate memberContext "(name STARTS WITH :id) AND (active NOT IN (0, 'TRUE', null))" =
        .ok (some ⟨"(\"NAME\" LIKE ?) AND (\"ACTIVE\" NOT IN (?, ?, ?))",
          [.text "7%", .bool false, .bool true, .null]⟩) ∧
      List.Forall₂ (BindsLiteral memberContext) memberTree.literals
        [.text "7%", .bool false, .bool true, .null] := by
  have htranslate : translate memberContext
      "(name STARTS WITH :id) AND (active NOT IN (0, 'TRUE', null))" =
        .ok (some ⟨"(\"NAME\" LIKE ?) AND (\"ACTIVE\" NOT IN (?, ?, ?))",
          [.text "7%", .bool false, .bool true, .null]⟩) := by
    rw [translate, ofText_memberTree]
    simp only [renders_memberTree.render_eq, Except.map, String.ofList_toList]
  refine ⟨htranslate, ?_⟩
  obtain ⟨t, htext, -, hall⟩ := translate_binds_types htranslate
  -- the filter has one tree
  have htree := ofText_memberTree.symm.trans htext
  rw [Except.ok.injEq, Option.some.injEq] at htree
  rw [htree]
  exact hall

end Snowbridge.Filter
