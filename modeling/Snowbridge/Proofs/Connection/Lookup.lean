import Mathlib.Data.List.Basic
import Mathlib.Data.List.Induction
import Snowbridge.Connection.Override
import Snowbridge.Proofs.Text.Parts

/-!
# Values that a request carries

A request is built by additions of headers and query parameters. It keeps all that was added, latest
first (`ofAdditions_eq`), so of the values that were given to a name the last one counts. A header
that is not blank wins over a query parameter, and a blank one ought to count as none; but a search
that has found a header looks no further, so a blank header hides a query parameter. That is the
only case in which a lookup misses the value in effect (`lookup_ofAdditions_iff`).
-/

namespace Snowbridge.Connection

/-! ## Additions -/

/-- A header or a query parameter that is added to a request. -/
inductive Addition where
  | header (name value : String)
  | query (name value : String)

namespace Addition

/-- What is kept of a header. -/
def headerEntry? : Addition → Option (String × String)
  | header name value => some (Text.lowered name, value)
  | query _ _ => none

/-- What is kept of a query parameter. -/
def queryEntry? : Addition → Option (String × String)
  | header _ _ => none
  | query name value => some (name, value)

/-- The value that is given to a header of a name, in any case of letters. -/
def headerValue? (wanted : String) : Addition → Option String
  | header name value => if Text.lowered name = Text.lowered wanted then some value else none
  | query _ _ => none

/-- The value that is given to the query parameter of exactly a name. -/
def queryValue? (wanted : String) : Addition → Option String
  | header _ _ => none
  | query name value => if name = wanted then some value else none

end Addition

/-- The values that are given to headers of a name, in their order. -/
def headerValues (name : String) (as : List Addition) : List String :=
  as.filterMap (Addition.headerValue? name)

/-- The values that are given to the query parameter of a name, in their order. -/
def queryValues (name : String) (as : List Addition) : List String :=
  as.filterMap (Addition.queryValue? name)

/-- The last of some values, unless it is blank. -/
def inEffect (values : List String) : Option String :=
  values.getLast?.filter fun v => !Text.isBlankText v

/-- The last header of a name is blank, and the query parameter of that name is not. -/
def HidesParameter (name : String) (as : List Addition) : Prop :=
  (∃ v, (headerValues name as).getLast? = some v ∧ Text.isBlankText v = true) ∧
    ∃ v, inEffect (queryValues name as) = some v

/-- Filtering commutes with choosing the first value, unless the first is filtered out and the
second is not. -/
theorem filter_or_eq_iff {α : Type} (p : α → Bool) (x y : Option α) :
    (x.or y).filter p = (x.filter p).or (y.filter p) ↔
      ¬ ((∃ v, x = some v ∧ p v = false) ∧ ∃ v, y.filter p = some v) := by
  cases x with
  | none => simp
  | some v =>
    cases hv : p v with
    | true => simp [Option.filter, hv]
    | false =>
      have hnone : (some v).filter p = none := Option.filter_eq_none_iff.2 (by simp [hv])
      rw [Option.some_or, hnone, Option.none_or]
      cases y.filter p <;> simp [hv]

/-! ## Requests that are built -/

namespace Request

/-- The request with one addition more. -/
def add (r : Request) : Addition → Request
  | .header name value => r.addHeader name value
  | .query name value => r.addQuery name value

/-- The request that is built by additions, one after the other. -/
def ofAdditions (as : List Addition) : Request := as.foldl add {}

/-- A request holds the added headers and parameters, latest first. -/
theorem ofAdditions_eq (as : List Addition) : ofAdditions as =
    ⟨(as.filterMap Addition.headerEntry?).reverse, (as.filterMap Addition.queryEntry?).reverse⟩ := by
  -- induction from the last addition, which goes in front
  induction as using List.reverseRecOn with
  | nil => rfl
  | append_singleton as a ih =>
    have hlast : ofAdditions (as ++ [a]) = (ofAdditions as).add a := List.foldl_concat ..
    rw [hlast, ih, List.filterMap_append, List.filterMap_append, List.reverse_append,
      List.reverse_append]
    cases a <;> rfl

/-- Lookup in a list that is kept latest first finds the last value given. -/
theorem lookup_kept {kept? : Addition → Option (String × String)}
    {value? : Addition → Option String} {key : String}
    (h : ∀ a, ((kept? a).bind fun e => if key == e.1 then some e.2 else none) = value? a)
    (as : List Addition) :
    (as.filterMap kept?).reverse.lookup key = (as.filterMap value?).getLast? := by
  rw [List.lookup_eq_findSome?, ← List.getLast?_filterMap, List.filterMap_filterMap]
  simp only [h]

/-- A header lookup finds the last value given to the name, in any case. -/
theorem lookup_headers (as : List Addition) (name : String) :
    (ofAdditions as).headers.lookup (Text.lowered name) = (headerValues name as).getLast? := by
  rw [ofAdditions_eq]
  refine lookup_kept ?_ as
  rintro (⟨n, v⟩ | _)
  · exact if_congr (beq_iff_eq.trans eq_comm) rfl rfl
  · rfl

/-- A parameter lookup finds the last value given to exactly the name. -/
theorem lookup_query (as : List Addition) (name : String) :
    (ofAdditions as).query.lookup name = (queryValues name as).getLast? := by
  rw [ofAdditions_eq]
  refine lookup_kept ?_ as
  rintro (_ | ⟨n, v⟩)
  · rfl
  · exact if_congr (beq_iff_eq.trans eq_comm) rfl rfl

/-- A lookup chooses the header before the parameter, and drops the chosen value if it is blank. -/
theorem lookup_ofAdditions (as : List Addition) (name : String) :
    (ofAdditions as).lookup name = ((headerValues name as).getLast?.or
      (queryValues name as).getLast?).filter fun v => !Text.isBlankText v := by
  rw [lookup, lookup_headers, lookup_query, Option.orElse_eq_or]

/-- A lookup finds the last nonblank header, or else the last nonblank parameter, except where a
blank header hides a parameter. -/
theorem lookup_ofAdditions_iff (as : List Addition) (name : String) :
    (ofAdditions as).lookup name =
        (inEffect (headerValues name as)).or (inEffect (queryValues name as)) ↔
      ¬ HidesParameter name as := by
  rw [lookup_ofAdditions, inEffect, inEffect, filter_or_eq_iff, HidesParameter, inEffect]
  simp only [Bool.not_eq_false']

/-- A request whose header for the role is blank, beside a query parameter that is not. -/
def blankHeader : List Addition := [.header "X-Role" " ", .query "X-Role" "ANALYST"]

/-- A blank header hides the role in the query parameter. -/
theorem lookup_blankHeader : (ofAdditions blankHeader).lookup "X-Role" = none ∧
    (inEffect (headerValues "X-Role" blankHeader)).or (inEffect (queryValues "X-Role" blankHeader)) =
      some "ANALYST" := by
  decide +kernel

end Request

end Snowbridge.Connection
