import FacetedSearch.Clause.Basic
import FacetedSearch.Filter.Basic
import FacetedSearch.Text.Numeral

/-!
# Clauses of filters

Every filter becomes one leaf clause, negated when the filter is.  A bound of a range is sent when
it is a number other than zero or a numeral; ranges of dates are ranges over milliseconds with a
format.

* `Json.isBound` — whether a bound is sent.
* `Filter.leaf` — the clause of a filter without its negation.
* `Filter.clause` — the clause of a filter.
-/

set_option autoImplicit false

namespace FacetedSearch

/-- Whether a bound is sent: it is a number other than zero, or a text that reads as a number. -/
def Json.isBound : Json → Bool
  | .int n => n != 0
  | .float x => !x.isZero && !x.isNaN
  | .str s => (Numeral.real? s.toList).isSome
  | _ => false

/-- A member for a bound that is sent. -/
def Bounds.sentBound (name : String) (x : Json) : Members :=
  if x.isBound then [(name, x)] else []

/-- A member for a flag that is given. -/
def Bounds.sentFlag (name : String) : Option Bool → Members
  | some b => [(name, .bool b)]
  | none => []

/-- What is sent of the bounds. -/
def Bounds.sent (b : Bounds) : Members :=
  sentBound "from" b.lower ++ sentBound "to" b.upper
    ++ sentFlag "include_lower" b.includeLower ++ sentFlag "include_upper" b.includeUpper

/-- What is sent of a format; one that does not count as present is not sent. -/
def Bounds.sentFormat (format : Json) : Members :=
  if format.isTruthy then [("format", format)] else []

/-- A distance in a clause. -/
def Distance.sent : Distance → Json
  | unspecified => .int 10
  | given x => .float x

namespace Filter

/-- The clause of a filter without its negation; the format is that of its dates. -/
def leaf (f : Filter) (format : Json) : Leaf :=
  match f.constraint with
  | .term value => .term f.field value
  | .terms values execution => .terms f.field values execution
  | .range bounds => .range f.field bounds.sent
  | .dateRange bounds => .range f.field (bounds.sent ++ Bounds.sentFormat format)
  | .geoDistance point distance unit => .geoDistance f.field point distance.sent unit
  | .docType value => .docType value
  | .present => .present f.field
  | .absent => .absent f.field

/-- The clause of a filter; the format is that of its dates. -/
def clause (f : Filter) (format : Json) : Clause :=
  if f.negated then .not (.leaf (f.leaf format)) else .leaf (f.leaf format)

end Filter

end FacetedSearch
