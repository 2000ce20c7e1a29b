/-
Coverage: which symbols are documented, and what share they make.

The share is the quotient of two counts, rounded to a binary64. Without symbols it is
one. In reports it stands as a percentage without places: a hundred times the rounded
share, rounded once more to a binary64 and then to an integer, a half going to the
even one.
-/
import SymbolDocs.Decimal.Binary64
import SymbolDocs.Symbol

set_option autoImplicit false

namespace SymbolDocs

/-- The result of counting. -/
structure Coverage where
  /-- The number of symbols. -/
  total : Nat
  /-- The names of those that are not documented, in order. -/
  missing : List String
  deriving DecidableEq, Repr

namespace Coverage

/-- Counts symbols. -/
def ofSymbols (symbols : List Introspection) : Coverage :=
  { total := symbols.length
    missing := (symbols.filter fun s => !s.isDocumented).map (·.name) }

/-- Counts the symbols of records. -/
def ofRecords (settings : Settings) (workingDirectory : String) (records : List Record) :
    Except Discussion.StrayName Coverage :=
  (records.mapM (Record.introspect settings workingDirectory none)).map ofSymbols

/-- The share of documented symbols. -/
def share (c : Coverage) : Binary64 :=
  if c.total = 0 then Binary64.ofRatio false 1 1
  else Binary64.ofRatio false (c.total - c.missing.length) c.total

/-- The share in percent. -/
def percent (c : Coverage) : Nat :=
  let (num, den) := (c.share.timesNat 100).ratio
  Binary64.roundHalfEven num den

/-- The percentage as reports write it. -/
def percentText (c : Coverage) : String :=
  toString c.percent ++ "%"

end Coverage

end SymbolDocs
