import BoxOffice.Text.Percent

/-!
# BoxOffice.Address.Query

The pairs of a query: names and values, with `=` between the two and `&` between
pairs. A plus sign is a space, and bytes may be written with percent signs; bytes that
are no text show as marks. A name without `=` has the empty value, and nothing
between two signs is no pair.
-/

namespace BoxOffice.Address

/-- The text of a name or a value. -/
def queryText (cs : List Char) : String :=
  Text.Percent.shown (cs.map fun c => if c = '+' then ' ' else c)

/-- The pair that stands between two signs. -/
def readPair (cs : List Char) : String × String :=
  let name := cs.takeWhile (· != '=')
  (queryText name, queryText (cs.drop (name.length + 1)))

/-- The pairs of a query, in order. -/
def pairs (query : List Char) : List (String × String) :=
  ((query.splitOn '&').filter (· ≠ [])).map readPair

end BoxOffice.Address
