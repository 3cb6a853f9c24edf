import SessionVault.Moment
import SessionVault.Text.Lowercase
/-!
# The index of saves

Saves are found by name and listed by date.  The index keeps both orders: the date of every name,
and the same pairs ordered by date and then name.
-/

namespace SessionVault

/-- A save in the order of dates. -/
structure DatedName where
  date : Moment
  name : String
  deriving DecidableEq

namespace DatedName

instance : Ord DatedName := ⟨compareLex (compareOn date) (compareOn name)⟩

instance : Std.TransOrd DatedName :=
  inferInstanceAs (Std.TransCmp (compareLex (compareOn date) (compareOn name)))

end DatedName

/-- The saves by name and by date. -/
structure SaveIndex where
  byName : Table String Moment := ∅
  byDate : Table DatedName Unit := ∅

namespace SaveIndex

/-- Drops a save. -/
def remove (i : SaveIndex) (name : String) : SaveIndex :=
  match i.byName.get? name with
  | none => i
  | some date => ⟨i.byName.erase name, i.byDate.erase ⟨date, name⟩⟩

/-- Adds a save, in place of an earlier one with the same name. -/
def add (i : SaveIndex) (name : String) (date : Moment) : SaveIndex :=
  let i := i.remove name
  ⟨i.byName.insert name date, i.byDate.insert ⟨date, name⟩ ()⟩

/-- The date of a save. -/
def date? (i : SaveIndex) (name : String) : Option Moment := i.byName.get? name

/-- Whether there is a save with a name. -/
def contains (i : SaveIndex) (name : String) : Bool := i.byName.contains name

/-- The number of saves. -/
def size (i : SaveIndex) : Nat := i.byName.size

/-- Whether there are no saves. -/
def isEmpty (i : SaveIndex) : Bool := i.byName.isEmpty

/-- The names, those of the newest saves first. -/
def newestFirst (i : SaveIndex) : List String := i.byDate.keys.reverse.map (·.name)

/-- Whether a name contains a query, whatever the case of the letters. -/
def matchesQuery (query name : String) : Bool :=
  isInfixOf (lowercase query).toList (lowercase name).toList

/-- The names that contain a query, in order. -/
def search (i : SaveIndex) (query : String) : List String :=
  i.byName.keys.filter (matchesQuery query)

end SaveIndex

end SessionVault
