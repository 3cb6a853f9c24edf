import SessionVault.Share.Address
/-!
# Locations

A location is an address bar.  The program replaces the fragment of its address in place; people
navigate, and only that is told to watchers, who see the last fragment navigated to.
-/

namespace SessionVault

/-- An address bar. -/
structure Location where
  url : String
  /-- How often the fragment has been replaced. -/
  writes : Nat := 0
  /-- The fragment last navigated to. -/
  destination : String
  /-- How often people have navigated. -/
  navigations : Nat := 0
  /-- Whether watchers are told at all. -/
  tells : Bool := true

namespace Location

/-- A location that starts at an address. -/
def start (url : String) : Location := { url, destination := fragmentOf url }

/-- The fragment of the address. -/
def fragment (l : Location) : String := fragmentOf l.url

/-- Replaces the fragment in place. -/
def replaceFragment (l : Location) (token : String) : Location :=
  { l with url := withFragment l.url token, writes := l.writes + 1 }

/-- Follows a link. -/
def navigate (l : Location) (url : String) : Location :=
  { l with url, destination := fragmentOf url, navigations := l.navigations + 1 }

/-- Whether people have navigated since a watcher last looked, which was after `seen`
navigations. -/
def movedSince (l : Location) (seen : Nat) : Bool := seen < l.navigations

end Location

end SessionVault
