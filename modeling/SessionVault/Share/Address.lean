/-!
# Addresses and their fragments

The fragment of an address is what follows its first `#`.
-/

namespace SessionVault

/-- The part of an address before its fragment. -/
def withoutFragment (url : String) : String :=
  String.ofList (url.toList.takeWhile (· ≠ '#'))

/-- The fragment of an address, empty if it has none. -/
def fragmentOf (url : String) : String :=
  String.ofList ((url.toList.dropWhile (· ≠ '#')).drop 1)

/-- An address with a fragment; the empty fragment is left out. -/
def withFragment (url token : String) : String :=
  if token.isEmpty then withoutFragment url else withoutFragment url ++ "#" ++ token

end SessionVault
