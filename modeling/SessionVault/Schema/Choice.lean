import SessionVault.Schema.Record
/-!
# Choices

A choice among named variants is written as the name alone when the variant carries nothing, and
otherwise as an object with one field: the name, with what the variant carries.
-/

namespace SessionVault

/-- A variant of a choice: how to read it when it is named alone and when something comes with the
name. -/
structure Variant (ε : Type) where
  name : String
  bare : Except Mismatch ε
  loaded : Graph → Except Mismatch ε

namespace Variant

variable {ε : Type}

/-- A variant that carries nothing. -/
def unit (name : String) (value : ε) : Variant ε where
  name
  bare := .ok value
  loaded
    | .undefined => .ok value
    | .null => .ok value
    | other => .error (.invalidType other.foundPlain "a unit variant")

/-- The mismatch of a variant that is named alone but must carry something. -/
def bareMismatch (expected : String) : Except Mismatch ε :=
  .error (.invalidType .unitVariant expected)

/-- A variant that carries one value. -/
def newtype {α : Type} [Portable α] (name : String) (make : α → ε) : Variant ε where
  name
  bare := bareMismatch "newtype variant"
  loaded g := (ofGraph g).map make

/-- A variant that carries several values in order. -/
def tuple {β : Type} (owner name : String) (layout : Layout β) (make : β → ε) : Variant ε where
  name
  bare := bareMismatch "tuple variant"
  loaded g :=
    let title := "tuple variant " ++ owner ++ "::" ++ name
    (layout.readTuple title (title ++ " with " ++ Layout.elements layout.count) g).map make

/-- A variant that carries a record. -/
def record {β : Type} (owner name : String) (layout : Layout β) (make : β → ε) : Variant ε where
  name
  bare := bareMismatch "struct variant"
  loaded g := (layout.read ("struct variant " ++ owner ++ "::" ++ name) g).map make

end Variant

namespace Schema

/-- Reads a choice. -/
def readChoice {ε : Type} (variants : List (Variant ε)) (g : Graph) : Except Mismatch ε :=
  let named (name : String) : Except Mismatch (Variant ε) :=
    match variants.find? (·.name == name) with
    | some v => .ok v
    | none => .error (.unknownVariant name (variants.map (·.name)))
  match g with
  | .string name => do (← named name).bare
  | .object [(name, content)] => do (← named name).loaded content
  | other => .error (.invalidType other.foundPlain "an enum variant")

/-- A variant with what it carries. -/
def choose (name : String) (content : Graph) : Graph := .object [(name, content)]

end Schema

end SessionVault
