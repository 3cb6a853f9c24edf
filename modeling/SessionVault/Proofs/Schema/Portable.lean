import SessionVault.Proofs.Graph.Tagged
import SessionVault.Proofs.Number.Integer
import SessionVault.Proofs.Steps
import SessionVault.Schema.Record
/-!
# Data that its graph keeps

A portable type is faithful if every value reads back from its graph, and if that graph survives as
text.  The second part is `Graph.Plain n`, so a faithful type comes with a bound on how deeply its
values nest; the instances compute these bounds.  Optional data is `undefined` when absent, which
is safe for types whose graphs are never `undefined` or `null`.
-/

namespace SessionVault

/-- Types whose values read back from their graphs, which are plain and nest at most `n` deep. -/
class Faithful (α : Type) [Portable α] (n : Nat) : Prop where
  plain : ∀ a : α, (toGraph a).Plain n
  read_write : ∀ a : α, ofGraph (toGraph a) = .ok a

/-- Types whose graphs are not taken for absent data. -/
class Definite (α : Type) [Portable α] : Prop where
  ne_undefined : ∀ a : α, toGraph a ≠ .undefined
  ne_null : ∀ a : α, toGraph a ≠ .null

namespace Schema

/-! ## Scalars -/

/-- Integers of a kind below `2 ^ 53` are read back. -/
lemma readInteger_integer {kind : IntegerKind} {n : Int} (hkind : kind.holds n = true)
    (hn : n.natAbs < 2 ^ 53) : readInteger kind (integer n) = .ok n := by
  have hrange : -(Nat.pow 2 63 : Int) ≤ n ∧ n < UInt64.size := by
    have hlow : (Nat.pow 2 63 : Int) = 9223372036854775808 := rfl
    have hhigh : UInt64.size = 18446744073709551616 := rfl
    omega
  have hoffered : Graph.offeredInt? (.ofInt n) = some n := by
    rw [Graph.offeredInt?, Binary64.toExactInt?_ofInt hn]
    exact if_pos hrange
  rw [integer, readInteger, hoffered]
  exact if_pos hkind

/-- Natural numbers of an unsigned kind are read back, up to `2 ^ 53`. -/
lemma readInteger_natural {kind : IntegerKind} (hkind : kind.signed = false) {m : Nat}
    (hm : m < 2 ^ kind.width) (hsmall : m < 2 ^ 53) :
    readInteger kind (integer m) = .ok (m : Int) := by
  refine readInteger_integer ?_ (by rwa [Int.natAbs_natCast])
  have hle : (m : Int) ≤ (Nat.pow 2 kind.width : Int) - 1 := by
    rw [Nat.pow_eq]
    omega
  rw [IntegerKind.holds, IntegerKind.least, IntegerKind.greatest, hkind]
  simpa using hle

/-- Items that read back one by one read back as a list. -/
lemma readAll_map {α β : Type} {read : β → Except Mismatch α} {write : α → β}
    (h : ∀ a, read (write a) = .ok a) (as : List α) : readAll read (as.map write) = .ok as := by
  induction as with
  | nil => rfl
  | cons a as ih => rw [List.map_cons, readAll, h, ok_bind, ih, ok_bind]; rfl

/-- Data that is not taken for absent is read as present. -/
lemma readOption_of_definite {α : Type} {g : Graph} (hundefined : g ≠ .undefined)
    (hnull : g ≠ .null) (read : Graph → Except Mismatch α) :
    readOption read g = (read g).map some := by
  cases g with
  | undefined => exact absurd rfl hundefined
  | null => exact absurd rfl hnull
  | _ => rfl

end Schema

open Schema

instance {n : Nat} : Faithful Bool n where
  plain b := .bool n b
  read_write _ := rfl

instance {n : Nat} : Faithful String n where
  plain s := .string n s
  read_write _ := rfl

instance {n : Nat} : Faithful Binary64 (n + 1) where
  plain x := .number n x
  read_write _ := rfl

instance {n : Nat} : Faithful UInt16 (n + 1) where
  plain a := .number n _
  read_write a := by
    have hlt := a.toNat_lt
    change (readInteger .u16 (integer a.toNat)).map _ = _
    rw [readInteger_natural rfl hlt (by omega)]
    exact congrArg Except.ok UInt16.ofNat_toNat

instance {n : Nat} : Faithful UInt32 (n + 1) where
  plain a := .number n _
  read_write a := by
    have hlt := a.toNat_lt
    change (readInteger .u32 (integer a.toNat)).map _ = _
    rw [readInteger_natural rfl hlt (by omega)]
    exact congrArg Except.ok UInt32.ofNat_toNat

instance : Definite String where
  ne_undefined _ := by rintro ⟨⟩
  ne_null _ := by rintro ⟨⟩

instance : Definite UInt32 where
  ne_undefined _ := by rintro ⟨⟩
  ne_null _ := by rintro ⟨⟩

/-! ## Containers -/

section Containers

variable {α β κ : Type} [Portable α] [Portable β] [Portable κ] {n : Nat}

instance [Definite α] [Faithful α (n + 1)] : Faithful (Option α) (n + 1) where
  plain
    | none => .undefined n
    | some a => Faithful.plain a
  read_write
    | none => rfl
    | some a => by
      change readOption ofGraph (toGraph a) = _
      rw [readOption_of_definite (Definite.ne_undefined a) (Definite.ne_null a),
        Faithful.read_write (n + 1)]
      rfl

instance : Definite (List α) where
  ne_undefined _ := by rintro ⟨⟩
  ne_null _ := by rintro ⟨⟩

instance [Faithful α n] : Faithful (List α) (n + 1) where
  plain as := .array fun g hg => by
    obtain ⟨a, -, rfl⟩ := List.mem_map.1 hg
    exact Faithful.plain a
  read_write := readAll_map (Faithful.read_write n)

section Tables

variable [Ord κ] [Std.TransOrd κ]

instance : Definite (Table κ α) where
  ne_undefined _ := by rintro ⟨⟩
  ne_null _ := by rintro ⟨⟩

instance [Faithful κ n] [Faithful α n] : Faithful (Table κ α) (n + 3) where
  plain t := by
    refine .map (fun entry hentry => ?_) (fun entry hentry => ?_)
    · obtain ⟨entry, -, rfl⟩ := List.mem_map.1 hentry
      exact Faithful.plain entry.1
    · obtain ⟨entry, -, rfl⟩ := List.mem_map.1 hentry
      exact Faithful.plain entry.2
  read_write t := by
    have hentry : ∀ entry : κ × α,
        readEntry ofGraph ofGraph (toGraph entry.1, toGraph entry.2) = .ok entry := by
      intro entry
      rw [readEntry, Faithful.read_write n, ok_bind, Faithful.read_write n, ok_bind]
      rfl
    change (readAll (readEntry ofGraph ofGraph)
      (t.entries.map fun entry => (toGraph entry.1, toGraph entry.2))).map Table.ofList = _
    rw [readAll_map hentry]
    exact congrArg Except.ok (Table.ext (Assoc.ofList_of_ordered t.ordered))

end Tables

instance [Faithful α n] [Faithful β n] : Faithful (α × β) (n + 1) where
  plain p := .array (by simpa using ⟨Faithful.plain p.1, Faithful.plain p.2⟩)
  read_write p := by
    change ((pairLayout α β).readListed _ [toGraph p.1, toGraph p.2]).map _ = _
    simp only [Layout.readListed, pairLayout, Layout.readItems, Field.required,
      Faithful.read_write n]
    rfl

end Containers

end SessionVault
