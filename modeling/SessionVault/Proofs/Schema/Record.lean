import SessionVault.Proofs.Schema.Portable
import SessionVault.Schema.Choice
/-!
# Records that their graphs keep

A record is written as an object, which sorts its fields, and it is read by looking up each field
that comes along.  So the order of reading is not the order of the layout.  `Layout.given` is the
state of the reader when it has met some of the fields of a record; meeting one more field is a
step between such states, and when all have been met the record is complete.
-/

namespace SessionVault

/-- Fields whose values read back from their graphs, which are plain and nest at most `n` deep. -/
structure Field.IsFaithful {α : Type} (field : Field α) (n : Nat) : Prop where
  plain : ∀ a, (field.write a).Plain n
  read_write : ∀ a, field.read (field.write a) = .ok a

namespace Field.IsFaithful

variable {α : Type} [Portable α] {n : Nat}

/-- A required field of a faithful type. -/
lemma required [Faithful α n] (name : String) :
    (Field.required name : Field α).IsFaithful n :=
  ⟨Faithful.plain, Faithful.read_write n⟩

/-- A defaulted field of a faithful type. -/
lemma defaulted [Faithful α n] (name : String) (default : α) :
    (Field.defaulted name default).IsFaithful n :=
  ⟨Faithful.plain, Faithful.read_write n⟩

/-- An optional field of a faithful type. -/
lemma optional [Faithful (Option α) n] (name : String) :
    (Field.optional name : Field (Option α)).IsFaithful n :=
  ⟨Faithful.plain, Faithful.read_write n⟩

end Field.IsFaithful

namespace Layout

/-- Layouts of faithful fields. -/
inductive AllFaithful (n : Nat) : {β : Type} → Layout β → Prop
  | nil : AllFaithful n .nil
  | cons {α β : Type} {field : Field α} {rest : Layout β} (hfield : field.IsFaithful n)
      (hrest : AllFaithful n rest) : AllFaithful n (.cons field rest)

/-- Layouts of faithful fields with names that are told apart and tag nothing. -/
structure IsFaithful {β : Type} (layout : Layout β) (n : Nat) : Prop where
  fields : AllFaithful n layout
  nodup : layout.names.Nodup
  untagged : Graph.Dialect.current.tagKey ∉ layout.names ∧
    Graph.Dialect.older.tagKey ∉ layout.names

/-! ## Reading fields in any order -/

/-- The slots of a reader that has met the fields of a record with given names. -/
def given (met : List String) : {β : Type} → (layout : Layout β) → β → layout.Slots
  | _, .nil, _ => ()
  | _, .cons field rest, (a, b) => (if field.name ∈ met then some a else none, rest.given met b)

variable {β : Type} {layout : Layout β} {n : Nat}

/-- At first no field has been met. -/
lemma given_nil (layout : Layout β) (b : β) : layout.given [] b = layout.noSlots := by
  induction layout with
  | nil => rfl
  | cons field rest ih =>
    obtain ⟨a, b⟩ := b
    rw [given, noSlots, ih, if_neg List.not_mem_nil]

/-- Names of other fields do not matter. -/
lemma given_cons_of_not_mem {name : String} (hname : name ∉ layout.names) (met : List String)
    (b : β) : layout.given (name :: met) b = layout.given met b := by
  induction layout with
  | nil => rfl
  | cons field rest ih =>
    obtain ⟨a, b⟩ := b
    rw [names, List.mem_cons, not_or] at hname
    have hiff : field.name ∈ name :: met ↔ field.name ∈ met := by
      rw [List.mem_cons, or_iff_right (Ne.symm hname.1)]
    rw [given, given, ih hname.2]
    simp only [hiff]
    rfl

/-- The fields of a record are named as the layout says. -/
lemma map_fst_fields (layout : Layout β) (b : β) :
    (layout.fields b).map (·.1) = layout.names := by
  induction layout with
  | nil => rfl
  | cons field rest ih =>
    obtain ⟨a, b⟩ := b
    rw [fields, names, List.map_cons, ih]

/-- Meeting a field. -/
lemma fill_given (hfields : layout.AllFaithful n) (hnodup : layout.names.Nodup) {b : β}
    {name : String} {g : Graph} (hmem : (name, g) ∈ layout.fields b) {met : List String}
    (hmet : name ∉ met) :
    ∃ i, layout.names.findIdx? (· == name) = some i ∧
      layout.fill i g (layout.given met b) = .ok (layout.given (name :: met) b) := by
  induction hfields with
  | nil => cases hmem
  | @cons α β field rest hfield hrest ih =>
    obtain ⟨a, b⟩ := b
    rw [names, List.nodup_cons] at hnodup
    rw [fields, List.mem_cons] at hmem
    rcases hmem with hhead | hmem
    · obtain ⟨rfl, rfl⟩ := Prod.mk.inj hhead
      refine ⟨0, by simp [names, List.findIdx?_cons], ?_⟩
      rw [given, given, if_neg hmet, if_pos List.mem_cons_self, given_cons_of_not_mem hnodup.1]
      change (field.read (field.write a)).map _ = _
      rw [hfield.read_write]
      rfl
    · have hin : name ∈ rest.names := by
        rw [← map_fst_fields rest b]
        exact List.mem_map.2 ⟨_, hmem, rfl⟩
      have hne : field.name ≠ name := fun heq => hnodup.1 (heq ▸ hin)
      obtain ⟨i, hi, hfill⟩ := ih hnodup.2 hmem
      refine ⟨i + 1, by simp [names, List.findIdx?_cons, hne, hi], ?_⟩
      have hiff : field.name ∈ name :: met ↔ field.name ∈ met := by
        rw [List.mem_cons, or_iff_right hne]
      rw [given, given]
      change (rest.fill i g (rest.given met b)).map _ = _
      rw [hfill]
      simp only [hiff]
      rfl

/-- Meeting fields in turn. -/
lemma fillAll_given (hfields : layout.AllFaithful n) (hnodup : layout.names.Nodup) {b : β}
    {todo : List (String × Graph)} (hmem : ∀ field ∈ todo, field ∈ layout.fields b)
    {met : List String} (hkeys : ((todo.map (·.1)).reverse ++ met).Nodup) :
    layout.fillAll (todo.map fun field => (.string field.1, field.2)) (layout.given met b) =
      .ok (layout.given ((todo.map (·.1)).reverse ++ met) b) := by
  induction todo generalizing met with
  | nil => rfl
  | cons field rest ih =>
    obtain ⟨name, g⟩ := field
    have hreverse : (((name, g) :: rest).map (·.1)).reverse ++ met =
        (rest.map (·.1)).reverse ++ name :: met := by
      rw [List.map_cons, List.reverse_cons, List.append_assoc, List.singleton_append]
    rw [hreverse] at hkeys ⊢
    have hmet : name ∉ met := by
      have := (List.nodup_append.1 hkeys).2.1
      exact (List.nodup_cons.1 this).1
    obtain ⟨i, hi, hfill⟩ := fill_given hfields hnodup (hmem (name, g) List.mem_cons_self) hmet
    rw [List.map_cons, fillAll, position?, hi]
    dsimp only
    rw [hfill]
    exact ih (fun field hfield => hmem field (List.mem_cons_of_mem _ hfield)) hkeys

/-- When all fields have been met, the record is complete. -/
lemma finish_given {met : List String} (hmet : ∀ name ∈ layout.names, name ∈ met) (b : β) :
    layout.finish (layout.given met b) = .ok b := by
  induction layout with
  | nil => rfl
  | cons field rest ih =>
    obtain ⟨a, b⟩ := b
    rw [given, if_pos (hmet _ List.mem_cons_self)]
    change (rest.finish (rest.given met b)).map _ = _
    rw [ih fun name hname => hmet name (List.mem_cons_of_mem _ hname)]
    rfl

/-- A record is read back from its fields in any order. -/
lemma readNamed_fields (h : layout.IsFaithful n) (b : β) :
    layout.readNamed
      ((Assoc.ofList (layout.fields b)).map fun field => (.string field.1, field.2)) = .ok b := by
  have hnodup := (Assoc.ordered_ofList (layout.fields b)).nodup_keys
  rw [readNamed, ← given_nil layout b, fillAll_given h.fields h.nodup
    (fun field => Assoc.mem_of_mem_ofList) (by rwa [List.append_nil, List.nodup_reverse]), ok_bind]
  refine finish_given (fun name hname => ?_) b
  rw [List.append_nil, List.mem_reverse, Assoc.mem_keys_ofList_iff, map_fst_fields]
  exact hname

/-- A record of faithful fields is read back. -/
lemma read_write (h : layout.IsFaithful n) (title : String) (b : β) :
    layout.read title (layout.write b) = .ok b :=
  readNamed_fields h b

/-- A field of a record is found by its name. -/
lemma get?_write_of_mem (hnodup : layout.names.Nodup) {b : β} {name : String} {g : Graph}
    (hmem : (name, g) ∈ layout.fields b) : (layout.write b).get? name = some g :=
  Assoc.get?_ofList_of_mem (by rwa [map_fst_fields]) hmem

/-- What is no field of a record is not found. -/
lemma get?_write_of_not_mem {name : String} (hname : name ∉ layout.names) (b : β) :
    (layout.write b).get? name = none := by
  refine Assoc.get?_eq_none_iff.2 ?_
  rwa [Assoc.mem_keys_ofList_iff, map_fst_fields]

/-- The fields of a record are plain. -/
lemma plain_of_mem_fields (h : layout.AllFaithful n) (b : β) :
    ∀ field ∈ layout.fields b, field.2.Plain n := by
  induction h with
  | nil => simp [fields]
  | @cons α β field rest hfield hrest ih =>
    obtain ⟨a, b⟩ := b
    rw [fields]
    rintro entry (_ | ⟨_, hmem⟩)
    · exact hfield.plain a
    · exact ih b entry hmem

/-- A record of faithful fields is plain. -/
lemma plain_write (h : layout.IsFaithful n) (b : β) : (layout.write b).Plain (n + 1) := by
  refine .object (Assoc.ordered_ofList _) ⟨?_, ?_⟩ fun field hmem =>
    plain_of_mem_fields h.fields b field (Assoc.mem_of_mem_ofList hmem)
  · rw [Assoc.mem_keys_ofList_iff, map_fst_fields]
    exact h.untagged.1
  · rw [Assoc.mem_keys_ofList_iff, map_fst_fields]
    exact h.untagged.2

end Layout

/-- A described type with a faithful layout keeps its values. -/
lemma Described.faithful {ρ : Type} (d : Described ρ) {n : Nat} (h : d.layout.IsFaithful n)
    (hback : ∀ r, d.ofTuple (d.toTuple r) = r) : @Faithful ρ d.portable (n + 1) :=
  @Faithful.mk ρ d.portable (n + 1) (fun r => Layout.plain_write h (d.toTuple r)) fun r => by
    change (d.layout.read d.title (d.layout.write (d.toTuple r))).map d.ofTuple = _
    rw [Layout.read_write h]
    exact congrArg Except.ok (hback r)

/-- A described type is never taken for absent. -/
lemma Described.definite {ρ : Type} (d : Described ρ) : @Definite ρ d.portable :=
  @Definite.mk ρ d.portable (fun _ => by rintro ⟨⟩) fun _ => by rintro ⟨⟩

/-! ## Choices -/

/-- A variant with what it carries is plain. -/
lemma Schema.plain_choose {n : Nat} {name : String} {content : Graph} (hcontent : content.Plain n)
    (hname : name ≠ Graph.Dialect.current.tagKey ∧ name ≠ Graph.Dialect.older.tagKey) :
    (Schema.choose name content).Plain (n + 1) := by
  refine .object (List.pairwise_singleton _ _) ⟨?_, ?_⟩ (by simpa using hcontent)
  · simpa using hname.1.symm
  · simpa using hname.2.symm

/-- A variant with what it carries is read by the variant of that name. -/
lemma Schema.readChoice_choose {ε : Type} {variants : List (Variant ε)} {name : String}
    {v : Variant ε} (h : variants.find? (·.name == name) = some v) (content : Graph) :
    Schema.readChoice variants (Schema.choose name content) = v.loaded content := by
  rw [Schema.choose, Schema.readChoice]
  dsimp only
  rw [h]
  rfl

/-- A variant that carries a record is read back. -/
lemma Variant.loaded_record {ε β : Type} {layout : Layout β} {n : Nat} (h : layout.IsFaithful n)
    (owner name : String) (make : β → ε) (b : β) :
    (Variant.record owner name layout make).loaded (layout.write b) = .ok (make b) := by
  rw [Variant.record]
  dsimp only
  rw [Layout.read_write h]
  rfl

end SessionVault
