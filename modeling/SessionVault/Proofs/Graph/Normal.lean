import SessionVault.Proofs.Graph.Ambiguity
/-!
# What is read is in normal form

An object of a tree is told to be a tag by its fields as they stand there, before anything inside
them is read (`ofTree_object`).  That is the same as telling it by what the fields denote: a text or
a list denotes itself, and a tag denotes neither a text nor a list.  So an object that was no tag in
the tree is none in the graph either, and the graph of any tree comes back from its own tree:
`ofTree_faithful`.
-/

namespace SessionVault

namespace Json

/-- Induction over a tree: what holds of the parts holds of the whole. -/
@[elab_as_elim]
theorem inductionOn {motive : Json → Prop} (t : Json) (null : motive .null)
    (bool : ∀ b, motive (.bool b)) (number : ∀ x, motive (.number x))
    (string : ∀ s, motive (.string s))
    (array : ∀ items, (∀ item ∈ items, motive item) → motive (.array items))
    (object : ∀ fields, (∀ field ∈ fields, motive field.2) → motive (.object fields)) :
    motive t := by
  have hsize : ∀ n (t : Json), sizeOf t < n → motive t := by
    intro n
    induction n with
    | zero =>
      intro t ht
      exact absurd ht (Nat.not_lt_zero _)
    | succ n ih =>
      intro t ht
      cases t with
      | null => exact null
      | bool b => exact bool b
      | number x => exact number x
      | string s => exact string s
      | array items =>
        apply array
        intro item hitem
        apply ih
        have hlt := List.sizeOf_lt_of_mem hitem
        simp only [Json.array.sizeOf_spec] at ht
        omega
      | object fields =>
        apply object
        intro field hfield
        apply ih
        have hlt := List.sizeOf_lt_of_mem hfield
        obtain ⟨key, value⟩ := field
        simp only [Json.object.sizeOf_spec, Prod.mk.sizeOf_spec] at ht hlt ⊢
        omega
  exact hsize _ t (Nat.lt_succ_self _)

/-- The tree of the graph that a tree denotes. -/
def normal (t : Json) : Json := (Graph.ofTree t).toTree

end Json

namespace Graph

/-! ## Tags in a tree -/

/-- The pairs of a list of trees that are all lists of two. -/
def treePairs? : List Json → Option (List (Json × Json))
  | [] => some []
  | .array [key, value] :: rest => (treePairs? rest).map ((key, value) :: ·)
  | _ :: _ => none

/-- The map whose keys and values are given by trees. -/
def ofTreePairs (pairs : List (Json × Json)) : Graph :=
  .map (pairs.map fun pair => (ofTree pair.1, ofTree pair.2))

/-- The value that an object denotes as a tag of a dialect, told by the trees in its fields. -/
def Dialect.readTree? (d : Dialect) (fields : List (String × Json)) : Option Graph :=
  match Assoc.get? d.tagKey fields with
  | some (.string tag) =>
    if tag = "undefined" then some .undefined
    else if tag = d.numberTag then
      match Assoc.get? d.numberKey fields with
      | some (.string text) => (Binary64.ofText? text).map .number
      | _ => none
    else if tag = d.mapTag then
      match Assoc.get? d.mapKey fields with
      | some (.array items) => (treePairs? items).map ofTreePairs
      | _ => none
    else none
  | _ => none

/-- An object is read as a tagged value or kept, so never as a text or a list. -/
lemma revive_cases (fields : List (String × Graph)) :
    revive fields = .undefined ∨ (∃ x, revive fields = .number x) ∨
      (∃ entries, revive fields = .map entries) ∨ revive fields = .object fields := by
  cases hread : readTag? fields with
  | none =>
    right; right; right
    rw [revive, hread]
  | some g =>
    have hrevive : revive fields = g := by
      rw [revive, hread]
    rw [hrevive]
    obtain rfl | ⟨x, rfl⟩ | ⟨key, items, entries, -, -, rfl⟩ := value_of_readTag? hread
    · exact .inl rfl
    · exact .inr (.inl ⟨x, rfl⟩)
    · exact .inr (.inr (.inl ⟨entries, rfl⟩))

/-- Only a list denotes a list. -/
lemma ofTree_eq_array_iff {t : Json} {items : List Graph} :
    ofTree t = .array items ↔ ∃ trees, t = .array trees ∧ ofTrees trees = items := by
  cases t with
  | object fields =>
    rw [ofTree]
    obtain h | ⟨x, h⟩ | ⟨entries, h⟩ | h := revive_cases (ofTreeFields fields) <;> simp [h]
  | _ => simp [ofTree]

/-- Only a list of two denotes a list of two. -/
lemma exists_of_ofTree_eq_pair {t : Json} {key value : Graph} (h : ofTree t = .array [key, value]) :
    ∃ a b, t = .array [a, b] := by
  obtain ⟨trees, rfl, htrees⟩ := ofTree_eq_array_iff.1 h
  have hlength := congrArg List.length htrees
  rw [ofTrees_eq_map, List.length_map] at hlength
  obtain ⟨a, b, rfl⟩ := List.length_eq_two.1 hlength
  exact ⟨a, b, rfl⟩

/-- The fields of an object denote what their trees denote. -/
lemma get?_ofTreeFields {key : String} {fields : List (String × Json)} :
    Assoc.get? key (ofTreeFields fields) = (Assoc.get? key fields).map ofTree := by
  rw [ofTreeFields_eq_map]
  exact Assoc.get?_map

/-- Lists of two can be told before their items are read. -/
lemma pairs?_ofTrees (items : List Json) :
    (pairs? (ofTrees items)).map .map = (treePairs? items).map ofTreePairs := by
  have hpairs : pairs? (ofTrees items) =
      (treePairs? items).map (List.map fun pair => (ofTree pair.1, ofTree pair.2)) := by
    fun_induction treePairs? items with
    | case1 => rfl
    | case2 key value rest ih =>
      rw [ofTrees, ofTree, ofTrees, ofTrees, ofTrees, pairs?, ih, Option.map_map, Option.map_map]
      rfl
    | case3 item rest hitem =>
      rw [ofTrees, Option.map_none]
      unfold pairs?
      split
      · next heq => cases heq
      · next key value tail heq =>
        obtain ⟨a, b, rfl⟩ := exists_of_ofTree_eq_pair (List.cons.inj heq).1
        exact absurd rfl (hitem a b)
      · rfl
  rw [hpairs, Option.map_map]
  rfl

/-- What becomes of the text of a field can be told before the fields are read. -/
lemma text_ofTreeFields {α : Type} (key : String) (fields : List (String × Json))
    (read : String → Option α) :
    (match Assoc.get? key (ofTreeFields fields) with
      | some (.string text) => read text
      | _ => none) =
    match Assoc.get? key fields with
      | some (.string text) => read text
      | _ => none := by
  rw [get?_ofTreeFields]
  cases Assoc.get? key fields with
  | none => rfl
  | some t =>
    cases t with
    | object inner =>
      rw [Option.map_some, ofTree]
      obtain h | ⟨x, h⟩ | ⟨entries, h⟩ | h := revive_cases (ofTreeFields inner) <;> rw [h]
    | _ => rfl

/-- What becomes of the list of a field can be told before the fields are read. -/
lemma list_ofTreeFields {α : Type} (key : String) (fields : List (String × Json))
    (read : List Graph → Option α) :
    (match Assoc.get? key (ofTreeFields fields) with
      | some (.array items) => read items
      | _ => none) =
    match Assoc.get? key fields with
      | some (.array items) => read (ofTrees items)
      | _ => none := by
  rw [get?_ofTreeFields]
  cases Assoc.get? key fields with
  | none => rfl
  | some t =>
    cases t with
    | object inner =>
      rw [Option.map_some, ofTree]
      obtain h | ⟨x, h⟩ | ⟨entries, h⟩ | h := revive_cases (ofTreeFields inner) <;> rw [h]
    | _ => rfl

/-- A dialect tells tags by the trees of an object's fields as well as by what these denote. -/
lemma Dialect.read?_ofTreeFields (d : Dialect) (fields : List (String × Json)) :
    d.read? (ofTreeFields fields) = d.readTree? fields := by
  rw [read?]
  refine (text_ofTreeFields d.tagKey fields _).trans ?_
  rw [readTree?]
  congr 1
  funext tag
  split_ifs
  · rfl
  · exact text_ofTreeFields d.numberKey fields _
  · refine (list_ofTreeFields d.mapKey fields _).trans ?_
    simp only [pairs?_ofTrees]
  · rfl

/-- An object of a tree is read as the value of the tag that its fields spell in the current
dialect, or else in the older one; an object that spells none is kept, and its fields are read. -/
theorem ofTree_object (fields : List (String × Json)) :
    ofTree (.object fields) =
      match Dialect.current.readTree? fields with
      | some g => g
      | none =>
        match Dialect.older.readTree? fields with
        | some g => g
        | none => .object (ofTreeFields fields) := by
  rw [ofTree, revive, readTag?, Dialect.read?_ofTreeFields, Dialect.read?_ofTreeFields]
  cases Dialect.current.readTree? fields <;> rfl

/-! ## What is left of the objects -/

/-- An object inside the map that pairs form stands in the list of the pairs. -/
lemma inside_of_pairs? {inner : List (String × Graph)} {items : List Graph}
    {entries : List (Graph × Graph)} (h : pairs? items = some entries)
    (hinside : Inside (.object inner) (.map entries)) : Inside (.object inner) (.array items) := by
  fun_induction pairs? items generalizing entries with
  | case1 =>
    obtain rfl := Option.some.inj h
    cases hinside with
    | key hentry => cases hentry
    | value hentry => cases hentry
  | case2 key value rest ih =>
    obtain ⟨tail, htail, rfl⟩ := Option.map_eq_some_iff.1 h
    -- An object is in the first pair, or in one that the induction hypothesis finds.
    have hrest : Inside (.object inner) (.map tail) →
        Inside (.object inner) (.array (.array [key, value] :: rest)) := by
      intro hmap
      cases ih htail hmap with
      | item hitem hdeep => exact .item (List.mem_cons_of_mem _ hitem) hdeep
    cases hinside with
    | key hentry hdeep =>
      rcases List.mem_cons.1 hentry with rfl | hentry
      · exact .item List.mem_cons_self (.item List.mem_cons_self hdeep)
      · exact hrest (.key hentry hdeep)
    | value hentry hdeep =>
      rcases List.mem_cons.1 hentry with rfl | hentry
      · exact .item List.mem_cons_self
          (.item (List.mem_cons_of_mem _ List.mem_cons_self) hdeep)
      · exact hrest (.value hentry hdeep)
  | case3 => cases h

/-- An object inside the value of a tag stands in one of the tag's fields. -/
lemma exists_field_of_readTag? {inner fields : List (String × Graph)} {g : Graph}
    (h : readTag? fields = some g) (hinside : Inside (.object inner) g) :
    ∃ field ∈ fields, Inside (.object inner) field.2 := by
  obtain rfl | ⟨x, rfl⟩ | ⟨key, items, entries, hitems, hentries, rfl⟩ := value_of_readTag? h
  · cases hinside
  · cases hinside
  · exact ⟨_, Assoc.mem_of_get?_eq_some hitems, inside_of_pairs? hentries hinside⟩

/-- No object in the graph of a tree reads as a tag. -/
lemma not_readsAsTag_of_inside_ofTree {t : Json} {inner : List (String × Graph)}
    (h : Inside (.object inner) (ofTree t)) : ¬ ReadsAsTag inner := by
  induction t using Json.inductionOn with
  | null => cases h
  | bool b => cases h
  | number x => cases h
  | string s => cases h
  | array items ih =>
    rw [ofTree, ofTrees_eq_map] at h
    cases h with
    | item hitem h =>
      obtain ⟨t, ht, rfl⟩ := List.mem_map.1 hitem
      exact ih t ht h
  | object fields ih =>
    have hfield : (∃ field ∈ ofTreeFields fields, Inside (.object inner) field.2) →
        ¬ ReadsAsTag inner := by
      rintro ⟨field, hmem, hdeep⟩
      rw [ofTreeFields_eq_map] at hmem
      obtain ⟨original, horiginal, rfl⟩ := List.mem_map.1 hmem
      exact ih original horiginal hdeep
    rw [ofTree, revive] at h
    cases hread : readTag? (ofTreeFields fields) with
    | some g =>
      rw [hread] at h
      exact hfield (exists_field_of_readTag? hread h)
    | none =>
      rw [hread] at h
      cases h with
      | self => exact readTag?_eq_none_iff.1 hread
      | field hmem hdeep => exact hfield ⟨_, hmem, hdeep⟩

/-- Whatever tree is read, no object of its graph reads as a tag, the graph comes back from its own
tree, and this tree is normal. -/
theorem ofTree_faithful (t : Json) :
    (∀ fields, Inside (.object fields) (ofTree t) → ¬ ReadsAsTag fields) ∧
    (ofTree t.normal = ofTree t ∧ same (ofTree t.normal) (ofTree t) = true) ∧
    t.normal.normal = t.normal := by
  have hclean : ∀ fields, Inside (.object fields) (ofTree t) → ¬ ReadsAsTag fields := by
    intro fields hinside
    exact not_readsAsTag_of_inside_ofTree hinside
  have hback : ofTree t.normal = ofTree t := ofTree_toTree_of_forall hclean
  refine ⟨hclean, ⟨hback, ?_⟩, congrArg toTree hback⟩
  rw [hback]
  exact same_self _

end Graph

end SessionVault
