import SessionVault.Graph.Tagged
import SessionVault.Proofs.Json.Text
/-!
# Graphs read back from tagged JSON

Tags share the name space of objects, so a graph survives only if none of its objects reads as a
tag.  `Plain n` describes graphs that are safe: their objects have no field by which a dialect tags,
and their trees are nested at most `n` deep.  The text of such a graph is read as the graph again:
`decode_encode`.  To be written a graph need only be `InOrder`.
-/

namespace SessionVault.Graph

/-- Fields of an object that no dialect takes for a tag. -/
def Untagged (fields : List (String × Graph)) : Prop :=
  Dialect.current.tagKey ∉ fields.map (·.1) ∧ Dialect.older.tagKey ∉ fields.map (·.1)

/-- Graphs whose objects are in key order and untagged, with trees nested at most `n` deep. -/
inductive Plain : Nat → Graph → Prop
  | undefined (n : Nat) : Plain (n + 1) .undefined
  | null (n : Nat) : Plain n .null
  | bool (n : Nat) (b : Bool) : Plain n (.bool b)
  | number (n : Nat) (x : Binary64) : Plain (n + 1) (.number x)
  | string (n : Nat) (s : String) : Plain n (.string s)
  | array {n : Nat} {items : List Graph} (h : ∀ g ∈ items, Plain n g) :
      Plain (n + 1) (.array items)
  | object {n : Nat} {fields : List (String × Graph)} (hordered : Assoc.Ordered fields)
      (huntagged : Untagged fields) (h : ∀ field ∈ fields, Plain n field.2) :
      Plain (n + 1) (.object fields)
  | map {n : Nat} {entries : List (Graph × Graph)} (hkeys : ∀ entry ∈ entries, Plain n entry.1)
      (hvalues : ∀ entry ∈ entries, Plain n entry.2) : Plain (n + 3) (.map entries)

/-- Graphs whose objects have their fields in key order, one for each key. -/
inductive InOrder : Graph → Prop
  | undefined : InOrder .undefined
  | null : InOrder .null
  | bool (b : Bool) : InOrder (.bool b)
  | number (x : Binary64) : InOrder (.number x)
  | string (s : String) : InOrder (.string s)
  | array {items : List Graph} (h : ∀ g ∈ items, InOrder g) : InOrder (.array items)
  | object {fields : List (String × Graph)} (hordered : Assoc.Ordered fields)
      (h : ∀ field ∈ fields, InOrder field.2) : InOrder (.object fields)
  | map {entries : List (Graph × Graph)} (hkeys : ∀ entry ∈ entries, InOrder entry.1)
      (hvalues : ∀ entry ∈ entries, InOrder entry.2) : InOrder (.map entries)

/-- The objects of plain graphs are in key order. -/
lemma Plain.inOrder {n : Nat} {g : Graph} (hg : Plain n g) : InOrder g := by
  induction hg with
  | undefined => exact .undefined
  | null => exact .null
  | bool n b => exact .bool b
  | number n x => exact .number x
  | string n s => exact .string s
  | array h ih => exact .array ih
  | object hordered huntagged h ih => exact .object hordered ih
  | map hkeys hvalues ihkeys ihvalues => exact .map ihkeys ihvalues

/-! ## Trees of graphs -/

/-- The trees of list items, one by one. -/
lemma toTrees_eq_map (items : List Graph) : toTrees items = items.map toTree := by
  induction items with
  | nil => rfl
  | cons item rest ih => rw [toTrees, ih, List.map_cons]

/-- The trees of object fields, one by one. -/
lemma toTreeFields_eq_map (fields : List (String × Graph)) :
    toTreeFields fields = fields.map fun field => (field.1, field.2.toTree) := by
  induction fields with
  | nil => rfl
  | cons field rest ih => rw [toTreeFields, ih, List.map_cons]

/-- The trees of map entries, one by one. -/
lemma toTreePairs_eq_map (entries : List (Graph × Graph)) :
    toTreePairs entries = entries.map fun entry => .array [entry.1.toTree, entry.2.toTree] := by
  induction entries with
  | nil => rfl
  | cons entry rest ih => rw [toTreePairs, ih, List.map_cons]

/-- A number has a tag whose text names it, or it is finite and not `-0`. -/
lemma numberTree_cases (x : Binary64) :
    (∃ text, numberTree x = .object [("kind", .string "number"), ("text", .string text)] ∧
      Binary64.ofText? text = some x) ∨
    (numberTree x = .number x ∧ x ≠ .negativeZero ∧
      ∃ negative word, x = .finite negative word) := by
  cases x with
  | nan => exact .inl ⟨_, rfl, rfl⟩
  | infinity negative => cases negative <;> exact .inl ⟨_, rfl, rfl⟩
  | finite negative word =>
    by_cases hzero : Binary64.finite negative word = .negativeZero
    · rw [hzero]
      exact .inl ⟨_, rfl, rfl⟩
    · refine .inr ⟨?_, hzero, _, _, rfl⟩
      simp [numberTree, Binary64.specialText?, hzero]

/-- The tree of a graph in key order can be written. -/
lemma writable_toTree {g : Graph} (hg : InOrder g) : g.toTree.Writable := by
  induction hg with
  | undefined => exact .object (List.pairwise_singleton _ _) (by simpa using .string _)
  | null => exact .null
  | bool b => exact .bool b
  | number x =>
    rw [toTree]
    obtain ⟨text, htree, -⟩ | ⟨htree, hzero, negative, word, rfl⟩ := numberTree_cases x
    · rw [htree]
      have hkeys : compare "kind" "text" = .lt := by decide
      refine .object (List.pairwise_pair.2 hkeys) ?_
      simpa using ⟨.string _, .string _⟩
    · rw [htree]
      exact .number hzero
  | string s => exact .string s
  | array h ih =>
    rw [toTree, toTrees_eq_map]
    refine .array fun t ht => ?_
    obtain ⟨g, hg, rfl⟩ := List.mem_map.1 ht
    exact ih g hg
  | object hordered h ih =>
    rw [toTree, toTreeFields_eq_map]
    refine .object (List.pairwise_map.2 hordered) fun field hfield => ?_
    obtain ⟨field, hmem, rfl⟩ := List.mem_map.1 hfield
    exact ih field hmem
  | @map entries hkeys hvalues ihkeys ihvalues =>
    have hpairs : Json.Writable (.array (toTreePairs entries)) := by
      rw [toTreePairs_eq_map]
      refine .array fun t ht => ?_
      obtain ⟨entry, hmem, rfl⟩ := List.mem_map.1 ht
      exact .array (by simpa using ⟨ihkeys entry hmem, ihvalues entry hmem⟩)
    have htag : compare "entries" "kind" = .lt := by decide
    refine .object (List.pairwise_pair.2 htag) ?_
    simpa using ⟨hpairs, .string _⟩

/-- The tree of a plain graph is nested as deep as its index allows. -/
lemma depth_toTree_le {n : Nat} {g : Graph} (hg : Plain n g) : g.toTree.depth ≤ n := by
  induction hg with
  | undefined n => exact Nat.le_add_left 1 n
  | null => exact Nat.zero_le _
  | bool => exact Nat.zero_le _
  | number n x =>
    rw [toTree]
    obtain ⟨text, htree, -⟩ | ⟨htree, -⟩ := numberTree_cases x
    · rw [htree]
      exact Nat.le_add_left 1 n
    · rw [htree]
      exact Nat.zero_le _
  | string => exact Nat.zero_le _
  | array h ih =>
    rw [toTree, toTrees_eq_map, Json.depth]
    refine Nat.succ_le_succ (Json.depthItems_le_iff.2 fun t ht => ?_)
    obtain ⟨g, hg, rfl⟩ := List.mem_map.1 ht
    exact ih g hg
  | object hordered huntagged h ih =>
    rw [toTree, toTreeFields_eq_map, Json.depth]
    refine Nat.succ_le_succ (Json.depthFields_le_iff.2 fun field hfield => ?_)
    obtain ⟨field, hmem, rfl⟩ := List.mem_map.1 hfield
    exact ih field hmem
  | @map n entries hkeys hvalues ihkeys ihvalues =>
    have hpairs : Json.depthItems (toTreePairs entries) ≤ n + 1 := by
      rw [toTreePairs_eq_map]
      refine Json.depthItems_le_iff.2 fun t ht => ?_
      obtain ⟨entry, hmem, rfl⟩ := List.mem_map.1 ht
      rw [Json.depth]
      refine Nat.succ_le_succ (Json.depthItems_le_iff.2 ?_)
      simpa using ⟨ihkeys entry hmem, ihvalues entry hmem⟩
    rw [toTree, Json.depth]
    refine Nat.succ_le_succ (Json.depthFields_le_iff.2 ?_)
    simpa [Json.depth] using hpairs

/-! ## Graphs of trees -/

/-- The graphs of list items, one by one. -/
lemma ofTrees_eq_map (items : List Json) : ofTrees items = items.map ofTree := by
  induction items with
  | nil => rfl
  | cons item rest ih => rw [ofTrees, ih, List.map_cons]

/-- The graphs of object fields, one by one. -/
lemma ofTreeFields_eq_map (fields : List (String × Json)) :
    ofTreeFields fields = fields.map fun field => (field.1, ofTree field.2) := by
  induction fields with
  | nil => rfl
  | cons field rest ih => rw [ofTreeFields, ih, List.map_cons]

/-- A dialect passes over objects without its tag. -/
lemma Dialect.read?_of_not_mem (d : Dialect) {fields : List (String × Graph)}
    (h : d.tagKey ∉ fields.map (·.1)) : d.read? fields = none := by
  rw [Dialect.read?, Assoc.get?_eq_none_iff.2 h]

/-- An untagged object stays an object. -/
lemma revive_of_untagged {fields : List (String × Graph)} (h : Untagged fields) :
    revive fields = .object fields := by
  rw [revive, readTag?, Dialect.read?_of_not_mem _ h.1]
  dsimp only
  rw [Dialect.read?_of_not_mem _ h.2]

/-- Lists of two are read as pairs. -/
lemma pairs?_map (entries : List (Graph × Graph)) :
    pairs? (entries.map fun entry => .array [entry.1, entry.2]) = some entries := by
  induction entries with
  | nil => rfl
  | cons entry rest ih => rw [List.map_cons, pairs?, ih, Option.map_some]

/-- The tag of a map is read as the map. -/
lemma revive_mapTag (entries : List (Graph × Graph)) :
    revive [("entries", .array (entries.map fun entry => .array [entry.1, entry.2])),
      ("kind", .string "map")] = .map entries := by
  have hread : Dialect.current.read?
      [("entries", .array (entries.map fun entry => .array [entry.1, entry.2])),
        ("kind", .string "map")] =
        (pairs? (entries.map fun entry => .array [entry.1, entry.2])).map .map := rfl
  rw [revive, readTag?, hread, pairs?_map, Option.map_some]

/-- The tag of a number is read as the number. -/
lemma revive_numberTag {text : String} {x : Binary64} (h : Binary64.ofText? text = some x) :
    revive [("kind", .string "number"), ("text", .string text)] = .number x := by
  have hread : Dialect.current.read? [("kind", .string "number"), ("text", .string text)] =
      (Binary64.ofText? text).map .number := rfl
  rw [revive, readTag?, hread, h, Option.map_some]

/-- A plain graph is what its tree denotes. -/
theorem ofTree_toTree {n : Nat} {g : Graph} (hg : Plain n g) : ofTree g.toTree = g := by
  induction hg with
  | undefined => rfl
  | null => rfl
  | bool => rfl
  | number n x =>
    rw [toTree]
    obtain ⟨text, htree, htext⟩ | ⟨htree, -⟩ := numberTree_cases x
    · rw [htree]
      exact revive_numberTag htext
    · rw [htree, ofTree]
  | string => rfl
  | @array n items h ih =>
    have hitems : (items.map toTree).map ofTree = items := by
      rw [List.map_map]
      exact (List.map_congr_left ih).trans (List.map_id items)
    rw [toTree, ofTree, ofTrees_eq_map, toTrees_eq_map, hitems]
  | @object n fields hordered huntagged h ih =>
    have hfields : (fields.map fun field => (field.1, field.2.toTree)).map
        (fun field => (field.1, ofTree field.2)) = fields := by
      rw [List.map_map]
      refine (List.map_congr_left fun field hmem => ?_).trans (List.map_id fields)
      exact congrArg (Prod.mk field.1) (ih field hmem)
    rw [toTree, ofTree, ofTreeFields_eq_map, toTreeFields_eq_map, hfields,
      revive_of_untagged huntagged]
  | @map n entries hkeys hvalues ihkeys ihvalues =>
    have hpairs : ofTrees (toTreePairs entries) =
        entries.map fun entry => .array [entry.1, entry.2] := by
      rw [ofTrees_eq_map, toTreePairs_eq_map, List.map_map]
      refine List.map_congr_left fun entry hmem => ?_
      change Graph.array [ofTree entry.1.toTree, ofTree entry.2.toTree] = _
      rw [ihkeys entry hmem, ihvalues entry hmem]
    change revive [("entries", .array (ofTrees (toTreePairs entries))), ("kind", .string "map")] = _
    rw [hpairs, revive_mapTag]

/-- The text of a plain graph that is not nested too deeply is read as the graph. -/
theorem decode_encode {g : Graph} (hg : Plain Json.maxDepth g) : decode g.encode = .ok g := by
  rw [decode, encode, Json.parse_render (writable_toTree hg.inOrder) (depth_toTree_le hg)]
  dsimp only
  rw [ofTree_toTree hg]

end SessionVault.Graph
