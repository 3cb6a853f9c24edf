import SessionVault.Proofs.Graph.Ambiguity
import SessionVault.Proofs.Json.Indented
/-!
# How deeply a graph may be nested

Writing puts no limit on nesting, and reading allows lists and objects to be nested 127 deep.  What
counts are the levels of the tree: an entry of a map stands three levels below the map, and a tag
without content is a level of its own (`depth_toTree`).  Up to that depth the text of a graph, on
one line or on indented lines, is read as what its tree denotes, and beyond it reading stops for
depth and for nothing else: `decode_texts`.
-/

namespace SessionVault.Graph

/-! ## Levels -/

mutual

/-- The levels of lists and objects in the tree of a graph, counted on the graph. -/
def nesting : Graph → Nat
  | .undefined => 1
  | .number x => if x.specialText?.isSome then 1 else 0
  | .array items => nestingItems items + 1
  | .object fields => nestingFields fields + 1
  | .map [] => 2
  | .map (entry :: rest) => nestingEntries (entry :: rest) + 3
  | _ => 0

/-- The most levels among the items of a list. -/
def nestingItems : List Graph → Nat
  | [] => 0
  | item :: rest => max (nesting item) (nestingItems rest)

/-- The most levels among the fields of an object. -/
def nestingFields : List (String × Graph) → Nat
  | [] => 0
  | (_, value) :: rest => max (nesting value) (nestingFields rest)

/-- The most levels among the keys and the values of a map. -/
def nestingEntries : List (Graph × Graph) → Nat
  | [] => 0
  | (key, value) :: rest => max (max (nesting key) (nesting value)) (nestingEntries rest)

end

/-- The tree of a number is a tag or a scalar. -/
lemma depth_numberTree (x : Binary64) : (numberTree x).depth = nesting (.number x) := by
  rw [numberTree, nesting]
  cases x.specialText? <;> rfl

/-- Pairs of keys and values stand one level above these. -/
lemma depthItems_toTreePairs {entries : List (Graph × Graph)} (hne : entries ≠ [])
    (hkeys : ∀ entry ∈ entries, entry.1.toTree.depth = entry.1.nesting)
    (hvalues : ∀ entry ∈ entries, entry.2.toTree.depth = entry.2.nesting) :
    Json.depthItems (toTreePairs entries) = nestingEntries entries + 1 := by
  induction entries with
  | nil => exact absurd rfl hne
  | cons entry rest ih =>
    obtain ⟨key, value⟩ := entry
    have hkey := hkeys (key, value) List.mem_cons_self
    have hvalue := hvalues (key, value) List.mem_cons_self
    have hpair : (Json.array [key.toTree, value.toTree]).depth =
        max key.nesting value.nesting + 1 := by
      simp [Json.depth, Json.depthItems, hkey, hvalue]
    rw [toTreePairs, Json.depthItems, hpair, nestingEntries]
    by_cases hrest : rest = []
    · subst hrest
      simp [toTreePairs, Json.depthItems, nestingEntries]
    · have hdepth : Json.depthItems (toTreePairs rest) = nestingEntries rest + 1 := by
        apply ih hrest
        · intro entry hentry
          exact hkeys entry (List.mem_cons_of_mem _ hentry)
        · intro entry hentry
          exact hvalues entry (List.mem_cons_of_mem _ hentry)
      omega

/-- The levels of a graph are those of its tree. -/
theorem depth_toTree (g : Graph) : g.toTree.depth = g.nesting := by
  induction g using inductionOn with
  | undefined => rfl
  | null => rfl
  | bool b => rfl
  | number x => exact depth_numberTree x
  | string s => rfl
  | array items ih =>
    rw [toTree, Json.depth, nesting]
    congr 1
    induction items with
    | nil => rfl
    | cons item rest ihrest =>
      have hrest : ∀ item ∈ rest, item.toTree.depth = item.nesting := by
        intro item hitem
        exact ih item (List.mem_cons_of_mem _ hitem)
      rw [toTrees, Json.depthItems, nestingItems, ih item List.mem_cons_self, ihrest hrest]
  | object fields ih =>
    rw [toTree, Json.depth, nesting]
    congr 1
    induction fields with
    | nil => rfl
    | cons field rest ihrest =>
      have hrest : ∀ field ∈ rest, field.2.toTree.depth = field.2.nesting := by
        intro field hfield
        exact ih field (List.mem_cons_of_mem _ hfield)
      rw [toTreeFields, Json.depthFields, nestingFields, ih field List.mem_cons_self, ihrest hrest]
  | map entries ihkeys ihvalues =>
    cases entries with
    | nil => rfl
    | cons entry rest =>
      have hpairs := depthItems_toTreePairs (List.cons_ne_nil entry rest) ihkeys ihvalues
      rw [toTree, nesting]
      simp only [Json.depth, Json.depthFields, hpairs]
      omega

/-! ## Texts -/

/-- A graph in key order is read from its texts, on one line or on indented lines, as what its tree
denotes, if that tree is nested at most 127 deep; if it is nested more deeply, both texts are
refused because of that.  The levels of the tree are those of the graph: three for a map with
entries, one for `undefined` or a number that JSON cannot hold. -/
theorem decode_texts {g : Graph} (hg : g.InOrder) :
    g.toTree.depth = g.nesting ∧
    (g.toTree.depth ≤ 127 →
      decode g.encode = .ok (ofTree g.toTree) ∧ decode g.encodePretty = .ok (ofTree g.toTree)) ∧
    (128 ≤ g.toTree.depth →
      (∃ line column, decode g.encode = .error ⟨.tooDeep, line, column⟩) ∧
        ∃ line column, decode g.encodePretty = .error ⟨.tooDeep, line, column⟩) := by
  have hline := Json.spells_render (writable_toTree hg)
  have hlines := Json.spells_renderPretty (writable_toTree hg) 0
  refine ⟨depth_toTree g, ?_, ?_⟩
  · intro hdepth
    constructor
    · rw [decode, encode, hline.parse_eq hdepth]
    · rw [decode, encodePretty, hlines.parse_eq hdepth]
  · intro hdepth
    obtain ⟨line, column, hparse⟩ := hline.exists_parse_error hdepth
    obtain ⟨line', column', hparse'⟩ := hlines.exists_parse_error hdepth
    refine ⟨⟨line, column, ?_⟩, line', column', ?_⟩
    · rw [decode, encode, hparse]
    · rw [decode, encodePretty, hparse']

/-- A map in a map, and so on, with a key that needs escapes. -/
def nestedMaps : Nat → Graph
  | 0 => .number .nan
  | n + 1 => .map [(.string "a \"key\"\n", nestedMaps n)]

/-- Nested maps are in key order, having no objects. -/
lemma inOrder_nestedMaps (n : Nat) : (nestedMaps n).InOrder := by
  induction n with
  | zero => exact .number _
  | succ n ih =>
    apply InOrder.map
    · simpa using .string _
    · simpa using ih

/-- Every nested map adds three levels. -/
lemma nesting_nestedMaps (n : Nat) : (nestedMaps n).nesting = 3 * n + 1 := by
  induction n with
  | zero => rfl
  | succ n ih =>
    have hkey : nesting (.string "a \"key\"\n") = 0 := rfl
    rw [nestedMaps, nesting, nestingEntries, nestingEntries, hkey, ih]
    omega

/-- Maps nested 42 deep are read back, and with one more they are refused. -/
theorem decode_texts_nestedMaps :
    ((nestedMaps 42).InOrder ∧ (nestedMaps 42).toTree.depth ≤ 127 ∧
      decode (nestedMaps 42).encode = .ok (ofTree (nestedMaps 42).toTree) ∧
      decode (nestedMaps 42).encodePretty = .ok (ofTree (nestedMaps 42).toTree)) ∧
    (nestedMaps 43).InOrder ∧ 128 ≤ (nestedMaps 43).toTree.depth ∧
      (∃ line column, decode (nestedMaps 43).encode = .error ⟨.tooDeep, line, column⟩) ∧
      ∃ line column, decode (nestedMaps 43).encodePretty = .error ⟨.tooDeep, line, column⟩ := by
  have hshallow : (nestedMaps 42).toTree.depth ≤ 127 := by
    rw [depth_toTree, nesting_nestedMaps]
  have hdeep : 128 ≤ (nestedMaps 43).toTree.depth := by
    rw [depth_toTree, nesting_nestedMaps]
    decide
  exact ⟨⟨inOrder_nestedMaps 42, hshallow, (decode_texts (inOrder_nestedMaps 42)).2.1 hshallow⟩,
    inOrder_nestedMaps 43, hdeep, (decode_texts (inOrder_nestedMaps 43)).2.2 hdeep⟩

end SessionVault.Graph
