import SessionVault.Proofs.Graph.Ambiguity
/-!
# Trees with tags of either dialect

The older dialect tags by other fields and spells its tags otherwise, and it is tried where the
current one finds nothing.  `WrittenAs g t` says that `t` is a tree of `g` in which each tag is of
one of the dialects, chosen anew at every tag; `toTreeIn` keeps to one dialect throughout.  All
these trees denote the same graph, provided no object inside it reads as a tag:
`WrittenAs.ofTree_eq`.
-/

namespace SessionVault.Graph

/-! ## Tags of a dialect -/

/-- The dialects that are read. -/
inductive Dialect.Known : Dialect → Prop
  | current : Known .current
  | older : Known .older

/-- A tagged object of a dialect, with its fields in key order. -/
def Dialect.tagged (d : Dialect) (tag : String) (content : List (String × Json)) : Json :=
  .object (Assoc.ofList ((d.tagKey, .string tag) :: content))

/-- The tag of a number that JSON cannot hold. -/
def Dialect.numberTree (d : Dialect) (text : String) : Json :=
  d.tagged d.numberTag [(d.numberKey, .string text)]

/-- The tag of a map whose keys and values have the given trees. -/
def Dialect.mapTree (d : Dialect) (entries : List (Json × Json)) : Json :=
  d.tagged d.mapTag [(d.mapKey, .array (entries.map fun entry => .array [entry.1, entry.2]))]

/-- The tag of a number in the current dialect. -/
lemma Dialect.numberTree_current (text : String) :
    Dialect.current.numberTree text =
      .object [("kind", .string "number"), ("text", .string text)] := by
  have hkeys : compare "text" "kind" = .gt := by decide
  simp [numberTree, tagged, Assoc.ofList, Assoc.insert, current, hkeys]

/-- The tag of a number in the older dialect. -/
lemma Dialect.numberTree_older (text : String) :
    Dialect.older.numberTree text =
      .object [("dataType", .string "Number"), ("value", .string text)] := by
  have hkeys : compare "value" "dataType" = .gt := by decide
  simp [numberTree, tagged, Assoc.ofList, Assoc.insert, older, hkeys]

/-- The tag of a map in the current dialect. -/
lemma Dialect.mapTree_current (entries : List (Json × Json)) :
    Dialect.current.mapTree entries =
      .object [("entries", .array (entries.map fun entry => .array [entry.1, entry.2])),
        ("kind", .string "map")] := by
  have hkeys : compare "entries" "kind" = .lt := by decide
  simp [mapTree, tagged, Assoc.ofList, Assoc.insert, current, hkeys]

/-- The tag of a map in the older dialect. -/
lemma Dialect.mapTree_older (entries : List (Json × Json)) :
    Dialect.older.mapTree entries =
      .object [("dataType", .string "Map"),
        ("value", .array (entries.map fun entry => .array [entry.1, entry.2]))] := by
  have hkeys : compare "value" "dataType" = .gt := by decide
  simp [mapTree, tagged, Assoc.ofList, Assoc.insert, older, hkeys]

/-- An object in which the current dialect finds nothing is read in the older one. -/
lemma revive_of_older {fields : List (String × Graph)} {g : Graph}
    (hcurrent : Dialect.current.read? fields = none)
    (holder : Dialect.older.read? fields = some g) : revive fields = g := by
  rw [revive, readTag?, hcurrent]
  dsimp only
  rw [holder]

/-- The older tag of a number is read as the number. -/
lemma revive_olderNumberTag {text : String} {x : Binary64} (h : Binary64.ofText? text = some x) :
    revive [("dataType", .string "Number"), ("value", .string text)] = .number x := by
  have hread : Dialect.older.read? [("dataType", .string "Number"), ("value", .string text)] =
      (Binary64.ofText? text).map .number := rfl
  refine revive_of_older rfl ?_
  rw [hread, h, Option.map_some]

/-- The older tag of a map is read as the map. -/
lemma revive_olderMapTag (entries : List (Graph × Graph)) :
    revive [("dataType", .string "Map"),
      ("value", .array (entries.map fun entry => .array [entry.1, entry.2]))] = .map entries := by
  have hread : Dialect.older.read? [("dataType", .string "Map"),
      ("value", .array (entries.map fun entry => .array [entry.1, entry.2]))] =
        (pairs? (entries.map fun entry => .array [entry.1, entry.2])).map .map := rfl
  refine revive_of_older rfl ?_
  rw [hread, pairs?_map, Option.map_some]

section Known

variable {d : Dialect}

/-- The tag of `undefined` is read in either dialect. -/
lemma Dialect.Known.ofTree_undefinedTag (hd : d.Known) :
    ofTree (d.tagged "undefined" []) = .undefined := by
  cases hd <;> rfl

/-- The tag of a number is read in either dialect. -/
lemma Dialect.Known.ofTree_numberTree (hd : d.Known) {text : String} {x : Binary64}
    (h : Binary64.ofText? text = some x) : ofTree (d.numberTree text) = .number x := by
  cases hd with
  | current =>
    rw [numberTree_current]
    exact revive_numberTag h
  | older =>
    rw [numberTree_older]
    exact revive_olderNumberTag h

/-- The tag of a map is read in either dialect. -/
lemma Dialect.Known.ofTree_mapTree (hd : d.Known) (entries : List (Json × Json)) :
    ofTree (d.mapTree entries) =
      .map (entries.map fun entry => (ofTree entry.1, ofTree entry.2)) := by
  have hpairs : ofTree (.array (entries.map fun entry => .array [entry.1, entry.2])) =
      .array ((entries.map fun entry => (ofTree entry.1, ofTree entry.2)).map
        fun entry => .array [entry.1, entry.2]) := by
    rw [ofTree, ofTrees_eq_map, List.map_map, List.map_map]
    rfl
  cases hd with
  | current =>
    rw [mapTree_current, ofTree, ofTreeFields, ofTreeFields, ofTreeFields, hpairs]
    exact revive_mapTag _
  | older =>
    rw [mapTree_older, ofTree, ofTreeFields, ofTreeFields, ofTreeFields, hpairs]
    exact revive_olderMapTag _

end Known

/-! ## Trees of a graph -/

/-- The trees of a graph in which each tag is of a dialect that is read. -/
inductive WrittenAs : Graph → Json → Prop
  | undefined {d : Dialect} (hd : d.Known) : WrittenAs .undefined (d.tagged "undefined" [])
  | null : WrittenAs .null .null
  | bool (b : Bool) : WrittenAs (.bool b) (.bool b)
  | number {x : Binary64} (hx : x.specialText? = none) : WrittenAs (.number x) (.number x)
  | special {d : Dialect} (hd : d.Known) {x : Binary64} {text : String}
      (hx : x.specialText? = some text) : WrittenAs (.number x) (d.numberTree text)
  | string (s : String) : WrittenAs (.string s) (.string s)
  | array {parts : List (Graph × Json)} (h : ∀ part ∈ parts, WrittenAs part.1 part.2) :
      WrittenAs (.array (parts.map (·.1))) (.array (parts.map (·.2)))
  | object {parts : List (String × Graph × Json)}
      (h : ∀ part ∈ parts, WrittenAs part.2.1 part.2.2) :
      WrittenAs (.object (parts.map fun part => (part.1, part.2.1)))
        (.object (parts.map fun part => (part.1, part.2.2)))
  | map {d : Dialect} (hd : d.Known) {parts : List ((Graph × Json) × (Graph × Json))}
      (hkeys : ∀ part ∈ parts, WrittenAs part.1.1 part.1.2)
      (hvalues : ∀ part ∈ parts, WrittenAs part.2.1 part.2.2) :
      WrittenAs (.map (parts.map fun part => (part.1.1, part.2.1)))
        (d.mapTree (parts.map fun part => (part.1.2, part.2.2)))

mutual

/-- The tree of a graph with all tags in one dialect. -/
def toTreeIn (d : Dialect) : Graph → Json
  | .undefined => d.tagged "undefined" []
  | .null => .null
  | .bool b => .bool b
  | .number x =>
    match x.specialText? with
    | some text => d.numberTree text
    | none => .number x
  | .string s => .string s
  | .array items => .array (toTreesIn d items)
  | .object fields => .object (toTreeFieldsIn d fields)
  | .map entries => d.mapTree (toTreePairsIn d entries)

/-- The trees of list items in one dialect. -/
def toTreesIn (d : Dialect) : List Graph → List Json
  | [] => []
  | item :: rest => toTreeIn d item :: toTreesIn d rest

/-- The trees of object fields in one dialect. -/
def toTreeFieldsIn (d : Dialect) : List (String × Graph) → List (String × Json)
  | [] => []
  | (key, item) :: rest => (key, toTreeIn d item) :: toTreeFieldsIn d rest

/-- The trees of the keys and the values of a map in one dialect. -/
def toTreePairsIn (d : Dialect) : List (Graph × Graph) → List (Json × Json)
  | [] => []
  | (key, value) :: rest => (toTreeIn d key, toTreeIn d value) :: toTreePairsIn d rest

end

/-- The trees of list items, one by one. -/
lemma toTreesIn_eq_map (d : Dialect) (items : List Graph) :
    toTreesIn d items = items.map (toTreeIn d) := by
  induction items with
  | nil => rfl
  | cons item rest ih => rw [toTreesIn, ih, List.map_cons]

/-- The trees of object fields, one by one. -/
lemma toTreeFieldsIn_eq_map (d : Dialect) (fields : List (String × Graph)) :
    toTreeFieldsIn d fields = fields.map fun field => (field.1, toTreeIn d field.2) := by
  induction fields with
  | nil => rfl
  | cons field rest ih => rw [toTreeFieldsIn, ih, List.map_cons]

/-- The trees of map entries, one by one. -/
lemma toTreePairsIn_eq_map (d : Dialect) (entries : List (Graph × Graph)) :
    toTreePairsIn d entries =
      entries.map fun entry => (toTreeIn d entry.1, toTreeIn d entry.2) := by
  induction entries with
  | nil => rfl
  | cons entry rest ih => rw [toTreePairsIn, ih, List.map_cons]

/-- The tree that is written has its tags in the current dialect. -/
theorem toTreeIn_current (g : Graph) : toTreeIn .current g = g.toTree := by
  induction g using inductionOn with
  | undefined => rfl
  | null => rfl
  | bool b => rfl
  | number x =>
    rw [toTreeIn, toTree, numberTree]
    cases x.specialText? with
    | none => rfl
    | some text => exact Dialect.numberTree_current text
  | string s => rfl
  | array items ih =>
    rw [toTreeIn, toTree, toTreesIn_eq_map, toTrees_eq_map, List.map_congr_left ih]
  | object fields ih =>
    have hfields : ∀ field ∈ fields,
        (field.1, toTreeIn .current field.2) = (field.1, field.2.toTree) := by
      intro field hfield
      rw [ih field hfield]
    rw [toTreeIn, toTree, toTreeFieldsIn_eq_map, toTreeFields_eq_map, List.map_congr_left hfields]
  | map entries ihkeys ihvalues =>
    rw [toTreeIn, toTree, toTreePairsIn_eq_map, toTreePairs_eq_map, Dialect.mapTree_current,
      List.map_map]
    have hpairs : ∀ entry ∈ entries,
        Json.array [toTreeIn .current entry.1, toTreeIn .current entry.2] =
          .array [entry.1.toTree, entry.2.toTree] := by
      intro entry hentry
      rw [ihkeys entry hentry, ihvalues entry hentry]
    rw [← List.map_congr_left hpairs]
    rfl

/-- A tree in one dialect is among the trees of a graph. -/
theorem writtenAs_toTreeIn {d : Dialect} (hd : d.Known) (g : Graph) :
    WrittenAs g (toTreeIn d g) := by
  induction g using inductionOn with
  | undefined => exact .undefined hd
  | null => exact .null
  | bool b => exact .bool b
  | number x =>
    rw [toTreeIn]
    split
    · next text htext => exact .special hd htext
    · next hplain => exact .number hplain
  | string s => exact .string s
  | array items ih =>
    have hwritten : WrittenAs (.array ((items.map fun item =>
        (item, toTreeIn d item)).map (·.1))) _ :=
      .array (List.forall_mem_map.2 ih)
    simpa only [toTreeIn, toTreesIn_eq_map, List.map_map, Function.comp_def, List.map_id'] using
      hwritten
  | object fields ih =>
    have hwritten : WrittenAs (.object ((fields.map fun field =>
        (field.1, field.2, toTreeIn d field.2)).map fun part => (part.1, part.2.1))) _ :=
      .object (List.forall_mem_map.2 ih)
    simpa only [toTreeIn, toTreeFieldsIn_eq_map, List.map_map, Function.comp_def, List.map_id']
      using hwritten
  | map entries ihkeys ihvalues =>
    have hwritten : WrittenAs (.map ((entries.map fun entry =>
        ((entry.1, toTreeIn d entry.1), (entry.2, toTreeIn d entry.2))).map
          fun part => (part.1.1, part.2.1))) _ :=
      .map hd (List.forall_mem_map.2 ihkeys) (List.forall_mem_map.2 ihvalues)
    simpa only [toTreeIn, toTreePairsIn_eq_map, List.map_map, Function.comp_def, List.map_id']
      using hwritten

/-- The text of a special number names the number. -/
lemma ofText?_of_specialText? {x : Binary64} {text : String} (h : x.specialText? = some text) :
    Binary64.ofText? text = some x := by
  obtain ⟨other, htree, htext⟩ | ⟨htree, -⟩ := numberTree_cases x
  · rw [numberTree, h] at htree
    simp only [Json.object.injEq, List.cons.injEq, Prod.mk.injEq, Json.string.injEq, true_and,
      and_true] at htree
    rwa [htree]
  · rw [numberTree, h] at htree
    cases htree

/-- Every tree of a graph denotes the graph, whatever the dialects of its tags, if no object inside
the graph reads as a tag. -/
theorem WrittenAs.ofTree_eq {g : Graph} {t : Json} (h : WrittenAs g t)
    (hclean : ∀ fields, Inside (.object fields) g → ¬ ReadsAsTag fields) : ofTree t = g := by
  induction h with
  | undefined hd => exact hd.ofTree_undefinedTag
  | null => rfl
  | bool b => rfl
  | number hx => rfl
  | special hd hx => exact hd.ofTree_numberTree (ofText?_of_specialText? hx)
  | string s => rfl
  | @array parts h ih =>
    have hitems : ∀ part ∈ parts, ofTree part.2 = part.1 := by
      intro part hpart
      apply ih part hpart
      intro fields hfields
      exact hclean fields (.item (List.mem_map_of_mem hpart) hfields)
    rw [ofTree, ofTrees_eq_map, List.map_map]
    exact congrArg Graph.array (List.map_congr_left hitems)
  | @object parts h ih =>
    have hparts : ∀ part ∈ parts, (part.1, ofTree part.2.2) = (part.1, part.2.1) := by
      intro part hpart
      apply congrArg (Prod.mk part.1)
      apply ih part hpart
      intro fields hfields
      exact hclean fields (.field (List.mem_map_of_mem hpart) hfields)
    have hfields : ofTreeFields (parts.map fun part => (part.1, part.2.2)) =
        parts.map fun part => (part.1, part.2.1) := by
      rw [ofTreeFields_eq_map, List.map_map]
      exact List.map_congr_left hparts
    -- its fields have come back, and they do not read as a tag
    rw [ofTree, hfields, revive, readTag?_eq_none_iff.2 (hclean _ .self)]
  | @map d hd parts hkeys hvalues ihkeys ihvalues =>
    have hentries : ∀ part ∈ parts,
        (ofTree part.1.2, ofTree part.2.2) = (part.1.1, part.2.1) := by
      intro part hpart
      apply Prod.ext
      · apply ihkeys part hpart
        intro fields hfields
        exact hclean fields (.key (List.mem_map_of_mem hpart) hfields)
      · apply ihvalues part hpart
        intro fields hfields
        exact hclean fields (.value (List.mem_map_of_mem hpart) hfields)
    rw [hd.ofTree_mapTree, List.map_map]
    exact congrArg Graph.map (List.map_congr_left hentries)

end SessionVault.Graph
