import Mathlib.Algebra.Order.BigOperators.Group.List
import SessionVault.Proofs.Graph.Tagged
/-!
# Which graphs their trees keep

Writing tags what JSON cannot hold, and reading takes every object that looks like a tag for one.
So a graph comes back exactly if none of its objects looks like a tag: `same_ofTree_toTree_iff`.

One direction is an induction over the graph.  For the other the objects of a graph are counted.
Being the same keeps the number of objects, whatever the order of map entries, and reading back
never adds an object; an object that is taken for a tag is lost, and nothing elsewhere can make up
for it.
-/

namespace SessionVault.Graph

/-! ## Graphs inside graphs -/

/-- Induction over a graph: what holds of the parts holds of the whole. -/
@[elab_as_elim]
theorem inductionOn {motive : Graph → Prop} (g : Graph) (undefined : motive .undefined)
    (null : motive .null) (bool : ∀ b, motive (.bool b)) (number : ∀ x, motive (.number x))
    (string : ∀ s, motive (.string s))
    (array : ∀ items, (∀ item ∈ items, motive item) → motive (.array items))
    (object : ∀ fields, (∀ field ∈ fields, motive field.2) → motive (.object fields))
    (map : ∀ entries, (∀ entry ∈ entries, motive entry.1) → (∀ entry ∈ entries, motive entry.2) →
      motive (.map entries)) : motive g := by
  have hsize : ∀ n (g : Graph), sizeOf g < n → motive g := by
    intro n
    induction n with
    | zero => exact fun g hg => absurd hg (Nat.not_lt_zero _)
    | succ n ih =>
      intro g hg
      cases g with
      | undefined => exact undefined
      | null => exact null
      | bool b => exact bool b
      | number x => exact number x
      | string s => exact string s
      | array items =>
        refine array items fun item hitem => ih item ?_
        have hlt := List.sizeOf_lt_of_mem hitem
        simp only [Graph.array.sizeOf_spec] at hg
        omega
      | object fields =>
        refine object fields fun field hfield => ih field.2 ?_
        have hlt := List.sizeOf_lt_of_mem hfield
        obtain ⟨key, value⟩ := field
        simp only [Graph.object.sizeOf_spec, Prod.mk.sizeOf_spec] at hg hlt ⊢
        omega
      | map entries =>
        refine map entries (fun entry hentry => ih entry.1 ?_) fun entry hentry => ih entry.2 ?_
        all_goals
          have hlt := List.sizeOf_lt_of_mem hentry
          obtain ⟨key, value⟩ := entry
          simp only [Graph.map.sizeOf_spec, Prod.mk.sizeOf_spec] at hg hlt ⊢
          omega
  exact hsize _ g (Nat.lt_succ_self _)

/-- A graph stands inside another: it is the other or inside one of its parts, keys of maps
included. -/
inductive Inside (g : Graph) : Graph → Prop
  | self : Inside g g
  | item {item : Graph} {items : List Graph} (hitem : item ∈ items) (h : Inside g item) :
      Inside g (.array items)
  | field {field : String × Graph} {fields : List (String × Graph)} (hfield : field ∈ fields)
      (h : Inside g field.2) : Inside g (.object fields)
  | key {entry : Graph × Graph} {entries : List (Graph × Graph)} (hentry : entry ∈ entries)
      (h : Inside g entry.1) : Inside g (.map entries)
  | value {entry : Graph × Graph} {entries : List (Graph × Graph)} (hentry : entry ∈ entries)
      (h : Inside g entry.2) : Inside g (.map entries)

/-! ## Objects that read as tags -/

/-- The fields of an object read as a tag of a dialect: the tag says `undefined`, or it says number
and the content names one, or it says map and the content is a list of lists of two. -/
inductive Dialect.Tags (d : Dialect) (fields : List (String × Graph)) : Prop
  | undefined (htag : Assoc.get? d.tagKey fields = some (.string "undefined"))
  | number {text : String} {x : Binary64}
      (htag : Assoc.get? d.tagKey fields = some (.string d.numberTag))
      (htext : Assoc.get? d.numberKey fields = some (.string text))
      (hnumber : Binary64.ofText? text = some x)
  | map {items : List Graph} (htag : Assoc.get? d.tagKey fields = some (.string d.mapTag))
      (hitems : Assoc.get? d.mapKey fields = some (.array items))
      (hpairs : ∀ item ∈ items, ∃ key value, item = .array [key, value])

/-- The fields of an object read as a tag of one of the dialects. -/
def ReadsAsTag (fields : List (String × Graph)) : Prop :=
  Dialect.current.Tags fields ∨ Dialect.older.Tags fields

/-- A list consists of pairs exactly if all of its items are lists of two. -/
lemma isSome_pairs?_iff {items : List Graph} :
    (pairs? items).isSome ↔ ∀ item ∈ items, ∃ key value, item = .array [key, value] := by
  fun_induction pairs? items with
  | case1 => simp
  | case2 key value rest ih => simp [ih]
  | case3 item rest hitem =>
    simp only [Option.isSome_none, Bool.false_eq_true, List.mem_cons, forall_eq_or_imp, false_iff,
      not_and]
    rintro ⟨key, value, rfl⟩
    exact absurd rfl (hitem key value)

/-- A dialect whose tags differ from each other reads exactly what reads as its tag. -/
lemma Dialect.isSome_read?_iff {d : Dialect} (hnumber : d.numberTag ≠ "undefined")
    (hmap : d.mapTag ≠ "undefined") (hdistinct : d.mapTag ≠ d.numberTag)
    {fields : List (String × Graph)} : (d.read? fields).isSome ↔ d.Tags fields := by
  constructor
  · intro h
    unfold read? at h
    split at h
    · next tag htag =>
      split_ifs at h with hundefined hnumberTag hmapTag
      · exact .undefined (hundefined ▸ htag)
      · split at h
        · next text htext =>
          obtain ⟨g, hg⟩ := Option.isSome_iff_exists.1 h
          obtain ⟨x, hx, -⟩ := Option.map_eq_some_iff.1 hg
          exact .number (hnumberTag ▸ htag) htext hx
        · cases h
      · split at h
        · next items hitems =>
          rw [Option.isSome_map] at h
          exact .map (hmapTag ▸ htag) hitems (isSome_pairs?_iff.1 h)
        · cases h
      · cases h
    · cases h
  · rintro (htag | ⟨htag, htext, hx⟩ | ⟨htag, hitems, hpairs⟩)
    · rw [read?, htag]
      simp
    · rw [read?, htag]
      simp [hnumber, htext, hx]
    · rw [read?, htag]
      simp [hmap, hdistinct, hitems, isSome_pairs?_iff.2 hpairs]

/-- Reading finds a tag exactly where there is one. -/
lemma readTag?_eq_none_iff {fields : List (String × Graph)} :
    readTag? fields = none ↔ ¬ ReadsAsTag fields := by
  have hcurrent := @Dialect.isSome_read?_iff .current (by decide) (by decide) (by decide) fields
  have holder := @Dialect.isSome_read?_iff .older (by decide) (by decide) (by decide) fields
  rw [ReadsAsTag, ← hcurrent, ← holder, readTag?]
  cases Dialect.current.read? fields <;> simp

/-- A tag denotes `undefined`, a number, or a map whose pairs are the items of a field. -/
lemma Dialect.value_of_read? {d : Dialect} {fields : List (String × Graph)} {g : Graph}
    (h : d.read? fields = some g) :
    g = .undefined ∨ (∃ x, g = .number x) ∨
      ∃ items entries, Assoc.get? d.mapKey fields = some (.array items) ∧
        pairs? items = some entries ∧ g = .map entries := by
  unfold read? at h
  split at h
  · split_ifs at h with hundefined hnumber hmap
    · exact .inl (Option.some.inj h).symm
    · split at h
      · obtain ⟨x, -, rfl⟩ := Option.map_eq_some_iff.1 h
        exact .inr (.inl ⟨x, rfl⟩)
      · cases h
    · split at h
      · next items hitems =>
        obtain ⟨entries, hentries, rfl⟩ := Option.map_eq_some_iff.1 h
        exact .inr (.inr ⟨items, entries, hitems, hentries, rfl⟩)
      · cases h
  · cases h

/-- The value of a tag, whatever its dialect. -/
lemma value_of_readTag? {fields : List (String × Graph)} {g : Graph}
    (h : readTag? fields = some g) :
    g = .undefined ∨ (∃ x, g = .number x) ∨
      ∃ key items entries, Assoc.get? key fields = some (.array items) ∧
        pairs? items = some entries ∧ g = .map entries := by
  have hread : ∃ d : Dialect, d.read? fields = some g := by
    unfold readTag? at h
    split at h
    · next found hfound =>
      obtain rfl := Option.some.inj h
      exact ⟨.current, hfound⟩
    · exact ⟨.older, h⟩
  obtain ⟨d, hd⟩ := hread
  obtain h | h | ⟨items, entries, hitems, hentries, rfl⟩ := Dialect.value_of_read? hd
  · exact .inl h
  · exact .inr (.inl h)
  · exact .inr (.inr ⟨d.mapKey, items, entries, hitems, hentries, rfl⟩)

/-! ## What comes back -/

/-- The parts of a list come back one by one. -/
lemma ofTree_toTree_array (items : List Graph) :
    ofTree (toTree (.array items)) = .array (items.map fun item => ofTree item.toTree) := by
  rw [toTree, ofTree, ofTrees_eq_map, toTrees_eq_map, List.map_map]
  rfl

/-- The fields that come back in place of an object's. -/
def fieldsBack (fields : List (String × Graph)) : List (String × Graph) :=
  fields.map fun field => (field.1, ofTree field.2.toTree)

/-- The fields of an object come back one by one, and may then read as a tag. -/
lemma ofTree_toTree_object (fields : List (String × Graph)) :
    ofTree (toTree (.object fields)) = revive (fieldsBack fields) := by
  rw [toTree, ofTree, ofTreeFields_eq_map, toTreeFields_eq_map, List.map_map]
  rfl

/-- The entries of a map come back one by one. -/
lemma ofTree_toTree_map (entries : List (Graph × Graph)) :
    ofTree (toTree (.map entries)) =
      .map (entries.map fun entry => (ofTree entry.1.toTree, ofTree entry.2.toTree)) := by
  have hpairs : ofTrees (toTreePairs entries) =
      (entries.map fun entry => (ofTree entry.1.toTree, ofTree entry.2.toTree)).map
        fun entry => .array [entry.1, entry.2] := by
    rw [ofTrees_eq_map, toTreePairs_eq_map, List.map_map, List.map_map]
    rfl
  change revive [("entries", .array (ofTrees (toTreePairs entries))), ("kind", .string "map")] = _
  rw [hpairs, revive_mapTag]

/-- Numbers come back. -/
lemma ofTree_numberTree (x : Binary64) : ofTree (numberTree x) = .number x := by
  obtain ⟨text, htree, htext⟩ | ⟨htree, -⟩ := numberTree_cases x
  · rw [htree]
    exact revive_numberTag htext
  · rw [htree, ofTree]

/-- A graph without objects that read as tags comes back as it is. -/
lemma ofTree_toTree_of_forall {g : Graph}
    (h : ∀ fields, Inside (.object fields) g → ¬ ReadsAsTag fields) : ofTree g.toTree = g := by
  induction g using inductionOn with
  | undefined => rfl
  | null => rfl
  | bool b => rfl
  | number x => exact ofTree_numberTree x
  | string s => rfl
  | array items ih =>
    rw [ofTree_toTree_array]
    have hitems : ∀ item ∈ items, ofTree item.toTree = item := fun item hitem =>
      ih item hitem fun fields hfields => h fields (.item hitem hfields)
    rw [List.map_congr_left hitems, List.map_id']
  | object fields ih =>
    have hback : fieldsBack fields = fields := by
      refine (List.map_congr_left fun field hfield => ?_).trans (List.map_id fields)
      exact congrArg (Prod.mk field.1) (ih field hfield fun inner hinner =>
        h inner (.field hfield hinner))
    rw [ofTree_toTree_object, hback, revive, readTag?_eq_none_iff.2 (h fields .self)]
  | map entries ihkeys ihvalues =>
    rw [ofTree_toTree_map]
    refine congrArg Graph.map ((List.map_congr_left fun entry hentry => ?_).trans
      (List.map_id entries))
    exact Prod.ext (ihkeys entry hentry fun fields hfields => h fields (.key hentry hfields))
      (ihvalues entry hentry fun fields hfields => h fields (.value hentry hfields))

/-! ## Counting objects -/

mutual

/-- The number of objects inside a graph. -/
def objectCount : Graph → Nat
  | .array items => objectsInItems items
  | .object fields => objectsInFields fields + 1
  | .map entries => objectsInEntries entries
  | _ => 0

/-- The number of objects inside the items of a list. -/
def objectsInItems : List Graph → Nat
  | [] => 0
  | item :: rest => objectCount item + objectsInItems rest

/-- The number of objects inside the fields of an object. -/
def objectsInFields : List (String × Graph) → Nat
  | [] => 0
  | (_, value) :: rest => objectCount value + objectsInFields rest

/-- The number of objects inside the entries of a map. -/
def objectsInEntries : List (Graph × Graph) → Nat
  | [] => 0
  | (key, value) :: rest => objectCount key + objectCount value + objectsInEntries rest

end

/-- The objects inside a list, item by item. -/
lemma objectCount_array (items : List Graph) :
    objectCount (.array items) = (items.map objectCount).sum := by
  rw [objectCount]
  induction items with
  | nil => rfl
  | cons item rest ih => rw [objectsInItems, ih, List.map_cons, List.sum_cons]

/-- The objects inside an object, field by field, and the object itself. -/
lemma objectCount_object (fields : List (String × Graph)) :
    objectCount (.object fields) = (fields.map fun field => objectCount field.2).sum + 1 := by
  rw [objectCount]
  congr 1
  induction fields with
  | nil => rfl
  | cons field rest ih => rw [objectsInFields, ih, List.map_cons, List.sum_cons]

/-- The objects inside a map, entry by entry. -/
lemma objectCount_map (entries : List (Graph × Graph)) :
    objectCount (.map entries) =
      (entries.map fun entry => objectCount entry.1 + objectCount entry.2).sum := by
  rw [objectCount]
  induction entries with
  | nil => rfl
  | cons entry rest ih => rw [objectsInEntries, ih, List.map_cons, List.sum_cons]

/-- Taking an element out of a list leaves the others. -/
lemma exists_of_takeFirst? {α : Type} {test : α → Bool} {as left : List α}
    (h : takeFirst? test as = some left) : ∃ a, test a = true ∧ as.Perm (a :: left) := by
  induction as generalizing left with
  | nil => cases h
  | cons a rest ih =>
    rw [takeFirst?] at h
    split at h
    · next htest =>
      obtain rfl := Option.some.inj h
      exact ⟨a, htest, List.Perm.refl _⟩
    · obtain ⟨fewer, hfewer, rfl⟩ := Option.map_eq_some_iff.1 h
      obtain ⟨b, hb, hperm⟩ := ih hfewer
      exact ⟨b, hb, (hperm.cons a).trans (List.Perm.swap b a fewer)⟩

/-- What is the same as a list is a list. -/
lemma exists_of_same_array {items : List Graph} {g : Graph} (h : same (.array items) g = true) :
    ∃ others, g = .array others ∧ sameItems items others = true := by
  cases g <;> simp_all [same]

/-- What is the same as an object is an object. -/
lemma exists_of_same_object {fields : List (String × Graph)} {g : Graph}
    (h : same (.object fields) g = true) :
    ∃ others, g = .object others ∧ sameFields fields others = true := by
  cases g <;> simp_all [same]

/-- What is the same as a map is a map. -/
lemma exists_of_same_map {entries : List (Graph × Graph)} {g : Graph}
    (h : same (.map entries) g = true) :
    ∃ others, g = .map others ∧ sameEntries entries others = true := by
  cases g <;> simp_all [same]

/-- Graphs that are the same have equally many objects. -/
lemma objectCount_eq_of_same {a b : Graph} (h : same a b = true) :
    objectCount a = objectCount b := by
  induction a using inductionOn generalizing b with
  | undefined => cases b <;> simp_all [same, objectCount]
  | null => cases b <;> simp_all [same, objectCount]
  | bool x => cases b <;> simp_all [same, objectCount]
  | number x => cases b <;> simp_all [same, objectCount]
  | string s => cases b <;> simp_all [same, objectCount]
  | array items ih =>
    obtain ⟨others, rfl, hitems⟩ := exists_of_same_array h
    clear h
    rw [objectCount, objectCount]
    induction items generalizing others with
    | nil => cases others <;> simp_all [sameItems]
    | cons item items ihitems =>
      cases others with
      | nil => simp [sameItems] at hitems
      | cons other others =>
        rw [sameItems, Bool.and_eq_true] at hitems
        rw [objectsInItems, objectsInItems, ih item List.mem_cons_self hitems.1,
          ihitems (fun item hitem => ih item (List.mem_cons_of_mem _ hitem)) _ hitems.2]
  | object fields ih =>
    obtain ⟨others, rfl, hfields⟩ := exists_of_same_object h
    clear h
    rw [objectCount, objectCount]
    congr 1
    induction fields generalizing others with
    | nil => cases others <;> simp_all [sameFields]
    | cons field fields ihfields =>
      cases others with
      | nil => simp [sameFields] at hfields
      | cons other others =>
        rw [sameFields, Bool.and_eq_true, Bool.and_eq_true] at hfields
        rw [objectsInFields, objectsInFields, ih field List.mem_cons_self hfields.1.2,
          ihfields (fun field hfield => ih field (List.mem_cons_of_mem _ hfield)) _ hfields.2]
  | map entries ihkeys ihvalues =>
    obtain ⟨others, rfl, hentries⟩ := exists_of_same_map h
    clear h
    rw [objectCount_map, objectCount_map]
    induction entries generalizing others with
    | nil =>
      rw [sameEntries, List.isEmpty_iff] at hentries
      rw [hentries]
    | cons entry entries ih =>
      rw [sameEntries] at hentries
      split at hentries
      · next left hleft =>
        -- The entry and its partner have equally many objects, and so have the rest.
        obtain ⟨partner, hpartner, hperm⟩ := exists_of_takeFirst? hleft
        rw [Bool.and_eq_true] at hpartner
        rw [List.map_cons, List.sum_cons, (hperm.map _).sum_eq, List.map_cons, List.sum_cons,
          ihkeys entry List.mem_cons_self hpartner.1, ihvalues entry List.mem_cons_self hpartner.2,
          ih (fun entry hentry => ihkeys entry (List.mem_cons_of_mem _ hentry))
            (fun entry hentry => ihvalues entry (List.mem_cons_of_mem _ hentry)) _ hentries]
      · cases hentries

/-- A graph is the same as itself. -/
lemma same_self (g : Graph) : same g g = true := by
  induction g using inductionOn with
  | undefined => simp [same]
  | null => simp [same]
  | bool b => simp [same]
  | number x => simp [same]
  | string s => simp [same]
  | array items ih =>
    rw [same]
    induction items with
    | nil => simp [sameItems]
    | cons item rest ihrest =>
      rw [sameItems, ih item List.mem_cons_self,
        ihrest fun item hitem => ih item (List.mem_cons_of_mem _ hitem)]
      rfl
  | object fields ih =>
    rw [same]
    induction fields with
    | nil => simp [sameFields]
    | cons field rest ihrest =>
      rw [sameFields, ih field List.mem_cons_self,
        ihrest fun field hfield => ih field (List.mem_cons_of_mem _ hfield)]
      simp
  | map entries ihkeys ihvalues =>
    rw [same]
    induction entries with
    | nil => simp [sameEntries]
    | cons entry rest ih =>
      have hself : (same entry.1 entry.1 && same entry.2 entry.2) = true := by
        rw [ihkeys entry List.mem_cons_self, ihvalues entry List.mem_cons_self]
        rfl
      rw [sameEntries, takeFirst?, if_pos hself]
      exact ih (fun entry hentry => ihkeys entry (List.mem_cons_of_mem _ hentry))
        fun entry hentry => ihvalues entry (List.mem_cons_of_mem _ hentry)

/-! ## Reading a tag loses an object -/

/-- Pairs hold as many objects as the lists of two that they were read from. -/
lemma objectCount_pairs? {items : List Graph} {entries : List (Graph × Graph)}
    (h : pairs? items = some entries) :
    objectCount (.map entries) = objectCount (.array items) := by
  rw [objectCount_map, objectCount_array]
  fun_induction pairs? items generalizing entries with
  | case1 =>
    obtain rfl := Option.some.inj h
    rfl
  | case2 key value rest ih =>
    obtain ⟨tail, htail, rfl⟩ := Option.map_eq_some_iff.1 h
    rw [List.map_cons, List.sum_cons, ih htail, List.map_cons, List.sum_cons, objectCount_array]
    simp
  | case3 => cases h

/-- A field has at most the objects of all fields. -/
lemma objectCount_le_of_get? {key : String} {value : Graph} {fields : List (String × Graph)}
    (h : Assoc.get? key fields = some value) :
    objectCount value ≤ (fields.map fun field => objectCount field.2).sum :=
  List.single_le_sum (by simp) _ (List.mem_map.2 ⟨_, Assoc.mem_of_get?_eq_some h, rfl⟩)

/-- Taking an object for a tag loses an object. -/
lemma objectCount_readTag?_lt {fields : List (String × Graph)} {g : Graph}
    (h : readTag? fields = some g) : objectCount g < objectCount (.object fields) := by
  rw [objectCount_object]
  obtain rfl | ⟨x, rfl⟩ | ⟨key, items, entries, hitems, hentries, rfl⟩ := value_of_readTag? h
  · exact Nat.succ_pos _
  · exact Nat.succ_pos _
  · rw [objectCount_pairs? hentries]
    exact Nat.lt_succ_of_le (objectCount_le_of_get? hitems)

/-- Whatever becomes of an object, no object is added. -/
lemma objectCount_revive_le (fields : List (String × Graph)) :
    objectCount (revive fields) ≤ objectCount (.object fields) := by
  unfold revive
  split
  · next g hg => exact (objectCount_readTag?_lt hg).le
  · exact le_rfl

/-- Reading a graph back adds no object. -/
lemma objectCount_ofTree_toTree_le (g : Graph) : objectCount (ofTree g.toTree) ≤ objectCount g := by
  induction g using inductionOn with
  | undefined => exact le_rfl
  | null => exact le_rfl
  | bool b => exact le_rfl
  | number x =>
    rw [toTree, ofTree_numberTree]
  | string s => exact le_rfl
  | array items ih =>
    rw [ofTree_toTree_array, objectCount_array, objectCount_array, List.map_map]
    exact List.sum_le_sum ih
  | object fields ih =>
    rw [ofTree_toTree_object]
    refine (objectCount_revive_le _).trans ?_
    rw [objectCount_object, objectCount_object, fieldsBack, List.map_map]
    exact Nat.succ_le_succ (List.sum_le_sum ih)
  | map entries ihkeys ihvalues =>
    rw [ofTree_toTree_map, objectCount_map, objectCount_map, List.map_map]
    exact List.sum_le_sum fun entry hentry =>
      Nat.add_le_add (ihkeys entry hentry) (ihvalues entry hentry)

/-- A field of an object that comes back. -/
lemma get?_fieldsBack {key : String} {fields : List (String × Graph)} :
    Assoc.get? key (fieldsBack fields) =
      (Assoc.get? key fields).map fun value => ofTree value.toTree := by
  induction fields with
  | nil => rfl
  | cons field rest ih =>
    obtain ⟨k, value⟩ := field
    change (if compare key k = .eq then _ else Assoc.get? key (fieldsBack rest)) = _
    rw [ih, Assoc.get?]
    split <;> rfl

/-- An object that reads as a tag still does when its fields have come back: texts and lists of two
come back as such. -/
lemma Dialect.Tags.fieldsBack {d : Dialect} {fields : List (String × Graph)} (h : d.Tags fields) :
    d.Tags (fieldsBack fields) := by
  cases h with
  | undefined htag => exact .undefined (by rw [get?_fieldsBack, htag]; rfl)
  | number htag htext hnumber =>
    exact .number (by rw [get?_fieldsBack, htag]; rfl) (by rw [get?_fieldsBack, htext]; rfl) hnumber
  | @map items htag hitems hpairs =>
    have hback : Assoc.get? d.mapKey (Graph.fieldsBack fields) =
        some (.array (items.map fun item => ofTree item.toTree)) := by
      rw [get?_fieldsBack, hitems, Option.map_some, ofTree_toTree_array]
    refine .map (by rw [get?_fieldsBack, htag]; rfl) hback ?_
    intro item hitem
    obtain ⟨original, hmem, rfl⟩ := List.mem_map.1 hitem
    obtain ⟨key, value, rfl⟩ := hpairs original hmem
    exact ⟨_, _, ofTree_toTree_array [key, value]⟩

/-- An object inside a graph that reads as a tag is lost. -/
lemma objectCount_ofTree_toTree_lt {fields : List (String × Graph)} {g : Graph}
    (h : Inside (.object fields) g) (htag : ReadsAsTag fields) :
    objectCount (ofTree g.toTree) < objectCount g := by
  -- An object is lost together with those in its fields, or they are lost field by field.
  have hobject : ∀ outer : List (String × Graph),
      (ReadsAsTag outer ∨ ∃ field ∈ outer,
        objectCount (ofTree field.2.toTree) < objectCount field.2) →
      objectCount (ofTree (toTree (.object outer))) < objectCount (.object outer) := by
    intro outer houter
    have hle : objectCount (.object (fieldsBack outer)) ≤ objectCount (.object outer) := by
      rw [objectCount_object, objectCount_object, fieldsBack, List.map_map]
      exact Nat.succ_le_succ (List.sum_le_sum fun field _ => objectCount_ofTree_toTree_le field.2)
    rw [ofTree_toTree_object]
    rcases houter with houter | ⟨field, hfield, hlt⟩
    · have hback : ReadsAsTag (fieldsBack outer) := houter.imp .fieldsBack .fieldsBack
      cases hread : readTag? (fieldsBack outer) with
      | none => exact absurd hback (readTag?_eq_none_iff.1 hread)
      | some value =>
        rw [revive, hread]
        exact (objectCount_readTag?_lt hread).trans_le hle
    · refine (objectCount_revive_le _).trans_lt ?_
      rw [objectCount_object, objectCount_object, fieldsBack, List.map_map]
      exact Nat.succ_lt_succ (List.sum_lt_sum _ _
        (fun field _ => objectCount_ofTree_toTree_le field.2) ⟨field, hfield, hlt⟩)
  induction h with
  | self => exact hobject fields (.inl htag)
  | item hitem h ih =>
    rw [ofTree_toTree_array, objectCount_array, objectCount_array, List.map_map]
    exact List.sum_lt_sum _ _ (fun item _ => objectCount_ofTree_toTree_le item) ⟨_, hitem, ih⟩
  | field hfield h ih => exact hobject _ (.inr ⟨_, hfield, ih⟩)
  | key hentry h ih =>
    rw [ofTree_toTree_map, objectCount_map, objectCount_map, List.map_map]
    exact List.sum_lt_sum _ _ (fun entry _ => Nat.add_le_add (objectCount_ofTree_toTree_le entry.1)
      (objectCount_ofTree_toTree_le entry.2))
      ⟨_, hentry, Nat.add_lt_add_of_lt_of_le ih (objectCount_ofTree_toTree_le _)⟩
  | value hentry h ih =>
    rw [ofTree_toTree_map, objectCount_map, objectCount_map, List.map_map]
    exact List.sum_lt_sum _ _ (fun entry _ => Nat.add_le_add (objectCount_ofTree_toTree_le entry.1)
      (objectCount_ofTree_toTree_le entry.2))
      ⟨_, hentry, Nat.add_lt_add_of_le_of_lt (objectCount_ofTree_toTree_le _) ih⟩

/-- A graph comes back from its tree exactly if no object inside it reads as a tag. -/
theorem same_ofTree_toTree_iff (g : Graph) :
    same (ofTree g.toTree) g = true ↔
      ∀ fields, Inside (.object fields) g → ¬ ReadsAsTag fields := by
  constructor
  · intro hsame fields hinside htag
    have hlt := objectCount_ofTree_toTree_lt hinside htag
    exact hlt.ne (objectCount_eq_of_same hsame)
  · intro h
    rw [ofTree_toTree_of_forall h]
    exact same_self g

end SessionVault.Graph
