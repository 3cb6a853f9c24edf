import SessionVault.Proofs.Json.Layout
/-!
# Texts of JSON trees in any layout

A tree has many texts, since blanks may stand between tokens: `Spells t text` says that a text is
one of them.  Readers count the levels of nesting down.  A text is read as its tree if the tree is
nested no deeper than that, whatever blanks follow (`Spells.parse_append`), and if it is nested
deeper, reading stops for this cause alone (`Spells.exists_parse_error`).  Both are inductions over
the text; which of them applies to a list is decided by its first item that is nested too deeply,
for the items before it are read.
-/

namespace SessionVault.Json

/-! ## Trees that can be written -/

/-- Trees that their texts tell apart: numbers are finite and not `-0`, and the fields of objects
are in key order. -/
inductive Writable : Json → Prop
  | null : Writable .null
  | bool (b : Bool) : Writable (.bool b)
  | number {negative : Bool} {word : Fin finiteWords}
      (h : Binary64.finite negative word ≠ .negativeZero) :
      Writable (.number (.finite negative word))
  | string (s : String) : Writable (.string s)
  | array {items : List Json} (h : ∀ t ∈ items, Writable t) : Writable (.array items)
  | object {fields : List (String × Json)} (hordered : Assoc.Ordered fields)
      (h : ∀ field ∈ fields, Writable field.2) : Writable (.object fields)

/-- The texts of a tree.  Blanks may stand before the items of a list, before the keys and the
values of an object, and before the closing bracket. -/
inductive Spells : Json → Bytes → Prop
  | scalar {t : Json} (ht : Writable t) (hdepth : t.depth = 0) : Spells t (Utf8.encode (render t))
  | array {gap close : Bytes} (hgap : Blank gap) (hclose : Blank close)
      {texts : List (Bytes × Json)} (h : ∀ p ∈ texts, Spells p.2 p.1) :
      Spells (.array (texts.map (·.2)))
        (ascii '[' :: (joined (texts.map fun p => gap ++ p.1) ++ (close ++ [ascii ']'])))
  | object {gap space close : Bytes} (hgap : Blank gap) (hspace : Blank space)
      (hclose : Blank close) {fields : List (FieldText Json)}
      (hordered : Assoc.Ordered (fields.map fun f => (f.1, f.2.2)))
      (h : ∀ f ∈ fields, Spells f.2.2 f.2.1) :
      Spells (.object (fields.map fun f => (f.1, f.2.2)))
        (ascii '\x7b' :: (joined (fields.map fun f => gap ++ keyed f.1 (space ++ f.2.1)) ++
          (close ++ [ascii '\x7d'])))

/-- A list is spelled by writing its items one way. -/
lemma Spells.ofItems (write : Json → Bytes) {gap close : Bytes} (hgap : Blank gap)
    (hclose : Blank close) {items : List Json} (h : ∀ t ∈ items, Spells t (write t)) :
    Spells (.array items)
      (ascii '[' :: (joined (items.map fun t => gap ++ write t) ++ (close ++ [ascii ']']))) := by
  have hspells : Spells (.array ((items.map fun t => (write t, t)).map (·.2))) _ :=
    .array hgap hclose (List.forall_mem_map.2 h)
  simpa only [List.map_map, Function.comp_def, List.map_id'] using hspells

/-- An object is spelled by writing its values one way. -/
lemma Spells.ofFields (write : Json → Bytes) {gap space close : Bytes} (hgap : Blank gap)
    (hspace : Blank space) (hclose : Blank close) {fields : List (String × Json)}
    (hordered : Assoc.Ordered fields) (h : ∀ field ∈ fields, Spells field.2 (write field.2)) :
    Spells (.object fields)
      (ascii '\x7b' :: (joined (fields.map fun f => gap ++ keyed f.1 (space ++ write f.2)) ++
        (close ++ [ascii '\x7d']))) := by
  have hsorted : Assoc.Ordered ((fields.map fun field => (field.1, write field.2, field.2)).map
      fun f => (f.1, f.2.2)) := by
    simpa only [List.map_map, Function.comp_def, List.map_id'] using hordered
  have hspells : Spells (.object ((fields.map fun field => (field.1, write field.2, field.2)).map
      fun f => (f.1, f.2.2))) _ := .object hgap hspace hclose hsorted (List.forall_mem_map.2 h)
  simpa only [List.map_map, Function.comp_def, List.map_id'] using hspells

/-- The text of a list without items. -/
lemma Spells.emptyArray : Spells (.array []) [ascii '[', ascii ']'] :=
  .ofItems (fun _ => []) blank_nil blank_nil (List.forall_mem_nil _)

/-- The text of an object without fields. -/
lemma Spells.emptyObject : Spells (.object []) [ascii '\x7b', ascii '\x7d'] :=
  .ofFields (fun _ => []) blank_nil blank_nil blank_nil .nil (List.forall_mem_nil _)

/-! ## Scalars and brackets -/

section Readers

variable {bound depth : Nat}

/-- A digit is told apart from other characters. -/
lemma ne_of_isDigit {b : UInt8} (h : isDigit b = true) {c : Char} (hc : isDigit (ascii c) = false) :
    b ≠ ascii c := by
  rintro rfl
  rw [hc] at h
  cases h

/-- Readers of trees skip blanks. -/
lemma skipsBlanks_readTree : SkipsBlanks (readTree bound depth) := by
  intro gap hgap input
  rw [readTree.eq_def, readTree.eq_def]
  dsimp only
  rw [hgap.skipSpace_append]

/-- A scalar is read back at any depth. -/
lemma reads_scalar {t : Json} (ht : Writable t) (hdepth : t.depth = 0) :
    Reads (readTree bound depth) (Utf8.encode (render t)) t := by
  intro rest hrest
  cases ht with
  | null =>
    rw [readTree]
    rfl
  | bool b =>
    rw [readTree]
    cases b <;> rfl
  | number hx =>
    obtain ⟨b, tail, n, htext, hstart, hn, hread⟩ := readNumber_numberText hx
    have hspace : isSpace b = false := by
      rcases hstart with rfl | hdigit
      · decide
      · exact isSpace_of_isDigit hdigit
    have hother : ∀ c : Char, isDigit (ascii c) = false → ascii c ≠ ascii '-' → b ≠ ascii c := by
      intro c hc hminus
      rcases hstart with rfl | hdigit
      · exact hminus.symm
      · exact ne_of_isDigit hdigit hc
    rw [render, htext, List.cons_append, readTree, skipSpace_cons hspace]
    dsimp only
    rw [if_neg (hother 'n' (by decide) (by decide)), if_neg (hother 't' (by decide) (by decide)),
      if_neg (hother 'f' (by decide) (by decide)), if_neg (hother '\x22' (by decide) (by decide)),
      if_pos (by simpa [StartsNumber] using hstart), ← List.cons_append, hread rest hrest,
      Outcome.map, hn]
  | string s =>
    rw [render, encode_quote, List.cons_append, List.append_assoc, readTree,
      skipSpace_cons (by decide)]
    dsimp only
    rw [if_neg (by decide), if_neg (by decide), if_neg (by decide), if_pos rfl,
      List.singleton_append, readString_escaped]
    rfl
  | array => simp [Json.depth] at hdepth
  | object => simp [Json.depth] at hdepth

/-- A list is read one level down. -/
lemma readTree_list (input : Bytes) :
    readTree bound (depth + 1) (ascii '[' :: input) =
      Outcome.map .array (readList (readTree bound depth) bound input) := by
  rw [readTree, skipSpace_cons (by decide)]
  rfl

/-- An object is read one level down. -/
lemma readTree_object (input : Bytes) :
    readTree bound (depth + 1) (ascii '\x7b' :: input) =
      Outcome.map .object (readObject (readTree bound depth) bound input) := by
  rw [readTree, skipSpace_cons (by decide)]
  rfl

/-- Where no level is left, lists and objects are refused. -/
lemma readTree_bottom {b : UInt8} (hb : b = ascii '[' ∨ b = ascii '\x7b') (input : Bytes) :
    readTree bound 0 (b :: input) = .error (.on .tooDeep (b :: input)) := by
  rcases hb with rfl | rfl
  · rw [readTree, skipSpace_cons (by decide)]
    rfl
  · rw [readTree, skipSpace_cons (by decide)]
    rfl

/-! ## Lists and objects -/

/-- A list is read if its items are read one level down. -/
lemma reads_array {gap close : Bytes} (hgap : Blank gap) (hclose : Blank close)
    {texts : List (Bytes × Json)}
    (hitems : ∀ p ∈ texts, StartsItem p.1 ∧ Reads (readTree bound depth) p.1 p.2)
    (hcount : texts.length ≤ bound) :
    Reads (readTree bound (depth + 1))
      (ascii '[' :: (joined (texts.map fun p => gap ++ p.1) ++ (close ++ [ascii ']'])))
      (.array (texts.map (·.2))) := by
  intro rest hrest
  have hitem : ∀ p ∈ texts.map fun p => (gap ++ p.1, p.2),
      IsItem (readTree bound depth) p.1 p.2 :=
    List.forall_mem_map.2 fun p hp => (hitems p hp).1.isItem (hitems p hp).2 hgap
  rw [← List.length_map fun p => (gap ++ p.1, p.2)] at hcount
  have hread := readList_joined hitem hclose hcount rest
  rw [List.map_map, List.map_map] at hread
  rw [List.cons_append, List.append_assoc, List.append_assoc, readTree_list]
  exact congrArg (Outcome.map Json.array) hread

/-- A list is not read past an item that stops the reader one level down. -/
lemma stops_array {gap : Bytes} (hgap : Blank gap) {before : List (Bytes × Json)}
    (hbefore : ∀ p ∈ before, StartsItem p.1 ∧ Reads (readTree bound depth) p.1 p.2)
    {stopping : Bytes × Json} (hstarts : StartsItem stopping.1) {cause : Cause}
    (hstop : StopsIn (readTree bound depth) cause stopping.1) (after : List (Bytes × Json))
    (ending : Bytes) (hcount : before.length ≤ bound) :
    StopsIn (readTree bound (depth + 1)) cause
      (ascii '[' ::
        (joined ((before ++ stopping :: after).map fun p => gap ++ p.1) ++ ending)) := by
  intro rest
  have hitem : ∀ p ∈ before.map fun p => (gap ++ p.1, p.2),
      IsItem (readTree bound depth) p.1 p.2 :=
    List.forall_mem_map.2 fun p hp => (hbefore p hp).1.isItem (hbefore p hp).2 hgap
  rw [← List.length_map fun p => (gap ++ p.1, p.2)] at hcount
  obtain ⟨unread, hunread⟩ :=
    readList_stop hitem hgap hstarts hstop (after.map fun p => gap ++ p.1) hcount (ending ++ rest)
  rw [List.map_map] at hunread
  refine ⟨unread, ?_⟩
  rw [List.cons_append, List.append_assoc, readTree_list, List.map_append, List.map_cons]
  exact congrArg (Outcome.map Json.array) hunread

/-- An object is read if its values are read one level down. -/
lemma reads_object {gap space close : Bytes} (hgap : Blank gap) (hspace : Blank space)
    (hclose : Blank close) {fields : List (FieldText Json)}
    (hordered : Assoc.Ordered (fields.map fun f => (f.1, f.2.2)))
    (hfields : ∀ f ∈ fields, Reads (readTree bound depth) f.2.1 f.2.2)
    (hcount : fields.length ≤ bound) :
    Reads (readTree bound (depth + 1))
      (ascii '\x7b' :: (joined (fields.map fun f => gap ++ keyed f.1 (space ++ f.2.1)) ++
        (close ++ [ascii '\x7d'])))
      (.object (fields.map fun f => (f.1, f.2.2))) := by
  intro rest hrest
  let spaced (f : FieldText Json) : FieldText Json := (f.1, space ++ f.2.1, f.2.2)
  have hvalue : ∀ f ∈ fields.map spaced, Reads (readTree bound depth) f.2.1 f.2.2 :=
    List.forall_mem_map.2 fun f hf => (hfields f hf).behind skipsBlanks_readTree hspace
  have hsorted : Assoc.Ordered ((fields.map spaced).map fun f => (f.1, f.2.2)) := by
    rw [List.map_map]
    exact hordered
  rw [← List.length_map spaced] at hcount
  have hread := readObject_joined hgap hvalue hsorted hclose hcount rest
  rw [List.map_map, List.map_map] at hread
  rw [List.cons_append, List.append_assoc, List.append_assoc, readTree_object]
  exact congrArg (Outcome.map Json.object) hread

/-- An object is not read past a value that stops the reader one level down. -/
lemma stops_object {gap space : Bytes} (hgap : Blank gap) (hspace : Blank space)
    {before : List (FieldText Json)} (hordered : Assoc.Ordered (before.map fun f => (f.1, f.2.2)))
    (hbefore : ∀ f ∈ before, Reads (readTree bound depth) f.2.1 f.2.2)
    {stopping : FieldText Json} {cause : Cause}
    (hstop : StopsIn (readTree bound depth) cause stopping.2.1) (after : List (FieldText Json))
    (ending : Bytes) (hcount : before.length ≤ bound) :
    StopsIn (readTree bound (depth + 1)) cause
      (ascii '\x7b' :: (joined ((before ++ stopping :: after).map fun f =>
        gap ++ keyed f.1 (space ++ f.2.1)) ++ ending)) := by
  intro rest
  let spaced (f : FieldText Json) : FieldText Json := (f.1, space ++ f.2.1, f.2.2)
  have hvalue : ∀ f ∈ before.map spaced, Reads (readTree bound depth) f.2.1 f.2.2 :=
    List.forall_mem_map.2 fun f hf => (hbefore f hf).behind skipsBlanks_readTree hspace
  have hsorted : Assoc.Ordered ((before.map spaced).map fun f => (f.1, f.2.2)) := by
    rw [List.map_map]
    exact hordered
  rw [← List.length_map spaced] at hcount
  obtain ⟨unread, hunread⟩ := readObject_stop hgap hvalue hsorted stopping.1
    (hstop.behind skipsBlanks_readTree hspace)
    (after.map fun f => gap ++ keyed f.1 (space ++ f.2.1)) hcount (ending ++ rest)
  rw [List.map_map] at hunread
  refine ⟨unread, ?_⟩
  rw [List.cons_append, List.append_assoc, readTree_object, List.map_append, List.map_cons]
  exact congrArg (Outcome.map Json.object) hunread

/-! ## Depth -/

/-- Items are nested within a bound if each of them is. -/
lemma depthItems_le_iff {items : List Json} :
    depthItems items ≤ depth ↔ ∀ t ∈ items, t.depth ≤ depth := by
  induction items with
  | nil => simp [depthItems]
  | cons item rest ih => rw [depthItems, Nat.max_le, ih, List.forall_mem_cons]

/-- Fields are nested within a bound if each of them is. -/
lemma depthFields_le_iff {fields : List (String × Json)} :
    depthFields fields ≤ depth ↔ ∀ field ∈ fields, field.2.depth ≤ depth := by
  induction fields with
  | nil => simp [depthFields]
  | cons field rest ih => rw [depthFields, Nat.max_le, ih, List.forall_mem_cons]

/-- A list that does not satisfy a test throughout has a first element that fails it. -/
lemma exists_first {α : Type} {test : α → Prop} [DecidablePred test] {as : List α}
    (h : ¬∀ a ∈ as, test a) :
    ∃ before a after, as = before ++ a :: after ∧ (∀ b ∈ before, test b) ∧ ¬test a := by
  induction as with
  | nil => exact absurd (by simp) h
  | cons a rest ih =>
    by_cases ha : test a
    · have hrest : ¬∀ b ∈ rest, test b := by
        intro hrest
        exact h (List.forall_mem_cons.2 ⟨ha, hrest⟩)
      obtain ⟨before, b, after, rfl, hbefore, hb⟩ := ih hrest
      exact ⟨a :: before, b, after, rfl, List.forall_mem_cons.2 ⟨ha, hbefore⟩, hb⟩
    · exact ⟨[], a, rest, rfl, by simp, ha⟩

end Readers

/-! ## Reading texts -/

/-- The empty text is blank. -/
lemma blank_empty : Blank (Utf8.encode "") := by
  rw [Utf8.encode_empty]
  exact blank_nil

namespace Spells

variable {t : Json} {text : Bytes}

/-- A text starts with a byte that is neither blank nor the end of a list. -/
lemma startsItem (h : Spells t text) : StartsItem text := by
  cases h with
  | scalar ht hdepth =>
    cases ht with
    | null => exact ⟨_, _, rfl, by decide, by decide⟩
    | bool b => cases b <;> exact ⟨_, _, rfl, by decide, by decide⟩
    | number hx =>
      obtain ⟨b, tail, -, htext, hstart, -⟩ := readNumber_numberText hx
      refine ⟨b, tail, htext, ?_⟩
      rcases hstart with rfl | hdigit
      · exact ⟨by decide, by decide⟩
      · exact ⟨isSpace_of_isDigit hdigit, ne_of_isDigit hdigit (by decide)⟩
    | string s =>
      rw [render, encode_quote]
      exact ⟨_, _, rfl, by decide, by decide⟩
    | array => simp [Json.depth] at hdepth
    | object => simp [Json.depth] at hdepth
  | array => exact ⟨_, _, rfl, by decide, by decide⟩
  | object => exact ⟨_, _, rfl, by decide, by decide⟩

variable {bound depth : Nat}

/-- The items of a list are fewer and shorter than its text. -/
lemma length_items {gap close : Bytes} {texts : List (Bytes × Json)}
    (h : (ascii '[' :: (joined (texts.map fun p => gap ++ p.1) ++ (close ++ [ascii ']']))).length ≤
      bound) : texts.length ≤ bound ∧ ∀ p ∈ texts, p.1.length ≤ bound := by
  obtain ⟨hcount, hlength⟩ := length_le_joined (texts.map fun p => gap ++ p.1)
  simp only [List.length_cons, List.length_append, List.length_map] at h hcount
  refine ⟨by omega, ?_⟩
  intro p hp
  have hle := hlength _ (List.mem_map.2 ⟨p, hp, rfl⟩)
  rw [List.length_append] at hle
  omega

/-- The fields of an object are fewer and shorter than its text. -/
lemma length_fields {gap space close : Bytes} {fields : List (FieldText Json)}
    (h : (ascii '\x7b' :: (joined (fields.map fun f => gap ++ keyed f.1 (space ++ f.2.1)) ++
      (close ++ [ascii '\x7d']))).length ≤ bound) :
    fields.length ≤ bound ∧ ∀ f ∈ fields, f.2.1.length ≤ bound := by
  obtain ⟨hcount, hlength⟩ :=
    length_le_joined (fields.map fun f => gap ++ keyed f.1 (space ++ f.2.1))
  simp only [List.length_cons, List.length_append, List.length_map] at h hcount
  refine ⟨by omega, ?_⟩
  intro f hf
  have hvalue : f.2.1.length ≤ (gap ++ keyed f.1 (space ++ f.2.1)).length := by
    simp only [keyed, List.length_append, List.length_cons]
    omega
  have hle := hvalue.trans (hlength _ (List.mem_map.2 ⟨f, hf, rfl⟩))
  omega

/-- A text is read as its tree if the tree is not nested too deeply and the bound leaves room. -/
lemma reads (h : Spells t text) (hdepth : t.depth ≤ depth) (hbound : text.length ≤ bound) :
    Reads (readTree bound depth) text t := by
  induction h generalizing depth with
  | scalar ht hscalar => exact reads_scalar ht hscalar
  | @array gap close hgap hclose texts h ih =>
    cases depth with
    | zero => simp [Json.depth] at hdepth
    | succ depth =>
      obtain ⟨hcount, hlength⟩ := length_items hbound
      refine reads_array hgap hclose (fun p hp => ⟨(h p hp).startsItem, ?_⟩) hcount
      have hle := depthItems_le_iff.1 (Nat.le_of_succ_le_succ hdepth) p.2
        (List.mem_map.2 ⟨p, hp, rfl⟩)
      exact ih p hp hle (hlength p hp)
  | @object gap space close hgap hspace hclose fields hordered h ih =>
    cases depth with
    | zero => simp [Json.depth] at hdepth
    | succ depth =>
      obtain ⟨hcount, hlength⟩ := length_fields hbound
      refine reads_object hgap hspace hclose hordered (fun f hf => ?_) hcount
      have hle := depthFields_le_iff.1 (Nat.le_of_succ_le_succ hdepth) (f.1, f.2.2)
        (List.mem_map.2 ⟨f, hf, rfl⟩)
      exact ih f hf hle (hlength f hf)

/-- Reading a text stops for depth if its tree is nested more deeply than the reader allows. -/
lemma stops (h : Spells t text) (hdepth : depth < t.depth) (hbound : text.length ≤ bound) :
    StopsIn (readTree bound depth) .tooDeep text := by
  induction h generalizing depth with
  | scalar ht hscalar =>
    rw [hscalar] at hdepth
    exact absurd hdepth (Nat.not_lt_zero _)
  | @array gap close hgap hclose texts h ih =>
    cases depth with
    | zero =>
      intro rest
      exact ⟨_, readTree_bottom (.inl rfl) _⟩
    | succ depth =>
      obtain ⟨hcount, hlength⟩ := length_items hbound
      have hdeep : ¬∀ p ∈ texts, p.2.depth ≤ depth := by
        intro hall
        have hle : depthItems (texts.map (·.2)) ≤ depth :=
          depthItems_le_iff.2 (List.forall_mem_map.2 hall)
        rw [Json.depth] at hdepth
        omega
      -- the items before the first one that is too deep are read
      obtain ⟨before, deep, after, rfl, hbefore, hdeep⟩ := exists_first hdeep
      have hmem : deep ∈ before ++ deep :: after := List.mem_append_right _ List.mem_cons_self
      refine stops_array hgap (fun p hp => ?_) (h deep hmem).startsItem
        (ih deep hmem (Nat.lt_of_not_le hdeep) (hlength deep hmem)) after _
        ((List.sublist_append_left _ _).length_le.trans hcount)
      have hp' : p ∈ before ++ deep :: after := List.mem_append_left _ hp
      exact ⟨(h p hp').startsItem, (h p hp').reads (hbefore p hp) (hlength p hp')⟩
  | @object gap space close hgap hspace hclose fields hordered h ih =>
    cases depth with
    | zero =>
      intro rest
      exact ⟨_, readTree_bottom (.inr rfl) _⟩
    | succ depth =>
      obtain ⟨hcount, hlength⟩ := length_fields hbound
      have hdeep : ¬∀ f ∈ fields, f.2.2.depth ≤ depth := by
        intro hall
        have hle : depthFields (fields.map fun f => (f.1, f.2.2)) ≤ depth :=
          depthFields_le_iff.2 (List.forall_mem_map.2 hall)
        rw [Json.depth] at hdepth
        omega
      obtain ⟨before, deep, after, rfl, hbefore, hdeep⟩ := exists_first hdeep
      have hmem : deep ∈ before ++ deep :: after := List.mem_append_right _ List.mem_cons_self
      rw [List.map_append] at hordered
      refine stops_object hgap hspace (List.pairwise_append.1 hordered).1 (fun f hf => ?_)
        (ih deep hmem (Nat.lt_of_not_le hdeep) (hlength deep hmem)) after _
        ((List.sublist_append_left _ _).length_le.trans hcount)
      have hf' : f ∈ before ++ deep :: after := List.mem_append_left _ hf
      exact (h f hf').reads (hbefore f hf) (hlength f hf')

/-- A text of a tree that is not nested too deeply is read as the tree, whatever blanks follow. -/
theorem parse_append {text gap : String} (h : Spells t (Utf8.encode text))
    (hdepth : t.depth ≤ maxDepth) (hgap : Blank (Utf8.encode gap)) :
    parse (text ++ gap) = .ok t := by
  have hends : EndsNumber (Utf8.encode gap) := by
    have hrest : EndsNumber (Utf8.encode gap ++ []) := hgap.endsNumber (by rintro b more ⟨⟩)
    rwa [List.append_nil] at hrest
  have hskip : skipSpace (Utf8.encode gap) = [] := by
    have hrest := hgap.skipSpace_append []
    rwa [List.append_nil] at hrest
  have hbound : (Utf8.encode text).length ≤ (Utf8.encode (text ++ gap)).length := by
    rw [Utf8.encode_append, List.length_append]
    exact Nat.le_add_right _ _
  have hread := h.reads hdepth hbound (Utf8.encode gap) hends
  rw [← Utf8.encode_append] at hread
  rw [parse, parseBytes, hread, readEnd, hskip]
  rfl

/-- A text of a tree that is not nested too deeply is read as the tree. -/
theorem parse_eq {text : String} (h : Spells t (Utf8.encode text)) (hdepth : t.depth ≤ maxDepth) :
    parse text = .ok t := by
  rw [← String.append_empty (s := text)]
  exact h.parse_append hdepth blank_empty

/-- A text of a tree that is nested too deeply is refused for that. -/
theorem exists_parse_error {text : String} (h : Spells t (Utf8.encode text))
    (hdepth : maxDepth < t.depth) :
    ∃ line column, parse text = .error ⟨.tooDeep, line, column⟩ := by
  obtain ⟨unread, hread⟩ := h.stops hdepth le_rfl []
  rw [List.append_nil] at hread
  rw [parse, parseBytes, hread]
  exact ⟨_, _, rfl⟩

end Spells

end SessionVault.Json
