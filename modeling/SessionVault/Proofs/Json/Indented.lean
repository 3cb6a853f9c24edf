import SessionVault.Json.Typed
import SessionVault.Proofs.Json.Spelling
import SessionVault.Proofs.Steps
/-!
# Indented texts read back

Indented lines are a layout of the tree that they were written from (`spells_renderPretty`).

Readers for data of a required form find the data again in indented texts.  Every such reader skips
blanks first, so that the text of a value may stand behind any blanks (`Reads.behind`); lists,
tables and records of two fields are read back if their parts are.
-/

namespace SessionVault.Json

/-! ## Bytes of indented texts -/

/-- The start of a line is blank. -/
lemma blank_newline (level : Nat) : Blank (Utf8.encode (newline level)) := by
  intro b hb
  rw [newline, Utf8.encode_append, List.mem_append] at hb
  rcases hb with hb | hb
  · obtain rfl := List.mem_singleton.1 hb
    rfl
  · rw [Utf8.encode_ofList] at hb
    obtain ⟨c, hc, hbyte⟩ := List.mem_flatMap.1 hb
    obtain rfl := List.eq_of_mem_replicate hc
    obtain rfl := List.mem_singleton.1 hbyte
    rfl

/-- The bytes of a value on a line of its own. -/
def onLine (level : Nat) (t : Json) : Bytes :=
  Utf8.encode (newline level) ++ Utf8.encode (renderPretty level t)

/-- The bytes of a field on a line of its own, up to its value. -/
def fieldOnLine (level : Nat) (key : String) (text : Bytes) : Bytes :=
  Utf8.encode (newline level) ++ keyed key (ascii ' ' :: text)

/-- The bytes of items on lines of their own. -/
lemma encode_renderPrettyItems (level : Nat) (t : Json) (rest : List Json) :
    Utf8.encode (newline level) ++ Utf8.encode (renderPrettyItems level (t :: rest)) =
      onLine level t ++ behindCommas (rest.map (onLine level)) := by
  induction rest generalizing t with
  | nil =>
    rw [renderPrettyItems, onLine, List.map_nil, behindCommas, List.flatMap_nil, List.append_nil]
  | cons next rest ih =>
    rw [renderPrettyItems, Utf8.encode_append, Utf8.encode_append, Utf8.encode_append,
      List.map_cons, behindCommas_cons, ← ih, onLine]
    simp only [List.append_assoc]
    rfl

/-- The bytes of fields on lines of their own. -/
lemma encode_renderPrettyFields (level : Nat) (key : String) (t : Json)
    (rest : List (String × Json)) :
    Utf8.encode (newline level) ++ Utf8.encode (renderPrettyFields level ((key, t) :: rest)) =
      fieldOnLine level key (Utf8.encode (renderPretty level t)) ++
        behindCommas (rest.map fun f => fieldOnLine level f.1
          (Utf8.encode (renderPretty level f.2))) := by
  have hcolon : Utf8.encode ": " = [ascii ':', ascii ' '] := rfl
  have hcomma : Utf8.encode "," = [ascii ','] := rfl
  induction rest generalizing key t with
  | nil =>
    rw [renderPrettyFields, Utf8.encode_append, Utf8.encode_append, encode_quote, hcolon,
      fieldOnLine, List.map_nil]
    simp only [keyed, behindCommas, List.flatMap_nil, List.append_assoc, List.cons_append,
      List.nil_append, List.append_nil]
  | cons next rest ih =>
    obtain ⟨nextKey, nextItem⟩ := next
    rw [renderPrettyFields, Utf8.encode_append, Utf8.encode_append, Utf8.encode_append,
      Utf8.encode_append, Utf8.encode_append, List.map_cons, behindCommas_cons, ← ih, encode_quote,
      hcolon, hcomma, fieldOnLine]
    simp only [keyed, List.append_assoc, List.cons_append, List.nil_append]

/-- The bytes of a list with items. -/
lemma encode_array_cons (level : Nat) (t : Json) (rest : List Json) :
    Utf8.encode (renderPretty level (.array (t :: rest))) =
      ascii '[' :: (onLine (level + 1) t ++ (behindCommas (rest.map (onLine (level + 1))) ++
        (Utf8.encode (newline level) ++ [ascii ']']))) := by
  have hlines := encode_renderPrettyItems (level + 1) t rest
  rw [renderPretty, Utf8.encode_append, Utf8.encode_append, Utf8.encode_append, Utf8.encode_append,
    List.append_assoc (Utf8.encode "["), hlines]
  · simp only [List.append_assoc]
    rfl
  · rintro ⟨⟩

/-- The bytes of an object with fields. -/
lemma encode_object_cons (level : Nat) (key : String) (t : Json) (rest : List (String × Json)) :
    Utf8.encode (renderPretty level (.object ((key, t) :: rest))) =
      ascii '\x7b' :: (fieldOnLine (level + 1) key (Utf8.encode (renderPretty (level + 1) t)) ++
        (behindCommas (rest.map fun f => fieldOnLine (level + 1) f.1
            (Utf8.encode (renderPretty (level + 1) f.2))) ++
          (Utf8.encode (newline level) ++ [ascii '\x7d']))) := by
  have hlines := encode_renderPrettyFields (level + 1) key t rest
  rw [renderPretty, Utf8.encode_append, Utf8.encode_append, Utf8.encode_append, Utf8.encode_append,
    List.append_assoc (Utf8.encode "\x7b"), hlines]
  · simp only [List.append_assoc]
    rfl
  · rintro ⟨⟩

/-! ## Trees on indented lines -/

/-- A tree on indented lines is a text of the tree. -/
lemma spells_renderPretty {t : Json} (ht : Writable t) (level : Nat) :
    Spells t (Utf8.encode (renderPretty level t)) := by
  induction ht generalizing level with
  | null => exact .scalar .null rfl
  | bool b => cases b <;> exact .scalar (.bool _) rfl
  | number h => exact .scalar (.number h) rfl
  | string s => exact .scalar (.string s) rfl
  | @array items h ih =>
    have hitems := Spells.ofItems (fun t => Utf8.encode (renderPretty (level + 1) t))
      (blank_newline (level + 1)) (blank_newline level) fun t ht => ih t ht (level + 1)
    cases items with
    | nil =>
      rw [renderPretty]
      exact .emptyArray
    | cons t rest =>
      rw [encode_array_cons, ← List.append_assoc]
      exact hitems
  | @object fields hordered h ih =>
    have hfields := Spells.ofFields (fun t => Utf8.encode (renderPretty (level + 1) t))
      (blank_newline (level + 1)) blank_space (blank_newline level) hordered
      fun field hfield => ih field hfield (level + 1)
    cases fields with
    | nil =>
      rw [renderPretty]
      exact .emptyObject
    | cons field rest =>
      obtain ⟨key, t⟩ := field
      rw [encode_object_cons, ← List.append_assoc]
      exact hfields

/-! ## Typed readers -/

section Readers

variable {α β : Type}

/-- Readers that look at the first byte after blanks skip these. -/
lemma skipsBlanks_atValue (read : UInt8 → Bytes → Outcome α) : SkipsBlanks (atValue read) := by
  intro gap hgap input
  unfold atValue
  rw [hgap.skipSpace_append]

/-- Changing what is read skips no less. -/
lemma SkipsBlanks.map {item : Bytes → Outcome α} (h : SkipsBlanks item) (f : α → β) :
    SkipsBlanks fun input => (item input).map f := by
  intro gap hgap input
  dsimp only
  rw [h gap hgap]

/-- Changing what is read. -/
lemma Reads.map {item : Bytes → Outcome α} {text : Bytes} {a : α} (h : Reads item text a)
    (f : α → β) : Reads (fun input => (item input).map f) text (f a) := by
  intro rest hrest
  dsimp only
  rw [h rest hrest]
  rfl

/-- A reader that is offered a byte right away looks at it. -/
lemma atValue_cons (read : UInt8 → Bytes → Outcome α) {b : UInt8} (hb : isSpace b = false)
    (rest : Bytes) : atValue read (b :: rest) = read b rest := by
  unfold atValue
  rw [skipSpace_cons hb]

/-- An unsigned 32-bit integer is a finite number and written by its digits. -/
lemma exists_finite_ofUInt32 (n : UInt32) : ∃ negative word,
    Binary64.ofUInt32 n = .finite negative word ∧
      Binary64.finite negative word ≠ .negativeZero ∧
      numberText (.finite negative word) = toString n.toNat := by
  have hlt := n.toNat_lt
  have hexact : (Binary64.ofUInt32 n).toExactInt? = some (n.toNat : Int) :=
    Binary64.toExactInt?_ofInt (n := (n.toNat : Int)) (by omega)
  obtain ⟨hzero, hint⟩ : Binary64.ofUInt32 n ≠ .negativeZero ∧
      (Binary64.ofUInt32 n).toInt? = some (n.toNat : Int) := by
    unfold Binary64.toExactInt? at hexact
    split_ifs at hexact with hzero
    exact ⟨hzero, hexact⟩
  generalize Binary64.ofUInt32 n = x at hzero hint
  cases x with
  | nan => cases hint
  | infinity negative => cases hint
  | finite negative word =>
    refine ⟨negative, word, rfl, hzero, ?_⟩
    rw [numberText, hint]
    dsimp only
    rw [if_pos (by rw [maxSafeInteger]; omega)]
    rfl

/-- A numeral that is in range is the one that was read. -/
lemma eq_of_checkRange {outcome : Outcome Numeral} {r : Numeral × Bytes}
    (h : checkRange outcome = .ok r) : outcome = .ok r := by
  unfold checkRange at h
  split at h
  · split at h
    · exact h
    · cases h
  · cases h

/-- The text of an unsigned 32-bit integer starts with a digit and is read as its digits. -/
lemma readNumber_ofUInt32 (n : UInt32) :
    ∃ b tail, Utf8.encode (numberText (.ofUInt32 n)) = b :: tail ∧ isDigit b = true ∧
      ∀ rest, EndsNumber rest →
        readNumber (b :: tail ++ rest) = .ok (⟨false, n.toNat, 0, true⟩, rest) := by
  obtain ⟨negative, word, hfinite, hzero, htext⟩ := exists_finite_ofUInt32 n
  obtain ⟨b, tail, numeral, hbytes, -, -, hnumber⟩ := readNumber_numberText hzero
  have hunsigned : ∀ rest, EndsNumber rest →
      readUnsigned false (b :: tail ++ rest) = .ok (⟨false, n.toNat, 0, true⟩, rest) := by
    intro rest hrest
    rw [← hbytes, htext]
    exact readUnsigned_toString n.toNat false hrest
  obtain ⟨_, _, hhead, hdigit⟩ :=
    exists_digit_of_readUnsigned (hunsigned [] (by rintro b more ⟨⟩))
  obtain ⟨rfl, -⟩ := List.cons.inj hhead
  have hminus : b ≠ ascii '-' := by
    rintro rfl
    exact absurd hdigit (by decide)
  refine ⟨b, tail, by rw [hfinite, hbytes], hdigit, fun rest hrest => ?_⟩
  -- the digits are read without a sign, so this is the only numeral that can have been read
  have hread := hnumber rest hrest
  have hchecked := hread
  rw [List.cons_append, readNumber, if_neg hminus, ← List.cons_append] at hchecked
  rw [hread, ← eq_of_checkRange hchecked, hunsigned rest hrest]

/-- An unsigned 32-bit integer is read back. -/
lemma reads_uint32 (level : Nat) (n : UInt32) :
    Reads readUInt32 (Utf8.encode (renderPretty level (.number (.ofUInt32 n)))) n := by
  intro rest hrest
  have hlt := n.toNat_lt
  obtain ⟨b, tail, hbytes, hdigit, hread⟩ := readNumber_ofUInt32 n
  have hfound : Numeral.found ⟨false, n.toNat, 0, true⟩ = .integer n.toNat := by
    have hsmall : n.toNat < UInt64.size := by
      rw [show UInt64.size = 18446744073709551616 from rfl]
      omega
    unfold Numeral.found
    rw [if_pos (by simpa using hsmall)]
  rw [renderPretty, hbytes, List.cons_append, readUInt32,
    atValue_cons _ (isSpace_of_isDigit hdigit), if_pos (by simp [hdigit]), ← List.cons_append,
    hread rest hrest]
  dsimp only
  rw [hfound]
  dsimp only
  rw [if_pos (by rw [show UInt32.size = 4294967296 from rfl]; omega), Int.toNat_natCast]
  exact congrArg (fun k => Except.ok (k, rest)) UInt32.ofNat_toNat

/-- A truth value is read back. -/
lemma reads_bool (level : Nat) (b : Bool) :
    Reads readBool (Utf8.encode (renderPretty level (.bool b))) b := by
  intro rest _
  rw [readBool]
  cases b <;> rw [renderPretty] <;> rfl

/-- A text is read back. -/
lemma reads_text (level : Nat) (s : String) :
    Reads readText (Utf8.encode (renderPretty level (.string s))) s := by
  intro rest _
  rw [renderPretty, encode_quote, List.cons_append, List.append_assoc, readText,
    atValue_cons _ (by decide), if_pos rfl, List.singleton_append]
  exact readString_escaped s

/-- A value on a line of its own is an item if it is read back and starts one. -/
lemma isItem_onLine {item : Bytes → Outcome α} {level : Nat} {t : Json} {a : α}
    (hread : Reads item (Utf8.encode (renderPretty level t)) a)
    (hstarts : StartsItem (Utf8.encode (renderPretty level t))) :
    IsItem item (onLine level t) a :=
  hstarts.isItem hread (blank_newline level)

/-- A list of texts is read back. -/
lemma reads_texts (level : Nat) (texts : List String) :
    Reads (readListOf readText) (Utf8.encode (renderPretty level (.array (texts.map .string))))
      texts := by
  intro rest _
  cases texts with
  | nil =>
    rw [List.map_nil, renderPretty]
    rfl
  | cons s texts =>
    have hitem : ∀ s, IsItem readText (onLine (level + 1) (.string s)) s := by
      intro s
      refine isItem_onLine (reads_text (level + 1) s) ?_
      rw [renderPretty, encode_quote]
      exact ⟨_, _, rfl, by decide, by decide⟩
    have htexts : ∀ p ∈ texts.map fun s => (onLine (level + 1) (.string s), s),
        IsItem readText p.1 p.2 := List.forall_mem_map.2 fun s _ => hitem s
    have hsame : (texts.map fun s => (onLine (level + 1) (.string s), s)).map (·.2) = texts := by
      rw [List.map_map]
      exact List.map_id _
    have hbound : texts.length <
        (onLine (level + 1) (.string s) ++ (behindCommas (texts.map fun s =>
          onLine (level + 1) (.string s)) ++ (Utf8.encode (newline level) ++
            ascii ']' :: rest))).length := by
      have hcount :=
        (length_le_behindCommas (texts.map fun s => onLine (level + 1) (.string s))).1
      rw [List.length_map] at hcount
      simp only [List.length_append, List.length_cons]
      omega
    have hread := readList_behindCommas (hitem s) htexts (blank_newline level)
      (by rw [List.length_map]; exact hbound) rest
    rw [hsame, List.map_map] at hread
    rw [List.map_cons, encode_array_cons, List.cons_append, readListOf, atValue_cons _ (by decide),
      if_pos rfl]
    simp only [List.append_assoc, List.singleton_append, List.map_map]
    exact hread

/-- A value stands behind the blank that follows a colon. -/
lemma Reads.behind_space {item : Bytes → Outcome α} {text : Bytes} {a : α} (h : Reads item text a)
    (hskips : SkipsBlanks item) : Reads item (ascii ' ' :: text) a :=
  h.behind hskips blank_space

/-- A table is read back if its values are. -/
lemma reads_table {item : Bytes → Outcome α} (hskips : SkipsBlanks item) {toTree : α → Json}
    (level : Nat) (hitem : ∀ a, Reads item (Utf8.encode (renderPretty (level + 1) (toTree a))) a)
    (t : Table String α) :
    Reads (readTableOf item)
      (Utf8.encode (renderPretty level (.object (t.entries.map fun (key, a) => (key, toTree a)))))
      t := by
  intro rest _
  obtain ⟨entries, hordered⟩ := t
  have hofList : Table.ofList entries = ⟨entries, hordered⟩ :=
    Table.ext (Assoc.ofList_of_ordered hordered)
  cases entries with
  | nil =>
    rw [List.map_nil, renderPretty]
    rfl
  | cons entry entries =>
    obtain ⟨key, a⟩ := entry
    let text (a : α) : Bytes := ascii ' ' :: Utf8.encode (renderPretty (level + 1) (toTree a))
    have htext : ∀ a, Reads item (text a) a := fun a => (hitem a).behind_space hskips
    let fields : List (FieldText α) := entries.map fun f => (f.1, text f.2, f.2)
    have hfields : ∀ f ∈ fields, Reads item f.2.1 f.2.2 :=
      List.forall_mem_map.2 fun f _ => htext f.2
    have hsame : (fields.map fun f => (f.1, f.2.2)) = entries := by
      rw [List.map_map]
      exact List.map_id _
    let lines : List Bytes :=
      fields.map fun f => Utf8.encode (newline (level + 1)) ++ keyed f.1 f.2.1
    have hbytes : Utf8.encode (renderPretty level (.object
          (((key, a) :: entries).map fun (key, a) => (key, toTree a)))) ++ rest =
        ascii '\x7b' :: (Utf8.encode (newline (level + 1)) ++ (keyed key (text a) ++
          (behindCommas lines ++ (Utf8.encode (newline level) ++ ascii '\x7d' :: rest)))) := by
      rw [List.map_cons, encode_object_cons, List.map_map]
      simp only [fieldOnLine, List.append_assoc, List.cons_append, List.nil_append, lines, fields,
        List.map_map]
      rfl
    have hbound : fields.length < (Utf8.encode (newline (level + 1)) ++ (keyed key (text a) ++
        (behindCommas lines ++ (Utf8.encode (newline level) ++ ascii '\x7d' :: rest)))).length := by
      have hcount := (length_le_behindCommas lines).1
      rw [List.length_map] at hcount
      simp only [List.length_append, List.length_cons]
      omega
    rw [hbytes, readTableOf, atValue_cons _ (by decide), if_pos rfl,
      readObject_behindCommas (blank_newline (level + 1)) (htext a) hfields
        (by rw [hsame]; exact hordered) (blank_newline level) hbound rest]
    dsimp only
    rw [hsame, hofList]

/-- The first key of a record. -/
lemma nextKey_first {gap : Bytes} (hgap : Blank gap) (rest : Bytes) :
    TwoFields.nextKey true (gap ++ ascii '\x22' :: rest) = .ok (some rest) := by
  rw [TwoFields.nextKey, hgap.skipSpace_cons (by decide)]
  rfl

/-- A later key of a record stands behind a comma. -/
lemma nextKey_comma {gap : Bytes} (hgap : Blank gap) (rest : Bytes) :
    TwoFields.nextKey false (ascii ',' :: (gap ++ ascii '\x22' :: rest)) = .ok (some rest) := by
  rw [TwoFields.nextKey, skipSpace_cons (by decide)]
  dsimp only
  rw [if_neg (by decide), if_neg (by decide), if_pos rfl, hgap.skipSpace_cons (by decide)]
  rfl

/-- The first round of reading a record takes the required field. -/
lemma readFields_first (r : TwoFields α β) (bound : Nat) {gap : Bytes} (hgap : Blank gap)
    {text : Bytes} {a : α} (htext : Reads r.readFirst text a) {rest : Bytes}
    (hrest : EndsNumber rest) :
    r.readFields (bound + 1) true none none (gap ++ (keyed r.first text ++ rest)) =
      r.readFields bound false (some a) none rest := by
  rw [keyed_append, TwoFields.readFields, nextKey_first hgap, ok_bind]
  dsimp only
  rw [readString_escaped, ok_bind]
  dsimp only
  rw [if_pos rfl, if_neg (by rintro ⟨⟩), readColon_cons, ok_bind, htext rest hrest, ok_bind]

/-- The next round takes the field that has a default. -/
lemma readFields_second (r : TwoFields α β) (hne : r.second ≠ r.first) (bound : Nat) (a : Option α)
    {gap : Bytes} (hgap : Blank gap) {text : Bytes} {b : β} (htext : Reads r.readSecond text b)
    {rest : Bytes} (hrest : EndsNumber rest) :
    r.readFields (bound + 1) false a none (ascii ',' :: (gap ++ (keyed r.second text ++ rest))) =
      r.readFields bound false a (some b) rest := by
  rw [keyed_append, TwoFields.readFields, nextKey_comma hgap, ok_bind]
  dsimp only
  rw [readString_escaped, ok_bind]
  dsimp only
  rw [if_neg hne, if_pos rfl, if_neg (by rintro ⟨⟩), readColon_cons, ok_bind, htext rest hrest,
    ok_bind]

/-- The last round meets the end of the record. -/
lemma readFields_close (r : TwoFields α β) (bound : Nat) (a : α) (b : β) {gap : Bytes}
    (hgap : Blank gap) (rest : Bytes) :
    r.readFields (bound + 1) false (some a) (some b) (gap ++ ascii '\x7d' :: rest) =
      .ok ((a, b), rest) := by
  rw [TwoFields.readFields, TwoFields.nextKey, TwoFields.afterClosing,
    hgap.skipSpace_cons (by decide)]
  rfl

/-- A record of two fields is read back if its fields are. -/
lemma reads_twoFields {r : TwoFields α β} (hne : r.second ≠ r.first)
    (hskipsFirst : SkipsBlanks r.readFirst) (hskipsSecond : SkipsBlanks r.readSecond) (level : Nat)
    {t u : Json} {a : α} {b : β}
    (hfirst : Reads r.readFirst (Utf8.encode (renderPretty (level + 1) t)) a)
    (hsecond : Reads r.readSecond (Utf8.encode (renderPretty (level + 1) u)) b) :
    Reads r.read (Utf8.encode (renderPretty level (.object [(r.first, t), (r.second, u)])))
      (a, b) := by
  intro rest _
  have hends := (blank_newline level).endsNumber_objectEnd rest
  rw [encode_object_cons, List.map_cons, List.map_nil, behindCommas_cons, List.cons_append,
    TwoFields.read, atValue_cons _ (by decide), if_neg (by decide), if_pos rfl]
  simp only [fieldOnLine, behindCommas, List.flatMap_nil, List.append_assoc, List.cons_append,
    List.nil_append, List.append_nil]
  -- every round reads a byte at least, so the bound leaves room for three
  generalize hbound : List.length _ = bound
  have hrounds : ∃ more, bound = more + 2 := by
    refine Nat.exists_eq_add_of_le' ?_
    rw [← hbound]
    simp only [List.length_append, List.length_cons]
    omega
  obtain ⟨more, rfl⟩ := hrounds
  rw [readFields_first r _ (blank_newline _) (hfirst.behind_space hskipsFirst)
      (endsNumber_cons (by decide) (by decide) (by decide)),
    readFields_second r hne _ _ (blank_newline _) (hsecond.behind_space hskipsSecond) hends,
    readFields_close r _ a b (blank_newline _)]

end Readers

end SessionVault.Json
