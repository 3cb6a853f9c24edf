import SessionVault.Proofs.Json.Spelling
/-!
# JSON texts read back

A tree that is written on one line is read back as it was: `parse_render`.  One line is a layout
without blanks, so this is an instance of what holds of texts in any layout.  Of the texts that
denote objects it is shown that they open with a brace.
-/

namespace SessionVault.Json

/-! ## Trees on one line -/

/-- The bytes of items. -/
lemma encode_renderItems (items : List Json) :
    Utf8.encode (renderItems items) = joined (items.map fun t => Utf8.encode (render t)) := by
  induction items with
  | nil => rfl
  | cons item rest ih =>
    cases rest with
    | nil => rw [renderItems, List.map_cons, List.map_nil, joined_singleton]
    | cons next rest =>
      rw [renderItems, Utf8.encode_append, Utf8.encode_append, ih, List.map_cons, List.map_cons,
        List.map_cons, joined_cons_cons, List.append_assoc]
      rfl

/-- The bytes of fields. -/
lemma encode_renderFields (fields : List (String × Json)) :
    Utf8.encode (renderFields fields) =
      joined (fields.map fun field => keyed field.1 (Utf8.encode (render field.2))) := by
  have hcolon : Utf8.encode ":" = [ascii ':'] := rfl
  have hcomma : Utf8.encode "," = [ascii ','] := rfl
  induction fields with
  | nil => rfl
  | cons field rest ih =>
    obtain ⟨key, t⟩ := field
    cases rest with
    | nil =>
      rw [renderFields, Utf8.encode_append, Utf8.encode_append, encode_quote, hcolon,
        List.map_cons, List.map_nil, joined_singleton]
      simp only [keyed, List.append_assoc, List.cons_append, List.nil_append]
    | cons next rest =>
      rw [renderFields, Utf8.encode_append, Utf8.encode_append, Utf8.encode_append,
        Utf8.encode_append, ih, encode_quote, hcolon, hcomma, List.map_cons, List.map_cons,
        List.map_cons, joined_cons_cons]
      simp only [keyed, List.append_assoc, List.cons_append, List.nil_append]

/-- A tree on one line is a text of the tree. -/
lemma spells_render {t : Json} (ht : Writable t) : Spells t (Utf8.encode (render t)) := by
  induction ht with
  | null => exact .scalar .null rfl
  | bool b => exact .scalar (.bool b) rfl
  | number h => exact .scalar (.number h) rfl
  | string s => exact .scalar (.string s) rfl
  | array h ih =>
    have hopen : Utf8.encode "[" = [ascii '['] := rfl
    have hclose : Utf8.encode "]" = [ascii ']'] := rfl
    have hitems := Spells.ofItems (Utf8.encode ∘ render) blank_nil blank_nil ih
    rw [render, Utf8.encode_append, Utf8.encode_append, encode_renderItems, hopen, hclose,
      List.append_assoc]
    exact hitems
  | object hordered h ih =>
    have hopen : Utf8.encode "\x7b" = [ascii '\x7b'] := rfl
    have hclose : Utf8.encode "\x7d" = [ascii '\x7d'] := rfl
    have hfields := Spells.ofFields (Utf8.encode ∘ render) blank_nil blank_nil blank_nil hordered ih
    rw [render, Utf8.encode_append, Utf8.encode_append, encode_renderFields, hopen, hclose,
      List.append_assoc]
    exact hfields

/-- The text of a writable tree that is not nested too deeply reads as the tree. -/
theorem parse_render {t : Json} (ht : Writable t) (hdepth : t.depth ≤ maxDepth) :
    parse (render t) = .ok t :=
  (spells_render ht).parse_eq hdepth

/-! ## Texts of objects -/

/-- A literal word gives its value. -/
lemma eq_of_readWord {α : Type} {value a : α} {word : List Char} {input rest : Bytes}
    (h : readWord value word input = .ok (a, rest)) : a = value := by
  induction word generalizing input with
  | nil => exact (Prod.mk.inj (Except.ok.inj h)).1.symm
  | cons c word ih =>
    cases input with
    | nil => cases h
    | cons b input =>
      rw [readWord] at h
      split at h
      · exact ih h
      · cases h

/-- A changed reading has a changed value. -/
lemma exists_of_map_eq_ok {α β : Type} {f : α → β} {outcome : Outcome α} {b : β} {rest : Bytes}
    (h : Outcome.map f outcome = .ok (b, rest)) : ∃ a, f a = b := by
  rcases outcome with stop | ⟨a, rest'⟩
  · cases h
  · exact ⟨a, (Prod.mk.inj (Except.ok.inj h)).1⟩

/-- An object is read where a brace opens. -/
lemma exists_brace_of_readTree {bound depth : Nat} {input rest : Bytes}
    {fields : List (String × Json)} (h : readTree bound depth input = .ok (.object fields, rest)) :
    ∃ more, skipSpace input = ascii '\x7b' :: more := by
  rw [readTree.eq_def] at h
  dsimp only at h
  cases hskip : skipSpace input with
  | nil =>
    rw [hskip] at h
    cases h
  | cons b more =>
    rw [hskip] at h
    dsimp only at h
    split_ifs at h with hn ht hf hquote hnumber hlist hbrace
    · cases eq_of_readWord h
    · cases eq_of_readWord h
    · cases eq_of_readWord h
    · obtain ⟨_, ⟨⟩⟩ := exists_of_map_eq_ok h
    · obtain ⟨_, ⟨⟩⟩ := exists_of_map_eq_ok h
    · cases depth with
      | zero => cases h
      | succ depth => obtain ⟨_, ⟨⟩⟩ := exists_of_map_eq_ok h
    · exact ⟨more, by rw [hbrace]⟩

/-- A text that denotes an object opens with a brace, blanks apart. -/
lemma exists_brace_of_parse {text : String} {fields : List (String × Json)}
    (h : parse text = .ok (.object fields)) :
    ∃ more, skipSpace (Utf8.encode text) = ascii '\x7b' :: more := by
  rw [parse, parseBytes] at h
  rcases hread : readTree (Utf8.encode text).length maxDepth (Utf8.encode text) with
    stop | ⟨t, rest⟩
  · rw [hread] at h
    cases h
  · rw [hread, readEnd] at h
    split at h
    · obtain rfl := Except.ok.inj h
      exact exists_brace_of_readTree hread
    · cases h

end SessionVault.Json
