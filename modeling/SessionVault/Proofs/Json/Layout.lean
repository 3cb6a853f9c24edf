import SessionVault.Proofs.Json.Number
import SessionVault.Proofs.Table
/-!
# The pieces of JSON texts in any layout

Strings, lists and objects are read back from their texts whatever blanks stand between their
tokens.  Strings are read by a machine that takes a byte at a time, so their lemma follows one
character at a time through its states.  Lists and objects are read by loops over a reader for
their items; their lemmas assume of that reader only what it does on the items at hand (`Reads`).
-/

namespace SessionVault.Json

/-! ## Strings -/

section Strings

variable {acc rest : Bytes}

/-- Bytes that stand for themselves. -/
lemma readStringOnto_plain {bytes : Bytes}
    (h : ∀ b ∈ bytes, b ≠ ascii '\x22' ∧ b ≠ ascii '\\' ∧ ¬b < 0x20) :
    readStringOnto .plain acc (bytes ++ rest) =
      readStringOnto .plain (bytes.reverse ++ acc) rest := by
  induction bytes generalizing acc with
  | nil => rfl
  | cons b bytes ih =>
    obtain ⟨hquote, hslash, hcontrol⟩ := h b List.mem_cons_self
    rw [List.cons_append, readStringOnto, if_neg hquote, stringStep, if_neg hslash,
      if_neg hcontrol]
    dsimp only
    rw [ih fun b hb => h b (List.mem_cons_of_mem _ hb), @List.reverse_cons _ b bytes,
      List.append_assoc]
    rfl

/-- The bytes of a character that needs no escape stand for themselves. -/
lemma plain_of_mem_encodeChar {c : Char} (hquote : c ≠ '\x22') (hslash : c ≠ '\\')
    (hcontrol : ¬c.toNat < 0x20) :
    ∀ b ∈ String.utf8EncodeChar c, b ≠ ascii '\x22' ∧ b ≠ ascii '\\' ∧ ¬b < 0x20 := by
  intro b hb
  by_cases hascii : c.toNat < 0x80
  · rw [Utf8.encodeChar_ascii hascii, List.mem_singleton] at hb
    subst hb
    have hnat := Utf8.ascii_toNat hascii
    have hinj : ∀ d : Char, d.toNat < 0x80 → c ≠ d → ascii c ≠ ascii d := by
      intro d hd hne heq
      have := congrArg UInt8.toNat heq
      rw [hnat, Utf8.ascii_toNat hd] at this
      exact hne (Char.toNat_inj.1 this)
    refine ⟨hinj _ (by decide) hquote, hinj _ (by decide) hslash, ?_⟩
    rw [UInt8.lt_iff_toNat_lt, hnat]
    exact hcontrol
  · have hhigh := Utf8.le_of_mem_encodeChar hascii hb
    refine ⟨?_, ?_, ?_⟩
    · rintro rfl
      exact absurd hhigh (by decide)
    · rintro rfl
      exact absurd hhigh (by decide)
    · rw [UInt8.lt_iff_toNat_lt]
      change ¬b.toNat < 32
      omega

/-- The digits of a hexadecimal escape. -/
lemma hexValue?_hexChar : ∀ n < 0x20, hexValue? [ascii '0', ascii '0', ascii (hexChar (n / 16)),
    ascii (hexChar (n % 16))] = some n := by
  decide

/-- Hexadecimal escapes are ASCII. -/
lemma ascii_hexEscape {n : Nat} (hn : n < 0x20) :
    ∀ c ∈ ['\\', 'u', '0', '0', hexChar (n / 16), hexChar (n % 16)], c.toNat < 0x80 := by
  have hdigit : ∀ k < 16, (hexChar k).toNat < 0x80 := by decide
  simp only [List.forall_mem_cons]
  exact ⟨by decide, by decide, by decide, by decide, hdigit _ (by omega), hdigit _ (by omega),
    by simp⟩

/-- The hexadecimal escape of a control character. -/
lemma readStringOnto_hex {c : Char} (hc : c.toNat < 0x20) :
    readStringOnto .plain acc (['\\', 'u', '0', '0', hexChar (c.toNat / 16),
      hexChar (c.toNat % 16)].map ascii ++ rest) =
        readStringOnto .plain ((String.utf8EncodeChar c).reverse ++ acc) rest := by
  have hunit : unitOfHex none c.toNat = .ok (.plain, String.utf8EncodeChar c) := by
    rw [unitOfHex, if_neg (by simp; omega), if_neg (by simp; omega), Char.ofNat_toNat]
  have hstep : stringStep (.hex none [ascii '0', ascii '0', ascii (hexChar (c.toNat / 16))])
      (ascii (hexChar (c.toNat % 16))) = .ok (.plain, String.utf8EncodeChar c) := by
    rw [stringStep, if_neg (by simp), List.cons_append, List.cons_append, List.cons_append,
      List.nil_append, hexValue?_hexChar _ hc]
    exact hunit
  change readStringOnto (.hex none [ascii '0', ascii '0', ascii (hexChar (c.toNat / 16))]) acc
    (ascii (hexChar (c.toNat % 16)) :: rest) = _
  rw [readStringOnto, hstep]
  intro h
  cases h

/-- A character is read from its escape or from its bytes. -/
lemma readStringOnto_escapeChar (c : Char) :
    readStringOnto .plain acc ((escapeChar c).flatMap String.utf8EncodeChar ++ rest) =
      readStringOnto .plain ((String.utf8EncodeChar c).reverse ++ acc) rest := by
  unfold escapeChar
  split_ifs with hquote hslash hback hform hline hreturn htab hcontrol
  · subst hquote; rfl
  · subst hslash; rfl
  · subst hback; rfl
  · subst hform; rfl
  · subst hline; rfl
  · subst hreturn; rfl
  · subst htab; rfl
  · rw [Utf8.flatMap_encodeChar_ascii (ascii_hexEscape hcontrol)]
    exact readStringOnto_hex hcontrol
  · rw [List.flatMap_singleton]
    exact readStringOnto_plain (plain_of_mem_encodeChar hquote hslash hcontrol)

/-- Characters are read one after another up to the closing quote. -/
lemma readStringOnto_escaped (cs : List Char) :
    readStringOnto .plain acc
      ((cs.flatMap escapeChar).flatMap String.utf8EncodeChar ++ ascii '\x22' :: rest) =
        .ok (acc.reverse ++ cs.flatMap String.utf8EncodeChar, rest) := by
  induction cs generalizing acc with
  | nil =>
    change Except.ok (acc.reverse, rest) = _
    rw [List.flatMap_nil, List.append_nil]
  | cons c cs ih =>
    rw [List.flatMap_cons, List.flatMap_append, List.append_assoc, readStringOnto_escapeChar, ih,
      List.reverse_append, List.reverse_reverse, List.append_assoc, List.flatMap_cons]

/-- A string is read back. -/
lemma readString_escaped (s : String) :
    readString (Utf8.encode (String.ofList (s.toList.flatMap escapeChar)) ++
      ascii '\x22' :: rest) = .ok (s, rest) := by
  have hbytes : s.toList.flatMap String.utf8EncodeChar = Utf8.encode s := rfl
  rw [readString, Utf8.encode_ofList, readStringOnto_escaped, List.reverse_nil, List.nil_append,
    hbytes]
  dsimp only
  rw [Utf8.decode_encode]

/-- The bytes of a quoted string. -/
lemma encode_quote (s : String) :
    Utf8.encode (quote s) = ascii '\x22' ::
      (Utf8.encode (String.ofList (s.toList.flatMap escapeChar)) ++ [ascii '\x22']) := by
  have hquote : Utf8.encode "\"" = [ascii '\x22'] := rfl
  rw [quote, Utf8.encode_append, Utf8.encode_append, hquote, List.append_assoc,
    List.singleton_append]

end Strings

/-! ## Blanks -/

/-- Bytes that may stand between tokens. -/
def Blank (gap : Bytes) : Prop := ∀ b ∈ gap, isSpace b = true

/-- No bytes at all are blank. -/
lemma blank_nil : Blank [] := by
  intro b hb
  cases hb

/-- A space is blank. -/
lemma blank_space : Blank [ascii ' '] := by
  intro b hb
  obtain rfl := List.mem_singleton.1 hb
  rfl

/-- Skipping stops at a byte that is not blank. -/
lemma skipSpace_cons {b : UInt8} (hb : isSpace b = false) (rest : Bytes) :
    skipSpace (b :: rest) = b :: rest := by
  rw [skipSpace, List.dropWhile_cons, hb]
  rfl

/-- Blanks are skipped. -/
lemma Blank.skipSpace_append {gap : Bytes} (h : Blank gap) (rest : Bytes) :
    skipSpace (gap ++ rest) = skipSpace rest :=
  List.dropWhile_append_of_pos h

/-- Blanks are skipped up to a byte that is not blank. -/
lemma Blank.skipSpace_cons {gap : Bytes} (h : Blank gap) {b : UInt8} (hb : isSpace b = false)
    (rest : Bytes) : skipSpace (gap ++ b :: rest) = b :: rest := by
  rw [h.skipSpace_append, Json.skipSpace_cons hb]

/-- Blanks by their numbers. -/
lemma toNat_of_isSpace {b : UInt8} (h : isSpace b = true) :
    b.toNat = 0x20 ∨ b.toNat = 0x0A ∨ b.toNat = 0x09 ∨ b.toNat = 0x0D := by
  simp only [isSpace, Bool.or_eq_true, decide_eq_true_eq] at h
  rcases h with ((rfl | rfl) | rfl) | rfl <;> decide

/-- Digits are not blank. -/
lemma isSpace_of_isDigit {b : UInt8} (h : isDigit b = true) : isSpace b = false := by
  rw [Bool.eq_false_iff]
  intro hspace
  have hnat := toNat_of_isSpace hspace
  simp only [isDigit, Bool.and_eq_true, decide_eq_true_eq, UInt8.le_iff_toNat_le] at h
  change 48 ≤ b.toNat ∧ b.toNat ≤ 57 at h
  omega

/-- A byte that ends a number. -/
lemma endsNumber_cons {b : UInt8} {rest : Bytes} (hdigit : isDigit b = false)
    (hmark : isExponentMark b = false) (hpoint : b ≠ ascii '.') : EndsNumber (b :: rest) := by
  rintro b' more heq
  obtain ⟨rfl, -⟩ := List.cons.inj heq
  exact ⟨hdigit, hmark, hpoint⟩

/-- A blank ends a number. -/
lemma endsNumber_of_isSpace {b : UInt8} (hb : isSpace b = true) (rest : Bytes) :
    EndsNumber (b :: rest) := by
  simp only [isSpace, Bool.or_eq_true, decide_eq_true_eq] at hb
  rcases hb with ((rfl | rfl) | rfl) | rfl <;>
    exact endsNumber_cons (by decide) (by decide) (by decide)

/-- What follows blanks ends a number if it does so itself. -/
lemma Blank.endsNumber {gap rest : Bytes} (h : Blank gap) (hrest : EndsNumber rest) :
    EndsNumber (gap ++ rest) := by
  cases gap with
  | nil => exact hrest
  | cons b gap => exact endsNumber_of_isSpace (h b List.mem_cons_self) _

/-! ## Lists -/

section Lists

variable {α : Type} {item : Bytes → Outcome α}

/-- A reader takes a text for a value, whatever ends a number follows. -/
def Reads (item : Bytes → Outcome α) (text : Bytes) (a : α) : Prop :=
  ∀ rest, EndsNumber rest → item (text ++ rest) = .ok (a, rest)

/-- A reader stops in a text for a cause, whatever follows. -/
def StopsIn (item : Bytes → Outcome α) (cause : Cause) (text : Bytes) : Prop :=
  ∀ rest, ∃ unread, item (text ++ rest) = .error ⟨cause, unread⟩

/-- A reader that skips blanks first. -/
def SkipsBlanks (item : Bytes → Outcome α) : Prop :=
  ∀ gap, Blank gap → ∀ input, item (gap ++ input) = item input

/-- A value may stand behind blanks. -/
lemma Reads.behind {text : Bytes} {a : α} (h : Reads item text a) (hskips : SkipsBlanks item)
    {gap : Bytes} (hgap : Blank gap) : Reads item (gap ++ text) a := by
  intro rest hrest
  rw [List.append_assoc, hskips gap hgap]
  exact h rest hrest

/-- A reader that stops in a text does so behind blanks. -/
lemma StopsIn.behind {cause : Cause} {text : Bytes} (h : StopsIn item cause text)
    (hskips : SkipsBlanks item) {gap : Bytes} (hgap : Blank gap) :
    StopsIn item cause (gap ++ text) := by
  intro rest
  rw [List.append_assoc, hskips gap hgap]
  exact h rest

/-- A text starts with a byte that is neither blank nor the end of a list. -/
def StartsItem (text : Bytes) : Prop :=
  ∃ b tail, text = b :: tail ∧ isSpace b = false ∧ b ≠ ascii ']'

/-- A text is an item of a list: after blanks, it starts with a byte that does not end the list, and
from there it is taken for a value. -/
def IsItem (item : Bytes → Outcome α) (text : Bytes) (a : α) : Prop :=
  ∃ gap b tail, text = gap ++ b :: tail ∧ Blank gap ∧ isSpace b = false ∧ b ≠ ascii ']' ∧
    Reads item (b :: tail) a

/-- A text that starts an item and is read is one, behind any blanks. -/
lemma StartsItem.isItem {text : Bytes} {a : α} (h : StartsItem text) (hread : Reads item text a)
    {gap : Bytes} (hgap : Blank gap) : IsItem item (gap ++ text) a := by
  obtain ⟨b, tail, rfl, hspace, hend⟩ := h
  exact ⟨gap, b, tail, rfl, hgap, hspace, hend, hread⟩

/-- Texts that each stand behind a comma. -/
def behindCommas (texts : List Bytes) : Bytes := texts.flatMap fun text => ascii ',' :: text

/-- The next text stands behind a comma. -/
lemma behindCommas_cons (text : Bytes) (texts : List Bytes) :
    behindCommas (text :: texts) = ascii ',' :: (text ++ behindCommas texts) := rfl

/-- Texts with commas between them. -/
def joined : List Bytes → Bytes
  | [] => []
  | text :: texts => text ++ behindCommas texts

/-- A text alone. -/
lemma joined_singleton (text : Bytes) : joined [text] = text := List.append_nil text

/-- The first of several texts is followed by a comma. -/
lemma joined_cons_cons (text next : Bytes) (texts : List Bytes) :
    joined (text :: next :: texts) = text ++ ascii ',' :: joined (next :: texts) := rfl

/-- Texts are fewer and shorter than what joins them. -/
lemma length_le_behindCommas (texts : List Bytes) :
    texts.length ≤ (behindCommas texts).length ∧
      ∀ text ∈ texts, text.length ≤ (behindCommas texts).length := by
  induction texts with
  | nil => exact ⟨Nat.zero_le _, by simp⟩
  | cons text texts ih =>
    rw [behindCommas_cons, List.length_cons, List.length_cons, List.length_append]
    refine ⟨by omega, ?_⟩
    rintro other (_ | ⟨_, hmem⟩)
    · omega
    · exact (ih.2 other hmem).trans (by omega)

/-- Texts are at most one more than the bytes of what joins them, and no longer than it. -/
lemma length_le_joined (texts : List Bytes) :
    texts.length ≤ (joined texts).length + 1 ∧
      ∀ text ∈ texts, text.length ≤ (joined texts).length := by
  cases texts with
  | nil => exact ⟨Nat.zero_le _, by simp⟩
  | cons first texts =>
    have hothers := length_le_behindCommas texts
    rw [joined, List.length_cons, List.length_append]
    refine ⟨by omega, ?_⟩
    rintro text (_ | ⟨_, hmem⟩)
    · omega
    · exact (hothers.2 text hmem).trans (Nat.le_add_left _ _)

/-- What follows an item or a field ends a number. -/
lemma endsNumber_behindCommas (texts : List Bytes) {rest : Bytes} (hrest : EndsNumber rest) :
    EndsNumber (behindCommas texts ++ rest) := by
  cases texts with
  | nil => exact hrest
  | cons => exact endsNumber_cons (by decide) (by decide) (by decide)

/-- The end of a list ends a number. -/
lemma Blank.endsNumber_listEnd {gap : Bytes} (h : Blank gap) (rest : Bytes) :
    EndsNumber (gap ++ ascii ']' :: rest) :=
  h.endsNumber (endsNumber_cons (by decide) (by decide) (by decide))

/-- The end of an object ends a number. -/
lemma Blank.endsNumber_objectEnd {gap : Bytes} (h : Blank gap) (rest : Bytes) :
    EndsNumber (gap ++ ascii '\x7d' :: rest) :=
  h.endsNumber (endsNumber_cons (by decide) (by decide) (by decide))

/-- The loop over the items of a list gets past items, whatever follows them. -/
lemma readItems_past {texts : List (Bytes × α)} (htexts : ∀ p ∈ texts, IsItem item p.1 p.2)
    (bound : Nat) (acc : List α) {rest : Bytes} (hrest : EndsNumber rest) :
    readItems item (texts.length + bound) acc (behindCommas (texts.map (·.1)) ++ rest) =
      readItems item bound ((texts.map (·.2)).reverse ++ acc) rest := by
  induction texts generalizing acc with
  | nil =>
    rw [List.length_nil, Nat.zero_add]
    rfl
  | cons p texts ih =>
    obtain ⟨text, a⟩ := p
    obtain ⟨before, b, tail, rfl, hbefore, hspace, hend, hread⟩ :=
      htexts (text, a) List.mem_cons_self
    have hnext := hread _ (endsNumber_behindCommas (texts.map (·.1)) hrest)
    rw [List.length_cons, Nat.succ_add, List.map_cons, behindCommas_cons, List.cons_append,
      List.append_assoc, List.append_assoc, readItems, skipSpace_cons (by decide)]
    dsimp only
    rw [if_neg (by decide), if_pos rfl, List.cons_append, hbefore.skipSpace_cons hspace]
    dsimp only
    rw [if_neg hend, ← List.cons_append, hnext]
    dsimp only
    rw [ih fun p hp => htexts p (List.mem_cons_of_mem _ hp), List.map_cons, List.reverse_cons,
      List.append_assoc]
    rfl

/-- The loop over the items of a list. -/
lemma readItems_behindCommas {texts : List (Bytes × α)} (htexts : ∀ p ∈ texts, IsItem item p.1 p.2)
    {gap : Bytes} (hgap : Blank gap) {bound : Nat} (hbound : texts.length < bound) (acc : List α)
    (rest : Bytes) :
    readItems item bound acc (behindCommas (texts.map (·.1)) ++ (gap ++ ascii ']' :: rest)) =
      .ok (acc.reverse ++ texts.map (·.2), rest) := by
  obtain ⟨more, rfl⟩ := Nat.exists_eq_add_of_lt hbound
  rw [Nat.add_assoc, readItems_past htexts _ _ (hgap.endsNumber_listEnd rest), readItems,
    hgap.skipSpace_cons (by decide)]
  dsimp only
  rw [if_pos rfl, List.reverse_append, List.reverse_reverse]

/-- A list without items is read. -/
lemma readList_nil {gap : Bytes} (hgap : Blank gap) (bound : Nat) (rest : Bytes) :
    readList item bound (gap ++ ascii ']' :: rest) = .ok ([], rest) := by
  rw [readList, hgap.skipSpace_cons (by decide)]
  exact if_pos rfl

/-- A list with items is read. -/
lemma readList_behindCommas {text : Bytes} {a : α} (htext : IsItem item text a)
    {texts : List (Bytes × α)} (htexts : ∀ p ∈ texts, IsItem item p.1 p.2) {gap : Bytes}
    (hgap : Blank gap) {bound : Nat} (hbound : texts.length < bound) (rest : Bytes) :
    readList item bound
        (text ++ (behindCommas (texts.map (·.1)) ++ (gap ++ ascii ']' :: rest))) =
      .ok (a :: texts.map (·.2), rest) := by
  obtain ⟨before, b, tail, rfl, hbefore, hspace, hend, hread⟩ := htext
  have hnext := hread _ (endsNumber_behindCommas (texts.map (·.1)) (hgap.endsNumber_listEnd rest))
  rw [List.append_assoc, List.cons_append, readList, hbefore.skipSpace_cons hspace]
  dsimp only
  rw [if_neg hend, ← List.cons_append, hnext]
  exact readItems_behindCommas htexts hgap hbound [a] rest

/-- A list is read. -/
lemma readList_joined {texts : List (Bytes × α)} (htexts : ∀ p ∈ texts, IsItem item p.1 p.2)
    {close : Bytes} (hclose : Blank close) {bound : Nat} (hbound : texts.length ≤ bound)
    (rest : Bytes) :
    readList item bound (joined (texts.map (·.1)) ++ (close ++ ascii ']' :: rest)) =
      .ok (texts.map (·.2), rest) := by
  cases texts with
  | nil => exact readList_nil hclose bound rest
  | cons p texts =>
    rw [List.map_cons, joined, List.append_assoc]
    exact readList_behindCommas (htexts p List.mem_cons_self)
      (fun p hp => htexts p (List.mem_cons_of_mem _ hp)) hclose hbound rest

/-- The loop over the items of a list stops at an item that stops its reader. -/
lemma readItems_stop {gap text : Bytes} (hgap : Blank gap) (hstarts : StartsItem text)
    {cause : Cause} (hstop : StopsIn item cause text) (bound : Nat) (acc : List α) :
    StopsIn (readItems item (bound + 1) acc) cause (ascii ',' :: (gap ++ text)) := by
  intro rest
  obtain ⟨b, tail, rfl, hspace, hend⟩ := hstarts
  obtain ⟨unread, hunread⟩ := hstop rest
  refine ⟨unread, ?_⟩
  rw [List.cons_append, List.append_assoc, readItems, skipSpace_cons (by decide)]
  dsimp only
  rw [if_neg (by decide), if_pos rfl, List.cons_append, hgap.skipSpace_cons hspace]
  dsimp only
  rw [if_neg hend, ← List.cons_append, hunread]

/-- A list is not read past an item that stops its reader. -/
lemma readList_stop {before : List (Bytes × α)} (hbefore : ∀ p ∈ before, IsItem item p.1 p.2)
    {gap text : Bytes} (hgap : Blank gap) (hstarts : StartsItem text) {cause : Cause}
    (hstop : StopsIn item cause text) (after : List Bytes) {bound : Nat}
    (hbound : before.length ≤ bound) :
    StopsIn (readList item bound) cause (joined (before.map (·.1) ++ (gap ++ text) :: after)) := by
  intro rest
  cases before with
  | nil =>
    obtain ⟨b, tail, rfl, hspace, hend⟩ := hstarts
    obtain ⟨unread, hunread⟩ := hstop (behindCommas after ++ rest)
    refine ⟨unread, ?_⟩
    rw [List.map_nil, List.nil_append, joined, List.append_assoc, List.append_assoc,
      List.cons_append, readList, hgap.skipSpace_cons hspace]
    dsimp only
    rw [if_neg hend, ← List.cons_append, hunread]
  | cons p before =>
    obtain ⟨first, a⟩ := p
    obtain ⟨opening, b, tail, rfl, hopening, hspace, hend, hread⟩ :=
      hbefore (first, a) List.mem_cons_self
    obtain ⟨more, rfl⟩ := Nat.exists_eq_add_of_lt (Nat.lt_of_succ_le hbound)
    obtain ⟨unread, hunread⟩ :=
      readItems_stop hgap hstarts hstop more ((before.map (·.2)).reverse ++ [a])
        (behindCommas after ++ rest)
    have hends : EndsNumber (ascii ',' :: (gap ++ text) ++ (behindCommas after ++ rest)) :=
      endsNumber_cons (by decide) (by decide) (by decide)
    have hbytes : joined (((opening ++ b :: tail, a) :: before).map (·.1) ++
          (gap ++ text) :: after) ++ rest =
        opening ++ (b :: tail ++ (behindCommas (before.map (·.1)) ++
          (ascii ',' :: (gap ++ text) ++ (behindCommas after ++ rest)))) := by
      simp [joined, behindCommas, List.append_assoc]
    refine ⟨unread, ?_⟩
    rw [hbytes, readList, List.cons_append, hopening.skipSpace_cons hspace]
    dsimp only
    rw [if_neg hend, ← List.cons_append, hread _ (endsNumber_behindCommas _ hends)]
    dsimp only
    rw [Nat.add_assoc, readItems_past (fun p hp => hbefore p (List.mem_cons_of_mem _ hp)) _ _ hends,
      hunread]

end Lists

/-! ## Objects -/

section Objects

variable {α : Type} {item : Bytes → Outcome α}

/-- The bytes of a field from its opening quote on. -/
def keyed (key : String) (text : Bytes) : Bytes :=
  ascii '\x22' :: (Utf8.encode (String.ofList (key.toList.flatMap escapeChar)) ++
    ascii '\x22' :: ascii ':' :: text)

/-- The bytes of a field and what follows. -/
lemma keyed_append (key : String) (text rest : Bytes) :
    keyed key text ++ rest = ascii '\x22' ::
      (Utf8.encode (String.ofList (key.toList.flatMap escapeChar)) ++
        ascii '\x22' :: ascii ':' :: (text ++ rest)) := by
  simp only [keyed, List.append_assoc, List.cons_append]

/-- The colon behind a key is read. -/
lemma readColon_cons (rest : Bytes) : readColon (ascii ':' :: rest) = .ok rest := by
  rw [readColon, skipSpace_cons (by decide)]
  exact if_pos rfl

/-- A field is read. -/
lemma readField_keyed {key : String} {text : Bytes} {a : α} (htext : Reads item text a)
    {rest : Bytes} (hrest : EndsNumber rest) :
    readField item (Utf8.encode (String.ofList (key.toList.flatMap escapeChar)) ++
      ascii '\x22' :: ascii ':' :: (text ++ rest)) = .ok ((key, a), rest) := by
  rw [readField, readString_escaped]
  dsimp only
  rw [readColon_cons]
  dsimp only
  rw [htext rest hrest]

/-- A field of an object as its key, its text and its value. -/
abbrev FieldText (α : Type) := String × Bytes × α

/-- The loop over the fields of an object gets past fields, blanks standing before every key and
every value, whatever follows them. -/
lemma readFields_past {gap : Bytes} (hgap : Blank gap) {fields : List (FieldText α)}
    (hfields : ∀ f ∈ fields, Reads item f.2.1 f.2.2) {acc : List (String × α)}
    (hordered : Assoc.Ordered (acc ++ fields.map fun f => (f.1, f.2.2))) (bound : Nat)
    {rest : Bytes} (hrest : EndsNumber rest) :
    readFields item (fields.length + bound) acc
        (behindCommas (fields.map fun f => gap ++ keyed f.1 f.2.1) ++ rest) =
      readFields item bound (acc ++ fields.map fun f => (f.1, f.2.2)) rest := by
  induction fields generalizing acc with
  | nil =>
    rw [List.length_nil, Nat.zero_add, List.map_nil, List.map_nil, List.append_nil]
    rfl
  | cons f fields ih =>
    obtain ⟨key, text, a⟩ := f
    have hlt : ∀ entry ∈ acc, compare entry.1 key = .lt := fun entry hentry =>
      (List.pairwise_append.1 hordered).2.2 entry hentry (key, a) List.mem_cons_self
    have hends := endsNumber_behindCommas (fields.map fun f => gap ++ keyed f.1 f.2.1) hrest
    rw [List.length_cons, Nat.succ_add, List.map_cons, behindCommas_cons, List.cons_append,
      List.append_assoc, List.append_assoc, keyed_append, readFields, skipSpace_cons (by decide)]
    dsimp only
    rw [if_neg (by decide), if_pos rfl, hgap.skipSpace_cons (by decide)]
    dsimp only
    rw [if_pos rfl, readField_keyed (hfields (key, text, a) List.mem_cons_self) hends]
    dsimp only
    rw [Assoc.insert_of_forall_lt a hlt, ih (fun f hf => hfields f (List.mem_cons_of_mem _ hf))
      (by simpa using hordered), List.append_assoc, List.singleton_append, List.map_cons]

/-- The loop over the fields of an object, blanks standing before every key and every value. -/
lemma readFields_behindCommas {gap : Bytes} (hgap : Blank gap) {fields : List (FieldText α)}
    (hfields : ∀ f ∈ fields, Reads item f.2.1 f.2.2) {acc : List (String × α)}
    (hordered : Assoc.Ordered (acc ++ fields.map fun f => (f.1, f.2.2))) {close : Bytes}
    (hclose : Blank close) {bound : Nat} (hbound : fields.length < bound) (rest : Bytes) :
    readFields item bound acc (behindCommas (fields.map fun f => gap ++ keyed f.1 f.2.1) ++
        (close ++ ascii '\x7d' :: rest)) =
      .ok (acc ++ fields.map fun f => (f.1, f.2.2), rest) := by
  obtain ⟨more, rfl⟩ := Nat.exists_eq_add_of_lt hbound
  rw [Nat.add_assoc, readFields_past hgap hfields hordered _ (hclose.endsNumber_objectEnd rest),
    readFields, hclose.skipSpace_cons (by decide)]
  exact if_pos rfl

/-- An object without fields is read. -/
lemma readObject_nil {gap : Bytes} (hgap : Blank gap) (bound : Nat) (rest : Bytes) :
    readObject item bound (gap ++ ascii '\x7d' :: rest) = .ok ([], rest) := by
  rw [readObject, hgap.skipSpace_cons (by decide)]
  exact if_pos rfl

/-- An object with fields in key order is read. -/
lemma readObject_behindCommas {gap : Bytes} (hgap : Blank gap) {key : String} {text : Bytes} {a : α}
    (htext : Reads item text a) {fields : List (FieldText α)}
    (hfields : ∀ f ∈ fields, Reads item f.2.1 f.2.2)
    (hordered : Assoc.Ordered ((key, a) :: fields.map fun f => (f.1, f.2.2))) {close : Bytes}
    (hclose : Blank close) {bound : Nat} (hbound : fields.length < bound) (rest : Bytes) :
    readObject item bound (gap ++ (keyed key text ++
        (behindCommas (fields.map fun f => gap ++ keyed f.1 f.2.1) ++
          (close ++ ascii '\x7d' :: rest)))) =
      .ok ((key, a) :: fields.map fun f => (f.1, f.2.2), rest) := by
  have hends := endsNumber_behindCommas (fields.map fun f => gap ++ keyed f.1 f.2.1)
    (hclose.endsNumber_objectEnd rest)
  rw [keyed_append, readObject, hgap.skipSpace_cons (by decide)]
  dsimp only
  rw [if_neg (by decide), if_pos rfl, readField_keyed htext hends]
  exact readFields_behindCommas hgap hfields hordered hclose hbound rest

/-- An object is read, blanks standing before every key. -/
lemma readObject_joined {gap : Bytes} (hgap : Blank gap) {fields : List (FieldText α)}
    (hfields : ∀ f ∈ fields, Reads item f.2.1 f.2.2)
    (hordered : Assoc.Ordered (fields.map fun f => (f.1, f.2.2))) {close : Bytes}
    (hclose : Blank close) {bound : Nat} (hbound : fields.length ≤ bound) (rest : Bytes) :
    readObject item bound (joined (fields.map fun f => gap ++ keyed f.1 f.2.1) ++
        (close ++ ascii '\x7d' :: rest)) =
      .ok (fields.map fun f => (f.1, f.2.2), rest) := by
  cases fields with
  | nil => exact readObject_nil hclose bound rest
  | cons f fields =>
    rw [List.map_cons, joined, List.append_assoc, List.append_assoc]
    exact readObject_behindCommas hgap (hfields f List.mem_cons_self)
      (fun f hf => hfields f (List.mem_cons_of_mem _ hf)) hordered hclose hbound rest

/-- A field is not read if its value stops the reader. -/
lemma readField_stop (key : String) {text : Bytes} {cause : Cause}
    (hstop : StopsIn item cause text) (rest : Bytes) :
    ∃ unread, readField item (Utf8.encode (String.ofList (key.toList.flatMap escapeChar)) ++
      ascii '\x22' :: ascii ':' :: (text ++ rest)) = .error ⟨cause, unread⟩ := by
  obtain ⟨unread, hunread⟩ := hstop rest
  refine ⟨unread, ?_⟩
  rw [readField, readString_escaped]
  dsimp only
  rw [readColon_cons]
  dsimp only
  rw [hunread]

/-- The loop over the fields of an object stops at a value that stops the reader. -/
lemma readFields_stop {gap : Bytes} (hgap : Blank gap) (key : String) {text : Bytes} {cause : Cause}
    (hstop : StopsIn item cause text) (bound : Nat) (acc : List (String × α)) :
    StopsIn (readFields item (bound + 1) acc) cause (ascii ',' :: (gap ++ keyed key text)) := by
  intro rest
  obtain ⟨unread, hunread⟩ := readField_stop key hstop rest
  refine ⟨unread, ?_⟩
  rw [List.cons_append, List.append_assoc, keyed_append, readFields, skipSpace_cons (by decide)]
  dsimp only
  rw [if_neg (by decide), if_pos rfl, hgap.skipSpace_cons (by decide)]
  dsimp only
  rw [if_pos rfl, hunread]

/-- An object is not read past a value that stops the reader. -/
lemma readObject_stop {gap : Bytes} (hgap : Blank gap) {before : List (FieldText α)}
    (hbefore : ∀ f ∈ before, Reads item f.2.1 f.2.2)
    (hordered : Assoc.Ordered (before.map fun f => (f.1, f.2.2))) (key : String) {text : Bytes}
    {cause : Cause} (hstop : StopsIn item cause text) (after : List Bytes) {bound : Nat}
    (hbound : before.length ≤ bound) :
    StopsIn (readObject item bound) cause
      (joined ((before.map fun f => gap ++ keyed f.1 f.2.1) ++
        (gap ++ keyed key text) :: after)) := by
  intro rest
  cases before with
  | nil =>
    obtain ⟨unread, hunread⟩ := readField_stop key hstop (behindCommas after ++ rest)
    refine ⟨unread, ?_⟩
    rw [List.map_nil, List.nil_append, joined, List.append_assoc, List.append_assoc, keyed_append,
      readObject, hgap.skipSpace_cons (by decide)]
    dsimp only
    rw [if_neg (by decide), if_pos rfl, hunread]
  | cons f before =>
    obtain ⟨firstKey, first, a⟩ := f
    obtain ⟨more, rfl⟩ := Nat.exists_eq_add_of_lt (Nat.lt_of_succ_le hbound)
    obtain ⟨unread, hunread⟩ := readFields_stop hgap key hstop more
      ([(firstKey, a)] ++ before.map fun f => (f.1, f.2.2)) (behindCommas after ++ rest)
    have hends :
        EndsNumber (ascii ',' :: (gap ++ keyed key text) ++ (behindCommas after ++ rest)) :=
      endsNumber_cons (by decide) (by decide) (by decide)
    have hbytes : joined ((((firstKey, first, a) :: before).map fun f => gap ++ keyed f.1 f.2.1) ++
          (gap ++ keyed key text) :: after) ++ rest =
        gap ++ (keyed firstKey first ++
          (behindCommas (before.map fun f => gap ++ keyed f.1 f.2.1) ++
            (ascii ',' :: (gap ++ keyed key text) ++ (behindCommas after ++ rest)))) := by
      simp [joined, behindCommas, List.append_assoc]
    refine ⟨unread, ?_⟩
    rw [hbytes, keyed_append, readObject, hgap.skipSpace_cons (by decide)]
    dsimp only
    rw [if_neg (by decide), if_pos rfl,
      readField_keyed (hbefore (firstKey, first, a) List.mem_cons_self)
        (endsNumber_behindCommas _ hends)]
    dsimp only
    rw [Nat.add_assoc, readFields_past hgap (fun f hf => hbefore f (List.mem_cons_of_mem _ hf))
      hordered _ hends, hunread]

end Objects

end SessionVault.Json
