import SessionVault.Proofs.Compression.Codec
import SessionVault.Proofs.Graph.Dialects
import SessionVault.Proofs.Share.Token
import SessionVault.Proofs.Snapshot.Faithful
import SessionVault.Share.Envelope
/-!
# Envelopes survive the wire

An envelope goes through its graph, tagged JSON, compression and the spelling of tokens, and each
of these layers has been undone on its own.  What is left is that an envelope is told apart from
the others by its graph, and that a bare program is not taken for anything else: `ofText` reads a
text as programs, as a machine or as damaged only where a brace opens.

Older links tag in the older dialect.  Their trees denote the same graphs, and programs that they
map are the programs that newer links list: `dialects_agree`.
-/

namespace SessionVault.Envelope

/-! ## Tokens -/

/-- A token carries the text it was made of. -/
lemma payload_ofBytes (codec : Codec) (level : CompressionLevel) (text : String) :
    payload (Token.ofBytes (compress codec level (Utf8.encode text))) = .ok text := by
  rw [payload, Token.toBytes_ofBytes]
  change (decompressDetected (compress codec level (Utf8.encode text))).mapError _ >>= _ = _
  rw [decompressDetected_compress]
  change (Utf8.decode (Utf8.encode text)).mapError _ = _
  rw [Utf8.decode_encode]
  rfl

/-! ## Graphs of envelopes -/

/-- The record of listed programs. -/
def programsLayout : Layout (List (ObjectId × String) × Unit) := .cons (.required "programs") .nil

/-- The record of a machine, of either revision, and the circuit that has the focus. -/
def sessionLayout (σ : Type) [Portable σ] : Layout (σ × ObjectId × Unit) :=
  .cons (.required "vm") (.cons (.required "activeIC") .nil)

/-- The fields of a session, whatever its machine. -/
lemma names_sessionLayout (σ : Type) [Portable σ] :
    (sessionLayout σ).names = ["vm", "activeIC"] := rfl

/-- Listed programs nest three deep. -/
lemma programsLayout_isFaithful (n : Nat) : programsLayout.IsFaithful (n + 3) where
  fields := .cons (.required _) .nil
  nodup := by decide
  untagged := by decide

/-- A session is as faithful as its machine. -/
lemma sessionLayout_isFaithful (σ : Type) [Portable σ] (n : Nat) [Faithful σ (n + 1)] :
    (sessionLayout σ).IsFaithful (n + 1) where
  fields := .cons (.required _) (.cons (.required _) .nil)
  nodup := by rw [names_sessionLayout]; decide
  untagged := by rw [names_sessionLayout]; decide

/-- The graph of an envelope survives as text. -/
lemma plain_toGraph : ∀ e : Envelope, e.toGraph.Plain Json.maxDepth
  | .source text => .string _ text
  | .programs listed => Layout.plain_write (programsLayout_isFaithful 123) (listed, ())
  | .session machine active =>
    Layout.plain_write (sessionLayout_isFaithful Snapshot 125) (machine, active, ())

/-- A session is read with its machine brought to the current revision. -/
lemma ofGraph_session {σ : Type} [Portable σ] {machine : σ} {found : AnySnapshot}
    (h : AnySnapshot.ofGraph (Portable.toGraph machine) = .ok found) (active : ObjectId)
    (text : String) :
    ofGraph ((sessionLayout σ).write (machine, active, ())) text =
      found.toCurrent.map (session · active) := by
  have hnodup : (sessionLayout σ).names.Nodup := by rw [names_sessionLayout]; decide
  have hprograms : ((sessionLayout σ).write (machine, active, ())).get? "programs" = none :=
    Layout.get?_write_of_not_mem (by rw [names_sessionLayout]; decide) _
  have hmachine : ((sessionLayout σ).write (machine, active, ())).get? "vm" =
      some (Portable.toGraph machine) :=
    Layout.get?_write_of_mem hnodup List.mem_cons_self
  have hactive : ((sessionLayout σ).write (machine, active, ())).get? "activeIC" =
      some (Portable.toGraph active) :=
    Layout.get?_write_of_mem hnodup (List.mem_cons_of_mem _ List.mem_cons_self)
  change readRecord ((sessionLayout σ).write (machine, active, ())) = _
  rw [readRecord, hprograms]
  dsimp only
  rw [hmachine, hactive]
  dsimp only
  rw [readSession, Faithful.read_write 1]
  change AnySnapshot.ofGraph (Portable.toGraph machine) >>= _ = _
  rw [h, ok_bind]
  cases found.toCurrent <;> rfl

/-- The graph of an envelope denotes the envelope. -/
lemma ofGraph_toGraph (e : Envelope) (text : String) : ofGraph e.toGraph text = .ok e := by
  cases e with
  | source code => rfl
  | programs listed =>
    have hprograms : (programsLayout.write (listed, ())).get? "programs" =
        some (Portable.toGraph listed) :=
      Layout.get?_write_of_mem (by decide) List.mem_cons_self
    change readRecord (programsLayout.write (listed, ())) = _
    rw [readRecord, hprograms]
    change ((Portable.ofGraph (Portable.toGraph listed)).map Envelope.programs).mapError _ = _
    rw [Faithful.read_write 3]
    rfl
  | session machine active =>
    exact ofGraph_session (AnySnapshot.ofGraph_toGraph (.v2 machine)) active text

/-- The graph of an envelope, written as text, is read as the envelope. -/
lemma ofText_encode_toGraph (e : Envelope) : ofText e.toGraph.encode = .ok e := by
  rw [ofText, Graph.decode_encode (plain_toGraph e)]
  exact ofGraph_toGraph e _

/-- A token made of an envelope's graph is read as the envelope. -/
lemma ofToken_ofBytes (e : Envelope) (codec : Codec) (level : CompressionLevel) :
    ofToken (Token.ofBytes (compress codec level (Utf8.encode e.toGraph.encode))) = .ok e := by
  rw [ofToken, payload_ofBytes]
  exact ofText_encode_toGraph e

/-- Programs by circuit and whole machines come back from their tokens. -/
theorem ofToken_toToken (codec : Codec) (level : CompressionLevel) :
    (∀ listed, ∃ token, (programs listed).toToken codec level = .ok token ∧
      ofToken token = .ok (programs listed)) ∧
    ∀ machine active, ∃ token, (session machine active).toToken codec level = .ok token ∧
      ofToken token = .ok (session machine active) := by
  constructor
  · intro listed
    exact ⟨_, rfl, ofToken_ofBytes (programs listed) codec level⟩
  · intro machine active
    exact ⟨_, rfl, ofToken_ofBytes (session machine active) codec level⟩

/-! ## Bare programs -/

/-- A blank of JSON is white space. -/
lemma isBlank_of_isSpace {c : Char} (hc : c.toNat < 0x80) (h : Json.isSpace (ascii c) = true) :
    isBlank c = true := by
  have hnat := Json.toNat_of_isSpace h
  rw [Utf8.ascii_toNat hc] at hnat
  rw [isBlank]
  rcases hnat with hnat | hnat | hnat | hnat <;> rw [hnat] <;> decide

/-- Where a brace follows the blanks of JSON, it follows white space. -/
lemma head?_trimStart {cs : List Char} {more : Bytes}
    (h : Json.skipSpace (cs.flatMap String.utf8EncodeChar) = ascii '\x7b' :: more) :
    (trimStart cs).head? = some '\x7b' := by
  induction cs with
  | nil => cases h
  | cons c cs ih =>
    rw [List.flatMap_cons] at h
    by_cases hc : c.toNat < 0x80
    · rw [Utf8.encodeChar_ascii hc, List.singleton_append] at h
      by_cases hspace : Json.isSpace (ascii c) = true
      · rw [Json.skipSpace, List.dropWhile_cons_of_pos hspace] at h
        rw [trimStart, List.dropWhile_cons_of_pos (isBlank_of_isSpace hc hspace)]
        exact ih h
      · rw [Json.skipSpace_cons (Bool.eq_false_iff.2 hspace)] at h
        have hnat := congrArg UInt8.toNat (List.cons.inj h).1
        rw [Utf8.ascii_toNat hc, Utf8.ascii_toNat (by decide)] at hnat
        obtain rfl := Char.toNat_inj.1 hnat
        rfl
    · -- The first byte of any other character is neither blank nor a brace.
      obtain ⟨b, bytes, hbytes⟩ :=
        List.exists_cons_of_ne_nil (@String.utf8EncodeChar_ne_nil c)
      have hhigh : 0x80 ≤ b.toNat :=
        Utf8.le_of_mem_encodeChar hc (by rw [hbytes]; exact List.mem_cons_self)
      have hspace : Json.isSpace b = false := by
        rw [Bool.eq_false_iff]
        intro hblank
        have hnat := Json.toNat_of_isSpace hblank
        omega
      rw [hbytes, List.cons_append, Json.skipSpace_cons hspace] at h
      rw [(List.cons.inj h).1] at hhigh
      exact absurd hhigh (by decide)

/-- Only a text that opens with a brace denotes an object or a map. -/
lemma head?_of_decode {text : String} {g : Graph} (h : Graph.decode text = .ok g)
    (hrecord : (∃ fields, g = .object fields) ∨ ∃ entries, g = .map entries) :
    (trimStart text.toList).head? = some '\x7b' := by
  rw [Graph.decode] at h
  cases hparse : Json.parse text with
  | error fault =>
    rw [hparse] at h
    cases h
  | ok tree =>
    rw [hparse] at h
    obtain rfl := Except.ok.inj h
    cases tree with
    | object fields =>
      obtain ⟨more, hmore⟩ := Json.exists_brace_of_parse hparse
      exact head?_trimStart hmore
    | null | bool | number | string | array => simp [Graph.ofTree] at hrecord

/-- A text that opens with no brace is a bare program. -/
lemma exists_source_of_head? {text : String}
    (h : (trimStart text.toList).head? ≠ some '\x7b') :
    ∃ back, ofText text = .ok (source back) := by
  have hopens : opensObject text = false := by
    rw [opensObject, beq_eq_false_iff_ne]
    exact h
  rw [ofText]
  cases hdecode : Graph.decode text with
  | error fault =>
    dsimp only
    rw [hopens]
    exact ⟨text, rfl⟩
  | ok g =>
    cases g with
    | string code => exact ⟨code, rfl⟩
    | object fields => exact absurd (head?_of_decode hdecode (.inl ⟨_, rfl⟩)) h
    | map entries => exact absurd (head?_of_decode hdecode (.inr ⟨_, rfl⟩)) h
    | undefined | null | bool | number | array => exact ⟨text, rfl⟩

/-- A bare program is written as it stands if it reads as itself. -/
lemma encode_source_of_ofText {text : String} (h : ofText text = .ok (source text)) :
    (source text).encode = .ok text := by
  rw [encode, h]
  exact congrArg Except.ok (if_pos rfl)

/-- Otherwise it is quoted. -/
lemma encode_source_of_ne {text : String} (h : ofText text ≠ .ok (source text))
    (hoverflow : ofText text ≠ .error .overflow) :
    (source text).encode = .ok (source text).toGraph.encode := by
  rw [encode]
  split
  · next heq => exact absurd heq hoverflow
  · next back heq =>
    refine congrArg Except.ok (if_neg ?_)
    rintro rfl
    exact h heq
  · rfl

/-- A bare program survives the wire, as it stands exactly when it reads as itself; and nothing is
taken for programs by circuit, for a machine or for damaged unless it opens with a brace. -/
theorem ofText_encode_source (text : String) :
    (ofText text ≠ .error .overflow →
      ∃ wire, (source text).encode = .ok wire ∧ ofText wire = .ok (source text) ∧
        (wire = text ↔ ofText text = .ok (source text))) ∧
    ((trimStart text.toList).head? ≠ some '\x7b' → ∃ back, ofText text = .ok (source back)) := by
  refine ⟨fun hoverflow => ?_, exists_source_of_head?⟩
  by_cases h : ofText text = .ok (source text)
  · exact ⟨text, encode_source_of_ofText h, h, iff_of_true rfl h⟩
  · have hquoted := ofText_encode_toGraph (source text)
    refine ⟨_, encode_source_of_ne h hoverflow, hquoted, iff_of_false (fun heq => h ?_) h⟩
    rw [heq] at hquoted
    exact hquoted

/-- A program that is the JSON string of another program. -/
theorem ofText_encode_quotedProgram :
    ofText "\"j ra\"" ≠ .error .overflow ∧ (trimStart "\"j ra\"".toList).head? ≠ some '\x7b' ∧
      (∃ wire, (source "\"j ra\"").encode = .ok wire ∧ ofText wire = .ok (source "\"j ra\"") ∧
        (wire = "\"j ra\"" ↔ ofText "\"j ra\"" = .ok (source "\"j ra\""))) ∧
      ∃ back, ofText "\"j ra\"" = .ok (source back) := by
  have htext : (source "j ra").toGraph.encode = "\"j ra\"" := rfl
  have hread := ofText_encode_toGraph (source "j ra")
  rw [htext] at hread
  have hoverflow : ofText "\"j ra\"" ≠ .error .overflow := by
    rw [hread]
    rintro ⟨⟩
  have hbrace : (trimStart "\"j ra\"".toList).head? ≠ some '\x7b' := by decide
  exact ⟨hoverflow, hbrace, (ofText_encode_source _).1 hoverflow, (ofText_encode_source _).2 hbrace⟩

/-! ## Programs in either dialect -/

/-- Listed programs as a map, which older links carry. -/
def programMap (listed : List (ObjectId × String)) : Graph :=
  .map (listed.map fun program => (Portable.toGraph program.1, Portable.toGraph program.2))

/-- Programs are read from a list. -/
lemma readPrograms_toGraph (listed : List (ObjectId × String)) :
    readPrograms (Portable.toGraph listed) = .ok listed :=
  Faithful.read_write 3 listed

/-- Programs are read from a map in its order, with what it repeats. -/
lemma readPrograms_programMap (listed : List (ObjectId × String)) :
    readPrograms (programMap listed) = .ok listed := by
  rw [programMap, readPrograms]
  refine Schema.readAll_map (fun program => ?_) listed
  rw [Schema.readEntry, Faithful.read_write 1, ok_bind, Faithful.read_write 0, ok_bind]
  rfl

/-- A record that states programs is read as these. -/
lemma ofGraph_object_of_readPrograms {g : Graph} {listed : List (ObjectId × String)}
    (h : readPrograms g = .ok listed) (text : String) :
    ofGraph (.object [("programs", g)]) text = .ok (.programs listed) := by
  change ((readPrograms g).map Envelope.programs).mapError _ = _
  rw [h]
  rfl

/-- There is no object among listed programs. -/
lemma not_inside_toGraph_programs {listed : List (ObjectId × String)}
    {fields : List (String × Graph)} :
    ¬ Graph.Inside (.object fields) (Portable.toGraph listed) := by
  rintro (_ | ⟨hitem, h⟩)
  obtain ⟨program, -, rfl⟩ := List.mem_map.1 hitem
  cases h with
  | item hpart h =>
    obtain rfl | hpart := List.mem_cons.1 hpart
    · cases h
    · obtain rfl := List.mem_singleton.1 hpart
      cases h

/-- There is no object in a map of programs. -/
lemma not_inside_programMap {listed : List (ObjectId × String)} {fields : List (String × Graph)} :
    ¬ Graph.Inside (.object fields) (programMap listed) := by
  rintro (_ | _ | _ | ⟨hentry, h⟩ | ⟨hentry, h⟩)
  all_goals
    obtain ⟨program, -, rfl⟩ := List.mem_map.1 hentry
    cases h

/-- A tree that writes programs as a list or as a map, in any dialect, is read as these. -/
lemma ofGraph_ofTree_programs {listed : List (ObjectId × String)} {t : Json}
    (h : (Portable.toGraph listed).WrittenAs t ∨ (programMap listed).WrittenAs t) (text : String) :
    ofGraph (Graph.ofTree (.object [("programs", t)])) text = .ok (.programs listed) := by
  have hrecord : Graph.ofTree (.object [("programs", t)]) =
      .object [("programs", Graph.ofTree t)] := rfl
  rw [hrecord]
  rcases h with h | h
  · have hback : Graph.ofTree t = Portable.toGraph listed := by
      apply h.ofTree_eq
      intro fields hinside
      exact absurd hinside not_inside_toGraph_programs
    rw [hback]
    exact ofGraph_object_of_readPrograms (readPrograms_toGraph listed) text
  · have hback : Graph.ofTree t = programMap listed := by
      apply h.ofTree_eq
      intro fields hinside
      exact absurd hinside not_inside_programMap
    rw [hback]
    exact ofGraph_object_of_readPrograms (readPrograms_programMap listed) text

/-- The older dialect means the same.  Keeping to the current dialect gives the tree that is
written; every tree of a graph, in one dialect or in both, denotes the graph if no object inside it
reads as a tag; and programs by circuit are the same whether a link lists them, maps them in the
current dialect or maps them in the older one, in their order and with what is repeated. -/
theorem dialects_agree :
    (∀ g : Graph, g.toTreeIn .current = g.toTree) ∧
    (∀ g : Graph, (∀ fields, Graph.Inside (.object fields) g → ¬ Graph.ReadsAsTag fields) →
      Graph.ofTree (g.toTreeIn .older) = g ∧ ∀ t, g.WrittenAs t → Graph.ofTree t = g) ∧
    ∀ (listed : List (ObjectId × String)) (text : String) (t : Json),
      t = (Portable.toGraph listed).toTree ∨ t = (programMap listed).toTreeIn .current ∨
        t = (programMap listed).toTreeIn .older →
      ofGraph (Graph.ofTree (.object [("programs", t)])) text = .ok (.programs listed) := by
  refine ⟨Graph.toTreeIn_current, ?_, ?_⟩
  · intro g hclean
    refine ⟨(Graph.writtenAs_toTreeIn .older g).ofTree_eq hclean, ?_⟩
    intro t ht
    exact ht.ofTree_eq hclean
  · intro listed text t ht
    apply ofGraph_ofTree_programs
    rcases ht with rfl | rfl | rfl
    · rw [← Graph.toTreeIn_current]
      exact .inl (Graph.writtenAs_toTreeIn .current _)
    · exact .inr (Graph.writtenAs_toTreeIn .current _)
    · exact .inr (Graph.writtenAs_toTreeIn .older _)

/-- An object with a field of its own by which tags are told. -/
def gear : Graph := .object [("kind", .string "gear"), ("sizes", .map [(.number .nan, .undefined)])]

/-- A tree of this object in which the older dialect stands around the current one and beside it. -/
def gearTree : Json :=
  .object [("kind", .string "gear"), ("sizes", Graph.Dialect.older.mapTree
    [(Graph.Dialect.current.numberTree "NaN", Graph.Dialect.older.tagged "undefined" [])])]

/-- The object comes back from the mixture, and programs come back from an older link. -/
theorem dialects_agree_gear :
    ((∀ fields, Graph.Inside (.object fields) gear → ¬ Graph.ReadsAsTag fields) ∧
      gear.WrittenAs gearTree ∧ Graph.ofTree (gear.toTreeIn .older) = gear ∧
      Graph.ofTree gearTree = gear) ∧
    ofGraph (Graph.ofTree (.object [("programs",
      (programMap [(4, "sleep 1"), (4, "yield")]).toTreeIn .older)])) "" =
      .ok (.programs [(4, "sleep 1"), (4, "yield")]) := by
  have hclean : ∀ fields, Graph.Inside (.object fields) gear → ¬ Graph.ReadsAsTag fields := by
    intro fields h
    cases h with
    | self => exact Graph.readTag?_eq_none_iff.1 rfl
    | field hfield h =>
      obtain rfl | hfield := List.mem_cons.1 hfield
      · cases h
      · obtain rfl := List.mem_singleton.1 hfield
        rcases h with _ | _ | _ | ⟨hentry, h⟩ | ⟨hentry, h⟩
        all_goals
          obtain rfl := List.mem_singleton.1 hentry
          cases h
  have hnumber : Graph.WrittenAs (.number .nan) (Graph.Dialect.current.numberTree "NaN") :=
    .special .current rfl
  have hsizes : Graph.WrittenAs (.map [(.number .nan, .undefined)]) _ :=
    @Graph.WrittenAs.map _ .older [((.number .nan, Graph.Dialect.current.numberTree "NaN"),
      .undefined, Graph.Dialect.older.tagged "undefined" [])] (by simpa using hnumber)
      (by simpa using .undefined .older)
  have hwritten : gear.WrittenAs gearTree :=
    @Graph.WrittenAs.object [("kind", .string "gear", .string "gear"), ("sizes", _, _)]
      (by simpa using ⟨.string _, hsizes⟩)
  obtain ⟨holder, hall⟩ := dialects_agree.2.1 gear hclean
  exact ⟨⟨hclean, hwritten, holder, hall gearTree hwritten⟩,
    dialects_agree.2.2 _ "" _ (.inr (.inr rfl))⟩

end SessionVault.Envelope
