import SessionVault.Proofs.Json.Indented
import SessionVault.Store.Catalog
/-!
# Catalogs that their texts keep

A catalog is read back from its text, whatever collections it names: `Catalog.parse_render`.
-/

namespace SessionVault

/-- Reading an entry skips blanks first. -/
lemma CollectionEntry.skipsBlanks_read : Json.SkipsBlanks CollectionEntry.read :=
  (Json.skipsBlanks_atValue _).map _

/-- The entry of a collection is read back. -/
lemma CollectionEntry.reads_toTree (level : Nat) (e : CollectionEntry) :
    Json.Reads CollectionEntry.read (Utf8.encode (Json.renderPretty level e.toTree)) e := by
  have hfields : Json.Reads form.read (Utf8.encode (Json.renderPretty level e.toTree))
      (e.indexes, e.readOnly) :=
    Json.reads_twoFields (by decide) (Json.skipsBlanks_atValue _) (Json.skipsBlanks_atValue _) level
      (Json.reads_texts _ e.indexes) (Json.reads_bool _ e.readOnly)
  exact hfields.map _

/-- A catalog is read back from its text. -/
theorem Catalog.parse_render (c : Catalog) : parse (Utf8.encode c.render) = .ok c := by
  have hfields : Json.Reads form.read (Utf8.encode c.render) (c.generation, c.collections) :=
    Json.reads_twoFields (by decide) (Json.skipsBlanks_atValue _) (Json.skipsBlanks_atValue _) 0
      (Json.reads_uint32 _ c.generation)
      (Json.reads_table CollectionEntry.skipsBlanks_read _
        (fun e => CollectionEntry.reads_toTree _ e) c.collections)
  have hread := hfields [] (by rintro _ _ ⟨⟩)
  rw [List.append_nil] at hread
  unfold parse
  rw [hread]
  rfl

end SessionVault
