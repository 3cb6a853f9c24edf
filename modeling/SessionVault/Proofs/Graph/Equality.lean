import Mathlib.Data.List.Forall2
import SessionVault.Proofs.Graph.Ambiguity
/-!
# Being the same is an equivalence

Two maps are compared by a search: each entry of the one takes the first entry left in the other
that is the same.  It might have taken another, and an entry still to come might have needed the one
it took.  That does no harm: entries that are the same as one entry are the same as the same entries
(`sameEntry_eq`), so tests that compete for an entry are equal, and it does not matter in which
order tests take their pick (`takeEach?_perm`).

So being the same is an equivalence, and two maps are the same exactly if their entries can be
matched at all: `same_equivalence`.
-/

namespace SessionVault.Graph

/-! ## Several tests, one after the other -/

section Search

variable {α : Type} {xs : List α}

/-- Removes, for each test in turn, the first element left that satisfies it. -/
def takeEach? : List (α → Bool) → List α → Option (List α)
  | [], xs => some xs
  | test :: tests, xs => (takeFirst? test xs).bind (takeEach? tests)

/-- Tests that an element satisfies both are equal. -/
def Separated (tests : List (α → Bool)) : Prop :=
  ∀ s ∈ tests, ∀ t ∈ tests, ∀ x, s x = true → t x = true → s = t

/-- A test that some element satisfies removes one. -/
lemma exists_takeFirst? {test : α → Bool} (h : ∃ x ∈ xs, test x = true) :
    ∃ left, takeFirst? test xs = some left := by
  induction xs with
  | nil => simp at h
  | cons x xs ih =>
    rw [takeFirst?]
    split_ifs with hx
    · exact ⟨xs, rfl⟩
    · obtain ⟨left, hleft⟩ := ih (by simpa [hx] using h)
      exact ⟨x :: left, by rw [hleft, Option.map_some]⟩

/-- Two tests that do not compete for an element can take their pick in either order. -/
lemma takeFirst?_comm {s t : α → Bool} (h : ∀ x, s x = true → t x = true → s = t) (xs : List α) :
    (takeFirst? s xs).bind (takeFirst? t) = (takeFirst? t xs).bind (takeFirst? s) := by
  by_cases heq : s = t
  · rw [heq]
  induction xs with
  | nil => rfl
  | cons x xs ih =>
    have hkept : ∀ {u v : α → Bool}, u x = false → v x = false →
        (takeFirst? u (x :: xs)).bind (takeFirst? v) =
          ((takeFirst? u xs).bind (takeFirst? v)).map (x :: ·) := by
      intro u v hu hv
      rw [takeFirst?, hu]
      cases takeFirst? u xs <;> simp [takeFirst?, hv]
    have htaken : ∀ {u v : α → Bool}, u x = true → v x = false →
        (takeFirst? u (x :: xs)).bind (takeFirst? v) =
          (takeFirst? v (x :: xs)).bind (takeFirst? u) := by
      intro u v hu hv
      simp only [takeFirst?, hu, hv, if_true, Option.bind_some]
      cases takeFirst? v xs <;> simp [takeFirst?, hu]
    cases hs : s x with
    | false =>
      cases ht : t x with
      | false => rw [hkept hs ht, hkept ht hs, ih]
      | true => exact (htaken ht hs).symm
    | true =>
      cases ht : t x with
      | false => exact htaken hs ht
      | true => exact absurd (h x hs ht) heq

/-- Tests of which none compete leave the same elements in whatever order they come. -/
lemma takeEach?_perm {tests others : List (α → Bool)} (hperm : tests.Perm others)
    (hseparated : Separated tests) (xs : List α) : takeEach? tests xs = takeEach? others xs := by
  induction hperm generalizing xs with
  | nil => rfl
  | cons test _ ih =>
    have hrest := ih fun s hs t ht =>
      hseparated s (List.mem_cons_of_mem _ hs) t (List.mem_cons_of_mem _ ht)
    rw [takeEach?, takeEach?, funext hrest]
  | swap s t tests =>
    have hcomm := takeFirst?_comm
      (hseparated t List.mem_cons_self s (List.mem_cons_of_mem _ List.mem_cons_self)) xs
    have htwice : ∀ u v : α → Bool, takeEach? (u :: v :: tests) xs =
        ((takeFirst? u xs).bind (takeFirst? v)).bind (takeEach? tests) :=
      fun u v => (Option.bind_assoc ..).symm
    rw [htwice, htwice, hcomm]
  | trans hfirst _ ihfirst ihsecond =>
    have hmiddle : Separated _ := fun s hs t ht =>
      hseparated s (hfirst.mem_iff.2 hs) t (hfirst.mem_iff.2 ht)
    exact (ihfirst hseparated xs).trans (ihsecond hmiddle xs)

end Search

/-! ## Entries of maps -/

/-- Whether two entries of maps have the same key and the same value. -/
def sameEntry (x y : Graph × Graph) : Bool := same x.1 y.1 && same x.2 y.2

variable {as bs cs : List (Graph × Graph)}

/-- Entries are compared by a search with one test for each entry on the left, which must leave
nothing on the right. -/
lemma sameEntries_iff_takeEach? :
    sameEntries as bs = true ↔ takeEach? (as.map sameEntry) bs = some [] := by
  induction as generalizing bs with
  | nil => simp [sameEntries, takeEach?, List.isEmpty_iff]
  | cons a as ih =>
    rw [sameEntries, List.map_cons, takeEach?]
    have hsearch : takeFirst? (fun other => same a.1 other.1 && same a.2 other.2) bs =
        takeFirst? (sameEntry a) bs := rfl
    rw [hsearch]
    cases takeFirst? (sameEntry a) bs with
    | none => simp
    | some left => exact ih

/-- What the search has found is a matching: every entry has a partner, and no entry is the partner
of two. -/
lemma exists_matching (h : sameEntries as bs = true) :
    ∃ cs, cs.Perm bs ∧ List.Forall₂ (fun x y => sameEntry x y = true) as cs := by
  induction as generalizing bs with
  | nil =>
    rw [sameEntries, List.isEmpty_iff] at h
    exact ⟨[], h ▸ .nil, .nil⟩
  | cons a as ih =>
    rw [sameEntries] at h
    split at h
    · next left hleft =>
      obtain ⟨partner, hpartner, hperm⟩ := exists_of_takeFirst? hleft
      obtain ⟨cs, hcs, hmatch⟩ := ih h
      exact ⟨partner :: cs, (hcs.cons partner).trans hperm.symm, .cons hpartner hmatch⟩
    · cases h

/-- Lists whose entries are the same one by one are found to match. -/
lemma sameEntries_of_forall₂ (h : List.Forall₂ (fun x y => sameEntry x y = true) as cs) :
    sameEntries as cs = true := by
  rw [sameEntries_iff_takeEach?]
  induction h with
  | nil => rfl
  | cons hxy _ ih =>
    rw [List.map_cons, takeEach?, takeFirst?, if_pos hxy]
    exact ih

/-- Entries do not compete for a partner if those that are the same are interchangeable. -/
lemma separated_map
    (hentry : ∀ x ∈ as, ∀ y, sameEntry x y = true → sameEntry x = sameEntry y) :
    Separated (as.map sameEntry) := by
  rintro s hs t ht z hsz htz
  obtain ⟨x, hx, rfl⟩ := List.mem_map.1 hs
  obtain ⟨y, hy, rfl⟩ := List.mem_map.1 ht
  exact (hentry x hx z hsz).trans (hentry y hy z htz).symm

/-- Lists of entries that match are interchangeable if entries that are the same are. -/
lemma sameEntries_eq
    (hentry : ∀ x ∈ as, ∀ y, sameEntry x y = true → sameEntry x = sameEntry y)
    (h : sameEntries as bs = true) : sameEntries as = sameEntries bs := by
  obtain ⟨cs, hperm, hmatch⟩ := exists_matching h
  have htests : as.map sameEntry = cs.map sameEntry := by
    clear h hperm
    induction hmatch with
    | nil => rfl
    | cons hxy _ ih =>
      rw [List.map_cons, List.map_cons, hentry _ List.mem_cons_self _ hxy,
        ih fun x hx => hentry x (List.mem_cons_of_mem _ hx)]
  funext ds
  have hsearch : takeEach? (as.map sameEntry) ds = takeEach? (bs.map sameEntry) ds := by
    refine takeEach?_perm ?_ (separated_map hentry) ds
    rw [htests]
    exact hperm.map sameEntry
  rw [Bool.eq_iff_iff, sameEntries_iff_takeEach?, sameEntries_iff_takeEach?, hsearch]

/-! ## Graphs that are the same are interchangeable -/

/-- Lists of items that are the same one by one are interchangeable if the items are. -/
lemma sameItems_eq {items others : List Graph}
    (hitem : ∀ item ∈ items, ∀ other, same item other = true → same item = same other)
    (h : sameItems items others = true) : sameItems items = sameItems others := by
  induction items generalizing others with
  | nil => cases others <;> simp_all [sameItems]
  | cons item items ih =>
    cases others with
    | nil => simp [sameItems] at h
    | cons other others =>
      rw [sameItems, Bool.and_eq_true] at h
      have hrest := ih (fun item hmem => hitem item (List.mem_cons_of_mem _ hmem)) h.2
      funext third
      cases third with
      | nil => simp only [sameItems]
      | cons => rw [sameItems, sameItems, hitem item List.mem_cons_self other h.1, hrest]

/-- Fields that are the same one by one are interchangeable if their values are. -/
lemma sameFields_eq {fields others : List (String × Graph)}
    (hfield : ∀ field ∈ fields, ∀ other, same field.2 other = true → same field.2 = same other)
    (h : sameFields fields others = true) : sameFields fields = sameFields others := by
  induction fields generalizing others with
  | nil => cases others <;> simp_all [sameFields]
  | cons field fields ih =>
    cases others with
    | nil => simp [sameFields] at h
    | cons other others =>
      rw [sameFields, Bool.and_eq_true, Bool.and_eq_true, beq_iff_eq] at h
      have hrest := ih (fun field hmem => hfield field (List.mem_cons_of_mem _ hmem)) h.2
      funext third
      cases third with
      | nil => simp only [sameFields]
      | cons =>
        rw [sameFields, sameFields, h.1.1, hfield field List.mem_cons_self other.2 h.1.2, hrest]

/-- **Graphs that are the same are the same as the same graphs.** -/
theorem same_eq_of_same {a b : Graph} (h : same a b = true) : same a = same b := by
  induction a using inductionOn generalizing b with
  | undefined => cases b <;> simp_all [same]
  | null => cases b <;> simp_all [same]
  | bool x => cases b <;> simp_all [same]
  | number x => cases b <;> simp_all [same]
  | string s => cases b <;> simp_all [same]
  | array items ih =>
    obtain ⟨others, rfl, hitems⟩ := exists_of_same_array h
    funext c
    cases c with
    | array third => rw [same, same, sameItems_eq (fun item hitem _ => ih item hitem) hitems]
    | _ => simp only [same]
  | object fields ih =>
    obtain ⟨others, rfl, hfields⟩ := exists_of_same_object h
    funext c
    cases c with
    | object third => rw [same, same, sameFields_eq (fun field hfield _ => ih field hfield) hfields]
    | _ => simp only [same]
  | map entries ihkeys ihvalues =>
    obtain ⟨others, rfl, hentries⟩ := exists_of_same_map h
    have hentry : ∀ x ∈ entries, ∀ y, sameEntry x y = true → sameEntry x = sameEntry y := by
      intro x hx y hxy
      rw [sameEntry, Bool.and_eq_true] at hxy
      funext z
      rw [sameEntry, sameEntry, ihkeys x hx hxy.1, ihvalues x hx hxy.2]
    funext c
    cases c with
    | map third => rw [same, same, sameEntries_eq hentry hentries]
    | _ => simp only [same]

/-- What a graph is the same as is the same as the graph. -/
lemma same_symm {a b : Graph} (h : same a b = true) : same b a = true := by
  rw [← same_eq_of_same h]
  exact same_self a

/-- What is the same as one of two graphs that are the same is the same as the other. -/
lemma same_trans {a b c : Graph} (hab : same a b = true) (hbc : same b c = true) :
    same a c = true := by
  rw [same_eq_of_same hab]
  exact hbc

/-! ## Maps -/

/-- Entries that are the same are the same as the same entries. -/
lemma sameEntry_eq {x y : Graph × Graph} (h : sameEntry x y = true) :
    sameEntry x = sameEntry y := by
  rw [sameEntry, Bool.and_eq_true] at h
  funext z
  rw [sameEntry, sameEntry, same_eq_of_same h.1, same_eq_of_same h.2]

/-- An entry is the same as itself. -/
lemma sameEntry_self (x : Graph × Graph) : sameEntry x x = true := by
  rw [sameEntry, same_self, same_self]
  rfl

/-- What is the same as one of two entries that are the same is the same as the other. -/
lemma sameEntry_right {x y : Graph × Graph} (h : sameEntry x y = true) (z : Graph × Graph) :
    sameEntry z x = sameEntry z y := by
  rw [Bool.eq_iff_iff]
  constructor
  · intro hzx
    rw [sameEntry_eq hzx]
    exact h
  · intro hzy
    rw [sameEntry_eq hzy, ← sameEntry_eq h]
    exact sameEntry_self x

/-- Two entries are the same either way round. -/
lemma sameEntry_comm (x y : Graph × Graph) : sameEntry x y = sameEntry y x := by
  rw [Bool.eq_iff_iff]
  constructor
  · intro hxy
    rw [← sameEntry_eq hxy]
    exact sameEntry_self x
  · intro hyx
    rw [← sameEntry_eq hyx]
    exact sameEntry_self y

/-- The search may as well compare the partners that are left with the entry: it takes the same
one. -/
lemma sameEntries_cons (entry : Graph × Graph) :
    sameEntries (entry :: as) bs =
      match takeFirst? (fun other => same other.1 entry.1 && same other.2 entry.2) bs with
      | some left => sameEntries as left
      | none => false := by
  have htest : (fun other : Graph × Graph => same other.1 entry.1 && same other.2 entry.2) =
      sameEntry entry := funext fun other => sameEntry_comm other entry
  rw [htest, sameEntries]
  rfl

/-- Maps whose entries match in some order are found to be the same, in whatever order they come. -/
lemma sameEntries_of_matching (hperm : cs.Perm bs)
    (hmatch : List.Forall₂ (fun x y => sameEntry x y = true) as cs) :
    sameEntries as bs = true := by
  have hself : sameEntries bs bs = true := by
    have hbs := same_self (.map bs)
    rwa [same] at hbs
  have hsearch : takeEach? (cs.map sameEntry) bs = takeEach? (bs.map sameEntry) bs :=
    takeEach?_perm (hperm.map sameEntry) (separated_map fun _ _ _ => sameEntry_eq) bs
  rw [sameEntries_eq (fun _ _ _ => sameEntry_eq) (sameEntries_of_forall₂ hmatch),
    sameEntries_iff_takeEach?, hsearch, ← sameEntries_iff_takeEach?, hself]

/-- Maps in which every entry has the same multiplicity are found to be the same. -/
lemma sameEntries_of_countP
    (h : ∀ entry, as.countP (sameEntry entry) = bs.countP (sameEntry entry)) :
    sameEntries as bs = true := by
  induction as generalizing bs with
  | nil =>
    cases bs with
    | nil => simp only [sameEntries, List.isEmpty_nil]
    | cons b bs =>
      have hb := h b
      rw [List.countP_nil, List.countP_cons_of_pos (sameEntry_self b)] at hb
      exact absurd hb (Nat.succ_ne_zero _).symm
  | cons a as ih =>
    have hpos : 0 < bs.countP (sameEntry a) := by
      rw [← h a, List.countP_cons_of_pos (sameEntry_self a)]
      exact Nat.succ_pos _
    obtain ⟨left, hleft⟩ := exists_takeFirst? (List.countP_pos_iff.1 hpos)
    obtain ⟨partner, hpartner, hperm⟩ := exists_of_takeFirst? hleft
    have hrest : ∀ entry, as.countP (sameEntry entry) = left.countP (sameEntry entry) := by
      intro entry
      -- the entry and its partner are counted alike
      have hcount := h entry
      rw [hperm.countP_eq, List.countP_cons, List.countP_cons, sameEntry_right hpartner] at hcount
      exact Nat.add_right_cancel hcount
    rw [sameEntries_iff_takeEach?, List.map_cons, takeEach?, hleft]
    exact sameEntries_iff_takeEach?.1 (ih hrest)

/-- In maps that are the same every entry has the same multiplicity. -/
lemma countP_eq_of_matching (hperm : cs.Perm bs)
    (hmatch : List.Forall₂ (fun x y => sameEntry x y = true) as cs) (entry : Graph × Graph) :
    as.countP (sameEntry entry) = bs.countP (sameEntry entry) := by
  rw [← hperm.countP_eq]
  clear hperm
  induction hmatch with
  | nil => rfl
  | cons hxy _ ih => rw [List.countP_cons, List.countP_cons, ih, sameEntry_right hxy]

/-- **Being the same is an equivalence, and maps are the same exactly if their entries match.**
Whatever the graphs: a graph is the same as itself, the same either way round, and the same as what
the same graphs are the same as.  Two maps are the same exactly if the entries of the second can be
put in an order in which they have, one by one, the keys and the values of the first; and exactly if
every entry is the same as equally many entries of the one and of the other. -/
theorem same_equivalence :
    Equivalence (fun a b : Graph => same a b = true) ∧
      (∀ as bs : List (Graph × Graph), same (.map as) (.map bs) = true ↔
        ∃ cs, cs.Perm bs ∧
          List.Forall₂ (fun x y => same x.1 y.1 = true ∧ same x.2 y.2 = true) as cs) ∧
      ∀ as bs : List (Graph × Graph), same (.map as) (.map bs) = true ↔
        ∀ key value, as.countP (fun entry => same key entry.1 && same value entry.2) =
          bs.countP fun entry => same key entry.1 && same value entry.2 := by
  refine ⟨⟨same_self, same_symm, same_trans⟩, fun as bs => ?_, fun as bs => ?_⟩
  · rw [same]
    simp only [← Bool.and_eq_true]
    constructor
    · exact exists_matching
    · rintro ⟨cs, hperm, hmatch⟩
      exact sameEntries_of_matching hperm hmatch
  · rw [same]
    constructor
    · intro h key value
      obtain ⟨cs, hperm, hmatch⟩ := exists_matching h
      exact countP_eq_of_matching hperm hmatch (key, value)
    · intro h
      exact sameEntries_of_countP fun entry => h entry.1 entry.2

end SessionVault.Graph
