import Mathlib.Tactic.Lemma
import SessionVault.Proofs.Table
import SessionVault.Store.Job
/-!
# Folders on disk and jobs that work in them

A store works in one folder.  `Disk.HasFolder` says what that folder holds, and `Disk.SameFiles`
that its files but for some read as before; what reading, replacing a file and making the folder do
is stated once, so that a job is followed by what the files of the folder read as after each of its
steps.

`Job.runRefusing` carries a job out on a disk that refuses to replace files.
-/

namespace SessionVault

/-! ## Trees of files -/

namespace Node

/-- A path that goes on is followed from where its first part leads. -/
lemma find_append (path rest : List String) (node : Node) :
    node.find (path ++ rest) = match node.find path with
      | .error fault => .error fault
      | .ok child => child.find rest := by
  induction path generalizing node with
  | nil => rfl
  | cons name path ih =>
    cases node with
    | file content => rfl
    | folder entries =>
      rw [List.cons_append, find, find]
      cases Assoc.get? name entries with
      | none => rfl
      | some next => exact ih next

/-- Writing below a folder changes what stands at the folder. -/
lemma exists_write {path rest : List String} {content : Bytes} {node child after : Node}
    (hfind : node.find path = .ok child) (hwrite : child.write content rest = .ok after) :
    ∃ node', node.write content (path ++ rest) = .ok node' ∧ node'.find path = .ok after := by
  induction path generalizing node with
  | nil =>
    cases hfind
    exact ⟨after, hwrite, rfl⟩
  | cons name path ih =>
    cases node with
    | file content => cases hfind
    | folder entries =>
      rw [find] at hfind
      cases hget : Assoc.get? name entries with
      | none =>
        rw [hget] at hfind
        cases hfind
      | some next =>
        rw [hget] at hfind
        obtain ⟨next', hnext, hafter⟩ := ih hfind
        refine ⟨.folder (Assoc.insert name next' entries), ?_, ?_⟩
        · rw [List.cons_append, write, hget]
          dsimp only
          rw [hnext]
        · rw [find, Assoc.get?_insert, if_pos rfl]
          exact hafter

/-- A file that was written stands at its path. -/
lemma find_of_write {path : List String} {content : Bytes} {node node' : Node}
    (h : node.write content path = .ok node') : node'.find path = .ok (.file content) := by
  induction path generalizing node node' with
  | nil =>
    cases node with
    | file _ =>
      cases h
      rfl
    | folder entries => cases h
  | cons name path ih =>
    cases node with
    | file _ => cases h
    | folder entries =>
      rw [write] at h
      cases hget : Assoc.get? name entries with
      | none =>
        rw [hget] at h
        dsimp only at h
        split_ifs at h with hlast
        cases h
        rw [List.isEmpty_iff.1 hlast, find, Assoc.get?_insert, if_pos rfl]
        rfl
      | some next =>
        rw [hget] at h
        dsimp only at h
        cases hnext : next.write content path with
        | error fault =>
          rw [hnext] at h
          cases h
        | ok next' =>
          rw [hnext] at h
          cases h
          rw [find, Assoc.get?_insert, if_pos rfl]
          exact ih hnext

/-- What can be written at all can be written over any other content, with the same outcome. -/
lemma exists_write_of_write {path : List String} {content : Bytes} (other : Bytes)
    {node after : Node} (h : node.write content path = .ok after) :
    ∃ middle, node.write other path = .ok middle ∧ middle.write content path = .ok after := by
  induction path generalizing node after with
  | nil =>
    cases node with
    | file _ => exact ⟨.file other, rfl, h⟩
    | folder entries => cases h
  | cons name path ih =>
    cases node with
    | file _ => cases h
    | folder entries =>
      rw [write] at h ⊢
      cases hget : Assoc.get? name entries with
      | none =>
        rw [hget] at h
        dsimp only at h ⊢
        split_ifs at h ⊢ with hlast
        cases h
        refine ⟨_, rfl, ?_⟩
        rw [List.isEmpty_iff.1 hlast, write, Assoc.get?_insert, if_pos rfl]
        dsimp only
        rw [write]
        dsimp only
        rw [Assoc.insert_insert]
      | some child =>
        rw [hget] at h
        dsimp only at h ⊢
        cases hchild : child.write content path with
        | error fault =>
          rw [hchild] at h
          cases h
        | ok child' =>
          rw [hchild] at h
          cases h
          obtain ⟨middle, hmiddle, hafter⟩ := ih hchild
          rw [hmiddle]
          refine ⟨_, rfl, ?_⟩
          rw [write, Assoc.get?_insert, if_pos rfl]
          dsimp only
          rw [hafter]
          dsimp only
          rw [Assoc.insert_insert]

/-- What cannot be written below a folder cannot be written. -/
lemma write_error {path rest : List String} {content : Bytes} {node child : Node}
    {fault : FileFault} (hfind : node.find path = .ok child)
    (hwrite : child.write content rest = .error fault) :
    node.write content (path ++ rest) = .error fault := by
  induction path generalizing node with
  | nil =>
    cases hfind
    exact hwrite
  | cons name path ih =>
    cases node with
    | file content => cases hfind
    | folder entries =>
      rw [find] at hfind
      cases hget : Assoc.get? name entries with
      | none =>
        rw [hget] at hfind
        cases hfind
      | some next =>
        rw [hget] at hfind
        rw [List.cons_append, write, hget]
        dsimp only
        rw [ih hfind]

/-- A file is put into a folder, unless a folder stands in its place. -/
lemma write_name {name : String} {content : Bytes} {entries : List (String × Node)}
    (h : ∀ inner, Assoc.get? name entries ≠ some (.folder inner)) :
    (folder entries).write content [name] =
      .ok (.folder (Assoc.insert name (.file content) entries)) := by
  rw [write]
  cases hget : Assoc.get? name entries with
  | none => rfl
  | some node =>
    cases node with
    | file _ => rfl
    | folder inner => exact absurd hget (h inner)

/-- Making a folder that is there leaves it as it is. -/
lemma exists_makeFolders {path : List String} {node : Node} {entries : List (String × Node)}
    (h : node.find path = .ok (.folder entries)) :
    ∃ node', node.makeFolders path = .ok node' ∧ node'.find path = .ok (.folder entries) := by
  induction path generalizing node with
  | nil =>
    cases h
    exact ⟨_, rfl, rfl⟩
  | cons name path ih =>
    cases node with
    | file content => cases h
    | folder outer =>
      rw [find] at h
      cases hget : Assoc.get? name outer with
      | none =>
        rw [hget] at h
        cases h
      | some next =>
        rw [hget] at h
        obtain ⟨next', hnext, hfind⟩ := ih h
        refine ⟨.folder (Assoc.insert name next' outer), ?_, ?_⟩
        · rw [makeFolders, hget]
          dsimp only
          rw [hnext]
        · rw [find, Assoc.get?_insert, if_pos rfl]
          exact hfind

/-- A new folder is empty. -/
lemma find_newFolders (path : List String) : (newFolders path).find path = .ok (.folder []) := by
  induction path with
  | nil => rfl
  | cons name path ih =>
    have hget : Assoc.get? name (Assoc.insert name (newFolders path) []) =
        some (newFolders path) := by
      rw [Assoc.get?_insert, if_pos rfl]
    rw [Assoc.insert] at hget
    rw [newFolders, find, hget]
    exact ih

/-- A folder that was made was there with the same entries, or it was missing and is empty. -/
lemma find_of_makeFolders {path : List String} {node node' : Node}
    (h : node.makeFolders path = .ok node') :
    ∃ entries, node'.find path = .ok (.folder entries) ∧
      (node.find path = .ok (.folder entries) ∨
        node.find path = .error .notFound ∧ entries = []) := by
  induction path generalizing node node' with
  | nil =>
    cases node with
    | file content => cases h
    | folder entries =>
      cases h
      exact ⟨entries, rfl, .inl rfl⟩
  | cons name path ih =>
    cases node with
    | file content => cases h
    | folder outer =>
      rw [makeFolders] at h
      rw [find]
      cases hget : Assoc.get? name outer with
      | none =>
        rw [hget] at h
        cases h
        refine ⟨[], ?_, .inr ⟨rfl, rfl⟩⟩
        rw [find, Assoc.get?_insert, if_pos rfl]
        exact find_newFolders path
      | some next =>
        rw [hget] at h
        dsimp only at h ⊢
        cases hnext : next.makeFolders path with
        | error fault =>
          rw [hnext] at h
          cases h
        | ok next' =>
          rw [hnext] at h
          cases h
          rw [find, Assoc.get?_insert, if_pos rfl]
          exact ih hnext

end Node

/-! ## Folders -/

namespace Disk

/-- The folder at a path holds the given entries. -/
def HasFolder (d : Disk) (folder : String) (entries : List (String × Node)) : Prop :=
  d.root.find (d.resolve folder) = .ok (.folder entries)

/-- A name that is a path of one part. -/
def IsName (name : String) : Prop := isAbsolute name = false ∧ pathParts name = [name]

instance (name : String) : Decidable (IsName name) :=
  inferInstanceAs (Decidable (_ ∧ _))

variable {d : Disk} {folder name : String} {entries : List (String × Node)}

/-- A name stands in its folder. -/
lemma locate_of_isName (d : Disk) (folder : String) (h : IsName name) :
    d.locate ⟨folder, name⟩ = d.resolve folder ++ [name] := by
  unfold locate
  rw [h.1, h.2]
  rfl

/-- An empty list of names is that of an empty folder. -/
lemma hasFolder_of_list (h : d.list folder = .ok []) : d.HasFolder folder [] := by
  unfold list Node.list at h
  unfold HasFolder
  cases hfind : d.root.find (d.resolve folder) with
  | error fault =>
    rw [hfind] at h
    cases h
  | ok node =>
    rw [hfind] at h
    cases node with
    | file content => cases h
    | folder entries =>
      dsimp only at h
      rw [List.map_eq_nil_iff.1 (Except.ok.inj h)]

/-- A disk with nothing but one folder. -/
def single (name : String) (entries : List (String × Node)) : Disk where
  root := .folder [(name, .folder entries)]
  home := []

/-- The folder is there. -/
lemma hasFolder_single (hname : IsName name) (entries : List (String × Node)) :
    (single name entries).HasFolder name entries := by
  have hget : Assoc.get? name (Assoc.insert name (Node.folder entries) []) =
      some (.folder entries) := by
    rw [Assoc.get?_insert, if_pos rfl]
  unfold HasFolder resolve
  rw [hname.1, hname.2]
  change Node.find [name] (.folder (Assoc.insert name (.folder entries) [])) = _
  rw [Node.find, hget]
  rfl

/-- A file that was written is read, wherever it is. -/
lemma read_of_write {p : Place} {content : Bytes} {d' : Disk}
    (h : d.write p content = .ok d') : d'.read p = .ok content := by
  unfold Disk.write at h
  cases hroot : d.root.write content (d.locate p) with
  | error fault =>
    rw [hroot] at h
    cases h
  | ok root =>
    rw [hroot] at h
    cases h
    have hfind : root.find (d.locate p) = .ok (.file content) := Node.find_of_write hroot
    change root.read (d.locate p) = .ok content
    rw [Node.read, hfind]

/-- A file that can be written can be written over any other content, with the same outcome. -/
lemma exists_write_of_write {p : Place} {content : Bytes} (other : Bytes) {d' : Disk}
    (h : d.write p content = .ok d') :
    ∃ middle, d.write p other = .ok middle ∧ middle.write p content = .ok d' := by
  unfold Disk.write at h ⊢
  cases hroot : d.root.write content (d.locate p) with
  | error fault =>
    rw [hroot] at h
    cases h
  | ok root =>
    rw [hroot] at h
    cases h
    obtain ⟨middle, hmiddle, hafter⟩ := Node.exists_write_of_write other hroot
    rw [hmiddle]
    refine ⟨_, rfl, ?_⟩
    change (middle.write content (d.locate p)).map _ = _
    rw [hafter]
    rfl

/-- What reading a name in a folder gives. -/
lemma HasFolder.read_eq (h : d.HasFolder folder entries) (hname : IsName name) :
    d.read ⟨folder, name⟩ = match Assoc.get? name entries with
      | none => .error .notFound
      | some node => node.read [] := by
  unfold read Node.read
  rw [locate_of_isName d folder hname, Node.find_append, h]
  dsimp only
  rw [Node.find]
  cases Assoc.get? name entries <;> rfl

/-- A file in a folder is read. -/
lemma HasFolder.read_file (h : d.HasFolder folder entries) (hname : IsName name) {content : Bytes}
    (hget : Assoc.get? name entries = some (.file content)) :
    d.read ⟨folder, name⟩ = .ok content := by
  rw [h.read_eq hname, hget]
  rfl

/-- A file that is not in a folder is missing. -/
lemma HasFolder.read_missing (h : d.HasFolder folder entries) (hname : IsName name)
    (hget : Assoc.get? name entries = none) : d.read ⟨folder, name⟩ = .error .notFound := by
  rw [h.read_eq hname, hget]

/-- What is read as a file is one. -/
lemma HasFolder.get?_of_read (h : d.HasFolder folder entries) (hname : IsName name)
    {content : Bytes} (hread : d.read ⟨folder, name⟩ = .ok content) :
    Assoc.get? name entries = some (.file content) := by
  rw [h.read_eq hname] at hread
  cases hget : Assoc.get? name entries with
  | none =>
    rw [hget] at hread
    cases hread
  | some node =>
    rw [hget] at hread
    cases node with
    | file found =>
      cases hread
      rfl
    | folder inner => cases hread

/-- A file is put into a folder, unless a folder stands in its place. -/
lemma HasFolder.write (h : d.HasFolder folder entries) (hname : IsName name)
    (hplace : ∀ inner, Assoc.get? name entries ≠ some (.folder inner)) (content : Bytes) :
    ∃ d', d.write ⟨folder, name⟩ content = .ok d' ∧
      d'.HasFolder folder (Assoc.insert name (.file content) entries) := by
  have hfile : (Node.folder entries).write content [name] = _ := Node.write_name hplace
  obtain ⟨root, hroot, hfind⟩ := Node.exists_write h hfile
  refine ⟨{ d with root }, ?_, hfind⟩
  unfold Disk.write
  rw [locate_of_isName d folder hname, hroot]
  rfl

/-- Making a folder that is there leaves it as it is. -/
lemma HasFolder.makeFolders (h : d.HasFolder folder entries) :
    ∃ d', d.makeFolders folder = .ok d' ∧ d'.HasFolder folder entries := by
  obtain ⟨root, hroot, hfind⟩ := Node.exists_makeFolders h
  refine ⟨{ d with root }, ?_, hfind⟩
  unfold Disk.makeFolders
  rw [hroot]
  rfl

/-- There is a folder at a path. -/
def IsFolder (d : Disk) (folder : String) : Prop := ∃ entries, d.HasFolder folder entries

/-- The files of a folder, but for those that are named, read as before. -/
def SameFiles (folder : String) (changed : List String) (d d' : Disk) : Prop :=
  ∀ name, IsName name → name ∉ changed → d'.read ⟨folder, name⟩ = d.read ⟨folder, name⟩

/-- Changes after changes. -/
lemma SameFiles.trans {changed changed' : List String} {d' d'' : Disk}
    (h : SameFiles folder changed d d') (h' : SameFiles folder changed' d' d'') :
    SameFiles folder (changed ++ changed') d d'' := by
  intro name hname hmem
  rw [List.mem_append, not_or] at hmem
  rw [h' name hname hmem.2, h name hname hmem.1]

/-- Fewer files may be said to stay. -/
lemma SameFiles.mono {changed changed' : List String} {d' : Disk}
    (h : SameFiles folder changed d d') (hsub : changed ⊆ changed') :
    SameFiles folder changed' d d' :=
  fun name hname hmem => h name hname fun hchanged => hmem (hsub hchanged)

/-- A file is only found in a folder. -/
lemma isFolder_of_read (hname : IsName name) {content : Bytes}
    (h : d.read ⟨folder, name⟩ = .ok content) : d.IsFolder folder := by
  unfold read Node.read at h
  rw [locate_of_isName d folder hname, Node.find_append] at h
  unfold IsFolder HasFolder
  cases hfind : d.root.find (d.resolve folder) with
  | error fault =>
    rw [hfind] at h
    cases h
  | ok node =>
    rw [hfind] at h
    cases node with
    | file content => cases h
    | folder entries => exact ⟨entries, rfl⟩

/-- A folder that was made is there, and its files read as before. -/
lemma isFolder_of_makeFolders {made : Disk} (h : d.makeFolders folder = .ok made) :
    made.IsFolder folder ∧ SameFiles folder [] d made := by
  unfold makeFolders at h
  cases hroot : d.root.makeFolders (d.resolve folder) with
  | error fault =>
    rw [hroot] at h
    cases h
  | ok root =>
    rw [hroot] at h
    cases h
    obtain ⟨entries, hmade, hbefore⟩ := Node.find_of_makeFolders hroot
    have hfolder : HasFolder { d with root } folder entries := hmade
    refine ⟨⟨entries, hfolder⟩, ?_⟩
    intro name hname _
    rcases hbefore with hbefore | ⟨hmissing, rfl⟩
    · have hsame : d.HasFolder folder entries := hbefore
      rw [hfolder.read_eq hname, hsame.read_eq hname]
    · rw [hfolder.read_missing hname rfl]
      unfold read Node.read
      rw [locate_of_isName d folder hname, Node.find_append, hmissing]

/-- A folder that is there can be made. -/
lemma IsFolder.makeFolders (h : d.IsFolder folder) :
    ∃ made, d.makeFolders folder = .ok made ∧ made.IsFolder folder ∧
      SameFiles folder [] d made := by
  obtain ⟨entries, hentries⟩ := h
  obtain ⟨made, hmade, -⟩ := hentries.makeFolders
  exact ⟨made, hmade, isFolder_of_makeFolders hmade⟩

/-- A file is put into a folder, unless a folder stands in its place; other files stay. -/
lemma IsFolder.write (h : d.IsFolder folder) (hname : IsName name)
    (hplace : d.read ⟨folder, name⟩ ≠ .error .isDirectory) (content : Bytes) :
    ∃ d', d.write ⟨folder, name⟩ content = .ok d' ∧ d'.IsFolder folder ∧
      d'.read ⟨folder, name⟩ = .ok content ∧ SameFiles folder [name] d d' := by
  obtain ⟨entries, hentries⟩ := h
  have hfile : ∀ inner, Assoc.get? name entries ≠ some (.folder inner) := by
    intro inner hget
    rw [hentries.read_eq hname, hget] at hplace
    exact hplace rfl
  obtain ⟨d', hwrite, hafter⟩ := hentries.write hname hfile content
  refine ⟨d', hwrite, ⟨_, hafter⟩, hafter.read_file hname ?_, ?_⟩
  · rw [Assoc.get?_insert, if_pos rfl]
  · intro other hother hne
    rw [hafter.read_eq hother, hentries.read_eq hother, Assoc.get?_insert,
      if_neg (List.ne_of_not_mem_cons hne)]

/-- A file is not put in the place of a folder. -/
lemma IsFolder.ne_isDirectory_of_write (h : d.IsFolder folder) (hname : IsName name)
    {content : Bytes} {d' : Disk} (hwrite : d.write ⟨folder, name⟩ content = .ok d') :
    d.read ⟨folder, name⟩ ≠ .error .isDirectory := by
  obtain ⟨entries, hentries⟩ := h
  intro hread
  rw [hentries.read_eq hname] at hread
  cases hget : Assoc.get? name entries with
  | none =>
    rw [hget] at hread
    cases hread
  | some node =>
    rw [hget] at hread
    cases node with
    | file content => cases hread
    | folder inner =>
      have hfile : (Node.folder entries).write content [name] = .error .isDirectory := by
        rw [Node.write, hget]
        rfl
      unfold Disk.write at hwrite
      rw [locate_of_isName d folder hname, Node.write_error hentries hfile] at hwrite
      cases hwrite

/-- A file that was put into a folder is there; other files stay. -/
lemma IsFolder.of_write (h : d.IsFolder folder) (hname : IsName name) {content : Bytes} {d' : Disk}
    (hwrite : d.write ⟨folder, name⟩ content = .ok d') :
    d'.IsFolder folder ∧ d'.read ⟨folder, name⟩ = .ok content ∧
      SameFiles folder [name] d d' := by
  obtain ⟨after, hafter, hkept⟩ :=
    h.write hname (h.ne_isDirectory_of_write hname hwrite) content
  rw [hwrite] at hafter
  cases hafter
  exact hkept

end Disk

/-! ## Jobs -/

namespace Job

variable {α β : Type}

/-- Carries a job out on a disk that, where a fault is given, answers with it whenever a file is to
be replaced; the file stays as it is. -/
def runRefusing (refusal : Option FileFault) : Job α → Disk → Except Failure α × Disk
  | .done value, disk => (.ok value, disk)
  | .fail failure, disk => (.error failure, disk)
  | .makeFolders folder next, disk =>
    match disk.makeFolders folder with
    | .ok disk => (next (.ok ())).runRefusing refusal disk
    | .error fault => (next (.error fault)).runRefusing refusal disk
  | .read place next, disk => (next (disk.read place)).runRefusing refusal disk
  | .replace _ place content next, disk =>
    match refusal with
    | some fault => (next (.error fault)).runRefusing refusal disk
    | none =>
      match disk.write place content with
      | .ok disk => (next (.ok ())).runRefusing refusal disk
      | .error fault => (next (.error fault)).runRefusing refusal disk

/-- A disk that refuses nothing carries jobs out as usual. -/
theorem runRefusing_none (job : Job α) (disk : Disk) :
    job.runRefusing none disk = job.run disk := by
  induction job generalizing disk with
  | done value => rfl
  | fail failure => rfl
  | makeFolders folder next ih =>
    rw [runRefusing, run]
    cases disk.makeFolders folder with
    | ok disk => exact ih _ disk
    | error fault => exact ih _ disk
  | read place next ih =>
    rw [runRefusing, run]
    exact ih _ disk
  | replace way place content next ih =>
    rw [runRefusing, run]
    cases disk.write place content with
    | ok disk => exact ih _ disk
    | error fault => exact ih _ disk

/-- A sequence goes on with what its first job gives, and ends with it when it fails. -/
lemma runRefusing_bind (refusal : Option FileFault) (job : Job α) (next : α → Job β) (disk : Disk) :
    (job >>= next).runRefusing refusal disk = match job.runRefusing refusal disk with
      | (.ok value, disk) => (next value).runRefusing refusal disk
      | (.error failure, disk) => (.error failure, disk) := by
  change (job.bind next).runRefusing refusal disk = _
  induction job generalizing disk with
  | done value => rfl
  | fail failure => rfl
  | makeFolders folder go ih =>
    rw [bind, runRefusing, runRefusing]
    cases disk.makeFolders folder with
    | ok disk => exact ih _ disk
    | error fault => exact ih _ disk
  | read place go ih =>
    rw [bind, runRefusing, runRefusing]
    exact ih _ disk
  | replace way place content go ih =>
    cases refusal with
    | some fault => exact ih _ disk
    | none =>
      rw [bind, runRefusing, runRefusing]
      cases disk.write place content with
      | ok disk => exact ih _ disk
      | error fault => exact ih _ disk

/-- A sequence goes on with what its first job gives, and ends with it when it fails. -/
lemma run_bind (job : Job α) (next : α → Job β) (disk : Disk) :
    (job >>= next).run disk = match job.run disk with
      | (.ok value, disk) => (next value).run disk
      | (.error failure, disk) => (.error failure, disk) := by
  simp only [← runRefusing_none, runRefusing_bind]

/-- A sequence whose first job gives a value goes on with it. -/
lemma run_bind_ok {job : Job α} {next : α → Job β} {disk after : Disk} {value : α}
    (h : job.run disk = (.ok value, after)) : (job >>= next).run disk = (next value).run after := by
  rw [run_bind, h]

/-- A sequence whose first job fails has failed. -/
lemma run_bind_error {job : Job α} {next : α → Job β} {disk after : Disk} {failure : Failure}
    (h : job.run disk = (.error failure, after)) :
    (job >>= next).run disk = (.error failure, after) := by
  rw [run_bind, h]

/-- A sequence that gives a value does so after its first job has given one. -/
lemma exists_of_run_bind {job : Job α} {next : α → Job β} {disk after : Disk} {value : β}
    (h : (job >>= next).run disk = (.ok value, after)) :
    ∃ found middle, job.run disk = (.ok found, middle) ∧
      (next found).run middle = (.ok value, after) := by
  rw [run_bind] at h
  rcases hrun : job.run disk with ⟨result, middle⟩
  rw [hrun] at h
  cases result with
  | error failure => cases h
  | ok found => exact ⟨found, middle, rfl, h⟩

/-- What loading a file makes of the answer of the disk. -/
def loaded : Except FileFault Bytes → Except Failure (Option Bytes)
  | .ok content => .ok (some content)
  | .error .notFound => .ok none
  | .error fault => .error (.file fault)

/-- Loading a file. -/
lemma run_load? (place : Place) (disk : Disk) :
    (load? place).run disk = (loaded (disk.read place), disk) := by
  unfold load?
  rw [run]
  cases disk.read place with
  | ok content => rfl
  | error fault => cases fault <;> rfl

/-- Replacing a file. -/
lemma run_store {place : Place} {content : Bytes} {disk after : Disk}
    (h : disk.write place content = .ok after) :
    (store place content).run disk = (.ok (), after) := by
  unfold store
  rw [run, h]
  rfl

/-- A file that cannot be replaced. -/
lemma run_store_error {place : Place} {content : Bytes} {disk : Disk} {fault : FileFault}
    (h : disk.write place content = .error fault) :
    (store place content).run disk = (.error (.file fault), disk) := by
  unfold store
  rw [run, h]
  rfl

/-- A file that was replaced. -/
lemma write_of_run_store {place : Place} {content : Bytes} {disk after : Disk}
    (h : (store place content).run disk = (.ok (), after)) :
    disk.write place content = .ok after := by
  unfold store at h
  rw [run] at h
  cases hwrite : disk.write place content with
  | error fault =>
    rw [hwrite] at h
    cases h
  | ok disk' =>
    rw [hwrite] at h
    cases h
    rfl

/-- Making a folder. -/
lemma run_needFolders {folder : String} {disk after : Disk}
    (h : disk.makeFolders folder = .ok after) :
    (needFolders folder).run disk = (.ok (), after) := by
  unfold needFolders
  rw [run, h]
  rfl

/-- A folder that was made. -/
lemma makeFolders_of_run_needFolders {folder : String} {disk after : Disk}
    (h : (needFolders folder).run disk = (.ok (), after)) :
    disk.makeFolders folder = .ok after := by
  unfold needFolders at h
  rw [run] at h
  cases hmade : disk.makeFolders folder with
  | error fault =>
    rw [hmade] at h
    cases h
  | ok disk' =>
    rw [hmade] at h
    cases h
    rfl

/-- Explaining failures changes no value and nothing on the disk. -/
lemma run_mapFailure (explain : Failure → Failure) (job : Job α) (disk : Disk) :
    (job.mapFailure explain).run disk =
      ((job.run disk).1.mapError explain, (job.run disk).2) := by
  induction job generalizing disk with
  | done value => rfl
  | fail failure => rfl
  | makeFolders folder next ih =>
    rw [mapFailure, run, run]
    cases disk.makeFolders folder with
    | ok disk => exact ih _ disk
    | error fault => exact ih _ disk
  | read place next ih =>
    rw [mapFailure, run, run]
    exact ih _ disk
  | replace way place content next ih =>
    rw [mapFailure, run, run]
    cases disk.write place content with
    | ok disk => exact ih _ disk
    | error fault => exact ih _ disk

/-- A job gives a value whether its failures are explained or not. -/
lemma run_of_run_mapFailure {explain : Failure → Failure} {job : Job α} {disk after : Disk}
    {value : α} (h : (job.mapFailure explain).run disk = (.ok value, after)) :
    job.run disk = (.ok value, after) := by
  rw [run_mapFailure] at h
  rcases hrun : job.run disk with ⟨result, disk'⟩
  rw [hrun] at h
  cases result with
  | error failure => cases h
  | ok found =>
    cases h
    rfl

end Job

/-- Replacing a file in a folder, or adding it. -/
lemma Disk.IsFolder.run_store {d : Disk} {folder name : String} (h : d.IsFolder folder)
    (hname : Disk.IsName name) (hplace : d.read ⟨folder, name⟩ ≠ .error .isDirectory)
    (content : Bytes) :
    ∃ d', (Job.store ⟨folder, name⟩ content).run d = (.ok (), d') ∧ d'.IsFolder folder ∧
      d'.read ⟨folder, name⟩ = .ok content ∧ Disk.SameFiles folder [name] d d' := by
  obtain ⟨d', hwrite, hafter⟩ := h.write hname hplace content
  exact ⟨d', Job.run_store hwrite, hafter⟩

end SessionVault
