import StorageTypes.Cli.Disk

namespace StorageTypes.Cli

structure IsPart (part : String) : Prop where
  nonempty : part ≠ ""
  moves : part ≠ "."
  whole : '/' ∉ part.toList

def Place.parts : Place → List String
  | .inside parts => parts
  | .outside parts => parts

variable {path text part : String} {parts : List String} {place target reached : Place} {disk : Disk}

theorem isPart_of_mem_pathParts (h : part ∈ pathParts path) : IsPart part := by
  simp only [pathParts, List.mem_filter, List.mem_map, Bool.and_eq_true, bne_iff_ne] at h
  obtain ⟨⟨piece, hpiece, rfl⟩, hempty, hpoint⟩ := h
  have hwhole := Text.not_mem_of_mem_pieces hpiece
  exact ⟨hempty, hpoint, by rwa [String.toList_ofList]⟩

theorem pathParts_join (h : ∀ part ∈ parts, IsPart part) : pathParts (Text.join "/" parts) = parts := by
  cases parts with
  | nil => rfl
  | cons first rest =>
    have hpieces : (Text.pieces '/' (Text.join "/" (first :: rest)).toList).map String.ofList
        = first :: rest :=
      Text.pieces_join rfl (List.cons_ne_nil first rest) fun part hpart => (h part hpart).whole
    have hkept : ∀ part ∈ first :: rest, (part != "" && part != ".") = true := by
      intro part hpart
      rw [Bool.and_eq_true, bne_iff_ne, bne_iff_ne]
      exact ⟨(h part hpart).nonempty, (h part hpart).moves⟩
    rw [pathParts, hpieces]
    exact List.filter_eq_self.2 hkept

theorem isPart_step (hplace : ∀ name ∈ place.parts, IsPart name) (hpart : IsPart part) :
    ∀ name ∈ (place.step part).parts, IsPart name := by
  have hdown : ∀ {parts : List String}, (∀ name ∈ parts, IsPart name) →
      ∀ name ∈ parts ++ [part], IsPart name := by
    intro parts hparts name hname
    rcases List.mem_append.1 hname with hold | hnew
    · exact hparts name hold
    · exact List.mem_singleton.1 hnew ▸ hpart
  have hup : ∀ {parts : List String}, (∀ name ∈ parts, IsPart name) →
      ∀ name ∈ parts.dropLast, IsPart name :=
    fun hparts name hname => hparts name (List.dropLast_subset _ hname)
  cases place with
  | inside parts =>
    simp only [Place.step]
    split
    · exact hdown hplace
    · split
      · intro name hname
        obtain rfl := List.mem_singleton.1 hname
        exact ⟨by decide, by decide, by decide⟩
      · exact hup hplace
  | outside parts =>
    simp only [Place.step]
    split
    · exact hdown hplace
    · exact hup hplace

namespace Disk

theorem walk_cons_eq_ok_iff {rest : List String} :
    disk.walk place (part :: rest) = .ok reached
      ↔ disk.entry place = .directory ∧ part.utf8ByteSize ≤ nameLimit
        ∧ disk.walk (place.step part) rest = .ok reached := by
  simp only [walk]
  cases hentry : disk.entry place with
  | directory =>
    by_cases hlong : nameLimit < part.utf8ByteSize
    · simp [hlong, Nat.not_le.2 hlong]
    · simp [hlong, Nat.not_lt.1 hlong]
  | nothing | file _ | sink => simp

theorem locate_eq_ok_iff :
    disk.locate path = .ok reached
      ↔ (plainPath path).utf8ByteSize ≤ pathLimit
        ∧ disk.walk (startOf path) (pathParts path) = .ok reached := by
  simp only [locate]
  by_cases hlong : pathLimit < (plainPath path).utf8ByteSize
  · simp [hlong, Nat.not_le.2 hlong]
  · simp [hlong, Nat.not_lt.1 hlong]

theorem isPart_walk (hplace : ∀ name ∈ place.parts, IsPart name) (hparts : ∀ name ∈ parts, IsPart name)
    (h : disk.walk place parts = .ok reached) : ∀ name ∈ reached.parts, IsPart name := by
  induction parts generalizing place with
  | nil =>
    cases h
    exact hplace
  | cons part rest ih =>
    obtain ⟨-, -, hrest⟩ := walk_cons_eq_ok_iff.1 h
    rw [List.forall_mem_cons] at hparts
    exact ih (isPart_step hplace hparts.1) hparts.2 hrest

theorem isPart_locate (h : disk.locate path = .ok reached) : ∀ name ∈ reached.parts, IsPart name := by
  have hstart : ∀ name ∈ (startOf path).parts, IsPart name := by
    simp only [startOf]
    split <;> simp [Place.parts]
  have hparts : ∀ name ∈ pathParts path, IsPart name := fun _ hname => isPart_of_mem_pathParts hname
  exact isPart_walk hstart hparts (locate_eq_ok_iff.1 h).2

theorem mem_names_files {name : String} :
    name ∈ Dictionary.names disk.files
      ↔ name ∈ Dictionary.names disk.texts ∧ rootSlashes name = "" := by
  simp [Dictionary.names, files]

theorem mem_names_put {name : String} :
    name ∈ Dictionary.names (disk.put target text).files
      ↔ (name ∈ Dictionary.names disk.texts ∨ name = target.path) ∧ rootSlashes name = "" := by
  rw [mem_names_files, put, Dictionary.names_put]
  split <;> grind

theorem isDirectory_iff :
    disk.isDirectory parts
      ↔ parts = [] ∨ ∃ name ∈ Dictionary.names disk.files,
          parts <+: pathParts name ∧ parts.length < (pathParts name).length := by
  simp [isDirectory]

theorem entry_inside_iff : disk.entry (.inside parts) = .directory ↔ disk.isDirectory parts := by
  simp only [entry, fileAt]
  grind

theorem entry_put_of_directory (h : disk.entry place = .directory) :
    (disk.put target text).entry place = .directory := by
  cases place with
  | inside parts =>
    rw [entry_inside_iff, isDirectory_iff] at h ⊢
    rcases h with hempty | ⟨name, hname, hbelow⟩
    · exact .inl hempty
    · rw [mem_names_files] at hname
      exact .inr ⟨name, mem_names_put.2 ⟨.inl hname.1, hname.2⟩, hbelow⟩
  | outside parts =>
    simp only [entry, fileAt] at h ⊢
    grind

theorem walk_put (h : disk.walk place parts = .ok reached) :
    (disk.put target text).walk place parts = .ok reached := by
  induction parts generalizing place with
  | nil => exact h
  | cons part rest ih =>
    obtain ⟨hentry, hshort, hrest⟩ := walk_cons_eq_ok_iff.1 h
    exact walk_cons_eq_ok_iff.2 ⟨entry_put_of_directory hentry, hshort, ih hrest⟩

theorem locate_put (h : disk.locate path = .ok reached) (target : Place) (text : String) :
    (disk.put target text).locate path = .ok reached := by
  obtain ⟨hshort, hwalk⟩ := locate_eq_ok_iff.1 h
  exact locate_eq_ok_iff.2 ⟨hshort, walk_put hwalk⟩

/-- Places at which a text can be kept. -/
def Keeps (disk : Disk) (place : Place) : Prop :=
  disk.entry place ≠ .directory ∧ disk.entry place ≠ .sink

theorem fileAt_put (disk : Disk) (place : Place) (text : String) :
    (disk.put place text).fileAt place = .file text := by
  rw [fileAt, put, Dictionary.find?_put_self]

theorem not_isDirectory_put (hparts : ∀ name ∈ parts, IsPart name) (h : ¬disk.isDirectory parts) :
    ¬(disk.put (.inside parts) text).isDirectory parts := by
  rw [isDirectory_iff] at h ⊢
  intro hnew
  rcases hnew with hempty | ⟨name, hname, hbelow⟩
  · exact h (.inl hempty)
  · rw [mem_names_put] at hname
    rcases hname.1 with hold | hown
    · exact h (.inr ⟨name, mem_names_files.2 ⟨hold, hname.2⟩, hbelow⟩)
    · rw [hown, Place.path, pathParts_join hparts] at hbelow
      exact Nat.lt_irrefl _ hbelow.2

theorem systemEntry_cases (parts : List String) :
    systemEntry parts = .nothing ∨ systemEntry parts = .directory ∨ systemEntry parts = .sink := by
  simp only [systemEntry]
  split <;> grind

theorem entry_put_self (hparts : ∀ name ∈ place.parts, IsPart name) (h : disk.Keeps place)
    (text : String) : (disk.put place text).entry place = .file text := by
  cases place with
  | inside parts =>
    have hfree : ¬disk.isDirectory parts := fun hdirectory => h.1 (entry_inside_iff.2 hdirectory)
    have hparts' : ∀ name ∈ parts, IsPart name := hparts
    rw [entry, if_neg (not_isDirectory_put hparts' hfree), fileAt_put]
  | outside parts =>
    have hfree : systemEntry parts = .nothing := by
      simp only [Keeps, entry] at h
      have hcases := systemEntry_cases parts
      grind
    rw [entry, if_pos hfree, fileAt_put]

/-- Paths that lead to a place at which a text can be kept. -/
structure Writable (disk : Disk) (path : String) : Prop where
  allowed : holdsNull path = false
  leads : ∃ place, disk.locate path = .ok place ∧ disk.Keeps place

theorem keeps_of_file (h : disk.entry place = .file text) : disk.Keeps place := by
  rw [Keeps, h]
  exact ⟨by simp, by simp⟩

theorem read_of_entry (hallowed : holdsNull path = false) (hplace : disk.locate path = .ok place)
    (hentry : disk.entry place = .file text) : disk.read path = .ok text := by
  simp only [read, hallowed, hplace, hentry]
  rfl

theorem Writable.write_leads (h : disk.Writable path) (text : String) :
    ∃ after, disk.write path text = .ok after ∧ after.Writable path ∧ after.read path = .ok text := by
  obtain ⟨place, hplace, hkeeps⟩ := h.leads
  have hwritten : disk.write path text = .ok (disk.put place text) := by
    simp only [write, h.allowed, hplace]
    have ⟨hdirectory, hsink⟩ := hkeeps
    grind
  have hplace' := locate_put hplace place text
  have hentry := entry_put_self (isPart_locate hplace) hkeeps text
  have hread : (disk.put place text).read path = .ok text := read_of_entry h.allowed hplace' hentry
  exact ⟨_, hwritten, ⟨h.allowed, place, hplace', keeps_of_file hentry⟩, hread⟩

theorem Writable.read_write (h : disk.Writable path) (text : String) :
    ∃ after, disk.write path text = .ok after ∧ after.read path = .ok text := by
  obtain ⟨after, hwritten, -, hread⟩ := h.write_leads text
  exact ⟨after, hwritten, hread⟩

/-- A path can be written exactly if whatever is written there is there afterwards. -/
theorem writable_iff :
    disk.Writable path
      ↔ ∀ text, ∃ after, disk.write path text = .ok after ∧ after.read path = .ok text := by
  constructor
  · exact Writable.read_write
  · intro h
    obtain ⟨after, hwritten, hread⟩ := h "kept"
    simp only [write] at hwritten
    split at hwritten
    · cases hwritten
    next hallowed =>
    split at hwritten
    · cases hwritten
    · cases hwritten
    · cases hwritten
    next place hplace =>
    refine ⟨eq_false_of_ne_true hallowed, place, hplace, ?_⟩
    split at hwritten
    · cases hwritten
    next hsink =>
      cases hwritten
      simp only [read, if_neg hallowed, hplace, hsink] at hread
      exact absurd (Except.ok.inj hread) (by decide)
    next hdirectory hsink => exact ⟨hdirectory, hsink⟩

end Disk

end StorageTypes.Cli
