import StorageTypes.Proofs.Command

namespace StorageTypes.Cli

/-- A step next to a session: a text put into its schema file, or a question for its registry. -/
inductive SessionStep where
  | write (text : String)
  | ask

def Disk.written (disk : Disk) (path text : String) : Disk :=
  match disk.write path text with
  | .ok after => after
  | .error _ => disk

def Session.answers (session : Session) (disk : Disk) :
    List SessionStep → List (Logged LoadError Registry)
  | [] => []
  | .write text :: rest => session.answers (disk.written session.path text) rest
  | .ask :: rest =>
    (session.registry disk).2 :: (session.registry disk).1.answers disk rest

def Disk.contents (disk : Disk) (path : String) : List SessionStep → List (Except FileFault String)
  | [] => []
  | .write text :: rest => (disk.written path text).contents path rest
  | .ask :: rest => disk.read path :: disk.contents path rest

def lastWritten (content : Except FileFault String) :
    List SessionStep → List (Except FileFault String)
  | [] => []
  | .write text :: rest => lastWritten (.ok text) rest
  | .ask :: rest => content :: lastWritten content rest

/-- Contents of a schema file from which no registry is loaded. -/
def Unloadable (path : String) (content : Except FileFault String) : Prop :=
  ∀ registry, (loadRegistry path content).result ≠ .ok registry

/-- Answers that follow the contents of a file up to the first registry and repeat it from then on. -/
structure KeepFirst (path : String) (contents : List (Except FileFault String))
    (answers : List (Logged LoadError Registry)) : Prop where
  never : (∀ content ∈ contents, Unloadable path content) →
    answers = contents.map (loadRegistry path)
  once : ∀ before content after registry, contents = before ++ content :: after →
    (∀ earlier ∈ before, Unloadable path earlier) →
    (loadRegistry path content).result = .ok registry →
      answers = (before ++ [content]).map (loadRegistry path) ++ after.map fun _ => .pure registry

variable {session : Session} {disk : Disk} {path : String} {registry : Registry}
  {steps : List SessionStep}

theorem Session.registry_unloadable (hempty : session.loaded = none)
    (h : Unloadable session.path (disk.read session.path)) :
    session.registry disk = (session, loadRegistry session.path (disk.read session.path)) := by
  simp only [Session.registry, hempty]
  split
  next registry hregistry => exact absurd hregistry (h registry)
  · rfl

theorem Session.registry_loadable (hempty : session.loaded = none)
    (h : (loadRegistry session.path (disk.read session.path)).result = .ok registry) :
    session.registry disk = ({ session with loaded := some registry },
      loadRegistry session.path (disk.read session.path)) := by
  simp only [Session.registry, hempty, h]

theorem Session.registry_kept (h : session.loaded = some registry) (disk : Disk) :
    session.registry disk = (session, .pure registry) := by
  simp only [Session.registry, h]

theorem Session.answers_kept (h : session.loaded = some registry) (disk : Disk)
    (steps : List SessionStep) :
    session.answers disk steps = (disk.contents session.path steps).map fun _ => .pure registry := by
  induction steps generalizing disk with
  | nil => rfl
  | cons step rest ih =>
    cases step with
    | write text => exact ih _
    | ask =>
      rw [Session.answers, Session.registry_kept h, Disk.contents, List.map_cons, ih]

theorem Session.answers_keepFirst (hempty : session.loaded = none) (disk : Disk)
    (steps : List SessionStep) :
    KeepFirst session.path (disk.contents session.path steps) (session.answers disk steps) := by
  induction steps generalizing disk with
  | nil => exact ⟨fun _ => rfl, fun before _ _ _ h => by simp [Disk.contents] at h⟩
  | cons step rest ih =>
    cases step with
    | write text => exact ih _
    | ask =>
      constructor
      case never =>
        intro h
        obtain ⟨hfirst, hrest⟩ := List.forall_mem_cons.1 h
        rw [Session.answers, Session.registry_unloadable hempty hfirst, (ih disk).never hrest]
        rfl
      case once =>
        intro before content after registry hcontents hbefore hcontent
        cases before with
        | nil =>
          obtain ⟨rfl, rfl⟩ := List.cons.inj hcontents
          rw [Session.answers, Session.registry_loadable hempty hcontent, Session.answers_kept rfl]
          rfl
        | cons first before =>
          obtain ⟨rfl, hrest⟩ := List.cons.inj hcontents
          obtain ⟨hfirst, hbefore⟩ := List.forall_mem_cons.1 hbefore
          rw [Session.answers, Session.registry_unloadable hempty hfirst,
            (ih disk).once before content after registry hrest hbefore hcontent]
          rfl

theorem Disk.contents_writable (h : disk.Writable path) (steps : List SessionStep) :
    disk.contents path steps = lastWritten (disk.read path) steps := by
  induction steps generalizing disk with
  | nil => rfl
  | cons step rest ih =>
    cases step with
    | write text =>
      obtain ⟨after, hwritten, hafter, hread⟩ := h.write_leads text
      rw [Disk.contents, Disk.written, hwritten]
      simp only [lastWritten]
      rw [ih hafter, hread]
    | ask => rw [Disk.contents, lastWritten, ih h]

/-- A session answers from the file as it is at each question, until there is a registry. That one it
keeps. -/
theorem session_keeps_first (path : String) (disk : Disk) (steps : List SessionStep) :
    KeepFirst path (disk.contents path steps) (Session.answers { path := path } disk steps)
      ∧ (disk.Writable path → disk.contents path steps = lastWritten (disk.read path) steps) := by
  have hfresh : ({ path := path } : Session).loaded = none := rfl
  exact ⟨Session.answers_keepFirst hfresh disk steps, fun h => Disk.contents_writable h steps⟩

def noteText : String := "\x7b\"note\": \x7b\x7d\x7d"

/-- A file that holds no definitions, then one, then a text that cannot be read. -/
def noteSteps : List SessionStep :=
  [.write "[]", .ask, .write noteText, .ask, .write "[", .ask]

theorem noteDisk_schema_writable : noteDisk.Writable "schema.json" := by
  have hplace : noteDisk.locate "schema.json" = .ok (.inside ["schema.json"]) := rfl
  exact ⟨rfl, _, hplace, Disk.keeps_of_file rfl⟩

theorem session_keeps_note :
    noteDisk.Writable "schema.json"
      ∧ Unloadable "schema.json" (.ok "[]")
      ∧ (loadRegistry "schema.json" (.ok noteText)).result = .ok noteRegistry
      ∧ Session.answers { path := "schema.json" } noteDisk noteSteps
        = [loadRegistry "schema.json" (.ok "[]"), loadRegistry "schema.json" (.ok noteText),
          .pure noteRegistry] := by
  have hfails : Unloadable "schema.json" (.ok "[]") := by
    intro registry hregistry
    rw [loadRegistry, readObject_text] at hregistry
    simp only [String.reduceToList] at hregistry
    cases hregistry
  have hloads : (loadRegistry "schema.json" (.ok noteText)).result = .ok noteRegistry := by
    rw [loadRegistry, readObject_text]
    delta noteText
    simp only [String.reduceToList]
    rfl
  obtain ⟨hanswers, hcontents⟩ := session_keeps_first "schema.json" noteDisk noteSteps
  rw [hcontents noteDisk_schema_writable] at hanswers
  have hnote := hanswers.once [.ok "[]"] (.ok noteText) [.ok "["] noteRegistry rfl
    (List.forall_mem_singleton.2 hfails) hloads
  exact ⟨noteDisk_schema_writable, hfails, hloads, hnote⟩

end StorageTypes.Cli
