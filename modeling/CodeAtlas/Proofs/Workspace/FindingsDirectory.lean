import CodeAtlas.Proofs.Config.Choices
import CodeAtlas.Proofs.Workspace.Initialisation

/-!
# The directory of findings of a new workspace

Initialising a workspace makes the directory of findings of the default configuration, and opening
it takes the directory of the configuration that is there. The two are the same unless a
configuration was there before which chooses another directory; initialising does not make that one.

1. `openOn_eq_ok`: what opening a workspace on a disk comes to.
2. `loaded_of_vacant`: a configuration that initialising has written is the default one.
3. `directory_iff`: the directories there are after initialising.
4. `findings_of_init`: whether the opened workspace has its directory of findings.
-/

namespace CodeAtlas.Workspace

/-- What opening a workspace on a disk comes to. -/
def openOn (d : Disk) (root : String) : Except Error Workspace × Disk :=
  (load root : ExceptT Error (StateM Disk) Workspace).run.run d

variable {d d₁ d₂ : Disk} {root : String} {w : Workspace}

/-- The configuration that is in a file, or the default one without a file. -/
def configOf (result : Except Refusal String) : Except Error Config :=
  match result with
  | .ok text => Config.parse text
  | .error .notFound => .ok {}
  | .error refusal => .error (.io refusal.message)

theorem run_loadConfig (d : Disk) (root : String) :
    (loadConfig root : ExceptT Error (StateM Disk) Config).run.run d =
      (configOf (d.read (Config.pathIn root)), d) := by
  have asked : (FileSystem.read (Config.pathIn root) : StateM Disk (Except Refusal String)).run d =
      (d.read (Config.pathIn root), d) := rfl
  show (FileSystem.read (Config.pathIn root) >>= _ : StateM Disk (Except Error Config)).run d = _
  rw [StateT.run_bind, asked]
  cases d.read (Config.pathIn root) with
  | ok text => rfl
  | error refusal => cases refusal <;> rfl

theorem openOn_eq (d : Disk) (root : String) :
    openOn d root = ((configOf (d.read (Config.pathIn root))).map (ofConfig root), d) := by
  rw [openOn, load, ExceptT.run_map, StateT.run_map, run_loadConfig]
  rfl

theorem openOn_eq_ok : openOn d root = (.ok w, d₁) ↔
    d₁ = d ∧ ∃ c, configOf (d.read (Config.pathIn root)) = .ok c ∧ ofConfig root c = w := by
  rw [openOn_eq, Prod.mk.injEq, map_eq_ok, and_comm, eq_comm]

/-- A configuration that is there is read from its file. -/
theorem exists_read_of_openOn (there : (d.kind? (Config.pathIn root)).isSome)
    (opened : openOn d root = (.ok w, d₁)) :
    ∃ text, d.read (Config.pathIn root) = .ok text ∧ Config.parse text = .ok w.config := by
  obtain ⟨-, c, loaded, rfl⟩ := openOn_eq_ok.1 opened
  cases answer : d.read (Config.pathIn root) with
  | ok text =>
    rw [answer] at loaded
    exact ⟨text, rfl, loaded⟩
  | error refusal =>
    rw [answer] at loaded
    cases refusal with
    | notFound => exact absurd answer (Disk.read_ne_notFound there)
    | _ => cases loaded

theorem parse_defaultText : Config.parse defaultText = .ok {} :=
  Config.parse_print (by decide +kernel) Config.standsFor_default

/-- Where nothing was, initialising has put the default configuration. -/
theorem parse_of_vacant {result : Except Error String} {text : String}
    (run : InitRun d root result d₁) (answer : d₁.read (Config.pathIn root) = .ok text)
    (vacant : ∀ location, d₁.locate (Config.pathIn root) = .ok location →
      d.entryAt location = none) : Config.parse text = .ok {} := by
  obtain ⟨content, found⟩ := Disk.exists_find_of_read answer
  obtain ⟨location, located, held⟩ := Disk.find_eq_ok_iff.1 found
  rcases run.grows.added (vacant location located) held with ⟨same, -⟩ | ⟨same, -⟩
  · cases same
  · rw [same] at found
    cases (Disk.read_of_find found).symm.trans answer
    exact parse_defaultText

/-- The directories after initialising are those before and the ones on the way to the directory of
the workspace and to the default directory of findings. -/
theorem kind?_eq_directory_iff_of_init (run : InitRun d root (.ok (Config.pathIn root)) d₁)
    {path : String} : d₁.kind? path = some .directory ↔
      ∃ location, d₁.locate path = .ok location ∧
        (d.entryAt location = some .directory ∨
          d₁.Made (madePaths root) location .directory) := by
  rw [Disk.kind?_eq_directory_iff]
  refine exists_congr fun location => and_congr_right fun located => ?_
  constructor
  · intro held
    cases before : d.entryAt location with
    | some entry => exact .inl (run.grows.kept before ▸ held)
    | none =>
      rcases run.grows.added before held with made | ⟨same, -⟩
      · exact .inr made
      · cases same
  · rintro (before | ⟨-, above, mem, located⟩)
    · exact run.grows.kept before
    · obtain ⟨-, ready⟩ := run.ready
      rcases List.mem_append.1 mem with mem | mem
      · exact Disk.directory_of_mem_ancestors ready.home (dropSlashes_homePath root) mem located
      · exact Disk.directory_of_mem_ancestors ready.inbox (dropSlashes_inboxPath root) mem located

/-- **An opened workspace has its directory of findings if nobody chose another one.** After
initialising, a workspace opens with the configuration that is there, which is the default one where
nothing was before. The directory of findings is there if it is the default one; any other is there
exactly if it was there before or lies on the way to the default one. -/
theorem findings_of_init {path : String} (ran : initOn d root = (.ok path, d₁))
    (opened : openOn d₁ root = (.ok w, d₂)) :
    d₂ = d₁ ∧ w.findings = w.config.findingsPath root ∧
      (∃ text, d₁.read path = .ok text ∧ Config.parse text = .ok w.config) ∧
      ((∀ location, d₁.locate path = .ok location → d.entryAt location = none) →
        w.config = {}) ∧
      (w.config.findingsDirectory = ({} : Config).findingsDirectory →
        d₁.kind? w.findings = some .directory) ∧
      (d₁.kind? w.findings = some .directory ↔
        ∃ location, d₁.locate w.findings = .ok location ∧
          (d.entryAt location = some .directory ∨
            d₁.Made (madePaths root) location .directory)) := by
  have run := initRun_of_eq ran
  obtain ⟨rfl, ready⟩ := run.ready
  obtain ⟨text, answer, parsed⟩ := exists_read_of_openOn ready.known opened
  obtain ⟨rfl, c, -, rfl⟩ := openOn_eq_ok.1 opened
  refine ⟨rfl, rfl, ⟨text, answer, parsed⟩, fun vacant => ?_, fun same => ?_,
    kind?_eq_directory_iff_of_init run⟩
  · exact Except.ok.inj (parsed.symm.trans (parse_of_vacant run answer vacant))
  · have default : (ofConfig root c).findings = inboxPath root := congrArg (Path.join root) same
    rw [default]
    exact ready.inbox

theorem configured_opens : initOn configured "ws" =
      (.ok "ws/.cartograph/config.yaml", (initOn configured "ws").2) ∧
    openOn (initOn configured "ws").2 "ws" =
      (.ok (ofConfig "ws" { findingsDirectory := "facts" }), (initOn configured "ws").2) :=
  ⟨Prod.ext rfl rfl, Prod.ext rfl rfl⟩

theorem findings_of_init_configured :
    (∃ text, (initOn configured "ws").2.read "ws/.cartograph/config.yaml" = .ok text ∧
        Config.parse text = .ok { findingsDirectory := "facts" }) ∧
      ((initOn configured "ws").2.kind? "ws/facts" = some .directory ↔
        ∃ location, (initOn configured "ws").2.locate "ws/facts" = .ok location ∧
          (configured.entryAt location = some .directory ∨
            (initOn configured "ws").2.Made (madePaths "ws") location .directory)) := by
  obtain ⟨initialised, opened⟩ := configured_opens
  obtain ⟨-, -, kept, -, -, there⟩ := findings_of_init initialised opened
  exact ⟨kept, there⟩

/-- A workspace that chose another directory of findings opens without one. -/
theorem not_findings_of_init_configured :
    ¬ ∀ (d d₁ d₂ : Disk) (root path : String) (w : Workspace),
      initOn d root = (.ok path, d₁) → openOn d₁ root = (.ok w, d₂) →
        d₂.kind? w.findings = some .directory := by
  intro always
  have there := always _ _ _ _ _ _ configured_opens.1 configured_opens.2
  have missing : (initOn configured "ws").2.kind? "ws/facts" = none := by rfl
  cases missing.symm.trans there

end CodeAtlas.Workspace
