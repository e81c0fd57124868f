import CodeAtlas.Proofs.FileSystem.Directories
import CodeAtlas.Workspace

/-!
# Initialising a workspace

A workspace is initialised in three steps: its directory is made, then the directory of findings,
then the default configuration is written if there is none. Each step may be refused, and what the
steps before it did stays. No step touches what is there.

1. `InitRun`: how initialising may end. `initRun` says that it ends in one of these ways.
2. `InitRun.grows`: what is new afterwards.
3. `Ready.initOn_eq`: nothing is done where all is there.
4. `init_keeps`: initialising destroys nothing, and doing it again changes nothing.
-/

namespace CodeAtlas.Workspace

/-- What initialising a workspace on a disk comes to. -/
def initOn (d : Disk) (root : String) : Except Error String × Disk :=
  (init root : ExceptT Error (StateM Disk) String).run.run d

/-- The text of the default configuration. -/
def defaultText : String := Yaml.print ({} : Config).document

/-- The path of the directory that holds the configuration. -/
def homePath (root : String) : String := Path.join root Config.directoryName

/-- The path of the default directory of findings. -/
def inboxPath (root : String) : String := ({} : Config).findingsPath root

/-! ## Steps -/

section Granted

variable {α β : Type} {d d₁ : Disk} {operation : StateM Disk (Except Refusal α)}

theorem run_granted_of_ok {a : α} (h : operation.run d = (.ok a, d₁))
    (next : α → ExceptT Error (StateM Disk) β) :
    (granted operation >>= next).run.run d = (next a).run.run d₁ := by
  rw [granted, ExceptT.run_bind, ExceptT.run_mk, StateT.run_bind, StateT.run_bind, h]
  rfl

theorem run_granted_of_error {refusal : Refusal} (h : operation.run d = (.error refusal, d₁))
    (next : α → ExceptT Error (StateM Disk) β) :
    (granted operation >>= next).run.run d = (.error (.io refusal.message), d₁) := by
  rw [granted, ExceptT.run_bind, ExceptT.run_mk, StateT.run_bind, StateT.run_bind, h]
  rfl

theorem run_lift_bind {question : StateM Disk α} {a : α} (h : question.run d = (a, d₁))
    (next : α → ExceptT Error (StateM Disk) β) :
    (ExceptT.lift question >>= next).run.run d = (next a).run.run d₁ := by
  rw [ExceptT.run_bind, StateT.run_bind, ExceptT.run_lift, StateT.run_map, h]
  rfl

end Granted

variable {d d' : Disk} {root : String}

/-- Whether both directories are made, and what comes of it. -/
inductive Housed (d : Disk) (root : String) : Disk → Prop where
  | intro {d₁ d₂ : Disk} (home : d.ensure (Path.ancestors (homePath root)) = (.ok (), d₁))
      (inbox : d₁.ensure (Path.ancestors (inboxPath root)) = (.ok (), d₂)) : Housed d root d₂

/-- How initialising a workspace may end. -/
inductive InitRun (d : Disk) (root : String) : Except Error String → Disk → Prop where
  /-- The directory of the workspace is refused. -/
  | noHome {refusal : Refusal} {d₁ : Disk}
      (home : d.ensure (Path.ancestors (homePath root)) = (.error refusal, d₁)) :
      InitRun d root (.error (.io refusal.message)) d₁
  /-- The directory of findings is refused. -/
  | noInbox {refusal : Refusal} {d₁ d₂ : Disk}
      (home : d.ensure (Path.ancestors (homePath root)) = (.ok (), d₁))
      (inbox : d₁.ensure (Path.ancestors (inboxPath root)) = (.error refusal, d₂)) :
      InitRun d root (.error (.io refusal.message)) d₂
  /-- There is something in the place of the configuration. -/
  | keeps {d₂ : Disk} (housed : Housed d root d₂)
      (known : (d₂.kind? (Config.pathIn root)).isSome) :
      InitRun d root (.ok (Config.pathIn root)) d₂
  /-- The default configuration is written. -/
  | writes {d₂ d₃ : Disk} (housed : Housed d root d₂)
      (free : d₂.kind? (Config.pathIn root) = none)
      (written : d₂.write (Config.pathIn root) defaultText = .ok d₃) :
      InitRun d root (.ok (Config.pathIn root)) d₃
  /-- The default configuration is refused. -/
  | noConfig {refusal : Refusal} {d₂ : Disk} (housed : Housed d root d₂)
      (refused : d₂.write (Config.pathIn root) defaultText = .error refusal) :
      InitRun d root (.error (.io refusal.message)) d₂

/-- The third step, after both directories are made. -/
theorem Housed.initOn_eq {d₂ : Disk} (h : Housed d root d₂) :
    initOn d root =
      if (d₂.kind? (Config.pathIn root)).isNone then
        match d₂.write (Config.pathIn root) defaultText with
        | .ok d₃ => (.ok (Config.pathIn root), d₃)
        | .error refusal => (.error (.io refusal.message), d₂)
      else (.ok (Config.pathIn root), d₂) := by
  obtain ⟨home, inbox⟩ := h
  have asked : (FileSystem.kind? (Config.pathIn root) : StateM Disk (Option EntryKind)).run d₂ =
      (d₂.kind? (Config.pathIn root), d₂) := rfl
  have ran : initOn d root = _ :=
    (run_granted_of_ok home _).trans ((run_granted_of_ok inbox _).trans (run_lift_bind asked _))
  rw [ran]
  cases d₂.kind? (Config.pathIn root) with
  | some kind => rfl
  | none =>
    obtain ⟨outcome, written⟩ :
        ∃ outcome, d₂.write (Config.pathIn root) defaultText = outcome := ⟨_, rfl⟩
    have step : (FileSystem.write (Config.pathIn root) defaultText :
        StateM Disk (Except Refusal Unit)).run d₂ =
          Disk.commit (·.write (Config.pathIn root) defaultText) d₂ := rfl
    rw [Disk.commit, written] at step
    rw [written]
    cases outcome with
    | ok d₃ => exact run_granted_of_ok step _
    | error refusal => exact run_granted_of_error step _

/-- Initialising ends in one of the five ways. -/
theorem initRun (d : Disk) (root : String) :
    InitRun d root (initOn d root).1 (initOn d root).2 := by
  obtain ⟨first, d₁, home⟩ :
      ∃ first d₁, d.ensure (Path.ancestors (homePath root)) = (first, d₁) := ⟨_, _, rfl⟩
  cases first with
  | error refusal =>
    have ran : initOn d root = (.error (.io refusal.message), d₁) := run_granted_of_error home _
    rw [ran]
    exact .noHome home
  | ok =>
    obtain ⟨second, d₂, inbox⟩ :
        ∃ second d₂, d₁.ensure (Path.ancestors (inboxPath root)) = (second, d₂) := ⟨_, _, rfl⟩
    cases second with
    | error refusal =>
      have ran : initOn d root = (.error (.io refusal.message), d₂) :=
        (run_granted_of_ok home _).trans (run_granted_of_error inbox _)
      rw [ran]
      exact .noInbox home inbox
    | ok =>
      have housed : Housed d root d₂ := .intro home inbox
      rw [housed.initOn_eq]
      cases known : d₂.kind? (Config.pathIn root) with
      | some kind => exact .keeps housed (Option.isSome_of_eq_some known)
      | none =>
        cases written : d₂.write (Config.pathIn root) defaultText with
        | ok d₃ => exact .writes housed known written
        | error refusal => exact .noConfig housed written

theorem initRun_of_eq {result : Except Error String} (ran : initOn d root = (result, d')) :
    InitRun d root result d' := by
  have run := initRun d root
  rwa [ran] at run

/-! ## The two directories -/

theorem dropSlashes_homePath (root : String) :
    Path.dropSlashes (homePath root) = homePath root :=
  Path.dropSlashes_join (c := 'h') (by decide +kernel) (by decide)

theorem dropSlashes_inboxPath (root : String) :
    Path.dropSlashes (inboxPath root) = inboxPath root :=
  Path.dropSlashes_join (c := 's') (by decide +kernel) (by decide)

theorem exists_ancestors_homePath (root : String) :
    ∃ above, Path.ancestors (homePath root) = homePath root :: above :=
  Path.exists_ancestors_eq_cons (Path.join_ne_empty (by decide))

theorem exists_ancestors_inboxPath (root : String) :
    ∃ above, Path.ancestors (inboxPath root) = inboxPath root :: above := by
  have some_path : Path.join root ({} : Config).findingsDirectory ≠ "" :=
    Path.join_ne_empty (by decide)
  exact Path.exists_ancestors_eq_cons some_path

/-- The paths of the directories that are made where they are missing. -/
def madePaths (root : String) : List String :=
  Path.ancestors (homePath root) ++ Path.ancestors (inboxPath root)

theorem Housed.grows (h : Housed d root d') : Disk.Grows (d'.Made (madePaths root)) d d' := by
  obtain ⟨home, inbox⟩ := h
  exact Disk.grows_of_ensure_append home inbox

theorem Housed.kind?_homePath (h : Housed d root d') :
    d'.kind? (homePath root) = some .directory := by
  obtain ⟨home, inbox⟩ := h
  obtain ⟨above, split⟩ := exists_ancestors_homePath root
  rw [split] at home
  exact (Disk.grows_of_ensure inbox).kind? (Disk.kind?_of_ensure (dropSlashes_homePath root) home)

theorem Housed.kind?_inboxPath (h : Housed d root d') :
    d'.kind? (inboxPath root) = some .directory := by
  obtain ⟨-, inbox⟩ := h
  obtain ⟨above, split⟩ := exists_ancestors_inboxPath root
  rw [split] at inbox
  exact Disk.kind?_of_ensure (dropSlashes_inboxPath root) inbox

/-- Directories that are there are not made again. -/
theorem housed_of_directories (home : d.kind? (homePath root) = some .directory)
    (inbox : d.kind? (inboxPath root) = some .directory) : Housed d root d := by
  obtain ⟨aboveHome, splitHome⟩ := exists_ancestors_homePath root
  obtain ⟨aboveInbox, splitInbox⟩ := exists_ancestors_inboxPath root
  have keepsHome : d.ensure (Path.ancestors (homePath root)) = (.ok (), d) := by
    rw [splitHome]
    exact Disk.ensure_of_directory home (dropSlashes_homePath root) aboveHome
  have keepsInbox : d.ensure (Path.ancestors (inboxPath root)) = (.ok (), d) := by
    rw [splitInbox]
    exact Disk.ensure_of_directory inbox (dropSlashes_inboxPath root) aboveInbox
  exact .intro keepsHome keepsInbox

/-! ## All three steps -/

/-- What may be new: one of the directories, or the default configuration in its place. -/
def Added (d : Disk) (root : String) (location : Location) (entry : Entry) : Prop :=
  d.Made (madePaths root) location entry ∨
    entry = .file defaultText.toUTF8 ∧ d.locate (Config.pathIn root) = .ok location

theorem InitRun.grows {result : Except Error String} (h : InitRun d root result d') :
    Disk.Grows (Added d' root) d d' := by
  cases h with
  | noHome home =>
    refine (Disk.grows_of_ensure home).mono fun made => .inl ?_
    exact made.extend (.refl _) (List.subset_append_left _ _)
  | noInbox home inbox => exact (Disk.grows_of_ensure_append home inbox).mono .inl
  | keeps housed => exact housed.grows.mono .inl
  | noConfig housed => exact housed.grows.mono .inl
  | @writes d₂ _ housed free written =>
    obtain ⟨location, located, vacant, rfl⟩ := Disk.write_of_free free written
    have last := Disk.grows_put vacant (.file defaultText.toUTF8)
    have first : Disk.Grows (Added (d₂.put location _) root) d d₂ := housed.grows.mono fun made =>
      .inl (made.extend last.toExtends (List.Subset.refl _))
    refine first.trans (last.mono ?_)
    rintro other entry ⟨rfl, rfl⟩
    exact .inr ⟨rfl, last.locate located⟩

/-- What is there once initialising has succeeded. -/
structure Ready (d : Disk) (root : String) : Prop where
  home : d.kind? (homePath root) = some .directory
  inbox : d.kind? (inboxPath root) = some .directory
  known : (d.kind? (Config.pathIn root)).isSome

theorem InitRun.ready {path : String} (h : InitRun d root (.ok path) d') :
    path = Config.pathIn root ∧ Ready d' root := by
  cases h with
  | keeps housed known => exact ⟨rfl, housed.kind?_homePath, housed.kind?_inboxPath, known⟩
  | @writes d₂ _ housed free written =>
    obtain ⟨location, located, vacant, rfl⟩ := Disk.write_of_free free written
    have last := Disk.grows_put vacant (.file defaultText.toUTF8)
    have held := Disk.kind?_of_put located vacant (.file defaultText.toUTF8)
    exact ⟨rfl, last.kind? housed.kind?_homePath, last.kind? housed.kind?_inboxPath,
      Option.isSome_of_eq_some held⟩

/-- Nothing is done where all is there. -/
theorem Ready.initOn_eq (h : Ready d root) : initOn d root = (.ok (Config.pathIn root), d) := by
  have housed := housed_of_directories h.home h.inbox
  obtain ⟨kind, known⟩ := Option.isSome_iff_exists.1 h.known
  rw [housed.initOn_eq, known]
  rfl

/-- **Initialising destroys nothing and may be done again.** Whether it succeeds or not, it leaves
every file and directory as it was; all that is new is one of the directories or the default
configuration. After a success there is a configuration and the directory of findings, and
initialising once more changes nothing. -/
theorem init_keeps {result : Except Error String} (ran : initOn d root = (result, d')) :
    (∀ location entry, d.entryAt location = some entry → d'.entryAt location = some entry) ∧
      (∀ path entry, d.find path = .ok entry → d'.find path = .ok entry) ∧
      (∀ location entry, d.entryAt location = none → d'.entryAt location = some entry →
        Added d' root location entry) ∧
      ∀ path, result = .ok path →
        path = Config.pathIn root ∧ (d'.kind? path).isSome ∧
          d'.kind? (inboxPath root) = some .directory ∧ initOn d' root = (.ok path, d') := by
  have run := initRun_of_eq ran
  have grows := run.grows
  refine ⟨fun _ _ => grows.kept, fun _ _ => grows.find, fun _ _ => grows.added, ?_⟩
  rintro path rfl
  obtain ⟨rfl, ready⟩ := run.ready
  exact ⟨rfl, ready.known, ready.inbox, ready.initOn_eq⟩

/-- A file with a choice of its own for the directory of findings. -/
def ownChoice : Entry := .file "collaborators:\n  findings_dir: facts\n".toUTF8

/-- A workspace with this configuration and nothing else. -/
def configured : Disk := Disk.putBelow {} ["ws", ".cartograph", "config.yaml"] ownChoice

theorem init_keeps_configured :
    (initOn configured "ws").1 = .ok "ws/.cartograph/config.yaml" ∧
      (initOn configured "ws").2.find "ws/.cartograph/config.yaml" = .ok ownChoice ∧
      initOn (initOn configured "ws").2 "ws" =
        (.ok "ws/.cartograph/config.yaml", (initOn configured "ws").2) := by
  have succeeds : (initOn configured "ws").1 = .ok "ws/.cartograph/config.yaml" := by rfl
  have held : configured.find "ws/.cartograph/config.yaml" = .ok ownChoice := by rfl
  have ran : initOn configured "ws" = (.ok _, _) := Prod.ext succeeds rfl
  obtain ⟨-, kept, -, after⟩ := init_keeps ran
  exact ⟨succeeds, kept _ _ held, (after _ rfl).2.2.2⟩

end CodeAtlas.Workspace
