import CodeAtlas.Proofs.FileSystem.Growth
import CodeAtlas.Proofs.FileSystem.Paths

/-!
# Making directories

A directory is made together with those above it that are missing. That adds directories and nothing
else, at the ends of these paths; if it succeeds the directory is there, and making it once more
changes nothing.

1. `ensureOne_cases`, `ensure_cons_cases`: what one directory and a list of them come to.
2. `grows_ensure`, `grows_of_ensure`: what is new afterwards.
3. `kind?_of_ensure`, `ensure_of_directory`: the directory is there, and is not made again.
4. `directory_of_mem_ancestors`: all that is above a directory is one.
-/

namespace CodeAtlas.Disk

variable {d d₁ d' : Disk} {location other : Location} {path : String} {entry : Entry}

/-- What making a directory unless it is there comes to. -/
def ensureOne (d : Disk) (path : String) : Except Refusal Unit × Disk :=
  (FileSystem.ensureDirectory path : StateM Disk (Except Refusal Unit)).run d

/-- What making the first directory of a list comes to, which may need those after it. -/
def ensure (d : Disk) (paths : List String) : Except Refusal Unit × Disk :=
  (FileSystem.ensureFirst paths : StateM Disk (Except Refusal Unit)).run d

theorem makeDirectory_eq_ok : d.makeDirectory path = .ok d' ↔
    ∃ location, d.locate (Path.dropSlashes path) = .ok location ∧ d.entryAt location = none ∧
      d.put location .directory = d' := by
  unfold makeDirectory
  rw [bind_eq_ok]
  refine exists_congr fun location => and_congr_right fun _ => ?_
  cases d.entryAt location <;> simp [pure, Except.pure, throw, throwThe, MonadExceptOf.throw]

theorem ensureOne_of_ok (h : d.makeDirectory path = .ok d') :
    d.ensureOne path = (.ok (), d') := by
  have made : (FileSystem.makeDirectory path : StateM Disk (Except Refusal Unit)).run d =
      (.ok (), d') := by
    show commit (·.makeDirectory path) d = _
    rw [commit, h]
  rw [ensureOne, FileSystem.ensureDirectory, StateT.run_bind, made]
  rfl

theorem ensureOne_of_error {refusal : Refusal} (h : d.makeDirectory path = .error refusal) :
    d.ensureOne path = (if d.kind? path = some .directory then .ok () else .error refusal, d) := by
  have refused : (FileSystem.makeDirectory path : StateM Disk (Except Refusal Unit)).run d =
      (.error refusal, d) := by
    show commit (·.makeDirectory path) d = _
    rw [commit, h]
  have asked : (FileSystem.kind? path : StateM Disk (Option EntryKind)).run d =
      (d.kind? path, d) := rfl
  rw [ensureOne, FileSystem.ensureDirectory, StateT.run_bind, refused]
  show (FileSystem.kind? path >>= _ : StateM Disk (Except Refusal Unit)).run d = _
  rw [StateT.run_bind, asked]
  cases d.kind? path with
  | none => rfl
  | some kind => cases kind <;> rfl

/-- A directory is made where nothing was, or it was there, or it is refused. -/
theorem ensureOne_cases (d : Disk) (path : String) :
    (∃ location, d.locate (Path.dropSlashes path) = .ok location ∧ d.entryAt location = none ∧
        d.ensureOne path = (.ok (), d.put location .directory)) ∨
      (d.kind? path = some .directory ∧ d.ensureOne path = (.ok (), d)) ∨
      (d.kind? path ≠ some .directory ∧ ∃ refusal, d.ensureOne path = (.error refusal, d)) := by
  cases made : d.makeDirectory path with
  | ok d' =>
    obtain ⟨location, located, free, rfl⟩ := makeDirectory_eq_ok.1 made
    exact .inl ⟨location, located, free, ensureOne_of_ok made⟩
  | error refusal =>
    have ran := ensureOne_of_error made
    split at ran
    · exact .inr (.inl ⟨‹_›, ran⟩)
    · exact .inr (.inr ⟨‹_›, refusal, ran⟩)

theorem ensure_of_ne {result : Except Refusal Unit} (h : d.ensureOne path = (result, d₁))
    (other : result ≠ .error .notFound) (above : List String) :
    d.ensure (path :: above) = (result, d₁) := by
  rw [ensureOne] at h
  rw [ensure, FileSystem.ensureFirst, StateT.run_bind, h]
  cases result with
  | ok => rfl
  | error refusal =>
    cases refusal with
    | notFound => exact absurd rfl other
    | _ => rfl

theorem ensure_of_notFound (h : d.ensureOne path = (.error .notFound, d₁)) (above : List String) :
    d.ensure (path :: above) =
      match d₁.ensure above with
      | (.ok (), d₂) => d₂.ensureOne path
      | (.error refusal, d₂) => (.error refusal, d₂) := by
  rw [ensureOne] at h
  rw [ensure, FileSystem.ensureFirst, StateT.run_bind, h]
  show (FileSystem.ensureFirst above >>= _ : StateM Disk (Except Refusal Unit)).run d₁ = _
  obtain ⟨result, d₂, ran⟩ : ∃ result d₂, d₁.ensure above = (result, d₂) := ⟨_, _, rfl⟩
  rw [StateT.run_bind, ran]
  rw [ensure] at ran
  rw [ran]
  cases result <;> rfl

/-- Making the first directory of a list ends with making it from some disk, or is refused before;
the directories after it are made first, if any are. -/
theorem ensure_cons_cases (d : Disk) (path : String) (above : List String) :
    ∃ d₁, (d₁ = d ∨ d₁ = (d.ensure above).2) ∧
      (d.ensure (path :: above) = d₁.ensureOne path ∨
        ∃ refusal, d.ensure (path :: above) = (.error refusal, d₁)) := by
  obtain ⟨result, d₁, first⟩ : ∃ result d₁, d.ensureOne path = (result, d₁) := ⟨_, _, rfl⟩
  by_cases missing : result = .error .notFound
  · subst missing
    obtain rfl : d₁ = d := by
      obtain ⟨_, _, _, ran⟩ | ⟨_, ran⟩ | ⟨_, _, ran⟩ := d.ensureOne_cases path
      all_goals
        rw [first] at ran
        cases ran
      rfl
    rw [ensure_of_notFound first]
    obtain ⟨result, d₂, ran⟩ : ∃ result d₂, d₁.ensure above = (result, d₂) := ⟨_, _, rfl⟩
    rw [ran]
    cases result with
    | ok => exact ⟨d₂, .inr rfl, .inl rfl⟩
    | error refusal => exact ⟨d₂, .inr rfl, .inr ⟨refusal, rfl⟩⟩
  · exact ⟨d, .inl rfl, .inl ((ensure_of_ne first missing above).trans first.symm)⟩

/-- A directory on the way to which one of these paths leads. -/
def Made (d : Disk) (paths : List String) (location : Location) (entry : Entry) : Prop :=
  entry = .directory ∧ ∃ path ∈ paths, d.locate (Path.dropSlashes path) = .ok location

theorem Made.extend {paths more : List String} (h : d.Made paths location entry)
    (grown : d.Extends d') (subset : paths ⊆ more) : d'.Made more location entry := by
  obtain ⟨rfl, path, mem, located⟩ := h
  exact ⟨rfl, path, subset mem, grown.locate located⟩

theorem grows_ensureOne (d : Disk) (path : String) :
    Grows ((d.ensureOne path).2.Made [path]) d (d.ensureOne path).2 := by
  obtain ⟨location, located, free, ran⟩ | ⟨-, ran⟩ | ⟨-, refusal, ran⟩ := d.ensureOne_cases path
  · rw [ran]
    refine (grows_put free .directory).mono ?_
    rintro other entry ⟨rfl, rfl⟩
    exact ⟨rfl, path, List.mem_cons_self, (extends_put free .directory).locate located⟩
  · rw [ran]
    exact .refl _ d
  · rw [ran]
    exact .refl _ d

theorem grows_ensure (d : Disk) (paths : List String) :
    Grows ((d.ensure paths).2.Made paths) d (d.ensure paths).2 := by
  induction paths with
  | nil => exact .refl _ d
  | cons path above ih =>
    obtain ⟨d₁, before, after⟩ := d.ensure_cons_cases path above
    have start : Grows (d₁.Made (path :: above)) d d₁ := by
      rcases before with rfl | rfl
      · exact .refl _ _
      · exact ih.mono fun made => made.extend (.refl _) (List.subset_cons_self _ _)
    rcases after with ran | ⟨refusal, ran⟩
    · rw [ran]
      have last := d₁.grows_ensureOne path
      exact (start.mono fun made => made.extend last.toExtends (List.Subset.refl _)).trans
        (last.mono fun made => made.extend (.refl _) (by simp))
    · rw [ran]
      exact start

theorem grows_of_ensure {paths : List String} {result : Except Refusal Unit}
    (h : d.ensure paths = (result, d')) : Grows (d'.Made paths) d d' := by
  have grows := d.grows_ensure paths
  rwa [h] at grows

theorem grows_of_ensure_append {paths more : List String} {first second : Except Refusal Unit}
    (h : d.ensure paths = (first, d₁)) (h' : d₁.ensure more = (second, d')) :
    Grows (d'.Made (paths ++ more)) d d' := by
  have start := grows_of_ensure h
  have last := grows_of_ensure h'
  exact (start.mono fun made => made.extend last.toExtends (List.subset_append_left _ _)).trans
    (last.mono fun made => made.extend (.refl _) (List.subset_append_right _ _))

/-- A directory that is made, or was there, is there. -/
theorem kind?_of_ensureOne (plain : Path.dropSlashes path = path)
    (h : d.ensureOne path = (.ok (), d')) : d'.kind? path = some .directory := by
  obtain ⟨location, located, free, ran⟩ | ⟨there, ran⟩ | ⟨-, refusal, ran⟩ := d.ensureOne_cases path
  · cases ran.symm.trans h
    rw [plain] at located
    exact kind?_of_put located free .directory
  · cases ran.symm.trans h
    exact there
  · cases ran.symm.trans h

theorem kind?_of_ensure (plain : Path.dropSlashes path = path) {above : List String}
    (h : d.ensure (path :: above) = (.ok (), d')) : d'.kind? path = some .directory := by
  obtain ⟨d₁, -, ran | ⟨refusal, ran⟩⟩ := d.ensure_cons_cases path above
  · exact kind?_of_ensureOne plain (ran.symm.trans h)
  · cases ran.symm.trans h

/-- A directory that is there is not made again. -/
theorem ensure_of_directory (there : d.kind? path = some .directory)
    (plain : Path.dropSlashes path = path) (above : List String) :
    d.ensure (path :: above) = (.ok (), d) := by
  obtain ⟨location, located, free, -⟩ | ⟨-, ran⟩ | ⟨missing, -⟩ := d.ensureOne_cases path
  · rw [plain] at located
    obtain ⟨location', located', held⟩ := kind?_eq_directory_iff.1 there
    cases located.symm.trans located'
    rw [free] at held
    cases held
  · exact ensure_of_ne ran nofun above
  · exact absurd there missing

/-! ## What is above a directory -/

/-- A part that does not lead on stays in place. -/
theorem follow_of_not_leadsOn {part : String} (stays : Path.LeadsOn part = false)
    (followed : d.follow location part = .ok other) : other = location := by
  have here : part = "" ∨ part = "." := by
    rw [← Bool.not_eq_true, Path.LeadsOn, Bool.and_eq_true, bne_iff_ne, bne_iff_ne] at stays
    by_contra neither
    rw [not_or] at neither
    exact stays neither
  have held := follow_eq_ok followed
  unfold follow at followed
  rw [held] at followed
  dsimp only at followed
  rw [if_pos here] at followed
  exact (Except.ok.inj followed).symm

/-- Parts that do not lead on may be left out. -/
theorem foldlM_follow_filter {parts : List String}
    (followed : parts.foldlM d.follow location = .ok other) :
    (parts.filter Path.LeadsOn).foldlM d.follow location = .ok other := by
  induction parts generalizing location with
  | nil => exact followed
  | cons part parts ih =>
    rw [List.foldlM_cons, bind_eq_ok] at followed
    obtain ⟨next, first, rest⟩ := followed
    cases leads : Path.LeadsOn part with
    | true =>
      rw [List.filter_cons_of_pos leads, List.foldlM_cons, bind_eq_ok]
      exact ⟨next, first, ih rest⟩
    | false =>
      obtain rfl := follow_of_not_leadsOn leads first
      rw [List.filter_cons_of_neg (Bool.eq_false_iff.1 leads)]
      exact ih rest

/-- All that the paths above the path of a directory lead to are directories. -/
theorem directory_of_mem_ancestors {above : String} (there : d.kind? path = some .directory)
    (plain : Path.dropSlashes path = path) (mem : above ∈ Path.ancestors path)
    (located : d.locate (Path.dropSlashes above) = .ok location) :
    d.entryAt location = some .directory := by
  obtain ⟨final, located', held⟩ := kind?_eq_directory_iff.1 there
  obtain rfl | ⟨items, rest, isAbove⟩ := Path.exists_isAbove_of_mem_ancestors mem
  · rw [plain] at located
    cases located.symm.trans located'
    exact held
  · rw [isAbove.dropSlashes_eq] at located
    have first := foldlM_follow_filter (locate_eq_ok located)
    have all := foldlM_follow_filter (locate_eq_ok located')
    have start : d.startOf above = d.startOf path := by
      rw [startOf, startOf, isAbove.isAbsolute_eq]
    rw [isAbove.filter_parts, start] at first
    rw [isAbove.split, List.foldlM_append, bind_eq_ok] at all
    obtain ⟨between, first', second⟩ := all
    cases first.symm.trans first'
    obtain ⟨next, others, rfl⟩ := List.exists_cons_of_ne_nil isAbove.some_rest
    rw [List.foldlM_cons, bind_eq_ok] at second
    obtain ⟨_, followed, -⟩ := second
    exact follow_eq_ok followed

end CodeAtlas.Disk
