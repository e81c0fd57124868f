import CodeAtlas.FileSystem.Disk
import CodeAtlas.Proofs.List.Steps

/-!
# Disks that grow

A disk may get more entries while those that it has stay as they are. Then every path that leads
somewhere leads to the same as before.

1. `Extends`: a disk with all the entries of another.
2. `Extends.locate`, `Extends.find`: what a path leads to, it leads to on both.
3. `Grows`: a disk with more entries, and what is said of those that are new.
-/

namespace CodeAtlas

namespace Disk

/-- Whether a disk has all the entries of another, as they are, and the same working directory. -/
structure Extends (d d' : Disk) : Prop where
  here : d'.here = d.here
  kept : ∀ {location entry}, d.entryAt location = some entry → d'.entryAt location = some entry

variable {d d₁ d' : Disk} {location other : Location} {path text : String} {entry : Entry}

theorem Extends.refl (d : Disk) : d.Extends d := ⟨rfl, id⟩

theorem Extends.trans (h : d.Extends d₁) (h' : d₁.Extends d') : d.Extends d' :=
  ⟨h'.here.trans h.here, fun he => h'.kept (h.kept he)⟩

theorem entryAt_nil (d : Disk) : d.entryAt [] = some .directory := if_pos rfl

theorem ne_nil_of_free (free : d.entryAt location = none) : location ≠ [] := by
  rintro rfl
  rw [entryAt_nil] at free
  cases free

/-- An entry where nothing is leaves the others as they are. -/
theorem extends_put (free : d.entryAt location = none) (entry : Entry) :
    d.Extends (d.put location entry) := by
  refine ⟨rfl, fun {other found} held => ?_⟩
  rw [entryAt_put_of_ne]
  · exact held
  · rintro rfl
    rw [free] at held
    cases held

/-! ## What paths lead to -/

/-- The location at which a path starts. -/
def startOf (d : Disk) (path : String) : Location := if Path.isAbsolute path then [] else d.here

/-- A path that leads to a location leads there part by part. -/
theorem locate_eq_ok (h : d.locate path = .ok location) :
    (Path.parts path).foldlM d.follow (d.startOf path) = .ok location := by
  unfold locate at h
  split at h
  · cases h
  split at h
  · cases h
  split at h
  · cases h
  · exact h

theorem follow_eq_ok {part : String} (h : d.follow location part = .ok other) :
    d.entryAt location = some .directory := by
  unfold follow at h
  split at h
  · cases h
  · cases h
  · assumption

theorem Extends.follow (h : d.Extends d') {part : String}
    (followed : d.follow location part = .ok other) : d'.follow location part = .ok other := by
  have held := follow_eq_ok followed
  unfold Disk.follow at followed ⊢
  rw [held] at followed
  rw [h.kept held]
  exact followed

theorem Extends.foldlM_follow (h : d.Extends d') {parts : List String}
    (followed : parts.foldlM d.follow location = .ok other) :
    parts.foldlM d'.follow location = .ok other := by
  induction parts generalizing location with
  | nil => exact followed
  | cons part parts ih =>
    rw [List.foldlM_cons, bind_eq_ok] at followed ⊢
    obtain ⟨next, first, rest⟩ := followed
    exact ⟨next, h.follow first, ih rest⟩

theorem Extends.locate (h : d.Extends d') (located : d.locate path = .ok location) :
    d'.locate path = .ok location := by
  have followed := h.foldlM_follow (locate_eq_ok located)
  unfold Disk.locate at located ⊢
  split at located
  · cases located
  split at located
  · cases located
  split at located
  · cases located
  · rw [if_neg ‹_›, if_neg ‹_›, if_neg ‹_›, h.here]
    exact followed

theorem find_eq_ok_iff : d.find path = .ok entry ↔
    ∃ location, d.locate path = .ok location ∧ d.entryAt location = some entry := by
  unfold find
  rw [bind_eq_ok]
  refine exists_congr fun location => and_congr_right fun _ => ?_
  cases d.entryAt location <;> simp [pure, Except.pure, throw, throwThe, MonadExceptOf.throw]

theorem kind?_eq_some_iff {kind : EntryKind} : d.kind? path = some kind ↔
    ∃ location entry, d.locate path = .ok location ∧ d.entryAt location = some entry ∧
      entry.kind = kind := by
  unfold kind?
  cases found : d.find path with
  | ok entry =>
    obtain ⟨location, located, held⟩ := find_eq_ok_iff.1 found
    constructor
    · intro same
      exact ⟨location, entry, located, held, Option.some.inj same⟩
    · rintro ⟨_, _, located', held', rfl⟩
      cases located.symm.trans located'
      cases held.symm.trans held'
      rfl
  | error refusal =>
    refine iff_of_false nofun ?_
    rintro ⟨location, entry, located, held, -⟩
    rw [find_eq_ok_iff.2 ⟨location, located, held⟩] at found
    cases found

theorem kind?_eq_directory_iff : d.kind? path = some .directory ↔
    ∃ location, d.locate path = .ok location ∧ d.entryAt location = some .directory := by
  rw [kind?_eq_some_iff]
  refine exists_congr fun location => ?_
  constructor
  · rintro ⟨_ | _, located, held, same⟩
    · cases same
    · exact ⟨located, held⟩
  · rintro ⟨located, held⟩
    exact ⟨.directory, located, held, rfl⟩

/-- What a path leads to stays there. -/
theorem Extends.find (h : d.Extends d') (found : d.find path = .ok entry) :
    d'.find path = .ok entry := by
  obtain ⟨location, located, held⟩ := find_eq_ok_iff.1 found
  exact find_eq_ok_iff.2 ⟨location, h.locate located, h.kept held⟩

theorem Extends.kind? (h : d.Extends d') {kind : EntryKind} (known : d.kind? path = some kind) :
    d'.kind? path = some kind := by
  obtain ⟨location, entry, located, held, same⟩ := kind?_eq_some_iff.1 known
  exact kind?_eq_some_iff.2 ⟨location, entry, h.locate located, h.kept held, same⟩

theorem read_eq_of_find {content : ByteArray} (found : d.find path = .ok (.file content)) :
    d.read path = match String.fromUTF8? content with
      | some text => .ok text
      | none => .error .notText := by
  rw [read, found]
  dsimp only [bind, Except.bind]
  cases String.fromUTF8? content <;> rfl

/-- A text is what is read from the file that holds it. -/
theorem read_of_find (found : d.find path = .ok (.file text.toUTF8)) : d.read path = .ok text := by
  have decoded : String.fromUTF8? text.toUTF8 = some text := dif_pos text.isValidUTF8
  rw [read_eq_of_find found, decoded]

/-- What can be read is in a file. -/
theorem exists_find_of_read (h : d.read path = .ok text) :
    ∃ content, d.find path = .ok (.file content) := by
  obtain ⟨entry, found, h⟩ := bind_eq_ok.1 h
  cases entry with
  | file content => exact ⟨content, found⟩
  | directory => cases h

/-- Reading what is there is not refused for the reason that it is missing. -/
theorem read_ne_notFound (there : (d.kind? path).isSome) : d.read path ≠ .error .notFound := by
  obtain ⟨kind, known⟩ := Option.isSome_iff_exists.1 there
  obtain ⟨location, entry, located, held, -⟩ := kind?_eq_some_iff.1 known
  have found := find_eq_ok_iff.2 ⟨location, located, held⟩
  cases entry with
  | file content =>
    rw [read_eq_of_find found]
    cases String.fromUTF8? content <;> simp
  | directory =>
    rw [read, found]
    nofun

/-! ## What is new -/

/-- Whether a disk extends another by entries of which something is said. -/
structure Grows (new : Location → Entry → Prop) (d d' : Disk) : Prop extends d.Extends d' where
  added : ∀ {location entry}, d.entryAt location = none → d'.entryAt location = some entry →
    new location entry

variable {new new' : Location → Entry → Prop}

theorem Grows.refl (new : Location → Entry → Prop) (d : Disk) : Grows new d d := by
  refine ⟨.refl d, fun free held => ?_⟩
  rw [free] at held
  cases held

theorem Grows.mono (h : Grows new d d')
    (weaker : ∀ {location entry}, new location entry → new' location entry) : Grows new' d d' :=
  ⟨h.toExtends, fun free held => weaker (h.added free held)⟩

theorem Grows.trans (h : Grows new d d₁) (h' : Grows new d₁ d') : Grows new d d' := by
  refine ⟨h.toExtends.trans h'.toExtends, fun {location entry} free held => ?_⟩
  cases between : d₁.entryAt location with
  | none => exact h'.added between held
  | some other =>
    obtain rfl : other = entry := Option.some.inj ((h'.kept between).symm.trans held)
    exact h.added free between

theorem grows_put (free : d.entryAt location = none) (entry : Entry) :
    Grows (fun other found => other = location ∧ found = entry) d (d.put location entry) := by
  refine ⟨extends_put free entry, fun {other found} absent held => ?_⟩
  by_cases same : other = location
  · rw [same, entryAt_put_self d (ne_nil_of_free free)] at held
    exact ⟨same, (Option.some.inj held).symm⟩
  · rw [entryAt_put_of_ne d same, absent] at held
    cases held

/-- A new entry is what the path to it leads to. -/
theorem kind?_of_put (located : d.locate path = .ok location) (free : d.entryAt location = none)
    (entry : Entry) : (d.put location entry).kind? path = some entry.kind := by
  exact kind?_eq_some_iff.2 ⟨location, entry, (extends_put free entry).locate located,
    entryAt_put_self d (ne_nil_of_free free) entry, rfl⟩

/-- A file that is written where nothing was is one more entry. -/
theorem write_of_free (free : d.kind? path = none) (h : d.write path text = .ok d') :
    ∃ location, d.locate path = .ok location ∧ d.entryAt location = none ∧
      d.put location (.file text.toUTF8) = d' := by
  unfold write at h
  obtain ⟨location, located, h⟩ := bind_eq_ok.1 h
  cases held : d.entryAt location with
  | none =>
    rw [held] at h
    exact ⟨location, located, held, Except.ok.inj h⟩
  | some entry =>
    rw [kind?_eq_some_iff.2 ⟨location, entry, located, held, rfl⟩] at free
    cases free

end Disk

end CodeAtlas
