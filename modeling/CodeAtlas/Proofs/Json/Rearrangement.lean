import CodeAtlas.Finding.Record
import CodeAtlas.Proofs.List.Steps
import Mathlib.Data.List.Forall2
import Mathlib.Data.List.Pairwise

/-!
# Records whose members are rearranged

A record is filled in member by member. If each of its fields has a slot of its own, the order of
the members does not matter, and neither do members of other names.

1. `Orderless`: the fields of a record may change places, as `Field.apart_slot` says of slots.
2. `RecordOf`: an object with the members of another, their contents rearranged, and more members.
3. `Record.keeps`: what is read from the one is read from the other.
-/

namespace CodeAtlas.Json

/-! ## Fields that change places -/

section Member

variable {σ : Type} {fields : List (Field σ)}

/-- Fills in one member. -/
def fillMember (fields : List (Field σ)) (slots : σ) (member : Outline × Outline) :
    Except Problem σ :=
  match member.1.name with
  | .error fault => faulty fault
  | .ok name =>
    match fields.find? (·.name == name) with
    | none =>
      match member.2.fault? with
      | some fault => faulty fault
      | none => .ok slots
    | some field =>
      if field.filled slots then .error (.mismatch (.duplicateField name))
      else field.fill member.2 slots

theorem fillMembers_eq_foldlM (slots : σ) (members : List (Outline × Outline)) :
    fillMembers fields slots members = members.foldlM (fillMember fields) slots := by
  induction members generalizing slots with
  | nil => rfl
  | cons member rest ih =>
    obtain ⟨key, content⟩ := member
    rw [List.foldlM_cons, ← funext ih, fillMembers, fillMember]
    cases key.name with
    | error fault => rfl
    | ok name =>
      dsimp only
      cases fields.find? (·.name == name) with
      | none => cases content.fault? <;> rfl
      | some field =>
        dsimp only
        split <;> rfl

/-- A member of another name is passed over, and a member with the name of a field fills it. -/
theorem fillMember_eq_ok {s t : σ} {member : Outline × Outline} :
    fillMember fields s member = .ok t ↔ ∃ name, member.1.name = .ok name ∧
      ((fields.find? (·.name == name) = none ∧ member.2.fault? = none ∧ s = t) ∨
        ∃ field, fields.find? (·.name == name) = some field ∧ field.filled s = false ∧
          field.fill member.2 s = .ok t) := by
  rw [fillMember]
  cases member.1.name with
  | error fault => simp [faulty]
  | ok name =>
    simp only [Except.ok.injEq, exists_eq_left']
    cases fields.find? (·.name == name) with
    | none => cases member.2.fault? <;> simp [faulty]
    | some field => cases h : field.filled s <;> simp [h]

/-- Whether a field counts as filled once it has a value. -/
def Field.Marks (f : Field σ) : Prop :=
  ∀ {item s t}, f.fill item s = .ok t → f.filled t = true

/-- Whether filling `f` leaves `g` as it is, so that `g` may be filled first. -/
structure Field.Spares (f g : Field σ) : Prop where
  filled : ∀ {item s t}, f.fill item s = .ok t → g.filled t = g.filled s
  swap : ∀ {item other s t u}, f.fill item s = .ok t → g.fill other t = .ok u →
    ∃ t', g.fill other s = .ok t' ∧ f.fill item t' = .ok u

/-- Whether two fields leave each other as they are. -/
def Field.Apart (f g : Field σ) : Prop :=
  f.Spares g ∧ g.Spares f

instance : Std.Symm (Field.Apart (σ := σ)) := ⟨fun _ _ => And.symm⟩

/-- Whether the members of a record may come in any order. -/
structure Orderless (fields : List (Field σ)) : Prop where
  marks : ∀ f ∈ fields, f.Marks
  apart : fields.Pairwise Field.Apart

theorem Orderless.swap (h : Orderless fields) ⦃s t u : σ⦄ ⦃a b : Outline × Outline⦄
    (first : fillMember fields s a = .ok t) (second : fillMember fields t b = .ok u) :
    ∃ t', fillMember fields s b = .ok t' ∧ fillMember fields t' a = .ok u := by
  obtain ⟨name, named, ⟨other, valid, rfl⟩ | ⟨f, declared, free, filled⟩⟩ :=
    fillMember_eq_ok.1 first
  · exact ⟨u, second, fillMember_eq_ok.2 ⟨name, named, .inl ⟨other, valid, rfl⟩⟩⟩
  obtain ⟨name', named', ⟨other, valid, rfl⟩ | ⟨g, declared', free', filled'⟩⟩ :=
    fillMember_eq_ok.1 second
  · exact ⟨s, fillMember_eq_ok.2 ⟨name', named', .inl ⟨other, valid, rfl⟩⟩, first⟩
  have hf := List.mem_of_find?_eq_some declared
  have hg := List.mem_of_find?_eq_some declared'
  -- The two members do not belong to one field, which could not be filled again.
  have distinct : f ≠ g := by
    rintro rfl
    simp [h.marks f hf filled] at free'
  obtain ⟨spares, spared⟩ := h.apart.forall hf hg distinct
  obtain ⟨t', fill_g, fill_f⟩ := spares.swap filled filled'
  refine ⟨t', fillMember_eq_ok.2 ⟨name', named', .inr ⟨g, declared', ?_, fill_g⟩⟩,
    fillMember_eq_ok.2 ⟨name, named, .inr ⟨f, declared, ?_, fill_f⟩⟩⟩
  · rwa [← spares.filled filled]
  · rwa [spared.filled fill_g]

theorem Orderless.fillMembers_perm (h : Orderless fields)
    {members others : List (Outline × Outline)} (order : members.Perm others) {s t : σ}
    (filled : fillMembers fields s members = .ok t) : fillMembers fields s others = .ok t := by
  rw [fillMembers_eq_foldlM] at filled ⊢
  exact foldlM_perm h.swap order filled

/-! ### Fields with a slot of their own -/

section Slot

variable {β γ : Type} {name name' : String} {required required' : Bool} {get : σ → Option β}
  {get' : σ → Option γ} {put : σ → β → σ} {put' : σ → γ → σ} {read : Outline → Except Problem β}
  {read' : Outline → Except Problem γ}

@[simp] theorem Field.name_slot : (Field.slot name required get put read).name = name := rfl

theorem Field.fill_slot_eq_ok {item : Outline} {s t : σ} :
    (Field.slot name required get put read).fill item s = .ok t ↔
      ∃ v, read item = .ok v ∧ put s v = t :=
  map_eq_ok

@[simp] theorem Field.marks_slot (get_put : ∀ s v, get (put s v) = some v) :
    (Field.slot name required get put read).Marks := by
  intro item s t h
  obtain ⟨v, _, rfl⟩ := Field.fill_slot_eq_ok.1 h
  simp [Field.slot, get_put]

theorem Field.spares_slot (get_put : ∀ s v, get' (put s v) = get' s)
    (put_put : ∀ s v w, put' (put s v) w = put (put' s w) v) :
    (Field.slot name required get put read).Spares
      (Field.slot name' required' get' put' read') where
  filled := by
    intro item s t h
    obtain ⟨v, _, rfl⟩ := Field.fill_slot_eq_ok.1 h
    simp [Field.slot, get_put]
  swap := by
    intro item other s t u h h'
    obtain ⟨v, reading, rfl⟩ := Field.fill_slot_eq_ok.1 h
    obtain ⟨w, reading', rfl⟩ := Field.fill_slot_eq_ok.1 h'
    exact ⟨put' s w, Field.fill_slot_eq_ok.2 ⟨w, reading', rfl⟩,
      Field.fill_slot_eq_ok.2 ⟨v, reading, (put_put s v w).symm⟩⟩

@[simp] theorem Field.apart_slot (get_put : ∀ s v, get' (put s v) = get' s)
    (put_get : ∀ s w, get (put' s w) = get s)
    (put_put : ∀ s v w, put' (put s v) w = put (put' s w) v) :
    (Field.slot name required get put read).Apart (Field.slot name' required' get' put' read') :=
  ⟨spares_slot get_put put_put, spares_slot put_get fun s w v => (put_put s v w).symm⟩

end Slot

end Member

/-! ## Rearrangements -/

/-- How something may be written in another way. -/
abbrev Form := Outline → Outline → Prop

/-- Lists whose items are rearranged one by one. -/
inductive EachOf (form : Form) : Form
  | intro {items others : List Outline} (each : List.Forall₂ form items others) :
    EachOf form (.array items none) (.array others none)

/-- A member that stays as it is, or whose content is rearranged as its field allows. -/
inductive Alike (forms : List (String × Form)) : Outline × Outline → Outline × Outline → Prop
  | same (member : Outline × Outline) : Alike forms member member
  | field {key content changed : Outline} {name : String} {form : Form}
    (named : key.name = .ok name) (declared : forms.lookup name = some form)
    (rearranged : form content changed) : Alike forms (key, content) (key, changed)

instance (forms : List (String × Form)) : Std.Refl (Alike forms) := ⟨.same⟩

/-- A member with a valid value under a name that is no field's. -/
structure Unknown (forms : List (String × Form)) (member : Outline × Outline) : Prop where
  named : ∃ name, member.1.name = .ok name ∧ forms.lookup name = none
  valid : member.2.fault? = none

/-- Objects of which the second has the members of the first, their contents rearranged, and unknown
members, all in any order. The names of the fields stand with the forms of their contents. -/
inductive RecordOf (forms : List (String × Form)) : Form
  | intro {members changed added others : List (Outline × Outline)}
    (alike : List.Forall₂ (Alike forms) members changed)
    (unknown : ∀ member ∈ added, Unknown forms member)
    (order : (changed ++ added).Perm others) :
    RecordOf forms (.object members none) (.object others none)

/-! ## Reading what is rearranged -/

/-- Whether what is read from an outline is also read from its rearrangements. -/
def Keeps {α : Type} (read : Outline → Except Problem α) (form : Form) : Prop :=
  ∀ ⦃a b⦄, form a b → ∀ ⦃value⦄, read a = .ok value → read b = .ok value

@[simp] theorem keeps_eq {α : Type} (read : Outline → Except Problem α) : Keeps read Eq := by
  rintro a _ rfl value h
  exact h

theorem Keeps.map {α β : Type} {read : Outline → Except Problem α} {form : Form}
    (h : Keeps read form) (f : α → β) : Keeps (fun item => (read item).map f) form := by
  intro a b related value mapped
  obtain ⟨v, reading, rfl⟩ := map_eq_ok.1 mapped
  exact map_eq_ok.2 ⟨v, h related reading, rfl⟩

@[simp] theorem Keeps.slot {σ β : Type} {name : String} {required : Bool} {get : σ → Option β}
    {put : σ → β → σ} {read : Outline → Except Problem β} {form : Form} (h : Keeps read form)
    (slots : σ) :
    Keeps (fun item => (Field.slot name required get put read).fill item slots) form :=
  h.map (put slots)

theorem readEach_of_forall₂ {α : Type} {read : Outline → Except Problem α} {form : Form}
    (h : Keeps read form) {items others : List Outline} (each : List.Forall₂ form items others) :
    ∀ {values}, readEach read items = .ok values → readEach read others = .ok values := by
  induction each with
  | nil => exact id
  | cons related _ ih =>
    intro values reading
    simp only [readEach, bind_eq_ok] at reading ⊢
    obtain ⟨value, first, rest, reading, made⟩ := reading
    exact ⟨value, h related first, rest, ih reading, made⟩

theorem Keeps.list {α : Type} {read : Outline → Except Problem α} {form : Form}
    (h : Keeps read form) : Keeps (Outline.readList read) (EachOf form) := by
  rintro _ _ ⟨each⟩ values reading
  rw [Outline.readList, bind_eq_ok] at reading ⊢
  obtain ⟨read, reading, made⟩ := reading
  exact ⟨read, readEach_of_forall₂ h each reading, made⟩

/-- Whether a record has fields of these names, which keep their contents under the forms. -/
def Declares {σ : Type} (fields : List (Field σ)) (forms : List (String × Form)) : Prop :=
  List.Forall₂ (fun field form =>
    field.name = form.1 ∧ ∀ slots, Keeps (fun item => field.fill item slots) form.2) fields forms

namespace Declares

variable {σ : Type} {fields : List (Field σ)} {forms : List (String × Form)} {name : String}

theorem find?_eq_none (h : Declares fields forms) (other : forms.lookup name = none) :
    fields.find? (·.name == name) = none := by
  induction h with
  | nil => rfl
  | @cons field form _ _ head _ ih =>
    rw [List.find?_cons, head.1, BEq.comm]
    rw [List.lookup_cons] at other
    cases own : name == form.1 with
    | true => simp [own] at other
    | false => exact ih (by simpa [own] using other)

theorem find?_eq_some (h : Declares fields forms) {form : Form}
    (declared : forms.lookup name = some form) : ∃ field,
      fields.find? (·.name == name) = some field ∧
        ∀ slots, Keeps (fun item => field.fill item slots) form := by
  induction h with
  | nil => cases declared
  | @cons field form _ _ head _ ih =>
    rw [List.find?_cons, head.1, BEq.comm]
    rw [List.lookup_cons] at declared
    cases own : name == form.1 with
    | true =>
      simp only [own, Option.some.injEq] at declared
      exact ⟨field, rfl, declared ▸ head.2⟩
    | false => exact ih (by simpa [own] using declared)

theorem fillMember_alike (h : Declares fields forms) {s t : σ} {member changed}
    (alike : Alike forms member changed) (filled : fillMember fields s member = .ok t) :
    fillMember fields s changed = .ok t := by
  obtain _ | ⟨named, declared, rearranged⟩ := alike
  · exact filled
  obtain ⟨field, found, keeps⟩ := h.find?_eq_some declared
  obtain ⟨name', named', ⟨other, _⟩ | ⟨field', found', free, fills⟩⟩ := fillMember_eq_ok.1 filled
  · obtain rfl : _ = name' := Except.ok.inj (named.symm.trans named')
    rw [found] at other
    cases other
  · obtain rfl : _ = name' := Except.ok.inj (named.symm.trans named')
    obtain rfl : field = field' := Option.some.inj (found.symm.trans found')
    exact fillMember_eq_ok.2 ⟨_, named, .inr ⟨field, found, free, keeps s rearranged fills⟩⟩

theorem fillMembers_alike (h : Declares fields forms) {members changed}
    (alike : List.Forall₂ (Alike forms) members changed) :
    ∀ {s t}, fillMembers fields s members = .ok t → fillMembers fields s changed = .ok t := by
  simp only [fillMembers_eq_foldlM]
  induction alike with
  | nil => exact id
  | cons first _ ih =>
    intro s t filled
    simp only [List.foldlM_cons, bind_eq_ok] at filled ⊢
    obtain ⟨u, fills, filled⟩ := filled
    exact ⟨u, h.fillMember_alike first fills, ih filled⟩

theorem fillMembers_unknown (h : Declares fields forms) {added : List (Outline × Outline)}
    (unknown : ∀ member ∈ added, Unknown forms member) (s : σ) :
    fillMembers fields s added = .ok s := by
  rw [fillMembers_eq_foldlM]
  induction added with
  | nil => rfl
  | cons member added ih =>
    obtain ⟨⟨name, named, other⟩, valid⟩ := unknown member List.mem_cons_self
    have passed : fillMember fields s member = .ok s :=
      fillMember_eq_ok.2 ⟨name, named, .inl ⟨h.find?_eq_none other, valid, rfl⟩⟩
    rw [List.foldlM_cons, passed]
    exact ih fun m hm => unknown m (List.mem_cons_of_mem _ hm)

end Declares

/-- A record is read the same from an object whose members are rearranged. -/
theorem Record.keeps {σ α : Type} {record : Record σ α} {forms : List (String × Form)}
    (orderless : Orderless record.fields) (declares : Declares record.fields forms) :
    Keeps record.read (RecordOf forms) := by
  rintro _ _ ⟨alike, unknown, order⟩ value reading
  rw [Record.read, bind_eq_ok] at reading ⊢
  obtain ⟨slots, filled, finished⟩ := reading
  refine ⟨slots, orderless.fillMembers_perm order ?_, finished⟩
  rw [fillMembers_eq_foldlM, List.foldlM_append, ← fillMembers_eq_foldlM,
    declares.fillMembers_alike alike filled]
  show List.foldlM _ slots _ = _
  rw [← fillMembers_eq_foldlM]
  exact declares.fillMembers_unknown unknown slots

theorem Document.read?_eq_ok {α : Type} {read : Outline → Except Problem α} {document : Document}
    {value : α} :
    document.read? read = .ok value ↔
      read document.root = .ok value ∧ document.trailing = false := by
  rw [Document.read?, bind_eq_ok]
  cases document.trailing <;> simp [faulty, pure, Except.pure]

end CodeAtlas.Json
