import CodeAtlas.Json.Basic
import CodeAtlas.Proofs.List.Steps
import CodeAtlas.Yaml.Record
import Mathlib.Data.List.Nodup
import Mathlib.Logic.Function.Conjugate

/-!
# Records from maps in any order

A record is changed by the entries of a map, one after the other. If its fields may change places,
all that matters is which names the map gives and what stands under them; the order of the entries
does not matter, and neither do entries with other names.

1. `Document.members?`, `denotes`: the data that an outline stands for.
2. `Document.gives`: a map that gives some names, in any order and among others.
3. `readEntries_eq`: the record after all entries.
4. `readRecord_of_gives`: the record in terms of the fields in the order of their declaration.
5. `gives_of_denotes`: a map that stands for an object gives all of its members.
-/

namespace CodeAtlas.Yaml

/-! ## What outlines stand for -/

/-- The name that a key stands for. -/
def Document.name? (d : Document) (key : Outline) : Option String :=
  match d.follow key with
  | .scalar s => some (String.ofList s.text)
  | _ => none

/-- The contents of a map by their names. An empty plain scalar is a map without entries. -/
def Document.members? (d : Document) (o : Outline) : Option (List (String × Outline)) :=
  match d.follow o with
  | .mapping entries true => entries.mapM fun entry => (d.name? entry.1).map (·, entry.2)
  | .scalar s => if s.text.isEmpty && s.style == .plain then some [] else none
  | _ => none

/-- What a scalar means as data of a type. -/
def Document.mean? {α : Type} (d : Document) (tag : String) (mean : List Char → Option α)
    (o : Outline) : Option α :=
  match d.follow o with
  | .scalar s => if s.canMean tag then mean s.text else none
  | _ => none

/-- Null for a text that means it. -/
def nullOf? (cs : List Char) : Option Unit :=
  if cs.isEmpty || meansNull cs then some () else none

mutual

/-- Whether an outline stands for a value. A scalar may stand for several: each has a text. -/
def denotes (d : Document) : Json → Outline → Bool
  | .null, o => (d.mean? "null" nullOf? o).isSome
  | .bool b, o => d.mean? "bool" boolOf? o == some b
  | .int (.ofNat n), o => d.mean? "int" (natUpTo? (Nat.pow 2 64 - 1)) o == some n
  | .int (.negSucc n), o => d.mean? "int" (negativeDownTo? (Nat.pow 2 63)) o == some (.negSucc n)
  | .float x, o => decide (d.mean? "float" floatOf? o = some x)
  | .text t, o => d.name? o == some t
  | .array items, o =>
    match d.follow o with
    | .sequence found true => denotesItems d items found
    | _ => false
  | .object members, o =>
    match d.members? o with
    | some found => denotesMembers d members found
    | none => false

/-- Whether outlines stand for the items of a list. -/
def denotesItems (d : Document) : List Json → List Outline → Bool
  | [], found => found.isEmpty
  | _ :: _, [] => false
  | item :: items, o :: found => denotes d item o && denotesItems d items found

/-- Whether the contents of a map stand for the members of an object. -/
def denotesMembers (d : Document) : List (String × Json) → List (String × Outline) → Bool
  | [], found => found.isEmpty
  | _ :: _, [] => false
  | member :: members, entry :: found =>
    denotesMember d member entry && denotesMembers d members found

/-- Whether an entry of a map stands for a member of an object. -/
def denotesMember (d : Document) : String × Json → String × Outline → Bool
  | (name, value), (name', o) => name == name' && denotes d value o

end

/-- Whether a document is read to its end and stands for a value. -/
def Document.standsFor (d : Document) (value : Json) : Bool := d.whole && denotes d value d.root

/-! ## Maps that give some names -/

/-- Whether a map gives each of some names at most once, and other names whole contents only. -/
def orderly (names : List String) (members : List (String × Outline)) : Bool :=
  decide ((members.map Prod.fst).filter (names.contains ·)).Nodup &&
    members.all fun member => names.contains member.1 || member.2.isWhole

theorem orderly_iff {names : List String} {members : List (String × Outline)} :
    orderly names members = true ↔
      ((members.map Prod.fst).filter (names.contains ·)).Nodup ∧
        ∀ member ∈ members, names.contains member.1 = true ∨ member.2.isWhole = true := by
  simp [orderly]

/-- What is said of the content under a name, or of there being none. -/
abbrev Demand : Type := String × (Option Outline → Bool)

/-- Whether a map meets demands on the contents of some names. The names may come in any order and
with others between them. -/
def Document.gives (d : Document) (demands : List Demand) (o : Outline) : Bool :=
  match d.members? o with
  | some members =>
    orderly (demands.map Prod.fst) members &&
      demands.all fun (name, meets) => meets (members.lookup name)
  | none => false

variable {α β : Type} {d : Document} {o : Outline} {demands : List Demand}

theorem gives_iff : d.gives demands o = true ↔ ∃ members, d.members? o = some members ∧
    orderly (demands.map Prod.fst) members = true ∧
      ∀ demand ∈ demands, demand.2 (members.lookup demand.1) = true := by
  unfold Document.gives
  cases d.members? o <;> simp

/-- The demand that a value stands under a name, or nothing if there is none. -/
def Document.isChoice (d : Document) : Option Json → Option Outline → Bool
  | none, none => true
  | some value, some o => denotes d value o
  | _, _ => false

/-- The demand that a map stands under a name; nothing may stand there if the demands on the map are
met by a map without entries. -/
def Document.isSection (d : Document) (demands : List Demand) : Option Outline → Bool
  | none => demands.all (·.2 none)
  | some o => d.gives demands o

/-! ## Entries one after the other -/

/-- Whether reading a field comes to a step, which does nothing where the field is missing. -/
def Field.Takes (field : Field α) (d : Document) (step : α → α) : Option Outline → Prop
  | none => ∀ record, step record = record
  | some o => ∀ way record, field.read d way o record = .ok (step record)

theorem exists_scalar_of_name? {name : String} (named : d.name? o = some name) :
    ∃ s, d.follow o = .scalar s ∧ String.ofList s.text = name := by
  unfold Document.name? at named
  split at named
  · exact ⟨_, ‹_›, Option.some.inj named⟩
  · cases named

theorem readName_of_name? {key : Outline} {name : String} (named : d.name? key = some name)
    (way : List String) : readName d way key = .ok name := by
  obtain ⟨s, found, rfl⟩ := exists_scalar_of_name? named
  rw [readName, found]

theorem underKey_ok (key : Outline) (a : α) : underKey key (.ok a) = .ok a := by
  cases key <;> rfl

variable {fields : List (Field α)} {members : List (String × Outline)} {step : String → α → α}

/-- The names of fields among those of a map. -/
def known (fields : List (Field α)) (members : List (String × Outline)) : List String :=
  (members.map Prod.fst).filter ((fields.map Field.name).contains ·)

theorem contains_eq_false_of_find? {name : String} (none : fields.find? (·.name == name) = none) :
    (fields.map Field.name).contains name = false := by
  simpa using none

theorem known_cons_of_find?_eq_none {name : String} (none : fields.find? (·.name == name) = none)
    (content : Outline) : known fields ((name, content) :: members) = known fields members :=
  List.filter_cons_of_neg (by simpa using none)

theorem known_cons_of_mem {field : Field α} (mem : field ∈ fields) (content : Outline) :
    known fields ((field.name, content) :: members) = field.name :: known fields members :=
  List.filter_cons_of_pos (by simpa using ⟨field, mem, rfl⟩)

theorem mapM_named_cons {key content : Outline} {rest : List (Outline × Outline)}
    (named : ((key, content) :: rest).mapM (fun entry => (d.name? entry.1).map (·, entry.2)) =
      some members) :
    ∃ name others, d.name? key = some name ∧
      rest.mapM (fun entry => (d.name? entry.1).map (·, entry.2)) = some others ∧
        members = (name, content) :: others := by
  rw [List.mapM_cons] at named
  cases first : d.name? key with
  | none => simp [first] at named
  | some name =>
    cases second : rest.mapM fun entry => (d.name? entry.1).map (·, entry.2) with
    | none => simp [first, second] at named
    | some others =>
      refine ⟨name, others, rfl, rfl, ?_⟩
      simpa [first, second] using named.symm

section Entry

variable {key content : Outline} {rest : List (Outline × Outline)} {name : String}
  {way seen : List String} {record next : α}

theorem readEntries_cons_of_none (named : d.name? key = some name)
    (undeclared : fields.find? (·.name == name) = none) (whole : content.isWhole = true) :
    readEntries fields d way seen record ((key, content) :: rest) =
      readEntries fields d way seen record rest := by
  rw [readEntries, readName_of_name? named]
  dsimp only [bind, Except.bind]
  rw [undeclared]
  exact if_pos whole

theorem readEntries_cons_of_some {field : Field α} (named : d.name? key = some name)
    (declared : fields.find? (·.name == name) = some field) (fresh : name ∉ seen)
    (taken : field.read d (way ++ [name]) content record = .ok next) :
    readEntries fields d way seen record ((key, content) :: rest) =
      readEntries fields d way (name :: seen) next rest := by
  rw [readEntries, readName_of_name? named]
  dsimp only [bind, Except.bind]
  rw [declared]
  dsimp only
  rw [if_neg (by simpa using fresh), taken, underKey_ok]

end Entry

/-- Every entry with the name of a field takes its step, and the others are passed over. -/
theorem readEntries_eq {entries : List (Outline × Outline)} {seen : List String}
    (named : entries.mapM (fun entry => (d.name? entry.1).map (·, entry.2)) = some members)
    (once : (known fields members).Nodup) (fresh : ∀ name ∈ known fields members, name ∉ seen)
    (passable : ∀ member ∈ members,
      (fields.map Field.name).contains member.1 = true ∨ member.2.isWhole = true)
    (takes : ∀ field ∈ fields, ∀ content, (field.name, content) ∈ members →
      field.Takes d (step field.name) (some content))
    (way : List String) (record : α) :
    readEntries fields d way seen record entries =
      .ok ((known fields members).foldl (fun record name => step name record) record) := by
  induction entries generalizing members seen record with
  | nil =>
    obtain rfl : [] = members := Option.some.inj named
    rfl
  | cons entry rest ih =>
    obtain ⟨key, content⟩ := entry
    obtain ⟨name, others, first, named', rfl⟩ := mapM_named_cons named
    obtain ⟨here, passable'⟩ := List.forall_mem_cons.1 passable
    have takes' : ∀ field ∈ fields, ∀ content, (field.name, content) ∈ others →
        field.Takes d (step field.name) (some content) :=
      fun field mem content among => takes field mem content (List.mem_cons_of_mem _ among)
    cases declared : fields.find? (·.name == name) with
    | none =>
      rw [known_cons_of_find?_eq_none declared] at once fresh ⊢
      rw [contains_eq_false_of_find? declared] at here
      rw [readEntries_cons_of_none first declared (here.resolve_left nofun)]
      exact ih named' once fresh passable' takes' record
    | some field =>
      have mem := List.mem_of_find?_eq_some declared
      obtain rfl : field.name = name := by simpa using List.find?_some declared
      rw [known_cons_of_mem mem] at once fresh ⊢
      obtain ⟨unseen, fresh'⟩ := List.forall_mem_cons.1 fresh
      obtain ⟨single, once'⟩ := List.nodup_cons.1 once
      have taken := takes field mem content List.mem_cons_self (way ++ [field.name]) record
      rw [readEntries_cons_of_some first declared unseen taken, List.foldl_cons]
      refine ih named' once' (fun name among => ?_) passable' takes' _
      rw [List.mem_cons, not_or]
      exact ⟨ne_of_mem_of_not_mem among single, fresh' name among⟩

theorem readRecord_of_members (isMap : d.members? o = some members)
    (once : (known fields members).Nodup)
    (passable : ∀ member ∈ members,
      (fields.map Field.name).contains member.1 = true ∨ member.2.isWhole = true)
    (takes : ∀ field ∈ fields, ∀ content, (field.name, content) ∈ members →
      field.Takes d (step field.name) (some content))
    (title : String) (way : List String) (record : α) :
    readRecord title fields d way o record =
      .ok ((known fields members).foldl (fun record name => step name record) record) := by
  unfold Document.members? at isMap
  unfold readRecord
  cases found : d.follow o with
  | mapping entries whole =>
    rw [found] at isMap
    cases whole with
    | false => cases isMap
    | true =>
      have read := readEntries_eq isMap once (fun _ _ => List.not_mem_nil) passable takes way record
      dsimp only
      rw [read]
      rfl
  | scalar s =>
    rw [found] at isMap
    dsimp only at isMap ⊢
    split at isMap
    · cases isMap
      rw [if_pos ‹_›]
      rfl
    · cases isMap
  | _ =>
    rw [found] at isMap
    cases isMap

/-! ## The order of the fields -/

theorem lookup_of_mem {names : List String} {name : String} {content : Outline}
    (once : ((members.map Prod.fst).filter (names.contains ·)).Nodup)
    (wanted : names.contains name = true) (mem : (name, content) ∈ members) :
    members.lookup name = some content := by
  induction members with
  | nil => cases mem
  | cons member rest ih =>
    obtain ⟨other, content'⟩ := member
    rw [List.map_cons] at once
    rcases List.mem_cons.1 mem with same | among
    · cases same
      exact List.lookup_cons_self
    · have elsewhere : name ≠ other := by
        rintro rfl
        rw [List.filter_cons_of_pos wanted, List.nodup_cons] at once
        refine once.1 (List.mem_filter.2 ⟨List.mem_map_of_mem among, wanted⟩)
      rw [List.lookup_cons, beq_false_of_ne elsewhere]
      exact ih (once.sublist (List.Sublist.filter _ (List.sublist_cons_self _ _))) among

/-- Steps that may change places and do nothing without an entry come to the same in the order of
the entries and in the order of the fields. -/
theorem foldl_known (once : (known fields members).Nodup)
    (distinct : (fields.map Field.name).Nodup)
    (swap : ∀ a b, Function.Commute (step a) (step b))
    (idle : ∀ field ∈ fields, field.name ∉ members.map Prod.fst → ∀ record,
      step field.name record = record) (record : α) :
    (known fields members).foldl (fun record name => step name record) record =
      (fields.map Field.name).foldl (fun record name => step name record) record := by
  have order : (known fields members).Perm
      ((fields.map Field.name).filter ((members.map Prod.fst).contains ·)) := by
    refine (List.perm_ext_iff_of_nodup once (distinct.filter _)).2 fun name => ?_
    simp [known, and_comm]
  rw [order.foldl_eq' fun a _ b _ record => swap b a record, List.foldl_filter]
  refine List.foldl_ext _ _ _ fun record name mem => ?_
  obtain ⟨field, among, rfl⟩ := List.mem_map.1 mem
  split
  · rfl
  · rename_i missing
    exact (idle field among (fun given => missing (List.contains_iff_mem.2 given)) record).symm

/-- Whether a field takes its step where a demand is met. -/
def Field.Fills (d : Document) (step : String → α → α) (field : Field α) (demand : Demand) : Prop :=
  field.name = demand.1 ∧
    ∀ content, demand.2 content = true → field.Takes d (step field.name) content

theorem map_name_of_fills (fills : List.Forall₂ (Field.Fills d step) fields demands) :
    fields.map Field.name = demands.map Prod.fst := by
  induction fills with
  | nil => rfl
  | cons first _ ih => rw [List.map_cons, List.map_cons, ih, first.1]

theorem takes_of_fills (fills : List.Forall₂ (Field.Fills d step) fields demands)
    (contents : String → Option Outline)
    (met : ∀ demand ∈ demands, demand.2 (contents demand.1) = true) :
    ∀ field ∈ fields, field.Takes d (step field.name) (contents field.name) := by
  induction fills with
  | nil => exact List.forall_mem_nil _
  | cons first _ ih =>
    obtain ⟨here, others⟩ := List.forall_mem_cons.1 met
    refine List.forall_mem_cons.2 ⟨first.2 _ ?_, ih others⟩
    rwa [first.1]

/-- The record after a map that meets the demands of the fields: every field has taken its step. -/
theorem readRecord_of_gives (fills : List.Forall₂ (Field.Fills d step) fields demands)
    (distinct : (fields.map Field.name).Nodup)
    (swap : ∀ a b, Function.Commute (step a) (step b))
    (gives : d.gives demands o = true) (title : String) (way : List String) (record : α) :
    readRecord title fields d way o record =
      .ok ((fields.map Field.name).foldl (fun record name => step name record) record) := by
  obtain ⟨members, isMap, inOrder, met⟩ := gives_iff.1 gives
  rw [← map_name_of_fills fills] at inOrder
  obtain ⟨once, passable⟩ := orderly_iff.1 inOrder
  have takes := takes_of_fills fills (members.lookup ·) met
  have given : ∀ field ∈ fields, ∀ content, (field.name, content) ∈ members →
      field.Takes d (step field.name) (some content) := by
    intro field mem content among
    have wanted : (fields.map Field.name).contains field.name = true :=
      List.contains_iff_mem.2 (List.mem_map_of_mem mem)
    have taken := takes field mem
    rwa [lookup_of_mem once wanted among] at taken
  have idle : ∀ field ∈ fields, field.name ∉ members.map Prod.fst → ∀ record,
      step field.name record = record := by
    intro field mem missing
    have taken := takes field mem
    have absent : members.lookup field.name = none := by
      refine List.lookup_eq_none_iff.2 fun member among => bne_iff_ne.2 fun same => ?_
      exact missing (same ▸ List.mem_map_of_mem among)
    rwa [absent] at taken
  rw [← foldl_known once distinct swap idle record]
  exact readRecord_of_members isMap once passable given title way record

/-! ## Fields of scalars -/

theorem readScalar_of_mean? {tag : String} {mean : List Char → Option β} {b : β}
    (h : d.mean? tag mean o = some b) (expected : String) (way : List String) :
    readScalar tag expected mean d way o = .ok b := by
  unfold Document.mean? at h
  split at h
  · unfold readScalar
    simp only [‹d.follow o = _›, h]
  · cases h

theorem mean?_map (tag : String) (mean : List Char → Option α) (f : α → β) (o : Outline) :
    (d.mean? tag fun cs => (mean cs).map f) o = (d.mean? tag mean o).map f := by
  unfold Document.mean?
  split
  · split <;> rfl
  · rfl

theorem readBool_of_denotes {b : Bool} (h : denotes d (.bool b) o = true) (way : List String) :
    readBool d way o = .ok b := by
  rw [denotes, beq_iff_eq] at h
  exact readScalar_of_mean? h _ way

theorem readWord_of_denotes (typeName : String) {n : UInt64}
    (h : denotes d (.nat n.toNat) o = true) (way : List String) :
    readWord typeName d way o = .ok n := by
  have natural : denotes d (.int (.ofNat n.toNat)) o = true := h
  rw [denotes, beq_iff_eq] at natural
  refine readScalar_of_mean? ?_ typeName way
  rw [mean?_map, natural]
  exact congrArg some UInt64.ofNat_toNat

theorem readFloat_of_denotes {x : Float} (h : denotes d (.float x) o = true) (way : List String) :
    readFloat d way o = .ok x := by
  rw [denotes, decide_eq_true_iff] at h
  exact readScalar_of_mean? h _ way

theorem readPath_of_denotes {t : String} (h : denotes d (.text t) o = true) (way : List String) :
    readPath d way o = .ok t := by
  rw [denotes, beq_iff_eq] at h
  obtain ⟨s, found, rfl⟩ := exists_scalar_of_name? h
  rw [readPath, found]

/-- A choice that stands for a value puts it into the record; without it the record stays. -/
theorem fills_of {read : Reader β} (get : α → β) {put : α → β → α} {name : String} {b? : Option β}
    {json : β → Json} (reads : ∀ {o b}, denotes d (json b) o = true → ∀ way, read d way o = .ok b)
    (put_get : ∀ record, put record (get record) = record)
    (taken : ∀ record, step name record = put record (b?.getD (get record))) :
    (Field.of name read put).Fills d step (name, d.isChoice (b?.map json)) := by
  refine ⟨rfl, fun content met => ?_⟩
  cases b? with
  | none =>
    cases content with
    | none => exact fun record => (taken record).trans (put_get record)
    | some o => cases met
  | some b =>
    cases content with
    | none => cases met
    | some o =>
      intro way record
      show (read d way o).map (put record) = _
      rw [reads met way]
      exact congrArg Except.ok (taken record).symm

theorem foldl_eq_self {names : List String} {record : α}
    (idle : ∀ name ∈ names, step name record = record) :
    names.foldl (fun record name => step name record) record = record := by
  induction names with
  | nil => rfl
  | cons name rest ih =>
    obtain ⟨first, others⟩ := List.forall_mem_cons.1 idle
    rw [List.foldl_cons, first, ih others]

/-- A section takes the steps of all its fields, none of which does anything without it. -/
theorem fills_section {name : String} {inner : String → α → α}
    (fills : List.Forall₂ (Field.Fills d inner) fields demands)
    (distinct : (fields.map Field.name).Nodup)
    (swap : ∀ a b, Function.Commute (inner a) (inner b))
    (taken : ∀ record, step name record =
      (fields.map Field.name).foldl (fun record name => inner name record) record)
    (title : String) :
    Field.Fills d step ⟨name, readRecord title fields⟩ (name, d.isSection demands) := by
  refine ⟨rfl, fun content met => ?_⟩
  cases content with
  | none =>
    intro record
    have takes := takes_of_fills fills (fun _ => none) (List.all_eq_true.1 met)
    have idle : ∀ name ∈ fields.map Field.name, inner name record = record := by
      intro name mem
      obtain ⟨field, among, rfl⟩ := List.mem_map.1 mem
      exact takes field among record
    rw [taken, foldl_eq_self idle]
  | some o =>
    intro way record
    exact (readRecord_of_gives fills distinct swap met title way record).trans
      (congrArg Except.ok (taken record).symm)

/-! ## Objects -/

theorem forall₂_of_denotesMembers {members : List (String × Json)} {found : List (String × Outline)}
    (h : denotesMembers d members found = true) :
    List.Forall₂ (fun member entry => member.1 = entry.1 ∧ denotes d member.2 entry.2 = true)
      members found := by
  induction members generalizing found with
  | nil =>
    rw [denotesMembers, List.isEmpty_iff] at h
    rw [h]
    exact .nil
  | cons member rest ih =>
    cases found with
    | nil => cases h
    | cons entry others =>
      rw [denotesMembers, denotesMember, Bool.and_eq_true, Bool.and_eq_true, beq_iff_eq] at h
      exact .cons h.1 (ih h.2)

/-- Whether what stands for a member of an object meets a demand on its name. -/
def Meets (d : Document) (member : String × Json) (demand : Demand) : Prop :=
  member.1 = demand.1 ∧
    ∀ content, denotes d member.2 content = true → demand.2 (some content) = true

theorem answers_of_denotes {members : List (String × Json)} {found : List (String × Outline)}
    (meets : List.Forall₂ (Meets d) members demands)
    (stands : List.Forall₂ (fun member entry => member.1 = entry.1 ∧
      denotes d member.2 entry.2 = true) members found) :
    found.map Prod.fst = demands.map Prod.fst ∧ ∀ demand ∈ demands,
      ∃ content, (demand.1, content) ∈ found ∧ demand.2 (some content) = true := by
  induction meets generalizing found with
  | nil =>
    cases stands
    exact ⟨rfl, List.forall_mem_nil _⟩
  | @cons member demand _ _ first _ ih =>
    obtain ⟨wanted, met⟩ := first
    cases stands with
    | @cons _ entry _ _ here others =>
      obtain ⟨named, stands⟩ := here
      obtain ⟨names, answers⟩ := ih others
      have same : entry.1 = demand.1 := named.symm.trans wanted
      refine ⟨?_, List.forall_mem_cons.2 ⟨⟨entry.2, ?_, met _ stands⟩, fun demand mem => ?_⟩⟩
      · rw [List.map_cons, List.map_cons, names, same]
      · rw [← same]
        exact List.mem_cons_self
      · obtain ⟨content, among, met⟩ := answers demand mem
        exact ⟨content, List.mem_cons_of_mem _ among, met⟩

/-- A map that stands for an object gives all of its members. -/
theorem gives_of_denotes {members : List (String × Json)}
    (meets : List.Forall₂ (Meets d) members demands) (distinct : (demands.map Prod.fst).Nodup)
    (h : denotes d (.object members) o = true) : d.gives demands o = true := by
  rw [denotes] at h
  cases isMap : d.members? o with
  | none => simp [isMap] at h
  | some found =>
    rw [isMap] at h
    obtain ⟨names, answers⟩ := answers_of_denotes meets (forall₂_of_denotesMembers h)
    have all : (found.map Prod.fst).filter ((demands.map Prod.fst).contains ·) =
        demands.map Prod.fst := by
      rw [names]
      exact List.filter_eq_self.2 fun name mem => List.contains_iff_mem.2 mem
    have once : ((found.map Prod.fst).filter ((demands.map Prod.fst).contains ·)).Nodup := by
      rwa [all]
    refine gives_iff.2 ⟨found, isMap, orderly_iff.2 ⟨once, fun entry mem => .inl ?_⟩, ?_⟩
    · rw [← names]
      exact List.contains_iff_mem.2 (List.mem_map_of_mem mem)
    · intro demand mem
      obtain ⟨content, among, met⟩ := answers demand mem
      have wanted : (demands.map Prod.fst).contains demand.1 = true :=
        List.contains_iff_mem.2 (List.mem_map_of_mem mem)
      rwa [lookup_of_mem once wanted among]

end CodeAtlas.Yaml
