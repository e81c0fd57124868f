import CodeAtlas.Proofs.Json.Scalars

/-!
# Reading back what was written

The compact text of a value without doubles is read back as the outline of the value, with nothing
left over. So a text is the text of one value only.

1. `value_of_skipGap`: the first character after a gap decides what is read.
2. `took_moreItems_compact`, `took_moreMembers_compact`: lists and objects whose contents are read
   back.
3. `Exact.readsBack`, `read_compact`: every value without doubles is read back.
4. `compact_injective`: and so its text tells it from any other.
-/

namespace CodeAtlas.Json

/-! ## The first character -/

theorem skipGap_cons {c : Char} (h : isGap c = false) (cs : List Char) :
    skipGap (c :: cs) = c :: cs := by
  rw [skipGap, List.dropWhile_cons, if_neg (by simp [h])]

/-- The first character after a gap decides what is read. -/
theorem value_of_skipGap {cs rest : List Char} {c : Char} (h : skipGap cs = c :: rest) :
    value cs =
      have hr : rest.length ≤ cs.length := Nat.le_of_lt (rest_lt_of_skipGap h (Nat.le_refl _))
      if c = '"' then (quotedText rest).widen (quotedText rest).found hr
      else if c = '\x5b' then
        (items rest).widen (.array (items rest).found (items rest).fault) hr
      else if c = '\x7b' then
        (members rest).widen (.object (members rest).found (members rest).fault) hr
      else if c = 'n' then
        let word := keywordAtom .null "ull".toList rest
        word.widen word.found hr
      else if c = 't' then
        let word := keywordAtom (.bool true) "rue".toList rest
        word.widen word.found hr
      else if c = 'f' then
        let word := keywordAtom (.bool false) "alse".toList rest
        word.widen word.found hr
      else if c = '-' ∨ isDigit c then
        (numberAtom (c :: rest)).widen (numberAtom (c :: rest)).found
          (rest_lt_of_skipGap h (Nat.le_refl _))
      else nothing .malformed cs := by
  rw [value]
  split
  · rename_i hs
    rw [h] at hs
    cases hs
  · rename_i hs
    rw [h] at hs
    cases hs
    rfl

namespace Front.Took

variable {α β : Type} {cs part : List Char} {f : Front α part} {a : α} {rest : List Char}

theorem widen (h : f.Took a rest) (b : β) (hle : part.length ≤ cs.length) :
    (f.widen b hle).Took b rest := ⟨rfl, h.fault, h.rest⟩

theorem widen_found (h : f.Took a rest) (hle : part.length ≤ cs.length) :
    (f.widen f.found hle).Took a rest := ⟨h.found, h.fault, h.rest⟩

end Front.Took

theorem took_value_text (s : String) (rest : List Char) :
    (value ((writeText s).toList ++ rest)).Took (.text (.ok s) none) rest := by
  have written : (writeText s).toList ++ rest =
      '"' :: (s.toList.flatMap writeChar ++ '"' :: rest) := by
    simp [writeText]
  rw [written, value_of_skipGap (skipGap_cons rfl _)]
  dsimp only
  rw [if_pos rfl]
  exact (took_quotedText s rest).widen_found _

theorem isGap_of_isDigit {c : Char} (h : isDigit c = true) : isGap c = false := by
  unfold isGap
  simp only [Bool.or_eq_false_iff, decide_eq_false_iff_not]
  refine ⟨⟨⟨?_, ?_⟩, ?_⟩, ?_⟩ <;> rintro rfl <;> cases h

theorem took_value_int {n : Int} (h : IsWord n) {rest : List Char} (ends : EndsNumber rest) :
    (value ((toString n).toList ++ rest)).Took (.atom (.ok (.int n)) none) rest := by
  have took := took_numberAtom h ends
  obtain ⟨c, cs, hc, number⟩ := toList_toString_eq_cons n
  rw [hc] at took ⊢
  have no_gap : isGap c = false := by
    rcases number with rfl | digit
    · rfl
    · exact isGap_of_isDigit digit
  have others : ∀ d, isDigit d = false → d ≠ '-' → c ≠ d := by
    rintro d nondigit sign rfl
    rcases number with rfl | digit
    · exact sign rfl
    · rw [nondigit] at digit
      cases digit
  rw [List.cons_append, value_of_skipGap (skipGap_cons no_gap _)]
  dsimp only
  rw [if_neg (others _ rfl (by decide)), if_neg (others _ rfl (by decide)),
    if_neg (others _ rfl (by decide)), if_neg (others _ rfl (by decide)),
    if_neg (others _ rfl (by decide)), if_neg (others _ rfl (by decide)), if_pos number]
  exact took.widen_found _

/-! ## Lists and objects -/

/-- Where a value is read there is no end of a list and of an object. -/
theorem skipGap_of_took {cs rest : List Char} {found : Outline} (h : (value cs).Took found rest) :
    ∃ c front, skipGap cs = c :: front ∧ c ≠ '\x5d' ∧ c ≠ '\x7d' := by
  cases hs : skipGap cs with
  | nil =>
    have fault := h.fault
    rw [value] at fault
    split at fault
    · cases fault
    · rename_i hc
      rw [hs] at hc
      cases hc
  | cons c front =>
    have fault := h.fault
    rw [value_of_skipGap hs] at fault
    refine ⟨c, front, rfl, ?_, ?_⟩
    · rintro rfl
      cases fault
    · rintro rfl
      cases fault

theorem lt_of_took {cs front mid : List Char} {c : Char} {found : Outline}
    (h : (value cs).Took found front) (hs : skipGap front = c :: mid) : mid.length < cs.length :=
  rest_lt_of_skipGap (h.rest ▸ hs) (value cs).rest_le

theorem items_of_skipGap {cs rest : List Char} {c : Char} (h : skipGap cs = c :: rest) :
    items cs =
      if c = '\x5d' then ⟨[], none, rest, Nat.le_of_lt (rest_lt_of_skipGap h (Nat.le_refl _))⟩
      else moreItems cs := by
  rw [items]
  split
  · rename_i hs
    rw [h] at hs
    cases hs
  · rename_i hs
    rw [h] at hs
    cases hs
    rfl

/-- What stands after an item decides whether the list goes on. -/
theorem moreItems_of_took {cs front mid : List Char} {c : Char} {item : Outline}
    (h : (value cs).Took item front) (hs : skipGap front = c :: mid) :
    moreItems cs =
      have hm : mid.length ≤ cs.length := Nat.le_of_lt (lt_of_took h hs)
      if c = ',' then (moreItems mid).widen (item :: (moreItems mid).found) hm
      else if c = '\x5d' then ⟨[item], none, mid, hm⟩
      else ⟨[item], some .malformed, mid, hm⟩ := by
  obtain ⟨rfl, hfault, rfl⟩ := h
  rw [moreItems]
  simp only [hfault]
  split
  · rename_i hn
    rw [hs] at hn
    cases hn
  · rename_i hc
    rw [hs] at hc
    cases hc
    rfl

theorem members_of_skipGap {cs rest : List Char} {c : Char} (h : skipGap cs = c :: rest) :
    members cs =
      if c = '\x7d' then ⟨[], none, rest, Nat.le_of_lt (rest_lt_of_skipGap h (Nat.le_refl _))⟩
      else moreMembers cs := by
  rw [members]
  split
  · rename_i hs
    rw [h] at hs
    cases hs
  · rename_i hs
    rw [h] at hs
    cases hs
    rfl

/-- What stands after a name and its value decides whether the object goes on. -/
theorem moreMembers_of_took {cs front part back mid : List Char} {c : Char} {name : String}
    {content : Outline} (hname : (value cs).Took (.text (.ok name) none) front)
    (colon : skipGap front = ':' :: part) (h : (value part).Took content back)
    (hs : skipGap back = c :: mid) :
    moreMembers cs =
      have hm : mid.length ≤ cs.length :=
        Nat.le_of_lt (Nat.lt_trans (lt_of_took h hs) (lt_of_took hname colon))
      let member := (Outline.text (.ok name) none, content)
      if c = ',' then (moreMembers mid).widen (member :: (moreMembers mid).found) hm
      else if c = '\x7d' then ⟨[member], none, mid, hm⟩
      else ⟨[member], some .malformed, mid, hm⟩ := by
  obtain ⟨rfl, hfault, rfl⟩ := h
  obtain ⟨hfound, hnfault, rfl⟩ := hname
  rw [moreMembers]
  split
  · rename_i reading passing hr _
    rw [hfound] at hr
    cases hr
    split
    · rename_i hn
      rw [colon] at hn
      cases hn
    · rename_i hc
      rw [colon] at hc
      cases hc
      rw [if_pos rfl]
      simp only [hfault]
      split
      · rename_i hn
        rw [hs] at hn
        cases hn
      · rename_i hc
        rw [hs] at hc
        cases hc
        rfl
  · rename_i other
    exact absurd hnfault (other _ _ hfound)

/-! ## Whole values -/

/-- Whether the compact text of a value is read back from the front of a text, whatever follows it
that no number could go on with. -/
def ReadsBack (v : Json) : Prop :=
  ∀ rest, EndsNumber rest → (value (v.compact.toList ++ rest)).Took (Outline.of v) rest

theorem endsNumber_cons {c : Char} (h : isDigit c = false ∧ c ≠ '.' ∧ c ≠ 'e' ∧ c ≠ 'E')
    (rest : List Char) : EndsNumber (c :: rest) := by
  rintro d hd
  cases hd
  exact h

theorem endsNumber_compactItems (items : List Json) (rest : List Char) :
    EndsNumber ((compactItems "," items).toList ++ '\x5d' :: rest) := by
  cases items with
  | nil => exact endsNumber_cons (by decide) _
  | cons item items =>
    rw [compactItems]
    simpa using endsNumber_cons (by decide) _

theorem endsNumber_compactMembers (members : List (String × Json)) (rest : List Char) :
    EndsNumber ((compactMembers "," members).toList ++ '\x7d' :: rest) := by
  cases members with
  | nil => exact endsNumber_cons (by decide) _
  | cons member members =>
    rw [compactMembers]
    simpa using endsNumber_cons (by decide) _

/-- The items after a first one. -/
theorem took_moreItems_compact {items : List Json} (h : ∀ item ∈ items, ReadsBack item)
    {cs rest : List Char} {first : Outline}
    (hf : (value cs).Took first ((compactItems "," items).toList ++ '\x5d' :: rest)) :
    (moreItems cs).Took (first :: Outline.ofItems items) rest := by
  induction items generalizing cs first with
  | nil =>
    rw [moreItems_of_took hf (skipGap_cons rfl _), Outline.ofItems]
    exact ⟨rfl, rfl, rfl⟩
  | cons item items ih =>
    have text : (compactItems "," (item :: items)).toList ++ '\x5d' :: rest =
        ',' :: (item.compact.toList ++ ((compactItems "," items).toList ++ '\x5d' :: rest)) := by
      simp [compactItems]
    rw [text] at hf
    have next := h item List.mem_cons_self _ (endsNumber_compactItems items rest)
    have others := ih (fun i hi => h i (List.mem_cons_of_mem _ hi)) next
    rw [moreItems_of_took hf (skipGap_cons rfl _), Outline.ofItems]
    dsimp only
    rw [if_pos rfl, others.found]
    exact others.widen _ _

/-- The members after a first one. -/
theorem took_moreMembers_compact {members : List (String × Json)}
    (h : ∀ member ∈ members, ReadsBack member.2) {cs front part rest : List Char} {name : String}
    {first : Outline} (hname : (value cs).Took (.text (.ok name) none) front)
    (colon : skipGap front = ':' :: part)
    (hf : (value part).Took first ((compactMembers "," members).toList ++ '\x7d' :: rest)) :
    (moreMembers cs).Took ((.text (.ok name) none, first) :: Outline.ofMembers members) rest := by
  induction members generalizing cs front part name first with
  | nil =>
    rw [moreMembers_of_took hname colon hf (skipGap_cons rfl _), Outline.ofMembers]
    exact ⟨rfl, rfl, rfl⟩
  | cons member members ih =>
    obtain ⟨key, content⟩ := member
    have text : (compactMembers "," ((key, content) :: members)).toList ++ '\x7d' :: rest =
        ',' :: ((writeText key).toList ++ ':' :: (content.compact.toList ++
          ((compactMembers "," members).toList ++ '\x7d' :: rest))) := by
      simp [compactMembers]
    rw [text] at hf
    have next := h (key, content) List.mem_cons_self _ (endsNumber_compactMembers members rest)
    have others := ih (fun m hm => h m (List.mem_cons_of_mem _ hm)) (took_value_text key _)
      (skipGap_cons rfl _) next
    rw [moreMembers_of_took hname colon hf (skipGap_cons rfl _), Outline.ofMembers]
    dsimp only
    rw [if_pos rfl, others.found]
    exact others.widen _ _

theorem readsBack_array {list : List Json} (h : ∀ item ∈ list, ReadsBack item) :
    ReadsBack (.array list) := by
  intro rest _
  have text : (Json.array list).compact.toList ++ rest =
      '\x5b' :: ((compactItems "" list).toList ++ '\x5d' :: rest) := by
    simp [compact]
  have inner : (items ((compactItems "" list).toList ++ '\x5d' :: rest)).Took
      (Outline.ofItems list) rest := by
    cases list with
    | nil =>
      rw [compactItems, String.toList_empty, List.nil_append,
        items_of_skipGap (skipGap_cons rfl _), Outline.ofItems]
      exact ⟨rfl, rfl, rfl⟩
    | cons item list =>
      have first := h item List.mem_cons_self _ (endsNumber_compactItems list rest)
      have all := took_moreItems_compact (fun i hi => h i (List.mem_cons_of_mem _ hi)) first
      obtain ⟨c, front, hs, not_end, _⟩ := skipGap_of_took first
      have written : (compactItems "" (item :: list)).toList ++ '\x5d' :: rest =
          item.compact.toList ++ ((compactItems "," list).toList ++ '\x5d' :: rest) := by
        simp [compactItems]
      rw [written, items_of_skipGap hs, if_neg not_end, Outline.ofItems]
      exact all
  rw [text, value_of_skipGap (skipGap_cons rfl _), Outline.of]
  dsimp only
  rw [if_neg (by decide), if_pos rfl, inner.found, inner.fault]
  exact inner.widen _ _

theorem readsBack_object {list : List (String × Json)} (h : ∀ member ∈ list, ReadsBack member.2) :
    ReadsBack (.object list) := by
  intro rest _
  have text : (Json.object list).compact.toList ++ rest =
      '\x7b' :: ((compactMembers "" list).toList ++ '\x7d' :: rest) := by
    simp [compact]
  have inner : (members ((compactMembers "" list).toList ++ '\x7d' :: rest)).Took
      (Outline.ofMembers list) rest := by
    cases list with
    | nil =>
      rw [compactMembers, String.toList_empty, List.nil_append,
        members_of_skipGap (skipGap_cons rfl _), Outline.ofMembers]
      exact ⟨rfl, rfl, rfl⟩
    | cons member list =>
      obtain ⟨key, content⟩ := member
      have first := h (key, content) List.mem_cons_self _ (endsNumber_compactMembers list rest)
      have name := took_value_text key
        (':' :: (content.compact.toList ++ ((compactMembers "," list).toList ++ '\x7d' :: rest)))
      have all := took_moreMembers_compact (fun m hm => h m (List.mem_cons_of_mem _ hm)) name
        (skipGap_cons rfl _) first
      obtain ⟨c, front, hs, _, not_end⟩ := skipGap_of_took name
      have written : (compactMembers "" ((key, content) :: list)).toList ++ '\x7d' :: rest =
          (writeText key).toList ++ ':' :: (content.compact.toList ++
            ((compactMembers "," list).toList ++ '\x7d' :: rest)) := by
        simp [compactMembers]
      rw [written, members_of_skipGap hs, if_neg not_end, Outline.ofMembers]
      exact all
  rw [text, value_of_skipGap (skipGap_cons rfl _), Outline.of]
  dsimp only
  rw [if_neg (by decide), if_neg (by decide), if_pos rfl, inner.found, inner.fault]
  exact inner.widen _ _

/-- Whether a value has no double in it and no integer beyond 64 bits. -/
inductive Exact : Json → Prop where
  | null : Exact .null
  | bool (b : Bool) : Exact (.bool b)
  | int {n : Int} (word : IsWord n) : Exact (.int n)
  | text (s : String) : Exact (.text s)
  | array {items : List Json} (all : ∀ item ∈ items, Exact item) : Exact (.array items)
  | object {members : List (String × Json)} (all : ∀ member ∈ members, Exact member.2) :
    Exact (.object members)

@[simp] theorem exact_null : Json.null.Exact := .null

@[simp] theorem exact_text (s : String) : (Json.text s).Exact := .text s

@[simp] theorem exact_int {n : Int} : (Json.int n).Exact ↔ IsWord n :=
  ⟨fun | .int word => word, .int⟩

@[simp] theorem exact_array {items : List Json} :
    (Json.array items).Exact ↔ ∀ item ∈ items, item.Exact :=
  ⟨fun | .array all => all, .array⟩

@[simp] theorem exact_object {members : List (String × Json)} :
    (Json.object members).Exact ↔ ∀ member ∈ members, member.2.Exact :=
  ⟨fun | .object all => all, .object⟩

@[simp] theorem exact_texts (ss : List String) : (Json.texts ss).Exact := by
  simp [Json.texts]

@[simp] theorem exact_line (n : UInt32) : (Json.nat n.toNat).Exact := by
  have := n.toNat_lt
  exact .int ⟨by omega, by omega⟩

theorem Exact.readsBack {v : Json} (h : v.Exact) : v.ReadsBack := by
  induction h with
  | null =>
    intro rest _
    simp only [compact, writeScalar, Outline.of]
    show (value ('n' :: 'u' :: 'l' :: 'l' :: rest)).Took _ rest
    rw [value_of_skipGap (skipGap_cons rfl _)]
    exact ⟨rfl, rfl, rfl⟩
  | bool b =>
    intro rest _
    simp only [compact, writeScalar, Outline.of]
    cases b with
    | true =>
      show (value ('t' :: 'r' :: 'u' :: 'e' :: rest)).Took _ rest
      rw [value_of_skipGap (skipGap_cons rfl _)]
      exact ⟨rfl, rfl, rfl⟩
    | false =>
      show (value ('f' :: 'a' :: 'l' :: 's' :: 'e' :: rest)).Took _ rest
      rw [value_of_skipGap (skipGap_cons rfl _)]
      exact ⟨rfl, rfl, rfl⟩
  | int word =>
    intro rest ends
    simp only [compact, writeScalar, Outline.of]
    exact took_value_int word ends
  | text s =>
    intro rest _
    simp only [compact, writeScalar, Outline.of]
    exact took_value_text s rest
  | array _ ih => exact readsBack_array ih
  | object _ ih => exact readsBack_object ih

/-- The compact text of a value without doubles is read back as the outline of the value, and
nothing is left over. -/
theorem read_compact {v : Json} (h : v.Exact) :
    Document.read v.compact = ⟨Outline.of v, false⟩ := by
  have took := h.readsBack [] endsNumber_nil
  rw [List.append_nil] at took
  rw [Document.read]
  simp only [took.found, took.rest]
  rfl

/-! ## Texts of different values -/

mutual

/-- Different values have different outlines. -/
theorem eq_of_outline : (v : Json) → {w : Json} → Outline.of v = Outline.of w → v = w
  | .null, w, h | .bool _, w, h | .int _, w, h | .float _, w, h | .text _, w, h => by
    cases w <;> simp_all [Outline.of]
  | .array items, w, h => by
    cases w with
    | array others =>
      simp only [Outline.of, Outline.array.injEq, and_true] at h
      rw [eq_of_ofItems items h]
    | _ => simp [Outline.of] at h
  | .object members, w, h => by
    cases w with
    | object others =>
      simp only [Outline.of, Outline.object.injEq, and_true] at h
      rw [eq_of_ofMembers members h]
    | _ => simp [Outline.of] at h

theorem eq_of_ofItems :
    (items : List Json) → {others : List Json} →
      Outline.ofItems items = Outline.ofItems others → items = others
  | [], others, h => by
    cases others with
    | nil => rfl
    | cons _ _ => simp [Outline.ofItems] at h
  | item :: items, others, h => by
    cases others with
    | nil => simp [Outline.ofItems] at h
    | cons other others =>
      simp only [Outline.ofItems, List.cons.injEq] at h
      rw [eq_of_outline item h.1, eq_of_ofItems items h.2]

theorem eq_of_ofMembers :
    (members : List (String × Json)) → {others : List (String × Json)} →
      Outline.ofMembers members = Outline.ofMembers others → members = others
  | [], others, h => by
    cases others with
    | nil => rfl
    | cons _ _ => simp [Outline.ofMembers] at h
  | (name, value) :: members, others, h => by
    cases others with
    | nil => simp [Outline.ofMembers] at h
    | cons other others =>
      obtain ⟨key, content⟩ := other
      simp only [Outline.ofMembers, List.cons.injEq, Prod.mk.injEq, Outline.text.injEq,
        Except.ok.injEq, and_true] at h
      rw [h.1.1, eq_of_outline value h.1.2, eq_of_ofMembers members h.2]

end

/-- Values without doubles that have the same text are the same. -/
theorem compact_injective {v w : Json} (hv : v.Exact) (hw : w.Exact) (h : v.compact = w.compact) :
    v = w := by
  have read := read_compact hv
  rw [h, read_compact hw] at read
  injection read with root
  exact (eq_of_outline w root).symm

end CodeAtlas.Json
