import CodeAtlas.Yaml.Token

/-!
# Outlines of YAML texts

The first document of a text, as far as the text can be read. The outline of a broken text ends
where the text breaks, so that whoever walks it in the order of the text meets the mismatches with a
type before the break, and the first problem decides.
-/

namespace CodeAtlas.Yaml

/-- A scalar: its text, its style, and its tag if it has one. -/
structure Scalar where
  text : List Char
  style : Style
  tag : Option (List Char) := none
deriving DecidableEq, Repr

/-- As much of a value as its text gives. -/
inductive Outline where
  | scalar (scalar : Scalar)
  /-- The latest value with an anchor of a number. -/
  | alias (number : Nat)
  /-- The items of a list, and whether the list is read to its end. -/
  | sequence (items : List Outline) (whole : Bool)
  /-- The keys and values of a map, and whether the map is read to its end. -/
  | mapping (entries : List (Outline × Outline)) (whole : Bool)
  /-- The text breaks before a value begins. -/
  | broken
deriving Inhabited

/-- Whether a value is read to its end. -/
def Outline.isWhole : Outline → Bool
  | .scalar _ | .alias _ => true
  | .sequence _ whole | .mapping _ whole => whole
  | .broken => false

/-- The first document of a text. -/
structure Document where
  root : Outline
  /-- The values with anchors, by the numbers of their anchors, those that begin later first. -/
  anchored : List (Nat × Outline)
  /-- Whether the text is read to its end and holds no other document. -/
  whole : Bool

/-! ## Reading tokens -/

/-- The state of reading tokens. -/
structure Reading where
  tokens : List Token
  /-- The names and numbers of the anchors, the latest first. -/
  anchors : List (List Char × Nat) := []
  /-- How many different names there are among them. -/
  names : Nat := 0
  /-- The values with anchors, by how many anchors stand before theirs. -/
  values : List (Nat × Outline) := []
  /-- What the handles of tags stand for. -/
  handles : List (List Char × List Char) := []
  /-- Whether the text broke. -/
  isBroken : Bool := false

namespace Reading

/-- The next token. -/
def peek (r : Reading) : Option Token := r.tokens.head?

/-- The reading past the next token. -/
def skip (r : Reading) : Reading := { r with tokens := r.tokens.drop 1 }

/-- The reading of a text that breaks here. -/
def stop (r : Reading) : Reading := { r with tokens := [], isBroken := true }

/-- Whether the next token is one of a list; false where the text breaks. -/
def next (r : Reading) (tokens : List Token) : Bool :=
  match r.peek with
  | some token => tokens.contains token
  | none => false

/-- The handles that stand for something unless a directive says otherwise. -/
def defaultHandles : List (List Char × List Char) :=
  [(['!'], ['!']), (['!', '!'], "tag:yaml.org,2002:".toList)]

/-- The tag of a handle and a suffix, for a handle that is known. -/
def tagOf? (r : Reading) (handle suffix : List Char) : Option (List Char) :=
  if handle.isEmpty then some suffix
  else ((r.handles ++ defaultHandles).lookup handle).map (· ++ suffix)

/-- An empty plain scalar. -/
def emptyScalar (tag : Option (List Char)) : Outline := .scalar ⟨[], .plain, tag⟩

/-- What stands before the content of a value: an anchor and a tag, at most one of each. -/
structure Properties where
  anchor : Option (List Char) := none
  tag : Option (List Char) := none

/-- Reads at most one anchor and one tag; none for a tag with an unknown handle. -/
def properties (r : Reading) : Option (Properties × Reading) :=
  let tagged (p : Properties) (handle suffix : List Char) (r : Reading) :
      Option (Properties × Reading) :=
    (r.tagOf? handle suffix).map fun tag => ({ p with tag := some tag }, r)
  match r.tokens with
  | .anchor name :: .tag handle suffix :: rest =>
    tagged { anchor := some name } handle suffix { r with tokens := rest }
  | .anchor name :: rest => some ({ anchor := some name }, { r with tokens := rest })
  | .tag handle suffix :: .anchor name :: rest =>
    tagged { anchor := some name } handle suffix { r with tokens := rest }
  | .tag handle suffix :: rest => tagged {} handle suffix { r with tokens := rest }
  | _ => some ({}, r)

/-- Notes an anchor, and gives how many stand before it. Its number is how many names anchors have
before it, so after a name that is used again two anchors can have one number. -/
def place (r : Reading) : Option (List Char) → Option Nat × Reading
  | none => (none, r)
  | some name =>
    (some r.anchors.length, { r with
      anchors := (name, r.names) :: r.anchors
      names := if (r.anchors.lookup name).isSome then r.names else r.names + 1 })

/-- Keeps a value with its anchor. -/
def keep (place : Option Nat) (result : Outline × Reading) : Outline × Reading :=
  match place with
  | none => result
  | some n => (result.1, { result.2 with values := (n, result.1) :: result.2.values })

/-- The values with anchors, by the numbers of their anchors, those that begin later first. -/
def anchored (r : Reading) : List (Nat × Outline) :=
  r.anchors.zipIdx.filterMap fun ((_, number), later) =>
    (r.values.lookup (r.anchors.length - 1 - later)).map (number, ·)

mutual

/-- Reads a value. Where `block` says so it may be a collection without brackets, and where `bare`
says so a list whose dashes are not indented. -/
def value (fuel : Nat) (block bare : Bool) (r : Reading) : Outline × Reading :=
  match fuel with
  | 0 => (.broken, r.stop)
  | fuel + 1 =>
    match r.peek with
    | some (.alias name) =>
      match r.anchors.lookup name with
      | some n => (.alias n, r.skip)
      | none => (.broken, r.stop)
    | _ =>
      match r.properties with
      | none => (.broken, r.stop)
      | some (p, r) =>
        match r.peek with
        | some (.scalar text style) =>
          let (n, r) := r.place p.anchor
          keep n (.scalar ⟨text, style, p.tag.filter (· != ['!'])⟩, r.skip)
        | some .flowSequenceStart =>
          let (n, r) := r.place p.anchor
          let (items, r) := flowItems fuel true r.skip
          keep n (.sequence items (!r.isBroken), r)
        | some .flowMappingStart =>
          let (n, r) := r.place p.anchor
          let (entries, r) := flowEntries fuel true r.skip
          keep n (.mapping entries (!r.isBroken), r)
        | some .blockEntry =>
          if bare then
            let (n, r) := r.place p.anchor
            let (items, r) := blockItems fuel true r
            keep n (.sequence items (!r.isBroken), r)
          else nothing p r
        | some .blockSequenceStart =>
          if block then
            let (n, r) := r.place p.anchor
            let (items, r) := blockItems fuel false r.skip
            keep n (.sequence items (!r.isBroken), r)
          else nothing p r
        | some .blockMappingStart =>
          if block then
            let (n, r) := r.place p.anchor
            let (entries, r) := blockEntries fuel r.skip
            keep n (.mapping entries (!r.isBroken), r)
          else nothing p r
        | some _ => nothing p r
        | none => (.broken, r.stop)
where
  /-- No content: an empty scalar after an anchor or a tag, and otherwise a break. -/
  nothing (p : Properties) (r : Reading) : Outline × Reading :=
    if p.anchor.isSome || p.tag.isSome then
      let (n, r) := r.place p.anchor
      keep n (emptyScalar p.tag, r)
    else (.broken, r.stop)

/-- Reads a value, or an empty one before one of the tokens `ends`. -/
def valueUnless (fuel : Nat) (block bare : Bool) (ends : List Token) (r : Reading) :
    Outline × Reading :=
  match fuel with
  | 0 => (.broken, r.stop)
  | fuel + 1 =>
    if r.peek.isNone then (.broken, r.stop)
    else if r.next ends then (emptyScalar none, r)
    else value fuel block bare r

/-- Reads the items of a list with dashes. -/
def blockItems (fuel : Nat) (bare : Bool) (r : Reading) : List Outline × Reading :=
  match fuel with
  | 0 => ([], r.stop)
  | fuel + 1 =>
    if r.next [.blockEntry] then
      let ends : List Token :=
        if bare then [.blockEntry, .key, .value, .blockEnd] else [.blockEntry, .blockEnd]
      let (item, r) := valueUnless fuel true false ends r.skip
      if r.isBroken then ([item], r)
      else
        let (items, r) := blockItems fuel bare r
        (item :: items, r)
    else if r.peek.isNone then ([], r.stop)
    else if bare then ([], r)
    else if r.next [.blockEnd] then ([], r.skip)
    else ([], r.stop)

/-- Reads the entries of a map without brackets. -/
def blockEntries (fuel : Nat) (r : Reading) : List (Outline × Outline) × Reading :=
  match fuel with
  | 0 => ([], r.stop)
  | fuel + 1 =>
    if r.next [.blockEnd] then ([], r.skip)
    else if r.next [.key] then
      let ends : List Token := [.key, .value, .blockEnd]
      let (key, r) := valueUnless fuel true true ends r.skip
      if r.isBroken then ([(key, .broken)], r)
      else
        let (value, r) :=
          if r.next [.value] then valueUnless fuel true true ends r.skip
          else if r.peek.isNone then (.broken, r.stop)
          else (emptyScalar none, r)
        if r.isBroken then ([(key, value)], r)
        else
          let (entries, r) := blockEntries fuel r
          ((key, value) :: entries, r)
    else ([], r.stop)

/-- Reads the items of a list in brackets; a key among them begins a map of one entry. -/
def flowItems (fuel : Nat) (first : Bool) (r : Reading) : List Outline × Reading :=
  match fuel with
  | 0 => ([], r.stop)
  | fuel + 1 =>
    if r.next [.flowSequenceEnd] then ([], r.skip)
    else if !first && !r.next [.flowEntry] then ([], r.stop)
    else
      let r := if first then r else r.skip
      if r.next [.flowSequenceEnd] then ([], r.skip)
      else
        let (item, r) :=
          if r.next [.key] then
            let (entry, r) := flowEntry fuel .flowSequenceEnd r
            (.mapping [entry] (!r.isBroken), r)
          else value fuel false false r
        if r.isBroken then ([item], r)
        else
          let (items, r) := flowItems fuel false r
          (item :: items, r)

/-- Reads the entries of a map in braces. -/
def flowEntries (fuel : Nat) (first : Bool) (r : Reading) :
    List (Outline × Outline) × Reading :=
  match fuel with
  | 0 => ([], r.stop)
  | fuel + 1 =>
    if r.next [.flowMappingEnd] then ([], r.skip)
    else if !first && !r.next [.flowEntry] then ([], r.stop)
    else
      let r := if first then r else r.skip
      if r.next [.flowMappingEnd] then ([], r.skip)
      else
        let (entry, r) :=
          if r.next [.key] then flowEntry fuel .flowMappingEnd r
          else
            let (key, r) := value fuel false false r
            if r.peek.isNone then ((key, .broken), r.stop) else ((key, emptyScalar none), r)
        if r.isBroken then ([entry], r)
        else
          let (entries, r) := flowEntries fuel false r
          (entry :: entries, r)

/-- Reads an entry of a collection in brackets that ends with a token, from its key on. In a list,
the token that shows a key to be empty is lost. -/
def flowEntry (fuel : Nat) (closing : Token) (r : Reading) : (Outline × Outline) × Reading :=
  match fuel with
  | 0 => ((.broken, .broken), r.stop)
  | fuel + 1 =>
    let ends : List Token := [.value, .flowEntry, closing]
    let r := r.skip
    let lost := closing == .flowSequenceEnd && r.next ends
    let (key, r) := valueUnless fuel false false ends r
    let r := if lost then r.skip else r
    if r.isBroken then ((key, .broken), r)
    else if r.next [.value] then
      let (value, r) := valueUnless fuel false false [.flowEntry, closing] r.skip
      ((key, value), r)
    else if r.peek.isNone then ((key, .broken), r.stop)
    else ((key, emptyScalar none), r)

end

/-- Reads directives: what handles of tags stand for. A version must be 1.1 or 1.2 and stand once,
and a handle must be given once. -/
def directives (version : Bool) (r : Reading) : List Token → Option Reading
  | .versionDirective major minor :: rest =>
    if version && major = 1 && (minor = 1 || minor = 2) then
      directives false r rest
    else none
  | .tagDirective handle lead :: rest =>
    if (r.handles.lookup handle).isSome then none
    else directives version { r with handles := (handle, lead) :: r.handles } rest
  | rest => some { r with tokens := rest }

/-- The root of the first document. -/
def root (fuel : Nat) (r : Reading) : Outline × Reading :=
  match r.tokens with
  | .streamEnd :: _ => (emptyScalar none, r)
  | .versionDirective .. :: _ | .tagDirective .. :: _ | .documentStart :: _ =>
    match directives true r r.tokens with
    | none => (.broken, r.stop)
    | some r =>
      if r.next [.documentStart] then
        let r := r.skip
        match r.tokens with
        | .versionDirective .. :: _ | .tagDirective .. :: _ | .documentStart :: _
        | .documentEnd :: _ | .streamEnd :: _ => (emptyScalar none, r)
        | _ => value fuel true false r
      else (.broken, r.stop)
  | _ => value fuel true false r

end Reading

/-- The first document of the tokens of a text. Without a document there is an empty scalar. -/
def Document.ofTokens (all : List Token) : Document :=
  let (root, r) := Reading.root (4 * all.length + 4) { tokens := all }
  { root := root
    anchored := r.anchored
    whole := !r.isBroken &&
      r.tokens.dropWhile (· == .documentEnd) == [.streamEnd] }

/-- The first document of a text. -/
def Document.read (text : String) : Document := ofTokens (tokens text)

theorem Document.read_ofList (chars : List Char) :
    read (String.ofList chars) = ofTokens (tokensOf chars) := by
  rw [read, tokens, String.toList_ofList]

end CodeAtlas.Yaml
