/-
# YAML documents

A text holds at most one document, a tree of scalars, sequences and mappings.  A reference
stays in the tree as the number of an anchor; what an anchor stands for is kept beside the
tree.  An anchor is numbered by the count of the names that are known when it is read, so
that giving a name a second time frees no number, and a number stands for the last node
that took it.  Where a node may be missing, it is an empty plain scalar.  When the text turns
out to be wrong, the tree ends there with a broken node, so that values before that place can
still be read.
-/
import ChatRelay.Yaml.Lexer

namespace ChatRelay.Yaml

/-! ## Nodes -/

/-- A node of a document.  The mark says where it starts. -/
inductive Node where
  | scalar (mark : Mark) (tag : Option (List UInt8)) (style : ScalarStyle) (text : List Char)
  | sequence (mark : Mark) (items : List Node)
  | mapping (mark : Mark) (entries : List (Node × Node))
  | alias (id : Nat)
  /-- The place where the text turns out to be wrong. -/
  | broken
deriving Repr

namespace Node

/-- The node that stands where nothing is written. -/
def empty : Node := .scalar Mark.origin none .plain []

mutual

/-- Whether a node is broken nowhere. -/
def isWhole : Node → Bool
  | .scalar _ _ _ _ => true
  | .sequence _ items => areWhole items
  | .mapping _ entries => entriesAreWhole entries
  | .alias _ => true
  | .broken => false

def areWhole : List Node → Bool
  | [] => true
  | n :: rest => isWhole n && areWhole rest

def entriesAreWhole : List (Node × Node) → Bool
  | [] => true
  | (k, v) :: rest => isWhole k && isWhole v && entriesAreWhole rest

end

end Node

/-- The nodes that have anchors. -/
structure Anchors where
  names : List (List Char × Nat)
  /-- The number and the order of the last node that took it, for each number. -/
  latest : List (Nat × Nat)
  count : Nat
  /-- The nodes with anchors, by their order. -/
  nodes : List (Nat × Node)
deriving Repr

structure Document where
  root : Option Node
  anchors : Anchors
  error : Option Error
deriving Repr

namespace Anchors

def none : Anchors := ⟨[], [], 0, []⟩

/-- Give the node that is about to be read a name; the result holds its order. -/
def declare (a : Anchors) (name : List Char) : Nat × Anchors :=
  let id := a.names.length
  (a.count,
    { a with
      names := (name, id) :: a.names.filter fun p => p.1 != name
      latest := (id, a.count) :: a.latest
      count := a.count + 1 })

/-- Keep the node of an order. -/
def define (a : Anchors) (order : Nat) (n : Node) : Anchors :=
  { a with nodes := (order, n) :: a.nodes }

def id? (a : Anchors) (name : List Char) : Option Nat := a.names.lookup name

/-- The node that a number stands for. -/
def node? (a : Anchors) (id : Nat) : Option Node :=
  (a.latest.lookup id).bind fun order => a.nodes.lookup order

end Anchors

/-- A node that is not a reference: itself, or what the reference stands for. -/
def Document.resolve (d : Document) : Node → Node
  | .alias id => (d.anchors.node? id).getD .broken
  | n => n

/-! ## What is left to read -/

/-- The tag handles that always have a meaning. -/
def defaultHandles : List (List Char × List UInt8) :=
  [(['!'], [0x21]),
   (['!', '!'], "tag:yaml.org,2002:".toList.map fun x => UInt8.ofNat x.toNat)]

/-- What is left to read, and what is known from before. -/
structure Rest where
  tokens : Tokens
  anchors : Anchors
  /-- The meanings of tag handles. -/
  handles : List (List Char × List UInt8)
  /-- What is wrong, once that is known. -/
  error : Option Error
deriving Repr

namespace Rest

/-- Pass over one token. -/
def next (r : Rest) : Rest := { r with tokens := { r.tokens with list := r.tokens.list.tail } }

def token? (r : Rest) : Option Token := r.tokens.list.head?.map (·.token)

/-- Whether the next token has a property. -/
def nextIs (r : Rest) (p : Token → Bool) : Bool := r.token?.any p

def mark (r : Rest) : Mark := (r.tokens.list.head?.map (·.mark)).getD r.tokens.last

/-- Stop with an error, unless there is one from before. -/
def stop (r : Rest) (e : Error) : Rest := { r with error := r.error.or (some e) }

/-- Stop if the next token is known to be wrong. -/
def check (r : Rest) : Rest :=
  if r.tokens.list.isEmpty then { r with error := r.error.or r.tokens.error } else r

/-- Stop because of the next token, in the course of something. -/
def fail (r : Rest) (problem course : String) (start : Mark) : Rest :=
  r.check.stop (.malformed problem r.mark (some (course, start)))

end Rest

/-! ## Directives -/

/-- The directives of a document: whether one names a version, and the tag handles. -/
structure Directives where
  versioned : Bool
  handles : List (List Char × List UInt8)
deriving DecidableEq, Repr

/-- Read directives.  Versions other than 1.1 and 1.2 and repeated directives are errors. -/
def Directives.read (d : Directives) :
    List PlacedToken → Except Error (Directives × List PlacedToken)
  | ⟨.versionDirective major minor, mark⟩ :: rest =>
    if d.versioned then .error (.malformed "found duplicate %YAML directive" mark none)
    else if major != 1 || (minor != 1 && minor != 2) then
      .error (.malformed "found incompatible YAML document" mark none)
    else Directives.read { d with versioned := true } rest
  | ⟨.tagDirective handle start, mark⟩ :: rest =>
    if (d.handles.lookup handle).isSome then
      .error (.malformed "found duplicate %TAG directive" mark none)
    else Directives.read { d with handles := d.handles ++ [(handle, start)] } rest
  | ts => .ok (d, ts)

/-! ## Properties -/

/-- The anchor and tag in front of a node. -/
structure Properties where
  anchor : Option (List Char)
  /-- The handle of the tag, what follows it, and where the tag starts. -/
  tag : Option (List Char × List UInt8 × Mark)
deriving DecidableEq, Repr

/-- Read the properties of a node: an anchor and a tag in either order. -/
def readProperties (r : Rest) : Properties × Rest :=
  match r.tokens.list with
  | ⟨.anchor name, _⟩ :: ⟨.tag handle suffix, m⟩ :: _ =>
    (⟨some name, some (handle, suffix, m)⟩, r.next.next)
  | ⟨.tag handle suffix, m⟩ :: ⟨.anchor name, _⟩ :: _ =>
    (⟨some name, some (handle, suffix, m)⟩, r.next.next)
  | ⟨.anchor name, _⟩ :: _ => (⟨some name, none⟩, r.next)
  | ⟨.tag handle suffix, m⟩ :: _ => (⟨none, some (handle, suffix, m)⟩, r.next)
  | _ => (⟨none, none⟩, r)

/-- The tag that properties name, with the meaning of its handle put in. -/
def Properties.resolveTag (p : Properties) (r : Rest) (start : Mark) :
    Except Error (Option (List UInt8)) :=
  match p.tag with
  | none => .ok none
  | some (handle, suffix, mark) =>
    if handle.isEmpty then .ok (some (tagPart suffix))
    else
      match r.handles.lookup handle with
      | some meaning => .ok (some (tagPart meaning ++ tagPart suffix))
      | none =>
        .error (.malformed "found undefined tag handle" mark (some ("parsing a node", start)))

/-! ## Reading nodes -/

inductive Context where
  /-- Inside brackets or braces, where no block collection may start. -/
  | flow
  | block
  /-- As a key or value of a block mapping, where the items of a sequence need not be
  indented further. -/
  | entry
deriving DecidableEq, Repr

/-- The course of reading a node. -/
def Context.course : Context → String
  | flow => "parsing a flow node"
  | block => "parsing a block node"
  | entry => "parsing a block node"

/-- Whether a token ends the place of a key or value in a block mapping. -/
def endsEntry (t : Token) : Bool := t == .key || t == .value || t == .blockEnd

/-- Whether a token ends the place of an item of a sequence that is not indented. -/
def endsItem (t : Token) : Bool := t == .blockEntry || endsEntry t

/-- Whether a token ends the place of a value in brackets or braces. -/
def endsFlow (close t : Token) : Bool := t == .flowEntry || t == close

/-- The items before a place where the text is wrong. -/
def brokenItems (done : List Node) (r : Rest) : List Node × Rest := ((.broken :: done).reverse, r)

/-- The entries before a place where the text is wrong. -/
def brokenEntries (done : List (Node × Node)) (r : Rest) : List (Node × Node) × Rest :=
  (((.broken, .broken) :: done).reverse, r)

/-- A node of which nothing but properties is written, at least one of them. -/
def readNothing (context : Context) (start : Mark) (tag : Option (List UInt8)) (anchored : Bool)
    (r : Rest) : Node × Rest :=
  if anchored || tag.isSome then (.scalar start tag .plain [], r)
  else (.broken, r.fail "did not find expected node content" context.course start)

mutual

def readNode (context : Context) (r : Rest) : Nat → Node × Rest
  | 0 => (.broken, r)
  | fuel + 1 =>
    let start := r.mark
    match r.token? with
    | some (.alias name) =>
      match r.anchors.id? name with
      | some id => (.alias id, r.next)
      | none => (.broken, r.stop (.unknownAnchor start))
    | _ =>
      let (p, r) := readProperties r
      let r := r.check
      if r.error.isSome then (.broken, r)
      else
        match p.resolveTag r start with
        | .error e => (.broken, r.stop e)
        | .ok tag =>
          match p.anchor with
          | none => readContent context start tag false r fuel
          | some name =>
            let (order, anchors) := r.anchors.declare name
            let (n, r) := readContent context start tag true { r with anchors } fuel
            (n, { r with anchors := r.anchors.define order n })

/-- Read a node whose properties have been read; it starts at the mark. -/
def readContent (context : Context) (start : Mark) (tag : Option (List UInt8)) (anchored : Bool)
    (r : Rest) : Nat → Node × Rest
  | 0 => (.broken, r)
  | fuel + 1 =>
    match r.token?, context with
    | some .blockEntry, .entry =>
      let (items, r) := readItems r [] fuel
      (.sequence start items, r)
    | some (.scalar text style), _ => (.scalar start tag style text, r.next)
    | some .flowSequenceStart, _ =>
      let (items, r) := readFlowItems r.mark true r.next [] fuel
      (.sequence start items, r)
    | some .flowMappingStart, _ =>
      let (entries, r) := readFlowEntries r.mark true r.next [] fuel
      (.mapping start entries, r)
    | some .blockSequenceStart, _ =>
      if context = .flow then readNothing context start tag anchored r
      else
        let (items, r) := readBlockItems r.mark r.next [] fuel
        (.sequence start items, r)
    | some .blockMappingStart, _ =>
      if context = .flow then readNothing context start tag anchored r
      else
        let (entries, r) := readBlockEntries r.mark r.next [] fuel
        (.mapping start entries, r)
    | _, _ => readNothing context start tag anchored r

/-- Read the items of an indented sequence after those of `done`, which is in reverse. -/
def readBlockItems (start : Mark) (r : Rest) (done : List Node) : Nat → List Node × Rest
  | 0 => brokenItems done r
  | fuel + 1 =>
    match r.token? with
    | some .blockEntry =>
      if r.next.nextIs fun t => t == .blockEntry || t == .blockEnd then
        readBlockItems start r.next (.empty :: done) fuel
      else
        let (n, r) := readNode .block r.next fuel
        if r.error.isSome then ((n :: done).reverse, r)
        else readBlockItems start r (n :: done) fuel
    | some .blockEnd => (done.reverse, r.next)
    | _ =>
      brokenItems done
        (r.fail "did not find expected '-' indicator" "parsing a block collection" start)

/-- Read the items of a sequence that is not indented. -/
def readItems (r : Rest) (done : List Node) : Nat → List Node × Rest
  | 0 => brokenItems done r
  | fuel + 1 =>
    match r.token? with
    | some .blockEntry =>
      if r.next.nextIs endsItem then readItems r.next (.empty :: done) fuel
      else
        let (n, r) := readNode .block r.next fuel
        if r.error.isSome then ((n :: done).reverse, r) else readItems r (n :: done) fuel
    | _ =>
      let r := r.check
      if r.error.isSome then brokenItems done r else (done.reverse, r)

/-- Read the entries of a block mapping. -/
def readBlockEntries (start : Mark) (r : Rest) (done : List (Node × Node)) :
    Nat → List (Node × Node) × Rest
  | 0 => brokenEntries done r
  | fuel + 1 =>
    match r.token? with
    | some .key =>
      let (k, r) := readEntryPart r.next fuel
      let (v, r) := if r.nextIs (· == .value) then readEntryPart r.next fuel else (.empty, r)
      if r.error.isSome then (((k, v) :: done).reverse, r)
      else readBlockEntries start r ((k, v) :: done) fuel
    | some .blockEnd => (done.reverse, r.next)
    | _ =>
      brokenEntries done (r.fail "did not find expected key" "parsing a block mapping" start)

/-- Read a key or value of a block mapping, which may be missing. -/
def readEntryPart (r : Rest) : Nat → Node × Rest
  | 0 => (.broken, r)
  | fuel + 1 => if r.nextIs endsEntry then (.empty, r) else readNode .entry r fuel

/-- Read the items between brackets.  A key among them is a mapping of one entry. -/
def readFlowItems (start : Mark) (first : Bool) (r : Rest) (done : List Node) :
    Nat → List Node × Rest
  | 0 => brokenItems done r
  | fuel + 1 =>
    if r.nextIs (· == .flowSequenceEnd) then (done.reverse, r.next)
    else if !first && !r.nextIs (· == .flowEntry) then
      brokenItems done
        (r.fail "did not find expected ',' or ']'" "parsing a flow sequence" start)
    else
      let r := if first then r else r.next
      match r.token? with
      | some .key =>
        let mark := r.mark
        let (k, r) := readFlowItemKey r.next fuel
        let (v, r) := readFlowValue .flowSequenceEnd r fuel
        let n := Node.mapping mark [(k, v)]
        if r.error.isSome then ((n :: done).reverse, r)
        else readFlowItems start false r (n :: done) fuel
      | some .flowSequenceEnd => (done.reverse, r.next)
      | _ =>
        let (n, r) := readNode .flow r fuel
        if r.error.isSome then ((n :: done).reverse, r)
        else readFlowItems start false r (n :: done) fuel

/-- Read the key of a single entry between brackets.  Where it is missing, the token in its
place is passed over. -/
def readFlowItemKey (r : Rest) : Nat → Node × Rest
  | 0 => (.broken, r)
  | fuel + 1 =>
    if r.nextIs fun t => t == .value || endsFlow .flowSequenceEnd t then (.empty, r.next)
    else readNode .flow r fuel

/-- Read the value of an entry in brackets or braces, which may be missing. -/
def readFlowValue (close : Token) (r : Rest) : Nat → Node × Rest
  | 0 => (.broken, r)
  | fuel + 1 =>
    let r := r.check
    if r.error.isSome then (.broken, r)
    else if r.nextIs (· == .value) then
      if r.next.nextIs (endsFlow close) then (.empty, r.next) else readNode .flow r.next fuel
    else (.empty, r)

/-- Read the entries between braces.  A node that is no key has no value. -/
def readFlowEntries (start : Mark) (first : Bool) (r : Rest) (done : List (Node × Node)) :
    Nat → List (Node × Node) × Rest
  | 0 => brokenEntries done r
  | fuel + 1 =>
    if r.nextIs (· == .flowMappingEnd) then (done.reverse, r.next)
    else if !first && !r.nextIs (· == .flowEntry) then
      brokenEntries done
        (r.fail "did not find expected ',' or '\x7d'" "parsing a flow mapping" start)
    else
      let r := if first then r else r.next
      match r.token? with
      | some .key =>
        let (k, r) := readFlowKey r.next fuel
        let (v, r) := readFlowValue .flowMappingEnd r fuel
        if r.error.isSome then (((k, v) :: done).reverse, r)
        else readFlowEntries start false r ((k, v) :: done) fuel
      | some .flowMappingEnd => (done.reverse, r.next)
      | _ =>
        let (k, r) := readNode .flow r fuel
        if r.error.isSome then (((k, .broken) :: done).reverse, r)
        else readFlowEntries start false r ((k, .empty) :: done) fuel

/-- Read the key of an entry between braces, which may be missing. -/
def readFlowKey (r : Rest) : Nat → Node × Rest
  | 0 => (.broken, r)
  | fuel + 1 =>
    if r.nextIs fun t => t == .value || endsFlow .flowMappingEnd t then (.empty, r)
    else readNode .flow r fuel

end

/-! ## Documents -/

def endsDocument (t : Token) : Bool :=
  match t with
  | .versionDirective _ _ => true
  | .tagDirective _ _ => true
  | .documentStart => true
  | .documentEnd => true
  | _ => false

/-- What is wrong after the root of a document: no second document may follow. -/
def trailingError (r : Rest) : Option Error :=
  match r.error, r.tokens.list.dropWhile (·.token == .documentEnd) with
  | some e, _ => some e
  | none, _ :: _ => some .severalDocuments
  | none, [] =>
    if r.tokens.list.isEmpty then r.tokens.error
    else r.tokens.error.map fun _ => .severalDocuments

/-- Read the root of a document, which may be missing after an explicit start. -/
def readRoot (implicit : Bool) (d : Directives) (ts : Tokens) : Document :=
  let r : Rest := ⟨ts, Anchors.none, d.handles ++ defaultHandles, none⟩
  let isMissing := !implicit && r.token?.all endsDocument && !r.check.error.isSome
  let (root, r) := if isMissing then (.empty, r) else readNode .block r (8 * ts.list.length + 8)
  ⟨some root, r.anchors, trailingError r⟩

/-- A document of which nothing can be read. -/
def Document.unreadable (e : Error) : Document := ⟨some .broken, Anchors.none, some e⟩

/-- Read the document that starts with directives or with a marker. -/
def readExplicit (ts : Tokens) : Document :=
  match Directives.read ⟨false, []⟩ ts.list with
  | .error e => .unreadable e
  | .ok (d, list) =>
    match list, ts.error with
    | ⟨.documentStart, _⟩ :: rest, _ => readRoot false d { ts with list := rest }
    | [], some e => .unreadable e
    | list, _ =>
      let mark := (list.head?.map (·.mark)).getD ts.last
      .unreadable (.malformed "did not find expected <document start>" mark none)

/-- Read the one document of a text. -/
def Document.ofText (s : List Char) : Document :=
  let ts := Tokens.ofText s
  match ts.list, ts.error with
  | [], none => ⟨none, Anchors.none, none⟩
  | [], some e => .unreadable e
  | t :: _, _ =>
    if t.token != .documentEnd && endsDocument t.token then readExplicit ts
    else readRoot true ⟨false, []⟩ ts

end ChatRelay.Yaml
