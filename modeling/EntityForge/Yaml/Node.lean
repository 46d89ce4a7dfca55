import EntityForge.Yaml.Tokens

/-!
# Nodes of a document

A document is a tree of scalars, lists and mappings, in which a reference stands for a node that
has an anchor. Tokens are numbered first (`numbered?`): an anchor gets the number of different
anchor names before it, and a reference gets the number of the latest anchor of its name. The node
that a reference stands for is the last one in the document whose anchor has this number.

The tree is then built from the tokens by their grammar. A node may be missing where one could
stand; it counts as an empty plain scalar.
-/

set_option autoImplicit false

namespace EntityForge.Yaml

/-- What a node has besides its content. -/
structure Properties where
  /-- Where the node begins. -/
  mark : Mark
  /-- The number of its anchor. -/
  anchor : Option Nat
  /-- Its full tag. -/
  tag : Option (List Char)

/-- A node of a document. -/
inductive Node where
  /-- A scalar, and whether it is plain. -/
  | scalar (properties : Properties) (text : List Char) (plain : Bool)
  /-- A list of nodes. -/
  | list (properties : Properties) (items : List Node)
  /-- A mapping of keys to values in the order of the text. -/
  | mapping (properties : Properties) (entries : List (Node × Node))
  /-- The node whose anchor has a number. -/
  | reference (mark : Mark) (anchor : Nat)
deriving Inhabited

/-! ## Anchors -/

/-- The numbers of anchor names, the latest first. -/
abbrev AnchorNumbers : Type := List (List Char × Nat)

/-- Numbers a new anchor; a name that was there gets a new number. -/
def AnchorNumbers.add (numbers : AnchorNumbers) (name : List Char) : AnchorNumbers :=
  (name, numbers.length) :: numbers.filter (fun entry => entry.1 != name)

/-- A token in which anchors have numbers. -/
inductive Numbered where
  /-- The anchor of a node. -/
  | anchor (number : Nat)
  /-- A reference to an anchor. -/
  | reference (number : Nat)
  /-- Any other token. -/
  | other (kind : TokenKind)
deriving DecidableEq, Repr

/-- A token in which anchors have numbers, with the place where it begins. -/
abbrev NumberedToken : Type := Numbered × Mark

/-- Numbers the anchors; a reference to a name that was not there before is refused. -/
def numbered? : AnchorNumbers → List Token → Option (List NumberedToken)
  | _, [] => some []
  | numbers, ⟨.anchor name, mark⟩ :: tokens =>
    (numbered? (numbers.add name) tokens).map ((.anchor numbers.length, mark) :: ·)
  | numbers, ⟨.reference name, mark⟩ :: tokens =>
    match numbers.lookup name with
    | none => none
    | some number => (numbered? numbers tokens).map ((.reference number, mark) :: ·)
  | numbers, ⟨kind, mark⟩ :: tokens =>
    (numbered? numbers tokens).map ((.other kind, mark) :: ·)

/-! ## Properties -/

/-- What the handles of tags stand for. -/
abbrev TagHandles : Type := List (List Char × List Char)

/-- The handles that every document has. -/
def standardHandles : TagHandles :=
  [(['!'], ['!']), (['!', '!'], "tag:yaml.org,2002:".toList)]

/-- The full tag of a handle and a suffix; none if the handle is not known. -/
def TagHandles.expand (handles : TagHandles) (handle suffix : List Char) : Option (List Char) :=
  if handle.isEmpty then some suffix
  else
    match handles.lookup handle with
    | some expansion => some (expansion ++ suffix)
    | none => none

/-- A node's properties and the tokens after them. -/
abbrev PropertyStep : Type := Properties × List NumberedToken

/-- Reads an anchor if one begins here. -/
def readAnchorToken (properties : Properties) : List NumberedToken → PropertyStep
  | (.anchor number, _) :: tokens => ({ properties with anchor := some number }, tokens)
  | tokens => (properties, tokens)

/-- Reads a tag if one begins here. -/
def readTagToken (handles : TagHandles) (properties : Properties) :
    List NumberedToken → Option PropertyStep
  | (.other (.tag handle suffix), _) :: tokens =>
    match handles.expand handle suffix with
    | some tag => some ({ properties with tag := some tag }, tokens)
    | none => none
  | tokens => some (properties, tokens)

/-- Reads an anchor and a tag, in either order, if they are there. -/
def readProperties (handles : TagHandles) (mark : Mark) (tokens : List NumberedToken) :
    Option PropertyStep :=
  let bare : Properties := ⟨mark, none, none⟩
  match tokens with
  | (.anchor _, _) :: _ =>
    let (properties, tokens) := readAnchorToken bare tokens
    readTagToken handles properties tokens
  | _ =>
    match readTagToken handles bare tokens with
    | some (properties, rest) =>
      if properties.tag.isSome then some (readAnchorToken properties rest)
      else some (properties, rest)
    | none => none

/-! ## The grammar -/

/-- A node that is missing. -/
def missing (mark : Mark) : Node := .scalar ⟨mark, none, none⟩ [] true

/-- Whether the next token is one of some kinds. -/
def nextIs (kinds : List TokenKind) : List NumberedToken → Bool
  | (.other kind, _) :: _ => kinds.contains kind
  | _ => false

/-- The place of the next token. -/
def nextMark : List NumberedToken → Mark
  | (_, mark) :: _ => mark
  | [] => ⟨0, 0, 0⟩

/-- Where a node stands: whether it may be a block collection, and whether it may be a list that is
not indented. -/
structure Place where
  /-- Whether it may be a block collection. -/
  block : Bool
  /-- Whether it may be a list that is not indented. -/
  flush : Bool

/-- A place that is a value of a block mapping. -/
def Place.blockValue : Place := ⟨true, true⟩

/-- A place that is an item of a block list, or a whole document. -/
def Place.blockItem : Place := ⟨true, false⟩

/-- A place inside a flow collection. -/
def Place.flow : Place := ⟨false, false⟩

/-- What a step of the grammar gives: something and the tokens after it; none if malformed. -/
abbrev Grown (α : Type) : Type := Option (α × List NumberedToken)

/-- The empty scalar of a node that has only properties; without any it is malformed. -/
def emptyNode (properties : Properties) (tokens : List NumberedToken) : Grown Node :=
  if properties.anchor.isSome || properties.tag.isSome then
    some (.scalar properties [] true, tokens)
  else none

mutual

/-- Builds a node. -/
def node (handles : TagHandles) (fuel : Nat) (place : Place) (tokens : List NumberedToken) :
    Grown Node :=
  match fuel with
  | 0 => none
  | fuel + 1 =>
    match tokens with
    | (.reference number, mark) :: rest => some (.reference mark number, rest)
    | _ =>
      match readProperties handles (nextMark tokens) tokens with
      | none => none
      | some (properties, tokens) =>
        match tokens with
        | (.other .blockEntry, _) :: _ =>
          if place.flush then
            (flushItems handles fuel tokens).map fun (items, rest) => (.list properties items, rest)
          else emptyNode properties tokens
        | (.other (.scalar text plain), _) :: rest =>
          let tag := if properties.tag = some ['!'] then none else properties.tag
          some (.scalar { properties with tag := tag } text plain, rest)
        | (.other .flowListStart, _) :: rest =>
          (flowItems handles fuel true rest).map fun (items, rest) => (.list properties items, rest)
        | (.other .flowMappingStart, _) :: rest =>
          (flowEntries handles fuel true rest).map fun (entries, rest) =>
            (.mapping properties entries, rest)
        | (.other .blockListStart, _) :: rest =>
          if place.block then
            (blockItems handles fuel rest).map fun (items, rest) => (.list properties items, rest)
          else emptyNode properties tokens
        | (.other .blockMappingStart, _) :: rest =>
          if place.block then
            (blockEntries handles fuel rest).map fun (entries, rest) =>
              (.mapping properties entries, rest)
          else emptyNode properties tokens
        | _ => emptyNode properties tokens

/-- Builds a node unless the next token is one before which it is missing. -/
def nodeUnless (handles : TagHandles) (fuel : Nat) (stops : List TokenKind) (place : Place)
    (tokens : List NumberedToken) : Grown Node :=
  match fuel with
  | 0 => none
  | fuel + 1 =>
    if nextIs stops tokens then some (missing (nextMark tokens), tokens)
    else node handles fuel place tokens

/-- Builds the items of a block list. -/
def blockItems (handles : TagHandles) (fuel : Nat) (tokens : List NumberedToken) :
    Grown (List Node) :=
  match fuel with
  | 0 => none
  | fuel + 1 =>
    match tokens with
    | (.other .blockEntry, _) :: rest =>
      match nodeUnless handles fuel [.blockEntry, .blockEnd] .blockItem rest with
      | none => none
      | some (item, rest) =>
        (blockItems handles fuel rest).map fun (items, rest) => (item :: items, rest)
    | (.other .blockEnd, _) :: rest => some ([], rest)
    | _ => none

/-- Builds the items of a block list that is not indented; any other token ends it. -/
def flushItems (handles : TagHandles) (fuel : Nat) (tokens : List NumberedToken) :
    Grown (List Node) :=
  match fuel with
  | 0 => none
  | fuel + 1 =>
    match tokens with
    | (.other .blockEntry, _) :: rest =>
      match nodeUnless handles fuel [.blockEntry, .key, .value, .blockEnd] .blockItem rest with
      | none => none
      | some (item, rest) =>
        (flushItems handles fuel rest).map fun (items, rest) => (item :: items, rest)
    | _ => some ([], tokens)

/-- Builds the entries of a block mapping. -/
def blockEntries (handles : TagHandles) (fuel : Nat) (tokens : List NumberedToken) :
    Grown (List (Node × Node)) :=
  match fuel with
  | 0 => none
  | fuel + 1 =>
    match tokens with
    | (.other .key, _) :: rest =>
      match nodeUnless handles fuel [.key, .value, .blockEnd] .blockValue rest with
      | none => none
      | some (key, rest) => blockValue handles fuel key rest
    | (.other .blockEnd, _) :: rest => some ([], rest)
    | _ => none

/-- Builds the value of a key of a block mapping, and the entries after it. -/
def blockValue (handles : TagHandles) (fuel : Nat) (key : Node) (tokens : List NumberedToken) :
    Grown (List (Node × Node)) :=
  match fuel with
  | 0 => none
  | fuel + 1 =>
    let value : Grown Node :=
      match tokens with
      | (.other .value, _) :: rest =>
        nodeUnless handles fuel [.key, .value, .blockEnd] .blockValue rest
      | _ => some (missing (nextMark tokens), tokens)
    match value with
    | none => none
    | some (value, rest) =>
      (blockEntries handles fuel rest).map fun (entries, rest) => ((key, value) :: entries, rest)

/-- Builds the items of a flow list; `first` says that none has been built. -/
def flowItems (handles : TagHandles) (fuel : Nat) (first : Bool) (tokens : List NumberedToken) :
    Grown (List Node) :=
  match fuel with
  | 0 => none
  | fuel + 1 =>
    match tokens with
    | (.other .flowListEnd, _) :: rest => some ([], rest)
    | _ =>
      let begun :=
        if first then some tokens
        else
          match tokens with
          | (.other .flowEntry, _) :: rest => some rest
          | _ => none
      match begun with
      | none => none
      | some ((.other .flowListEnd, _) :: rest) => some ([], rest)
      | some ((.other .key, mark) :: rest) =>
        match flowPair handles fuel rest with
        | none => none
        | some (pair, rest) =>
          (flowItems handles fuel false rest).map fun (items, rest) =>
            (.mapping ⟨mark, none, none⟩ [pair] :: items, rest)
      | some tokens =>
        match node handles fuel .flow tokens with
        | none => none
        | some (item, rest) =>
          (flowItems handles fuel false rest).map fun (items, rest) => (item :: items, rest)

/-- Builds a key and its value that are an item of a flow list. Where the key is missing, the token
in its place is passed over. -/
def flowPair (handles : TagHandles) (fuel : Nat) (tokens : List NumberedToken) :
    Grown (Node × Node) :=
  match fuel with
  | 0 => none
  | fuel + 1 =>
    let key : Grown Node :=
      if nextIs [.value, .flowEntry, .flowListEnd] tokens then
        some (missing (nextMark tokens), tokens.drop 1)
      else node handles fuel .flow tokens
    match key with
    | none => none
    | some (key, rest) =>
      let value : Grown Node :=
        match rest with
        | (.other .value, _) :: rest =>
          nodeUnless handles fuel [.flowEntry, .flowListEnd] .flow rest
        | _ => some (missing (nextMark rest), rest)
      value.map fun (value, rest) => ((key, value), rest)

/-- Builds the entries of a flow mapping; `first` says that none has been built. -/
def flowEntries (handles : TagHandles) (fuel : Nat) (first : Bool) (tokens : List NumberedToken) :
    Grown (List (Node × Node)) :=
  match fuel with
  | 0 => none
  | fuel + 1 =>
    match tokens with
    | (.other .flowMappingEnd, _) :: rest => some ([], rest)
    | _ =>
      let begun :=
        if first then some tokens
        else
          match tokens with
          | (.other .flowEntry, _) :: rest => some rest
          | _ => none
      match begun with
      | none => none
      | some ((.other .flowMappingEnd, _) :: rest) => some ([], rest)
      | some ((.other .key, _) :: rest) =>
        match nodeUnless handles fuel [.value, .flowEntry, .flowMappingEnd] .flow rest with
        | none => none
        | some (key, rest) => flowValue handles fuel key rest
      | some tokens =>
        match node handles fuel .flow tokens with
        | none => none
        | some (key, rest) =>
          (flowEntries handles fuel false rest).map fun (entries, rest) =>
            ((key, missing (nextMark rest)) :: entries, rest)

/-- Builds the value of a key of a flow mapping, and the entries after it. -/
def flowValue (handles : TagHandles) (fuel : Nat) (key : Node) (tokens : List NumberedToken) :
    Grown (List (Node × Node)) :=
  match fuel with
  | 0 => none
  | fuel + 1 =>
    let value : Grown Node :=
      match tokens with
      | (.other .value, _) :: rest =>
        nodeUnless handles fuel [.flowEntry, .flowMappingEnd] .flow rest
      | _ => some (missing (nextMark tokens), tokens)
    match value with
    | none => none
    | some (value, rest) =>
      (flowEntries handles fuel false rest).map fun (entries, rest) =>
        ((key, value) :: entries, rest)

end

/-! ## Documents -/

/-- What the directives of a document state. -/
structure Directives where
  /-- Whether a version is stated. -/
  versioned : Bool
  /-- The handles that are stated. -/
  handles : TagHandles

/-- Reads the directives before a document. -/
def readDirectives : Directives → List NumberedToken → Option (Directives × List NumberedToken)
  | directives, (.other (.version major minor), _) :: tokens =>
    if directives.versioned || major != 1 || !(minor == 1 || minor == 2) then none
    else readDirectives { directives with versioned := true } tokens
  | directives, (.other (.tagHandle handle expansion), _) :: tokens =>
    if (directives.handles.lookup handle).isSome then none
    else
      readDirectives { directives with handles := directives.handles ++ [(handle, expansion)] }
        tokens
  | directives, tokens => some (directives, tokens)

/-- Whether only marks that end a document are left. -/
def isOver : List NumberedToken → Bool
  | (.other .documentEnd, _) :: tokens => isOver tokens
  | [(.other .streamEnd, _)] => true
  | _ => false

/-- Whether a document has no content before a token. -/
def endsContent : List NumberedToken → Bool
  | (.other (.version _ _), _) :: _ => true
  | (.other (.tagHandle _ _), _) :: _ => true
  | tokens => nextIs [.documentStart, .documentEnd, .streamEnd] tokens

/-- The content of a document. -/
def content (handles : TagHandles) (tokens : List NumberedToken) : Grown Node :=
  node (handles ++ standardHandles) (2 * tokens.length + 2) .blockItem tokens

/-- The only document of a text, if it has content; the outer none means that it is malformed. -/
def document? (tokens : List NumberedToken) : Option (Option Node) :=
  match tokens with
  | [(.other .streamEnd, _)] => some none
  | _ =>
    let grown : Grown Node :=
      match readDirectives ⟨false, []⟩ tokens with
      | none => none
      | some (directives, rest) =>
        match rest with
        | (.other .documentStart, _) :: rest =>
          if endsContent rest then some (missing (nextMark rest), rest)
          else content directives.handles rest
        | _ =>
          if directives.versioned || !directives.handles.isEmpty then none else content [] rest
    match grown with
    | none => none
    | some (root, rest) => if isOver rest then some (some root) else none

/-- The only document of a text, if it has content; the outer none means that it is malformed. -/
def parse? (text : List Char) : Option (Option Node) :=
  ((tokens? text).bind (numbered? [])).bind document?

/-! ## References -/

/-- What a node has besides its content, unless it is a reference. -/
def Node.properties? : Node → Option Properties
  | .scalar properties _ _ => some properties
  | .list properties _ => some properties
  | .mapping properties _ => some properties
  | .reference _ _ => none

/-- Where a node begins. -/
def Node.mark : Node → Mark
  | .scalar properties _ _ => properties.mark
  | .list properties _ => properties.mark
  | .mapping properties _ => properties.mark
  | .reference mark _ => mark

mutual

/-- A node with all nodes in it, in the order of the text. -/
def Node.all : Node → List Node
  | .scalar properties text plain => [.scalar properties text plain]
  | .list properties items => .list properties items :: allItems items
  | .mapping properties entries => .mapping properties entries :: allEntries entries
  | .reference mark anchor => [.reference mark anchor]

/-- All nodes in items. -/
def allItems : List Node → List Node
  | [] => []
  | item :: items => item.all ++ allItems items

/-- All nodes in entries. -/
def allEntries : List (Node × Node) → List Node
  | [] => []
  | entry :: entries => entry.1.all ++ entry.2.all ++ allEntries entries

end

/-- The node in a document that a node stands for. -/
def Node.resolve (root : Node) : Node → Node
  | .reference mark number =>
    let isMeant (candidate : Node) : Bool :=
      candidate.properties?.any (fun properties => properties.anchor == some number)
    (root.all.reverse.find? isMeant).getD (missing mark)
  | found => found

end EntityForge.Yaml
