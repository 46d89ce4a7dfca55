import EntityForge.Yaml.Refusal

/-!
# YAML tokens

A YAML text is a sequence of tokens. Besides those that are written there are tokens for what
indentation says: the beginning and the end of block collections.
-/

set_option autoImplicit false

namespace EntityForge.Yaml

/-- What a token is. -/
inductive TokenKind where
  /-- The end of the text. -/
  | streamEnd
  /-- A directive that states the version. -/
  | version (major minor : Nat)
  /-- A directive that states what a tag's handle stands for. -/
  | tagHandle (handle expansion : List Char)
  /-- The mark that begins a document. -/
  | documentStart
  /-- The mark that ends a document. -/
  | documentEnd
  /-- The beginning of a list by indentation. -/
  | blockListStart
  /-- The beginning of a mapping by indentation. -/
  | blockMappingStart
  /-- The end of a collection by indentation. -/
  | blockEnd
  /-- An opening bracket. -/
  | flowListStart
  /-- A closing bracket. -/
  | flowListEnd
  /-- An opening brace. -/
  | flowMappingStart
  /-- A closing brace. -/
  | flowMappingEnd
  /-- The hyphen before an item. -/
  | blockEntry
  /-- The comma after an entry. -/
  | flowEntry
  /-- The beginning of a key. -/
  | key
  /-- The colon before a value. -/
  | value
  /-- A reference to an anchored node. -/
  | reference (name : List Char)
  /-- The anchor of a node. -/
  | anchor (name : List Char)
  /-- The tag of a node. -/
  | tag (handle suffix : List Char)
  /-- A scalar, and whether it is plain. -/
  | scalar (text : List Char) (plain : Bool)
deriving DecidableEq, Repr

/-- A token with the place where it begins. -/
structure Token where
  /-- What the token is. -/
  kind : TokenKind
  /-- Where it begins. -/
  mark : Mark
deriving DecidableEq, Repr

end EntityForge.Yaml
