import TypeComments.Text.Blank
import TypeComments.Text.Case
import TypeComments.Text.Lines

/-!
The tree of a marked-up text. Leaves hold inline content, groups hold other nodes, and a problem of the
markup leaves a message where it occurs.
-/

namespace TypeComments.Markup

/-- How bad a problem is. -/
inductive Severity where
  | info
  | warning
  | error
  deriving DecidableEq

/-- A problem of the markup and the line it is found on. -/
structure Problem where
  severity : Severity
  line : Option Nat
  text : List Char
  deriving DecidableEq

/-- How a piece of text is marked. -/
inductive Mark where
  | emphasis
  | strong
  | literal
  /-- A start of markup that has no end; it is kept as written. -/
  | problem
  deriving DecidableEq

/-- What a reference points to. -/
inductive Target where
  | named (name : List Char)
  | anonymous
  /-- A footnote or citation by its label. -/
  | note (label : List Char)
  /-- A footnote that is numbered automatically. -/
  | numberedNote
  /-- A footnote with an automatic symbol. -/
  | symbolNote
  deriving DecidableEq

/-- A piece of inline content. -/
inductive Inline where
  | text (s : List Char)
  | marked (mark : Mark) (s : List Char)
  /-- A reference: the text it shows if its target is there, and the text as written. -/
  | reference (target : Target) (shown source : List Char)
  /-- A substitution, perhaps with a link from it, and the text as written. -/
  | substitution (name : List Char) (link : Option Target) (source : List Char)
  deriving DecidableEq

/-- The kinds of leaves. -/
inductive LeafKind where
  | paragraph
  | title
  | subtitle
  | term
  | classifier
  | attribution
  | fieldName
  | option
  | verse
  | literalBlock
  | doctest
  | comment
  | target
  | anonymousTarget
  | transition
  /-- A line of bibliographic data. -/
  | biblio
  deriving DecidableEq

/-- The kinds of groups. -/
inductive GroupKind where
  | section
  | bulletList
  | enumeratedList
  | listItem
  | definitionList
  | definitionItem
  | definition
  | blockQuote
  | fieldList
  | field
  | fieldBody
  | optionList
  | optionItem
  | options
  | description
  | lineBlock
  | footnote
  | admonition
  | docinfo
  | topic
  deriving DecidableEq

/-- A node of the tree, with the line it is placed on. -/
inductive Node where
  | leaf (kind : LeafKind) (line : Option Nat) (content : List Inline)
  | group (kind : GroupKind) (line : Option Nat) (children : List Node)
  /-- A message about a problem, with the source text that it quotes. -/
  | message (problem : Problem) (quote : Option (List Char))

def joinWords (s : List Char) : List Char :=
  List.intercalate [' '] (blankSeparated s)

/-- The name of a target: case and spacing do not count. -/
def normalName (s : List Char) : List Char :=
  joinWords (lower s)

/-- Which targets are there. -/
structure Known where
  names : List (List Char) := []
  /-- Are there as many anonymous targets as references to them? -/
  anonymous : Bool := true

def Known.has (known : Known) : Target → Bool
  | .named name => known.names.contains name
  | .anonymous => known.anonymous
  | .note label => known.names.contains label
  | .numberedNote => false
  | .symbolNote => false

def Inline.render (known : Known) : Inline → List Char
  | .text s => s
  | .marked _ s => s
  | .reference target shown source => if known.has target then shown else source
  | .substitution _ _ source => source

/-- The text between the parts of a group. -/
def GroupKind.separator : GroupKind → List Char
  | .options => ", ".toList
  | .optionItem => "  ".toList
  | _ => "\n\n".toList

def Severity.label : Severity → List Char
  | .info => "INFO/1".toList
  | .warning => "WARNING/2".toList
  | .error => "ERROR/3".toList

/-- A problem with its place, as a text that holds its message shows it. -/
def Problem.placed (p : Problem) : List Char :=
  let line := (p.line.map fun n => (toString n).toList).getD []
  "<string>:".toList ++ line ++ ": (".toList ++ p.severity.label ++ ") ".toList ++ p.text

mutual

/-- The text of a node without its markup. -/
def Node.text (known : Known) : Node → List Char
  | .leaf _ _ content => content.flatMap (·.render known)
  | .group kind _ children => List.intercalate kind.separator (textAll known children)
  | .message p _ => p.placed

@[inherit_doc Node.text]
def textAll (known : Known) : List Node → List (List Char)
  | [] => []
  | n :: rest => n.text known :: textAll known rest

end

mutual

/-- The groups of a kind inside a node and the node itself, in order. -/
def Node.groups (kind : GroupKind) : Node → List Node
  | .leaf .. => []
  | .group k line children =>
    (if k = kind then [.group k line children] else []) ++ groupsAll kind children
  | .message .. => []

@[inherit_doc Node.groups]
def groupsAll (kind : GroupKind) : List Node → List Node
  | [] => []
  | n :: rest => n.groups kind ++ groupsAll kind rest

end

/-- The first line of a message. -/
def firstPart (p : Problem) (quote : Option (List Char)) : List Char :=
  match quote with
  | none => p.text
  | some q => p.text.take (p.text.length - q.length - 2)

mutual

/-- The paragraphs of a node with their lines. A message has one without a line. -/
def Node.paragraphs (known : Known) : Node → List (List Char × Option Nat)
  | .leaf kind line content =>
    if kind = .paragraph then [(content.flatMap (·.render known), line)] else []
  | .group _ _ children => paragraphsAll known children
  | .message p quote => [(firstPart p quote, none)]

@[inherit_doc Node.paragraphs]
def paragraphsAll (known : Known) : List Node → List (List Char × Option Nat)
  | [] => []
  | n :: rest => n.paragraphs known ++ paragraphsAll known rest

end

mutual

/-- The inline content of a node, piece by piece, each with the line of the nearest node around it that
is placed on one. -/
def Node.pieces (line : Option Nat) : Node → List (Inline × Option Nat)
  | .leaf _ own content => content.map (·, own <|> line)
  | .group _ own children => piecesAll (own <|> line) children
  | .message .. => []

@[inherit_doc Node.pieces]
def piecesAll (line : Option Nat) : List Node → List (Inline × Option Nat)
  | [] => []
  | n :: rest => n.pieces line ++ piecesAll line rest

end

/-- May this node stand in front of the bibliographic fields? -/
def Node.precedesFields : Node → Bool
  | .leaf kind _ _ => kind == .title || kind == .subtitle || kind == .comment || kind == .target ||
    kind == .anonymousTarget
  | .message .. => true
  | .group .. => false

/-- A document: its tree, and the targets that its references find. -/
structure Document where
  nodes : List Node
  known : Known

/-- What comes of reading a text: a document, unless there is a severe problem, and all problems in the
order in which they are found. -/
structure Reading where
  document : Option Document
  problems : List Problem

end TypeComments.Markup
