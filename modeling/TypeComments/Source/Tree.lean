import TypeComments.Source.Grammar

/-!
Concrete trees. A tree keeps every token, so it has the text of its source; a rule with a single child
is left out and the child stands in its place.
-/

namespace TypeComments.Source

/-- A tree of tokens. -/
inductive Tree where
  | leaf (t : Token)
  | node (rule : Rule) (children : List Tree)

namespace Tree

mutual

/-- The tokens of a tree from left to right. -/
def leaves : Tree → List Token
  | .leaf t => [t]
  | .node _ children => leavesAll children

@[inherit_doc leaves]
def leavesAll : List Tree → List Token
  | [] => []
  | t :: rest => t.leaves ++ leavesAll rest

end

def source (t : Tree) : List Char :=
  t.leaves.flatMap Token.source

mutual

/-- The tree with each token changed. -/
def mapTokens (e : Token → Token) : Tree → Tree
  | .leaf t => .leaf (e t)
  | .node rule parts => .node rule (mapTokensAll e parts)

@[inherit_doc mapTokens]
def mapTokensAll (e : Token → Token) : List Tree → List Tree
  | [] => []
  | t :: rest => t.mapTokens e :: mapTokensAll e rest

end

/-- The tree of a rule over its children; a single child stands for itself. -/
def ofChildren (rule : Rule) : List Tree → Tree
  | [child] => child
  | children => .node rule children

def isNode (rule : Rule) : Tree → Bool
  | .node r _ => r = rule
  | .leaf _ => false

def isLeaf (kind : Kind) : Tree → Bool
  | .leaf t => t.kind = kind
  | .node _ _ => false

/-- The operator or word `text`. -/
def isWord (text : String) : Tree → Bool
  | .leaf t => t.text == text.toList
  | .node _ _ => false

/-- The children of a tree; a token has none. -/
def children : Tree → List Tree
  | .leaf _ => []
  | .node _ cs => cs

end Tree

end TypeComments.Source
