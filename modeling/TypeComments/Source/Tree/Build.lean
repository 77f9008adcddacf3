import TypeComments.Source.Tree

/-!
Building the tree of a list of tokens. The reader keeps a stack of the rules that it is inside of,
innermost first, each with what may still follow in it and the trees read so far. A token closes the
rules that cannot take it, opens the rules that lead down to it and becomes a leaf; then the rules in
which nothing may follow are closed.
-/

namespace TypeComments.Source

/-- Why a token is refused. -/
inductive Refusal where
  /-- It is no token of the language. -/
  | badToken (t : Token)
  /-- The grammar has another token here. -/
  | badInput (t : Token)
  /-- There is no such operator. -/
  | unknownOperator (text : List Char)

/-- The class of a token. `printWord` says whether `print` is a keyword. -/
def Token.terminal (printWord : Bool) (t : Token) : Except Refusal Terminal :=
  match t.kind with
  | .stray => .error (.badToken t)
  | .operator =>
    if (operatorCode? t.text).isSome then .ok (.word t.text) else .error (.unknownOperator t.text)
  | .name =>
    if keywords.contains t.text && (printWord || t.text != "print".toList) then .ok (.word t.text)
    else .ok (.kind .name)
  | kind => .ok (.kind kind)

/-- A rule that is being read. -/
structure Frame where
  rule : Rule
  /-- What may still follow. -/
  rest : List Rx
  /-- The trees read so far, last first. -/
  trees : List Tree

namespace Frame

def start (rule : Rule) : Frame :=
  ⟨rule, [rule.body], []⟩

/-- The parts that may follow. -/
def firsts (f : Frame) : List Part :=
  f.rest.flatMap Rx.firsts

/-- The part that may follow and can start with `t`. -/
def next? (t : Terminal) (f : Frame) : Option Part :=
  f.firsts.find? (·.startsWith t ruleDepth)

def mayEnd (f : Frame) : Bool :=
  f.rest.any Rx.nullable

def mustEnd (f : Frame) : Bool :=
  f.mayEnd && f.firsts.isEmpty

/-- Read past the part `p`. -/
def pass (p : Part) (f : Frame) : Frame :=
  { f with rest := (f.rest.flatMap (·.after p)).eraseDups }

def add (f : Frame) (t : Tree) : Frame :=
  { f with trees := t :: f.trees }

/-- The tree of a rule that has ended. -/
def close (f : Frame) : Tree :=
  .ofChildren f.rule f.trees.reverse

end Frame

/-- Close rules until one can take `t`; `none` if a rule can neither take it nor end. -/
def closeFor (t : Terminal) : Frame → List Frame → Option (Frame × List Frame)
  | f, [] => if (f.next? t).isSome then some (f, []) else none
  | f, below :: rest =>
    if (f.next? t).isSome then some (f, below :: rest)
    else if f.mayEnd then closeFor t (below.add f.close) rest
    else none

/-- Open the rules that lead down to `t`, and read past it. -/
def openFor (t : Terminal) (leaf : Tree) : Nat → Frame → List Frame → Option (Frame × List Frame)
  | 0, _, _ => none
  | fuel + 1, f, below =>
    match f.next? t with
    | none => none
    | some (.terminal u) => some ((f.pass (.terminal u)).add leaf, below)
    | some (.rule r) => openFor t leaf fuel (.start r) (f.pass (.rule r) :: below)

/-- Close the rules in which nothing may follow. -/
def closeEnded : Frame → List Frame → Tree ⊕ (Frame × List Frame)
  | f, [] => if f.mustEnd then .inl f.close else .inr (f, [])
  | f, below :: rest =>
    if f.mustEnd then closeEnded (below.add f.close) rest else .inr (f, below :: rest)

def readToken (printWord : Bool) (f : Frame) (below : List Frame) (t : Token) :
    Except Refusal (Tree ⊕ (Frame × List Frame)) := do
  let terminal ← t.terminal printWord
  match (closeFor terminal f below).bind fun (f, below) =>
      openFor terminal (.leaf t) ruleDepth f below with
  | none => throw (.badInput t)
  | some (f, below) => pure (closeEnded f below)

/-- Read tokens until the outermost rule ends. -/
def readTokens (printWord : Bool) (f : Frame) (below : List Frame) :
    List Token → Except Refusal (Option Tree)
  | [] => .ok none
  | t :: rest => do
    match ← readToken printWord f below t with
    | .inl tree => pure (some tree)
    | .inr (f, below) => readTokens printWord f below rest

/-- The tree of a list of tokens; `none` if the list ends too early. -/
def buildTree (printWord : Bool) (tokens : List Token) : Except Refusal (Option Tree) :=
  readTokens printWord (.start .fileInput) [] tokens

end TypeComments.Source
