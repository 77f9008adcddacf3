import TypeComments.Markup.Build
import TypeComments.Markup.Marker
import TypeComments.Text.Width

/-!
The blocks of a marked-up text: paragraphs, lists, quotations, literal text, explicit markup and
section titles. A block is recognised by the marker of its first line; what belongs to it is found by
indentation and read by `inner`, so a step of the reading looks at no line twice. Section titles count
at the outermost level only.
-/

namespace TypeComments.Markup

open Build

/-- A part of a text: a node, or the heading that opens a section. -/
inductive Part where
  | node (n : Node)
  | heading (level : Nat) (title : List Node)

/-- The nodes of a list of parts, headings apart. -/
def Part.nodes (parts : List Part) : List Node :=
  parts.filterMap fun
    | .node n => some n
    | .heading .. => none

/-- Reads the inside of a block. -/
abbrev Inner := List Line → Build (List Node)

/-- A block at the start of some lines, and the lines after it. -/
structure Step where
  parts : List Part
  rest : List Line
  /-- Has the end of the block been found by looking for more of its kind? -/
  looked : Bool := false

/-- Nodes, the lines after them, and whether they are set off from these. -/
structure Read where
  nodes : List Node
  rest : List Line
  setOff : Bool

/-- Read further members of a compound block. `next` reads the member at a line, or says that there is
none; `skip` says whether blank lines may stand between members. -/
def members {σ : Type} (skip : Bool) (next : σ → Line → List Line → Build (Option (σ × Read))) :
    Nat → σ → Read → Build Read
  | 0, _, r => pure r
  | fuel + 1, s, r => do
    match (if skip then r.rest.dropWhile Line.blank else r.rest) with
    | [] => pure { r with rest := [] }
    | l :: rest =>
      match ← next s l rest with
      | none => pure { r with rest := l :: rest }
      | some (s, new) => members skip next fuel s { new with nodes := r.nodes ++ new.nodes }

/-- Read a compound block that begins with `first`, and report if it is not set off. -/
def compound {σ : Type} (what : String) (kind : GroupKind) (line : Option Nat) (first : Read) (s : σ)
    (next : σ → Line → List Line → Build (Option (σ × Read))) (after : List Node := []) :
    Build Step := do
  let r ← members true next (first.rest.length + 1) s first
  let warning ← unindent what r.setOff r.rest
  pure ⟨(.group kind line r.nodes :: after ++ warning).map .node, r.rest, true⟩

/-- A list item after a marker of `n` characters. -/
def listItem (inner : Inner) (n : Nat) (l : Line) (rest : List Line) : Build Read := do
  let t := if (l.text.drop n).isEmpty then takeAfterMarker n true (l :: rest)
    else takeKnown n (l :: rest)
  let children ← inner t.block
  pure ⟨[.group .listItem (some l.number) children], t.rest, t.setOff⟩

/-- A bullet list: items with the same bullet. -/
def bulletList (inner : Inner) (c : Char) (n : Nat) (l : Line) (rest : List Line) :
    Build Step := do
  let first ← listItem inner n l rest
  compound "Bullet list" .bulletList (some l.number) first () fun _ l rest => do
    match markerOf l.text with
    | .bullet d n =>
      if d == c && !l.indented then return some ((), ← listItem inner n l rest) else pure none
    | _ => pure none

/-- Where an enumerated list stands. -/
structure Counting where
  last : Nat
  auto : Bool

/-- An enumerated list: items that count on. -/
def enumeratedList (inner : Inner) (e : Enumerator) (sequence : Sequence) (ordinal : Nat) (l : Line)
    (rest : List Line) : Build Step := do
  let note ←
    if ordinal == 1 then pure []
    else do
      let text := "Enumerated list start value not ordinal-1: \"".toList ++ e.counter ++
        "\" (ordinal ".toList ++ (toString ordinal).toList ++ ")".toList
      pure [← report .info (some l.number) text]
  let first ← listItem inner e.length l rest
  let kind := if sequence = .auto then .arabic else sequence
  compound "Enumerated list" .enumeratedList (some l.number) first
    (⟨ordinal, sequence = .auto⟩ : Counting)
    (fun (s : Counting) l rest => do
      match if l.indented then .text else markerOf l.text with
      | .enumerator d =>
        let seq := d.sequence (some kind)
        match d.ordinal seq with
        | none => pure none
        | some n =>
          -- a list that has once counted automatically goes on so
          let goesOn := seq = .auto || (seq = kind && !s.auto && n == s.last + 1)
          if d.format = e.format && goesOn &&
              fitsBefore n seq d.format (rest.head?.map (·.text)) then
            return some (⟨n, s.auto || seq = .auto⟩, ← listItem inner d.length l rest)
          else pure none
      | _ => pure none)
    note

def fieldItem (inner : Inner) (name : List Char) (n : Nat) (l : Line) (rest : List Line) :
    Build Read := do
  let t := takeAfterMarker n true (l :: rest)
  let (content, messages) ← inline l.number name
  let body ← inner t.block
  let parts := [.leaf .fieldName none content, .group .fieldBody none (messages ++ body)]
  pure ⟨[.group .field (some l.number) parts], t.rest, t.setOff⟩

def fieldList (inner : Inner) (name : List Char) (n : Nat) (l : Line) (rest : List Line) :
    Build Step := do
  let first ← fieldItem inner name n l rest
  compound "Field list" .fieldList none first () fun _ l rest => do
    match if l.indented then .text else markerOf l.text with
    | .field name n => return some ((), ← fieldItem inner name n l rest)
    | _ => pure none

/-- An option list item; `none` if no description follows. -/
def optionItem (inner : Inner) (n : Nat) (l : Line) (rest : List Line) : Build (Option Read) := do
  let t := takeAfterMarker n true (l :: rest)
  if t.block.isEmpty then pure none
  else
    let body ← inner t.block
    let names := .leaf .option none [.text (trimRight (l.text.take n))]
    let item := .group .optionItem none [.group .options none [names], .group .description none body]
    pure (some ⟨[item], t.rest, t.setOff⟩)

/-- The lines of a text block: up to a blank line, or to an indented one if `flush` says so. -/
def takeText (flush : Bool) (lines : List Line) : List Line × List Line :=
  let inside (l : Line) : Bool := !l.blank && !(flush && l.indented)
  (lines.takeWhile inside, lines.dropWhile inside)

/-- Does a text end in two colons that are not escaped? -/
def announcesLiteral (s : List Char) : Bool :=
  match s.reverse with
  | ':' :: ':' :: rest => (rest.takeWhile (· == '\\')).length % 2 == 0
  | _ => false

/-- A paragraph, and whether literal text follows. Of the two colons that announce it one stays after
other text. -/
def paragraph (lines : List Line) : Build (List Node × Bool) := do
  let data := trimRight (joined lines)
  let number := (lines.head?.map (·.number)).getD 0
  let literal := announcesLiteral data
  let text :=
    if !literal then data
    else if (data.dropLast.dropLast).getLast?.any (fun c => c == ' ' || c == '\n') then
      trimRight (data.take (data.length - 3))
    else data.dropLast
  if literal && data.length == 2 then pure ([], true)
  else
    let (content, messages) ← inline number text
    pure (.leaf .paragraph (some number) content :: messages, literal)

/-- A literal block: a leaf with a text that is kept as it is. -/
def literalLeaf (line : Nat) (lines : List Line) : Node :=
  .leaf .literalBlock (some line) [.text (joined lines)]

/-- Literal text whose lines start with the same sign. -/
def quotedLiteral (first : Line) (c : Char) (rest : List Line) : Build Read := do
  let same (l : Line) : Bool := l.text.head? == some c
  let block := first :: rest.takeWhile same
  let node := literalLeaf first.number block
  match rest.dropWhile same with
  | [] => pure ⟨[node], [], false⟩
  | l :: after =>
    if l.blank then pure ⟨[node], l :: after, true⟩
    else
      let text := if l.indented then "Unexpected indentation." else "Inconsistent literal block quoting."
      return ⟨[node, ← report .error (some l.number) text.toList], l :: after, true⟩

/-- The literal text after a paragraph that announces it. `last` is the line before. Quoted text is looked
for where no indented text follows. -/
def literalText (last : Nat) (nodes : List Node) (lines : List Line) : Build Step := do
  let done (more : List Node) (rest : List Line) (looked : Bool) : Step :=
    ⟨(nodes ++ more).map .node, rest, looked⟩
  let t := takeIndented lines
  match t.block with
  | first :: _ =>
    let block := (t.block.reverse.dropWhile Line.blank).reverse
    let warning ← unindent "Literal block" t.setOff t.rest
    pure (done (literalLeaf first.number block :: warning) t.rest false)
  | [] =>
    let missing (line : Nat) (rest : List Line) : Build Step := do
      let message ← report .warning (some line) "Literal block expected; none found.".toList
      pure (done [message] rest true)
    match t.rest with
    -- at the end of the text the message is placed behind the last line
    | [] => missing (((lines.getLast?.map (·.number)).getD last) + 1) []
    | l :: rest =>
      match l.text with
      | c :: _ =>
        if isSign c then
          let r ← quotedLiteral l c rest
          pure (done r.nodes r.rest true)
        else missing l.number (l :: rest)
      | [] => missing l.number (l :: rest)

/-- A paragraph with the literal text that it announces. -/
def paragraphStep (lines rest : List Line) : Build Step := do
  let (nodes, literal) ← paragraph lines
  let nodes ← match rest with
    | [] => pure nodes
    | l :: _ =>
      if l.blank then pure nodes
      else do
        let message ← report .error (some l.number) "Unexpected indentation.".toList
        pure (nodes ++ [message])
  if literal then literalText ((lines.getLast?.map (·.number)).getD 0) nodes rest
  else pure ⟨nodes.map .node, rest, false⟩

/-- A text cut where a colon stands between blanks. -/
def splitClassifiers (piece : List Char) : List Char → List (List Char)
  | [] => [piece.reverse]
  | ' ' :: ':' :: ' ' :: rest =>
    trimRightBy (· == ' ') piece.reverse :: splitClassifiers [] (rest.dropWhile (· == ' '))
  | c :: rest => splitClassifiers (c :: piece) rest
termination_by s => s.length
decreasing_by
  all_goals
    simp only [List.length_cons]
    try have := (List.dropWhile_suffix (l := rest) (· == ' ')).length_le
    omega

/-- The term of a definition and its classifiers. -/
def termLeaves (line : Nat) (content : List Inline) : List Node :=
  let pieces : List (List Inline) := content.foldl
    (fun (done : List (List Inline)) (piece : Inline) =>
      let last := done.getLastD []
      match piece with
      | .text s =>
        match splitClassifiers [] s with
        | [] => done
        | first :: more => done.dropLast ++ (last ++ [.text first]) :: more.map (fun t => [.text t])
      | other => done.dropLast ++ [last ++ [other]])
    [[]]
  match pieces with
  | [] => []
  | term :: classifiers =>
    .leaf .term (some line) term :: classifiers.map (.leaf .classifier none)

/-- A definition list item: a term and the indented lines after it. -/
def definitionItem (inner : Inner) (term : Line) (rest : List Line) : Build Read := do
  let t := takeIndented rest
  let (content, messages) ← inline term.number term.text
  let note ←
    if "::".toList.isSuffixOf term.text then do
      let text := "Blank line missing before literal block (after the \"::\")? ".toList ++
        "Interpreted as a definition list item.".toList
      pure [← report .info (some (term.number + 1)) text]
    else pure []
  let body ← inner t.block
  let definition := .group .definition (some (term.number + 1)) (messages ++ note ++ body)
  pure ⟨[.group .definitionItem (some term.number) (termLeaves term.number content ++ [definition])],
    t.rest, t.setOff⟩

def isPlain (l : Line) : Bool :=
  !l.blank && !l.indented &&
    match markerOf l.text with
    | .text => true
    | _ => false

def definitionList (inner : Inner) (term : Line) (rest : List Line) : Build Step := do
  let first ← definitionItem inner term rest
  compound "Definition list" .definitionList (some term.number) first () fun _ l rest => do
    if isPlain l && rest.head?.any (fun next => !next.blank && next.indented) then
      return some ((), ← definitionItem inner l rest)
    else pure none

/-- The length of the dash that opens an attribution, with the blanks after it. -/
def attributionDash? (s : List Char) : Option Nat :=
  let dash := match s with
    | '-' :: '-' :: '-' :: '-' :: _ => none
    | '-' :: '-' :: '-' :: _ => some 3
    | '-' :: '-' :: _ => some 2
    | '—' :: _ => some 1
    | _ => none
  dash.bind fun n =>
    let blanks := ((s.drop n).takeWhile (· == ' ')).length
    if (s.drop (n + blanks)).isEmpty then none else some (n + blanks)

/-- The lines of an attribution after its first one: up to a blank line, all with one indentation. -/
def attributionTail? (lines : List Line) : Option (List Line) :=
  let tail := lines.takeWhile (!·.blank)
  let indent := (tail.head?.map fun l => indentOf l.text).getD 0
  if tail.all (fun l => indentOf l.text == indent) then some (tail.map (Line.dropChars indent)) else none

/-- A quotation cut off before its attribution: the quoted lines, the lines of the attribution, and the
lines after it. `seen` says whether quoted text has been seen, `blank` whether the last line is
blank. -/
def splitAttribution (seen blank : Bool) : List Line → List Line × Option (List Line) × List Line
  | [] => ([], none, [])
  | l :: rest =>
    let goOn : List Line × Option (List Line) × List Line :=
      let (quoted, attribution, after) := splitAttribution (seen || !l.blank) l.blank rest
      (l :: quoted, attribution, after)
    if l.blank || !seen || !blank then goOn
    else
      match attributionDash? l.text, attributionTail? rest with
      | some n, some tail => ([], some (l.dropChars n :: tail), rest.drop tail.length)
      | _, _ => goOn

/-- Block quotes: an indented block, cut after each attribution. -/
def blockQuotes (inner : Inner) : Nat → List Line → Build (List Node)
  | 0, _ => pure []
  | fuel + 1, lines => do
    match lines.dropWhile Line.blank with
    | [] => pure []
    | first :: lines =>
      let (quoted, attribution, after) := splitAttribution false false (first :: lines)
      let body ← inner quoted
      match attribution with
      | none => pure [.group .blockQuote (some first.number) body]
      | some lines =>
        let number := (lines.head?.map (·.number)).getD 0
        let (content, messages) ← inline number (trimRight (joined lines))
        let quote := .group .blockQuote (some first.number)
          (body ++ [.leaf .attribution (some number) content])
        return quote :: messages ++ (← blockQuotes inner fuel after)

/-- One line of a line block, with the indented lines that continue it. -/
def verse (n : Nat) (l : Line) (rest : List Line) : Build (Node × List Node × Read) := do
  let t := takeUntilBlank n true (l :: rest)
  let (content, messages) ← inline l.number (joined t.block)
  pure (.leaf .verse (some l.number) content, messages, ⟨[], t.rest, t.setOff⟩)

def lineBlock (n : Nat) (l : Line) (rest : List Line) : Build Step := do
  let (line, messages, first) ← verse n l rest
  let r ← members false
    (fun _ l rest => do
      match if l.indented || l.blank then .text else markerOf l.text with
      | .lineBlock n =>
        let (line, messages, r) ← verse n l rest
        return some ((), { r with nodes := line :: messages })
      | _ => pure none)
    (if first.setOff then 0 else rest.length + 1) () first
  let isVerse : Node → Bool
    | .leaf .verse .. => true
    | _ => false
  let block := .group .lineBlock (some l.number) (line :: r.nodes.filter isVerse)
  let warning ←
    if r.setOff then pure []
    else do
      pure [← report .warning (some (l.number + 1)) "Line block ends without a blank line.".toList]
  pure ⟨(block :: messages ++ r.nodes.filter (!isVerse ·) ++ warning).map .node, r.rest, !first.setOff⟩

/-- The length of the name of an explicit target, up to the colon after it. -/
def targetNameLength (previous : Option Char) : List Char → Option Nat
  | [] => none
  | c :: rest =>
    let tail := if c == ' ' then rest else c :: rest
    let ends := previous.any (fun p => !isBlank p && p != '\x00' && p != ':') &&
      match tail with
      | [':'] => true
      | ':' :: ' ' :: _ => true
      | _ => false
    if ends then some 0 else (targetNameLength (some c) rest).map (· + 1)

/-- A hyperlink target: its name, `none` for an anonymous one, and its address. -/
def targetParts? (s : List Char) : Option (Option (List Char) × List Char) :=
  let address (rest : List Char) : List Char :=
    (rest.dropWhile (· == ' ')).drop 1
  match s with
  | ['_', ':'] => some (none, [])
  | '_' :: ':' :: ' ' :: rest => some (none, rest)
  | '_' :: _ => none
  | s => (targetNameLength none s).map fun n => (some (s.take n), address (s.drop n))

def explicitTarget (n : Nat) (l : Line) (rest : List Line) : Build (Option Read) := do
  let t := takeUntilBlank (n + 1) false (l :: rest)
  match targetParts? (escapes (t.block.flatMap (·.text))) with
  | none => pure none
  | some (name, address) =>
    let address := (unescaped address).filter (!isBlank ·)
    match name with
    | none => pure (some ⟨[.leaf .anonymousTarget (some l.number) []], t.rest, t.setOff⟩)
    | some name =>
      let messages ← noteTarget l.number (normalName (unescaped name)) (some address)
      pure (some ⟨messages ++ [.leaf .target (some l.number) []], t.rest, t.setOff⟩)

/-- The label of a footnote or citation, and the length of its marker. -/
def noteLabel? (n : Nat) (s : List Char) : Option (List Char × Nat) :=
  match s.drop n with
  | '[' :: rest =>
    let label := rest.takeWhile (· != ']')
    if (noteTarget? label).isSome && (rest.drop label.length).head? == some ']' then
      (markerLength (n + label.length + 2) s).map (label, ·)
    else none
  | _ => none

/-- The name of a directive, and the length of its marker. -/
def directive? (n : Nat) (s : List Char) : Option (List Char × Nat) :=
  match nameLength (s.drop n) with
  | 0 => none
  | k =>
    let gap := if (s.drop (n + k)).head? == some ' ' then 1 else 0
    if [':', ':'].isPrefixOf (s.drop (n + k + gap)) then
      (markerLength (n + k + gap + 2) s).map ((s.drop n).take k, ·)
    else none

/-- Directives whose content is read as blocks. -/
def admonitions : List (List Char) :=
  ["attention", "caution", "danger", "error", "hint", "important", "note", "tip", "warning"].map
    String.toList

/-- Other directives that are known; they leave nothing in the tree. -/
def silentDirectives : List (List Char) :=
  ["admonition", "sidebar", "topic", "line-block", "parsed-literal", "code", "code-block", "sourcecode",
   "math", "rubric", "epigraph", "highlights", "pull-quote", "compound", "container", "table",
   "csv-table", "list-table", "image", "figure", "contents", "sectnum", "section-numbering", "header",
   "footer", "target-notes", "meta", "raw", "include", "replace", "unicode", "class", "role",
   "default-role", "title", "date"].map String.toList

/-- A directive. An unknown one is quoted in a message. -/
def directive (inner : Inner) (name : List Char) (n : Nat) (l : Line) (rest : List Line) :
    Build Read := do
  let known := lower name
  let t := takeAfterMarker n true (l :: rest)
  if admonitions.contains known then
    let body ← inner t.block
    if t.block.isEmpty then
      let text := "Content block expected for the \"".toList ++ name ++
        "\" directive; none found.".toList
      let quote := joined (takeAfterMarker 0 false (l :: rest)).block
      return ⟨[← report .error (some l.number) text (some quote)], t.rest, t.setOff⟩
    else pure ⟨[.group .admonition (some l.number) body], t.rest, t.setOff⟩
  else if silentDirectives.contains known then pure ⟨[], t.rest, t.setOff⟩
  else
    let info := "No directive entry for \"".toList ++ name ++
      "\" in module \"docutils.parsers.rst.languages.en\".\nTrying \"".toList ++ name ++
      "\" as canonical directive name.".toList
    let note ← report .info (some l.number) info
    let t := takeAfterMarker 0 false (l :: rest)
    let text := "Unknown directive type \"".toList ++ name ++ "\".".toList
    let message ← report .error (some l.number) text (some (joined t.block))
    pure ⟨[note, message], t.rest, t.setOff⟩

/-- A comment. Two points alone before a blank line are an empty one. -/
def comment (n : Nat) (l : Line) (rest : List Line) : Read :=
  if (trim (l.text.drop n)).isEmpty && rest.head?.all Line.blank then
    ⟨[.leaf .comment none []], rest, true⟩
  else
    let t := takeAfterMarker n true (l :: rest)
    let block := (t.block.reverse.dropWhile Line.blank).reverse
    ⟨[.leaf .comment none [.text (joined block)]], t.rest, t.setOff⟩

/-- A construct of explicit markup, after a marker of `n` characters. -/
def explicitConstruct (inner : Inner) (n : Nat) (l : Line) (rest : List Line) : Build Read := do
  let body := l.text.drop n
  let opens (c : Char) : Bool :=
    match body with
    | d :: next :: _ => d == c && next != ' '
    | _ => false
  if n ≤ 2 then pure (comment n l rest)
  else
    match noteLabel? n l.text, directive? n l.text with
    | some (label, m), _ =>
      let t := takeAfterMarker m true (l :: rest)
      let messages ← match noteTarget? label with
        | some (.note name, _) => noteTarget l.number name none
        | _ => pure []
      let children ← inner t.block
      pure ⟨.group .footnote (some l.number) children :: messages, t.rest, t.setOff⟩
    | none, found =>
      if opens '_' then
        match ← explicitTarget n l rest with
        | some r => pure r
        | none =>
          let warning ← report .warning (some l.number) "malformed hyperlink target.".toList
          let r := comment n l rest
          pure { r with nodes := r.nodes ++ [warning] }
      else
        match found with
        | some (name, m) => directive inner name m l rest
        | none => pure (comment n l rest)

def anonymousTarget (n : Nat) (l : Line) (rest : List Line) : Read :=
  let t := takeUntilBlank n true (l :: rest)
  ⟨[.leaf .anonymousTarget (some l.number) []], t.rest, t.setOff⟩

/-- Explicit markup: constructs on consecutive lines. -/
def explicitMarkup (inner : Inner) (first : Read) : Build Step := do
  let r ← members false
    (fun _ l rest => do
      match if l.indented || l.blank then .text else markerOf l.text with
      | .explicit n => return some ((), ← explicitConstruct inner n l rest)
      | .anonymous n => return some ((), anonymousTarget n l rest)
      | _ => pure none)
    (first.rest.length + 1) () first
  let warning ← unindent "Explicit markup" r.setOff r.rest
  pure ⟨(r.nodes ++ warning).map .node, r.rest, true⟩

/-- The level of a title in this style, if it may stand in the current section. A new style opens the
next level. -/
def titleLevel? (style : TitleStyle) (b : Building) : Option Nat :=
  match b.styles.idxOf? style with
  | some i => if i ≤ b.depth then some (i + 1) else none
  | none => if b.styles.length == b.depth then some (b.depth + 1) else none

/-- A section title. A title that closes the current section is looked at twice, and what is said about
it is said twice. -/
def heading (style : TitleStyle) (title : List Char) (number underline : Nat)
    (problem : Option (Nat × List Char × List Char)) : Build (List Part) := do
  let warn : Build (List Node) := match problem with
    | none => pure []
    | some (line, text, quote) => do pure [← report .warning (some line) text (some quote)]
  let warnings ← warn
  let b ← get
  match titleLevel? style b with
  | none => stop
  | some level =>
    let warnings ← if level ≤ b.depth then warn else pure warnings
    modify fun b =>
      { b with
        depth := level
        styles := if b.styles.contains style then b.styles else b.styles ++ [style] }
    let (content, messages) ← inline number title
    let leaf := .leaf .title (some underline) content
    let notes ← noteTitle underline (normalName (leaf.text {}))
    pure [.heading level (leaf :: warnings ++ messages ++ notes)]

/-- A block that starts with a plain line: a paragraph, a definition list or a section title. -/
def textStep (inner : Inner) (titles : Bool) (first : Line) (rest : List Line) :
    Build Step := do
  let plain : Build Step :=
    let (block, after) := takeText true rest
    paragraphStep (first :: block) after
  match rest with
  | [] => paragraphStep [first] []
  | second :: after =>
    if second.blank then paragraphStep [first] rest
    else if second.indented then definitionList inner first rest
    else if isRule second.text then
      let title := trimRight first.text
      let underline := trimRight second.text
      let short := underline.length < columnWidth title
      let quote := first.text ++ '\n' :: second.text
      let problem := if short then some ("Title underline too short.".toList, quote) else none
      if short && underline.length < 4 then
        if titles then
          let text := "Possible title underline, too short for the title.\n".toList ++
            "Treating it as ordinary text because it's so short.".toList
          let note ← report .info (some second.number) text
          let s ← plain
          pure { s with parts := .node note :: s.parts }
        else plain
      else if titles then
        let parts ← heading (.under (underline.headD ' ')) title first.number second.number
          (problem.map (second.number, ·))
        pure ⟨parts, after, false⟩
      else do
        match problem with
        | some (text, quote) => let _ ← report .warning (some second.number) text (some quote)
        | none => pure ()
        stop
    else plain

/-- A line of signs at the outermost level: a transition, or the line above a title. -/
def ruleStep (inner : Inner) (first : Line) (rest : List Line) : Build Step := do
  let marker := trim first.text
  let short := marker.length < 4
  let asText : Build Step := textStep inner true first rest
  let asShortText : Build Step := do
    let text := "Possible incomplete section title.\nTreating the overline as ".toList ++
      "ordinary text because it's so short.".toList
    let note ← report .info (some first.number) text
    let s ← asText
    pure { s with parts := .node note :: s.parts }
  let transition : Node := .leaf .transition (some first.number) []
  match rest with
  | [] => if short then asText else pure ⟨[.node transition], [], false⟩
  | second :: after =>
    if second.blank then
      if short then asText else pure ⟨[.node transition], after, false⟩
    else if isRule second.text && !second.indented then
      if short then asShortText
      else
        let quote := first.text ++ '\n' :: second.text
        let message ← report .error (some first.number)
          "Invalid section title or transition marker.".toList (some quote)
        pure ⟨[.node message], after, false⟩
    else
      match after with
      | [] => if short then asShortText else stop
      | third :: after =>
        let overline := trimRight first.text
        let underline := trimRight third.text
        if !isRule underline || overline != underline then
          if short then asShortText else stop
        else
          let title := trimRight second.text
          if overline.length < columnWidth title && short then asShortText
          else
            let quote := first.text ++ '\n' :: second.text ++ '\n' :: third.text
            let problem :=
              if overline.length < columnWidth title then
                some (first.number, "Title overline too short.".toList, quote)
              else none
            let parts ← heading (.over (overline.headD ' ')) (trimLeft title) second.number
              third.number problem
            pure ⟨parts, after, false⟩

/-- Read the block at the start of the lines. -/
def step (inner : Inner) (titles : Bool) (l : Line) (rest : List Line) :
    Build Step := do
  if l.blank then pure ⟨[], rest, false⟩
  else if l.indented then
    let t := takeIndented (l :: rest)
    let quotes ← blockQuotes inner (t.block.length + 1) t.block
    let warning ← unindent "Block quote" t.setOff t.rest
    pure ⟨(quotes ++ warning).map .node, t.rest, false⟩
  else
    match markerOf l.text with
    | .bullet c n => bulletList inner c n l rest
    | .enumerator e =>
      let sequence := e.sequence none
      match e.ordinal sequence with
      | none => textStep inner titles l rest
      | some ordinal =>
        if fitsBefore ordinal sequence e.format (rest.head?.map (·.text)) then
          enumeratedList inner e sequence ordinal l rest
        else textStep inner titles l rest
    | .field name n => fieldList inner name n l rest
    | .options n =>
      match ← optionItem inner n l rest with
      | none => textStep inner titles l rest
      | some first =>
        compound "Option list" .optionList (some l.number) first () fun _ l rest => do
          match if l.indented then .text else markerOf l.text with
          | .options n =>
            match ← optionItem inner n l rest with
            | some r => return some ((), r)
            | none => pure none
          | _ => pure none
    | .doctest =>
      let (block, after) := takeText false (l :: rest)
      pure ⟨[.node (.leaf .doctest none [.text (joined block)])], after, false⟩
    | .lineBlock n => lineBlock n l rest
    | .explicit n => do explicitMarkup inner (← explicitConstruct inner n l rest)
    | .anonymous n => explicitMarkup inner (anonymousTarget n l rest)
    | .rule =>
      if titles then ruleStep inner l rest
      else if marker? "::" l.text == some 2 then textStep inner titles l rest
      else if (trim l.text).length < 4 then
        let text := "Unexpected possible title overline or transition.\n".toList ++
          "Treating it as ordinary text because it's so short.".toList
        let note ← report .info (some l.number) text
        let s ← textStep inner titles l rest
        pure { s with parts := .node note :: s.parts }
      else stop
    | .text => textStep inner titles l rest

/-- Read all blocks of a list of lines. Each step leaves fewer lines and the inside of a block has fewer
characters, so the number of both is enough fuel. -/
def blocks : Nat → Bool → List Line → Build (List Part)
  | 0, _, _ => pure []
  | _ + 1, _, [] => pure []
  | fuel + 1, titles, l :: rest => do
    let inner : Inner := fun lines => do return Part.nodes (← blocks fuel false lines)
    let s ← step inner titles l rest
    -- only the last block of the whole text counts
    if titles && s.rest.isEmpty then modify fun b => { b with looked := s.looked }
    return s.parts ++ (← blocks fuel titles s.rest)

/-- The number of lines and characters. -/
def sizeOfLines (lines : List Line) : Nat :=
  lines.foldl (fun n l => n + (l.text.length + 1)) 0

end TypeComments.Markup
