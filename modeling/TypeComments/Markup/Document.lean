import TypeComments.Markup.Body

/-!
A marked-up text as a document. Headings nest into sections; a lone section gives the document its title;
fields at the start hold bibliographic data; and each reference has to find its target. The problems
come in this order: those of reading, then those of substitutions, bibliographic data, anonymous and
numbered references, transitions and named references.

This is how markup is read where nothing else is said (`readDocument`). What a directive holds is left out,
unless it is read as blocks.
-/

namespace TypeComments.Markup

open Build

/-- The nodes of the section that is open at `level`, and the parts after it. -/
def nestParts : Nat → Nat → List Part → List Node × List Part
  | 0, _, parts => ([], parts)
  | _ + 1, _, [] => ([], [])
  | fuel + 1, level, .node n :: rest =>
    let (nodes, after) := nestParts fuel level rest
    (n :: nodes, after)
  | fuel + 1, level, .heading k title :: rest =>
    if k ≤ level then ([], .heading k title :: rest)
    else
      let (inner, after) := nestParts fuel k rest
      let (nodes, after) := nestParts fuel level after
      (.group .section none (title ++ inner) :: nodes, after)

/-- Parts as a tree of sections. -/
def nest (parts : List Part) : List Node :=
  (nestParts (parts.length + 1) 0 parts).1

/-- A lone section after nodes that may stand in front of the bibliographic fields: these nodes, and
the content of the section. -/
def loneSection? (nodes : List Node) : Option (List Node × List Node) :=
  match nodes.dropWhile Node.precedesFields with
  | [.group .section _ children] => some (nodes.takeWhile Node.precedesFields, children)
  | _ => none

/-- Make the title of a lone section the subtitle of the document. -/
def promoteSubtitle (nodes : List Node) : List Node :=
  match loneSection? nodes with
  | some (title :: before, .leaf _ _ content :: rest) =>
    title :: .leaf .subtitle none content :: before ++ rest
  | _ => nodes

/-- Make the title of a lone section the title of the document. -/
def promoteTitle (nodes : List Node) : List Node :=
  match loneSection? nodes with
  | some (before, title :: rest) => promoteSubtitle (title :: before ++ rest)
  | _ => nodes

/-- The text of inline content in which all targets are there. -/
def shownText (content : List Inline) : List Char :=
  content.flatMap fun
    | .text s => s
    | .marked _ s => s
    | .reference _ shown _ => shown
    | .substitution _ _ source => source

/-- Fields that hold one line of bibliographic data. -/
def biblioLines : List (List Char) :=
  ["author", "organization", "address", "contact", "version", "revision", "status", "date",
   "copyright"].map String.toList

/-- Fields that hold a part of the document. -/
def biblioTopics : List (List Char) :=
  ["dedication", "abstract"].map String.toList

def Node.kindName : Node → String
  | .leaf kind _ _ => match kind with
    | .paragraph => "paragraph"
    | .title => "title"
    | .subtitle => "subtitle"
    | .term => "term"
    | .classifier => "classifier"
    | .attribution => "attribution"
    | .fieldName => "field_name"
    | .option => "option"
    | .verse => "line"
    | .literalBlock => "literal_block"
    | .doctest => "doctest_block"
    | .comment => "comment"
    | .target => "target"
    | .anonymousTarget => "target"
    | .transition => "transition"
    | .biblio => "author"
  | .group kind _ _ => match kind with
    | .section => "section"
    | .bulletList => "bullet_list"
    | .enumeratedList => "enumerated_list"
    | .listItem => "list_item"
    | .definitionList => "definition_list"
    | .definitionItem => "definition_list_item"
    | .definition => "definition"
    | .blockQuote => "block_quote"
    | .fieldList => "field_list"
    | .field => "field"
    | .fieldBody => "field_body"
    | .optionList => "option_list"
    | .optionItem => "option_list_item"
    | .options => "option_group"
    | .description => "description"
    | .lineBlock => "line_block"
    | .footnote => "footnote"
    | .admonition => "note"
    | .docinfo => "docinfo"
    | .topic => "topic"
  | .message .. => "system_message"

/-- A biblio data line with this content. It has no place of its own. -/
def biblioLeaf (content : List Inline) : Node :=
  .leaf .biblio none content

mutual

/-- Does all of a node stand on this line? -/
def Node.onLine (number : Nat) : Node → Bool
  | .leaf _ line content =>
    line.all (· == number) && !(shownText content).contains '\n'
  | .group _ line children => line.all (· == number) && allOnLine number children
  | .message p _ => p.severity == .info

@[inherit_doc Node.onLine]
def allOnLine (number : Nat) : List Node → Bool
  | [] => true
  | n :: rest => n.onLine number && allOnLine number rest

end

/-- The data of a field whose body is one paragraph. An enumerated list on one line is taken as one: it
comes from initials and versions. -/
def biblioLine? (line : Option Nat) : List Node → Option Node
  | [.leaf .paragraph _ content] => some (biblioLeaf content)
  | .group .enumeratedList place items :: rest =>
    let body := .group .enumeratedList place items :: rest
    if line.any (allOnLine · body) then some (biblioLeaf ((piecesAll none body).map (·.1))) else none
  | _ => none

/-- The content of the paragraphs among nodes, if there are only paragraphs and comments. -/
def paragraphContents? : List Node → Option (List (List Inline))
  | [] => some []
  | .leaf .paragraph _ content :: rest => (paragraphContents? rest).map (content :: ·)
  | .leaf .comment _ _ :: rest => paragraphContents? rest
  | _ => none

/-- The content of list items that hold one paragraph each. -/
def itemContents? : List Node → Option (List (List Inline))
  | [] => some []
  | .group .listItem _ [.leaf .paragraph _ content] :: rest => (itemContents? rest).map (content :: ·)
  | _ => none

/-- A list of authors: a paragraph with separators, a bullet list, or several paragraphs. -/
def authors? (body : List Node) : Option (List Node) :=
  let found : Option (List (List Inline)) := match body with
    | [.leaf .paragraph _ content] =>
      let text := shownText content
      let names := if text.contains ';' then List.splitOn ';' text else List.splitOn ',' text
      some (((names.map trim).filter (!·.isEmpty)).map fun name => [.text name])
    | [.group .bulletList _ items] => itemContents? items
    | [_] => none
    | body => paragraphContents? body
  found.bind fun names =>
    match names.filter (!·.isEmpty) with
    | [] => none
    | names => some (names.map biblioLeaf)

/-- What has been extracted from the bibliographic fields. -/
structure Biblio where
  data : List Node := []
  topics : List (List Char × Node) := []
  problems : List Problem := []

def authorsText (name : List Char) : List Char :=
  "Cannot extract \"".toList ++ name ++ "\" from bibliographic field:\nBibliographic field \"".toList ++
    name ++ "\" must contain either\n a single paragraph (with author names separated by one of \";,\"),\n".toList ++
    " multiple paragraphs (one per author),\n or a bullet list with one author name per item.\n".toList ++
    "Note: Leading initials can cause (mis)recognizing names as enumerated list.".toList

def compoundText (name : List Char) (body : List Node) : List Char :=
  let kinds := body.map fun n => '<' :: n.kindName.toList ++ ['>']
  let content := match kinds with
    | [kind] => "a ".toList ++ kind
    | kinds => '[' :: List.intercalate ", ".toList kinds ++ [']']
  "Bibliographic field \"".toList ++ name ++ "\"\nmust contain a single <paragraph>, not ".toList ++
    content ++ ['.']

/-- Extract one field: its data leaves the fields, or it stays one. -/
def Biblio.extract (b : Biblio) (field : Node) : Biblio :=
  match field with
  | .group .field line [.leaf .fieldName place content, .group .fieldBody place' body] =>
    let name := shownText (content.take 1)
    let normal := normalName name
    let keep : Biblio := { b with data := b.data ++ [field] }
    let refuse (text : List Char) : Biblio :=
      let p : Problem := ⟨.warning, line, text⟩
      let body := .group .fieldBody place' (body ++ [.message p none])
      { b with
        data := b.data ++ [.group .field line [.leaf .fieldName place content, body]]
        problems := b.problems ++ [p] }
    let isLine := biblioLines.contains normal
    let isTopic := biblioTopics.contains normal
    let isAuthors := normal == "authors".toList
    if !(isLine || isTopic || isAuthors) then keep
    else if body.isEmpty then
      refuse ("Cannot extract empty bibliographic field \"".toList ++ name ++ "\".".toList)
    else if isLine then
      match biblioLine? line body with
      | some leaf => { b with data := b.data ++ [leaf] }
      | none => refuse (compoundText name body)
    else if isAuthors then
      match authors? body with
      | some leaves => { b with data := b.data ++ leaves }
      | none => refuse (authorsText name)
    else if b.topics.any (·.1 == normal) then
      refuse ("There can only be one \"".toList ++ name ++ "\" field.".toList)
    else { b with topics := b.topics ++ [(normal, .group .topic none body)] }
  | other => { b with data := b.data ++ [other] }

def isTitular : Node → Bool
  | .leaf .title .. => true
  | .leaf .subtitle .. => true
  | _ => false

/-- Take the bibliographic data out of a field list that opens the document. It comes after the titles;
of its topics a dedication comes before an abstract. -/
def extractBiblio (nodes : List Node) : List Node × List Problem :=
  match nodes.dropWhile Node.precedesFields with
  | .group .fieldList _ fields :: after =>
    let before := nodes.takeWhile Node.precedesFields
    let b := fields.foldl Biblio.extract {}
    let data := if b.data.isEmpty then [] else [.group .docinfo none b.data]
    let topics := biblioTopics.filterMap fun name => (b.topics.find? (·.1 == name)).map (·.2)
    (before.takeWhile isTitular ++ data ++ topics ++ before.dropWhile isTitular ++ after, b.problems)
  | _ => (nodes, [])

/-- Problems of substitutions: none is defined. -/
def substitutionProblems (pieces : List (Inline × Option Nat)) : List Problem :=
  pieces.filterMap fun
    | (.substitution name _ _, line) =>
      some ⟨.error, line, "Undefined substitution referenced: \"".toList ++ name ++ "\".".toList⟩
    | _ => none

def Inline.target? : Inline → Option Target
  | .reference target _ _ => some target
  | .substitution _ link _ => link
  | _ => none

mutual

/-- The number of anonymous targets in a node. -/
def Node.anonymousTargets : Node → Nat
  | .leaf kind _ _ => if kind = .anonymousTarget then 1 else 0
  | .group _ _ children => anonymousTargetsAll children
  | .message .. => 0

@[inherit_doc Node.anonymousTargets]
def anonymousTargetsAll : List Node → Nat
  | [] => 0
  | n :: rest => n.anonymousTargets + anonymousTargetsAll rest

end

/-- The problem of too many references to notes that are numbered or marked automatically: the first of
them is reported. -/
def noteProblems (target : Target) (what : String) (pieces : List (Inline × Option Nat)) :
    List Problem :=
  match pieces.find? (fun p => p.1.target? == some target) with
  | none => []
  | some (_, line) =>
    [⟨.error, line, "Too many ".toList ++ what.toList ++
      " footnote references: only 0 corresponding footnotes available.".toList⟩]

/-- Do these nodes, in front of a transition, leave it at the start of a section? -/
def opensSection : List Node → Bool
  | [] => true
  | [.leaf .title ..] => true
  | [.leaf .title .., .leaf .subtitle ..] => true
  | _ => false

def endsInTransition (nodes : List Node) : Bool :=
  match nodes.getLast? with
  | some (.leaf .transition ..) => true
  | _ => false

mutual

/-- The problems of the transitions in a node; `final` says whether it ends the document. -/
def Node.transitionProblems (before : List Node) (final : Bool) : Node → List Problem
  | .leaf .transition line _ =>
    let problem (text : String) : Problem := ⟨.error, line, text.toList⟩
    (if opensSection before then [problem "Document or section may not begin with a transition."]
      else if endsInTransition before then
        [problem ("At least one body element must separate transitions; " ++
          "adjacent transitions are not allowed.")]
      else []) ++
    (if final then [problem "Document may not end with a transition."] else [])
  | .leaf .. => []
  | .group _ _ children => transitionsAll [] final children
  | .message .. => []

@[inherit_doc Node.transitionProblems]
def transitionsAll (before : List Node) (final : Bool) : List Node → List Problem
  | [] => []
  | n :: rest =>
    n.transitionProblems before (final && rest.isEmpty) ++ transitionsAll (before ++ [n]) final rest

end

def nameProblems (known shared : List (List Char)) (pieces : List (Inline × Option Nat)) :
    List Problem :=
  pieces.filterMap fun (piece, line) =>
    let name? := match piece.target? with
      | some (.named name) => some name
      | some (.note label) => some label
      | _ => none
    match name? with
    | none => none
    | some name =>
      if known.contains name then none
      else
        let text :=
          if shared.contains name then
            "Duplicate target name, cannot be used as a unique reference: \"".toList
          else "Unknown target name: \"".toList
        some ⟨.error, line, text ++ name ++ "\".".toList⟩

/-- The document of a tree. `last` is the line that problems of no place are given. -/
def Reading.ofNodes (b : Building) (last : Option Nat) (nodes : List Node) : Reading :=
  let missing := substitutionProblems (piecesAll none nodes)
  let (nodes, extraction) := extractBiblio (promoteTitle nodes)
  let pieces := piecesAll none nodes
  let references := (pieces.filter fun p => p.1.target? == some .anonymous).length
  let targets := anonymousTargetsAll nodes
  let mismatch : List Problem :=
    if references == targets then []
    else
      [⟨.error, last, "Anonymous hyperlink mismatch: ".toList ++ (toString references).toList ++
        " references but ".toList ++ (toString targets).toList ++
        " targets.\nSee \"backrefs\" attribute for IDs.".toList⟩]
  let names := (b.targets.filter (·.unique)).map (·.name)
  let shared := (b.targets.filter (!·.unique)).map (·.name)
  let problems := b.log ++ missing ++ extraction ++ mismatch ++
    noteProblems .numberedNote "autonumbered" pieces ++ noteProblems .symbolNote "symbol" pieces ++
    transitionsAll [] true nodes ++ nameProblems names shared pieces
  ⟨some ⟨nodes, ⟨names, references == targets⟩⟩, problems⟩

def readDocument (s : List Char) : Reading :=
  let lines := linesOf s
  match (blocks (sizeOfLines lines + 1) true lines).run.run {} with
  | (.error _, b) => ⟨none, b.log⟩
  | (.ok parts, b) =>
    let headed := parts.any fun
      | .heading .. => true
      | .node _ => false
    Reading.ofNodes b (if b.looked || headed then none else some (lines.length + 1)) (nest parts)

end TypeComments.Markup
