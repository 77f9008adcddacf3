import TypeComments.Docstring.Entry
import TypeComments.Docstring.Notice
import TypeComments.Docstring.TypeText
import TypeComments.Markup.Node

/-!
Docstrings with field lists. A field `type x` documents the parameter `x`, a field `rtype` the value
returned, a field `Yields` the values yielded, and a field `returns` with a list in it several values
returned. Fields count wherever they stand in the document, in its order. How the markup is read is a
parameter here: a docstring documents what the fields of its reading say.
-/

namespace TypeComments.Docstring

open Markup

/-- Why a docstring with fields cannot be read. -/
inductive RestFault where
  /-- What is returned or yielded is documented twice. -/
  | repeatedResult
  /-- A problem has no line. -/
  | unplacedProblem

/-- A field: its name, the texts of the list items in it, its paragraphs, and its line. -/
structure Field where
  name : List Char
  items : List (List Char)
  paragraphs : List (List Char × Option Nat)
  line : Option Nat

/-- A line as an entry has it. -/
def entryLine (line : Option Nat) : Option Int :=
  line.map Int.ofNat

def Field.ofNode (known : Known) (node : Node) : Field :=
  match node with
  | .group .field line (.leaf .fieldName _ name :: body) =>
    ⟨(Node.leaf .fieldName none name).text known, (groupsAll .listItem body).map (·.text known),
      paragraphsAll known body, line⟩
  | _ => ⟨[], [], [], none⟩

/-- The fields of a document, nested ones after the fields they stand in. -/
def Field.ofDocument (d : Document) : List Field :=
  (groupsAll .field d.nodes).map (Field.ofNode d.known)

/-- The first paragraph of a field as an entry. -/
def Field.entry? (f : Field) : Option Entry :=
  f.paragraphs.head?.map fun (text, line) => ⟨some (oneLine text), entryLine line⟩

/-- What a field documents. -/
inductive FieldFact where
  | param (name : List Char) (entry : Entry)
  | returns (entries : List Entry)
  | yields (entry : Entry)

/-- What a field documents, if anything: its name decides. -/
def Field.fact? (f : Field) : Option FieldFact :=
  match blankSeparated f.name with
  | [word] =>
    if word == "returns".toList then
      if f.items.isEmpty then none
      else some (.returns (f.items.map fun text => ⟨some text, entryLine f.line⟩))
    else if word == "rtype".toList then f.entry?.map fun e => .returns [e]
    else if word == "Yields".toList then f.entry?.map .yields
    else none
  | [word, name] => if word == "type".toList then f.entry?.map (.param name) else none
  | _ => none

/-- Add what a field documents. Results are documented once. -/
def Report.add (r : Report) : FieldFact → Except RestFault Report
  | .param name entry => .ok { r with params := some (r.params.getD [] ++ [⟨some name, entry⟩]) }
  | .returns entries =>
    if r.returns.isSome then .error .repeatedResult else .ok { r with returns := some entries }
  | .yields entry =>
    if r.yields.isSome then .error .repeatedResult else .ok { r with yields := some [entry] }

def collect (fields : List Field) : Except RestFault Report :=
  (fields.filterMap Field.fact?).foldlM Report.add ⟨some [], none, none⟩

/-- Problems as notices: those that are only informative are not shown, and a problem without a line
cannot be. -/
def noticesOf : List Problem → List Notice × Bool
  | [] => ([], true)
  | p :: rest =>
    let more (level : Level) : List Notice × Bool :=
      match p.line with
      | none => ([], false)
      | some n =>
        let (notices, placed) := noticesOf rest
        (⟨level, n, p.text⟩ :: notices, placed)
    match p.severity with
    | .info => noticesOf rest
    | .warning => more .warning
    | .error => more .error

/-- Read a docstring with field lists. One with a severe problem documents nothing. -/
def readRest (markup : List Char → Reading) (s : List Char) : Except RestFault Report × List Notice :=
  let reading := markup s
  let (notices, placed) := noticesOf reading.problems
  if !placed then (.error .unplacedProblem, notices)
  else
    match reading.document with
    | none => (.ok ⟨some [], none, none⟩, notices)
    | some d => (collect (Field.ofDocument d), notices)

end TypeComments.Docstring
