import TypeComments.Docstring.Clean
import TypeComments.Docstring.Notice
import TypeComments.Docstring.Reader
import TypeComments.Docstring.Rest
import TypeComments.Markup.Document

/-!
Docstring formats. A docstring is read in the format that is asked for, else in the default format, else
in the one that its text suggests. The values it documents as returned or yielded become one result
type.
-/

namespace TypeComments.Docstring

/-- The formats a docstring can be written in. -/
inductive Format where
  | numpy
  | google
  | rest
deriving DecidableEq, Repr

/-- All formats, in the order in which they are guessed. -/
def Format.all : List Format := [.numpy, .google, .rest]

def Format.name : Format → List Char
  | .numpy => "numpy".toList
  | .google => "google".toList
  | .rest => "rest".toList

def Format.ofName? (name : List Char) : Option Format :=
  Format.all.find? (·.name == name)

/-- Texts that, at the start of a line, show a format. -/
def Format.markers : Format → List (List Char)
  | .numpy =>
    ["Parameters\n----------\n".toList, "Returns\n-------\n".toList, "Yields\n------\n".toList]
  | .google => ["Args:\n".toList, "Returns:\n".toList, "Yields:\n".toList]
  | .rest => [":param ".toList, ":rtype:".toList, ":Yields:".toList]

/-- Does `marker` stand at the start of a line? `fresh` tells whether the text starts one. -/
def atLineStart (marker : List Char) (fresh : Bool) : List Char → Bool
  | [] => fresh && marker.isEmpty
  | c :: rest => (fresh && marker.isPrefixOf (c :: rest)) || atLineStart marker (c == '\n') rest

/-- Does the text show this format? -/
def Format.matches (format : Format) (doc : List Char) : Bool :=
  format.markers.any (fun marker => atLineStart marker true doc)

/-- The format that a docstring suggests. -/
def guessFormat (doc : List Char) : Option Format :=
  Format.all.find? (·.matches (unindent doc))

/-- What may be documented, and how markup is read. -/
structure Options where
  allowNamedResults : Bool := true
  allowYields : Bool := true
  markup : List Char → Markup.Reading := Markup.readDocument

/-- Why a docstring cannot be parsed. -/
inductive ParseFault where
  /-- There is no format of this name. -/
  | unknownFormat (name : List Char)
  /-- The reader failed. -/
  | reader (fault : Fault)
  /-- A returned or yielded value is documented twice. -/
  | repeatedResult
  /-- A problem of the markup has no line. -/
  | unplacedProblem
  /-- A notice has no line. -/
  | unplacedNotice
deriving DecidableEq, Repr

/-- Parsing writes notices and may fail; the notices written stay. -/
abbrev Parse := ExceptT ParseFault (StateM (List Notice))

def Parse.notify (level : Level) (text : List Char) (line : Option Int) : Parse Unit := do
  match line with
  | none => throw .unplacedNotice
  | some line => modify (· ++ [⟨level, line, text⟩])

/-- Said when results are named and may not be. -/
def namedResultsText : List Char :=
  "Named results are not allowed. Use Tuple[] or NamedTuple, or enable allow_named_results".toList

/-- Said when values are yielded and may not be. -/
def yieldsText : List Char :=
  "'Yields' is not allowed. Use 'Returns' with Iterator[], or enable allow_yields".toList

/-- Said when values are both returned and yielded. -/
def bothText : List Char :=
  "types found for both return and yield".toList

def tupleType (entries : List Entry) : List Char :=
  "Tuple[".toList ++ List.intercalate ", ".toList (entries.filterMap (·.type)) ++ "]".toList

/-- One entry for the returned values: several of them are a tuple. -/
def castReturns (options : Options) (returns : List Entry) : Parse (Option Entry) := do
  match returns with
  | [] => pure none
  | [entry] => pure (some entry)
  | first :: _ =>
    if options.allowNamedResults then
      pure (some ⟨some (tupleType returns), first.line⟩)
    else do
      Parse.notify .warning namedResultsText first.line
      pure none

/-- One entry for the yielded values: an iterator over them. -/
def castYields (options : Options) (yields : List Entry) : Parse (Option Entry) := do
  match yields with
  | [] => pure none
  | first :: _ =>
    if options.allowYields then
      match ← castReturns options yields with
      | none => pure none
      | some result =>
        let type := "Iterator[".toList ++ result.type.getD "None".toList ++ "]".toList
        pure (some ⟨some type, result.line⟩)
    else do
      Parse.notify .warning yieldsText first.line
      pure none

/-- Put a parameter into a list without repeats: a repeated name keeps its place and takes the new
entry. -/
def putParam (p : Param) : List Param → List Param
  | [] => [p]
  | q :: rest => if q.name == p.name then p :: rest else q :: putParam p rest

/-- Parameters without repeats: each name at its first place with its last entry. -/
def castParams (params : List Param) : List Param :=
  params.foldl (fun ps p => putParam p ps) []

/-- What a docstring documents: its parameters without repeats, and one result. -/
structure Documented where
  params : List Param
  result : Option Entry
deriving DecidableEq, Repr

/-- Read the parts of a docstring as they are written, without cleaning it. -/
def Format.read (format : Format) (markup : List Char → Markup.Reading) (doc : List Char) :
    Parse Report := do
  match format with
  | .rest =>
    let (report, notices) := readRest markup doc
    modify (· ++ notices)
    match report with
    | .ok report => pure report
    | .error .repeatedResult => throw .repeatedResult
    | .error .unplacedProblem => throw .unplacedProblem
  | .google =>
    match Style.google.parse (splitLines doc) with
    | .ok report => pure report
    | .error fault => throw (.reader fault)
  | .numpy =>
    match Style.numpy.parse (splitLines doc) with
    | .ok report => pure report
    | .error fault => throw (.reader fault)

/-- One result for the returned and the yielded values; the yielded ones come first. -/
def castResult (options : Options) (returns yields : List Entry) : Parse (Option Entry) := do
  -- the warning is placed at the returned values, which are then left out
  match returns, yields with
  | first :: _, _ :: _ => Parse.notify .warning bothText first.line
  | _, _ => pure ()
  if !yields.isEmpty then castYields options yields
  else castReturns options returns

/-- What a docstring in this format documents. -/
def Format.parse (format : Format) (options : Options) (doc : List Char) : Parse Documented := do
  let report ← format.read options.markup (clean doc)
  let result ← castResult options (report.returns.getD []) (report.yields.getD [])
  pure ⟨castParams (report.params.getD []), result⟩

def chooseFormat (default : Option Format) (doc : List Char) : Format :=
  (default.or (guessFormat doc)).getD .rest

/-- What a docstring documents, in the format of this name, the default format or the guessed one. -/
def parseDocstring (name : Option (List Char)) (default : Option Format) (options : Options)
    (doc : List Char) : Parse Documented := do
  match name with
  | none => (chooseFormat default doc).parse options doc
  | some name =>
    match Format.ofName? name with
    | none => throw (.unknownFormat name)
    | some format => format.parse options doc

end TypeComments.Docstring
