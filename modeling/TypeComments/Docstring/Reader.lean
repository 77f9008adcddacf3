import TypeComments.Cursor
import TypeComments.Docstring.Entry
import TypeComments.Docstring.Partition
import TypeComments.Docstring.Section
import TypeComments.Text.Case

/-!
The reader of docstrings that are divided into sections. It walks over the lines with a `Cursor`, whose
look-ahead decides where a section starts (`isHeading`) and where it ends (`isBreak`). Both tests are
functions of the lines ahead; the reader only remembers, besides, how far it has looked.

Lines are numbered from two: the first line of a docstring stands below its opening quotes.
-/

namespace TypeComments.Docstring

/-- The two ways to divide a docstring into sections. -/
inductive Style where
  | google
  | numpy
deriving DecidableEq, Repr

/-- A line of a docstring without trailing blanks, and its number. -/
structure Line where
  text : List Char
  number : Nat
deriving BEq, DecidableEq, Repr

/-- Why a step of the reader fails. -/
inductive Fault where
  /-- A line is taken at the end, or a loop goes on when its lines are used up. -/
  | exhausted
  /-- A heading is looked for at the end. -/
  | headingAtEnd
  /-- A field without a type part is read in numpy style. -/
  | untypedField
  /-- The indentation of a line behind the reader is asked for. -/
  | lineBehind
  /-- A heading that names no section. -/
  | unknownSection (name : List Char)
deriving DecidableEq, Repr

/-- Where a section ends. -/
inductive Break where
  /-- It ends here. -/
  | here
  /-- It goes on with a blank line of the section. -/
  | blank
  /-- It goes on. -/
  | none
deriving DecidableEq, Repr

def Break.ends : Break → Bool
  | .here => true
  | _ => false

/-- A docstring being read. -/
structure Reader where
  style : Style
  /-- Directives that open a section of their own. -/
  directives : List (List Char)
  /-- The lines; the state counts those that have been looked at. -/
  cursor : Cursor Nat Empty (List Char) (Option Line)
  inSection : Bool := false
  sectionIndent : Int := 0
  report : Report := .empty

/-- A line as the reader sees it, from its text and its index. -/
def Line.ofIndexed (l : Nat × List Char) : Line :=
  ⟨trimRight l.2, l.1 + 2⟩

/-- The lines of a docstring as the reader sees them, from the index `k` on. -/
def numberedFrom : (k : Nat) → List (List Char) → List Line
  | _, [] => []
  | k, text :: rest => Line.ofIndexed (k, text) :: numberedFrom (k + 1) rest

/-- Does the text start with at least `indent` blanks and something after them? -/
def isIndented (indent : Int) : List Char → Bool
  | [] => false
  | c :: rest => if indent ≤ 0 then true else isBlank c && isIndented (indent - 1) rest

/-- The smallest indentation of the texts that are not empty, zero if there is none. -/
def minIndent (texts : List (List Char)) : Nat :=
  (((texts.filter (fun t => !t.isEmpty)).map indentOf).min?).getD 0

/-- Lines without the indentation that they share or, if `full`, each without its own. -/
def dedent (full : Bool) (lines : List Line) : List Line :=
  let cut := if full then trimLeft else List.drop (minIndent (lines.map (·.text)))
  lines.map fun l => { l with text := cut l.text }

/-- The indentation of the first line that is not empty, zero if there is none. -/
def indentAhead (ls : List Line) : Nat :=
  match ls.dropWhile (·.text.isEmpty) with
  | [] => 0
  | l :: _ => indentOf l.text

/-- Does a section start at these lines? A google heading asks for an indented line after it, a numpy
heading for an underline; a directive of the list is a heading in either style. -/
def headingAt (style : Style) (directives : List (List Char)) : List Line → Bool
  | [] => false
  | l :: rest =>
    let text := lower l.text
    match style with
    | .google =>
      if isColonHeading text && (sectionKind? (trimBy (· == ':') text)).isSome then
        decide (indentOf text < indentAhead rest)
      else isDirectiveHeading directives text
    | .numpy =>
      match (sectionKind? text).isSome, rest with
      | true, underline :: _ => isUnderline underline.text
      | _, _ => isDirectiveHeading directives text

/-- How many lines `headingAt` looks at. -/
def headingReach (style : Style) : List Line → Nat
  | [] => 1
  | l :: rest =>
    match style with
    | .google =>
      let text := lower l.text
      if isColonHeading text && (sectionKind? (trimBy (· == ':') text)).isSome then
        (rest.takeWhile (·.text.isEmpty)).length + 2
      else 1
    | .numpy => 2

/-- Does the section end at these lines? It ends at the end, at a heading, in numpy style before two
blank lines, and inside a section before a line that is indented less than the section. -/
def breakAt (style : Style) (directives : List (List Char)) (inSection : Bool) (sectionIndent : Int)
    (ls : List Line) : Break :=
  match ls with
  | [] => .here
  | l :: rest =>
    if headingAt style directives ls then .here
    else if style == .numpy && l.text.isEmpty && (rest.head?.map (·.text.isEmpty)).getD false then
      .here
    else if !inSection then .none
    else if l.text.isEmpty then (if style == .numpy then .blank else .none)
    else if isIndented sectionIndent l.text then .none
    else .here

/-- How many lines `breakAt` looks at. -/
def breakReach (style : Style) (ls : List Line) : Nat :=
  headingReach style ls

/-- The directives that open a section of their own. -/
def Style.directives : Style → List (List Char)
  | .google => []
  | .numpy => [".. index::".toList]

namespace Reader

/-- A reader before the first line. -/
def ofLines (style : Style) (lines : List (List Char)) : Reader :=
  { style
    directives := style.directives
    cursor := Cursor.startWith (fun text k => (.ok (some (Line.ofIndexed (k, text))), k + 1)) 0 none lines }

/-- The number of the last line looked at; one before the first. -/
def lineNumber (r : Reader) : Nat :=
  r.cursor.state + 1

/-- The lines not yet taken. -/
def ahead (r : Reader) : List Line :=
  r.cursor.cache.filterMap id ++ numberedFrom r.cursor.state r.cursor.pending

/-- Look at the next `n` lines. -/
def look (r : Reader) (n : Nat) : Reader :=
  { r with cursor := (r.cursor.fill n).2 }

end Reader

/-- A step of the reader. What it has read stays read when it fails. -/
abbrev Read := ExceptT Fault (StateM Reader)

namespace Read

def next : Read Line := do
  let r ← get
  let (line, cursor) := r.cursor.next
  set { r with cursor }
  match line with
  | .ok (some l) => pure l
  | _ => throw .exhausted

/-- The lines ahead, after a look at those that `reach` counts. -/
def lookAhead (reach : Style → List Line → Nat) : Read (List Line) := do
  let r ← get
  let ls := r.ahead
  set (r.look (reach r.style ls))
  pure ls

def hasNext : Read Bool := do
  let ls ← lookAhead (fun _ _ => 1)
  pure !ls.isEmpty

def isHeading : Read Bool := do
  let ls ← lookAhead headingReach
  let r ← get
  if ls.isEmpty then throw .headingAtEnd
  pure (headingAt r.style r.directives ls)

def isBreak : Read Break := do
  let ls ← lookAhead breakReach
  let r ← get
  pure (breakAt r.style r.directives r.inSection r.sectionIndent ls)

/-- Take lines while `more` holds, at most `limit`; to go on then is a fault. -/
def takeWhileUpTo (more : Read Bool) : Nat → Read (List Line)
  | 0 => do
    if ← more then throw .exhausted
    else pure []
  | limit + 1 => do
    if ← more then
      let l ← next
      let ls ← takeWhileUpTo more limit
      pure (l :: ls)
    else pure []

/-- Take lines while `more` holds; it is a fault if it holds at the end. -/
def takeWhile (more : Read Bool) : Read (List Line) := do
  let r ← get
  takeWhileUpTo more r.ahead.length

def takeEmpty : Read (List Line) :=
  takeWhile do
    let ls ← lookAhead (fun _ _ => 1)
    pure (match ls with
      | [] => false
      | l :: _ => l.text.isEmpty)

/-- Take lines of this section that are empty or indented by `indent`. -/
def takeIndented (indent : Int) : Read (List Line) :=
  takeWhile do
    let b ← isBreak
    let r ← get
    pure (!b.ends && (match r.ahead with
      | [] => false
      | l :: _ => l.text.isEmpty || isIndented indent l.text))

/-- Take lines up to the next heading. -/
def takeContiguous : Read (List Line) :=
  takeWhile do
    if ← hasNext then
      pure !(← isHeading)
    else pure false

def takeRest : Read (List Line) :=
  takeWhile hasNext

/-- Take empty lines, then lines up to the end of the section, then empty lines. The empty lines in
front are not among the result. -/
def takeSection : Read (List Line) := do
  let _ ← takeEmpty
  let body ← takeWhile do pure !(← isBreak).ends
  let trailing ← takeEmpty
  pure (body ++ trailing)

/-- The indentation of the first line that is not empty, from the line `skip` lines ahead on. -/
def currentIndent (skip : Int) : Read Nat := do
  if skip < 0 then
    -- the look is taken all the same, and the line number goes with it
    let _ ← lookAhead (fun _ _ => (skip + 2).toNat)
    throw .lineBehind
  let ls ← lookAhead (fun _ ls =>
    ((ls.drop skip.toNat).takeWhile (·.text.isEmpty)).length + skip.toNat + 1)
  pure (indentAhead (ls.drop skip.toNat))

/-- The name and the type of a field line, as the style writes them. -/
def fieldParts (style : Style) (parseType : Bool) (line : List Char) :
    List Char × Option (List Char) :=
  let parts := partitionField line
  match style with
  | .google =>
    match if parseType then typedArgument parts.before else none with
    | some (name, type) => (escapeStars name, some type)
    | none => (escapeStars parts.before, none)
  | .numpy => (escapeStars parts.before, some parts.after)

/-- A field: the name, the type and the line. With `preferType` a lone name is a type. -/
def fieldOf (style : Style) (parseType preferType : Bool) (line : Line) : Param :=
  let (name, type) := fieldParts style parseType line.text
  if preferType && (type.getD []).isEmpty then ⟨type, ⟨some name, some line.number⟩⟩
  else ⟨some name, ⟨type, some line.number⟩⟩

/-- Take a field: its line, and the lines indented deeper. -/
def takeField (parseType preferType : Bool) : Read Param := do
  let line ← next
  let r ← get
  -- the line has been taken by now and stays read
  if r.style == .numpy && !parseType then throw .untypedField
  let _ ← takeIndented (indentOf line.text + 1)
  pure (fieldOf r.style parseType preferType line)

/-- Does a field say anything? -/
def isMeaningful (p : Param) : Bool :=
  !(p.name.getD []).isEmpty || !(p.entry.type.getD []).isEmpty

/-- Take fields up to the end of the section, at most `limit`; to go on then is a fault. -/
def takeFieldsUpTo (parseType preferType : Bool) : Nat → Read (List Param)
  | 0 => do
    if (← isBreak).ends then pure []
    else throw .exhausted
  | limit + 1 => do
    if (← isBreak).ends then pure []
    else
      let p ← takeField parseType preferType
      let ps ← takeFieldsUpTo parseType preferType limit
      pure (if isMeaningful p then p :: ps else ps)

def takeFields (parseType preferType : Bool) : Read (List Param) := do
  let _ ← takeEmpty
  let r ← get
  takeFieldsUpTo parseType preferType r.ahead.length

/-- The type that a google result section starts with: before the first colon of its first line. -/
def resultOf (lines : List Line) : List Entry :=
  match lines with
  | [] => []
  | line :: _ =>
    let parts := partitionField line.text
    -- without a colon the line is a description and no type
    if parts.colon then
      let type := match typedArgument parts.before with
        | some (_, type) => type
        | none => parts.before
      if type.isEmpty then [] else [⟨some type, some line.number⟩]
    else []

def takeResults : Read (List Entry) := do
  let r ← get
  match r.style with
  | .google => do
    let lines ← takeSection
    pure (resultOf (dedent false lines))
  | .numpy => do
    let fields ← takeFields true true
    pure (fields.map (·.entry))

/-- Take a heading: its line without the colons around a section name, or its line and underline. -/
def takeHeading : Read (List Char) := do
  let line ← next
  let r ← get
  match r.style with
  | .google =>
    let name := trimBy (· == ':') line.text
    pure (if (sectionKind? (lower name)).isSome then name else line.text)
  | .numpy =>
    -- a directive is a heading of one line
    if opensDirective line.text then pure line.text
    else do
      let _ ← next
      pure line.text

def readParams : Read Unit := do
  let ps ← takeFields true false
  modify fun r => { r with report.params := some ps }

def readReturns : Read Unit := do
  let es ← takeResults
  modify fun r => { r with report.returns := some es }

def readYields : Read Unit := do
  let es ← takeResults
  modify fun r => { r with report.yields := some es }

def skipSection : Read Unit := do
  let _ ← takeSection
  pure ()

def readSection (heading : List Char) : Read Unit := do
  if opensDirective heading then skipSection
  else match sectionKind? (lower heading) with
    | some .params => readParams
    | some .returns => readReturns
    | some .yields => readYields
    | some .skipped => skipSection
    | none => throw (.unknownSection (lower heading))

/-- Enter a section: take its heading and measure its indentation. -/
def enterSection : Read (List Char) := do
  let heading ← takeHeading
  modify fun r => { r with inSection := true }
  let indent ← currentIndent 0
  modify fun r => { r with sectionIndent := indent }
  pure heading

/-- Read a heading and its section. The reader is outside sections again afterwards, also when this
fails. -/
def readHeaded : Read Unit :=
  ExceptT.mk do
    let outcome ← (enterSection >>= readSection).run
    modify fun r => { r with inSection := false, sectionIndent := 0 }
    pure outcome

/-- Read a section, or pass over text that belongs to none. -/
def readTurn : Read Unit := do
  if ← isHeading then readHeaded else skipSection

/-- Read sections and pass over the text between them, at most `limit` times; to go on then is a
fault. -/
def parseUpTo : Nat → Read Unit
  | 0 => do
    if ← hasNext then throw .exhausted
    else pure ()
  | limit + 1 => do
    if ← hasNext then
      readTurn
      parseUpTo limit
    else pure ()

def parse : Read Report := do
  let _ ← takeEmpty
  let r ← get
  parseUpTo r.ahead.length
  let r ← get
  pure r.report

end Read

/-- What the lines of a docstring document. -/
def Style.parse (style : Style) (lines : List (List Char)) : Except Fault Report :=
  (Read.parse.run (Reader.ofLines style lines)).1

end TypeComments.Docstring
