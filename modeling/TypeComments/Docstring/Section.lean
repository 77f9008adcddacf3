import TypeComments.Text.Blank
import TypeComments.Text.Word

/-!
Section headings. A docstring is divided into sections with fixed names; three kinds of section hold
types, the others are skipped. A numpy heading is a name over an underline, a google heading a name
and a colon.
-/

namespace TypeComments.Docstring

/-- What a section documents. -/
inductive SectionKind where
  | params
  | returns
  | yields
  | skipped
deriving DecidableEq, Repr

/-- The section names in lower case, with what each documents. -/
def sectionNames : List (List Char × SectionKind) :=
  [("args".toList, .params),
   ("arguments".toList, .params),
   ("attributes".toList, .skipped),
   ("example".toList, .skipped),
   ("examples".toList, .skipped),
   ("keyword args".toList, .skipped),
   ("keyword arguments".toList, .skipped),
   ("methods".toList, .skipped),
   ("note".toList, .skipped),
   ("notes".toList, .skipped),
   ("other parameters".toList, .skipped),
   ("parameters".toList, .params),
   ("return".toList, .returns),
   ("returns".toList, .returns),
   ("raises".toList, .skipped),
   ("references".toList, .skipped),
   ("see also".toList, .skipped),
   ("todo".toList, .skipped),
   ("warning".toList, .skipped),
   ("warnings".toList, .skipped),
   ("warns".toList, .skipped),
   ("yield".toList, .yields),
   ("yields".toList, .yields)]

def sectionKind? (name : List Char) : Option SectionKind :=
  sectionNames.lookup name

/-- A section underline: two or more of the underline characters and nothing else but blanks at the
end. -/
def isUnderline (s : List Char) : Bool :=
  let marks := s.takeWhile ("=-\x60:'\"~^_*+#<>".toList.contains ·)
  decide (2 ≤ marks.length) && (s.drop marks.length).all isBlank

/-- Words and blanks, then one colon, then nothing but blanks. -/
def isColonHeading (s : List Char) : Bool :=
  let name := s.takeWhile (fun c => isBlank c || isWord c)
  match s.drop name.length with
  | ':' :: rest => !name.isEmpty && rest.all isBlank
  | _ => false

/-- Does a double colon follow, before any blank, at least one other character? -/
def hasDoubleColon : List Char → Bool
  | [] => false
  | c :: rest =>
    !isBlank c && (match rest with
      | ':' :: ':' :: _ => true
      | _ => hasDoubleColon rest)

/-- Does the text open with a directive, `.. name::`? -/
def opensDirective : List Char → Bool
  | '.' :: '.' :: ' ' :: rest => hasDoubleColon rest
  | _ => false

/-- Is this lower-case text a directive that opens a section of its own? -/
def isDirectiveHeading (directives : List (List Char)) (s : List Char) : Bool :=
  opensDirective s && directives.any (·.isPrefixOf s)

end TypeComments.Docstring
