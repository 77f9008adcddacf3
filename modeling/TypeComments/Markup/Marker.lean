import TypeComments.Markup.Enumerator
import TypeComments.Markup.Inline

/-!
The markers that open blocks, as they stand at the start of a line.
-/

namespace TypeComments.Markup

/-- The bullet of a list item, and the length of its marker. -/
def bullet? : List Char → Option (Char × Nat)
  | [] => none
  | c :: rest =>
    if ['-', '+', '*', '•', '‣', '⁃'].contains c then (markerLength 1 (c :: rest)).map (c, ·) else none

/-- The length of the name of a field, up to the colon that ends it: the first one, escapes apart, that
comes before a blank or the end of the line. -/
def fieldNameLength : List Char → Option Nat
  | [] => none
  | [':'] => some 0
  | ['\\'] => none
  | '\\' :: _ :: rest => (fieldNameLength rest).map (· + 2)
  | ':' :: d :: rest =>
    if d == ' ' then some 0
    else if d == '\x60' then none
    else (fieldNameLength (d :: rest)).map (· + 1)
  | _ :: rest => (fieldNameLength rest).map (· + 1)

/-- The name of a field, and the length of its marker. No blank stands inside the colons. -/
def field? : List Char → Option (List Char × Nat)
  | ':' :: rest =>
    if rest.head?.any (fun c => c == ':' || c == ' ') then none
    else
      match fieldNameLength rest with
      | none => none
      | some n =>
        let name := rest.take n
        if name.isEmpty || name.getLast? == some ' ' then none
        else (markerLength (n + 2) (':' :: rest)).map (name, ·)
  | _ => none

def isOptionChar (c : Char) : Bool :=
  c.isAlphanum

/-- May `c` continue the name of an option? -/
def isOptionTail (c : Char) : Bool :=
  c.isAlphanum || c == '_' || c == '-'

/-- The length of the argument of an option. -/
def optionArgument? : List Char → Option Nat
  | '<' :: rest =>
    let inside := rest.takeWhile fun c => c != '<' && c != '>'
    if !inside.isEmpty && (rest.drop inside.length).head? == some '>' then some (inside.length + 2)
    else none
  | c :: rest => if c.isAlpha then some ((rest.takeWhile isOptionTail).length + 1) else none
  | [] => none

/-- The lengths that the option at the start of a text may have, longest first. -/
def optionLengths (s : List Char) : List Nat :=
  let withArgument (n : Nat) (gaps : List Nat) : List Nat :=
    gaps.filterMap (fun gap => (optionArgument? (s.drop (n + gap))).map (n + gap + ·)) ++ [n]
  let short := match s with
    | sign :: c :: rest =>
      if (sign == '-' || sign == '+') && isOptionChar c then
        withArgument 2 (if rest.head? == some ' ' then [1] else [0])
      else []
    | _ => []
  let long (lead : Nat) : List Nat :=
    if (s.drop lead).head?.any isOptionChar then
      let n := lead + 1 + ((s.drop (lead + 1)).takeWhile isOptionTail).length
      withArgument n (if (s.drop n).head?.any (fun c => c == ' ' || c == '=') then [1] else [])
    else []
  short ++ (if ['-', '-'].isPrefixOf s then long 2 else []) ++ (if s.head? == some '/' then long 1 else [])

/-- The length of options with a comma and a blank between them, and of the two or more blanks or the
end of the line after them. -/
def optionsLength : Nat → List Char → Option Nat
  | 0, _ => none
  | fuel + 1, s =>
    (optionLengths s).findSome? fun n =>
      let rest := s.drop n
      let more := if [',', ' '].isPrefixOf rest then
        (optionsLength fuel (rest.drop 2)).map (n + 2 + ·) else none
      let blanks := (rest.takeWhile (· == ' ')).length
      let last :=
        if 2 ≤ blanks then some (n + blanks)
        else if blanks == rest.length then some (n + blanks)
        else none
      more <|> last

/-- The length of the marker of an option list item. -/
def options? (s : List Char) : Option Nat :=
  optionsLength (s.length + 1) s

/-- The length of a marker that is this text. -/
def marker? (marker : String) (s : List Char) : Option Nat :=
  if marker.toList.isPrefixOf s then markerLength marker.length s else none

/-- Is `c` an ASCII sign? -/
def isSign (c : Char) : Bool :=
  ('!' ≤ c && c ≤ '/') || (':' ≤ c && c ≤ '@') || ('[' ≤ c && c ≤ '\x60') || ('\x7b' ≤ c && c ≤ '~')

/-- Is the line one sign, repeated? -/
def isRule : List Char → Bool
  | [] => false
  | c :: rest => isSign c && (trimRightBy (· == ' ') rest).all (· == c)

/-- What the first line of a block shows it to be. -/
inductive Marker where
  | bullet (c : Char) (length : Nat)
  | enumerator (e : Enumerator)
  | field (name : List Char) (length : Nat)
  | options (length : Nat)
  | doctest
  | lineBlock (length : Nat)
  | explicit (length : Nat)
  | anonymous (length : Nat)
  | rule
  | text

def markerOf (s : List Char) : Marker :=
  let bullet := (bullet? s).map fun (c, n) => Marker.bullet c n
  let enumerator := (enumerator? s).map Marker.enumerator
  let field := (field? s).map fun (name, n) => Marker.field name n
  let options := (options? s).map Marker.options
  let doctest := (marker? ">>>" s).map fun _ => Marker.doctest
  let lineBlock := (marker? "|" s).map Marker.lineBlock
  let explicit := (marker? ".." s).map Marker.explicit
  let anonymous := (marker? "__" s).map Marker.anonymous
  let rule := if isRule s then some Marker.rule else none
  (bullet <|> enumerator <|> field <|> options <|> doctest <|> lineBlock <|> explicit <|> anonymous <|>
    rule).getD .text

end TypeComments.Markup
