import TypeComments.Text.Blank
import TypeComments.Text.Lines

/-!
Type comments: the line `# type: (A, B) -> R` at the start of a function body.
-/

namespace TypeComments.Signature

/-- Is this text a type comment? Blanks, a hash, blanks and `type:`. -/
def isTypeComment (s : List Char) : Bool :=
  match trimLeft s with
  | '#' :: rest => "type:".toList.isPrefixOf (trimLeft rest)
  | _ => false

/-- A type, or `default` if there is none. -/
def typeOr (default : List Char) (type : Option (List Char)) : List Char :=
  type.getD default

/-- Does an argument of a method have an entry in its type comment? An untyped first argument called
`self` or `cls` has none. -/
def keepsArgument (index : Int) (name : List Char) (type : Option (List Char)) : Bool :=
  !(index == 0 && (name == "self".toList || name == "cls".toList) && type.isNone)

/-- The type comment of a signature, with its line feed. -/
def typeComment (arguments : List (List Char)) (result : List Char) : List Char :=
  "# type: (".toList ++ List.intercalate ", ".toList arguments ++ ") -> ".toList ++ result ++ ['\n']

end TypeComments.Signature
