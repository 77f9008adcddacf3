/-!
Notices about a docstring: a level, a text, and a line counted from the start of the docstring.
-/

namespace TypeComments.Docstring

/-- How bad a notice is. -/
inductive Level where
  | warning
  | error
deriving DecidableEq, Repr

/-- A notice about a line of a docstring. -/
structure Notice where
  level : Level
  line : Int
  text : List Char
deriving DecidableEq, Repr

/-- A notice as it is shown for a docstring that starts on line `start` of a file. -/
def Notice.render (file : List Char) (start : Int) (n : Notice) : List Char :=
  file ++ ": line ".toList ++ (toString (start + n.line)).toList ++ ": ".toList ++ n.text

end TypeComments.Docstring
