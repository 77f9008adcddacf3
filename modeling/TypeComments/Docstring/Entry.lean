/-!
What a docstring documents: a type and the line it stands on, for each parameter and for the values
returned and yielded.
-/

namespace TypeComments.Docstring

/-- A documented type and its line. -/
structure Entry where
  type : Option (List Char)
  line : Option Int
deriving BEq, DecidableEq, Repr

structure Param where
  name : Option (List Char)
  entry : Entry
deriving BEq, DecidableEq, Repr

/-- The three parts that a docstring can document; `none` for a part that it does not have. -/
structure Report where
  params : Option (List Param)
  returns : Option (List Entry)
  yields : Option (List Entry)
deriving BEq, DecidableEq, Repr

def Report.empty : Report := ⟨none, none, none⟩

end TypeComments.Docstring
