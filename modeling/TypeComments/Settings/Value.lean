import TypeComments.Settings.Number

/-!
Values of settings.
-/

namespace TypeComments.Settings

inductive Value where
  /-- There is no value. -/
  | missing
  | flag (b : Bool)
  | number (n : Int)
  | decimal (d : Decimal)
  | text (s : List Char)
  | list (items : List Value)
  deriving Inhabited

/-- Is the setting switched on? Nothing, zero and what is empty are not. -/
def Value.isOn : Value → Bool
  | .missing => false
  | .flag b => b
  | .number n => n != 0
  | .decimal d => d.mantissa != 0
  | .text s => !s.isEmpty
  | .list items => !items.isEmpty

/-- Settings by name, in the order in which they were first put. -/
abbrev Assigned := List (List Char × Value)

/-- Put a setting; it replaces one of the same name. -/
def Assigned.put (name : List Char) (value : Value) : Assigned → Assigned
  | [] => [(name, value)]
  | (n, v) :: rest => if n == name then (n, value) :: rest else (n, v) :: Assigned.put name value rest

def Assigned.value? (name : List Char) (a : Assigned) : Option Value :=
  a.lookup name

end TypeComments.Settings
