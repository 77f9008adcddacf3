import TypeComments.Cursor
import TypeComments.Text.Blank
import TypeComments.Text.Case

/-!
Items of mixed kinds for a cursor, and the modifiers that can be applied to them. A truth value equals
the number it counts as; a fresh item equals itself only.
-/

namespace TypeComments

/-- An item of a mixed list. -/
inductive Item where
  | null
  | flag (b : Bool)
  | number (n : Int)
  | text (s : List Char)
  | list (items : List Item)
  /-- An item that equals no other. -/
  | fresh
  deriving Inhabited

namespace Item

/-- The number that a number or a truth value counts as. -/
def number? : Item → Option Int
  | .flag b => some (if b then 1 else 0)
  | .number n => some n
  | _ => none

mutual

def same : Item → Item → Bool
  | .null, .null => true
  | .text s, .text t => s == t
  | .list xs, .list ys => sameAll xs ys
  | .fresh, .fresh => true
  | x, y =>
    match x.number?, y.number? with
    | some m, some n => m == n
    | _, _ => false

def sameAll : List Item → List Item → Bool
  | [], [] => true
  | x :: xs, y :: ys => same x y && sameAll xs ys
  | _, _ => false

end

instance : BEq Item := ⟨same⟩

mutual

theorem same_self : ∀ x : Item, same x x = true
  | .null => by simp [same]
  | .flag b => by simp [same, number?]
  | .number n => by simp [same, number?]
  | .text s => by simp [same]
  | .list xs => by simp [same, sameAll_self xs]
  | .fresh => by simp [same]

theorem sameAll_self : ∀ xs : List Item, sameAll xs xs = true
  | [] => by simp [sameAll]
  | x :: xs => by simp [sameAll, same_self x, sameAll_self xs]

end

instance : ReflBEq Item := ⟨same_self _⟩

def kind : Item → String
  | .null => "NoneType"
  | .flag _ => "bool"
  | .number _ => "int"
  | .text _ => "str"
  | .list _ => "list"
  | .fresh => "object"

/-- Why a modifier cannot be applied. -/
inductive Fault where
  /-- This kind of item has no such operation. -/
  | noMethod (kind method : String)
  /-- A number is added to a sequence. -/
  | noConcatenation (kind : String)
  /-- An operator is not defined on these kinds. -/
  | noOperator (operator left right : String)

def Fault.message : Fault → String
  | .noMethod kind method => s!"'{kind}' object has no attribute '{method}'"
  | .noConcatenation kind => s!"can only concatenate {kind} (not \"int\") to {kind}"
  | .noOperator operator left right =>
    s!"unsupported operand type(s) for {operator}: '{left}' and '{right}'"

inductive Modifier where
  | identity
  | strip
  | rstrip
  | upper
  | inc
  | double

/-- A text operation under the name it has for other kinds of items. -/
def onText (method : String) (f : List Char → List Char) : Item → Except Fault Item
  | .text s => .ok (.text (f s))
  | x => .error (.noMethod x.kind method)

def Modifier.apply : Modifier → Item → Except Fault Item
  | .identity, x => .ok x
  | .strip, x => onText "strip" trim x
  | .rstrip, x => onText "rstrip" trimRight x
  | .upper, x => onText "upper" TypeComments.upper x
  | .inc, x =>
    match x, x.number? with
    | _, some n => .ok (.number (n + 1))
    | .text _, none => .error (.noConcatenation "str")
    | .list _, none => .error (.noConcatenation "list")
    | x, none => .error (.noOperator "+" x.kind "int")
  | .double, x =>
    match x, x.number? with
    | _, some n => .ok (.number (n * 2))
    | .text s, none => .ok (.text (s ++ s))
    | .list xs, none => .ok (.list (xs ++ xs))
    | x, none => .error (.noOperator "*" x.kind "int")

end Item

end TypeComments
