import TypeComments.Markup.Inline
import TypeComments.Markup.Line

/-!
What is kept while a marked-up text is read: the problems found so far, the styles of its section
titles, the depth of the current section, and the targets that references can point to. A severe
problem ends the reading.
-/

namespace TypeComments.Markup

/-- How a section title is set off: by a line of signs below it, or by one above and one below. -/
inductive TitleStyle where
  | under (c : Char)
  | over (c : Char)
  deriving DecidableEq

/-- A name that references can use. -/
structure NamedTarget where
  name : List Char
  /-- Is it given by a target of its own, and not by a title? -/
  explicit : Bool
  /-- Is it the name of one target only? -/
  unique : Bool
  address : Option (List Char)
  deriving DecidableEq

/-- What is kept while a text is read. -/
structure Building where
  log : List Problem := []
  styles : List TitleStyle := []
  depth : Nat := 0
  targets : List NamedTarget := []
  /-- Has the last block of the text ended in a search for more of its kind? -/
  looked : Bool := false

/-- Reading stops at a severe problem; the problems found before it stay. -/
abbrev Build := ExceptT Unit (StateM Building)

namespace Build

/-- Report a problem; the message stands where it occurs. -/
def report (severity : Severity) (line : Option Nat) (text : List Char)
    (quote : Option (List Char) := none) : Build Node := do
  let text := match quote with
    | none => text
    | some q => text ++ "\n\n".toList ++ q
  let p : Problem := ⟨severity, line, text⟩
  modify fun b => { b with log := b.log ++ [p] }
  pure (.message p quote)

def stop {α : Type} : Build α :=
  throw ()

def inline (line : Nat) (s : List Char) : Build (List Inline × List Node) := do
  let (pieces, problems) := inlineContent line s
  modify fun b => { b with log := b.log ++ problems }
  pure (pieces, problems.map (.message · none))

/-- What is said about a block that is not set off from the line after it. -/
def unindentText (what : String) : List Char :=
  what.toList ++ " ends without a blank line; unexpected unindent.".toList

/-- Report that a block is not set off from the lines after it. -/
def unindent (what : String) (setOff : Bool) (rest : List Line) : Build (List Node) := do
  if setOff then pure []
  else return [← report .warning (rest.head?.map (·.number)) (unindentText what)]

def putTarget (t : NamedTarget) : List NamedTarget → List NamedTarget
  | [] => [t]
  | u :: rest => if u.name == t.name then t :: rest else u :: putTarget t rest

/-- Note the name of a section title. A name that titles share points to none of them. -/
def noteTitle (line : Nat) (name : List Char) : Build (List Node) := do
  match (← get).targets.find? (·.name == name) with
  | none =>
    modify fun b => { b with targets := b.targets ++ [⟨name, false, true, none⟩] }
    pure []
  | some t =>
    if !t.explicit then
      modify fun b => { b with targets := putTarget { t with unique := false } b.targets }
    let text := "Duplicate implicit target name: \"".toList ++ name ++ "\".".toList
    return [← report .info (some line) text]

/-- Note an explicit target. A second one with another address makes the name useless. -/
def noteTarget (line : Nat) (name : List Char) (address : Option (List Char)) : Build (List Node) := do
  let new : NamedTarget := ⟨name, true, true, address⟩
  match (← get).targets.find? (·.name == name) with
  | none =>
    modify fun b => { b with targets := b.targets ++ [new] }
    pure []
  | some t =>
    if !t.explicit then
      modify fun b => { b with targets := putTarget new b.targets }
      pure []
    else
      let same := t.unique && address.isSome && t.address == address
      if !same then
        modify fun b => { b with targets := putTarget { t with unique := false } b.targets }
      let text := "Duplicate explicit target name: \"".toList ++ name ++ "\".".toList
      return [← report (if same then .info else .warning) (some line) text]

end Build

end TypeComments.Markup
