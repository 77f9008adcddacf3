import TypeComments.Signature.Convert

/-!
Workloads: tasks of a chosen size that go through the cursor, the readers of docstrings and the writing
of comments. Each gives all that it computes.
-/

namespace TypeComments.Workload

open Docstring

def textOf (lines : List String) : List Char :=
  List.intercalate ['\n'] (lines.map String.toList)

def paramName (i : Nat) : String :=
  "p" ++ toString i

/-- A docstring in numpy format with `n` parameters. -/
def numpyDoc (n : Nat) : List Char :=
  textOf (["Summary.", "", "Parameters", "----------"] ++
    (List.range n).flatMap (fun i => [paramName i ++ " : str", "    description of " ++ paramName i]) ++
    ["", "Returns", "-------", "bool", "    whether it worked", "", "Yields", "------", "int",
     "    values", "", "Raises", "------", "ValueError", "    bad", "", ".. index:: foo", ""])

/-- A docstring in google format with `n` parameters. -/
def googleDoc (n : Nat) : List Char :=
  textOf (["Summary.", "", "Args:"] ++
    (List.range n).flatMap (fun i =>
      ["    " ++ paramName i ++ " (str): description of " ++ paramName i,
       "        more detail about " ++ paramName i]) ++
    ["", "Returns:", "    bool: whether it worked", "", "Yields:", "    int: values", "", "Raises:",
     "    ValueError: bad"])

/-- A docstring in numpy format with fields of every kind. -/
def numpySample : List Char :=
  textOf
    ["Summary of a function.", "", "A description that takes", "two lines.", "", "Parameters",
     "----------", "one : Union[str, int]", "    description of one", "two : str",
     "    description of two", "    that spans multiple lines", "three", "    omitted type",
     "*args : str", "    more values", "**kwargs : Any", "    named values", "", "Returns", "-------",
     "one : Union[str, int]", "    description of one", "two : str", "    description of two", "",
     "Yields", "------", "str", "    the values"]

/-- A docstring in google format with fields of every kind. -/
def googleSample : List Char :=
  textOf
    ["Summary of a function.", "", "A description that takes", "two lines.", "", "Args:",
     "    one (Union[str, int]): description of one", "    two (str): description of two",
     "        that spans multiple lines", "    four: omitted type", "    *args (str): more values",
     "    **kwargs (Any): named values", "", "Returns:",
     "    bool: True if successful, False otherwise", "", "Yields:", "    str: the values"]

/-- A docstring in the format of field lists. -/
def restSample : List Char :=
  textOf ["Summary of a function.", "", ":param one: description of one", ":returns: whether it worked",
    ":rtype: bool"]

/-- A docstring without a format. -/
def plainSample : List Char :=
  textOf ["Summary of a function."]

/-- A docstring in numpy format with two named results. -/
def namedSample : List Char :=
  textOf ["Summary of a function.", "", "Returns", "-------", "one : int", "    description of one",
    "two : str", "    description of two"]

/-- Read a docstring in a style, given how often. -/
def readOften (style : Style) (times : Nat) (doc : List Char) : Except Fault (List Report) :=
  (List.replicate times (splitLines doc)).mapM style.parse

/-- Read a generated docstring four times, then the sample. -/
def readSections (style : Style) (n : Nat) : Except Fault (List Report) := do
  let (generated, sample) := match style with
    | .numpy => (numpyDoc n, numpySample)
    | .google => (googleDoc n, googleSample)
  return (← readOften style 4 generated) ++ (← readOften style 1 sample)

/-- The docstrings of mixed formats, with what may be documented in them. -/
def mixedSamples : List (List Char × Options) :=
  [(numpySample, {}), (googleSample, {}), (restSample, {}), (plainSample, {}), (namedSample, {}),
   (namedSample, { allowNamedResults := false }), (numpySample, { allowYields := false })]

/-- Parse `n` docstrings of mixed formats, one kind after the other. -/
def parseMixed (n : Nat) : Parse (List Documented) :=
  (List.range n).mapM fun i =>
    let (doc, options) := mixedSamples.getD (i % mixedSamples.length) (plainSample, {})
    parseDocstring none none options doc

/-- A cursor over the numbers below `n`. -/
def numbers (n : Nat) (modify : Nat → Nat) : Cursor Unit Empty Nat (Option Nat) :=
  Cursor.start (fun k => .ok (some (modify k))) none (List.range n)

def sumOf (items : List (Option Nat)) : Nat :=
  (items.filterMap id).foldl (· + ·) 0

/-- Add up the numbers below `n`, and the numbers after them, and count what can be seen at the end of
both. There has to be a number. -/
def walk (n : Nat) : Except (CursorFault Empty) Nat := do
  let cursor := numbers n id
  let _ ← (cursor.take 0).1
  let (plain, ended) := cursor.drain
  let seen ← (ended.preview 2).1
  let raised ← (numbers n (· + 1)).drain.1
  return sumOf (← plain) + sumOf raised + seen.length

/-- The lines of a docstring in numpy format for parameters and a result, indented. -/
def documenting (indent : String) (params : List (String × String)) (result : List String) :
    List String :=
  let titled (title : String) (lines : List String) : List String :=
    if lines.isEmpty then []
    else title :: String.ofList (title.toList.map fun _ => '-') :: lines ++ [""]
  (["\x22\x22\x22"] ++
    titled "Parameters" (params.map fun (name, type) => name ++ " : " ++ type) ++
    titled "Returns" result ++ ["\x22\x22\x22"]).map (indent ++ ·)

def twoParams : List (String × String) :=
  [("one", "Union[str, int]"), ("two", "str")]

/-- A source with functions that get a comment and functions that get none; the last has `n`
parameters. -/
def sourceFor (n : Nat) : List Char :=
  textOf (
    ["def star_args(one, *two, **three):"] ++ documenting "    " twoParams ["bool"] ++
    ["", "def skipped(one, two, three):", "    # notype"] ++ documenting "    " twoParams ["bool"] ++
    ["", "def commented(one, two, three):", "    # this comment should be preserved"] ++
      documenting "    " twoParams ["bool"] ++
    ["", "def untyped(one):", "    \x22\x22\x22Nothing is documented.\x22\x22\x22"] ++
    ["", "def undocumented(one):", "    pass"] ++
    ["", "def silent():", "    return 1"] ++
    ["", "def yields():", "    \x22\x22\x22", "    Yields", "    ------", "    str", "    \x22\x22\x22"] ++
    ["", "class Holder:"] ++ documenting "    " twoParams [] ++
    ["    def method(self, one, two, three):"] ++ documenting "        " twoParams ["bool"] ++
    ["", "    def __init__(self, one, two, three):", "        pass"] ++
    ["", "def free(self, one, two, three):"] ++ documenting "    " twoParams ["bool"] ++
    ["", "def resultless(one):"] ++ documenting "    " [("one", "str")] []) ++
  "\n\ndef generated(".toList ++
  List.intercalate ", ".toList ((List.range n).map fun i => (paramName i).toList) ++
  "):\n    \x22\x22\x22".toList ++ numpyDoc n ++ "\x22\x22\x22\n".toList

/-- What stands in front of the bodies of the functions of a source after its conversion. -/
def bodyStarts (defaults : Signature.Defaults) (source : List Char) :
    Except Signature.Fault (List (List Char)) := do
  match Source.read source with
  | .error fault => throw (.source fault)
  | .ok tree =>
    let (outcome, s) := (Signature.visitInOrder defaults [] (Signature.visitOrder tree)).run.run { tree }
    outcome
    pure (s.tree.allFunctions.map fun f =>
      match f.body.block? with
      | some block => block.indent.before
      | none => [])

/-- Write comments into the source for `n`. -/
def writeComments (n : Nat) : Except Signature.Fault (List (List Char)) :=
  bodyStarts { format := some .numpy, argTypes := [("three".toList, "float".toList)] } (sourceFor n)

end TypeComments.Workload
