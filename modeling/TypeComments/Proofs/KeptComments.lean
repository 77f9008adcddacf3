import TypeComments.Proofs.RepeatedConversion

/-!
# Which comments a conversion keeps

A conversion puts its comment in front of what stands there, unless that starts with a type comment: then all of
it goes, ordinary comments as well. So the ordinary comments in front of a body are kept if no type comment
stands above them all (`Definition.ordinaryComments_after`); and since the tool's own comment does, the next
conversion that rewrites the function drops them (`Definition.ordinaryComments_after_after`).
-/

namespace TypeComments.Signature
open Source Docstring
variable {defaults : Defaults} {file : List Char} {d : Definition} {tree : Tree}

def isComment (line : List Char) : Bool :=
  (line.dropWhile isSpacing).head? == some '#'

/-- The lines of a text that are comments but no type comments. -/
def ordinaryComments (text : List Char) : List (List Char) :=
  (physicalLines text).filter fun l => isComment l && !isTypeComment l

theorem ordinaryComments_suffix (defaults : Defaults) (d : Definition) (types : Types) (rest : List Char) :
    ordinaryComments rest <:+ ordinaryComments (d.blanks ++ d.comment defaults types ++ rest) := by
  obtain ⟨signature, hcomment, -⟩ := Definition.comment_eq defaults d types
  have htext : d.blanks ++ d.comment defaults types ++ rest =
      (d.blanks ++ ("# type: ".toList ++ signature)) ++ ['\n'] ++ rest := by
    rw [hcomment]
    simp only [List.append_assoc]
  -- the comment ends in a line feed, so the lines below it are cut as before
  rw [htext, ordinaryComments, ordinaryComments, physicalLines_append_feed, List.filter_append]
  exact List.suffix_append _ _

theorem Definition.ordinaryComments_after (defaults : Defaults) (h : isTypeComment d.before = false) :
    (ordinaryComments d.before).Sublist (ordinaryComments (d.after defaults).before) := by
  by_cases hnew : d.newBefore defaults = none
  · rw [Definition.after_of_none hnew]
  · obtain ⟨types, -, -, -, heq⟩ := Definition.after_of_ne_none hnew
    rw [heq, if_neg (by simp [h])]
    exact (ordinaryComments_suffix defaults d types d.before).sublist

section
variable (hd : defaults.Clear (· == '\n')) (h : d.OneLine defaults) (hblanks : d.blanks.all isSpacing = true)
include hd h hblanks

theorem Definition.ordinaryComments_comment {types : Types} (htypes : types ∈ d.types? defaults) (rest : List Char) :
    ordinaryComments (d.blanks ++ d.comment defaults types ++ rest) = ordinaryComments rest := by
  have hline := (Definition.isIdle_comment_line hd (h types htypes) hblanks).1
  have htype := Definition.isTypeComment_comment defaults hblanks types []
  rw [List.append_nil] at htype
  rw [ordinaryComments, hline.physicalLines_append, List.filter_cons, if_neg (by simp [htype])]
  rfl

variable (hnew : d.newBefore defaults ≠ none)
include hnew

/-- The ordinary comments of a definition that is rewritten are kept just where no type comment stands above them. -/
theorem Definition.kept_iff :
    (ordinaryComments d.before).Sublist (ordinaryComments (d.after defaults).before) ↔
      isTypeComment d.before = false ∨ ordinaryComments d.before = [] := by
  obtain ⟨types, htypes, -, -, heq⟩ := Definition.after_of_ne_none hnew
  constructor
  · intro hkept
    rw [heq, Definition.ordinaryComments_comment hd h hblanks htypes] at hkept
    cases htype : isTypeComment d.before with
    | false => exact .inl rfl
    | true =>
      rw [htype, if_pos rfl] at hkept
      exact .inr (List.sublist_nil.1 hkept)
  · rintro (htype | hnone)
    · exact Definition.ordinaryComments_after defaults htype
    · rw [hnone]
      exact List.nil_sublist _

/-- Two conversions leave no ordinary comment in front of a definition that the first one rewrites. -/
theorem Definition.ordinaryComments_after_after :
    ordinaryComments ((d.after defaults).after defaults).before = [] := by
  obtain ⟨types, htypes, hempty, hopt, heq⟩ := Definition.after_of_ne_none hnew
  rw [heq, Definition.after_comment hblanks htypes hempty hopt]
  have hcomment := Definition.ordinaryComments_comment hd h hblanks htypes []
  rw [List.append_nil] at hcomment
  exact hcomment

end

/-- Which comments a conversion keeps. In front of each function whose text does not start with a type comment the
ordinary comments stay, in their order. A function that is rewritten, with types on one line, loses them all if its
text does start with a type comment. So two conversions in a row lose those of each function that is rewritten. -/
theorem comments_kept_iff {source : List Char} {c : Converted} {ms ms' : List Message}
    (hread : read source = .ok tree) (hrun : (convert defaults file source).run.run ms = (.ok c, ms')) :
    (∃ e, Retouch e ∧ c.text = (tree.mapTokens e).source ∧
      ∀ f ∈ tree.allFunctions, ∃ d t, definition? f = some d ∧ f.opening? = some t ∧ t.before = d.before ∧
        (e t).before = (d.newBefore defaults).getD t.before ∧
        (isTypeComment t.before = false → (ordinaryComments t.before).Sublist (ordinaryComments (e t).before)) ∧
        (defaults.Clear (· == '\n') → d.OneLine defaults → d.newBefore defaults ≠ none →
          ((ordinaryComments t.before).Sublist (ordinaryComments (e t).before) ↔
            isTypeComment t.before = false ∨ ordinaryComments t.before = []))) ∧
    (tree.Printed → defaults.Clear (· == '\n') → (∀ d, some d ∈ definitions tree → d.OneLine defaults) →
      ∃ tree₂ : Tree, tree₂.Printed ∧
        (∀ ns, ∃ ns', (convertTimes defaults file 2 source).run.run ns = (.ok tree₂.source, ns')) ∧
        ∀ (i : Nat) (d : Definition), (definitions tree)[i]? = some (some d) → d.newBefore defaults ≠ none →
          ∃ d₂, (definitions tree₂)[i]? = some (some d₂) ∧ ordinaryComments d₂.before = []) := by
  obtain ⟨htext, hall⟩ := convert_ok hread hrun
  refine ⟨⟨editAll defaults tree, retouch_editAll defaults tree, htext, fun f hf => ?_⟩, fun hprinted hd hline => ?_⟩
  · obtain ⟨d, t, hdef, ht, hblanks, hbefore, hedit⟩ := editToken_opening hread hf (hall f hf)
    have hspacing := ((read_blocks hread).1 t (mem_leaves_of_opening hf ht) (Tree.opening?_kind ht)).1
    have hafter : (editAll defaults tree t).before = (d.after defaults).before := by
      rw [editAll, hedit, Definition.after, hbefore]
    refine ⟨d, t, hdef, ht, hbefore.symm, by rw [hafter, Definition.after, hbefore], ?_, ?_⟩
    · rw [hafter, ← hbefore]
      exact Definition.ordinaryComments_after defaults
    · rw [hafter, ← hbefore]
      exact fun hd hone hnew => Definition.kept_iff hd hone (hblanks ▸ hspacing) hnew
  · -- after the first conversion the tool's own comment stands above the others
    have h : Repeatable defaults file tree := ⟨hprinted, hall, hline⟩
    obtain ⟨tree₁, h₁, hdefs₁, -, hruns₁⟩ := h.next hd
    obtain ⟨tree₂, h₂, hdefs₂, -, hruns₂⟩ := h₁.next hd
    refine ⟨tree₂, h₂.printed, fun ns => ?_, fun i d hi hnew => ?_⟩
    · obtain ⟨ns₁, hfirst⟩ := hruns₁ source hread 1 ns
      obtain ⟨ns₂, hsecond⟩ := hruns₂ _ h₁.printed 0 ns₁
      exact ⟨ns₂, hfirst.trans hsecond⟩
    · have hmem := List.mem_of_getElem? hi
      refine ⟨(d.after defaults).after defaults, ?_,
        Definition.ordinaryComments_after_after hd (hline d hmem) (h.blanks hmem) hnew⟩
      rw [hdefs₂, hdefs₁, List.getElem?_map, List.getElem?_map, hi]
      rfl

theorem comments_kept_iff_commented : ∃ tree c ms, read commentedSource = .ok tree ∧
    (convert {} [] commentedSource).run.run [] = (.ok c, ms) ∧
    (∃ e, Retouch e ∧ c.text = (tree.mapTokens e).source ∧
      ∀ f ∈ tree.allFunctions, ∃ d t, definition? f = some d ∧ f.opening? = some t ∧ t.before = d.before ∧
        (e t).before = (d.newBefore {}).getD t.before ∧
        (isTypeComment t.before = false → (ordinaryComments t.before).Sublist (ordinaryComments (e t).before)) ∧
        (d.newBefore {} ≠ none → ((ordinaryComments t.before).Sublist (ordinaryComments (e t).before) ↔
          isTypeComment t.before = false ∨ ordinaryComments t.before = []))) ∧
    ∃ tree₂ : Tree, tree₂.Printed ∧
      (∀ ns, ∃ ns', (convertTimes {} [] 2 commentedSource).run.run ns = (.ok tree₂.source, ns')) ∧
      ∀ (i : Nat) (d : Definition), (definitions tree)[i]? = some (some d) → d.newBefore {} ≠ none →
        ∃ d₂, (definitions tree₂)[i]? = some (some d₂) ∧ ordinaryComments d₂.before = [] := by
  obtain ⟨tree, c, ms, hread, hprinted, hrun, htypes, -⟩ := convert_commentedSource
  have hdefaults : Defaults.Clear (· == '\n') {} := ⟨fun q hq => (nomatch hq), by decide⟩
  obtain ⟨⟨e, he, htext, hfunctions⟩, htwice⟩ := comments_kept_iff hread hrun
  refine ⟨tree, c, ms, hread, hrun, ⟨e, he, htext, fun f hf => ?_⟩, htwice hprinted hdefaults htypes⟩
  obtain ⟨d, t, hd, ht, hbefore, hnew, hkept, hiff⟩ := hfunctions f hf
  exact ⟨d, t, hd, ht, hbefore, hnew, hkept, hiff hdefaults (htypes d (List.mem_map.2 ⟨f, hf, hd⟩))⟩

/-- The comment that the first conversion keeps is gone after the second one. -/
theorem second_conversion_drops_comment :
    ((convertTimes {} [] 1 commentedSource).run.run []).1.toOption = some
      "def f(x):\n  # type: (int) -> Any\n  # a\n  \"\"\"\n  Args:\n   x (int)\n  \"\"\"\n".toList ∧
    ((convertTimes {} [] 2 commentedSource).run.run []).1.toOption = some
      "def f(x):\n  # type: (int) -> Any\n  \"\"\"\n  Args:\n   x (int)\n  \"\"\"\n".toList ∧
    ordinaryComments "  # type: (int) -> Any\n  # a\n".toList = ["  # a\n".toList] ∧
    ordinaryComments "  # type: (int) -> Any\n".toList = [] := by
  decide +kernel

end TypeComments.Signature
