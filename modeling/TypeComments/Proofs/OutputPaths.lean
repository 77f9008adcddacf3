import TypeComments.Command.Run
import TypeComments.Proofs.TextPieces

/-!
# Where converted files go

The output for an argument has the place under the output directory that the argument has under the base. The
base comes from the text that all arguments start with. An argument is refused just where this text is the name
of a directory that the argument is not in (`outputPath?_eq_none_iff`). What is left of an argument after the base
is followed from the output directory on (`placeOf_joinPath`), so the output lies in it, whatever directory that
is, just where what is left does not lead out of its own start (`output_under_iff`). A path from the root does,
and so do two slashes after the base and parent parts that climb.
-/

namespace TypeComments

namespace Command

/-! ### Places -/

namespace Place

/-- The place `place` is the directory `dir`, or is in it or below it. -/
def Under (dir place : Place) : Prop :=
  ∃ parts : Place, place = dir ++ parts ∧ parts.isInside = true

def climb (place : Place) : Nat → Place
  | 0 => place
  | k + 1 => (place.climb k).enter parentPart

def Names (names : Place) : Prop :=
  ∀ name ∈ names, name ≠ parentPart ∧ name ≠ ['/']

variable {place names : Place} {part : List Char} {k : Nat}

theorem enter_skip (h : part = [] ∨ part = ['.']) : place.enter part = place := by
  rw [enter, if_pos (by rcases h with rfl | rfl <;> decide)]

theorem enter_name (h : ¬ (part = [] ∨ part = ['.'])) (hparent : part ≠ parentPart) :
    place.enter part = place ++ [part] := by
  rw [enter, if_neg (by simpa using h), if_pos (by simpa using hparent)]

theorem enter_parent_concat (hparent : part ≠ parentPart) (hroot : part ≠ ['/']) :
    enter (place ++ [part]) parentPart = place := by
  have hne : place ++ [part] ≠ rootPlace := by
    intro h
    have hlast : (place ++ [part]).getLast? = some ['/'] := by rw [h]; rfl
    rw [List.getLast?_concat] at hlast
    exact hroot (Option.some.inj hlast)
  rw [enter, if_neg (by decide), if_neg (by decide), if_neg (by simpa using hne), if_neg (by simp [hparent]),
    List.dropLast_concat]

theorem climb_nil (k : Nat) : climb [] k = List.replicate k parentPart := by
  induction k with
  | zero => rfl
  | succ k ih =>
    have hall : (List.replicate k parentPart).all (· == parentPart) = true := by simp
    have hroot : List.replicate k parentPart ≠ rootPlace := by
      intro h
      have : ['/'] ∈ List.replicate k parentPart := h ▸ .head _
      exact absurd (List.eq_of_mem_replicate this) (by decide)
    rw [climb, ih, enter, if_neg (by decide), if_neg (by decide), if_neg (by simpa using hroot), if_pos hall,
      List.replicate_succ']

/-- One part of a path does the same wherever the path starts. -/
theorem enter_climb (hnames : Names names) (hpart : part ≠ ['/']) : ∃ k' names', Names names' ∧
    ∀ place : Place, enter (place.climb k ++ names) part = place.climb k' ++ names' := by
  by_cases hskip : part = [] ∨ part = ['.']
  · exact ⟨k, names, hnames, fun place => enter_skip hskip⟩
  by_cases hparent : part = parentPart
  · subst hparent
    rcases List.eq_nil_or_concat names with rfl | ⟨ms, m, rfl⟩
    · exact ⟨k + 1, [], hnames, fun place => by rw [List.append_nil, List.append_nil, climb]⟩
    · rw [List.concat_eq_append] at hnames ⊢
      have hm := hnames m (by simp)
      refine ⟨k, ms, fun n hn => hnames n (by simp [hn]), fun place => ?_⟩
      rw [← List.append_assoc, enter_parent_concat hm.1 hm.2]
  · refine ⟨k, names ++ [part], fun n hn => ?_, fun place => ?_⟩
    · rcases List.mem_append.1 hn with hn | hn
      · exact hnames n hn
      · exact List.mem_singleton.1 hn ▸ ⟨hparent, hpart⟩
    · rw [enter_name hskip hparent, List.append_assoc]

theorem foldl_enter_climb {parts : List (List Char)} (hnames : Names names) (hparts : ∀ part ∈ parts, part ≠ ['/']) :
    ∃ k' names', Names names' ∧
      ∀ place : Place, parts.foldl enter (place.climb k ++ names) = place.climb k' ++ names' := by
  induction parts generalizing k names with
  | nil => exact ⟨k, names, hnames, fun _ => rfl⟩
  | cons part parts ih =>
    obtain ⟨k₁, names₁, hnames₁, hstep⟩ := enter_climb (k := k) hnames (hparts part (.head _))
    obtain ⟨k', names', hnames', hrun⟩ := ih (k := k₁) hnames₁ fun p hp => hparts p (.tail _ hp)
    refine ⟨k', names', hnames', fun place => ?_⟩
    rw [List.foldl_cons, hstep, hrun]

theorem foldl_enter_names {parts : List (List Char)} (hnames : Names names)
    (hparts : ∀ part ∈ parts, part ≠ ['/'] ∧ part ≠ parentPart) : Names (parts.foldl enter names) := by
  induction parts generalizing names with
  | nil => exact hnames
  | cons part parts ih =>
    obtain ⟨hroot, hparent⟩ := hparts part (.head _)
    refine ih ?_ fun p hp => hparts p (.tail _ hp)
    by_cases hskip : part = [] ∨ part = ['.']
    · rw [enter_skip hskip]
      exact hnames
    · rw [enter_name hskip hparent]
      intro n hn
      rcases List.mem_append.1 hn with hn | hn
      · exact hnames n hn
      · exact List.mem_singleton.1 hn ▸ ⟨hparent, hroot⟩

theorem Names.isInside (h : Names names) : names.isInside = true := by
  cases names with
  | nil => rfl
  | cons n names =>
    obtain ⟨hparent, hroot⟩ := h n (.head _)
    simp [Place.isInside, hparent, hroot]

end Place

/-! ### Paths -/

section
variable {path rest output : List Char}

theorem part_ne_root (path : List Char) : ∀ part ∈ List.splitOn '/' path, part ≠ ['/'] := by
  rintro part hpart rfl
  exact not_mem_of_mem_splitOn hpart (.head _)

/-- What a relative path leads to, from any place. -/
theorem follow_relative (hrest : rest.head? ≠ some '/') : ∃ k names, Place.Names names ∧
    placeOf rest = List.replicate k parentPart ++ names ∧
    ∀ place : Place, (List.splitOn '/' rest).foldl Place.enter place = place.climb k ++ names := by
  have hnone : Place.Names [] := by
    intro n hn
    cases hn
  obtain ⟨k, names, hnames, hrun⟩ := Place.foldl_enter_climb (k := 0) hnone (part_ne_root rest)
  refine ⟨k, names, hnames, ?_, fun place => ?_⟩
  · rw [placeOf, startOf, if_neg (by simpa using hrest), ← Place.climb_nil k, ← hrun []]
    rfl
  · rw [← hrun place, Place.climb, List.append_nil]

theorem placeOf_head_absolute (h : path.head? = some '/') : ∃ names, placeOf path = ['/'] :: names := by
  rw [placeOf, startOf, if_pos (by simpa using h)]
  generalize List.splitOn '/' path = parts
  -- the root stays where it is
  suffices hroot : ∀ (names : Place), ∃ names', parts.foldl Place.enter (['/'] :: names) = ['/'] :: names' by
    exact hroot []
  induction parts with
  | nil => exact fun names => ⟨names, rfl⟩
  | cons part parts ih =>
    intro names
    have hstep : ∃ names', Place.enter (['/'] :: names) part = ['/'] :: names' := by
      unfold Place.enter
      split
      · exact ⟨names, rfl⟩
      split
      · exact ⟨names ++ [part], rfl⟩
      split
      · exact ⟨names, rfl⟩
      split
      · rename_i hall
        exact absurd hall (by simp [parentPart])
      · rename_i hroot _
        cases names with
        | nil => exact absurd hroot (by decide)
        | cons n names => exact ⟨(n :: names).dropLast, rfl⟩
    obtain ⟨names', hstep⟩ := hstep
    rw [List.foldl_cons, hstep]
    exact ih names'

/-- A relative path inside a directory is followed from that directory on. -/
theorem placeOf_joinPath (houtput : output ≠ []) (hrest : rest.head? ≠ some '/') :
    placeOf (joinPath output rest) = (List.splitOn '/' rest).foldl Place.enter (placeOf output) := by
  have hstart (t : List Char) : startOf (output ++ t) = startOf output := by
    obtain ⟨c, s, rfl⟩ := List.exists_cons_of_ne_nil houtput
    rfl
  rw [joinPath, if_neg (by simpa using hrest)]
  by_cases hslash : endsInSlash output = true
  · rw [if_pos (by rw [hslash, Bool.or_true])]
    obtain ⟨s, rfl⟩ : ∃ s, output = s ++ ['/'] := by
      rw [endsInSlash, beq_iff_eq, List.getLast?_eq_some_iff] at hslash
      exact hslash
    have hend : List.splitOn '/' (s ++ ['/']) = List.splitOn '/' s ++ [[]] := List.splitOn_append_cons_self s []
    have hall : List.splitOn '/' (s ++ ['/'] ++ rest) = List.splitOn '/' s ++ List.splitOn '/' rest := by
      rw [List.append_assoc]
      exact List.splitOn_append_cons_self s rest
    rw [placeOf, hstart, hall, placeOf, hend, List.foldl_append, List.foldl_append]
    rfl
  · rw [if_neg (by simpa [hslash] using houtput), placeOf, hstart, List.splitOn_append_cons_self, List.foldl_append]
    rfl

end

/-! ### The base -/

section
variable {isDirectory : List Char → Bool} {paths : List (List Char)} {f path output : List Char}

theorem sharedHead_isPrefix (s t : List Char) : sharedHead s t <+: s ∧ sharedHead s t <+: t := by
  fun_induction sharedHead s t with
  | case1 a s b t hab ih =>
    obtain rfl := beq_iff_eq.1 hab
    exact ⟨List.cons_prefix_cons.2 ⟨rfl, ih.1⟩, List.cons_prefix_cons.2 ⟨rfl, ih.2⟩⟩
  | case2 => exact ⟨List.nil_prefix, List.nil_prefix⟩
  | case3 => exact ⟨List.nil_prefix, List.nil_prefix⟩

theorem foldl_sharedHead_isPrefix (s : List Char) (rest : List (List Char)) :
    rest.foldl sharedHead s <+: s ∧ ∀ t ∈ rest, rest.foldl sharedHead s <+: t := by
  induction rest generalizing s with
  | nil => exact ⟨List.prefix_rfl, fun t ht => by cases ht⟩
  | cons t rest ih =>
    obtain ⟨hs, hall⟩ := ih (sharedHead s t)
    refine ⟨hs.trans (sharedHead_isPrefix s t).1, fun u hu => ?_⟩
    rcases List.mem_cons.1 hu with rfl | hu
    · exact hs.trans (sharedHead_isPrefix s u).2
    · exact hall u hu

theorem commonStart_isPrefix (hf : f ∈ paths) : commonStart paths <+: f := by
  cases paths with
  | nil => cases hf
  | cons s rest =>
    obtain ⟨hs, hall⟩ := foldl_sharedHead_isPrefix s rest
    rcases List.mem_cons.1 hf with rfl | hf
    · exact hs
    · exact hall f hf

theorem exists_trimSlashes (path : List Char) : ∃ m, path = trimSlashes path ++ List.replicate m '/' := by
  refine ⟨(path.reverse.takeWhile (· == '/')).length, ?_⟩
  have hslashes : path.reverse.takeWhile (· == '/') =
      List.replicate (path.reverse.takeWhile (· == '/')).length '/' := by
    refine List.eq_replicate_of_mem fun c hc => ?_
    simpa using List.all_eq_true.1 List.all_takeWhile c hc
  have hsplit := congrArg List.reverse (List.takeWhile_append_dropWhile (p := (· == '/')) (l := path.reverse))
  rw [List.reverse_append, List.reverse_reverse, hslashes, List.reverse_replicate] at hsplit
  exact hsplit.symm

theorem endsInSlash_trimSlashes (path : List Char) : endsInSlash (trimSlashes path) = false := by
  rw [endsInSlash, trimSlashes, List.getLast?_reverse, beq_eq_false_iff_ne]
  intro h
  have := List.head?_dropWhile_not (· == '/') path.reverse
  rw [h] at this
  simp at this

theorem trimSlashes_eq_self (h : endsInSlash path = false) : trimSlashes path = path := by
  obtain ⟨m, hm⟩ := exists_trimSlashes path
  cases m with
  | zero => simpa using hm.symm
  | succ m =>
    rw [List.replicate_succ', ← List.append_assoc] at hm
    rw [endsInSlash, hm, List.getLast?_concat] at h
    simp at h

theorem withSlash_trimSlashes (path : List Char) : withSlash (trimSlashes path) =
    if trimSlashes path = [] then [] else trimSlashes path ++ ['/'] := by
  rw [withSlash, endsInSlash_trimSlashes, Bool.or_false]
  by_cases h : trimSlashes path = []
  · rw [if_pos h, if_pos (by simpa using h), h]
  · rw [if_neg h, if_neg (by simpa using h)]

/-- A text that ends in a slash starts with the directory that it names. -/
theorem withSlash_trimSlashes_isPrefix (h : path = [] ∨ endsInSlash path = true) :
    withSlash (trimSlashes path) <+: path := by
  rw [withSlash_trimSlashes]
  split
  · exact List.nil_prefix
  · rename_i hne
    obtain ⟨m, hm⟩ := exists_trimSlashes path
    cases m with
    | zero =>
      rw [List.replicate_zero, List.append_nil] at hm
      rcases h with rfl | h
      · exact absurd rfl hne
      · rw [hm, endsInSlash_trimSlashes] at h
        cases h
    | succ m =>
      refine ⟨List.replicate m '/', ?_⟩
      rw [List.append_assoc]
      exact hm.symm

/-- The directory of a path is named by a start of the path that ends in a slash. -/
theorem directoryOf_eq (path : List Char) : ∃ head, head <+: path ∧ (head = [] ∨ endsInSlash head = true) ∧
    trimSlashes (directoryOf path) = trimSlashes head := by
  refine ⟨(path.reverse.dropWhile (· != '/')).reverse, ?_, ?_, ?_⟩
  · rw [← List.reverse_suffix, List.reverse_reverse]
    exact List.dropWhile_suffix _
  · rw [List.reverse_eq_nil_iff, endsInSlash, List.getLast?_reverse, beq_iff_eq]
    have hhead := List.head?_dropWhile_not (· != '/') path.reverse
    cases hdrop : path.reverse.dropWhile (· != '/') with
    | nil => exact .inl rfl
    | cons c s =>
      rw [hdrop] at hhead
      exact .inr (by simpa using hhead)
  · rw [directoryOf]
    split
    · rfl
    · exact trimSlashes_eq_self (endsInSlash_trimSlashes _)

/-- What all paths start with is the name of a directory, and the path is not in it. -/
structure BesideDirectory (isDirectory : List Char → Bool) (paths : List (List Char)) (f : List Char) : Prop where
  isDirectory : isDirectory (commonStart paths) = true
  ne_nil : commonStart paths ≠ []
  unended : endsInSlash (commonStart paths) = false
  outside : ¬ commonStart paths ++ ['/'] <+: f

/-- All paths that are not beside such a directory start with the base. -/
theorem base_isPrefix_iff (hf : f ∈ paths) : withSlash (trimSlashes (baseDirectory isDirectory paths)) <+: f ↔
    ¬ BesideDirectory isDirectory paths f := by
  have hstart := commonStart_isPrefix hf
  rw [baseDirectory]
  by_cases hend : commonStart paths = [] ∨ endsInSlash (commonStart paths) = true
  · rw [if_pos (by rcases hend with h | h <;> simp [h])]
    refine iff_of_true ((withSlash_trimSlashes_isPrefix hend).trans hstart) fun h => ?_
    rcases hend with hnil | hslash
    · exact h.ne_nil hnil
    · rw [h.unended] at hslash
      cases hslash
  · rw [not_or, Bool.not_eq_true] at hend
    by_cases hdir : isDirectory (commonStart paths) = true
    · rw [if_pos (by rw [hdir, Bool.or_true]), withSlash_trimSlashes, trimSlashes_eq_self hend.2, if_neg hend.1]
      constructor
      · intro hin h
        exact h.outside hin
      · intro hbeside
        by_contra hout
        exact hbeside ⟨hdir, hend.1, hend.2, hout⟩
    · rw [if_neg (by simp [hend.1, hend.2, hdir])]
      obtain ⟨head, hhead, hslash, heq⟩ := directoryOf_eq (commonStart paths)
      rw [heq]
      exact iff_of_true (((withSlash_trimSlashes_isPrefix hslash).trans hhead).trans hstart)
        fun h => hdir h.isDirectory

def afterBase (isDirectory : List Char → Bool) (paths : List (List Char)) (f : List Char) : List Char :=
  f.drop (withSlash (trimSlashes (baseDirectory isDirectory paths))).length

theorem outputPath?_eq_none_iff (hf : f ∈ paths) :
    outputPath? (trimSlashes (baseDirectory isDirectory paths)) output f = none ↔ BesideDirectory isDirectory paths f := by
  rw [← not_iff_not, ← base_isPrefix_iff hf, outputPath?]
  split
  · rename_i h
    exact iff_of_true (by simp) (List.isPrefixOf_iff_prefix.1 h)
  · rename_i h
    exact iff_of_false (by simp) fun hp => h (List.isPrefixOf_iff_prefix.2 hp)

theorem outputPath?_eq_some (hf : f ∈ paths) (hbeside : ¬ BesideDirectory isDirectory paths f) :
    outputPath? (trimSlashes (baseDirectory isDirectory paths)) output f =
      some (joinPath output (afterBase isDirectory paths f)) := by
  have hprefix := List.isPrefixOf_iff_prefix.2 ((base_isPrefix_iff hf).2 hbeside)
  rw [outputPath?, if_pos hprefix]
  rfl

/-- A path without doubled slashes and parent parts stays below the base, if it is relative or the base has a name. -/
theorem afterBase_isInside (hf : f ∈ paths) (hbeside : ¬ BesideDirectory isDirectory paths f)
    (hroot : f.head? ≠ some '/' ∨ trimSlashes (baseDirectory isDirectory paths) ≠ []) (hslashes : ¬ ['/', '/'] <:+: f)
    (hparent : parentPart ∉ List.splitOn '/' f) : (placeOf (afterBase isDirectory paths f)).isInside = true := by
  obtain ⟨rest, hrest⟩ := (base_isPrefix_iff hf).2 hbeside
  have hafter : afterBase isDirectory paths f = rest := by rw [afterBase, ← hrest, List.drop_left]
  rw [withSlash_trimSlashes] at hrest
  have hrelative : rest.head? ≠ some '/' ∧ parentPart ∉ List.splitOn '/' rest := by
    split at hrest
    · rename_i hnil
      rw [List.nil_append] at hrest
      rw [hrest]
      exact ⟨hroot.resolve_right (fun h => h hnil), hparent⟩
    · rw [List.append_assoc, List.singleton_append] at hrest
      refine ⟨fun hhead => hslashes ?_, fun hmem => hparent ?_⟩
      · obtain ⟨s, rfl⟩ := List.head?_eq_some_iff.1 hhead
        exact ⟨_, s, by rw [← hrest, List.append_assoc]; rfl⟩
      · rw [← hrest, List.splitOn_append_cons_self]
        exact List.mem_append_right _ hmem
  rw [hafter, placeOf, startOf, if_neg (by simpa using hrelative.1)]
  refine (Place.foldl_enter_names (by intro n hn; cases hn) fun part hpart => ⟨part_ne_root rest part hpart, ?_⟩).isInside
  rintro rfl
  exact hrelative.2 hpart

end

/-! ### The output -/

section
variable {p : Plan} {base f : List Char} {w : Work}

theorem targetOf_of_some {target : List Char} (hp : p.outputDirectory ≠ [])
    (h : outputPath? base p.outputDirectory f = some target) : (targetOf p base f).run.run w = (.ok target, w) := by
  rw [targetOf, if_neg (by simpa using hp), h]
  rfl

theorem targetOf_of_none (hp : p.outputDirectory ≠ []) (h : outputPath? base p.outputDirectory f = none) :
    (targetOf p base f).run.run w = (.error (.outsideBase f (withSlash base)), w) := by
  rw [targetOf, if_neg (by simpa using hp), h]
  rfl

theorem Plan.base_eq (hp : p.outputDirectory ≠ []) (isDirectory : List Char → Bool) (paths : List (List Char)) :
    p.base isDirectory paths = trimSlashes (baseDirectory isDirectory paths) := by
  rw [Plan.base]
  exact if_neg (by simpa using hp)

/-- A plan that says where the output goes, and nothing else. -/
def Plan.into (output : List Char) : Plan :=
  .ofSettings ⟨[("output_dir".toList, .text output)], []⟩

/-- A path that stays below its start stays below the directory that it is followed from. -/
theorem under_joinPath {output rest : List Char} (houtput : output ≠ []) (h : (placeOf rest).isInside = true) :
    Place.Under (placeOf output) (placeOf (joinPath output rest)) := by
  by_cases hrest : rest.head? = some '/'
  · obtain ⟨names, hplace⟩ := placeOf_head_absolute hrest
    rw [hplace] at h
    cases h
  · obtain ⟨k, names, hnames, hplace, hfollow⟩ := follow_relative hrest
    rw [placeOf_joinPath houtput hrest, hfollow]
    cases k with
    | zero => exact ⟨names, rfl, hnames.isInside⟩
    | succ k =>
      rw [hplace, List.replicate_succ] at h
      cases h

/-- A path that leads out of its start leads out of one of any two directories with other names. -/
theorem isInside_of_under {rest : List Char} (ha : Place.Under (placeOf ['a']) (placeOf (joinPath ['a'] rest)))
    (hb : Place.Under (placeOf ['b']) (placeOf (joinPath ['b'] rest))) : (placeOf rest).isInside = true := by
  by_cases hrest : rest.head? = some '/'
  · obtain ⟨names, hplace⟩ := placeOf_head_absolute hrest
    rw [joinPath, if_pos (by simpa using hrest), hplace] at ha
    obtain ⟨parts, hparts, -⟩ := ha
    cases hparts
  · obtain ⟨k, names, hnames, hplace, hfollow⟩ := follow_relative hrest
    rw [placeOf_joinPath (by decide) hrest, hfollow] at ha hb
    cases k with
    | zero =>
      rw [hplace, List.replicate_zero, List.nil_append]
      exact hnames.isInside
    | succ k =>
      -- one level up both directories are gone, and the names that follow cannot lead back to both
      have hup (c : Char) (hc : placeOf [c] = [[c]]) (hdrop : Place.enter [[c]] parentPart = []) :
          Place.climb (placeOf [c]) (k + 1) = List.replicate k parentPart := by
        rw [← Place.climb_nil, hc]
        clear hfollow hplace ha hb
        induction k with
        | zero => exact hdrop
        | succ k ih => rw [Place.climb, ih, Place.climb]
      rw [hup 'a' (by decide) (by decide)] at ha
      rw [hup 'b' (by decide) (by decide)] at hb
      obtain ⟨as, has, -⟩ := ha
      obtain ⟨bs, hbs, -⟩ := hb
      rw [has] at hbs
      cases hbs

end

/-- Where the output for an argument goes. It is refused just where the text that all arguments start with is the
name of a directory that the argument is not in. It lies in the output directory, for every relative one, just
where it is not refused and what follows the base does not lead out of its start. So it does for an argument
without doubled slashes and parent parts that is relative, or that shares a directory below the root with the
others. -/
theorem output_under_iff (isDirectory : List Char → Bool) {paths : List (List Char)} {f : List Char} (hf : f ∈ paths) :
    (∀ (p : Plan) (w : Work), p.outputDirectory ≠ [] →
      ((∃ fault, (targetOf p (p.base isDirectory paths) f).run.run w = (.error fault, w)) ↔
        BesideDirectory isDirectory paths f)) ∧
    ((∀ (p : Plan) (w : Work), p.outputDirectory ≠ [] → p.outputDirectory.head? ≠ some '/' →
        ∃ target, (targetOf p (p.base isDirectory paths) f).run.run w = (.ok target, w) ∧
          Place.Under (placeOf p.outputDirectory) (placeOf target)) ↔
      ¬ BesideDirectory isDirectory paths f ∧ (placeOf (afterBase isDirectory paths f)).isInside = true) ∧
    (¬ BesideDirectory isDirectory paths f → ¬ ['/', '/'] <:+: f → parentPart ∉ List.splitOn '/' f →
      (f.head? ≠ some '/' ∨ trimSlashes (baseDirectory isDirectory paths) ≠ []) →
      (placeOf (afterBase isDirectory paths f)).isInside = true) := by
  have hsome {p : Plan} (w : Work) (hp : p.outputDirectory ≠ []) (hbeside : ¬ BesideDirectory isDirectory paths f) :
      (targetOf p (p.base isDirectory paths) f).run.run w =
        (.ok (joinPath p.outputDirectory (afterBase isDirectory paths f)), w) := by
    rw [Plan.base_eq hp]
    exact targetOf_of_some hp (outputPath?_eq_some hf hbeside)
  have hnone {p : Plan} (w : Work) (hp : p.outputDirectory ≠ []) (hbeside : BesideDirectory isDirectory paths f) :
      ∃ fault, (targetOf p (p.base isDirectory paths) f).run.run w = (.error fault, w) := by
    rw [Plan.base_eq hp]
    exact ⟨_, targetOf_of_none hp ((outputPath?_eq_none_iff hf).2 hbeside)⟩
  refine ⟨fun p w hp => ⟨fun ⟨fault, hfault⟩ => ?_, hnone w hp⟩, ⟨fun hall => ?_, ?_⟩, ?_⟩
  · by_contra hbeside
    rw [hsome w hp hbeside] at hfault
    cases hfault
  · have hbeside : ¬ BesideDirectory isDirectory paths f := by
      intro hbeside
      obtain ⟨target, htarget, -⟩ := hall (.into ['a']) { store := {} } (by decide) (by decide)
      obtain ⟨fault, hfault⟩ := hnone (p := .into ['a']) { store := {} } (by decide) hbeside
      rw [hfault] at htarget
      cases htarget
    have hinto (c : Char) (hc : c ≠ '/') :
        Place.Under (placeOf [c]) (placeOf (joinPath [c] (afterBase isDirectory paths f))) := by
      have hne : (Plan.into [c]).outputDirectory ≠ [] := List.cons_ne_nil c []
      obtain ⟨target, htarget, hunder⟩ := hall (.into [c]) { store := {} } hne fun h => hc (Option.some.inj h)
      rw [hsome _ hne hbeside] at htarget
      cases htarget
      exact hunder
    exact ⟨hbeside, isInside_of_under (hinto 'a' (by decide)) (hinto 'b' (by decide))⟩
  · rintro ⟨hbeside, hinside⟩ p w hp -
    exact ⟨_, hsome w hp hbeside, under_joinPath hp hinside⟩
  · intro hbeside hslashes hparent hroot
    exact afterBase_isInside hf hbeside hroot hslashes hparent

theorem output_under_iff_nested :
    "/src/pkg/sub/b.py".toList ∈ ["/src/pkg/a.py".toList, "/src/pkg/sub/b.py".toList] ∧
    ∀ (p : Plan) (w : Work), p.outputDirectory ≠ [] → p.outputDirectory.head? ≠ some '/' →
      ∃ target, (targetOf p (p.base (fun _ => true) ["/src/pkg/a.py".toList, "/src/pkg/sub/b.py".toList])
          "/src/pkg/sub/b.py".toList).run.run w = (.ok target, w) ∧
        Place.Under (placeOf p.outputDirectory) (placeOf target) := by
  have hmem : "/src/pkg/sub/b.py".toList ∈ ["/src/pkg/a.py".toList, "/src/pkg/sub/b.py".toList] := by decide
  obtain ⟨-, hunder, -⟩ := output_under_iff (fun _ => true) hmem
  exact ⟨hmem, hunder.2 ⟨fun h => absurd h.unended (by decide), by decide⟩⟩

/-- Where the output goes wrong. Files beside a directory are refused if all their names start with its name. A file
in the root and one after a doubled slash are written from the root on: the first onto itself. A file above the
others is written next to the output directory, here onto another argument. -/
theorem output_misses_directory :
    let target (isDirectory : List Char → Bool) (paths : List String) (f : String) : Option (List Char) :=
      ((targetOf (.into "out".toList) ((Plan.into "out".toList).base isDirectory (paths.map String.toList))
        f.toList).run.run { store := {} }).1.toOption
    target (· == ['x']) ["xa.py", "xb.py"] "xa.py" = none ∧
    target (fun _ => false) ["/a.py", "/b.py"] "/a.py" = some "/a.py".toList ∧
    target (fun _ => false) ["a//x.py"] "a//x.py" = some "/x.py".toList ∧
    (target (fun _ => false) ["y.py", "../y.py"] "../y.py").map placeOf = some (placeOf "y.py".toList) := by
  decide

end Command
end TypeComments
