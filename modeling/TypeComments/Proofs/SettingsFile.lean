import TypeComments.Proofs.GivenOptions
import TypeComments.Proofs.LowerCase
import TypeComments.Proofs.TextEnds
import TypeComments.Settings.Ini

/-!
# Sections of a settings file

A section with one entry is read as such, its key in lower case and its value as it is written (`readIni_lookup`),
whatever the rest of the file says. While its lines are read the section is the current one (`Open`), and from the
next header on it has been left (`Done`): of the five things that a line can do to the sections (`Change`) none
concerns it any more. All keys of a file are in lower case (`readIni_lowered`), so no entry has a key with a capital
letter in it.
-/

namespace TypeComments.Settings

def fileLines (text : List Char) : List (List Char) :=
  physicalLines (plainLineEnds text)

/-! ### What a line can do -/

/-- What a line can do to the sections that have been read, the current one first. -/
inductive Change : List OpenSection → List OpenSection → Prop where
  | keep (ss : List OpenSection) : Change ss ss
  | addLine (key line : List Char) (s : OpenSection) (rest : List OpenSection) :
    Change (s :: rest) (addLine key line s :: rest)
  | opened {ss : List OpenSection} {name : List Char} (hnew : ∀ s ∈ ss, s.name ≠ name) : Change ss (⟨name, []⟩ :: ss)
  | reopened {ss : List OpenSection} {s : OpenSection} (hs : s ∈ ss) (hname : s.name = defaultSection) :
    Change ss (s :: ss.filter (·.name != defaultSection))
  | entry (key value : List Char) (s : OpenSection) (rest : List OpenSection) :
    Change (s :: rest) ({ s with entries := s.entries ++ [(lower key, [value])] } :: rest)

namespace IniReading
variable {r r' : IniReading} {number : Nat} {line name : List Char}

theorem continueValue_change (line : List Char) (r : IniReading) :
    Change r.sections (r.continueValue line).sections := by
  unfold continueValue
  split
  · rename_i key current rest _ hsections
    rw [hsections]
    exact .addLine key line current rest
  · exact .keep _

theorem openSection_eq_ok (h : r.openSection number name = .ok r') : r'.key = none ∧
    ((∀ s ∈ r.sections, s.name ≠ name) ∧ r'.sections = ⟨name, []⟩ :: r.sections ∨
      name = defaultSection ∧ ∃ s ∈ r.sections, s.name = defaultSection ∧
        r'.sections = s :: r.sections.filter (·.name != defaultSection)) := by
  unfold openSection at h
  split at h
  · rename_i hnone
    cases h
    refine ⟨rfl, .inl ⟨fun s hs hname => ?_, rfl⟩⟩
    exact List.find?_eq_none.1 hnone s hs (beq_iff_eq.2 hname)
  · rename_i s hs
    split at h
    · rename_i hdefault
      obtain rfl := beq_iff_eq.1 hdefault
      cases h
      have hname := List.find?_some hs
      exact ⟨rfl, .inr ⟨rfl, s, List.mem_of_find?_eq_some hs, beq_iff_eq.1 hname, rfl⟩⟩
    · cases h

theorem openSection_change (h : r.openSection number name = .ok r') : Change r.sections r'.sections := by
  obtain ⟨-, ⟨hnew, heq⟩ | ⟨-, s, hs, hname, heq⟩⟩ := openSection_eq_ok h
  · rw [heq]
    exact .opened hnew
  · rw [heq]
    exact .reopened hs hname

theorem putEntry_change {key value : List Char} (h : r.putEntry number line key value = .ok r') :
    Change r.sections r'.sections := by
  unfold putEntry at h
  split at h
  · cases h
  · rename_i current rest hsections
    dsimp only at h
    split at h
    · cases h
    · cases h
      rw [hsections]
      exact .entry key value current rest

theorem step_change (h : r.step number line = .ok r') : Change r.sections r'.sections := by
  unfold step at h
  dsimp only at h
  split at h
  · cases h
    exact .keep _
  split at h
  · cases h
    exact continueValue_change [] r
  split at h
  · cases h
    exact continueValue_change _ r
  split at h
  · have hchange := openSection_change h
    exact hchange
  split at h
  · cases h
  split at h
  · have hchange := putEntry_change h
    exact hchange
  · cases h
    exact .keep _

/-! ### Lines one after the other -/

def run : IniReading → Nat → List (List Char) → Except IniFault IniReading
  | r, _, [] => .ok r
  | r, k, line :: rest => do (← r.step (k + 1) line).run (k + 1) rest

theorem exists_of_run_cons {k : Nat} {ls : List (List Char)} (h : r.run k (line :: ls) = .ok r') :
    ∃ r₁, r.step (k + 1) line = .ok r₁ ∧ r₁.run (k + 1) ls = .ok r' :=
  exists_of_bind_eq_ok h

theorem exists_of_run_append {k : Nat} {ls rest : List (List Char)} (h : r.run k (ls ++ rest) = .ok r') :
    ∃ r₁, r.run k ls = .ok r₁ ∧ r₁.run (k + ls.length) rest = .ok r' := by
  induction ls generalizing r k with
  | nil => exact ⟨r, rfl, h⟩
  | cons line ls ih =>
    obtain ⟨r₁, hstep, hrest⟩ := exists_of_run_cons h
    obtain ⟨r₂, hls, hrun⟩ := ih hrest
    refine ⟨r₂, ?_, ?_⟩
    · rw [run, hstep]
      exact hls
    · rwa [List.length_cons, Nat.add_comm ls.length, ← Nat.add_assoc]

/-- What every change keeps holds after all lines. -/
theorem run_keeps {P : List OpenSection → Prop} (hP : ∀ {ss ss'}, Change ss ss' → P ss → P ss') {k : Nat}
    {ls : List (List Char)} (h : r.run k ls = .ok r') (hr : P r.sections) : P r'.sections := by
  induction ls generalizing r k with
  | nil =>
    cases h
    exact hr
  | cons line ls ih =>
    obtain ⟨r₁, hstep, hrest⟩ := exists_of_run_cons h
    exact ih hrest (hP (step_change hstep) hr)

theorem readIni_eq (text : List Char) : readIni text = IniReading.run {} 0 (fileLines text) >>= finish := by
  have hfold (ls : List (List Char)) (k : Nat) (r : IniReading) :
      (ls.zipIdx k).foldlM (fun r p => r.step (p.2 + 1) p.1) r = r.run k ls := by
    induction ls generalizing k r with
    | nil => rfl
    | cons line ls ih =>
      rw [List.zipIdx_cons, List.foldlM_cons, run]
      cases r.step (k + 1) line with
      | error fault => rfl
      | ok r' => exact ih (k + 1) r'
  rw [← hfold]
  rfl

end IniReading

/-! ### The file that has been read -/

/-- A section of the file, each value in one text. -/
def closed (s : OpenSection) : List Char × Entries :=
  (s.name, s.entries.map fun e => (e.1, trimRight (List.intercalate ['\n'] e.2)))

theorem exists_of_readIni {text : List Char} {ini : Ini} (h : readIni text = .ok ini) :
    ∃ r : IniReading, IniReading.run {} 0 (fileLines text) = .ok r ∧
      ini = r.sections.reverse.map closed := by
  rw [IniReading.readIni_eq] at h
  obtain ⟨r, hrun, hfinish⟩ := exists_of_bind_eq_ok h
  refine ⟨r, hrun, ?_⟩
  unfold IniReading.finish at hfinish
  split at hfinish
  · cases hfinish
    rfl
  · cases hfinish

def Lowered (ss : List OpenSection) : Prop :=
  ∀ s ∈ ss, ∀ e ∈ s.entries, lower e.1 = e.1

theorem Lowered.change {ss ss' : List OpenSection} (hchange : Change ss ss') (h : Lowered ss) : Lowered ss' := by
  cases hchange with
  | keep => exact h
  | addLine key line s rest =>
    -- a line more in a value, the keys stay
    obtain ⟨hs, hrest⟩ := List.forall_mem_cons.1 h
    refine List.forall_mem_cons.2 ⟨fun e he => ?_, hrest⟩
    obtain ⟨e, hmem, rfl⟩ := List.mem_map.1 he
    rw [apply_ite Prod.fst, ite_self]
    exact hs e hmem
  | opened hnew => exact List.forall_mem_cons.2 ⟨fun e he => absurd he List.not_mem_nil, h⟩
  | reopened hs hname =>
    exact List.forall_mem_cons.2 ⟨h _ hs, fun s hs' => h s (List.mem_filter.1 hs').1⟩
  | entry key value s rest =>
    obtain ⟨hs, hrest⟩ := List.forall_mem_cons.1 h
    refine List.forall_mem_cons.2 ⟨fun e he => ?_, hrest⟩
    rcases List.mem_append.1 he with he | he
    · exact hs e he
    · rw [List.mem_singleton.1 he]
      exact lower_lower key

theorem readIni_lowered {text : List Char} {ini : Ini} (h : readIni text = .ok ini) :
    ∀ p ∈ ini, ∀ e ∈ p.2, lower e.1 = e.1 := by
  obtain ⟨r, hrun, rfl⟩ := exists_of_readIni h
  have hlowered : Lowered r.sections :=
    IniReading.run_keeps Lowered.change hrun fun s hs => absurd hs List.not_mem_nil
  intro p hp e he
  obtain ⟨s, hs, rfl⟩ := List.mem_map.1 hp
  obtain ⟨e, hmem, rfl⟩ := List.mem_map.1 he
  exact hlowered s (List.mem_reverse.1 hs) e hmem

/-! ### A section with one entry -/

def isIdle (line : List Char) : Bool :=
  (trim line).isEmpty || (trim line).head?.any fun c => c == '#' || c == ';'

def opensSection (line : List Char) : Bool :=
  indentOf line == 0 && (header? (trim line)).isSome

/-- In the section of this name the lines hold one entry. Up to the next header there are only blank lines and
comments besides it. -/
def SoleEntry (name key value : List Char) (lines : List (List Char)) : Prop :=
  ∃ before header gap entry after closing, lines = before ++ header :: (gap ++ entry :: (after ++ closing)) ∧
    indentOf header = 0 ∧ trim header = '[' :: name ++ [']'] ∧ (∀ l ∈ gap, isIdle l = true) ∧
    trim entry = key ++ " = ".toList ++ value ∧ (∀ l ∈ after, isIdle l = true) ∧
    closing.head?.all opensSection = true

/-- The section holds one entry; blank lines may follow its value. -/
def Holds (key value : List Char) (s : OpenSection) : Prop :=
  ∃ m, s.entries = [(key, value :: List.replicate m [])]

/-- There is a section of this name, and it holds one entry. -/
structure Found (name key value : List Char) (ss : List OpenSection) : Prop where
  found : ∃ s ∈ ss, s.name = name
  holds : ∀ s ∈ ss, s.name = name → Holds key value s

/-- The section is the current one, and a blank line belongs to its entry. -/
structure Open (name key value : List Char) (r : IniReading) : Prop where
  sections : ∃ s rest, r.sections = s :: rest ∧ s.name = name ∧ Holds key value s ∧ ∀ s' ∈ rest, s'.name ≠ name
  key : r.key = some key

/-- The section has been left. -/
structure Done (name key value : List Char) (ss : List OpenSection) : Prop extends Found name key value ss where
  current : ∀ s ∈ ss.head?, s.name ≠ name

section
variable {name key value other line : List Char} {number k : Nat} {r r' : IniReading} {s s' : OpenSection}
  {ss ss' rest : List OpenSection} {ls : List (List Char)}

theorem Open.found (h : Open name key value r) : Found name key value r.sections := by
  obtain ⟨s, rest, hsections, hname, hholds, hrest⟩ := h.sections
  rw [hsections]
  refine ⟨⟨s, .head _, hname⟩, fun u hu huname => ?_⟩
  rcases List.mem_cons.1 hu with rfl | hu
  · exact hholds
  · exact absurd huname (hrest u hu)

theorem Found.opened (h : Found name key value ss) (hnew : ∀ s ∈ ss, s.name ≠ other) :
    Done name key value (⟨other, []⟩ :: ss) := by
  obtain ⟨s, hs, hsname⟩ := h.found
  have hne : other ≠ name := fun heq => hnew s hs (hsname.trans heq.symm)
  refine ⟨⟨⟨s, .tail _ hs, hsname⟩, fun u hu huname => ?_⟩, fun u hu => ?_⟩
  · rcases List.mem_cons.1 hu with rfl | hu
    · exact absurd huname hne
    · exact h.holds u hu huname
  · cases hu
    exact hne

theorem Found.reopened (hdefault : name ≠ defaultSection) (h : Found name key value ss)
    (hname : s.name = defaultSection) : Done name key value (s :: ss.filter (·.name != defaultSection)) := by
  have hne : s.name ≠ name := fun heq => hdefault (heq.symm.trans hname)
  obtain ⟨u, hu, huname⟩ := h.found
  have hkept : u ∈ ss.filter (·.name != defaultSection) :=
    List.mem_filter.2 ⟨hu, bne_iff_ne.2 fun heq => hdefault (huname.symm.trans heq)⟩
  refine ⟨⟨⟨u, .tail _ hkept, huname⟩, fun v hv hvname => ?_⟩, fun v hv => ?_⟩
  · rcases List.mem_cons.1 hv with rfl | hv
    · exact absurd hvname hne
    · exact h.holds v (List.mem_filter.1 hv).1 hvname
  · cases hv
    exact hne

theorem Done.of_current (h : Done name key value (s :: rest)) (hname : s'.name = s.name) :
    Done name key value (s' :: rest) := by
  have hne : s'.name ≠ name := hname ▸ h.current s rfl
  refine ⟨⟨?_, fun u hu huname => ?_⟩, fun u hu => ?_⟩
  · obtain ⟨u, hu, huname⟩ := h.found
    rcases List.mem_cons.1 hu with rfl | hu
    · exact absurd huname (h.current u rfl)
    · exact ⟨u, .tail _ hu, huname⟩
  · rcases List.mem_cons.1 hu with rfl | hu
    · exact absurd huname hne
    · exact h.holds u (.tail _ hu) huname
  · cases hu
    exact hne

theorem Done.change (hdefault : name ≠ defaultSection) (hchange : Change ss ss') (h : Done name key value ss) :
    Done name key value ss' := by
  cases hchange with
  | keep => exact h
  | addLine => exact h.of_current rfl
  | opened hnew => exact h.toFound.opened hnew
  | reopened hs hname => exact h.toFound.reopened hdefault hname
  | entry => exact h.of_current rfl

/-! ### The lines of the section -/

theorem step_header (hmargin : indentOf line = 0) (hheader : header? (trim line) = some name) :
    r.step number line = { r with indent := 0 }.openSection number name := by
  obtain ⟨rest, hvalue⟩ : ∃ rest, trim line = '[' :: rest := by
    unfold header? at hheader
    split at hheader
    · exact ⟨_, ‹_›⟩
    · cases hheader
  unfold IniReading.step
  dsimp only
  rw [if_neg (by simp [hvalue]), if_neg (by simp [hvalue]), if_neg (by simp [hmargin]), hheader, hmargin]

theorem step_idle (h : isIdle line = true) :
    r.step number line = .ok r ∨ r.step number line = .ok (r.continueValue []) := by
  unfold IniReading.step
  dsimp only
  split
  · exact .inl rfl
  · rename_i hcomment
    have hblank : (trim line).isEmpty = true := by
      rcases Bool.or_eq_true_iff.1 h with h | h
      · exact h
      · exact absurd h hcomment
    rw [if_pos hblank]
    exact .inr rfl

theorem run_idle (hkey : r.key = none) (hidle : ∀ l ∈ ls, isIdle l = true) : r.run k ls = .ok r := by
  induction ls generalizing k with
  | nil => rfl
  | cons line ls ih =>
    obtain ⟨hline, hls⟩ := List.forall_mem_cons.1 hidle
    have hsame : r.continueValue [] = r := by
      unfold IniReading.continueValue
      rw [hkey]
    have hstep : r.step (k + 1) line = .ok r := by
      rcases step_idle hline with h | h
      · exact h
      · rwa [hsame] at h
    rw [IniReading.run, hstep]
    exact ih hls

theorem Open.continueValue (h : Open name key value r) : Open name key value (r.continueValue []) := by
  obtain ⟨s, rest, hsections, hname, ⟨m, hentries⟩, hrest⟩ := h.sections
  have heq : r.continueValue [] = { r with sections := addLine key [] s :: rest } := by
    unfold IniReading.continueValue
    rw [h.key, hsections]
  rw [heq]
  refine ⟨⟨addLine key [] s, rest, rfl, hname, ⟨m + 1, ?_⟩, hrest⟩, h.key⟩
  rw [addLine, hentries, List.replicate_succ']
  simp

theorem Open.run (h : Open name key value r) (hidle : ∀ l ∈ ls, isIdle l = true) (hrun : r.run k ls = .ok r') :
    Open name key value r' := by
  induction ls generalizing r k with
  | nil =>
    cases hrun
    exact h
  | cons line ls ih =>
    obtain ⟨hline, hls⟩ := List.forall_mem_cons.1 hidle
    obtain ⟨r₁, hstep, hrest⟩ := IniReading.exists_of_run_cons hrun
    have hopen : Open name key value r₁ := by
      rcases step_idle hline with heq | heq
      · cases hstep.symm.trans heq
        exact h
      · cases hstep.symm.trans heq
        exact h.continueValue
    exact ih hopen hls hrest

/-- From the end of the section on nothing concerns it. -/
theorem Open.run_closing (hdefault : name ≠ defaultSection) (h : Open name key value r)
    (hclosing : ls.head?.all opensSection = true) (hrun : r.run k ls = .ok r') : Found name key value r'.sections := by
  cases ls with
  | nil =>
    cases hrun
    exact h.found
  | cons line ls =>
    obtain ⟨hmargin, hheader⟩ := Bool.and_eq_true_iff.1 hclosing
    obtain ⟨other, hother⟩ := Option.isSome_iff_exists.1 hheader
    obtain ⟨r₁, hstep, hrest⟩ := IniReading.exists_of_run_cons hrun
    rw [step_header (beq_iff_eq.1 hmargin) hother] at hstep
    have hdone : Done name key value r₁.sections := by
      obtain ⟨-, ⟨hnew, heq⟩ | ⟨-, s, -, hname, heq⟩⟩ := IniReading.openSection_eq_ok hstep
      · rw [heq]
        exact h.found.opened hnew
      · rw [heq]
        exact h.found.reopened hdefault hname
    exact (IniReading.run_keeps (Done.change hdefault) hrest hdone).toFound

theorem header?_spelled (hname : name ≠ []) : header? ('[' :: name ++ [']']) = some name := by
  show header? ('[' :: (name ++ [']'])) = some name
  simp [header?, hname]

theorem ne_of_isWord {c d : Char} (hc : isWord c = true) (hd : isWord d = false) : c ≠ d := by
  rintro rfl
  rw [hc] at hd
  cases hd

theorem entry?_spelled (hword : ∀ c ∈ key, isWord c = true) (hvalue : Tight value) :
    entry? (key ++ " = ".toList ++ value) = some (key, value) := by
  have hspace : ∀ c ∈ key ++ [' '], (!(c == '=' || c == ':')) = true := by
    intro c hc
    rcases List.mem_append.1 hc with hc | hc
    · have hequals := ne_of_isWord (hword c hc) (d := '=') (by decide)
      have hcolon := ne_of_isWord (hword c hc) (d := ':') (by decide)
      simp [hequals, hcolon]
    · rw [List.mem_singleton.1 hc]
      rfl
  have hlast : ∀ c ∈ key.getLast?, isBlank c = false := fun c hc => isBlank_of_isWord (hword c (List.mem_of_getLast? hc))
  have hsplit : key ++ " = ".toList ++ value = (key ++ [' ']) ++ '=' :: ' ' :: value := by simp
  have htrim : trim (' ' :: value) = value := hvalue.trim_replicate_append 1
  have hkey : trimRight (key ++ [' ']) = key := by
    rw [trimRight, trimRightBy_concat, if_pos (by decide)]
    exact Tight.trimRight_eq hlast
  rw [hsplit, entry?]
  simp only [List.dropWhile_append_of_pos hspace, List.takeWhile_append_of_pos hspace]
  show some (trimRight (key ++ [' '] ++ []), trim (' ' :: value)) = _
  rw [List.append_nil, hkey, htrim]

theorem step_entry (hkey : key ≠ []) (hword : ∀ c ∈ key, isWord c = true) (hvalue : Tight value)
    (hline : trim line = key ++ " = ".toList ++ value) (hopen : r.key = none) (hsections : r.sections = ⟨name, []⟩ :: rest)
    (hrest : ∀ s ∈ rest, s.name ≠ name) (h : r.step number line = .ok r') : Open name (lower key) value r' := by
  obtain ⟨c, tail, hcons⟩ := List.exists_cons_of_ne_nil hkey
  have hc : isWord c = true := hword c (by rw [hcons]; exact .head _)
  have htrim : trim line = c :: (tail ++ " = ".toList ++ value) := by rw [hline, hcons]; rfl
  have hnumber := ne_of_isWord hc (d := '#') (by decide)
  have hsemicolon := ne_of_isWord hc (d := ';') (by decide)
  have hbracket := ne_of_isWord hc (d := '[') (by decide)
  have hheader : header? (trim line) = none := by
    rw [htrim, header?]
    intro rest heq
    exact hbracket (List.cons.inj heq).1
  have hlower : (lower key).isEmpty = false := by rw [isEmpty_lower, hcons]; rfl
  unfold IniReading.step at h
  dsimp only at h
  rw [if_neg (by simp [htrim, hnumber, hsemicolon]), if_neg (by simp [htrim]), if_neg (by simp [hopen]), hheader] at h
  dsimp only at h
  rw [if_neg (by simp [hsections]), hline, entry?_spelled hword hvalue] at h
  dsimp only at h
  unfold IniReading.putEntry at h
  rw [hsections] at h
  dsimp only at h
  rw [if_neg (by simp), hlower] at h
  cases h
  exact ⟨⟨_, rest, rfl, rfl, ⟨0, rfl⟩, hrest⟩, rfl⟩

/-- The section is found with its entry when all lines have been read. -/
theorem SoleEntry.found (hname : name ≠ []) (hdefault : name ≠ defaultSection) (hkey : key ≠ [])
    (hword : ∀ c ∈ key, isWord c = true) (hvalue : Tight value) (h : SoleEntry name key value ls)
    (hrun : IniReading.run {} 0 ls = .ok r) : Found name (lower key) value r.sections := by
  obtain ⟨before, header, gap, entry, after, closing, rfl, hmargin, hheader, hgap, hentry, hafter, hclosing⟩ := h
  obtain ⟨r₁, -, hrun⟩ := IniReading.exists_of_run_append hrun
  obtain ⟨r₂, hstep, hrun⟩ := IniReading.exists_of_run_cons hrun
  rw [step_header hmargin (hheader ▸ header?_spelled hname)] at hstep
  obtain ⟨hopen, ⟨hnew, hsections⟩ | ⟨heq, -⟩⟩ := IniReading.openSection_eq_ok hstep
  -- the header can be read only if no section of this name was there
  · obtain ⟨r₃, hidle, hrun⟩ := IniReading.exists_of_run_append hrun
    cases (run_idle hopen hgap).symm.trans hidle
    obtain ⟨r₄, hput, hrun⟩ := IniReading.exists_of_run_cons hrun
    have hentered := step_entry hkey hword hvalue hentry hopen hsections hnew hput
    obtain ⟨r₅, hidle, hrun⟩ := IniReading.exists_of_run_append hrun
    exact (hentered.run hafter hidle).run_closing hdefault hclosing hrun
  · exact absurd heq hdefault

/-! ### The values of the entries -/

theorem intercalate_blank (value : List Char) (m : Nat) :
    ['\n'].intercalate (value :: List.replicate m []) = value ++ List.replicate m '\n' := by
  induction m generalizing value with
  | zero => simp
  | succ m ih =>
    rw [List.replicate_succ, List.intercalate_cons_cons, ih, List.replicate_succ, List.append_assoc]
    rfl

theorem trimRight_blank (hvalue : Tight value) (m : Nat) : trimRight (value ++ List.replicate m '\n') = value := by
  have hblank : ∀ c ∈ List.replicate m '\n', isBlank c = true := by
    intro c hc
    rw [List.eq_of_mem_replicate hc]
    decide
  rw [trimRight_append_of_blank hblank, Tight.trimRight_eq hvalue.last]

theorem mem_of_lookup_eq_some {α β : Type} [BEq α] [LawfulBEq α] {l : List (α × β)} {a : α} {v : β}
    (h : l.lookup a = some v) : (a, v) ∈ l := by
  obtain ⟨l₁, l₂, heq, -⟩ := List.lookup_eq_some_iff.1 h
  simp [heq]

theorem lookup_eq_some {α β : Type} [BEq α] [LawfulBEq α] {l : List (α × β)} {a : α} {v : β} (hmem : ∃ p ∈ l, p.1 = a)
    (hall : ∀ p ∈ l, p.1 = a → p.2 = v) : l.lookup a = some v := by
  cases hlookup : l.lookup a with
  | none =>
    obtain ⟨p, hp, hpkey⟩ := hmem
    have hne := List.lookup_eq_none_iff.1 hlookup p hp
    rw [hpkey] at hne
    simp at hne
  | some w =>
    rw [← hall _ (mem_of_lookup_eq_some hlookup) rfl]

/-- A section with one entry is read as such. -/
theorem readIni_lookup {text : List Char} {ini : Ini} (hname : name ≠ []) (hdefault : name ≠ defaultSection)
    (hkey : key ≠ []) (hword : ∀ c ∈ key, isWord c = true) (hvalue : Tight value)
    (h : SoleEntry name key value (fileLines text)) (hread : readIni text = .ok ini) :
    ini.lookup name = some [(lower key, value)] := by
  obtain ⟨r, hrun, rfl⟩ := exists_of_readIni hread
  have hfound := h.found hname hdefault hkey hword hvalue hrun
  refine lookup_eq_some ?_ fun p hp hpname => ?_
  · obtain ⟨s, hs, hsname⟩ := hfound.found
    exact ⟨closed s, List.mem_map_of_mem (List.mem_reverse.2 hs), hsname⟩
  · obtain ⟨s, hs, rfl⟩ := List.mem_map.1 hp
    obtain ⟨m, hentries⟩ := hfound.holds s (List.mem_reverse.1 hs) hpname
    rw [closed, hentries]
    show [(lower key, trimRight (List.intercalate ['\n'] (value :: List.replicate m [])))] = _
    rw [intercalate_blank, trimRight_blank hvalue]

/-! ### All entries of a section -/

theorem mapM_eq_ok {ε α β : Type} {f : α → Except ε β} {l : List α} {bs : List β} (h : l.mapM f = .ok bs) :
    (∀ b ∈ bs, ∃ a ∈ l, f a = .ok b) ∧ ∀ a ∈ l, ∃ b ∈ bs, f a = .ok b := by
  induction l generalizing bs with
  | nil =>
    cases h
    simp
  | cons a l ih =>
    rw [List.mapM_cons] at h
    obtain ⟨b, hb, h⟩ := exists_of_bind_eq_ok h
    obtain ⟨bs', hbs, h⟩ := exists_of_bind_eq_ok h
    cases h
    obtain ⟨hleft, hright⟩ := ih hbs
    constructor
    · refine List.forall_mem_cons.2 ⟨⟨a, .head _, hb⟩, fun b' hb' => ?_⟩
      obtain ⟨a', ha', heq⟩ := hleft b' hb'
      exact ⟨a', .tail _ ha', heq⟩
    · refine List.forall_mem_cons.2 ⟨⟨b, .head _, hb⟩, fun a' ha' => ?_⟩
      obtain ⟨b', hb', heq⟩ := hright a' ha'
      exact ⟨b', .tail _ hb', heq⟩

theorem expandReferences_eq_self {f : List Char → Except IniFault (List Char)} (h : '%' ∉ value) :
    expandReferences f value = .ok value := by
  fun_induction expandReferences f value with
  | case1 => rfl
  | case2 => exact absurd (.head _) h
  | case3 => exact absurd (.head _) h
  | case4 => exact absurd (.head _) h
  | case5 => exact absurd (.head _) h
  | case6 c rest _ _ _ ih =>
    rw [ih fun hmem => h (.tail _ hmem)]
    rfl

variable {ini : Ini} {types : Entries}

/-- Each key has an entry, and each entry a key and the value of that key. -/
theorem Ini.allEntries_eq_ok (h : ini.allEntries name = .ok types) {own : Entries} (hown : ini.lookup name = some own) :
    let defaults := (ini.lookup defaultSection).getD []
    (∀ k ∈ (own ++ defaults).map Prod.fst, ∃ p ∈ types, p.1 = k) ∧
      ∀ p ∈ types, p.1 ∈ (own ++ defaults).map Prod.fst ∧
        expandValue (own ++ defaults) name p.1 referenceDepth (((own ++ defaults).lookup p.1).getD []) = .ok p.2 := by
  intro defaults
  unfold Ini.allEntries at h
  rw [hown] at h
  obtain ⟨hleft, hright⟩ := mapM_eq_ok h
  have hvalue {k : List Char} {x : Except IniFault (List Char)} {p : List Char × List Char}
      (h : (do return (k, ← x)) = Except.ok p) : p.1 = k ∧ x = .ok p.2 := by
    obtain ⟨v, hv, hp⟩ := exists_of_bind_eq_ok h
    cases hp
    exact ⟨rfl, hv⟩
  constructor
  · intro k hk
    rw [List.map_append] at hk
    -- a key of both counts among the default ones
    have hkeys : k ∈ defaults.map (·.1) ++ (own.map (·.1)).filter (fun k => !(defaults.any (·.1 == k))) := by
      by_cases hdefault : k ∈ defaults.map Prod.fst
      · exact List.mem_append_left _ hdefault
      · refine List.mem_append_right _ (List.mem_filter.2 ⟨(List.mem_append.1 hk).resolve_right hdefault, ?_⟩)
        rw [Bool.not_eq_true', List.any_eq_false]
        exact fun e he heq => hdefault (List.mem_map.2 ⟨e, he, beq_iff_eq.1 heq⟩)
    obtain ⟨p, hp, hpair⟩ := hright k hkeys
    exact ⟨p, hp, (hvalue hpair).1⟩
  · intro p hp
    obtain ⟨k, hk, hpair⟩ := hleft p hp
    obtain ⟨rfl, hexpand⟩ := hvalue hpair
    refine ⟨?_, hexpand⟩
    rw [List.map_append]
    rcases List.mem_append.1 hk with hk | hk
    · exact List.mem_append_right _ hk
    · exact List.mem_append_left _ (List.mem_filter.1 hk).1

theorem Ini.allEntries_lookup (h : ini.allEntries name = .ok types) (hown : ini.lookup name = some [(key, value)])
    (hpercent : '%' ∉ value) : types.lookup key = some value := by
  obtain ⟨hkeys, hvalues⟩ := Ini.allEntries_eq_ok h hown
  refine lookup_eq_some (hkeys key (.head _)) fun p hp hpkey => ?_
  obtain ⟨-, hexpand⟩ := hvalues p hp
  have hraw : (([(key, value)] ++ (ini.lookup defaultSection).getD []).lookup p.1).getD [] = value := by
    rw [hpkey, List.singleton_append, List.lookup_cons_self, Option.getD_some]
  rw [hraw, referenceDepth, expandValue, expandReferences_eq_self hpercent] at hexpand
  cases hexpand
  rfl

theorem Ini.allEntries_lowered (h : ini.allEntries name = .ok types) (hini : ∀ p ∈ ini, ∀ e ∈ p.2, lower e.1 = e.1) :
    ∀ p ∈ types, lower p.1 = p.1 := by
  cases hown : ini.lookup name with
  | none =>
    unfold Ini.allEntries at h
    rw [hown] at h
    cases h
    exact fun p hp => absurd hp List.not_mem_nil
  | some own =>
    intro p hp
    obtain ⟨e, he, heq⟩ := List.mem_map.1 ((Ini.allEntries_eq_ok h hown).2 p hp).1
    rw [← heq]
    rcases List.mem_append.1 he with he | he
    · exact hini _ (mem_of_lookup_eq_some hown) e he
    · cases hdefaults : ini.lookup defaultSection with
      | none =>
        rw [hdefaults] at he
        exact absurd he List.not_mem_nil
      | some defaults =>
        rw [hdefaults] at he
        exact hini _ (mem_of_lookup_eq_some hdefaults) e he

end

end TypeComments.Settings
