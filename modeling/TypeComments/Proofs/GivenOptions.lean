import Mathlib.Data.List.Nodup
import Mathlib.Data.List.TakeWhile
import TypeComments.Proofs.Outcomes
import TypeComments.Settings.Arguments

/-!
# How arguments give options

`Spelled` says how a row of arguments is made of options and of other words: long flags, in full or shortened as
far as one option is meant, with their values after an equals sign or as the next argument; joined short flags
(`Cluster`); and two dashes that end the options. The reader takes such a row apart (`Spelled.read`), and it accepts
no other (`exists_spelled`). Where options only store, each setting has the value that was given last
(`applyAll_value?`).
-/

namespace TypeComments.Settings

/-! ### Spellings -/

/-- No flag is that of two options. -/
structure Distinct (options : List Opt) : Prop where
  long : (options.flatMap (·.long)).Nodup
  short : (options.flatMap (·.short)).Nodup

/-- The text `flag` means the long flag `full` of the option `o`: it is that flag or, if it is no flag itself, the
start of that one only. -/
structure Means (options : List Opt) (flag full : List Char) (o : Opt) : Prop where
  dashes : ['-', '-'] <+: flag
  noValue : '=' ∉ flag
  mem : o ∈ options
  long : full ∈ o.long
  meant : full = flag ∨ (∀ p ∈ options, flag ∉ p.long) ∧ flag <+: full ∧
    ∀ p ∈ options, ∀ other ∈ p.long, flag <+: other → other = full

/-- An option that is met, by which flag, and its argument. -/
structure Occurrence where
  option : Opt
  flag : List Char
  argument : Option (List Char)

/-- How joined short flags are spelled, with the arguments after them that they take. -/
inductive Cluster (options : List Opt) :
    List Char → List (List Char) → List Occurrence → List (List Char) → Prop
  | nil {args : List (List Char)} : Cluster options [] args [] args
  | switch {o : Opt} {c : Char} {letters : List Char} {args after : List (List Char)} {os : List Occurrence}
    (ho : o ∈ options) (hc : ['-', c] ∈ o.short) (htype : o.type = none) (h : Cluster options letters args os after) :
    Cluster options (c :: letters) args (⟨o, ['-', c], none⟩ :: os) after
  | attached {o : Opt} {c d : Char} {letters : List Char} {args : List (List Char)} (ho : o ∈ options)
    (hc : ['-', c] ∈ o.short) (htype : o.type.isSome = true) :
    Cluster options (c :: d :: letters) args [⟨o, ['-', c], some (d :: letters)⟩] args
  | next {o : Opt} {c : Char} {value : List Char} {args : List (List Char)} (ho : o ∈ options)
    (hc : ['-', c] ∈ o.short) (htype : o.type.isSome = true) :
    Cluster options [c] (value :: args) [⟨o, ['-', c], some value⟩] args

/-- How arguments are spelled: the options in their order, and the other words. -/
inductive Spelled (options : List Opt) : List (List Char) → List Occurrence → List (List Char) → Prop
  | nil : Spelled options [] [] []
  | dashes {rest : List (List Char)} : Spelled options (['-', '-'] :: rest) [] rest
  | word {w : List Char} {args rest : List (List Char)} {os : List Occurrence} (hw : w.head? ≠ some '-' ∨ w = ['-'])
    (h : Spelled options args os rest) : Spelled options (w :: args) os (w :: rest)
  | switch {o : Opt} {flag full : List Char} {args rest : List (List Char)} {os : List Occurrence}
    (hflag : flag ≠ ['-', '-']) (hm : Means options flag full o) (htype : o.type = none)
    (h : Spelled options args os rest) : Spelled options (flag :: args) (⟨o, full, none⟩ :: os) rest
  | attached {o : Opt} {flag full value : List Char} {args rest : List (List Char)} {os : List Occurrence}
    (hm : Means options flag full o) (htype : o.type.isSome = true) (h : Spelled options args os rest) :
    Spelled options ((flag ++ '=' :: value) :: args) (⟨o, full, some value⟩ :: os) rest
  | next {o : Opt} {flag full value : List Char} {args rest : List (List Char)} {os : List Occurrence}
    (hflag : flag ≠ ['-', '-']) (hm : Means options flag full o) (htype : o.type.isSome = true)
    (h : Spelled options args os rest) : Spelled options (flag :: value :: args) (⟨o, full, some value⟩ :: os) rest
  | cluster {c : Char} {letters : List Char} {args after rest : List (List Char)} {os os' : List Occurrence}
    (hc : c ≠ '-') (hcluster : Cluster options (c :: letters) args os after) (h : Spelled options after os' rest) :
    Spelled options (('-' :: c :: letters) :: args) (os ++ os') rest

def applyAll (os : List Occurrence) (a : Assigned) : Except ArgumentStop Assigned :=
  os.foldlM (fun a x => x.option.apply x.flag x.argument a) a

theorem applyAll_cons (x : Occurrence) (os : List Occurrence) (a : Assigned) :
    applyAll (x :: os) a = x.option.apply x.flag x.argument a >>= applyAll os :=
  List.foldlM_cons

theorem applyAll_append (os os' : List Occurrence) (a : Assigned) :
    applyAll (os ++ os') a = applyAll os a >>= applyAll os' :=
  List.foldlM_append

/-! ### Finding options -/

variable {options : List Opt} {o : Opt} {flag full value : List Char} {args after rest : List (List Char)}

theorem find?_contains_iff {f : Opt → List (List Char)} (hnodup : (options.flatMap f).Nodup) :
    options.find? (fun o => (f o).contains flag) = some o ↔ o ∈ options ∧ flag ∈ f o := by
  induction options with
  | nil => simp
  | cons p options ih =>
    rw [List.flatMap_cons, List.nodup_append] at hnodup
    obtain ⟨-, hrest, hapart⟩ := hnodup
    rw [List.find?_cons]
    by_cases hp : flag ∈ f p
    · rw [List.contains_iff_mem.2 hp]
      constructor
      · rintro ⟨⟩
        exact ⟨.head _, hp⟩
      · rintro ⟨ho, hflag⟩
        rcases List.mem_cons.1 ho with rfl | ho
        · rfl
        · exact absurd rfl (hapart flag hp flag (List.mem_flatMap.2 ⟨o, ho, hflag⟩))
    · have hnot : (f p).contains flag = false := by simpa using hp
      rw [hnot]
      dsimp only
      rw [ih hrest]
      constructor
      · rintro ⟨ho, hflag⟩
        exact ⟨.tail _ ho, hflag⟩
      · rintro ⟨ho, hflag⟩
        rcases List.mem_cons.1 ho with rfl | ho
        · exact absurd hflag hp
        · exact ⟨ho, hflag⟩

theorem longFlag_eq_ok_iff (hd : Distinct options) : longFlag options flag = .ok full ↔
    full ∈ options.flatMap (·.long) ∧ (full = flag ∨ flag ∉ options.flatMap (·.long) ∧ flag <+: full ∧
      ∀ other ∈ options.flatMap (·.long), flag <+: other → other = full) := by
  have hnodup := hd.long
  unfold longFlag
  dsimp only
  generalize options.flatMap (·.long) = flags at hnodup
  split
  · rename_i hflag
    rw [List.contains_iff_mem] at hflag
    constructor
    · rintro ⟨⟩
      exact ⟨hflag, .inl rfl⟩
    · rintro ⟨-, rfl | ⟨hnot, -⟩⟩
      · rfl
      · exact absurd hflag hnot
  · rename_i hflag
    rw [List.contains_iff_mem] at hflag
    have hmem (other : List Char) : other ∈ flags.filter flag.isPrefixOf ↔ other ∈ flags ∧ flag <+: other := by
      rw [List.mem_filter, List.isPrefixOf_iff_prefix]
    constructor
    · intro h
      split at h
      · cases h
      · rename_i found hfound
        cases h
        rw [hfound] at hmem
        obtain ⟨hin, hpre⟩ := (hmem full).1 (.head _)
        exact ⟨hin, .inr ⟨hflag, hpre, fun other ho hp => List.mem_singleton.1 ((hmem other).2 ⟨ho, hp⟩)⟩⟩
      · cases h
    · rintro ⟨hin, hmeant⟩
      obtain ⟨-, hpre, honly⟩ := hmeant.resolve_left (by rintro rfl; exact hflag hin)
      have hone : flags.filter flag.isPrefixOf = [full] := by
        by_contra hne
        rcases ((hnodup.filter _).ne_singleton_iff full).1 hne with hnil | ⟨other, hother, hneq⟩
        · rw [hnil] at hmem
          cases (hmem full).2 ⟨hin, hpre⟩
        · obtain ⟨ho, hp⟩ := (hmem other).1 hother
          exact hneq (honly other ho hp)
      rw [hone]

theorem means_iff (hd : Distinct options) : Means options flag full o ↔
    (['-', '-'] <+: flag ∧ '=' ∉ flag) ∧ longFlag options flag = .ok full ∧
      options.find? (fun o => o.long.contains full) = some o := by
  rw [longFlag_eq_ok_iff hd, find?_contains_iff hd.long]
  simp only [List.mem_flatMap]
  constructor
  · intro h
    refine ⟨⟨h.dashes, h.noValue⟩, ⟨⟨o, h.mem, h.long⟩, h.meant.imp_right ?_⟩, h.mem, h.long⟩
    rintro ⟨hnot, hpre, honly⟩
    refine ⟨?_, hpre, ?_⟩
    · rintro ⟨p, hp, hflag⟩
      exact hnot p hp hflag
    · rintro other ⟨p, hp, hother⟩ hpre'
      exact honly p hp other hother hpre'
  · rintro ⟨⟨hdashes, hvalue⟩, ⟨-, hmeant⟩, ho, hfull⟩
    refine ⟨hdashes, hvalue, ho, hfull, hmeant.imp_right ?_⟩
    rintro ⟨hnot, hpre, honly⟩
    exact ⟨fun p hp hflag => hnot ⟨p, hp, hflag⟩, hpre, fun p hp other hother => honly other ⟨p, hp, hother⟩⟩

/-! ### Reading what is spelled -/

theorem splitFlag (hflag : '=' ∉ flag) (more : List Char) (hmore : ∀ c ∈ more.head?, c = '=') :
    (flag ++ more).takeWhile (· != '=') = flag ∧ (flag ++ more).dropWhile (· != '=') = more := by
  have hall : ∀ c ∈ flag, (c != '=') = true := by
    intro c hc
    rw [bne_iff_ne]
    rintro rfl
    exact hflag hc
  cases more with
  | nil => simp [List.takeWhile_eq_self_iff.2 hall, List.dropWhile_eq_nil_iff.2 hall]
  | cons c more =>
    obtain rfl := hmore c rfl
    exact ⟨by simp [List.takeWhile_append_of_pos hall], by simp [List.dropWhile_append_of_pos hall]⟩

theorem takeArgument_attached (o : Opt) (flag value : List Char) (args : List (List Char)) (a : Assigned) :
    o.takeArgument flag (some value) args a = (applyAll [⟨o, flag, some value⟩] a).map (·, args) := by
  rw [Opt.takeArgument, applyAll_cons]
  dsimp only
  cases o.apply flag (some value) a <;> rfl

theorem takeArgument_next (o : Opt) (flag value : List Char) (args : List (List Char)) (a : Assigned) :
    o.takeArgument flag none (value :: args) a = (applyAll [⟨o, flag, some value⟩] a).map (·, args) := by
  rw [Opt.takeArgument, applyAll_cons]
  dsimp only
  cases o.apply flag (some value) a <;> rfl

theorem takeArgument_eq_ok {attached : Option (List Char)} {a b : Assigned}
    (h : o.takeArgument flag attached args a = .ok (b, after)) :
    (∃ value, attached = some value ∧ after = args) ∨ attached = none ∧ ∃ value, args = value :: after := by
  cases attached with
  | some value =>
    obtain ⟨c, -, h⟩ := exists_of_bind_eq_ok h
    cases h
    exact .inl ⟨value, rfl, rfl⟩
  | none =>
    cases args with
    | nil => cases h
    | cons value args =>
      obtain ⟨c, -, h⟩ := exists_of_bind_eq_ok h
      cases h
      exact .inr ⟨rfl, value, rfl⟩

theorem readLong_eq (hd : Distinct options) (hm : Means options flag full o) (attached : Option (List Char))
    (args : List (List Char)) (a : Assigned) :
    readLong options (flag ++ attached.elim [] ('=' :: ·)) args a =
      if o.type.isSome then o.takeArgument full attached args a
      else if attached.isSome then .error (.wrong (full ++ " option does not take a value".toList))
      else (o.apply full none a).map (·, args) := by
  obtain ⟨⟨-, hvalue⟩, hlong, hfind⟩ := (means_iff hd).1 hm
  obtain ⟨htake, hdrop⟩ := splitFlag hvalue (attached.elim [] ('=' :: ·)) (by cases attached <;> simp)
  unfold readLong
  rw [htake, hdrop, hlong]
  dsimp only [bind, Except.bind]
  rw [hfind]
  cases attached with
  | none =>
    dsimp only [Option.elim]
    cases o.apply full none a <;> rfl
  | some value => rfl

theorem readShort_cons (hd : Distinct options) (ho : o ∈ options) {c : Char} (hc : ['-', c] ∈ o.short)
    (letters : List Char) (args : List (List Char)) (a : Assigned) : readShort options args (c :: letters) a =
      if o.type.isSome then o.takeArgument ['-', c] (if letters.isEmpty then none else some letters) args a
      else o.apply ['-', c] none a >>= readShort options args letters := by
  rw [readShort, (find?_contains_iff hd.short).2 ⟨ho, hc⟩]

theorem Cluster.read (hd : Distinct options) {letters : List Char} {os : List Occurrence}
    (h : Cluster options letters args os after) (a : Assigned) :
    readShort options args letters a = (applyAll os a).map (·, after) := by
  induction h generalizing a with
  | nil => rfl
  | @switch o c letters args after os ho hc htype _ ih =>
    rw [readShort_cons hd ho hc, htype, applyAll_cons]
    cases o.apply ['-', c] none a with
    | error stop => rfl
    | ok b => exact ih b
  | @attached o c d letters args ho hc htype =>
    rw [readShort_cons hd ho hc, if_pos htype]
    exact takeArgument_attached o _ _ _ _
  | @next o c value args ho hc htype =>
    rw [readShort_cons hd ho hc, if_pos htype]
    exact takeArgument_next o _ _ _ _

theorem Cluster.length_le {letters : List Char} {os : List Occurrence} (h : Cluster options letters args os after) :
    after.length ≤ args.length := by
  induction h with
  | nil => exact Nat.le_refl _
  | switch _ _ _ _ ih => exact ih
  | attached => exact Nat.le_refl _
  | next => exact Nat.le_succ _

theorem exists_cluster (hd : Distinct options) {letters : List Char} {a b : Assigned}
    (h : readShort options args letters a = .ok (b, after)) : ∃ os, Cluster options letters args os after := by
  induction letters generalizing a with
  | nil =>
    cases h
    exact ⟨[], .nil⟩
  | cons c letters ih =>
    cases hfind : options.find? (fun o => o.short.contains ['-', c]) with
    | none =>
      rw [readShort, hfind] at h
      cases h
    | some o =>
      obtain ⟨ho, hc⟩ := (find?_contains_iff hd.short).1 hfind
      rw [readShort_cons hd ho hc] at h
      cases htype : o.type with
      | none =>
        rw [htype] at h
        obtain ⟨a', -, h⟩ := exists_of_bind_eq_ok h
        obtain ⟨os, hos⟩ := ih h
        exact ⟨_, .switch ho hc htype hos⟩
      | some type =>
        have hsome : o.type.isSome = true := by rw [htype]; rfl
        rw [if_pos hsome] at h
        rcases takeArgument_eq_ok h with ⟨value, hvalue, rfl⟩ | ⟨hnone, value, rfl⟩
        · cases letters with
          | nil => cases hvalue
          | cons d letters => exact ⟨_, .attached ho hc hsome⟩
        · cases letters with
          | nil => exact ⟨_, .next ho hc hsome⟩
          | cons d letters => cases hnone

/-! ### Reading all arguments -/

section
variable {fuel : Nat} {argument : List Char} {a : Arguments}

theorem readArgumentsFrom_long (hdashes : ['-', '-'] <+: argument) (hne : argument ≠ ['-', '-']) :
    readArgumentsFrom options (fuel + 1) (argument :: args) a = readLong options argument args a.settings >>=
      fun read => readArgumentsFrom options fuel read.2 { a with settings := read.1 } := by
  rw [readArgumentsFrom, if_neg (by simpa using hne), if_pos (List.isPrefixOf_iff_prefix.2 hdashes)]

theorem readArgumentsFrom_short {c : Char} {letters : List Char} (hc : c ≠ '-') :
    readArgumentsFrom options (fuel + 1) (('-' :: c :: letters) :: args) a =
      readShort options args (c :: letters) a.settings >>=
        fun read => readArgumentsFrom options fuel read.2 { a with settings := read.1 } := by
  rw [readArgumentsFrom, if_neg (by simp [hc]), if_neg (by simp [Ne.symm hc]), if_pos (by simp)]
  rfl

theorem readArgumentsFrom_word (hw : argument.head? ≠ some '-' ∨ argument = ['-']) :
    readArgumentsFrom options (fuel + 1) (argument :: args) a =
      readArgumentsFrom options fuel args { a with rest := a.rest ++ [argument] } := by
  have hshape : argument = [] ∨ argument = ['-'] ∨ ∃ c more, argument = c :: more ∧ c ≠ '-' := by
    cases argument with
    | nil => exact .inl rfl
    | cons c more =>
      rcases hw with hw | hw
      · exact .inr (.inr ⟨c, more, rfl, by simpa using hw⟩)
      · exact .inr (.inl hw)
  rcases hshape with rfl | rfl | ⟨c, more, rfl, hc⟩
  · rfl
  · rfl
  · rw [readArgumentsFrom, if_neg (by simp [hc]), if_neg (by simp [Ne.symm hc]), if_neg (by simp [Ne.symm hc])]

/-- Options that are read, and then those of the arguments after them. -/
theorem bind_readArgumentsFrom {os os' : List Occurrence} {read : Except ArgumentStop (Assigned × List (List Char))}
    (hread : read = (applyAll os a.settings).map (·, after))
    (hafter : ∀ b : Arguments, readArgumentsFrom options fuel after b =
      (applyAll os' b.settings).map fun settings => ⟨settings, b.rest ++ rest⟩) :
    (read >>= fun read => readArgumentsFrom options fuel read.2 { a with settings := read.1 }) =
      (applyAll (os ++ os') a.settings).map fun settings => ⟨settings, a.rest ++ rest⟩ := by
  rw [hread, applyAll_append]
  cases applyAll os a.settings with
  | error stop => rfl
  | ok settings => exact hafter { a with settings }

/-- The options of a row of arguments are done in their order, and the other words are kept. -/
theorem Spelled.read_from (hd : Distinct options) {os : List Occurrence} (h : Spelled options args os rest)
    (hfuel : args.length < fuel) : readArgumentsFrom options fuel args a =
      (applyAll os a.settings).map fun settings => ⟨settings, a.rest ++ rest⟩ := by
  -- each step takes one argument at least, so the fuel lasts; what has been read so far is general
  induction h generalizing fuel a with
  | nil =>
    obtain ⟨fuel, rfl⟩ := Nat.exists_eq_succ_of_ne_zero (Nat.ne_zero_of_lt hfuel)
    rw [List.append_nil]
    rfl
  | dashes =>
    obtain ⟨fuel, rfl⟩ := Nat.exists_eq_succ_of_ne_zero (Nat.ne_zero_of_lt hfuel)
    rfl
  | @word w args rest os hw _ ih =>
    obtain ⟨fuel, rfl⟩ := Nat.exists_eq_succ_of_ne_zero (Nat.ne_zero_of_lt hfuel)
    rw [readArgumentsFrom_word hw, ih (Nat.lt_of_succ_lt_succ hfuel)]
    simp only [List.append_assoc, List.singleton_append]
  | @switch o flag full args rest os hflag hm htype _ ih =>
    obtain ⟨fuel, rfl⟩ := Nat.exists_eq_succ_of_ne_zero (Nat.ne_zero_of_lt hfuel)
    have hread : readLong options flag args a.settings = (applyAll [⟨o, full, none⟩] a.settings).map (·, args) := by
      have hlong := readLong_eq hd hm none args a.settings
      rw [htype] at hlong
      rw [applyAll_cons]
      refine (by simpa using hlong : readLong options flag args a.settings = _).trans ?_
      cases o.apply full none a.settings <;> rfl
    rw [readArgumentsFrom_long hm.dashes hflag]
    exact bind_readArgumentsFrom hread fun b => ih (Nat.lt_of_succ_lt_succ hfuel)
  | @attached o flag full value args rest os hm htype _ ih =>
    obtain ⟨fuel, rfl⟩ := Nat.exists_eq_succ_of_ne_zero (Nat.ne_zero_of_lt hfuel)
    have hread := readLong_eq hd hm (some value) args a.settings
    rw [if_pos htype, takeArgument_attached] at hread
    rw [readArgumentsFrom_long (hm.dashes.trans (List.prefix_append _ _)) ?_]
    · exact bind_readArgumentsFrom hread fun b => ih (Nat.lt_of_succ_lt_succ hfuel)
    · intro heq
      have hmem : '=' ∈ flag ++ '=' :: value := by simp
      rw [heq] at hmem
      simp at hmem
  | @next o flag full value args rest os hflag hm htype _ ih =>
    obtain ⟨fuel, rfl⟩ := Nat.exists_eq_succ_of_ne_zero (Nat.ne_zero_of_lt hfuel)
    have hread := readLong_eq hd hm none (value :: args) a.settings
    rw [if_pos htype, takeArgument_next] at hread
    rw [readArgumentsFrom_long hm.dashes hflag]
    refine bind_readArgumentsFrom (by simpa using hread) fun b => ih ?_
    simp only [List.length_cons] at hfuel
    omega
  | @cluster c letters args after rest os os' hc hcluster _ ih =>
    obtain ⟨fuel, rfl⟩ := Nat.exists_eq_succ_of_ne_zero (Nat.ne_zero_of_lt hfuel)
    rw [readArgumentsFrom_short hc]
    refine bind_readArgumentsFrom (hcluster.read hd a.settings) fun b => ih ?_
    have hle := hcluster.length_le
    simp only [List.length_cons] at hfuel
    omega

/-- The long flag of an argument that is read, and what is attached to it. -/
theorem exists_means (hd : Distinct options) (hdashes : ['-', '-'] <+: argument) {b : Assigned}
    {read : Assigned × List (List Char)} (h : readLong options argument args b = .ok read) :
    ∃ (flag full : List Char) (o : Opt) (attached : Option (List Char)),
      argument = flag ++ attached.elim [] ('=' :: ·) ∧ Means options flag full o := by
  unfold readLong at h
  obtain ⟨full, hlong, h⟩ := exists_of_bind_eq_ok h
  split at h
  · cases h
  rename_i o hfind
  have hflag : '=' ∉ argument.takeWhile (· != '=') := by
    intro hmem
    simpa using List.mem_takeWhile_imp hmem
  have hmeans : Means options (argument.takeWhile (· != '=')) full o := by
    refine (means_iff hd).2 ⟨⟨?_, hflag⟩, hlong, hfind⟩
    obtain ⟨more, rfl⟩ := hdashes
    exact ⟨more.takeWhile (· != '='), rfl⟩
  refine ⟨argument.takeWhile (· != '='), full, o, ?_⟩
  have hsplit := List.takeWhile_append_dropWhile (p := (· != '=')) (l := argument)
  cases hdrop : argument.dropWhile (· != '=') with
  | nil =>
    rw [hdrop] at hsplit
    exact ⟨none, hsplit.symm, hmeans⟩
  | cons c value =>
    obtain rfl : c = '=' := by
      have hhead := List.head?_dropWhile_not (· != '=') argument
      rw [hdrop] at hhead
      simpa using hhead
    rw [hdrop] at hsplit
    exact ⟨some value, hsplit.symm, hmeans⟩

/-- A long flag that is read stands alone, has its value attached, or takes the next argument for its value. -/
theorem readLong_cases (hd : Distinct options) (hdashes : ['-', '-'] <+: argument) {b settings : Assigned}
    {after : List (List Char)} (h : readLong options argument args b = .ok (settings, after)) :
    (∃ full o, Means options argument full o ∧ o.type = none ∧ after = args) ∨
      (∃ flag value full o, argument = flag ++ '=' :: value ∧ Means options flag full o ∧ o.type.isSome = true ∧
        after = args) ∨
      ∃ value full o, Means options argument full o ∧ o.type.isSome = true ∧ args = value :: after := by
  obtain ⟨flag, full, o, attached, rfl, hm⟩ := exists_means hd hdashes h
  rw [readLong_eq hd hm] at h
  cases htype : o.type with
  | none =>
    rw [htype] at h
    cases attached with
    | some value => cases h
    | none =>
      rw [Option.elim_none, List.append_nil]
      cases happly : o.apply full none b with
      | error stop =>
        rw [happly] at h
        cases h
      | ok settings =>
        rw [happly] at h
        cases h
        exact .inl ⟨full, o, hm, htype, rfl⟩
  | some type =>
    have hsome : o.type.isSome = true := by rw [htype]; rfl
    rw [if_pos hsome] at h
    rcases takeArgument_eq_ok h with ⟨value, rfl, rfl⟩ | ⟨rfl, value, rfl⟩
    · exact .inr (.inl ⟨flag, value, full, o, rfl, hm, hsome, rfl⟩)
    · rw [Option.elim_none, List.append_nil]
      exact .inr (.inr ⟨value, full, o, hm, hsome, rfl⟩)

/-- Arguments that are accepted are spelled options and words. -/
theorem exists_spelled_from (hd : Distinct options) {b : Arguments} (hfuel : args.length < fuel)
    (h : readArgumentsFrom options fuel args a = .ok b) : ∃ os rest, Spelled options args os rest := by
  -- an option may take the argument after it too, so the induction is on the fuel and not on the arguments
  induction fuel generalizing args a with
  | zero => exact absurd hfuel (Nat.not_lt_zero _)
  | succ fuel ih =>
    cases args with
    | nil => exact ⟨[], [], .nil⟩
    | cons argument args =>
      have hargs : args.length < fuel := Nat.lt_of_succ_lt_succ hfuel
      by_cases hstop : argument = ['-', '-']
      · subst hstop
        exact ⟨[], args, .dashes⟩
      by_cases hdashes : ['-', '-'] <+: argument
      · rw [readArgumentsFrom_long hdashes hstop] at h
        obtain ⟨⟨settings, after⟩, hread, hnext⟩ := exists_of_bind_eq_ok h
        rcases readLong_cases hd hdashes hread with ⟨full, o, hm, htype, rfl⟩ |
          ⟨flag, value, full, o, rfl, hm, hsome, rfl⟩ | ⟨value, full, o, hm, hsome, rfl⟩
        · obtain ⟨os, rest, hos⟩ := ih hargs hnext
          exact ⟨_, rest, .switch hstop hm htype hos⟩
        · obtain ⟨os, rest, hos⟩ := ih hargs hnext
          exact ⟨_, rest, .attached hm hsome hos⟩
        · obtain ⟨os, rest, hos⟩ := ih (Nat.lt_of_succ_lt hargs) hnext
          exact ⟨_, rest, .next hstop hm hsome hos⟩
      by_cases hw : argument.head? ≠ some '-' ∨ argument = ['-']
      · rw [readArgumentsFrom_word hw] at h
        obtain ⟨os, rest, hos⟩ := ih hargs h
        exact ⟨os, _, .word hw hos⟩
      · obtain ⟨c, letters, rfl, hc⟩ : ∃ c letters, argument = '-' :: c :: letters ∧ c ≠ '-' := by
          rw [not_or, not_not] at hw
          obtain ⟨more, rfl⟩ := List.head?_eq_some_iff.1 hw.1
          cases more with
          | nil => exact absurd rfl hw.2
          | cons c letters =>
            refine ⟨c, letters, rfl, ?_⟩
            rintro rfl
            exact hdashes ⟨letters, rfl⟩
        rw [readArgumentsFrom_short hc] at h
        obtain ⟨⟨settings, after⟩, hread, hnext⟩ := exists_of_bind_eq_ok h
        obtain ⟨os, hcluster⟩ := exists_cluster hd hread
        obtain ⟨os', rest, hos⟩ := ih (Nat.lt_of_le_of_lt hcluster.length_le hargs) hnext
        exact ⟨_, rest, .cluster hc hcluster hos⟩

theorem Spelled.read (hd : Distinct options) {os : List Occurrence} (h : Spelled options args os rest) :
    readArguments options args = (applyAll os []).map (⟨·, rest⟩) :=
  h.read_from hd (Nat.lt_succ_self _)

theorem exists_spelled (hd : Distinct options) (h : readArguments options args = .ok a) :
    ∃ os, Spelled options args os a.rest := by
  obtain ⟨os, rest, hos⟩ := exists_spelled_from hd (Nat.lt_succ_self _) h
  rw [hos.read hd] at h
  cases happly : applyAll os [] with
  | error stop =>
    rw [happly] at h
    cases h
  | ok settings =>
    rw [happly] at h
    cases h
    exact ⟨os, hos⟩

end

/-! ### Values -/

/-- The options store: the value of their argument, or that they were met. Others end the reading. -/
def Storing (options : List Opt) : Prop :=
  ∀ o ∈ options, o.action = .help ∨ o.action = .version ∨
    o.dest.isSome = true ∧ (o.action = .store ∧ o.type.isSome = true ∨ o.action = .storeTrue ∧ o.type = none)

/-- The value that an option gives to its setting. -/
def Occurrence.value? (x : Occurrence) : Option Value :=
  match x.argument with
  | some s => (x.option.valueOf x.flag s).toOption
  | none => some (.flag true)

/-- The value that is given to a setting last. -/
def lastGiven (os : List Occurrence) (name : List Char) : Option Value :=
  os.foldl (fun found x => if x.option.dest = some name then x.value? else found) none

theorem value?_put (name other : List Char) (value : Value) (a : Assigned) :
    (a.put name value).value? other = if name = other then some value else a.value? other := by
  unfold Assigned.value?
  induction a with
  | nil =>
    rw [Assigned.put, List.lookup_cons]
    by_cases h : name = other
    · rw [if_pos h, beq_iff_eq.2 h.symm]
    · rw [if_neg h, beq_false_of_ne (Ne.symm h)]
  | cons p a ih =>
    obtain ⟨n, v⟩ := p
    rw [Assigned.put]
    by_cases hn : n = name
    · subst hn
      rw [if_pos (beq_self_eq_true n), List.lookup_cons, List.lookup_cons]
      by_cases h : n = other
      · rw [if_pos h, beq_iff_eq.2 h.symm]
      · rw [if_neg h, beq_false_of_ne (Ne.symm h)]
    · rw [if_neg (by simpa using hn), List.lookup_cons, List.lookup_cons, ih]
      by_cases h : name = other
      · subst h
        rw [beq_false_of_ne (Ne.symm hn), if_pos rfl]
      · rw [if_neg h, if_neg h]

theorem apply_eq_put (hs : Storing options) {x : Occurrence} (hx : x.option ∈ options)
    (hargument : x.argument.isSome = x.option.type.isSome) {a b : Assigned}
    (h : x.option.apply x.flag x.argument a = .ok b) :
    ∃ name value, x.option.dest = some name ∧ x.value? = some value ∧ b = a.put name value := by
  -- the other two actions end the reading, whether or not there is a place for a value
  have hends {action : Action} (haction : x.option.action = action) (hstops : action = .help ∨ action = .version) :
      False := by
    unfold Opt.apply at h
    rw [haction] at h
    dsimp only at h
    split at h
    · rcases hstops with rfl | rfl <;> cases h
    · split at h
      · rcases hstops with rfl | rfl <;> cases h
      · cases h
  rcases hs x.option hx with haction | haction | ⟨hdest, hstores⟩
  · exact (hends haction (.inl rfl)).elim
  · exact (hends haction (.inr rfl)).elim
  obtain ⟨name, hname⟩ := Option.isSome_iff_exists.1 hdest
  unfold Opt.apply at h
  unfold Occurrence.value?
  rw [hname] at h
  rcases hstores with ⟨haction, htype⟩ | ⟨haction, htype⟩
  · rw [htype] at hargument
    obtain ⟨s, hs⟩ := Option.isSome_iff_exists.1 hargument
    rw [haction, hs] at h
    rw [hs]
    dsimp only at h ⊢
    cases hv : x.option.valueOf x.flag s with
    | error text =>
      rw [hv] at h
      cases h
    | ok value =>
      rw [hv] at h
      cases h
      exact ⟨name, value, hname, rfl, rfl⟩
  · rw [htype, Option.isSome_none, Option.isSome_eq_false_iff, Option.isNone_iff_eq_none] at hargument
    rw [haction, hargument] at h
    cases h
    rw [hargument]
    exact ⟨name, .flag true, hname, rfl, rfl⟩

theorem Cluster.occurrences {letters : List Char} {os : List Occurrence} (h : Cluster options letters args os after) :
    ∀ x ∈ os, x.option ∈ options ∧ x.argument.isSome = x.option.type.isSome := by
  induction h with
  | nil =>
    intro x hx
    cases hx
  | switch ho _ htype _ ih =>
    intro x hx
    rcases List.mem_cons.1 hx with rfl | hx
    · exact ⟨ho, by rw [htype]; rfl⟩
    · exact ih x hx
  | attached ho _ htype | next ho _ htype =>
    intro x hx
    obtain rfl := List.mem_singleton.1 hx
    exact ⟨ho, htype.symm⟩

theorem Spelled.occurrences {os : List Occurrence} (h : Spelled options args os rest) :
    ∀ x ∈ os, x.option ∈ options ∧ x.argument.isSome = x.option.type.isSome := by
  induction h with
  | nil | dashes =>
    intro x hx
    cases hx
  | word _ _ ih => exact ih
  | switch _ hm htype _ ih =>
    intro x hx
    rcases List.mem_cons.1 hx with rfl | hx
    · exact ⟨hm.mem, by rw [htype]; rfl⟩
    · exact ih x hx
  | attached hm htype _ ih | next _ hm htype _ ih =>
    intro x hx
    rcases List.mem_cons.1 hx with rfl | hx
    · exact ⟨hm.mem, htype.symm⟩
    · exact ih x hx
  | cluster _ hcluster _ ih =>
    intro x hx
    rcases List.mem_append.1 hx with hx | hx
    · exact hcluster.occurrences x hx
    · exact ih x hx

theorem applyAll_value? (hs : Storing options) {os : List Occurrence}
    (hos : ∀ x ∈ os, x.option ∈ options ∧ x.argument.isSome = x.option.type.isSome) {a b : Assigned}
    (h : applyAll os a = .ok b) (name : List Char) : b.value? name =
      os.foldl (fun found x => if x.option.dest = some name then x.value? else found) (a.value? name) := by
  induction os generalizing a with
  | nil =>
    cases h
    rfl
  | cons x os ih =>
    rw [applyAll_cons] at h
    obtain ⟨a', happly, h⟩ := exists_of_bind_eq_ok h
    obtain ⟨hx, hargument⟩ := hos x (.head _)
    obtain ⟨dest, value, hdest, hvalue, rfl⟩ := apply_eq_put hs hx hargument happly
    rw [ih (fun y hy => hos y (.tail _ hy)) h, List.foldl_cons, value?_put, hdest, hvalue]
    simp only [Option.some.injEq]

/-- Each setting has the value that the arguments give it last. -/
theorem Spelled.value? (hd : Distinct options) (hs : Storing options) {os : List Occurrence}
    (h : Spelled options args os rest) {a : Arguments} (hread : readArguments options args = .ok a) :
    a.rest = rest ∧ ∀ name, a.settings.value? name = lastGiven os name := by
  rw [h.read hd] at hread
  cases happly : applyAll os [] with
  | error stop =>
    rw [happly] at hread
    cases hread
  | ok settings =>
    rw [happly] at hread
    cases hread
    exact ⟨rfl, applyAll_value? hs h.occurrences happly⟩

end TypeComments.Settings
