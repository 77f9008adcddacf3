import TypeComments.Command.Run
import TypeComments.Proofs.GivenOptions

/-!
# Which value a setting takes

A setting has the value that the arguments give it last. Where they give none, it has the value that stands in the
settings file, read in the type of the setting, and where there is none either, its default (`resolve_value?`). A
value in the file that cannot be read in its type is a fault just if the arguments give none (`exists_configured`).
-/

namespace TypeComments.Settings
variable {ini : Ini} {given settings : Assigned} {keys : List Key} {key : Key}

/-! ### Values in a file -/

def valueTypes : List (List Char) :=
  ["string".toList, "choice".toList, "int".toList, "boolean".toList]

/-- The value of a text in the type of a setting: an integer, one of the words for on and off, or the text itself. -/
def Key.convert? (key : Key) (s : List Char) : Option Value :=
  if key.type = "int".toList then (readInt 10 s).toOption.map .number
  else if key.type = "boolean".toList then (flagWords.lookup (lower s)).map .flag
  else some (.text s)

def Key.written? (ini : Ini) (key : Key) : Option (List Char) :=
  (ini.get? settingsSection key.name).toOption.join

/-- The file says nothing about a setting, or it says something that can be read in its type. -/
def Key.Readable (ini : Ini) (key : Key) : Prop :=
  ini.raw? settingsSection key.name = none ∨
    ∃ s value, ini.get? settingsSection key.name = .ok (some s) ∧ key.convert? s = some value

theorem get?_eq_none_iff (ini : Ini) (name key : List Char) : ini.get? name key = .ok none ↔ ini.raw? name key = none := by
  unfold Ini.get? Ini.raw?
  cases ini.entries? name with
  | none => exact ⟨fun _ => rfl, fun _ => rfl⟩
  | some entries =>
    dsimp only [Option.bind_some]
    cases entries.lookup (lower key) with
    | none => exact ⟨fun _ => rfl, fun _ => rfl⟩
    | some s =>
      constructor
      · intro h
        obtain ⟨t, -, ht⟩ := exists_of_bind_eq_ok h
        cases ht
      · intro h
        cases h

theorem readerOf?_eq (htype : key.type ∈ valueTypes) :
    ∃ read, readerOf? key.type = some read ∧ ∀ s, (read s).toOption = key.convert? s := by
  have hcases : key.type = "string".toList ∨ key.type = "choice".toList ∨ key.type = "int".toList ∨
      key.type = "boolean".toList := by simpa [valueTypes] using htype
  unfold Key.convert?
  rcases hcases with h | h | h | h
  · rw [h]
    exact ⟨_, rfl, fun s => rfl⟩
  · rw [h]
    exact ⟨_, rfl, fun s => rfl⟩
  · rw [h]
    refine ⟨_, rfl, fun s => ?_⟩
    rw [if_pos rfl]
    cases readInt 10 s with
    | ok n => rfl
    | error fault => cases fault <;> rfl
  · rw [h]
    refine ⟨_, rfl, fun s => ?_⟩
    rw [if_neg (by decide), if_pos rfl]
    cases flagWords.lookup (lower s) <;> rfl

theorem configured_value (htype : key.type ∈ valueTypes) {value : Value} (h : configured ini key = .ok value) :
    key.Readable ini ∧ value = ((key.written? ini).bind key.convert?).getD key.default := by
  obtain ⟨read, hread, hconvert⟩ := readerOf?_eq htype
  unfold configured at h
  rw [hread] at h
  dsimp only at h
  unfold Key.written? Key.Readable
  rw [← get?_eq_none_iff]
  cases hget : ini.get? settingsSection key.name with
  | error fault =>
    rw [hget] at h
    cases h
  | ok written =>
    rw [hget] at h
    cases written with
    | none =>
      cases h
      exact ⟨.inl rfl, rfl⟩
    | some s =>
      have hvalue : key.convert? s = some value := by
        rw [← hconvert s]
        show (read s).toOption = some value
        rw [show read s = .ok value from h]
        rfl
      refine ⟨.inr ⟨s, value, rfl, hvalue⟩, ?_⟩
      show value = (key.convert? s).getD key.default
      rw [hvalue]
      rfl

theorem exists_configured (htype : key.type ∈ valueTypes) (h : key.Readable ini) : ∃ value, configured ini key = .ok value := by
  obtain ⟨read, hread, hconvert⟩ := readerOf?_eq htype
  unfold configured
  rw [hread]
  dsimp only
  rcases h with h | ⟨s, value, hget, hvalue⟩
  · rw [(get?_eq_none_iff _ _ _).2 h]
    exact ⟨key.default, rfl⟩
  · rw [hget]
    refine ⟨value, ?_⟩
    show read s = .ok value
    rw [← hconvert s] at hvalue
    cases hs : read s with
    | error fault =>
      rw [hs] at hvalue
      cases hvalue
    | ok v =>
      rw [hs] at hvalue
      cases hvalue
      rfl

/-! ### Settings in turn -/

theorem resolve_cons_given (h : (given.value? key.name).isSome = true) :
    resolve ini given (key :: keys) = resolve ini given keys := by
  unfold resolve
  rw [List.foldlM_cons, if_pos h]
  rfl

theorem resolve_cons_missing (h : given.value? key.name = none) :
    resolve ini given (key :: keys) =
      configured ini key >>= fun value => resolve ini (given.put key.name value) keys := by
  unfold resolve
  rw [List.foldlM_cons, if_neg (by simp [h])]
  cases configured ini key <;> rfl

/-- What has been given stays, and so does what is no key. -/
theorem resolve_frame (h : resolve ini given keys = .ok settings) {name : List Char}
    (hname : (given.value? name).isSome = true ∨ name ∉ keys.map Key.name) :
    settings.value? name = given.value? name := by
  induction keys generalizing given with
  | nil =>
    cases h
    rfl
  | cons key keys ih =>
    have hrest (hsame : (given.value? name).isSome = true ∨ name ∉ (key :: keys).map Key.name) :
        (given.value? name).isSome = true ∨ name ∉ keys.map Key.name :=
      hsame.imp_right fun hnot hmem => hnot (.tail _ hmem)
    by_cases hkey : given.value? key.name = none
    · rw [resolve_cons_missing hkey] at h
      obtain ⟨value, -, h⟩ := exists_of_bind_eq_ok h
      -- the key in front has no value yet, so it is another one
      have hne : key.name ≠ name := by
        rintro rfl
        rcases hname with hname | hname
        · rw [hkey] at hname
          cases hname
        · exact hname (.head _)
      have hput : (given.put key.name value).value? name = given.value? name := by
        rw [value?_put, if_neg hne]
      rw [ih h (by rw [hput]; exact hrest hname), hput]
    · rw [resolve_cons_given (Option.isSome_iff_ne_none.2 hkey)] at h
      exact ih h (hrest hname)

theorem resolve_value? (hnodup : (keys.map Key.name).Nodup) (h : resolve ini given keys = .ok settings) (hkey : key ∈ keys)
    (hmissing : given.value? key.name = none) :
    ∃ value, configured ini key = .ok value ∧ settings.value? key.name = some value := by
  induction keys generalizing given with
  | nil => cases hkey
  | cons first keys ih =>
    rw [List.map_cons, List.nodup_cons] at hnodup
    by_cases hfirst : given.value? first.name = none
    · rw [resolve_cons_missing hfirst] at h
      obtain ⟨value, hvalue, h⟩ := exists_of_bind_eq_ok h
      rcases List.mem_cons.1 hkey with rfl | hkey
      · have hput : (given.put key.name value).value? key.name = some value := by
          rw [value?_put, if_pos rfl]
        exact ⟨value, hvalue, by rw [resolve_frame h (.inl (by rw [hput]; rfl)), hput]⟩
      · have hne : first.name ≠ key.name := by
          intro heq
          exact hnodup.1 (heq ▸ List.mem_map_of_mem hkey)
        exact ih hnodup.2 h hkey (by rw [value?_put, if_neg hne, hmissing])
    · rw [resolve_cons_given (Option.isSome_iff_ne_none.2 hfirst)] at h
      rcases List.mem_cons.1 hkey with rfl | hkey
      · exact absurd hmissing hfirst
      · exact ih hnodup.2 h hkey hmissing

theorem exists_resolve (h : ∀ key ∈ keys, given.value? key.name = none → ∃ value, configured ini key = .ok value) :
    ∃ settings, resolve ini given keys = .ok settings := by
  induction keys generalizing given with
  | nil => exact ⟨given, rfl⟩
  | cons key keys ih =>
    by_cases hkey : given.value? key.name = none
    · obtain ⟨value, hvalue⟩ := h key (.head _) hkey
      rw [resolve_cons_missing hkey, hvalue]
      refine ih fun other hother hmissing => h other (.tail _ hother) ?_
      rw [value?_put] at hmissing
      split at hmissing
      · cases hmissing
      · exact hmissing
    · rw [resolve_cons_given (Option.isSome_iff_ne_none.2 hkey)]
      exact ih fun other hother => h other (.tail _ hother)

theorem eq_ok_of_mapError {ε ε' α : Type} {f : ε → ε'} {x : Except ε α} {a : α} (h : x.mapError f = .ok a) : x = .ok a := by
  cases x with
  | error e => cases h
  | ok b =>
    cases h
    rfl

theorem applyConfig_eq_ok_iff {text : Option (List Char)} {c : Configured} : applyConfig text keys given = .ok c ↔
    ∃ ini, fileOf text = .ok ini ∧ resolve ini given keys = .ok c.settings ∧
      ini.allEntries argTypesSection = .ok c.argTypes := by
  constructor
  · intro h
    obtain ⟨ini, hini, h⟩ := exists_of_bind_eq_ok h
    obtain ⟨settings, hsettings, h⟩ := exists_of_bind_eq_ok h
    obtain ⟨argTypes, htypes, h⟩ := exists_of_bind_eq_ok h
    cases h
    exact ⟨ini, eq_ok_of_mapError hini, hsettings, eq_ok_of_mapError htypes⟩
  · rintro ⟨ini, hini, hsettings, htypes⟩
    rw [applyConfig, hini]
    show resolve ini given keys >>= _ = _
    rw [hsettings]
    show (ini.allEntries argTypesSection).mapError ConfigFault.ini >>= _ = _
    rw [htypes]
    rfl

end TypeComments.Settings

namespace TypeComments.Command
open Settings

/-! ### The settings of the command -/

theorem configure_eq_ok_iff {inv : Invocation} {given : Assigned} {p : Plan} : configure inv given = .ok p ↔
    ∃ c, applyConfig (inv.store.read (joinPath (settingText given "config") configName)).toOption programKeys given = .ok c ∧
      p = .ofSettings c := by
  unfold configure
  dsimp only
  cases applyConfig (inv.store.read (joinPath (settingText given "config") configName)).toOption programKeys given with
  | error fault => exact ⟨fun h => absurd h (by simp), fun h => absurd h (by simp)⟩
  | ok c =>
    constructor
    · intro h
      cases h
      exact ⟨c, rfl, rfl⟩
    · rintro ⟨c, hc, rfl⟩
      cases hc
      rfl

/-- The settings that a file can hold, with their types and defaults. -/
def commandKeys : List Key :=
  [⟨"format".toList, "choice".toList, .missing⟩,
   ⟨"default_return_type".toList, "string".toList, .text "Any".toList⟩,
   ⟨"processes".toList, "int".toList, .number 1⟩,
   ⟨"verbose".toList, "boolean".toList, .flag false⟩,
   ⟨"show_diffs".toList, "boolean".toList, .flag false⟩,
   ⟨"write".toList, "boolean".toList, .flag false⟩,
   ⟨"output_dir".toList, "string".toList, .text []⟩,
   ⟨"write_unchanged_files".toList, "boolean".toList, .flag false⟩]

theorem programKeys_eq : programKeys = commandKeys := by
  rfl

theorem programOptions_proper : Distinct programOptions ∧ Storing programOptions := by
  have hall : (programOptions.flatMap Opt.long).Nodup ∧ (programOptions.flatMap Opt.short).Nodup ∧
      Storing programOptions := by
    unfold Storing
    decide +kernel
  exact ⟨⟨hall.1, hall.2.1⟩, hall.2.2⟩

theorem commandKeys_types : ∀ key ∈ commandKeys, key.type ∈ valueTypes := by
  decide

/-- The value of each setting: what the arguments give it last, else what the file says, else the default. All other
settings stay as the arguments give them. Settings can be taken from a file just if the file can be read and says
nothing unreadable about a setting that the arguments do not give. -/
theorem settings_precedence {argv : List (List Char)} {a : Arguments} (h : readArguments programOptions argv = .ok a) :
    programKeys = commandKeys ∧ (∃ os, Spelled programOptions argv os a.rest) ∧
    ∀ os rest, Spelled programOptions argv os rest →
      (∀ name, a.settings.value? name = lastGiven os name) ∧
      (∀ text c, applyConfig text programKeys a.settings = .ok c → ∃ ini, fileOf text = .ok ini ∧
        (∀ key ∈ commandKeys, c.settings.value? key.name =
          (lastGiven os key.name <|> (key.written? ini).bind key.convert? <|> some key.default)) ∧
        ∀ name, name ∉ commandKeys.map Key.name → c.settings.value? name = a.settings.value? name) ∧
      ∀ text, (∃ c, applyConfig text programKeys a.settings = .ok c) ↔ ∃ ini, fileOf text = .ok ini ∧
        (∀ key ∈ commandKeys, lastGiven os key.name = none → key.Readable ini) ∧
        ∃ types, ini.allEntries argTypesSection = .ok types := by
  have hnodup : (commandKeys.map Key.name).Nodup := by decide
  obtain ⟨hdistinct, hstoring⟩ := programOptions_proper
  refine ⟨programKeys_eq, exists_spelled hdistinct h, fun os rest hos => ?_⟩
  obtain ⟨-, hgiven⟩ := hos.value? hdistinct hstoring h
  rw [programKeys_eq]
  refine ⟨hgiven, fun text c hc => ?_, fun text => ?_⟩
  -- the values, then what may fail
  · obtain ⟨ini, hini, hresolve, -⟩ := applyConfig_eq_ok_iff.1 hc
    refine ⟨ini, hini, fun key hkey => ?_, fun name hname => resolve_frame hresolve (.inr hname)⟩
    rw [← hgiven]
    cases hvalue : a.settings.value? key.name with
    | some value =>
      rw [resolve_frame hresolve (.inl (by rw [hvalue]; rfl)), hvalue]
      rfl
    | none =>
      obtain ⟨value, hconfigured, hset⟩ := resolve_value? hnodup hresolve hkey hvalue
      obtain ⟨-, rfl⟩ := configured_value (commandKeys_types key hkey) hconfigured
      rw [hset]
      cases (key.written? ini).bind key.convert? <;> rfl
  · constructor
    · rintro ⟨c, hc⟩
      obtain ⟨ini, hini, hresolve, htypes⟩ := applyConfig_eq_ok_iff.1 hc
      refine ⟨ini, hini, fun key hkey hmissing => ?_, c.argTypes, htypes⟩
      rw [← hgiven] at hmissing
      obtain ⟨value, hconfigured, -⟩ := resolve_value? hnodup hresolve hkey hmissing
      exact (configured_value (commandKeys_types key hkey) hconfigured).1
    · rintro ⟨ini, hini, hreadable, types, htypes⟩
      have hconfigured : ∀ key ∈ commandKeys, a.settings.value? key.name = none →
          ∃ value, configured ini key = .ok value := by
        intro key hkey hmissing
        rw [hgiven] at hmissing
        exact exists_configured (commandKeys_types key hkey) (hreadable key hkey hmissing)
      obtain ⟨settings, hresolve⟩ := exists_resolve hconfigured
      exact ⟨⟨settings, types⟩, applyConfig_eq_ok_iff.2 ⟨ini, hini, hresolve, htypes⟩⟩

/-- A value of the file that is no number does not matter where the arguments give one, the last time by a shortened
flag. -/
theorem settings_precedence_repeated : ∃ a c,
    readArguments programOptions ["-j2".toList, "--proc=3".toList, "m.py".toList] = .ok a ∧
    applyConfig (some "[doc484]\nprocesses = x\nwrite = on\n".toList) programKeys a.settings = .ok c ∧
    c.settings.value? "processes".toList = some (.number 3) ∧
    c.settings.value? "write".toList = some (.flag true) ∧
    c.settings.value? "default_return_type".toList = some (.text "Any".toList) := by
  have ha : readArguments programOptions ["-j2".toList, "--proc=3".toList, "m.py".toList] =
      .ok ⟨[("processes".toList, .number 3)], ["m.py".toList]⟩ := by rfl
  have hfile : fileOf (some "[doc484]\nprocesses = x\nwrite = on\n".toList) =
      .ok [("doc484".toList, [("processes".toList, "x".toList), ("write".toList, "on".toList)])] := by rfl
  have hget : (Ini.get? [("doc484".toList, [("processes".toList, "x".toList), ("write".toList, "on".toList)])]
      settingsSection "write".toList).toOption = some (some "on".toList) := by decide +kernel
  obtain ⟨-, ⟨os, hos⟩, hall⟩ := settings_precedence ha
  obtain ⟨hgiven, hvalues, hexists⟩ := hall os _ hos
  obtain ⟨c, hc⟩ := (hexists _).2 ⟨_, hfile, by
    intro key hkey hmissing
    rw [← hgiven] at hmissing
    simp only [commandKeys, List.mem_cons, List.not_mem_nil, or_false] at hkey
    rcases hkey with rfl | rfl | rfl | rfl | rfl | rfl | rfl | rfl
    case inr.inr.inl => cases hmissing
    case inr.inr.inr.inr.inr.inl => exact .inr ⟨"on".toList, .flag true, eq_ok_of_toOption hget, rfl⟩
    all_goals exact .inl (by decide), [], rfl⟩
  obtain ⟨ini, hini, hkeys, -⟩ := hvalues _ c hc
  cases hfile.symm.trans hini
  refine ⟨_, c, ha, hc, ?_, ?_, ?_⟩
  · have hkey := hkeys ⟨"processes".toList, "int".toList, .number 1⟩ (by simp [commandKeys])
    rw [← hgiven] at hkey
    exact hkey
  · have hkey := hkeys ⟨"write".toList, "boolean".toList, .flag false⟩ (by simp [commandKeys])
    rw [← hgiven, Key.written?, hget] at hkey
    exact hkey
  · have hkey := hkeys ⟨"default_return_type".toList, "string".toList, .text "Any".toList⟩ (by simp [commandKeys])
    rw [← hgiven] at hkey
    exact hkey

end TypeComments.Command
