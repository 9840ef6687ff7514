import SnippetService.Proofs.Http.Dispatch
import SnippetService.Proofs.Service.Family
import SnippetService.Proofs.Text.Digits
import SnippetService.Service.Settings
/-!
Which environments give settings, and which settings they give. Each variable is checked for itself, and the rule for
it is stated without the function that reads it. An environment is turned down for the first check that fails, in the
order in which the checks are made.
-/
namespace SnippetService.Settings

/-- The names of the languages that an environment lists. Without a list these are all families. Otherwise they are what
stands between the commas, in lower case and without the blanks around it; blank entries do not count. -/
inductive Lists (env : Environment) : List String → Prop where
  | unset (absent : env.lookup "POLYEXEC_ALLOWED_LANGS" = none) : Lists env ["python", "javascript", "wasm"]
  | set {entries : List String} (nonempty : entries ≠ []) (apart : ∀ entry ∈ entries, ',' ∉ entry.toList)
      (given : env.lookup "POLYEXEC_ALLOWED_LANGS" = some (",".intercalate entries)) :
      Lists env
        ((entries.filter fun entry : String => !isBlankText entry).map fun entry => Casing.toLower (strip entry))

/-- The name of the level that an environment asks for. -/
def levelName (env : Environment) : String := Casing.toUpper ((env.lookup "POLYEXEC_LOG_LEVEL").getD "INFO")

/-- The levels by their names, with their ranks. -/
inductive IsLevel : String → Int → Prop where
  | notset : IsLevel "NOTSET" 0
  | debug : IsLevel "DEBUG" 10
  | info : IsLevel "INFO" 20
  | warn : IsLevel "WARN" 30
  | warning : IsLevel "WARNING" 30
  | error : IsLevel "ERROR" 40
  | critical : IsLevel "CRITICAL" 50
  | fatal : IsLevel "FATAL" 50

/-- What is checked of an environment. -/
inductive Check where
  | languages
  | level
  | number (n : NumericSetting)

namespace Check

/-- The checks in the order in which they are made. -/
def all : List Check :=
  [languages, level, number .memory, number .scriptTime, number .wasmTime, number .remoteTime, number .port]

/-- The variable that is checked. -/
def variableName : Check → String
  | languages => "POLYEXEC_ALLOWED_LANGS"
  | level => "POLYEXEC_LOG_LEVEL"
  | number .memory => "POLYEXEC_MAX_MEMORY_MB"
  | number .scriptTime => "POLYEXEC_JS_TIME_LIMIT"
  | number .wasmTime => "POLYEXEC_WASM_TIME_LIMIT"
  | number .remoteTime => "POLYEXEC_REMOTE_TIMEOUT"
  | number .port => "PORT"

/-- A check that an environment does not pass, with what is wrong. -/
inductive Fails (env : Environment) : Check → SettingFault → Prop where
  /-- The first name that no family has is told. -/
  | language {before after : List String} {name : String} (lists : Lists env (before ++ name :: after))
      (known : ∀ other ∈ before, ∃ f : Family, f.name = other) (unknown : ∀ f : Family, f.name ≠ name) :
      Fails env languages (.unknownLanguage name)
  | level (unknown : ∀ rank, ¬IsLevel (levelName env) rank) : Fails env level (.unknownLevel (levelName env))
  | notANumber {n : NumericSetting} {text : String} (given : env.lookup (number n).variableName = some text)
      (unread : ∀ v, ¬Digits.StandsFor text v) : Fails env (number n) (.notANumber n text)
  | notPositive {n : NumericSetting} {text : String} {v : Int} (given : env.lookup (number n).variableName = some text)
      (reads : Digits.StandsFor text v) (small : v ≤ 0) : Fails env (number n) (.notPositive n v)

end Check

/-- The number that an environment gives for a setting, which has a default. -/
inductive Gives (env : Environment) (n : NumericSetting) (default : Int) : Int → Prop where
  | unset (absent : env.lookup (Check.number n).variableName = none) : Gives env n default default
  | set {text : String} {v : Int} (given : env.lookup (Check.number n).variableName = some text)
      (reads : Digits.StandsFor text v) (positive : 0 < v) : Gives env n default v

/-- The settings that an environment describes. -/
structure Describes (env : Environment) (s : Settings) : Prop where
  apiKey : s.apiKey = (env.lookup "POLYEXEC_API_KEY").getD ""
  languages : Lists env (s.allowed.map Family.name)
  level : IsLevel (levelName env) s.logRank
  memory : Gives env .memory 128 s.maxMemory
  scriptTime : Gives env .scriptTime 30 s.scriptTime
  wasmTime : Gives env .wasmTime 30 s.wasmTime
  remoteTime : Gives env .remoteTime 60 s.remoteTime
  port : Gives env .port 8080 s.port

/-- An environment all of whose variables are valid. -/
structure IsValid (env : Environment) : Prop where
  languages : ∃ names, Lists env names ∧ ∀ name ∈ names, ∃ f : Family, f.name = name
  level : ∃ rank, IsLevel (levelName env) rank
  numbers : ∀ (n : NumericSetting) (text : String), env.lookup (Check.number n).variableName = some text →
    ∃ v, Digits.StandsFor text v ∧ 0 < v

/-- What is wrong with an environment at the first check that it does not pass. -/
def IsFirstFault (env : Environment) (f : SettingFault) : Prop :=
  ∃ before check after, Check.all = before ++ check :: after ∧ check.Fails env f ∧
    ∀ earlier ∈ before, ∀ g, ¬earlier.Fails env g

variable {env : Environment}

/-- The names that are listed, as they are read. -/
def listed (env : Environment) : List String :=
  match env.lookup "POLYEXEC_ALLOWED_LANGS" with
  | none => Family.all.map Family.name
  | some s => languageNames s

theorem languageNames_intercalate {entries : List String} (hNonempty : entries ≠ [])
    (hApart : ∀ entry ∈ entries, ',' ∉ entry.toList) :
    languageNames (",".intercalate entries) =
      (entries.filter fun entry : String => !isBlankText entry).map fun entry => Casing.toLower (strip entry) := by
  have hParts : splitAt ',' (",".intercalate entries).toList = entries.map String.toList := by
    rw [splitAt_eq_splitOn, String.toList_intercalate]
    refine List.splitOn_intercalate ',' ?_ (by simpa using hNonempty)
    simpa using hApart
  rw [languageNames, hParts, List.filter_map, List.map_map]
  simp only [Text.isBlankText_ofString]
  rfl

/-- Every text is a list of entries, if only of one. -/
theorem exists_entries (s : String) :
    ∃ entries : List String, entries ≠ [] ∧ (∀ entry ∈ entries, ',' ∉ entry.toList) ∧ s = ",".intercalate entries := by
  refine ⟨(splitAt ',' s.toList).map String.ofList, ?_, ?_, ?_⟩
  · rw [ne_eq, List.map_eq_nil_iff, splitAt_eq_splitOn]
    exact List.splitOn_ne_nil _ _
  · intro entry hEntry
    obtain ⟨part, hPart, rfl⟩ := List.mem_map.mp hEntry
    rw [String.toList_ofList]
    exact not_mem_of_mem_splitAt hPart
  · have hChars : ((splitAt ',' s.toList).map String.ofList).map String.toList = splitAt ',' s.toList := by
      simp [Function.comp_def]
    rw [← String.toList_inj, String.toList_intercalate, hChars, splitAt_eq_splitOn]
    exact (List.intercalate_splitOn ',').symm

theorem lists_iff {names : List String} : Lists env names ↔ names = listed env := by
  unfold listed
  constructor
  · rintro (hAbsent | ⟨hNonempty, hApart, hGiven⟩)
    · rw [hAbsent]
      rfl
    · rw [hGiven]
      exact (languageNames_intercalate hNonempty hApart).symm
  · rintro rfl
    cases hGiven : env.lookup "POLYEXEC_ALLOWED_LANGS" with
    | none => exact .unset hGiven
    | some s =>
        obtain ⟨entries, hNonempty, hApart, rfl⟩ := exists_entries s
        have hLists := Lists.set hNonempty hApart hGiven
        rwa [← languageNames_intercalate hNonempty hApart] at hLists

theorem families_eq_ok_iff {names : List String} {fs : List Family} :
    families names = .ok fs ↔ fs.map Family.name = names := by
  induction names generalizing fs with
  | nil => simp [families, eq_comm]
  | cons name rest ih =>
      rw [families]
      cases hName : Family.ofName? name with
      | none =>
          refine iff_of_false nofun fun hMap => ?_
          cases fs with
          | nil => cases hMap
          | cons f fs => exact Family.ofName?_eq_none_iff.mp hName f (List.cons.inj hMap).1
      | some f =>
          obtain rfl := Family.ofName?_eq_some_iff.mp hName
          constructor
          · intro hRead
            cases hLater : families rest with
            | error fault => simp [hLater, Except.map] at hRead
            | ok later =>
                obtain rfl : f :: later = fs := by simpa [hLater, Except.map] using hRead
                rw [List.map_cons, ih.mp hLater]
          · intro hMap
            cases fs with
            | nil => cases hMap
            | cons g fs =>
                obtain ⟨hHead, hRest⟩ := List.cons.inj hMap
                have hSame : g = f := Option.some.inj ((Family.ofName?_eq_some_iff.mpr hHead).symm.trans hName)
                rw [hSame, ih.mpr hRest]
                rfl

theorem families_eq_error_iff {names : List String} {fault : SettingFault} :
    families names = .error fault ↔ ∃ before name after, names = before ++ name :: after ∧
      (∀ other ∈ before, ∃ f : Family, f.name = other) ∧ (∀ f : Family, f.name ≠ name) ∧
      fault = .unknownLanguage name := by
  induction names with
  | nil => simp [families]
  | cons name rest ih =>
      rw [families]
      cases hName : Family.ofName? name with
      | none =>
          have hUnknown := Family.ofName?_eq_none_iff.mp hName
          constructor
          · intro hError
            cases hError
            exact ⟨[], name, rest, rfl, nofun, hUnknown, rfl⟩
          · rintro ⟨before, other, after, hNames, hKnown, -, rfl⟩
            cases before with
            | nil =>
                cases hNames
                rfl
            | cons first before =>
                obtain ⟨hFirst, -⟩ := List.cons.inj hNames
                obtain ⟨f, hFamily⟩ := hKnown first List.mem_cons_self
                exact absurd (hFamily.trans hFirst.symm) (hUnknown f)
      | some f =>
          have hFamily := Family.ofName?_eq_some_iff.mp hName
          have hRest : (families rest).map (f :: ·) = .error fault ↔ families rest = .error fault := by
            cases families rest <;> simp [Except.map]
          rw [hRest, ih]
          constructor
          · rintro ⟨before, other, after, rfl, hKnown, hUnknown, rfl⟩
            exact ⟨name :: before, other, after, rfl, List.forall_mem_cons.mpr ⟨⟨f, hFamily⟩, hKnown⟩, hUnknown, rfl⟩
          · rintro ⟨before, other, after, hNames, hKnown, hUnknown, rfl⟩
            cases before with
            | nil =>
                obtain ⟨hFirst, -⟩ := List.cons.inj hNames
                exact absurd (hFamily.trans hFirst) (hUnknown f)
            | cons first before =>
                obtain ⟨-, hLater⟩ := List.cons.inj hNames
                exact ⟨before, other, after, hLater, (List.forall_mem_cons.mp hKnown).2, hUnknown, rfl⟩

theorem readAllowed_eq (env : Environment) : readAllowed env = families (listed env) := by
  unfold readAllowed listed
  cases env.lookup "POLYEXEC_ALLOWED_LANGS" with
  | none => exact (families_eq_ok_iff.mpr rfl).symm
  | some s => rfl

theorem readAllowed_eq_ok_iff {fs : List Family} : readAllowed env = .ok fs ↔ Lists env (fs.map Family.name) := by
  rw [readAllowed_eq, families_eq_ok_iff, lists_iff]

theorem readAllowed_eq_error_iff {fault : SettingFault} :
    readAllowed env = .error fault ↔ Check.languages.Fails env fault := by
  rw [readAllowed_eq, families_eq_error_iff]
  constructor
  · rintro ⟨before, name, after, hListed, hKnown, hUnknown, rfl⟩
    exact .language (lists_iff.mpr hListed.symm) hKnown hUnknown
  · intro hFails
    cases hFails with
    | language hLists hKnown hUnknown => exact ⟨_, _, _, (lists_iff.mp hLists).symm, hKnown, hUnknown, rfl⟩

theorem lookup_levels_iff {name : String} {rank : Int} : levels.lookup name = some rank ↔ IsLevel name rank := by
  constructor
  · intro hLookup
    obtain ⟨before, after, hSplit, -⟩ := List.lookup_eq_some_iff.mp hLookup
    have hEntry : (name, rank) ∈ levels := by simp [hSplit]
    simp only [levels, List.mem_cons, Prod.mk.injEq, List.not_mem_nil, or_false] at hEntry
    obtain ⟨rfl, rfl⟩ | ⟨rfl, rfl⟩ | ⟨rfl, rfl⟩ | ⟨rfl, rfl⟩ | ⟨rfl, rfl⟩ | ⟨rfl, rfl⟩ | ⟨rfl, rfl⟩ | ⟨rfl, rfl⟩ :=
      hEntry <;> constructor
  · intro hLevel
    cases hLevel <;> decide

theorem readLevel_eq_ok_iff {rank : Int} : readLevel env = .ok rank ↔ IsLevel (levelName env) rank := by
  rw [readLevel, ← levelName, ← lookup_levels_iff]
  cases levels.lookup (levelName env) <;> simp

theorem readLevel_eq_error_iff {fault : SettingFault} : readLevel env = .error fault ↔ Check.level.Fails env fault := by
  constructor
  · intro hError
    have hUnknown : ∀ rank, ¬IsLevel (levelName env) rank := by
      intro rank hLevel
      rw [readLevel_eq_ok_iff.mpr hLevel] at hError
      cases hError
    rw [readLevel, ← levelName] at hError
    split at hError
    · cases hError
    · cases hError
      exact .level hUnknown
  · intro hFails
    cases hFails with
    | level hUnknown =>
        rw [readLevel, ← levelName]
        split
        · next rank hRank => exact absurd (lookup_levels_iff.mp hRank) (hUnknown rank)
        · rfl

theorem variableName_eq (n : NumericSetting) : n.variableName = (Check.number n).variableName := by
  cases n <;> rfl

theorem readNumber_eq_ok_iff {n : NumericSetting} {v : Int} : readNumber env n = .ok v ↔ Gives env n n.default v := by
  rw [readNumber, variableName_eq]
  constructor
  · intro hRead
    split at hRead
    · next hAbsent =>
      cases hRead
      exact .unset hAbsent
    · next text hGiven =>
      split at hRead
      · cases hRead
      · next w hInt =>
        split at hRead
        · next hPositive =>
          cases hRead
          exact .set hGiven (Digits.readInt?_eq_some_iff.mp hInt) hPositive
        · cases hRead
  · intro hGives
    cases hGives with
    | unset hAbsent => rw [hAbsent]
    | set hGiven hReads hPositive =>
        simp only [hGiven, Digits.readInt?_eq_some_iff.mpr hReads, if_pos hPositive]

theorem readNumber_eq_error_iff {n : NumericSetting} {fault : SettingFault} :
    readNumber env n = .error fault ↔ (Check.number n).Fails env fault := by
  rw [readNumber, variableName_eq]
  constructor
  · intro hRead
    split at hRead
    · cases hRead
    · next text hGiven =>
      split at hRead
      · next hInt =>
        cases hRead
        exact .notANumber hGiven (Digits.readInt?_eq_none_iff.mp hInt)
      · next v hInt =>
        split at hRead
        · cases hRead
        · next hSmall =>
          cases hRead
          exact .notPositive hGiven (Digits.readInt?_eq_some_iff.mp hInt) (Int.not_lt.mp hSmall)
  · intro hFails
    cases hFails with
    | notANumber hGiven hUnread => simp only [hGiven, Digits.readInt?_eq_none_iff.mpr hUnread]
    | notPositive hGiven hReads hSmall =>
        simp only [hGiven, Digits.readInt?_eq_some_iff.mpr hReads, if_neg (Int.not_lt.mpr hSmall)]

theorem bind_eq_ok_iff {α β : Type} {r : Except SettingFault α} {next : α → Except SettingFault β} {b : β} :
    (r >>= next) = .ok b ↔ ∃ a, r = .ok a ∧ next a = .ok b := by
  cases r <;> simp [bind, Except.bind]

theorem read_eq_ok_iff {s : Settings} : read env = .ok s ↔ Describes env s := by
  constructor
  · intro hRead
    simp only [read, bind_eq_ok_iff] at hRead
    obtain ⟨allowed, hAllowed, rank, hRank, memory, hMemory, scriptTime, hScriptTime, wasmTime, hWasmTime,
      remoteTime, hRemoteTime, port, hPort, hSame⟩ := hRead
    cases hSame
    exact ⟨rfl, readAllowed_eq_ok_iff.mp hAllowed, readLevel_eq_ok_iff.mp hRank, readNumber_eq_ok_iff.mp hMemory,
      readNumber_eq_ok_iff.mp hScriptTime, readNumber_eq_ok_iff.mp hWasmTime, readNumber_eq_ok_iff.mp hRemoteTime,
      readNumber_eq_ok_iff.mp hPort⟩
  · rintro ⟨hKey, hLanguages, hLevel, hMemory, hScriptTime, hWasmTime, hRemoteTime, hPort⟩
    rw [read, readAllowed_eq_ok_iff.mpr hLanguages, readLevel_eq_ok_iff.mpr hLevel, readNumber_eq_ok_iff.mpr hMemory,
      readNumber_eq_ok_iff.mpr hScriptTime, readNumber_eq_ok_iff.mpr hWasmTime, readNumber_eq_ok_iff.mpr hRemoteTime,
      readNumber_eq_ok_iff.mpr hPort, ← hKey]
    rfl

/-- What is wrong, if anything is. -/
def faultOf {α : Type} : Except SettingFault α → Option SettingFault
  | .ok _ => none
  | .error f => some f

theorem faultOf_eq_some_iff {α : Type} {r : Except SettingFault α} {f : SettingFault} :
    faultOf r = some f ↔ r = .error f := by
  cases r <;> simp [faultOf]

/-- What a check finds. -/
def Check.fault? (env : Environment) : Check → Option SettingFault
  | languages => faultOf (readAllowed env)
  | level => faultOf (readLevel env)
  | number n => faultOf (readNumber env n)

theorem Check.fault?_eq_some_iff {check : Check} {f : SettingFault} :
    check.fault? env = some f ↔ check.Fails env f := by
  cases check with
  | languages => exact faultOf_eq_some_iff.trans readAllowed_eq_error_iff
  | level => exact faultOf_eq_some_iff.trans readLevel_eq_error_iff
  | number n => exact faultOf_eq_some_iff.trans readNumber_eq_error_iff

theorem Check.fault?_eq_none_iff {check : Check} : check.fault? env = none ↔ ∀ f, ¬check.Fails env f := by
  simp only [Option.eq_none_iff_forall_ne_some, ne_eq, fault?_eq_some_iff]

/-- The reading stops at the first check that finds anything. -/
theorem faultOf_read (env : Environment) : faultOf (read env) = Check.all.findSome? (Check.fault? env) := by
  simp only [read, Check.all, List.findSome?_cons, List.findSome?_nil, Check.fault?]
  cases readAllowed env with
  | error f => rfl
  | ok allowed =>
  cases readLevel env with
  | error f => rfl
  | ok rank =>
  cases readNumber env .memory with
  | error f => rfl
  | ok memory =>
  cases readNumber env .scriptTime with
  | error f => rfl
  | ok scriptTime =>
  cases readNumber env .wasmTime with
  | error f => rfl
  | ok wasmTime =>
  cases readNumber env .remoteTime with
  | error f => rfl
  | ok remoteTime =>
  cases readNumber env .port <;> rfl

theorem read_eq_error_iff {f : SettingFault} : read env = .error f ↔ IsFirstFault env f := by
  rw [← faultOf_eq_some_iff, faultOf_read, List.findSome?_eq_some_iff]
  simp only [Check.fault?_eq_some_iff, Check.fault?_eq_none_iff, IsFirstFault]

/-- What is said of a fault names the variable that was checked. -/
theorem Check.Fails.message {check : Check} {f : SettingFault} (hFails : check.Fails env f) :
    ∃ before behind, f.message = before ++ check.variableName ++ behind := by
  cases hFails with
  | @language _ _ name _ _ _ =>
      let choice := ", ".intercalate (Family.all.map Family.name)
      have hMessage : (SettingFault.unknownLanguage name).message =
          "Invalid " ++ "POLYEXEC_ALLOWED_LANGS" ++ " entry: " ++ name ++ ". Use any of " ++ choice ++ "." := rfl
      refine ⟨"Invalid ", " entry: " ++ (name ++ (". Use any of " ++ (choice ++ "."))), ?_⟩
      rw [hMessage, String.append_assoc, String.append_assoc, String.append_assoc, String.append_assoc, variableName]
  | level _ =>
      have hMessage : (SettingFault.unknownLevel (levelName env)).message =
          "Invalid " ++ "POLYEXEC_LOG_LEVEL" ++ ": " ++ levelName env := rfl
      refine ⟨"Invalid ", ": " ++ levelName env, ?_⟩
      rw [hMessage, String.append_assoc, variableName]
  | @notANumber n text _ _ =>
      have hMessage : (SettingFault.notANumber n text).message =
          "Invalid integer for " ++ n.variableName ++ ": " ++ text := rfl
      refine ⟨"Invalid integer for ", ": " ++ text, ?_⟩
      rw [hMessage, String.append_assoc, variableName_eq]
  | @notPositive n _ v _ _ _ =>
      have hMessage : (SettingFault.notPositive n v).message =
          n.variableName ++ " must be positive, got " ++ toString v := rfl
      refine ⟨"", " must be positive, got " ++ toString v, ?_⟩
      rw [hMessage, String.append_assoc, String.empty_append, variableName_eq]

section

variable {n : NumericSetting} {default v : Int}

theorem Gives.one_le (hGives : Gives env n default v) (hDefault : 1 ≤ default) : 1 ≤ v := by
  cases hGives with
  | unset _ => exact hDefault
  | set _ _ hPositive => exact hPositive

theorem Gives.reads (hGives : Gives env n default v) {text : String}
    (hGiven : env.lookup (Check.number n).variableName = some text) : ∃ v, Digits.StandsFor text v ∧ 0 < v := by
  cases hGives with
  | unset hAbsent =>
      rw [hGiven] at hAbsent
      cases hAbsent
  | set hOther hReads hPositive =>
      rw [hGiven] at hOther
      cases hOther
      exact ⟨v, hReads, hPositive⟩

end

theorem Describes.gives {s : Settings} (hDescribes : Describes env s) (n : NumericSetting) :
    ∃ default v, Gives env n default v := by
  cases n with
  | memory => exact ⟨_, _, hDescribes.memory⟩
  | scriptTime => exact ⟨_, _, hDescribes.scriptTime⟩
  | wasmTime => exact ⟨_, _, hDescribes.wasmTime⟩
  | remoteTime => exact ⟨_, _, hDescribes.remoteTime⟩
  | port => exact ⟨_, _, hDescribes.port⟩

theorem Describes.isValid {s : Settings} (hDescribes : Describes env s) : IsValid env where
  languages := by
    refine ⟨_, hDescribes.languages, fun name hName => ?_⟩
    obtain ⟨f, -, hFamily⟩ := List.mem_map.mp hName
    exact ⟨f, hFamily⟩
  level := ⟨_, hDescribes.level⟩
  numbers n text hGiven := by
    obtain ⟨_, _, hGives⟩ := hDescribes.gives n
    exact hGives.reads hGiven

/-- A valid environment passes every check. -/
theorem IsValid.passes (hValid : IsValid env) {check : Check} {f : SettingFault} : ¬check.Fails env f := by
  obtain ⟨⟨names, hLists, hKnown⟩, ⟨rank, hLevel⟩, hNumbers⟩ := hValid
  intro hFails
  cases hFails with
  | language hOther _ hUnknown =>
      have hSame := (lists_iff.mp hLists).trans (lists_iff.mp hOther).symm
      obtain ⟨f, hFamily⟩ := hKnown _ (hSame ▸ List.mem_append_right _ List.mem_cons_self)
      exact hUnknown f hFamily
  | level hUnknown => exact hUnknown rank hLevel
  | notANumber hGiven hUnread =>
      obtain ⟨v, hReads, -⟩ := hNumbers _ _ hGiven
      exact hUnread v hReads
  | notPositive hGiven hReads hSmall =>
      obtain ⟨v, hOther, hPositive⟩ := hNumbers _ _ hGiven
      have hSame := hReads.unique hOther
      omega

theorem exists_read_iff : (∃ s, read env = .ok s) ↔ IsValid env := by
  constructor
  · rintro ⟨s, hRead⟩
    exact (read_eq_ok_iff.mp hRead).isValid
  · intro hValid
    cases hRead : read env with
    | ok s => exact ⟨s, rfl⟩
    | error f =>
        obtain ⟨_, check, _, -, hFails, -⟩ := read_eq_error_iff.mp hRead
        exact absurd hFails hValid.passes

theorem backends_eq {κ σ : Type} (p : Platform κ) (s : Settings) (python : Backend σ) (f : Family) :
    (Http.Application.ofSettings p s python).backends f =
      if f ∈ s.allowed then some (Http.Application.backendOf p s python f) else none := by
  by_cases hAllowed : f ∈ s.allowed
  · rw [Http.Application.backends_ofSettings hAllowed, if_pos hAllowed]
  · simp [Http.Application.ofSettings, hAllowed]

/-- Settings are read exactly if they are those that the environment describes, and there are any exactly if the
environment is valid; otherwise the first check that fails says what is wrong. All numbers of settings are at least
one, and the application has a backend for each of the listed families and for no other one. -/
theorem read_iff (env : Environment) :
    (∀ s, read env = .ok s ↔ Describes env s) ∧
    ((∃ s, read env = .ok s) ↔ IsValid env) ∧
    (∀ f, read env = .error f ↔ IsFirstFault env f) ∧
    ∀ s, read env = .ok s →
      (1 ≤ s.maxMemory ∧ 1 ≤ s.scriptTime ∧ 1 ≤ s.wasmTime ∧ 1 ≤ s.remoteTime ∧ 1 ≤ s.port) ∧
      ∀ (κ σ : Type) (p : Platform κ) (python : Backend σ) (f : Family),
        (Http.Application.ofSettings p s python).backends f =
          if f ∈ s.allowed then some (Http.Application.backendOf p s python f) else none := by
  refine ⟨fun s => read_eq_ok_iff, exists_read_iff, fun f => read_eq_error_iff, fun s hRead => ?_⟩
  have hDescribes := read_eq_ok_iff.mp hRead
  exact ⟨⟨hDescribes.memory.one_le (by decide), hDescribes.scriptTime.one_le (by decide),
    hDescribes.wasmTime.one_le (by decide), hDescribes.remoteTime.one_le (by decide),
    hDescribes.port.one_le (by decide)⟩, fun κ σ p => backends_eq p s⟩

/-- Where several variables are wrong, the languages are told first, and of these the first. -/
example :
    read [("PORT", "0"), ("POLYEXEC_LOG_LEVEL", "chatty"), ("POLYEXEC_ALLOWED_LANGS", "wasm,, Ruby ,go")] =
      .error (.unknownLanguage "ruby") := by
  decide +kernel

end SnippetService.Settings
