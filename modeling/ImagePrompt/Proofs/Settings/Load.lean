import ImagePrompt.Proofs.Settings.Dotenv
import ImagePrompt.Proofs.Settings.Priority
import ImagePrompt.Settings.Basic
import Mathlib.Data.Nat.Digits.Defs
/-!
# Settings from a file and the environment

What a program's settings are, and when it has none. Each setting is the first
text that is not blank, the file's before the environment's, and what is built
in comes last. A line that cannot be read and a time to wait that is no number
are errors that nothing else makes good.
-/

namespace ImagePrompt

/-! ## The first value that is not blank -/

/-- The first of some labelled values that is not blank: its label, and its text without the blanks
around it. -/
def firstFilled : List (String × Option String) → Option (String × String)
  | [] => none
  | (_, none) :: rest => firstFilled rest
  | (label, some value) :: rest =>
    if Text.trim value = "" then firstFilled rest else some (label, Text.trim value)

theorem firstFilled_append (as bs : List (String × Option String)) :
    firstFilled (as ++ bs) = (firstFilled as).or (firstFilled bs) := by
  induction as using firstFilled.induct with
  | case1 => rfl
  | case2 label rest ih => simpa only [List.cons_append, firstFilled] using ih
  | case3 label value rest hblank ih =>
    simpa only [List.cons_append, firstFilled, if_pos hblank] using ih
  | case4 label value rest hsome =>
    simp only [List.cons_append, firstFilled, if_neg hsome, Option.some_or]

/-- Nothing is found exactly when all values are blank or absent. -/
theorem firstFilled_eq_none_iff {places : List (String × Option String)} :
    firstFilled places = none ↔
      ∀ place ∈ places, ∀ value, place.2 = some value → Text.trim value = "" := by
  induction places using firstFilled.induct with
  | case1 => simp [firstFilled]
  | case2 label rest ih => simp [firstFilled, ih]
  | case3 label value rest hblank ih => simp [firstFilled, hblank, ih]
  | case4 label value rest hsome => simp [firstFilled, hsome]

/-- The key of a value and the source that it is from, as messages name them. -/
def labelOf (source key : String) : String := key ++ " (" ++ source ++ ")"

def ResolvedValue.labelled (row : ResolvedValue) : String × String :=
  (labelOf row.source row.key, row.value)

theorem Source.resolve?_labelled (s : Source) (keys : List String) :
    (s.resolve? keys).map ResolvedValue.labelled =
      firstFilled (keys.map fun key => (labelOf s.name key, s.get? key)) := by
  induction keys with
  | nil => rfl
  | cons key keys ih =>
    unfold resolve? at ih ⊢
    rw [List.findSome?_cons, List.map_cons]
    cases hget : s.get? key with
    | none =>
      have hnone : s.said? key = none := said?_eq_none_iff.2 fun value h => by
        cases hget.symm.trans h.1
      simpa only [hnone, Option.map_none, firstFilled] using ih
    | some value =>
      by_cases hblank : Text.trim value = ""
      · have hnone : s.said? key = none := said?_eq_none_iff.2 fun raw h => by
          obtain rfl := Option.some.inj (hget.symm.trans h.1)
          exact h.2 hblank
        simpa only [hnone, Option.map_none, firstFilled, if_pos hblank] using ih
      · have hsome : s.said? key = some (Text.trim value) :=
          said?_eq_some_iff.2 ⟨value, ⟨hget, hblank⟩, rfl⟩
        simp only [hsome, firstFilled, if_neg hblank]
        rfl

/-- Sources are asked one after another, and each for all keys. -/
theorem resolveAny_labelled (sources : List Source) (keys : List String) :
    (resolveAny sources keys).map ResolvedValue.labelled =
      firstFilled (sources.flatMap fun s =>
        keys.map fun key => (labelOf s.name key, s.get? key)) := by
  induction sources with
  | nil => rfl
  | cons s sources ih =>
    unfold resolveAny at ih ⊢
    rw [List.findSome?_cons, List.flatMap_cons, firstFilled_append, ← s.resolve?_labelled, ← ih]
    cases s.resolve? keys <;> rfl

/-! ## The latest assignment -/

/-- The value that the latest assignment to a key gives it. -/
def latest? : List (String × String) → String → Option String
  | [], _ => none
  | row :: rest, key => (latest? rest key).or (if row.1 = key then some row.2 else none)

theorem latest?_eq_none {rows : List (String × String)} {key : String}
    (h : ∀ row ∈ rows, row.1 ≠ key) : latest? rows key = none := by
  induction rows with
  | nil => rfl
  | cons row rest ih =>
    obtain ⟨hrow, hrest⟩ := List.forall_mem_cons.1 h
    rw [latest?, ih hrest, if_neg hrow, Option.or_none]

theorem latest?_append_cons {before behind : List (String × String)} {key value : String}
    (hbehind : ∀ row ∈ behind, row.1 ≠ key) :
    latest? (before ++ (key, value) :: behind) key = some value := by
  induction before with
  | nil => rw [List.nil_append, latest?, latest?_eq_none hbehind, if_pos rfl, Option.none_or]
  | cons row rest ih => rw [List.cons_append, latest?, ih, Option.some_or]

theorem get?_ofValues_eq_latest? (name : String) (values : List (String × String)) (key : String) :
    (Source.ofValues name values).get? key = latest? values key := by
  change values.reverse.lookup key = _
  induction values with
  | nil => rfl
  | cons row rest ih =>
    rw [List.reverse_cons, List.lookup_append, ih, latest?]
    by_cases hkey : row.1 = key
    · rw [if_pos hkey, List.lookup_cons, hkey, beq_self_eq_true]
    · rw [if_neg hkey, List.lookup_cons, beq_false_of_ne (Ne.symm hkey)]
      rfl

namespace Settings

/-! ## The time to wait -/

/-- A text of decimal digits, with or without a plus before them, stands for a number. -/
def Denotes (text : String) (n : Nat) : Prop :=
  ∃ digits : List Char, digits ≠ [] ∧ (∀ c ∈ digits, c.isDigit = true) ∧
    (text.toList = digits ∨ text.toList = '+' :: digits) ∧
    Nat.ofDigits 10 (digits.reverse.map fun c => c.toNat - 48) = n

theorem foldl_digits (digits : List Char) :
    digits.foldl (fun n c => 10 * n + (c.toNat - 48)) 0 =
      Nat.ofDigits 10 (digits.reverse.map fun c => c.toNat - 48) := by
  rw [Nat.ofDigits_eq_foldr, List.foldr_map, List.foldr_reverse]
  simp only [Nat.cast_id, Nat.add_comm (10 * _)]

/-- A text without the plus that may come first. -/
def unsigned (text : String) : List Char :=
  match text.toList with
  | '+' :: rest => rest
  | cs => cs

theorem toList_eq_unsigned (text : String) :
    text.toList = unsigned text ∨ text.toList = '+' :: unsigned text := by
  unfold unsigned
  split
  · next rest heq => exact .inr heq
  · exact .inl rfl

theorem unsigned_eq {text : String} {digits : List Char} (hdigits : ∀ c ∈ digits, c.isDigit = true)
    (htext : text.toList = digits ∨ text.toList = '+' :: digits) : unsigned text = digits := by
  unfold unsigned
  rcases htext with h | h
  · rw [h]
    split
    · exact absurd (hdigits '+' (List.mem_cons_self ..)) (by decide)
    · rfl
  · rw [h]
    rfl

theorem denotes_iff {text : String} {n : Nat} :
    Denotes text n ↔ unsigned text ≠ [] ∧ (∀ c ∈ unsigned text, c.isDigit = true) ∧
      Nat.ofDigits 10 ((unsigned text).reverse.map fun c => c.toNat - 48) = n := by
  constructor
  · rintro ⟨digits, hne, hdigits, htext, hvalue⟩
    rw [unsigned_eq hdigits htext]
    exact ⟨hne, hdigits, hvalue⟩
  · rintro ⟨hne, hdigits, hvalue⟩
    exact ⟨unsigned text, hne, hdigits, toList_eq_unsigned text, hvalue⟩

theorem positive?_eq_some_iff {text : String} {n : Nat} :
    positive? text = some n ↔ Denotes text n ∧ 1 ≤ n ∧ n ≤ 2 ^ 64 - 1 := by
  have hread : positive? text =
      if (unsigned text).isEmpty || !(unsigned text).all Char.isDigit then none
      else
        let n := (unsigned text).foldl (fun n c => 10 * n + (c.toNat - 48)) 0
        if 0 < n && n < Nat.pow 2 64 then some n else none := rfl
  have hdigits : ((unsigned text).isEmpty || !(unsigned text).all Char.isDigit) = false ↔
      unsigned text ≠ [] ∧ ∀ c ∈ unsigned text, c.isDigit = true := by
    simp
  rw [hread, denotes_iff, foldl_digits, and_assoc, and_assoc, ← and_assoc (a := unsigned text ≠ []),
    ← hdigits]
  generalize Nat.ofDigits 10 ((unsigned text).reverse.map fun c => c.toNat - 48) = m
  cases ((unsigned text).isEmpty || !(unsigned text).all Char.isDigit) with
  | true => simp
  | false =>
    simp only [Bool.false_eq_true, if_false, Bool.and_eq_true, decide_eq_true_eq, true_and,
      Nat.pow_eq]
    constructor
    · intro h
      split at h
      · next hrange =>
        obtain rfl := Option.some.inj h
        exact ⟨rfl, by omega⟩
      · cases h
    · rintro ⟨rfl, hlow, hhigh⟩
      exact if_pos (by omega)

/-! ## The file -/

/-- A file that cannot be opened, or that has a line that is rejected. -/
inductive Unusable (fs : FileSystem) (path : String) : Prop
  | unopened {e : FileError} (hfile : fs.isFile path = true) (hread : fs.read path = .error e)
  | unreadable {bytes line : Bytes} (hfile : fs.isFile path = true)
      (hread : fs.read path = .ok bytes) (hline : line ∈ Dotenv.linesOf bytes)
      (hrejected : Dotenv.IsRejected line)

/-- The assignments of a file. What is no file has none. -/
inductive Holds (fs : FileSystem) (environment : Environment) (path : String) :
    List (String × String) → Prop
  | file {bytes : Bytes} {values : List (String × String)} (hfile : fs.isFile path = true)
      (hread : fs.read path = .ok bytes) (hparse : Dotenv.parse environment bytes = .ok values) :
      Holds fs environment path values
  | noFile (hfile : fs.isFile path = false) : Holds fs environment path []

variable {fs : FileSystem} {environment : Environment} {path : String}

theorem Holds.ofFile {values : List (String × String)} (h : Holds fs environment path values) :
    Source.ofFile fs environment path = .ok (.ofValues path values) := by
  unfold Source.ofFile
  cases h with
  | file hfile hread hparse => simp only [hfile, hread, hparse, if_true]
  | noFile hfile => simp only [hfile, Bool.false_eq_true, if_false]

theorem Unusable.ofFile (environment : Environment) (h : Unusable fs path) :
    ∃ e, Source.ofFile fs environment path = .error e := by
  unfold Source.ofFile
  cases h with
  | @unopened e hfile hread =>
    simp only [hfile, hread, if_true]
    exact ⟨_, rfl⟩
  | @unreadable bytes line hfile hread hline hrejected =>
    simp only [hfile, hread, if_true]
    cases hparse : Dotenv.parse environment bytes with
    | error e => exact ⟨_, rfl⟩
    | ok values => exact absurd hrejected (Dotenv.exists_parse_iff.1 ⟨values, hparse⟩ line hline)

theorem unusable_or_holds (fs : FileSystem) (environment : Environment) (path : String) :
    Unusable fs path ∨ ∃ values, Holds fs environment path values := by
  cases hfile : fs.isFile path with
  | false => exact .inr ⟨[], .noFile hfile⟩
  | true =>
    cases hread : fs.read path with
    | error e => exact .inl (.unopened hfile hread)
    | ok bytes =>
      by_cases hrejected : ∃ line ∈ Dotenv.linesOf bytes, Dotenv.IsRejected line
      · obtain ⟨line, hline, hrejected⟩ := hrejected
        exact .inl (.unreadable hfile hread hline hrejected)
      · have hnone : ∀ line ∈ Dotenv.linesOf bytes, ¬ Dotenv.IsRejected line :=
          fun line hline h => hrejected ⟨line, hline, h⟩
        obtain ⟨values, hparse⟩ : ∃ values, Dotenv.parse environment bytes = .ok values :=
          Dotenv.exists_parse_iff.2 hnone
        exact .inr ⟨values, .file hfile hread hparse⟩

/-! ## What is resolved -/

/-- What the file and the environment hold under some keys, in the order in which they are asked:
the file before the environment, and in each an earlier key before a later one. -/
def places (path : String) (values : List (String × String)) (environment : Environment)
    (keys : List String) : List (String × Option String) :=
  (keys.map fun key => (labelOf path key, latest? values key)) ++
    keys.map fun key => (labelOf "environment" key, environment.value? key)

variable {values : List (String × String)} {keys : List String} {key builtIn : String}

/-- The sources of a program whose file makes these assignments. -/
def sourcesOf (path : String) (values : List (String × String)) (environment : Environment) :
    List Source :=
  [.ofValues path values, .ofEnvironment environment, defaults]

theorem resolveAny_sourcesOf (path : String) (values : List (String × String))
    (environment : Environment) (keys : List String) :
    (resolveAny (sourcesOf path values environment) keys).map ResolvedValue.labelled =
      (firstFilled (places path values environment keys)).or
        (firstFilled (keys.map fun key => (labelOf "default" key, defaults.get? key))) := by
  rw [resolveAny_labelled, ← firstFilled_append]
  simp only [sourcesOf, places, List.flatMap_cons, List.flatMap_nil, List.append_nil,
    List.append_assoc, get?_ofValues_eq_latest?]
  rfl

/-- The text that the file or the environment chooses for a key. -/
def chosen (path : String) (values : List (String × String)) (environment : Environment)
    (key : String) : Option String :=
  (firstFilled (places path values environment [key])).map (·.2)

/-- What is built in counts where neither the file nor the environment says anything. -/
theorem value_sourcesOf (path : String) (values : List (String × String))
    (environment : Environment) (hdefault : defaults.get? key = some builtIn)
    (htrim : Text.trim builtIn = builtIn) (hne : builtIn ≠ "") :
    (ImagePrompt.resolve (sourcesOf path values environment) key).map (·.value) =
      some ((chosen path values environment key).getD builtIn) := by
  have hbuiltIn : firstFilled [(labelOf "default" key, some builtIn)] =
      some (labelOf "default" key, builtIn) := by
    simp only [firstFilled, htrim, if_neg hne]
  have hlabelled := congrArg (Option.map Prod.snd)
    (resolveAny_sourcesOf path values environment [key])
  rw [List.map_singleton, hdefault, hbuiltIn, Option.map_map] at hlabelled
  unfold chosen
  cases hfirst : firstFilled (places path values environment [key]) with
  | none =>
    rw [hfirst] at hlabelled
    exact hlabelled
  | some place =>
    rw [hfirst] at hlabelled
    exact hlabelled

/-- No credential is built in. -/
theorem apiKey_sourcesOf :
    (resolveAny (sourcesOf path values environment) apiKeyKeys).map ResolvedValue.labelled =
      firstFilled (places path values environment apiKeyKeys) := by
  have hnone : firstFilled (apiKeyKeys.map fun key =>
      (labelOf "default" key, defaults.get? key)) = none := by
    decide
  rw [resolveAny_sourcesOf, hnone, Option.or_none]

theorem resolveTimeout_sourcesOf {n : Nat} :
    resolveTimeout (sourcesOf path values environment) = .ok n ↔
      positive? ((chosen path values environment timeoutKey).getD "120") = some n := by
  have hbuiltIn : defaults.get? timeoutKey = some "120" := by decide
  have hvalue := value_sourcesOf path values environment hbuiltIn (by decide) (by decide)
  obtain ⟨row, hrow, hvalue⟩ := Option.map_eq_some_iff.1 hvalue
  rw [← hvalue]
  unfold resolveTimeout
  rw [hrow]
  cases hpositive : positive? row.value <;> simp [hpositive]

theorem resolve_sourcesOf :
    resolve (sourcesOf path values environment) =
      (resolveTimeout (sourcesOf path values environment)).map fun timeoutSeconds =>
        { apiKey := (firstFilled (places path values environment apiKeyKeys)).map (·.2)
          apiKeySource := (firstFilled (places path values environment apiKeyKeys)).map (·.1)
          baseUrl := Text.dropEnd '/'
            ((chosen path values environment baseUrlKey).getD defaultBaseUrl)
          model := (chosen path values environment modelKey).getD defaultModel
          timeoutSeconds } := by
  have hbaseBuiltIn : defaults.get? baseUrlKey = some defaultBaseUrl := by decide
  have hmodelBuiltIn : defaults.get? modelKey = some defaultModel := by decide
  have hbase := value_sourcesOf path values environment hbaseBuiltIn (by decide) (by decide)
  have hmodel := value_sourcesOf path values environment hmodelBuiltIn (by decide) (by decide)
  rw [← apiKey_sourcesOf, Option.map_map, Option.map_map]
  unfold resolve
  simp only [hbase, hmodel, Option.getD_some]
  cases resolveTimeout (sourcesOf path values environment) <;> rfl

/-! ## Loading -/

/-- A text stands for a time to wait: a number of seconds from 1 on that has 64 bits. -/
def IsTimeout (text : String) : Prop := ∃ n, Denotes text n ∧ 1 ≤ n ∧ n ≤ 2 ^ 64 - 1

/-- A value is absent or blank. -/
def SaysNothing (value : Option String) : Prop := ∀ text, value = some text → Text.trim text = ""

/-- An address is a text without the slashes at its end. -/
structure Unslashed (text base : String) : Prop where
  slashes : ∃ k, text = base ++ String.ofList (List.replicate k '/')
  ending : base.toList.getLast? ≠ some '/'

/-- The settings by what the file and the environment hold. -/
structure Given (path : String) (values : List (String × String)) (environment : Environment)
    (settings : Settings) : Prop where
  model : settings.model = (chosen path values environment modelKey).getD defaultModel
  baseUrl : Unslashed ((chosen path values environment baseUrlKey).getD defaultBaseUrl)
    settings.baseUrl
  timeout : ∀ text, chosen path values environment timeoutKey = some text →
    Denotes text settings.timeoutSeconds
  untimed : chosen path values environment timeoutKey = none → settings.timeoutSeconds = 120
  positive : 1 ≤ settings.timeoutSeconds
  apiKey : settings.apiKey = (firstFilled (places path values environment apiKeyKeys)).map (·.2)
  /-- The label names the key and the source. -/
  apiKeySource : settings.apiKeySource =
    (firstFilled (places path values environment apiKeyKeys)).map (·.1)
  keyless_iff : settings.apiKey = none ↔ ∀ key ∈ ["GEMINI_API_KEY", "GOOGLE_API_KEY"],
    SaysNothing (latest? values key) ∧ SaysNothing (environment.value? key)
  /-- The second key of the file comes before the first key of the environment. -/
  fileFirst : ∀ text, SaysNothing (latest? values "GEMINI_API_KEY") →
    latest? values "GOOGLE_API_KEY" = some text → Text.trim text ≠ "" →
    settings.apiKey = some (Text.trim text) ∧
      settings.apiKeySource = some ("GOOGLE_API_KEY (" ++ path ++ ")")

theorem firstFilled_cons_of_saysNothing {value : Option String} (h : SaysNothing value)
    (label : String) (rest : List (String × Option String)) :
    firstFilled ((label, value) :: rest) = firstFilled rest := by
  cases value with
  | none => rfl
  | some text => rw [firstFilled, if_pos (h text rfl)]

theorem firstFilled_places_eq_none_iff :
    firstFilled (places path values environment keys) = none ↔
      ∀ key ∈ keys, SaysNothing (latest? values key) ∧ SaysNothing (environment.value? key) := by
  rw [firstFilled_eq_none_iff]
  unfold places
  rw [List.forall_mem_append, List.forall_mem_map, List.forall_mem_map, ← forall₂_and]
  rfl

theorem given_of_timeout {n : Nat}
    (htimeout : resolveTimeout (sourcesOf path values environment) = .ok n)
    {settings : Settings} (h : resolve (sourcesOf path values environment) = .ok settings) :
    Given path values environment settings := by
  rw [resolve_sourcesOf, htimeout] at h
  obtain rfl := Except.ok.inj h
  have hread := resolveTimeout_sourcesOf.1 htimeout
  obtain ⟨hdenotes, hpositive, -⟩ := positive?_eq_some_iff.1 hread
  constructor
  case model => rfl
  case baseUrl => exact ⟨Text.exists_eq_dropEnd_append _ _, Text.getLast?_dropEnd_ne _ _⟩
  case timeout =>
    intro text htext
    rwa [htext, Option.getD_some] at hdenotes
  case untimed =>
    intro hnone
    have hbuiltIn : positive? "120" = some 120 := by decide
    rw [hnone, Option.getD_none, hbuiltIn] at hread
    exact (Option.some.inj hread).symm
  case positive => exact hpositive
  case apiKey => rfl
  case apiKeySource => rfl
  case keyless_iff => exact Option.map_eq_none_iff.trans firstFilled_places_eq_none_iff
  case fileFirst =>
    intro text hnothing hgoogle htext
    have hfirst : firstFilled (places path values environment apiKeyKeys) =
        some (labelOf path "GOOGLE_API_KEY", Text.trim text) := by
      unfold places apiKeyKeys
      rw [List.map_cons, List.cons_append, firstFilled_cons_of_saysNothing hnothing,
        List.map_cons, List.cons_append, hgoogle, firstFilled, if_neg htext]
    rw [hfirst]
    exact ⟨rfl, rfl⟩

theorem load_of_holds {file : Option String}
    (h : Holds fs environment (file.getD defaultFile) values) :
    load fs environment file =
      resolve (sourcesOf (file.getD defaultFile) values environment) := by
  unfold load standardSources
  rw [h.ofFile]
  rfl

theorem load_of_unusable {file : Option String} (environment : Environment)
    (h : Unusable fs (file.getD defaultFile)) : ∃ e, load fs environment file = .error e := by
  obtain ⟨e, he⟩ := h.ofFile environment
  refine ⟨e, ?_⟩
  unfold load standardSources
  rw [he]
  rfl

/-- Settings fail to be resolved when the time to wait that is chosen is none. -/
theorem exists_resolve_error_iff :
    (∃ e, resolve (sourcesOf path values environment) = .error e) ↔
      ∃ text, chosen path values environment timeoutKey = some text ∧ ¬ IsTimeout text := by
  have hread : (∃ n, resolveTimeout (sourcesOf path values environment) = .ok n) ↔
      IsTimeout ((chosen path values environment timeoutKey).getD "120") :=
    exists_congr fun n => resolveTimeout_sourcesOf.trans positive?_eq_some_iff
  have hbuiltIn : IsTimeout "120" := ⟨120, positive?_eq_some_iff.1 (by decide)⟩
  -- What is built in is a time to wait, so only a text that is chosen can be at fault.
  rw [resolve_sourcesOf]
  simp only [Success.map_eq_error]
  cases htimeout : resolveTimeout (sourcesOf path values environment) with
  | ok n =>
    have his := hread.1 ⟨n, htimeout⟩
    refine iff_of_false nofun ?_
    rintro ⟨text, htext, hnot⟩
    rw [htext, Option.getD_some] at his
    exact hnot his
  | error e =>
    refine iff_of_true ⟨e, rfl⟩ ?_
    have hnot : ¬ IsTimeout ((chosen path values environment timeoutKey).getD "120") := by
      rw [← hread, htimeout]
      exact nofun
    cases hchosen : chosen path values environment timeoutKey with
    | none => exact absurd hbuiltIn (by rwa [hchosen] at hnot)
    | some text => exact ⟨text, rfl, by rwa [hchosen] at hnot⟩

/-- When settings are had, and what they are. -/
structure LoadDecided (fs : FileSystem) (environment : Environment) (file : Option String) :
    Prop where
  fails_iff : (∃ e, load fs environment file = .error e) ↔
    Unusable fs (file.getD ".env") ∨
      ∃ values text, Holds fs environment (file.getD ".env") values ∧
        chosen (file.getD ".env") values environment "PROMPTFORGE_TIMEOUT_SECS" = some text ∧
        ¬ IsTimeout text
  /-- Nothing in the environment makes good a time to wait in the file that is none. -/
  unrescued : ∀ values text, Holds fs environment (file.getD ".env") values →
    latest? values "PROMPTFORGE_TIMEOUT_SECS" = some text → Text.trim text ≠ "" →
    ¬ IsTimeout (Text.trim text) → ∃ e, load fs environment file = .error e
  succeeded : ∀ settings, load fs environment file = .ok settings →
    ∃ values, Holds fs environment (file.getD ".env") values ∧
      Given (file.getD ".env") values environment settings
  /-- Of several assignments to a key in the file the last one counts. -/
  latest : ∀ before key value behind,
    Holds fs environment (file.getD ".env") (before ++ (key, value) :: behind) →
    (∀ row ∈ behind, row.1 ≠ key) →
    ∃ source, Source.ofFile fs environment (file.getD ".env") = .ok source ∧
      source.get? key = some value

theorem load_decided (fs : FileSystem) (environment : Environment) (file : Option String) :
    LoadDecided fs environment file := by
  have hfails : (∃ e, load fs environment file = .error e) ↔
      Unusable fs (file.getD ".env") ∨
        ∃ values text, Holds fs environment (file.getD ".env") values ∧
          chosen (file.getD ".env") values environment timeoutKey = some text ∧
          ¬ IsTimeout text := by
    constructor
    · rintro ⟨e, he⟩
      rcases unusable_or_holds fs environment (file.getD ".env") with hunusable | ⟨values, hholds⟩
      · exact .inl hunusable
      · rw [load_of_holds hholds] at he
        obtain ⟨text, htext, hnot⟩ := exists_resolve_error_iff.1 ⟨e, he⟩
        exact .inr ⟨values, text, hholds, htext, hnot⟩
    · rintro (hunusable | ⟨values, text, hholds, htext, hnot⟩)
      · exact load_of_unusable environment hunusable
      · rw [load_of_holds hholds]
        exact exists_resolve_error_iff.2 ⟨text, htext, hnot⟩
  constructor
  case fails_iff => exact hfails
  case unrescued =>
    intro values text hholds htext hne hnot
    -- The file is asked first, so its text is the one chosen whatever the environment holds.
    refine hfails.2 (.inr ⟨values, Text.trim text, hholds, ?_, hnot⟩)
    change (firstFilled ((_, latest? values timeoutKey) :: _)).map (·.2) = _
    rw [show latest? values timeoutKey = some text from htext, firstFilled, if_neg hne]
    rfl
  case succeeded =>
    intro settings hload
    rcases unusable_or_holds fs environment (file.getD ".env") with hunusable | ⟨values, hholds⟩
    · obtain ⟨e, he⟩ := load_of_unusable environment hunusable
      cases he.symm.trans hload
    · rw [load_of_holds hholds] at hload
      have hsome := hload
      rw [resolve_sourcesOf, Success.map_eq_ok] at hsome
      obtain ⟨n, htimeout, -⟩ := hsome
      exact ⟨values, hholds, given_of_timeout htimeout hload⟩
  case latest =>
    intro before key value behind hholds hbehind
    exact ⟨_, hholds.ofFile, (get?_ofValues_eq_latest? ..).trans (latest?_append_cons hbehind)⟩

end Settings

end ImagePrompt
