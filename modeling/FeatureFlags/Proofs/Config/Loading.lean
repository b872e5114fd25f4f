import FeatureFlags.Config.File
import FeatureFlags.Proofs.Config.Validation
import FeatureFlags.Proofs.Text.Utf8
import FeatureFlags.Proofs.Yaml.Refusal

/-!
# `Proofs.Config.Loading` — what the loading of a configuration comes to

A configuration is loaded in three stages, and each has an error of the library for its failures: the file
cannot be read, its text is not YAML, or its settings are not valid.  `Config.Promised` says what is
promised of each file.

There are failures for which no stage has an error.  The bytes of a file may be no text, and a text may be
well-formed YAML and still have no value, because a scalar stands for none or because it is nested too
deeply.  `Config.Escapes` lists them, and `Config.loads_properly_unless_escaping` shows that the promise is
kept for every other file, and broken for these.

## Contents

1. What is promised, and what escapes
2. The stages
3. The kinds of what escapes
4. Every file
-/

namespace FeatureFlags

namespace Config

/-! ## What is promised, and what escapes -/

/-- Loads a configuration, with failures as they are reported. -/
def loading (path : String) (content : FileContent) : Except Failure Config :=
  (load content).mapError (LoadError.report path)

/-- The value that a text is read as. -/
def dataOf (s : String) : Except Yaml.Error Setting :=
  Yaml.load depth (String.ofList (unifyLineEnds s.toList))

/-- The settings that a value holds: an empty one holds none, and a section for them goes before all else. -/
def settingsOf (data : Setting) : Setting := ownSection (if data.isEmpty then .map [] else data)

/-- What the loading of a file is promised to come to: a configuration that has been validated, or the error
of the stage that failed. -/
inductive Promised (path : String) : FileContent → Except Failure Config → Prop where
  | loaded {s : String} {data : Setting} {config : Config} (hdata : dataOf s = .ok data)
      (h : config.Validated (settingsOf data)) : Promised path (.bytes (Utf8.encode s)) (.ok config)
  | unreadable : Promised path .unreadable
      (.error (.library (.general "READ_FILE_ERROR" ("Failed to read config file: " ++ path))))
  | malformed {s : String} (h : dataOf s = .error .malformed) : Promised path (.bytes (Utf8.encode s))
      (.error (.library (.general "PARSE_YAML_ERROR" ("Failed to parse YAML: " ++ path))))
  | invalid {s : String} {data : Setting} {issues : List Issue} (hdata : dataOf s = .ok data)
      (h : ofSetting (settingsOf data) = .invalid issues) : Promised path (.bytes (Utf8.encode s))
      (.error (.library (.general "CONFIG_ERROR" "Config validation failed")))

/-- What no stage has an error for. -/
inductive Escapes : FileContent → ForeignError → Prop where
  /-- The bytes are no text. -/
  | notText {bytes : List UInt8} {flaw : Utf8.Flaw} (hbytes : ∀ s, Utf8.encode s ≠ bytes)
      (h : Utf8.decode bytes = .error flaw) : Escapes (.bytes bytes) ⟨.unicodeDecode, flaw.message⟩
  /-- The collections of a text are nested too deeply. -/
  | tooDeep {s : String} (h : dataOf s = .error .tooDeep) :
      Escapes (.bytes (Utf8.encode s)) ⟨.recursion, "maximum recursion depth exceeded"⟩
  /-- A scalar of a text stands for no value. -/
  | noValue {s : String} {e : ForeignError} (h : dataOf s = .error (.value e)) :
      Escapes (.bytes (Utf8.encode s)) e

/-! ## The stages -/

variable {path : String} {s : String} {data : Setting}

theorem loading_of_flaw {bytes : List UInt8} {flaw : Utf8.Flaw} (h : Utf8.decode bytes = .error flaw) :
    loading path (.bytes bytes) = .error (.foreign ⟨.unicodeDecode, flaw.message⟩) := by
  simp only [loading, load, fileText, h]
  rfl

/-- A text that is read as no value fails in the second stage. -/
theorem loading_of_error {e : Yaml.Error} (h : dataOf s = .error e) :
    loading path (.bytes (Utf8.encode s)) = .error (match e with
      | .malformed => .library (.general "PARSE_YAML_ERROR" ("Failed to parse YAML: " ++ path))
      | .tooDeep => .foreign ⟨.recursion, "maximum recursion depth exceeded"⟩
      | .value e => .foreign e) := by
  simp only [dataOf] at h
  simp only [loading, load, fileText, Utf8.decode_eq_ok_iff.mpr rfl, fileSettings, bind, Except.bind, h]
  cases e <;> rfl

/-- What the settings in a text come to, in the third stage. -/
theorem loading_of_data (h : dataOf s = .ok data) :
    loading path (.bytes (Utf8.encode s)) = match ofSetting (settingsOf data) with
      | .valid config => .ok config
      | .invalid _ => .error (.library (.general "CONFIG_ERROR" "Config validation failed")) := by
  simp only [dataOf] at h
  simp only [loading, load, fileText, Utf8.decode_eq_ok_iff.mpr rfl, fileSettings, bind, Except.bind, h,
    settingsOf]
  cases ofSetting (ownSection (if data.isEmpty then .map [] else data)) <;> rfl

theorem error_of_map {α β ε : Type} {x : Except ε α} {f : α → β} {e : ε} (h : x.map f = .error e) :
    x = .error e := by
  cases x with
  | ok a => cases h
  | error e' =>
      obtain rfl := Except.error.inj h
      rfl

/-- A file either comes to what is promised, or something escapes. -/
theorem promised_or_escapes (path : String) (content : FileContent) :
    Promised path content (loading path content) ∨ ∃ f, Escapes content f := by
  cases content with
  | unreadable => exact .inl .unreadable
  | bytes bytes =>
      cases htext : Utf8.decode bytes with
      | error flaw =>
          have hbytes : ∀ s, Utf8.encode s ≠ bytes := fun s hs => by
            rw [Utf8.decode_eq_ok_iff.mpr hs] at htext
            cases htext
          exact .inr ⟨_, .notText hbytes htext⟩
      | ok s =>
          obtain rfl := Utf8.decode_eq_ok_iff.mp htext
          cases hdata : dataOf s with
          | error e =>
              rw [loading_of_error hdata]
              cases e with
              | malformed => exact .inl (.malformed hdata)
              | tooDeep => exact .inr ⟨_, .tooDeep hdata⟩
              | value e => exact .inr ⟨_, .noValue hdata⟩
          | ok data =>
              rw [loading_of_data hdata]
              cases hsettings : ofSetting (settingsOf data) with
              | valid config => exact .inl (.loaded hdata (validated_of_ofSetting hsettings))
              | invalid issues => exact .inl (.invalid hdata hsettings)

variable {content : FileContent} {outcome : Except Failure Config} {f : ForeignError}

/-- What is promised of a file is what it comes to. -/
theorem loading_of_promised (h : Promised path content outcome) : loading path content = outcome := by
  cases h with
  | loaded hdata h => rw [loading_of_data hdata, h.accepted]
  | unreadable => rfl
  | malformed hdata => rw [loading_of_error hdata]
  | invalid hdata h => rw [loading_of_data hdata, h]

/-- Whatever escapes is what the loading ends with. -/
theorem loading_of_escapes (h : Escapes content f) :
    loading path content = .error (.foreign f) := by
  cases h with
  | notText _ htext => exact loading_of_flaw htext
  | tooDeep hdata => rw [loading_of_error hdata]
  | noValue hdata => rw [loading_of_error hdata]

theorem not_promised_foreign : ¬ Promised path content (.error (.foreign f)) := nofun

/-! ## The kinds of what escapes -/

/-- The kinds of the failures that escape. -/
def escapingKinds : List ForeignKind :=
  [.unicodeDecode, .recursion, .value, .overflow, .key, .index, .attribute, .type]

theorem kind_of_spoils {e : ForeignError} (h : Yaml.Spoils (.value e)) : e.kind ∈ escapingKinds := by
  cases h <;> simp [escapingKinds]

theorem kind_of_refuses {e : ForeignError} (h : Yaml.Refuses (.value e)) : e.kind ∈ escapingKinds := by
  cases h <;> simp [escapingKinds]

theorem kind_of_escapes (h : Escapes content f) : f.kind ∈ escapingKinds := by
  cases h with
  | notText | tooDeep => simp [escapingKinds]
  | noValue hdata => exact (Yaml.spoils_or_refuses_of_load hdata).elim kind_of_spoils kind_of_refuses

/-! ## Every file -/

/-- **Loading comes to what is promised unless something escapes.**  Then it ends with that, and it is of one
of eight kinds. -/
theorem loads_properly_unless_escaping (path : String) (content : FileContent) :
    (Promised path content (loading path content) ↔ ¬ ∃ f, Escapes content f) ∧
      (∀ outcome, Promised path content outcome → loading path content = outcome) ∧
      ∀ f, Escapes content f → loading path content = .error (.foreign f) ∧ f.kind ∈ escapingKinds := by
  refine ⟨⟨?_, (promised_or_escapes path content).resolve_right⟩, fun _ => loading_of_promised,
    fun _ h => ⟨loading_of_escapes h, kind_of_escapes h⟩⟩
  rintro hpromised ⟨f, hf⟩
  rw [loading_of_escapes hf] at hpromised
  exact not_promised_foreign hpromised

/-- A byte that begins no character, and a date in a thirteenth month, are not answered with an error of the
library. -/
theorem byte_and_month_escape :
    loading "flags.yaml" (.bytes [0xFF]) = .error (.foreign
        ⟨.unicodeDecode, "'utf-8' codec can't decode byte 0xff in position 0: invalid start byte"⟩) ∧
      ¬ Promised "flags.yaml" (.bytes [0xFF]) (loading "flags.yaml" (.bytes [0xFF])) ∧
      loading "flags.yaml" (.bytes (Utf8.encode "a: !!timestamp 2024-13-45\n")) =
        .error (.foreign ⟨.value, "month must be in 1..12"⟩) ∧
      ¬ Promised "flags.yaml" (.bytes (Utf8.encode "a: !!timestamp 2024-13-45\n"))
        (loading "flags.yaml" (.bytes (Utf8.encode "a: !!timestamp 2024-13-45\n"))) := by
  have hbyte : Utf8.decode [0xFF] = .error ⟨0, 1, 0xFF, .start⟩ := by decide
  have hmonth : dataOf "a: !!timestamp 2024-13-45\n" = .error (.value ⟨.value, "month must be in 1..12"⟩) :=
    -- settings cannot be compared, failures can
    error_of_map (f := fun _ => ()) (by decide +kernel)
  have hmessage : (⟨0, 1, 0xFF, .start⟩ : Utf8.Flaw).message =
      "'utf-8' codec can't decode byte 0xff in position 0: invalid start byte" := by decide +kernel
  rw [loading_of_flaw hbyte, loading_of_error hmonth, hmessage]
  exact ⟨rfl, not_promised_foreign, rfl, not_promised_foreign⟩

end Config

end FeatureFlags
