import Classwright.Proofs.Json.Fields
import Classwright.Settings.Patch
/-!
# Single settings

A single setting stands at one place in a payload, under a key or under the key of a section and a
key in it. A change of settings that was read from a payload holds for each setting what the payload
has at its place (`ofPatch_of_decode`), and nothing else changes it (`value_apply`).
-/
namespace Classwright

inductive Setting where
  | extBuiltinTypes
  | memberPrefix
  | guardPattern
  | autoCreateHeaderGuard
  | headerExtension
  | sourceExtension
  | classTemplate
  | unitTestTemplate
  | regionStart
  | regionEnd
  | mappings
  | linkLanguages
  | stripEnable
  | stripDir
  | stripOutputDir
  | linuxRules
  | windowsRules
  | logLevel
deriving DecidableEq

namespace Setting

open Settings Fields

abbrev Value : Setting → Type
  | extBuiltinTypes | linkLanguages => List Text
  | autoCreateHeaderGuard | stripEnable => Bool
  | mappings => List ExtensionMapping
  | linuxRules | windowsRules => List StripRule
  | logLevel => LogLevel
  | memberPrefix | guardPattern | headerExtension | sourceExtension | classTemplate | unitTestTemplate | regionStart
  | regionEnd | stripDir | stripOutputDir => Text

def place : Setting → List Text
  | extBuiltinTypes => ["getterSetterExtBuiltinTypes"]
  | memberPrefix => ["memberPrefix"]
  | guardPattern => ["headerGuardPattern"]
  | autoCreateHeaderGuard => ["autoCreateHeaderGuard"]
  | headerExtension => ["classCreatorExtension", "header"]
  | sourceExtension => ["classCreatorExtension", "source"]
  | classTemplate => ["classCreatorTemplate"]
  | unitTestTemplate => ["unitTestCreatorTemplate"]
  | regionStart => ["region", "start"]
  | regionEnd => ["region", "end"]
  | mappings => ["headerSourceMappings"]
  | linkLanguages => ["linkFileLanguagesIds"]
  | stripEnable => ["compileCommandsStrip", "enable"]
  | stripDir => ["compileCommandsStrip", "dir"]
  | stripOutputDir => ["compileCommandsStrip", "outputDir"]
  | linuxRules => ["compileCommandsStrip", "linux"]
  | windowsRules => ["compileCommandsStrip", "windows"]
  | logLevel => ["logging", "level"]

def decode : (l : Setting) → Decoder l.Value
  | extBuiltinTypes | linkLanguages => Json.asListOf Json.asText
  | autoCreateHeaderGuard | stripEnable => Json.asBool
  | mappings => Json.asListOf ExtensionMapping.decode
  | linuxRules | windowsRules => Json.asListOf StripRule.decode
  | logLevel => LogLevel.decode
  | memberPrefix | guardPattern | headerExtension | sourceExtension | classTemplate | unitTestTemplate | regionStart
  | regionEnd | stripDir | stripOutputDir => Json.asText

/-- The value that a payload gives a setting; null gives none. -/
def given? (l : Setting) (payload : Json) : Option l.Value := (payload.at? l.place).bind (Fields.given? l.decode)

def value (s : Settings) : (l : Setting) → l.Value
  | extBuiltinTypes => s.extBuiltinTypes
  | memberPrefix => s.memberPrefix
  | guardPattern => s.templates.guardPattern
  | autoCreateHeaderGuard => s.autoCreateHeaderGuard
  | headerExtension => s.templates.headerExtension
  | sourceExtension => s.templates.sourceExtension
  | classTemplate => s.templates.classTemplate
  | unitTestTemplate => s.templates.unitTestTemplate
  | regionStart => s.templates.regionStart
  | regionEnd => s.templates.regionEnd
  | mappings => s.mappings
  | linkLanguages => s.linkLanguages
  | stripEnable => s.strip.enable
  | stripDir => s.strip.dir
  | stripOutputDir => s.strip.outputDir
  | linuxRules => s.strip.linux
  | windowsRules => s.strip.windows
  | logLevel => s.logLevel

def ofPatch? (p : SettingsPatch) : (l : Setting) → Option l.Value
  | extBuiltinTypes => p.extBuiltinTypes
  | memberPrefix => p.memberPrefix
  | guardPattern => p.guardPattern
  | autoCreateHeaderGuard => p.autoCreateHeaderGuard
  | headerExtension => p.extensions.bind (·.header)
  | sourceExtension => p.extensions.bind (·.source)
  | classTemplate => p.classTemplate
  | unitTestTemplate => p.unitTestTemplate
  | regionStart => p.region.bind (·.start)
  | regionEnd => p.region.bind (·.stop)
  | mappings => p.mappings
  | linkLanguages => p.linkLanguages
  | stripEnable => p.strip.bind (·.enable)
  | stripDir => p.strip.bind (·.dir)
  | stripOutputDir => p.strip.bind (·.outputDir)
  | linuxRules => p.strip.bind (·.linux)
  | windowsRules => p.strip.bind (·.windows)
  | logLevel => p.logging.bind (·.level)

/-- The settings are no more than the single ones. -/
theorem ext {s s' : Settings} (h : ∀ l, value s l = value s' l) : s = s' := by
  obtain ⟨_, _, ⟨_, _, _, _, _, _, _⟩, _, _, _, ⟨_, _, _, _, _⟩, _⟩ := s
  obtain ⟨_, _, ⟨_, _, _, _, _, _, _⟩, _, _, _, ⟨_, _, _, _, _⟩, _⟩ := s'
  simp only [Settings.mk.injEq, Templates.mk.injEq, StripSettings.mk.injEq]
  exact ⟨h extBuiltinTypes, h memberPrefix, ⟨h headerExtension, h sourceExtension, h classTemplate, h unitTestTemplate,
    h regionStart, h regionEnd, h guardPattern⟩, h autoCreateHeaderGuard, h mappings, h linkLanguages,
    ⟨h stripEnable, h stripDir, h stripOutputDir, h linuxRules, h windowsRules⟩, h logLevel⟩

/-! ## Reading a change -/

theorem extensions_of_decode {j : Json} {p : ExtensionPatch} (h : ExtensionPatch.decode j = .ok p) :
    p.header = (j.at? ["header"]).bind (Fields.given? Json.asText) ∧
      p.source = (j.at? ["source"]).bind (Fields.given? Json.asText) := by
  simp only [ExtensionPatch.decode, objectOnly_eq_ok, ofObject_seq, ofObject_map] at h
  obtain ⟨fields, rfl, _, _, ⟨_, hheader, rfl⟩, hsource, rfl⟩ := h
  exact ⟨ofObject_optional hheader, ofObject_optional hsource⟩

theorem region_of_decode {j : Json} {p : RegionPatch} (h : RegionPatch.decode j = .ok p) :
    p.start = (j.at? ["start"]).bind (Fields.given? Json.asText) ∧
      p.stop = (j.at? ["end"]).bind (Fields.given? Json.asText) := by
  simp only [RegionPatch.decode, objectOnly_eq_ok, ofObject_seq, ofObject_map] at h
  obtain ⟨fields, rfl, _, _, ⟨_, hstart, rfl⟩, hstop, rfl⟩ := h
  exact ⟨ofObject_optional hstart, ofObject_optional hstop⟩

theorem strip_of_decode {j : Json} {p : StripPatch} (h : StripPatch.decode j = .ok p) :
    p.enable = (j.at? ["enable"]).bind (Fields.given? Json.asBool) ∧
      p.dir = (j.at? ["dir"]).bind (Fields.given? Json.asText) ∧
      p.outputDir = (j.at? ["outputDir"]).bind (Fields.given? Json.asText) ∧
      p.linux = (j.at? ["linux"]).bind (Fields.given? (Json.asListOf StripRule.decode)) ∧
      p.windows = (j.at? ["windows"]).bind (Fields.given? (Json.asListOf StripRule.decode)) := by
  simp only [StripPatch.decode, objectOnly_eq_ok, ofObject_seq, ofObject_map] at h
  obtain ⟨fields, rfl, _, _, ⟨_, _, ⟨_, _, ⟨_, _, ⟨_, henable, rfl⟩, hdir, rfl⟩, houtput, rfl⟩, hlinux, rfl⟩,
    hwindows, rfl⟩ := h
  exact ⟨ofObject_optional henable, ofObject_optional hdir, ofObject_optional houtput, ofObject_optional hlinux,
    ofObject_optional hwindows⟩

theorem logging_of_decode {j : Json} {p : LoggingPatch} (h : LoggingPatch.decode j = .ok p) :
    p.level = (j.at? ["level"]).bind (Fields.given? LogLevel.decode) := by
  simp only [LoggingPatch.decode, objectOnly_eq_ok, ofObject_map] at h
  obtain ⟨fields, rfl, _, hlevel, rfl⟩ := h
  exact ofObject_optional hlevel

/-- **A change that was read** holds for each setting what the payload gives it. -/
theorem ofPatch?_of_decode {j : Json} {p : SettingsPatch} (h : SettingsPatch.decode j = .ok p) (l : Setting) :
    ofPatch? p l = l.given? j := by
  simp only [SettingsPatch.decode, objectOnly_eq_ok, ofObject_seq, ofObject_map] at h
  obtain ⟨fields, rfl, _, _, ⟨_, _, ⟨_, _, ⟨_, _, ⟨_, _, ⟨_, _, ⟨_, _, ⟨_, _, ⟨_, _, ⟨_, _, ⟨_, _, ⟨_, htypes, rfl⟩,
    hmark, rfl⟩, hguard, rfl⟩, hauto, rfl⟩, hextensions, rfl⟩, hclass, rfl⟩, hunit, rfl⟩, hregion, rfl⟩,
    hmappings, rfl⟩, hlanguages, rfl⟩, hstrip, rfl⟩, hlogging, rfl⟩ := h
  cases l with
  | extBuiltinTypes => exact ofObject_optional htypes
  | memberPrefix => exact ofObject_optional hmark
  | guardPattern => exact ofObject_optional hguard
  | autoCreateHeaderGuard => exact ofObject_optional hauto
  | headerExtension => exact ofObject_optional_bind hextensions fun _ _ h => (extensions_of_decode h).1
  | sourceExtension => exact ofObject_optional_bind hextensions fun _ _ h => (extensions_of_decode h).2
  | classTemplate => exact ofObject_optional hclass
  | unitTestTemplate => exact ofObject_optional hunit
  | regionStart => exact ofObject_optional_bind hregion fun _ _ h => (region_of_decode h).1
  | regionEnd => exact ofObject_optional_bind hregion fun _ _ h => (region_of_decode h).2
  | mappings => exact ofObject_optional hmappings
  | linkLanguages => exact ofObject_optional hlanguages
  | stripEnable => exact ofObject_optional_bind hstrip fun _ _ h => (strip_of_decode h).1
  | stripDir => exact ofObject_optional_bind hstrip fun _ _ h => (strip_of_decode h).2.1
  | stripOutputDir => exact ofObject_optional_bind hstrip fun _ _ h => (strip_of_decode h).2.2.1
  | linuxRules => exact ofObject_optional_bind hstrip fun _ _ h => (strip_of_decode h).2.2.2.1
  | windowsRules => exact ofObject_optional_bind hstrip fun _ _ h => (strip_of_decode h).2.2.2.2
  | logLevel => exact ofObject_optional_bind hlogging fun _ _ h => logging_of_decode h

/-! ## Payloads that can be read -/

def sections : List Text := ["classCreatorExtension", "region", "compileCommandsStrip", "logging"]

/-- The payload is an object, so is each of its sections, and each setting in it has a value of its
kind; null may stand for a section or for a value. -/
structure Readable (payload : Json) : Prop where
  isObject : ∃ fields, payload = .obj fields
  sections : ∀ key ∈ sections, ∀ v, payload.at? [key] = some v → v = .null ∨ ∃ fields, v = .obj fields
  values : ∀ l : Setting, payload.Allows l.place l.decode

/-- **A payload is read as a whole** or not at all. -/
theorem isOk_decode_iff (j : Json) : (SettingsPatch.decode j).isOk = true ↔ Readable j := by
  simp only [SettingsPatch.decode, isOk_objectOnly, isOk_ofObject_seq, isOk_ofObject_map, isOk_ofObject_optional]
  simp only [ExtensionPatch.decode, RegionPatch.decode, StripPatch.decode, LoggingPatch.decode, allows_objectOnly,
    isOk_ofObject_seq, isOk_ofObject_map, isOk_ofObject_optional, imp_and, forall_and, allows_inside]
  constructor
  · rintro ⟨fields, rfl, ⟨⟨⟨⟨⟨⟨⟨⟨⟨⟨htypes, hmark⟩, hguard⟩, hauto⟩, hext, hheader, hsource⟩, hclass⟩, hunit⟩, hregion, hstart,
      hstop⟩, hmappings⟩, hlanguages⟩, hstrip, ⟨⟨⟨henable, hdir⟩, houtput⟩, hlinux⟩, hwindows⟩, hlogging, hlevel⟩
    refine ⟨⟨fields, rfl⟩, ?_, fun l => ?_⟩
    · simp only [Setting.sections, List.forall_mem_cons, List.not_mem_nil, false_imp_iff, implies_true, and_true]
      exact ⟨hext, hregion, hstrip, hlogging⟩
    · cases l with
      | extBuiltinTypes => exact htypes
      | memberPrefix => exact hmark
      | guardPattern => exact hguard
      | autoCreateHeaderGuard => exact hauto
      | headerExtension => exact hheader
      | sourceExtension => exact hsource
      | classTemplate => exact hclass
      | unitTestTemplate => exact hunit
      | regionStart => exact hstart
      | regionEnd => exact hstop
      | mappings => exact hmappings
      | linkLanguages => exact hlanguages
      | stripEnable => exact henable
      | stripDir => exact hdir
      | stripOutputDir => exact houtput
      | linuxRules => exact hlinux
      | windowsRules => exact hwindows
      | logLevel => exact hlevel
  · rintro ⟨⟨fields, rfl⟩, hs, hl⟩
    simp only [Setting.sections, List.forall_mem_cons, List.not_mem_nil, false_imp_iff, implies_true, and_true] at hs
    obtain ⟨hext, hregion, hstrip, hlogging⟩ := hs
    exact ⟨fields, rfl, ⟨⟨⟨⟨⟨⟨⟨⟨⟨⟨hl extBuiltinTypes, hl memberPrefix⟩, hl guardPattern⟩, hl autoCreateHeaderGuard⟩, hext,
      hl headerExtension, hl sourceExtension⟩, hl classTemplate⟩, hl unitTestTemplate⟩, hregion, hl regionStart,
      hl regionEnd⟩, hl mappings⟩, hl linkLanguages⟩, hstrip, ⟨⟨⟨hl stripEnable, hl stripDir⟩, hl stripOutputDir⟩,
      hl linuxRules⟩, hl windowsRules⟩, hlogging, hl logLevel⟩

/-! ## Applying a change -/

/-- A change sets each setting by itself. -/
theorem value_apply (s : Settings) (p : SettingsPatch) (l : Setting) :
    value (p.apply s) l = (ofPatch? p l).getD (value s l) := by
  cases l <;> rfl

end Setting
end Classwright
