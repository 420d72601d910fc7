import Classwright.EditorJson
import Classwright.Settings.Basic
import Classwright.Toml.Reader
/-!
# Changes of settings

A payload sets some of the settings and leaves the others as they are. It may name them at its top,
or in a section of its own, or both; the section counts last. What cannot be read as a whole is left
out. A project may keep a payload in a file at the root of the workspace or in a directory above it;
the nearest one counts.
-/
namespace Classwright

/-- New values for the extensions of created files. -/
structure ExtensionPatch where
  header : Option Text
  source : Option Text

/-- New values for the markers of a region. -/
structure RegionPatch where
  start : Option Text
  stop : Option Text

/-- New values for the compilation database. -/
structure StripPatch where
  enable : Option Bool
  dir : Option Text
  outputDir : Option Text
  linux : Option (List StripRule)
  windows : Option (List StripRule)

/-- New values for logging. -/
structure LoggingPatch where
  level : Option LogLevel

/-- New values for some settings. -/
structure SettingsPatch where
  extBuiltinTypes : Option (List Text)
  memberPrefix : Option Text
  guardPattern : Option Text
  autoCreateHeaderGuard : Option Bool
  extensions : Option ExtensionPatch
  classTemplate : Option Text
  unitTestTemplate : Option Text
  region : Option RegionPatch
  mappings : Option (List ExtensionMapping)
  linkLanguages : Option (List Text)
  strip : Option StripPatch
  logging : Option LoggingPatch

/-! ## Reading -/

open Fields Json

/-- A level by its name, which may also be the key of a null. -/
def LogLevel.decode : Decoder LogLevel
  | .str t | .obj [(t, .null)] =>
    match LogLevel.ofName? t with
    | some l => .ok l
    | none => .error .badValue
  | _ => .error .badValue

def ExtensionPatch.decode : Decoder ExtensionPatch :=
  objectOnly (ExtensionPatch.mk <$> optional "header" asText <*> optional "source" asText)

def RegionPatch.decode : Decoder RegionPatch :=
  objectOnly (RegionPatch.mk <$> optional "start" asText <*> optional "end" asText)

def StripPatch.decode : Decoder StripPatch :=
  objectOnly (StripPatch.mk <$> optional "enable" asBool <*> optional "dir" asText <*>
    optional "outputDir" asText <*> optional "linux" (asListOf StripRule.decode) <*>
    optional "windows" (asListOf StripRule.decode))

def LoggingPatch.decode : Decoder LoggingPatch :=
  objectOnly (LoggingPatch.mk <$> optional "level" LogLevel.decode)

def SettingsPatch.decode : Decoder SettingsPatch :=
  objectOnly (SettingsPatch.mk <$>
    optional "getterSetterExtBuiltinTypes" (asListOf asText) <*>
    optional "memberPrefix" asText <*>
    optional "headerGuardPattern" asText <*>
    optional "autoCreateHeaderGuard" asBool <*>
    optional "classCreatorExtension" ExtensionPatch.decode <*>
    optional "classCreatorTemplate" asText <*>
    optional "unitTestCreatorTemplate" asText <*>
    optional "region" RegionPatch.decode <*>
    optional "headerSourceMappings" (asListOf ExtensionMapping.decode) <*>
    optional "linkFileLanguagesIds" (asListOf asText) <*>
    optional "compileCommandsStrip" StripPatch.decode <*>
    optional "logging" LoggingPatch.decode)

/-! ## Applying -/

/-- The templates with new values. -/
def SettingsPatch.applyToTemplates (p : SettingsPatch) (t : Templates) : Templates where
  headerExtension := (p.extensions.bind (·.header)).getD t.headerExtension
  sourceExtension := (p.extensions.bind (·.source)).getD t.sourceExtension
  classTemplate := p.classTemplate.getD t.classTemplate
  unitTestTemplate := p.unitTestTemplate.getD t.unitTestTemplate
  regionStart := (p.region.bind (·.start)).getD t.regionStart
  regionEnd := (p.region.bind (·.stop)).getD t.regionEnd
  guardPattern := p.guardPattern.getD t.guardPattern

/-- The settings for the database with new values. -/
def SettingsPatch.applyToStrip (p : SettingsPatch) (s : StripSettings) : StripSettings where
  enable := (p.strip.bind (·.enable)).getD s.enable
  dir := (p.strip.bind (·.dir)).getD s.dir
  outputDir := (p.strip.bind (·.outputDir)).getD s.outputDir
  linux := (p.strip.bind (·.linux)).getD s.linux
  windows := (p.strip.bind (·.windows)).getD s.windows

/-- The settings with new values. -/
def SettingsPatch.apply (s : Settings) (p : SettingsPatch) : Settings where
  extBuiltinTypes := p.extBuiltinTypes.getD s.extBuiltinTypes
  memberPrefix := p.memberPrefix.getD s.memberPrefix
  templates := p.applyToTemplates s.templates
  autoCreateHeaderGuard := p.autoCreateHeaderGuard.getD s.autoCreateHeaderGuard
  mappings := p.mappings.getD s.mappings
  linkLanguages := p.linkLanguages.getD s.linkLanguages
  strip := p.applyToStrip s.strip
  logLevel := (p.logging.bind (·.level)).getD s.logLevel

/-! ## Payloads -/

namespace Settings

/-- The section of a payload that is meant for these settings. -/
def sectionKey : Text := "cpphelper"

/-- The parts of a payload that may set something, the last one counting last. -/
def candidates (payload : Json) : List Json := payload :: (payload.get? sectionKey).toList

/-- The changes that a payload makes, in their order. -/
def patches (payload : Json) : List SettingsPatch :=
  (candidates payload).filterMap fun j => (SettingsPatch.decode j).toOption

/-- The settings after a payload, in normal form. -/
def merge (s : Settings) (payload : Json) : Settings :=
  ((patches payload).foldl SettingsPatch.apply s).normal

end Settings

/-! ## The settings file of a project -/

namespace ProjectFile

def fileName : Text := "cpphelper.toml"

/-- The nearest settings file in a directory or above it. -/
def findFrom (tree : FileTree) : Nat → Path → Option Path
  | 0, _ => none
  | fuel + 1, dir =>
    let candidate := dir.join (.ofText fileName)
    if tree.isFile candidate then some candidate
    else dir.parent?.bind (findFrom tree fuel)

/-- The settings file for a workspace, whose root may also be a file. -/
def find? (tree : FileTree) (root : Path) : Option Path := do
  let dir ← if tree.isFile root then root.parent? else some root
  findFrom tree (dir.units.length + 1) dir

def payload? (tree : FileTree) (root : Path) : Option Json := do
  let text ← (tree.read (← find? tree root)).toOption
  Toml.read? text

end ProjectFile
end Classwright
