import Classwright.CompileDatabase
import Classwright.Counterpart
import Classwright.Member
import Classwright.Scaffold
/-!
# Settings

What a user can set, with the value of each setting when none is given, and the normal form of
settings: lists hold trimmed and distinct texts, and what is blank or useless falls back to its
default.
-/
namespace Classwright

/-- How much is logged; each level includes the ones before it. -/
inductive LogLevel where
  | error
  | warn
  | info
  | debug
  | trace
deriving DecidableEq

namespace LogLevel

def all : List LogLevel := [error, warn, info, debug, trace]

def name : LogLevel → Text
  | error => "error"
  | warn => "warn"
  | info => "info"
  | debug => "debug"
  | trace => "trace"

def ofName? (t : Text) : Option LogLevel := all.find? (·.name == t)

/-- What is only informative is logged too. -/
def allowsInfo : LogLevel → Bool
  | error | warn => false
  | info | debug | trace => true

end LogLevel

/-- Settings for the compilation database. -/
structure StripSettings where
  enable : Bool
  /-- Directory of the generated database; it may hold a placeholder for the workspace. -/
  dir : Text
  outputDir : Text
  linux : List StripRule
  windows : List StripRule
deriving DecidableEq

structure Settings where
  /-- More types that accessors take and give by value. -/
  extBuiltinTypes : List Text
  memberPrefix : Text
  templates : Templates
  autoCreateHeaderGuard : Bool
  mappings : List ExtensionMapping
  /-- Languages of the documents whose lines are linked. -/
  linkLanguages : List Text
  strip : StripSettings
  logLevel : LogLevel
deriving DecidableEq

/-! ## Defaults -/

/-- The settings for the database when none are given. -/
def StripSettings.usual : StripSettings where
  enable := false
  dir := "$\x7bworkspaceFolder\x7d/build"
  outputDir := "$\x7bworkspaceFolder\x7d"
  linux := []
  windows := []

/-- The settings when none are given. -/
def Settings.usual : Settings where
  extBuiltinTypes := []
  memberPrefix := Member.usualPrefix
  templates := .usual
  autoCreateHeaderGuard := false
  mappings := ExtensionMapping.usual
  linkLanguages := ["Log"]
  strip := .usual
  logLevel := .info

/-! ## Normal form -/

namespace Settings

/-- A text, or its default when it is blank. -/
def orUsual (usual t : Text) : Text := if t.isBlank then usual else t

/-- The first occurrence of each text. -/
def distinct : List Text → List Text
  | [] => []
  | t :: rest => t :: (distinct rest).filter (· ≠ t)

/-- Trimmed, distinct texts, without empty ones. -/
def tidyList (ts : List Text) : List Text :=
  distinct ((ts.map Text.trim).filter (!·.isEmpty))

/-- An extension with its dot. -/
def dotted (extension : Text) : Text :=
  if extension.startsWith "." then extension else '.' :: extension

/-- Mappings with extensions on both sides, or the default ones when there are none. -/
def tidyMappings (ms : List ExtensionMapping) : List ExtensionMapping :=
  let useful := ms.filter fun m => !m.header.isEmpty && !m.source.isEmpty
  if useful.isEmpty then ExtensionMapping.usual else useful

def tidyRules (rules : List StripRule) : List StripRule := rules.filter (!·.pattern.isEmpty)

end Settings

open Settings

/-- Templates none of which is blank. -/
def Templates.normal (t : Templates) : Templates where
  headerExtension := dotted (orUsual usual.headerExtension t.headerExtension)
  sourceExtension := dotted (orUsual usual.sourceExtension t.sourceExtension)
  classTemplate := orUsual usual.classTemplate t.classTemplate
  unitTestTemplate := orUsual usual.unitTestTemplate t.unitTestTemplate
  regionStart := orUsual usual.regionStart t.regionStart
  regionEnd := orUsual usual.regionEnd t.regionEnd
  guardPattern := orUsual usual.guardPattern t.guardPattern

/-- Settings for the database with directories and usable rules. -/
def StripSettings.normal (s : StripSettings) : StripSettings where
  enable := s.enable
  dir := orUsual usual.dir s.dir
  outputDir := orUsual usual.outputDir s.outputDir
  linux := tidyRules s.linux
  windows := tidyRules s.windows

/-- The normal form of settings. An empty prefix means that names are used as they are. -/
def Settings.normal (s : Settings) : Settings where
  extBuiltinTypes := tidyList s.extBuiltinTypes
  memberPrefix := s.memberPrefix.trim
  templates := s.templates.normal
  autoCreateHeaderGuard := s.autoCreateHeaderGuard
  mappings := tidyMappings s.mappings
  linkLanguages := tidyList s.linkLanguages
  strip := s.strip.normal
  logLevel := s.logLevel

/-- The rules for a platform, when there are any. -/
def StripSettings.rulesFor? (s : StripSettings) (platform : Text) : Option (List StripRule) :=
  if platform = "linux" then some s.linux
  else if platform = "windows" then some s.windows
  else none

end Classwright
