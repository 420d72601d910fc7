import Classwright.Proofs.Settings.LastWriter
import Classwright.Session.Basic
/-!
# Reachable settings

Settings are what some payloads made of the default ones. They are always tidy: each setting is in the
form that merging gives it (`normal_eq_self_iff`). All tidy settings can be reached, since there is a
payload that sets every one of them (`merge_payload`).
-/
namespace Classwright

/-! ## Mappings, rules and levels as values -/

/-- A mapping as it is given in a payload. -/
def ExtensionMapping.toJson (m : ExtensionMapping) : Json :=
  .obj [("header", .ofList .str m.header), ("name", .str m.name), ("source", .ofList .str m.source)]

/-- A rule as it is given in a payload. -/
def StripRule.toJson (r : StripRule) : Json := .obj [("match", .str r.pattern), ("replace", .str r.replacement)]

theorem asListOf_ofList {α : Type} {read : Decoder α} {f : α → Json} (h : ∀ a, read (f a) = .ok a) (l : List α) :
    Json.asListOf read (.ofList f l) = .ok l := by
  have hread := mapM_map_eq_ok (k := id) h l
  rwa [List.map_id] at hread

theorem asListOf_asText (ts : List Text) : Json.asListOf Json.asText (.ofList .str ts) = .ok ts :=
  asListOf_ofList (f := Json.str) (fun _ => rfl) ts

open Fields in
theorem ExtensionMapping.decode_toJson (m : ExtensionMapping) : decode m.toJson = .ok m := by
  have hfields : (ExtensionMapping.mk <$> required "name" Json.asText <*> required "header" (Json.asListOf Json.asText) <*>
      required "source" (Json.asListOf Json.asText)).ofObject
      [("header", .ofList .str m.header), ("name", .str m.name), ("source", .ofList .str m.source)] = .ok m := by
    refine ofObject_seq.2 ⟨_, m.source, ofObject_seq.2 ⟨_, m.header, ofObject_map.2 ⟨m.name, ?_, rfl⟩, ?_, rfl⟩, ?_, rfl⟩
    · exact ofObject_required rfl rfl
    · exact ofObject_required rfl (asListOf_asText m.header)
    · exact ofObject_required rfl (asListOf_asText m.source)
  rw [decode, toJson, record, hfields]
  rfl

theorem StripRule.decode_toJson (r : StripRule) : decode r.toJson = .ok r := rfl

theorem LogLevel.decode_name (level : LogLevel) : decode (.str level.name) = .ok level := by
  cases level <;> rfl

namespace Setting

open Settings

variable {s : Settings}

/-! ## Tidy settings -/

/-- The form of each setting. Lists hold trimmed, distinct texts that are not empty, an extension begins
with its dot, templates, markers and directories are not blank, and nothing of no use is kept. -/
def Tidy : (l : Setting) → l.Value → Prop
  | extBuiltinTypes | linkLanguages => fun ts => (∀ t ∈ ts, Text.TightStart t ∧ Text.TightEnd t) ∧ ts.Nodup
  | autoCreateHeaderGuard | stripEnable | logLevel => fun _ => True
  | memberPrefix => fun t => t ≠ [] → Text.TightStart t ∧ Text.TightEnd t
  | mappings => fun ms => ms ≠ [] ∧ ∀ m ∈ ms, m.header ≠ [] ∧ m.source ≠ []
  | linuxRules | windowsRules => fun rules => ∀ r ∈ rules, r.pattern ≠ []
  | headerExtension | sourceExtension => fun t => ∃ rest, t = '.' :: rest
  | classTemplate | unitTestTemplate | regionStart | regionEnd | guardPattern | stripDir | stripOutputDir =>
    fun t => ∃ c ∈ t, Text.isBlankChar c = false

/-- **A setting is tidy** just when it is its own normal form. -/
theorem normal_eq_self_iff (l : Setting) (v : l.Value) : l.normal v = v ↔ l.Tidy v := by
  cases l with
  | extBuiltinTypes | linkLanguages => exact tidyList_eq_self_iff
  | autoCreateHeaderGuard | stripEnable | logLevel => exact iff_of_true rfl trivial
  | memberPrefix =>
    constructor
    · intro h hne
      exact ⟨Text.tightStart_of_trim h hne, Text.tightEnd_of_trim h hne⟩
    · intro h
      by_cases hne : v = []
      · subst hne
        rfl
      · exact Text.trim_of_tight (h hne).1 (h hne).2
  | mappings => exact tidyMappings_eq_self_iff
  | linuxRules | windowsRules => exact tidyRules_eq_self_iff
  | headerExtension | sourceExtension => exact dotted_orUsual_eq_self_iff
  | classTemplate | unitTestTemplate | regionStart | regionEnd | guardPattern | stripDir | stripOutputDir =>
    exact orUsual_eq_self_iff (by decide)

/-! ## A payload that sets everything -/

/-- A value of a setting as it is given in a payload. -/
def encode : (l : Setting) → l.Value → Json
  | extBuiltinTypes | linkLanguages => .ofList .str
  | autoCreateHeaderGuard | stripEnable => .bool
  | mappings => .ofList ExtensionMapping.toJson
  | linuxRules | windowsRules => .ofList StripRule.toJson
  | logLevel => fun level => .str level.name
  | memberPrefix | guardPattern | headerExtension | sourceExtension | classTemplate | unitTestTemplate | regionStart
  | regionEnd | stripDir | stripOutputDir => .str

/-- The payload that gives each setting its value. -/
def payload (s : Settings) : Json :=
  let give (l : Setting) : Json := l.encode (value s l)
  .obj [("autoCreateHeaderGuard", give autoCreateHeaderGuard),
    ("classCreatorExtension", .obj [("header", give headerExtension), ("source", give sourceExtension)]),
    ("classCreatorTemplate", give classTemplate),
    ("compileCommandsStrip", .obj [("dir", give stripDir), ("enable", give stripEnable), ("linux", give linuxRules),
      ("outputDir", give stripOutputDir), ("windows", give windowsRules)]),
    ("getterSetterExtBuiltinTypes", give extBuiltinTypes), ("headerGuardPattern", give guardPattern),
    ("headerSourceMappings", give mappings), ("linkFileLanguagesIds", give linkLanguages),
    ("logging", .obj [("level", give logLevel)]), ("memberPrefix", give memberPrefix),
    ("region", .obj [("end", give regionEnd), ("start", give regionStart)]),
    ("unitTestCreatorTemplate", give unitTestTemplate)]

theorem decode_encode (l : Setting) (v : l.Value) : l.decode (l.encode v) = .ok v := by
  cases l with
  | extBuiltinTypes | linkLanguages => exact asListOf_asText v
  | mappings => exact asListOf_ofList ExtensionMapping.decode_toJson v
  | linuxRules | windowsRules => exact asListOf_ofList StripRule.decode_toJson v
  | logLevel => exact LogLevel.decode_name v
  | _ => rfl

theorem orNull_encode (l : Setting) (v : l.Value) : Fields.orNull l.decode (l.encode v) = .ok (some v) := by
  have hread : Fields.orNull l.decode (l.encode v) = (l.decode (l.encode v)).map some := by
    cases l <;> rfl
  rw [hread, decode_encode]
  rfl

theorem at?_payload (s : Settings) (l : Setting) : (payload s).at? l.place = some (l.encode (value s l)) := by
  cases l <;> rfl

theorem given?_payload (s : Settings) (l : Setting) : l.given? (payload s) = some (value s l) := by
  rw [given?, at?_payload, Option.bind_some, Fields.given?, orNull_encode]
  rfl

theorem readable_payload (s : Settings) : Readable (payload s) where
  isObject := ⟨_, rfl⟩
  sections key hkey v hv := by
    simp only [Setting.sections, List.mem_cons, List.not_mem_nil, or_false] at hkey
    rcases hkey with rfl | rfl | rfl | rfl <;>
      exact Or.inr ⟨_, (Option.some.inj hv).symm⟩
  values l v hv := by
    rw [at?_payload] at hv
    obtain rfl := Option.some.inj hv
    rw [orNull_encode]
    rfl

theorem parts_payload (s : Settings) : parts (payload s) = [payload s] := by
  have hcandidates : candidates (payload s) = [payload s] := rfl
  rw [parts, hcandidates, List.filter_eq_self]
  intro j hj
  rw [List.mem_singleton.1 hj, isOk_decode_iff]
  exact readable_payload s

/-- **Tidy settings are reached** at once, from any other ones. -/
theorem merge_payload (h : ∀ l : Setting, l.Tidy (value s l)) (before : Settings) : before.merge (payload s) = s := by
  refine ext fun l => ?_
  have hlast : l.last? (parts (payload s)) = some (value s l) := by
    rw [parts_payload, last?, List.reverse_singleton, List.findSome?_singleton, given?_payload]
  rw [value_merge, hlast, Option.getD_some]
  exact (normal_eq_self_iff l _).2 (h l)

/-! ## Reachable settings -/

/-- **Settings that can be reached are the tidy ones.** To merge a payload into them of which no part that
can be read as a whole gives a setting a value changes nothing, and a session with them stays as it is. -/
theorem exists_after_eq_iff_tidy :
    (∀ s : Settings, (∃ payloads, after payloads = s) ↔ ∀ l : Setting, l.Tidy (value s l)) ∧
    ∀ payloads payload, (∀ j ∈ candidates payload, Readable j → ∀ l : Setting, l.given? j = none) →
      (after payloads).merge payload = after payloads ∧
      ∀ session : Session, session.workspace.settings = after payloads → session.configure payload = session := by
  refine ⟨fun s => ⟨?_, ?_⟩, ?_⟩
  · rintro ⟨payloads, rfl⟩ l
    exact (normal_eq_self_iff l _).1 (normal_after payloads l)
  · intro h
    exact ⟨[payload s], merge_payload h .usual⟩
  · intro payloads payload h
    have hmerge : (after payloads).merge payload = after payloads := by
      refine ext fun l => ?_
      have hnone : l.last? (parts payload) = none := by
        rw [last?_eq_none_iff]
        intro j hj
        obtain ⟨hcandidate, hreadable⟩ := mem_parts.1 hj
        exact h j hcandidate hreadable l
      rw [value_merge, hnone]
      exact normal_after payloads l
    refine ⟨hmerge, ?_⟩
    intro session hsettings
    rw [Session.configure, if_pos]
    rw [hsettings, hmerge]

/-- An extension without a dot, and one language three times. -/
def firstPayload : Json := .obj
  [("classCreatorExtension", .obj [("header", .str "hh ")]), ("linkFileLanguagesIds", .arr [.str " Log", .str "", .str "Log"])]

/-- As a whole it has a number where a text belongs, and its section gives nothing. -/
def emptyPayload : Json := .obj
  [("cpphelper", .obj [("logging", .obj []), ("memberPrefix", .null)]), ("headerGuardPattern", .int 1)]

def firstSession : Session := ⟨.running, ⟨after [firstPayload], .empty, [], { root := .dir [] }⟩⟩

theorem exists_after_eq_iff_tidy_twoPayloads :
    (∀ j ∈ candidates emptyPayload, Readable j → ∀ l : Setting, l.given? j = none) ∧
    Tidy headerExtension (value (after [firstPayload]) headerExtension) ∧ value (after [firstPayload]) headerExtension = ".hh " ∧
    Tidy linkLanguages (value (after [firstPayload]) linkLanguages) ∧ value (after [firstPayload]) linkLanguages = ["Log"] ∧
    (after [firstPayload]).merge emptyPayload = after [firstPayload] ∧ firstSession.configure emptyPayload = firstSession := by
  have hempty : ∀ j ∈ candidates emptyPayload, Readable j → ∀ l : Setting, l.given? j = none := by
    intro j hj hreadable l
    have hcandidates : candidates emptyPayload =
        [emptyPayload, .obj [("logging", .obj []), ("memberPrefix", .null)]] := by rfl
    rw [hcandidates, List.mem_cons, List.mem_singleton] at hj
    rcases hj with rfl | rfl
    · have hok := (isOk_decode_iff _).2 hreadable
      exact absurd hok (by decide)
    · cases l <;> rfl
  have htidy := (exists_after_eq_iff_tidy.1 (after [firstPayload])).1 ⟨[firstPayload], rfl⟩
  obtain ⟨hmerge, hsession⟩ := exists_after_eq_iff_tidy.2 [firstPayload] emptyPayload hempty
  exact ⟨hempty, htidy headerExtension, by decide, htidy linkLanguages, by decide, hmerge, hsession _ rfl⟩

end Setting
end Classwright
