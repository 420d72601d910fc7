import Classwright.Proofs.Settings.Normal
import Classwright.Proofs.Settings.Setting
/-!
# Settings after many payloads

A payload is merged by its parts: the payload itself and its own section, as far as they can be read
as a whole. Merging tidies all settings, but each one by itself and to no further effect when it is
tidy already (`normal_normal`). So after any payloads a setting is decided by the last part that gives
it a value (`value_foldl_merge`).
-/
namespace Classwright.Setting

open Settings

variable {s : Settings} {l : Setting}

/-! ## The normal form of a setting -/

def normal : (l : Setting) → l.Value → l.Value
  | extBuiltinTypes | linkLanguages => tidyList
  | autoCreateHeaderGuard | stripEnable | logLevel => id
  | memberPrefix => Text.trim
  | mappings => tidyMappings
  | linuxRules | windowsRules => tidyRules
  | headerExtension => fun t => dotted (orUsual Templates.usual.headerExtension t)
  | sourceExtension => fun t => dotted (orUsual Templates.usual.sourceExtension t)
  | classTemplate => orUsual Templates.usual.classTemplate
  | unitTestTemplate => orUsual Templates.usual.unitTestTemplate
  | regionStart => orUsual Templates.usual.regionStart
  | regionEnd => orUsual Templates.usual.regionEnd
  | guardPattern => orUsual Templates.usual.guardPattern
  | stripDir => orUsual StripSettings.usual.dir
  | stripOutputDir => orUsual StripSettings.usual.outputDir

theorem value_normal (s : Settings) (l : Setting) : value s.normal l = l.normal (value s l) := by
  cases l <;> rfl

theorem normal_normal (l : Setting) (v : l.Value) : l.normal (l.normal v) = l.normal v := by
  cases l with
  | extBuiltinTypes | linkLanguages => exact tidyList_tidyList v
  | autoCreateHeaderGuard | stripEnable | logLevel => rfl
  | memberPrefix => exact Text.trim_trim v
  | mappings => exact tidyMappings_tidyMappings v
  | linuxRules | windowsRules => exact tidyRules_tidyRules v
  | headerExtension | sourceExtension => exact dotted_orUsual_dotted _ _
  | classTemplate | unitTestTemplate | regionStart | regionEnd | guardPattern | stripDir | stripOutputDir =>
    exact orUsual_orUsual (by decide) v

theorem normal_usual (l : Setting) : l.normal (value .usual l) = value .usual l := by
  cases l <;> decide

/-! ## The last writer -/

/-- The parts of a payload that can be read as a whole, in their order. -/
def parts (payload : Json) : List Json := (candidates payload).filter fun j => (SettingsPatch.decode j).isOk

/-- What is left out has a value of a wrong kind somewhere. -/
theorem mem_parts {payload j : Json} : j ∈ parts payload ↔ j ∈ candidates payload ∧ Readable j := by
  rw [parts, List.mem_filter, isOk_decode_iff]

/-- The value that the last of some parts gives, of those that give one. -/
def last? (l : Setting) (parts : List Json) : Option l.Value := parts.reverse.findSome? l.given?

theorem last?_append (l : Setting) (ps qs : List Json) : l.last? (ps ++ qs) = (l.last? qs).or (l.last? ps) := by
  rw [last?, List.reverse_append, List.findSome?_append]
  rfl

theorem last?_eq_none_iff {ps : List Json} : l.last? ps = none ↔ ∀ j ∈ ps, l.given? j = none := by
  simp [last?, List.findSome?_eq_none_iff]

/-- Each part changes each setting that it gives a value. -/
theorem value_foldl_apply (payload : Json) (s : Settings) (l : Setting) :
    value ((patches payload).foldl SettingsPatch.apply s) l = (l.last? (parts payload)).getD (value s l) := by
  unfold patches parts
  induction candidates payload generalizing s with
  | nil => rfl
  | cons j rest ih =>
    cases h : SettingsPatch.decode j with
    | error e =>
      rw [List.filterMap_cons_none (by rw [h]; rfl), List.filter_cons_of_neg (by rw [h]; exact Bool.false_ne_true)]
      exact ih s
    | ok p =>
      rw [List.filterMap_cons_some (b := p) (by rw [h]; rfl), List.filter_cons_of_pos (by rw [h]; rfl), List.foldl_cons, ih,
        value_apply, ofPatch?_of_decode h, ← List.singleton_append, last?_append]
      cases l.last? (rest.filter fun j => (SettingsPatch.decode j).isOk) with
      | some v => rfl
      | none => simp [last?]

/-- One payload: the last part that gives a value, or else the value from before, tidied. -/
theorem value_merge (s : Settings) (payload : Json) (l : Setting) :
    value (s.merge payload) l = l.normal ((l.last? (parts payload)).getD (value s l)) := by
  rw [merge, value_normal, value_foldl_apply]

theorem merge_merge (s : Settings) (payload : Json) : (s.merge payload).merge payload = s.merge payload := by
  refine ext fun l => ?_
  rw [value_merge, value_merge]
  cases l.last? (parts payload) with
  | some v => rfl
  | none => exact normal_normal l (value s l)

theorem value_foldl_merge (payloads : List Json) (s : Settings) (hs : ∀ l : Setting, l.normal (value s l) = value s l)
    (l : Setting) : value (payloads.foldl merge s) l =
      match l.last? (payloads.flatMap parts) with
      | some v => l.normal v
      | none => value s l := by
  induction payloads generalizing s with
  | nil => rfl
  | cons payload rest ih =>
    rw [List.foldl_cons, ih (s.merge payload) fun l => by rw [value_merge, normal_normal], List.flatMap_cons, last?_append]
    cases l.last? (rest.flatMap parts) with
    | some v => rfl
    | none =>
      rw [Option.none_or, value_merge]
      cases l.last? (parts payload) with
      | some v => rfl
      | none => exact hs l

def after (payloads : List Json) : Settings := payloads.foldl merge .usual

theorem normal_after (payloads : List Json) (l : Setting) : l.normal (value (after payloads) l) = value (after payloads) l := by
  rw [after, value_foldl_merge payloads .usual normal_usual]
  cases l.last? (payloads.flatMap parts) with
  | some v => exact normal_normal l v
  | none => exact normal_usual l

/-- **The last writer decides**: after any payloads a setting has the value that the last part with
a value gives it, in normal form, and its usual value when no part gives one. So a payload without
readable parts changes nothing, a setting that a payload does not give stays, and to merge a payload
again changes nothing. -/
theorem value_after (payloads : List Json) :
    (∀ l : Setting, value (after payloads) l =
      match l.last? (payloads.flatMap parts) with
      | some v => l.normal v
      | none => value .usual l) ∧
    (∀ payload, parts payload = [] → (after payloads).merge payload = after payloads) ∧
    (∀ payload (l : Setting), (∀ j ∈ parts payload, l.given? j = none) →
      value ((after payloads).merge payload) l = value (after payloads) l) ∧
    ∀ payload, ((after payloads).merge payload).merge payload = (after payloads).merge payload := by
  have hkept : ∀ payload (l : Setting), (∀ j ∈ parts payload, l.given? j = none) →
      value ((after payloads).merge payload) l = value (after payloads) l := fun payload l h => by
    rw [value_merge, last?_eq_none_iff.2 h]
    exact normal_after payloads l
  refine ⟨fun l => value_foldl_merge payloads .usual normal_usual l, fun payload h => ext fun l => ?_, hkept,
    merge_merge (after payloads)⟩
  exact hkept payload l (by simp [h])

theorem value_after_section :
    let payload : Json := .obj
      [("cpphelper", .obj [("memberPrefix", .str " n_ "), ("region", .null)]), ("memberPrefix", .str "m_")]
    let broken : Json := .obj [("cpphelper", .null), ("memberPrefix", .int 1)]
    value (after [payload]) memberPrefix = "n_" ∧ value (after [payload]) regionEnd = Templates.usual.regionEnd ∧
      (after [payload]).merge broken = after [payload] ∧
      value ((after [payload]).merge payload) regionStart = value (after [payload]) regionStart := by
  intro payload broken
  obtain ⟨hvalue, hbroken, hkept, -⟩ := value_after [payload]
  refine ⟨(hvalue memberPrefix).trans (by decide), (hvalue regionEnd).trans (by decide), hbroken broken (by rfl), ?_⟩
  exact hkept payload regionStart fun j hj => by
    have hparts : parts payload = [payload, .obj [("memberPrefix", .str " n_ "), ("region", .null)]] := by rfl
    rw [hparts, List.mem_cons, List.mem_singleton] at hj
    obtain rfl | rfl := hj <;> rfl

end Classwright.Setting
