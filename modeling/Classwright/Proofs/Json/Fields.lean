import Mathlib.Tactic.Common
import Classwright.Json.Decode
/-!
# Records that may leave out their fields

A record is read from an object when each of its fields can be read, and holds what is given under
their keys (`ofObject_optional`). A record inside of a record is reached by two keys
(`ofObject_optional_bind`). What holds of all values that the fields give holds of the record, from an
object as from an array (`reads_record`).
-/
namespace Classwright

/-- The value at the end of a row of keys. -/
def Json.at? (j : Json) : List Text → Option Json
  | [] => some j
  | key :: rest => (j.get? key).bind (at? · rest)

/-- What stands at a place, if anything does, is null or can be read. -/
def Json.Allows {α : Type} (j : Json) (place : List Text) (read : Decoder α) : Prop :=
  ∀ v, j.at? place = some v → (Fields.orNull read v).isOk = true

/-- A list of values is read where each of them is. -/
theorem mapM_map_eq_ok {α β γ ε : Type} {f : β → Except ε γ} {g : α → β} {k : α → γ} (h : ∀ a, f (g a) = .ok (k a)) (l : List α) :
    (l.map g).mapM f = .ok (l.map k) := by
  induction l with
  | nil => rfl
  | cons a l ih =>
    rw [List.map_cons, List.mapM_cons, h, ih]
    rfl

namespace Fields

variable {α β γ : Type} {fields : List (Text × Json)} {name key : Text} {j : Json}

/-- What a value gives. Null gives nothing, and neither does a value of another kind. -/
def given? (read : Decoder α) (j : Json) : Option α := (orNull read j).toOption.join

/-! ## Reading the parts -/

theorem ofObject_seq {f : Fields (α → β)} {x : Fields α} {b : β} : (f <*> x).ofObject fields = .ok b ↔
    ∃ g a, f.ofObject fields = .ok g ∧ x.ofObject fields = .ok a ∧ g a = b := by
  change (both f x).ofObject fields = .ok b ↔ _
  simp only [both]
  cases f.ofObject fields <;> cases x.ofObject fields <;> simp

theorem ofObject_map {f : α → β} {x : Fields α} {b : β} : (f <$> x).ofObject fields = .ok b ↔
    ∃ a, x.ofObject fields = .ok a ∧ f a = b := by
  change (pure f <*> x).ofObject fields = .ok b ↔ _
  rw [ofObject_seq]
  constructor
  · rintro ⟨g, a, hg, ha, rfl⟩
    cases hg
    exact ⟨a, ha, rfl⟩
  · rintro ⟨a, ha, rfl⟩
    exact ⟨f, a, rfl, ha, rfl⟩

theorem ofObject_optional_eq_ok {read : Decoder α} {o : Option α} : (optional name read).ofObject fields = .ok o ↔
    match fields.lookup name with
    | none => o = none
    | some v => orNull read v = .ok o := by
  unfold optional field
  dsimp only
  cases fields.lookup name with
  | none => simp [eq_comm]
  | some v => cases h : orNull read v <;> simp [h, Except.mapError]

theorem ofObject_required {read : Decoder α} {a : α} (hl : fields.lookup name = some j) (ha : read j = .ok a) :
    (required name read).ofObject fields = .ok a := by
  simp only [required, field, hl, ha]
  rfl

theorem objectOnly_eq_ok {f : Fields α} {a : α} :
    objectOnly f j = .ok a ↔ ∃ fields, j = .obj fields ∧ f.ofObject fields = .ok a := by
  unfold objectOnly
  cases j with
  | obj fields => cases h : f.ofObject fields <;> simp [h, Except.mapError]
  | _ => simp

/-! ## What a record holds -/

/-- A field holds what is given under its key. -/
theorem ofObject_optional {read : Decoder α} {o : Option α} (h : (optional name read).ofObject fields = .ok o) :
    o = ((Json.obj fields).at? [name]).bind (given? read) := by
  rw [ofObject_optional_eq_ok] at h
  simp only [Json.at?, Json.get?]
  cases hl : fields.lookup name with
  | none => simpa [hl] using h
  | some v =>
    simp only [hl] at h
    simp [given?, h, Except.toOption]

/-- A field of a record inside holds what is given under the two keys. -/
theorem ofObject_optional_bind {read : Decoder β} {pick : β → Option γ} {readPart : Decoder γ} {o : Option β}
    (h : (optional name read).ofObject fields = .ok o)
    (hpick : ∀ v b, read v = .ok b → pick b = (v.at? [key]).bind (given? readPart)) :
    o.bind pick = ((Json.obj fields).at? [name, key]).bind (given? readPart) := by
  rw [ofObject_optional_eq_ok] at h
  cases hl : fields.lookup name with
  | none =>
    simp only [hl] at h
    simp [h, Json.at?, Json.get?, hl]
  | some v =>
    have hat : (Json.obj fields).at? [name, key] = v.at? [key] := by simp [Json.at?, Json.get?, hl]
    simp only [hl] at h
    rw [hat]
    -- null is a record of which nothing is given
    by_cases hn : v = .null
    · subst hn
      cases h
      rfl
    · have hr : orNull read v = (read v).map some := by
        cases v with
        | null => exact absurd rfl hn
        | _ => rfl
      rw [hr] at h
      cases hb : read v with
      | error e => rw [hb] at h; cases h
      | ok b =>
        rw [hb] at h
        cases h
        exact hpick v b hb

/-! ## Records that can be read -/

theorem isOk_ofObject_seq (f : Fields (α → β)) (x : Fields α) : ((f <*> x).ofObject fields).isOk = true ↔
    (f.ofObject fields).isOk = true ∧ (x.ofObject fields).isOk = true := by
  change ((both f x).ofObject fields).isOk = true ↔ _
  simp only [both]
  cases f.ofObject fields <;> cases x.ofObject fields <;> simp [Except.isOk, Except.toBool]

theorem isOk_ofObject_map (f : α → β) (x : Fields α) :
    ((f <$> x).ofObject fields).isOk = true ↔ (x.ofObject fields).isOk = true := by
  change ((pure f <*> x).ofObject fields).isOk = true ↔ _
  rw [isOk_ofObject_seq]
  exact and_iff_right rfl

theorem isOk_ofObject_optional (read : Decoder α) :
    ((optional name read).ofObject fields).isOk = true ↔ (Json.obj fields).Allows [name] read := by
  simp only [optional, field, Json.Allows, Json.at?, Json.get?]
  cases fields.lookup name with
  | none => simp [Except.isOk, Except.toBool]
  | some v => cases h : orNull read v <;> simp [h, Except.mapError, Except.isOk, Except.toBool]

theorem isOk_objectOnly (f : Fields α) (j : Json) :
    (objectOnly f j).isOk = true ↔ ∃ fields, j = .obj fields ∧ (f.ofObject fields).isOk = true := by
  unfold objectOnly
  cases j with
  | obj fields => cases h : f.ofObject fields <;> simp [h, Except.mapError, Except.isOk, Except.toBool]
  | _ => simp [Except.isOk, Except.toBool]

/-- A section that can be read is an object, unless it is null, and what is in it can be read. -/
theorem allows_objectOnly (f : Fields α) : j.Allows [name] (objectOnly f) ↔
    (∀ v, j.at? [name] = some v → v = .null ∨ ∃ fields, v = .obj fields) ∧
    ∀ fields, j.at? [name] = some (.obj fields) → (f.ofObject fields).isOk = true := by
  have hnull : ∀ v, (orNull (objectOnly f) v).isOk = true ↔ v = .null ∨ (objectOnly f v).isOk = true := by
    intro v
    cases v with
    | null => simp [orNull, Except.isOk, Except.toBool]
    | _ => simp only [orNull, reduceCtorEq, false_or]; cases objectOnly f _ <;> simp [Except.map, Except.isOk, Except.toBool]
  simp only [Json.Allows, hnull, isOk_objectOnly]
  constructor
  · intro h
    refine ⟨fun v hv => (h v hv).imp_right fun ⟨fields, he, _⟩ => ⟨fields, he⟩, fun fields hf => ?_⟩
    rcases h _ hf with hn | ⟨_, he, hok⟩
    · cases hn
    · cases he
      exact hok
  · rintro ⟨hs, hf⟩ v hv
    rcases hs v hv with rfl | ⟨fields, rfl⟩
    · exact Or.inl rfl
    · exact Or.inr ⟨fields, rfl, hf fields hv⟩

theorem allows_inside (read : Decoder α) : (∀ fields, j.at? [name] = some (.obj fields) → (Json.obj fields).Allows [key] read) ↔
    j.Allows [name, key] read := by
  have hat : ∀ w, j.at? [name, key] = some w ↔ ∃ fields, j.at? [name] = some (.obj fields) ∧ (Json.obj fields).at? [key] = some w := by
    intro w
    simp only [Json.at?, Option.bind_eq_some_iff, Option.some.injEq, exists_eq_right]
    constructor
    · rintro ⟨v, hv, hw⟩
      cases v with
      | obj fields => exact ⟨fields, hv, hw⟩
      | _ => cases hw
    · rintro ⟨fields, hf, hw⟩
      exact ⟨_, hf, hw⟩
  simp only [Json.Allows, hat]
  constructor
  · rintro h w ⟨fields, hf, hw⟩
    exact h fields hf w hw
  · intro h fields hf w hw
    exact h w ⟨fields, hf, hw⟩

/-! ## What holds of all that is read -/

/-- Every value that is read has a property. -/
def Reads (read : Decoder α) (P : α → Prop) : Prop := ∀ j a, read j = .ok a → P a

/-- Every value that fields give has a property. -/
structure Gives (f : Fields α) (P : α → Prop) : Prop where
  object : ∀ fields a, f.ofObject fields = .ok a → P a
  items : ∀ items a rest, f.ofItems items = .ok (a, rest) → P a

theorem gives_required {read : Decoder α} {P : α → Prop} (h : Reads read P) : Gives (required name read) P := by
  constructor
  · intro fields a ha
    simp only [required, field] at ha
    cases hl : fields.lookup name with
    | none => simp [hl] at ha
    | some j =>
      cases hread : read j with
      | error e => simp [hl, hread, Except.mapError] at ha
      | ok b =>
        obtain rfl : b = a := by simpa [hl, hread, Except.mapError] using ha
        exact h j b hread
  · intro items a rest ha
    cases items with
    | nil => cases ha
    | cons j items =>
      simp only [required, field] at ha
      cases hread : read j with
      | error e => rw [hread] at ha; cases ha
      | ok b =>
        rw [hread] at ha
        obtain ⟨rfl, -⟩ := Prod.mk.inj (Except.ok.inj ha)
        exact h j b hread

theorem Gives.seq {f : Fields (α → β)} {x : Fields α} {P : (α → β) → Prop} {Q : α → Prop} {R : β → Prop} (hf : Gives f P)
    (hx : Gives x Q) (h : ∀ g a, P g → Q a → R (g a)) : Gives (f <*> x) R := by
  constructor
  · intro fields b hb
    obtain ⟨g, a, hg, ha, rfl⟩ := ofObject_seq.1 hb
    exact h g a (hf.object fields g hg) (hx.object fields a ha)
  · intro items b rest hb
    change (both f x).ofItems items = .ok (b, rest) at hb
    simp only [both] at hb
    cases hg : f.ofItems items with
    | error e => rw [hg] at hb; cases hb
    | ok first =>
      obtain ⟨g, more⟩ := first
      rw [hg] at hb
      simp only at hb
      cases ha : x.ofItems more with
      | error e => rw [ha] at hb; cases hb
      | ok second =>
        obtain ⟨a, rest'⟩ := second
        rw [ha] at hb
        obtain ⟨rfl, -⟩ := Prod.mk.inj (Except.ok.inj hb)
        exact h g a (hf.items items g more hg) (hx.items more a rest' ha)

theorem gives_pure {P : α → Prop} {a : α} (h : P a) : Gives (pure a) P := by
  constructor
  · intro fields b hb
    obtain rfl := Except.ok.inj hb
    exact h
  · intro items b rest hb
    obtain ⟨rfl, -⟩ := Prod.mk.inj (Except.ok.inj hb)
    exact h

theorem Gives.map {x : Fields α} {P : α → Prop} {Q : β → Prop} {f : α → β} (hx : Gives x P) (h : ∀ a, P a → Q (f a)) :
    Gives (f <$> x) Q :=
  Gives.seq (gives_pure (P := (· = f)) rfl) hx fun _ a hg ha => hg ▸ h a ha

/-- **A record** has what its fields give. -/
theorem reads_record {f : Fields α} {P : α → Prop} (h : Gives f P) : Reads (record f) P := by
  intro j a ha
  unfold record at ha
  split at ha
  · next fields =>
    cases hf : f.ofObject fields with
    | error e => rw [hf] at ha; cases ha
    | ok b =>
      rw [hf] at ha
      obtain rfl := Except.ok.inj ha
      exact h.object fields b hf
  · next items =>
    split at ha
    · next b hf =>
      obtain rfl := Except.ok.inj ha
      exact h.items items b [] hf
    · cases ha
    · cases ha
  · cases ha

theorem reads_asListOf {read : Decoder α} {P : α → Prop} (h : Reads read P) : Reads (Json.asListOf read) fun as => ∀ a ∈ as, P a := by
  intro j as hj
  cases j with
  | arr items =>
    simp only [Json.asListOf] at hj
    induction items generalizing as with
    | nil =>
      obtain rfl := Except.ok.inj hj
      simp
    | cons j items ih =>
      rw [List.mapM_cons] at hj
      cases hread : read j with
      | error e => rw [hread] at hj; cases hj
      | ok a =>
        cases hrest : items.mapM read with
        | error e => rw [hread, hrest] at hj; cases hj
        | ok rest =>
          rw [hread, hrest] at hj
          obtain rfl := Except.ok.inj hj
          exact List.forall_mem_cons.2 ⟨h j a hread, ih rest hrest⟩
  | _ => cases hj

end Fields
end Classwright
