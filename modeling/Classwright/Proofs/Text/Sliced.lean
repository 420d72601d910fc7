import Mathlib.Tactic.Common
import Classwright.Proofs.Text.Search
import Classwright.Proofs.Text.Stretch
/-!
# Reading by byte offsets

A reader that works with byte offsets searches for an offset and slices the text there. A slice has to
be a stretch of whole characters, else reading stops with a fault (`sliced`). At the offsets that a search
gives there is no fault, and the slices are the parts of the cut at the marker (`sliced_part`,
`find?_eq`).
-/
namespace Classwright

/-- Why reading by offsets stops. -/
inductive SliceFault where
  /-- A slice leaves the text or cuts a character. -/
  | noStretch (t : Text) (start stop : Nat)
  /-- A loop has not ended after as many rounds as the text has characters. -/
  | endless (t : Text)

/-- What reading by offsets gives: a value or none, unless it stops. -/
abbrev Sliced (α : Type) := OptionT (Except SliceFault) α

namespace Sliced

variable {α β : Type}

/-- A value or none, without a fault. -/
def of (o : Option α) : Sliced α := OptionT.mk (.ok o)

/-- Reading stops. -/
def fault (f : SliceFault) : Sliced α := OptionT.mk (.error f)

@[simp] theorem pure_eq (a : α) : (pure a : Sliced α) = of (some a) := rfl

@[simp] theorem of_some_bind (a : α) (f : α → Sliced β) : of (some a) >>= f = f a := rfl

theorem of_orElse (o o' : Option α) : (of o <|> of o') = of (o.or o') := by
  cases o <;> rfl

/-- Readers that do not stop can be put one after the other. -/
theorem of_bind {o : Option α} {f : α → Sliced β} {g : α → Option β} (h : ∀ a, o = some a → f a = of (g a)) :
    of o >>= f = of (o.bind g) := by
  cases o with
  | none => rfl
  | some a => exact h a rfl

/-- The first value that one of some readers gives. -/
def first (read : α → Sliced β) : List α → Sliced β
  | [] => of none
  | a :: rest => read a <|> first read rest

theorem first_eq {read : α → Sliced β} {g : α → Option β} {l : List α} (h : ∀ a ∈ l, read a = of (g a)) :
    first read l = of (l.findSome? g) := by
  induction l with
  | nil => rfl
  | cons a l ih =>
    rw [first, h a (List.mem_cons_self ..), ih fun x hx => h x (List.mem_cons_of_mem a hx), of_orElse, List.findSome?_cons]
    cases g a <;> rfl

end Sliced

namespace Text

variable {t m a b : Text}

/-! ## Slices and searches -/

/-- The text from one byte offset to another. -/
def sliced (t : Text) (start stop : Nat) : Sliced Text :=
  if start ≤ stop && stop ≤ t.bytes && t.isBoundary start && t.isBoundary stop then .of (some (t.slice start stop))
  else .fault (.noStretch t start stop)

/-- Only stretches can be sliced. -/
theorem sliced_eq_of_iff {s : Text} {start stop : Nat} :
    t.sliced start stop = .of (some s) ↔ t.IsStretch start stop ∧ t.slice start stop = s := by
  have hstretch : (start ≤ stop && stop ≤ t.bytes && t.isBoundary start && t.isBoundary stop) = true ↔ t.IsStretch start stop := by
    simp only [Bool.and_eq_true, decide_eq_true_eq]
    exact ⟨fun ⟨⟨⟨h1, h2⟩, h3⟩, h4⟩ => ⟨h1, h2, h3, h4⟩, fun ⟨h1, h2, h3, h4⟩ => ⟨⟨⟨h1, h2⟩, h3⟩, h4⟩⟩
  unfold sliced
  split
  · next h =>
    constructor
    · intro he
      exact ⟨hstretch.1 h, Option.some.inj (Except.ok.inj he)⟩
    · rintro ⟨-, rfl⟩
      rfl
  · next h =>
    constructor
    · intro he
      cases he
    · rintro ⟨hs, -⟩
      exact absurd (hstretch.2 hs) h

/-- A part of the text between the bytes in front of it and those up to its end. -/
theorem sliced_part {start stop : Nat} (ht : t = a ++ (m ++ b)) (hstart : start = a.bytes)
    (hstop : stop = a.bytes + m.bytes) : t.sliced start stop = .of (some m) := by
  subst ht hstart hstop
  exact sliced_eq_of_iff.2 ⟨.of_cut a m b, slice_bytes a m b⟩

theorem sliced_front (a b : Text) : (a ++ b).sliced 0 a.bytes = .of (some a) :=
  sliced_part (a := []) rfl rfl (by simp)

theorem sliced_back (a b : Text) : (a ++ b).sliced a.bytes (a ++ b).bytes = .of (some b) :=
  sliced_part (b := []) (by simp) rfl (bytes_append a b)

/-- The byte offset of the first occurrence of a marker. -/
def find? : Text → Text → Option Nat
  | [], m => if m.isEmpty then some 0 else none
  | c :: rest, m => if startsWith (c :: rest) m then some 0 else (find? rest m).map (c.utf8Size + ·)

/-- The byte offset of the last occurrence of a marker. -/
def findLast? : Text → Text → Option Nat
  | [], m => if m.isEmpty then some 0 else none
  | c :: rest, m =>
    match findLast? rest m with
    | some n => some (c.utf8Size + n)
    | none => if startsWith (c :: rest) m then some 0 else none

theorem stripStart?_nil (m : Text) : stripStart? [] m = if m.isEmpty then some [] else none := by
  cases m <;> rfl

theorem startsWith_eq_isSome (t m : Text) : t.startsWith m = (t.stripStart? m).isSome := rfl

/-- A search gives the bytes in front of the marker. -/
theorem find?_eq (t m : Text) : t.find? m = (t.cut? m).map fun (before, _) => before.bytes := by
  induction t with
  | nil =>
    rw [find?, cut?, stripStart?_nil]
    split <;> rfl
  | cons c t ih =>
    rw [find?, cut?, startsWith_eq_isSome, ih]
    cases stripStart? (c :: t) m with
    | some after => rfl
    | none => cases cut? t m <;> simp

theorem findLast?_eq (t m : Text) : t.findLast? m = (t.cutLast? m).map fun (before, _) => before.bytes := by
  induction t with
  | nil =>
    rw [findLast?, cutLast?, stripStart?_nil]
    split <;> rfl
  | cons c t ih =>
    rw [findLast?, cutLast?, startsWith_eq_isSome, ih]
    cases cutLast? t m with
    | some cut => simp
    | none => cases stripStart? (c :: t) m <;> simp

end Text
end Classwright
