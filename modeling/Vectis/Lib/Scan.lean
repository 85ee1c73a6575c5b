import Mathlib.Logic.Basic

/-!
# Readers of a text

A reader takes characters from the front of a text and returns a value with the rest; a failed reader takes nothing. Two
properties are kept by sequence and choice.

- `Local c p`: the reader never looks past a `c`, so that what follows one does not matter.
- `Reads P p`: what the reader takes is a prefix of characters with `P`.
- `whole_of_read`: a reader with both that stops right before a `c` has read a whole text.
-/

namespace Scan

abbrev Reader := StateT (List Char) Option

variable {α β : Type} {c : Char} {P : Char → Prop}

/-- Reads one given character. -/
def char (c : Char) : Reader Unit
  | [] => none
  | d :: s => if d = c then some ((), s) else none

/-- The text is read to its end. -/
def Whole (p : Reader α) (s : List Char) : Prop := ∃ a, p s = some (a, [])

/-- What follows a `c` is neither read nor looked at. -/
def Local (c : Char) (p : Reader α) : Prop :=
  ∀ h r, p (h ++ c :: r) = (p h).map fun x => (x.1, x.2 ++ c :: r)

/-- What is read is a prefix of characters with `P`. -/
def Reads (P : Char → Prop) (p : Reader α) : Prop := ∀ s a rest, p s = some (a, rest) → ∃ h, s = h ++ rest ∧
  ∀ x ∈ h, P x

/-! ## Sequence and choice -/

theorem bind_apply (p : Reader α) (f : α → Reader β) (s : List Char) : (p >>= f) s = (p s).bind fun x => f x.1 x.2 :=
  rfl

theorem bind_eq_some {p : Reader α} {f : α → Reader β} {s rest : List Char} {b : β} :
    (p >>= f) s = some (b, rest) ↔ ∃ a mid, p s = some (a, mid) ∧ f a mid = some (b, rest) := by
  rw [bind_apply, Option.bind_eq_some_iff]
  exact ⟨fun ⟨x, hx, h⟩ => ⟨x.1, x.2, hx, h⟩, fun ⟨a, mid, hx, h⟩ => ⟨(a, mid), hx, h⟩⟩

theorem orElse_apply (p q : Reader α) (s : List Char) : (p <|> q) s = (p s).or (q s) := by
  show (p s).orElse (fun _ => q s) = _
  cases p s <;> rfl

theorem pure_apply (a : α) (s : List Char) : (pure a : Reader α) s = some (a, s) := rfl

theorem failure_apply (s : List Char) : (failure : Reader α) s = none := rfl

theorem char_eq_some {s rest : List Char} {u : Unit} : char c s = some (u, rest) ↔ s = c :: rest := by
  cases s with
  | nil => simp [char]
  | cons d s =>
    by_cases hd : d = c
    · subst hd; simp [char]
    · simp [char, hd]

/-! ## Readers that stop at a character -/

theorem Local.pure (a : α) : Local c (pure a) := fun _ _ => rfl

theorem Local.failure : Local c (failure : Reader α) := fun _ _ => rfl

theorem Local.char {d : Char} (h : c ≠ d) : Local c (char d) := by
  intro s r
  cases s with
  | nil => simp [Scan.char, h]
  | cons e s =>
    by_cases he : e = d
    · simp [Scan.char, he]
    · simp [Scan.char, he]

theorem Local.bind {p : Reader α} {f : α → Reader β} (hp : Local c p) (hf : ∀ a, Local c (f a)) :
    Local c (p >>= f) := by
  intro h r
  rw [bind_apply, bind_apply, hp h r]
  cases p h with
  | none => rfl
  | some x => exact hf x.1 x.2 r

theorem Local.orElse {p q : Reader α} (hp : Local c p) (hq : Local c q) : Local c (p <|> q) := by
  intro h r
  rw [orElse_apply, orElse_apply, hp h r, hq h r]
  cases p h with
  | none => rfl
  | some x => rfl

/-! ## What is read -/

theorem Reads.pure (a : α) : Reads P (pure a) := by
  rintro s a' rest h
  cases h
  exact ⟨[], rfl, by simp⟩

theorem Reads.failure : Reads P (failure : Reader α) := by
  rintro s a rest h
  cases h

theorem Reads.char (h : P c) : Reads P (char c) := by
  rintro s a rest hs
  rw [char_eq_some.mp hs]
  exact ⟨[c], rfl, by simpa using h⟩

theorem Reads.bind {p : Reader α} {f : α → Reader β} (hp : Reads P p) (hf : ∀ a, Reads P (f a)) :
    Reads P (p >>= f) := by
  rintro s b rest h
  obtain ⟨a, mid, h₁, h₂⟩ := bind_eq_some.mp h
  obtain ⟨k₁, rfl, hk₁⟩ := hp s a mid h₁
  obtain ⟨k₂, rfl, hk₂⟩ := hf a mid b rest h₂
  refine ⟨k₁ ++ k₂, by simp, fun x hx => ?_⟩
  rcases List.mem_append.mp hx with hx | hx
  · exact hk₁ x hx
  · exact hk₂ x hx

theorem Reads.orElse {p q : Reader α} (hp : Reads P p) (hq : Reads P q) : Reads P (p <|> q) := by
  rintro s a rest h
  rw [orElse_apply, Option.or_eq_some_iff] at h
  rcases h with h | ⟨-, h⟩
  · exact hp s a rest h
  · exact hq s a rest h

theorem Reads.mono {Q : Char → Prop} {p : Reader α} (hp : Reads P p) (h : ∀ x, P x → Q x) : Reads Q p := by
  rintro s a rest hs
  obtain ⟨k, hk, hall⟩ := hp s a rest hs
  exact ⟨k, hk, fun x hx => h x (hall x hx)⟩

/-! ## Whole texts -/

theorem Whole.chars {p : Reader α} (hr : Reads P p) {s : List Char} (h : Whole p s) : ∀ x ∈ s, P x := by
  obtain ⟨a, ha⟩ := h
  obtain ⟨k, rfl, hk⟩ := hr s a [] ha
  simpa using hk

/-- A reader that stops right before a `c` has read a whole text. -/
theorem whole_of_read {p : Reader α} (hl : Local c p) (hr : Reads P p) {s r : List Char} {a : α}
    (h : p s = some (a, c :: r)) : ∃ k, s = k ++ c :: r ∧ Whole p k := by
  obtain ⟨k, rfl, -⟩ := hr s a _ h
  refine ⟨k, rfl, ?_⟩
  rw [hl k r, Option.map_eq_some_iff] at h
  obtain ⟨x, hx, he⟩ := h
  obtain ⟨-, hrest⟩ := Prod.mk.inj he
  have hnil : x.2 = [] := by simpa using hrest
  exact ⟨x.1, by rw [hx, ← hnil]⟩

/-- A whole text is read the same before a `c`. -/
theorem Whole.read {p : Reader α} (hl : Local c p) {k : List Char} (h : Whole p k) (r : List Char) :
    ∃ a, p (k ++ c :: r) = some (a, c :: r) := by
  obtain ⟨a, ha⟩ := h
  exact ⟨a, by rw [hl k r, ha]; rfl⟩

end Scan
