import Mathlib.Data.List.DropRight

/-!
# Lines and blanks

Splitting a text after every occurrence of a separator, and trimming a text at both ends.

- `isRecords_splitInclusive`, `flatten_splitInclusive`: every record but the last ends with the separator, and together
  they are the text;
- `splitInclusive_append`: a record in front is split off;
- `trim_around`, `exists_trim`: what trimming leaves.
-/

namespace Lines

variable {α : Type}

/-! ## Records -/

section Records

variable [DecidableEq α] {separator : α}

/-- `str::split_inclusive`. -/
def splitInclusive (separator : α) : List α → List (List α)
  | [] => []
  | c :: cs =>
    if c = separator then [c] :: splitInclusive separator cs
    else
      match splitInclusive separator cs with
      | [] => [[c]]
      | record :: records => (c :: record) :: records

/-- Every record ends with the separator and has no other, except that the last one may have none. -/
def IsRecords (separator : α) : List (List α) → Prop
  | [] => True
  | record :: records =>
    ((∃ line, record = line ++ [separator] ∧ separator ∉ line) ∧ IsRecords separator records) ∨
      (records = [] ∧ record ≠ [] ∧ separator ∉ record)

theorem isRecords_splitInclusive (text : List α) : IsRecords separator (splitInclusive separator text) := by
  induction text with
  | nil => trivial
  | cons c cs ih =>
    rw [splitInclusive]
    split
    · rename_i hc
      subst hc
      exact .inl ⟨⟨[], rfl, List.not_mem_nil⟩, ih⟩
    · rename_i hc
      cases hs : splitInclusive separator cs with
      | nil => exact .inr ⟨rfl, List.cons_ne_nil _ _, by simpa using Ne.symm hc⟩
      | cons record records =>
        rw [hs] at ih
        obtain ⟨⟨line, rfl, hline⟩, hrest⟩ | ⟨rfl, -, hrecord⟩ := ih
        · exact .inl ⟨⟨c :: line, rfl, by simp [Ne.symm hc, hline]⟩, hrest⟩
        · exact .inr ⟨rfl, List.cons_ne_nil _ _, by simp [Ne.symm hc, hrecord]⟩

theorem flatten_splitInclusive (text : List α) : (splitInclusive separator text).flatten = text := by
  induction text with
  | nil => rfl
  | cons c cs ih =>
    rw [splitInclusive]
    split
    · rw [List.flatten_cons, ih, List.singleton_append]
    · cases hs : splitInclusive separator cs with
      | nil =>
        rw [hs] at ih
        rw [← ih]
        rfl
      | cons record records =>
        rw [hs] at ih
        rw [← ih]
        rfl

theorem splitInclusive_append {line : List α} (h : separator ∉ line) (rest : List α) :
    splitInclusive separator (line ++ separator :: rest) = (line ++ [separator]) :: splitInclusive separator rest := by
  induction line with
  | nil => simp [splitInclusive]
  | cons c cs ih =>
    rw [List.mem_cons, not_or] at h
    rw [List.cons_append, splitInclusive, if_neg (Ne.symm h.1), ih h.2]
    rfl

theorem splitInclusive_last {line : List α} (h : separator ∉ line) (hne : line ≠ []) :
    splitInclusive separator line = [line] := by
  induction line with
  | nil => exact absurd rfl hne
  | cons c cs ih =>
    rw [List.mem_cons, not_or] at h
    rw [splitInclusive, if_neg (Ne.symm h.1)]
    cases cs with
    | nil => rfl
    | cons d ds => rw [ih h.2 (List.cons_ne_nil _ _)]

end Records

/-! ## Trimming -/

section Trim

variable {p : α → Bool}

/-- `str::trim_matches`. -/
def trim (p : α → Bool) (text : List α) : List α := (text.dropWhile p).rdropWhile p

/-- All characters are trimmed. -/
def Blank (p : α → Bool) (text : List α) : Prop := ∀ c ∈ text, p c = true

theorem dropWhile_blank_append {blanks : List α} (h : Blank p blanks) (text : List α) :
    (blanks ++ text).dropWhile p = text.dropWhile p := List.dropWhile_append_of_pos h

theorem rdropWhile_append_blank {blanks : List α} (h : Blank p blanks) (text : List α) :
    (text ++ blanks).rdropWhile p = text.rdropWhile p := by
  rw [List.rdropWhile, List.reverse_append, List.dropWhile_append_of_pos fun c hc => h c (List.mem_reverse.mp hc)]
  rfl

/-- Up to a character that stays, nothing is trimmed at the end. -/
theorem rdropWhile_append_cons {c : α} (hc : p c = false) (text rest : List α) :
    (text ++ c :: rest).rdropWhile p = text ++ c :: rest.rdropWhile p := by
  induction rest using List.reverseRecOn with
  | nil => rw [List.rdropWhile_concat_neg _ _ _ (by simp [hc]), List.rdropWhile_nil]
  | append_singleton rest d ih =>
    rw [← List.cons_append, ← List.append_assoc, List.rdropWhile_concat, List.rdropWhile_concat]
    split
    · exact ih
    · simp

theorem trim_blank {text : List α} : trim p text = [] ↔ Blank p text := by
  rw [trim, List.rdropWhile_eq_nil_iff]
  constructor
  · intro h c hc
    rw [← List.takeWhile_append_dropWhile (p := p) (l := text), List.mem_append] at hc
    rcases hc with hc | hc
    · exact List.mem_takeWhile_imp hc
    · exact h c hc
  · intro h c hc
    exact h c (List.IsSuffix.subset (List.dropWhile_suffix p) hc)

/-- What is trimmed are blanks at both ends. -/
theorem exists_trim (p : α → Bool) (text : List α) :
    ∃ before after, text = before ++ trim p text ++ after ∧ Blank p before ∧ Blank p after := by
  refine ⟨text.takeWhile p, (text.dropWhile p).rtakeWhile p, ?_, fun c hc => List.mem_takeWhile_imp hc,
    fun c hc => List.mem_rtakeWhile_imp hc⟩
  rw [trim, List.append_assoc, List.rdropWhile_append_rtakeWhile, List.takeWhile_append_dropWhile]

theorem trim_append_blank {blanks : List α} (h : Blank p blanks) (text : List α) :
    trim p (text ++ blanks) = trim p text := by
  rw [trim, List.dropWhile_append]
  split
  · rename_i hempty
    have hblanks : blanks.dropWhile p = [] := List.dropWhile_eq_nil_iff.mpr h
    rw [hblanks, trim, List.isEmpty_iff.mp hempty]
  · exact rdropWhile_append_blank h _

theorem trim_rdropWhile (text : List α) : trim p (text.rdropWhile p) = trim p text := by
  have hblank : Blank p (text.rtakeWhile p) := fun c hc => List.mem_rtakeWhile_imp hc
  have h := trim_append_blank hblank (text.rdropWhile p)
  rwa [List.rdropWhile_append_rtakeWhile, eq_comm] at h

/-- Blanks around a text are trimmed. -/
theorem trim_around {before after : List α} (hbefore : Blank p before) (hafter : Blank p after) (text : List α) :
    trim p (before ++ (text ++ after)) = trim p text := by
  rw [trim, dropWhile_blank_append hbefore]
  exact trim_append_blank hafter text

theorem trim_trim (text : List α) : trim p (trim p text) = trim p text := by
  obtain ⟨before, after, htext, hbefore, hafter⟩ := exists_trim p text
  have h := trim_around hbefore hafter (trim p text)
  rwa [← List.append_assoc, ← htext, eq_comm] at h

end Trim

end Lines
