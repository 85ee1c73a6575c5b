import Vectis.Core.ConfigLoader.EnvFile

/-!
# Rendering `.env` files

A map is written as a `.env` file with its values in quotes that they do not hold.

- `Renderable`, `Renders`: the maps that files can give, and the files that assign them with any blanks and comments;
- `env_file_grammar`: the parser accepts its grammar and reads back what renders a map.
-/

namespace Vectis.Core.ConfigLoader

open Validation Lines

/-! ## Renderings -/

/-- The names and values, without the lines. -/
def texts (values : EnvValues) : List (String × String) := values.map fun entry => (entry.1, entry.2.value)

theorem texts_entriesFrom {lineNumber : Nat} (lines : List EnvLine) :
    texts (entriesFrom lineNumber lines) = (lines.filterMap EnvLine.assignment?).map Assignment.texts := by
  induction lines generalizing lineNumber with
  | nil => rfl
  | cons line lines ih =>
    unfold texts at ih ⊢
    rw [entriesFrom_cons, List.map_append, List.filterMap_cons, ih]
    cases hassignment : line.assignment? with
    | none => simp [entriesFrom, hassignment]
    | some assignment => simp [entriesFrom, hassignment, Assignment.texts]

/-- No NUL, carriage return or line feed. -/
def Clean (text : List Char) : Prop := ∀ c ∈ ['\x00', '\r', '\n'], c ∉ text

/-- A map that files can give: valid names, and values of one line that do not hold both quotes. -/
structure Renderable (entries : List (String × String)) : Prop where
  distinct : (entries.map Prod.fst).Nodup
  name : ∀ entry ∈ entries, NameShape entry.1.toList ∧ entry.1.utf8ByteSize ≤ envNameMaxSizeBytes
  value : ∀ entry ∈ entries, Clean entry.2.toList ∧ ∃ quote, isQuote quote = true ∧ quote ∉ entry.2.toList

/-- The quote that a value is put in. -/
def quoteFor (value : List Char) : Char := if '"' ∈ value then Char.ofNat 0x27 else '"'

def assignmentFor (entry : String × String) : Assignment :=
  ⟨entry.1.toList, .quoted (quoteFor entry.2.toList) entry.2.toList⟩

/-- The file assigns the entries, with any blanks, comments, empty lines and line ends. -/
structure Renders (entries : List (String × String)) (file : EnvFile) : Prop where
  assignments : file.allLines.filterMap EnvLine.assignment? = entries.map assignmentFor
  spaced : ∀ line ∈ file.allLines, line.Spaced
  comments : ∀ line ∈ file.allLines, line.assignment? = none → Clean line.chars
  last : ∀ line ∈ file.last, line.chars ≠ []

variable {entries : List (String × String)}

theorem quoteFor_legal {value : List Char} (h : ∃ quote, isQuote quote = true ∧ quote ∉ value) :
    isQuote (quoteFor value) = true ∧ quoteFor value ∉ value := by
  obtain ⟨quote, hquote, hnot⟩ := h
  rw [isQuote, Bool.or_eq_true, decide_eq_true_eq, decide_eq_true_eq] at hquote
  unfold quoteFor
  split
  · rename_i hdouble
    obtain rfl | rfl := hquote
    · exact ⟨by decide, hnot⟩
    · exact absurd hdouble hnot
  · rename_i hdouble
    exact ⟨by decide, hdouble⟩

theorem assignmentFor_legal (h : Renderable entries) {entry : String × String} (hentry : entry ∈ entries)
    (hsize : entry.2.utf8ByteSize ≤ envValueMaxSizeBytes) : (assignmentFor entry).Legal where
  name := (h.name entry hentry).1
  nameSize := by
    rw [assignmentFor, String.ofList_toList]
    exact (h.name entry hentry).2
  value := quoteFor_legal (h.value entry hentry).2
  valueSize := by
    rw [assignmentFor, EnvValue.text, String.ofList_toList]
    exact hsize

/-- A line that assigns a renderable entry is clean. -/
theorem clean_assign (h : Renderable entries) {entry : String × String} (hentry : entry ∈ entries)
    {before beforeEquals afterEquals after : List Char}
    (hspaced : (EnvLine.assign before (assignmentFor entry) beforeEquals afterEquals after).Spaced) :
    Clean (EnvLine.assign before (assignmentFor entry) beforeEquals afterEquals after).chars := by
  intro c hc hmem
  obtain ⟨hbefore, hbeforeEquals, hafterEquals, hafter⟩ := hspaced
  have hother : isBlank c = false ∧ isNameChar c = false ∧ isQuote c = false ∧ c ≠ '=' := by
    simp only [List.mem_cons, List.not_mem_nil, or_false] at hc
    obtain rfl | rfl | rfl := hc <;> decide
  have hblank : ∀ {blanks : List Char}, Blank isBlank blanks → c ∉ blanks := by
    intro blanks hblanks hc
    exact absurd (hblanks c hc) (by simp [hother.1])
  have hname : c ∉ entry.1.toList := by
    intro hc
    exact absurd (nameChar_of_mem (h.name entry hentry).1 hc) (by simp [hother.2.1])
  have hquote : c ≠ quoteFor entry.2.toList := by
    rintro rfl
    exact absurd (quoteFor_legal (h.value entry hentry).2).1 (by simp [hother.2.2.1])
  have hvalue := (h.value entry hentry).1 c hc
  simp [EnvLine.chars, assignmentFor, EnvValue.chars, hblank hbefore, hblank hbeforeEquals, hblank hafterEquals,
    hblank hafter, hname, hquote, hvalue, hother.2.2.2] at hmem

/-- What renders a map is a file of the grammar. -/
theorem legal_of_renders (h : Renderable entries)
    (hsize : ∀ entry ∈ entries, entry.2.utf8ByteSize ≤ envValueMaxSizeBytes) {file : EnvFile}
    (hfile : Renders entries file) :
    file.Legal ∧ texts (entriesFrom 1 file.allLines) = entries := by
  have htexts : texts (entriesFrom 1 file.allLines) = entries := by
    rw [texts_entriesFrom, hfile.assignments, List.map_map]
    simp [Function.comp_def, assignmentFor, Assignment.texts, EnvValue.text]
  have hlegal : ∀ line ∈ file.allLines, line.Legal := by
    intro line hline
    have hspaced := hfile.spaced line hline
    cases hassignment : line.assignment? with
    | none =>
      have hclean := hfile.comments line hline hassignment
      exact ⟨hspaced, by simp [hassignment], hclean _ (by simp), hclean _ (by simp), hclean _ (by simp)⟩
    | some assignment =>
      have hmem : assignment ∈ entries.map assignmentFor := by
        rw [← hfile.assignments]
        exact List.mem_filterMap.mpr ⟨line, hline, hassignment⟩
      obtain ⟨entry, hentry, rfl⟩ := List.mem_map.mp hmem
      have hclean : Clean line.chars := by
        cases line with
        | blank blanks => cases hassignment
        | comment blanks text => cases hassignment
        | assign before assignment beforeEquals afterEquals after =>
          cases hassignment
          exact clean_assign h hentry hspaced
      refine ⟨hspaced, fun other hother => ?_, hclean _ (by simp), hclean _ (by simp), hclean _ (by simp)⟩
      rw [hassignment] at hother
      cases hother
      exact assignmentFor_legal h hentry (hsize entry hentry)
  refine ⟨⟨hlegal, hfile.last, ?_⟩, htexts⟩
  have hnames : (entriesFrom 1 file.allLines).map Prod.fst = entries.map Prod.fst := by
    rw [← htexts, texts, List.map_map]
    rfl
  rw [hnames]
  exact h.distinct

/-- The plain rendering: one line for each entry. -/
def plainFile (entries : List (String × String)) : EnvFile :=
  ⟨entries.map fun entry => (.assign [] (assignmentFor entry) [] [] [], false), none⟩

theorem renders_plainFile (entries : List (String × String)) : Renders entries (plainFile entries) := by
  have hlines : (plainFile entries).allLines = entries.map fun entry => .assign [] (assignmentFor entry) [] [] [] := by
    simp [plainFile, EnvFile.allLines]
  have hlast : ∀ line ∈ (plainFile entries).last, line.chars ≠ [] := by simp [plainFile]
  refine ⟨?_, ?_, ?_, hlast⟩
  all_goals rw [hlines]
  · rw [List.filterMap_map]
    exact congrFun List.filterMap_eq_map entries
  · intro line hline
    obtain ⟨entry, -, rfl⟩ := List.mem_map.mp hline
    simp [EnvLine.Spaced, Blank]
  · intro line hline hnone
    obtain ⟨entry, -, rfl⟩ := List.mem_map.mp hline
    cases hnone

/-! ## The grammar is what is accepted -/

/-- The parser accepts the texts of the grammar, gives the entries of their files, and reads back what renders a map. -/
theorem env_file_grammar :
    (∀ content, (∃ values, parseProtectedEnvContent content = .ok values) ↔ content.utf8ByteSize ≤ envFileMaxSizeBytes ∧
      ∃ file : EnvFile, file.Legal ∧ String.ofList file.chars = content) ∧
    (∀ file : EnvFile, file.Legal → (String.ofList file.chars).utf8ByteSize ≤ envFileMaxSizeBytes →
      parseProtectedEnvContent (String.ofList file.chars) = .ok (entriesFrom 1 file.allLines)) ∧
    (∀ entries, Renderable entries → (∀ entry ∈ entries, entry.2.utf8ByteSize ≤ envValueMaxSizeBytes) →
      Renders entries (plainFile entries) ∧
      ∀ file, Renders entries file → (String.ofList file.chars).utf8ByteSize ≤ envFileMaxSizeBytes →
        ∃ values, parseProtectedEnvContent (String.ofList file.chars) = .ok values ∧ texts values = entries) := by
  refine ⟨fun content => ⟨?_, ?_⟩, ?_, ?_⟩
  · rintro ⟨values, h⟩
    obtain ⟨hsize, file, hlegal, hcontent, -⟩ := parse_ok_iff.mp h
    exact ⟨hsize, file, hlegal, hcontent⟩
  · rintro ⟨hsize, file, hlegal, hcontent⟩
    exact ⟨_, parse_ok_iff.mpr ⟨hsize, file, hlegal, hcontent, rfl⟩⟩
  · intro file hlegal hsize
    exact parse_ok_iff.mpr ⟨hsize, file, hlegal, rfl, rfl⟩
  · intro entries h hsize
    refine ⟨renders_plainFile entries, fun file hfile hfileSize => ?_⟩
    obtain ⟨hlegal, htexts⟩ := legal_of_renders h hsize hfile
    exact ⟨_, parse_ok_iff.mpr ⟨hfileSize, file, hlegal, rfl, rfl⟩, htexts⟩

theorem env_file_grammar_example : ∃ values,
    parseProtectedEnvContent (String.ofList (plainFile [("VECTIS_A", "b=c #")]).chars) = .ok values ∧
      texts values = [("VECTIS_A", "b=c #")] := by
  have hname : NameShape "VECTIS_A".toList := ⟨'A', [], by decide, by decide, by simp⟩
  have hrenderable : Renderable [("VECTIS_A", "b=c #")] := {
    distinct := by simp
    name := List.forall_mem_singleton.mpr ⟨hname, by decide⟩
    value := by
      rw [List.forall_mem_singleton]
      refine ⟨fun c hc => ?_, '"', by decide, by decide⟩
      simp only [List.mem_cons, List.not_mem_nil, or_false] at hc
      obtain rfl | rfl | rfl := hc <;> decide }
  have h := env_file_grammar.2.2 _ hrenderable (List.forall_mem_singleton.mpr (by decide))
  exact h.2 _ h.1 (by decide)

/-- Values are within their limit. -/
theorem value_size_of_parse {content : String} {result : EnvValues} (h : parseProtectedEnvContent content = .ok result)
    {entry : String × String} (hentry : entry ∈ texts result) : entry.2.utf8ByteSize ≤ envValueMaxSizeBytes := by
  obtain ⟨-, file, hlegal, -, rfl⟩ := parse_ok_iff.mp h
  rw [texts_entriesFrom] at hentry
  obtain ⟨assignment, hassignment, rfl⟩ := List.mem_map.mp hentry
  obtain ⟨line, hline, hassignment⟩ := List.mem_filterMap.mp hassignment
  exact ((hlegal.lines line hline).assignment assignment hassignment).valueSize

/-- No file gives a value longer than the limit. -/
theorem long_value_not_rendered : ¬ ∀ entries, Renderable entries →
    ∃ content values, parseProtectedEnvContent content = .ok values ∧ texts values = entries := by
  intro h
  generalize hlong : List.replicate 4097 'a' = long
  have hvalue : ∀ c ∈ long, c = 'a' := fun c hc => List.eq_of_mem_replicate (hlong ▸ hc)
  have hrenderable : Renderable [("VECTIS_A", String.ofList long)] := {
    distinct := by simp
    name := by
      rw [List.forall_mem_singleton]
      have hname : NameShape "VECTIS_A".toList := ⟨'A', [], by decide, by decide, by simp⟩
      exact ⟨hname, show "VECTIS_A".utf8ByteSize ≤ envNameMaxSizeBytes by decide⟩
    value := by
      rw [List.forall_mem_singleton, String.toList_ofList]
      refine ⟨fun c hc hmem => ?_, '"', by decide, fun hmem => absurd (hvalue _ hmem) (by decide)⟩
      rw [hvalue c hmem] at hc
      simp at hc }
  obtain ⟨content, values, hparse, htexts⟩ := h _ hrenderable
  have hsize := value_size_of_parse hparse (htexts ▸ List.mem_singleton_self _)
  have hlength := Utf8.length_le_utf8ByteSize (String.ofList long)
  rw [String.length_ofList, ← hlong, List.length_replicate] at hlength
  rw [hlong] at hlength
  exact absurd (hlength.trans hsize) (by decide)

end Vectis.Core.ConfigLoader
