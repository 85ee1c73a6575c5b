import Vectis.Core.Labels
import Vectis.Lib.Lines
import Vectis.Lib.Loop

/-!
# The grammar of `.env` files

`parse_protected_env_content` of `core/config_loader/env_file.rs`, and the grammar it accepts.

- `EnvLine`, `EnvFile`: lines and files as syntax, with the texts they stand for (`EnvLine.chars`, `EnvFile.chars`);
- `parseLine_of_legal`, `exists_legal_of_parseLine`: what the parser makes of one record;
- `parse_ok_iff`: a text is accepted with exactly the entries of the files it is the text of.
-/

namespace Vectis.Core.ConfigLoader

open Validation Lines

/-! ## The parser -/

/-- `ENV_FILE_MAX_SIZE_BYTES`. -/
def envFileMaxSizeBytes : Nat := 65536

/-- `ENV_NAME_MAX_SIZE_BYTES`. -/
def envNameMaxSizeBytes : Nat := 128

/-- `ENV_VALUE_MAX_SIZE_BYTES`. -/
def envValueMaxSizeBytes : Nat := 4096

structure FileValue where
  value : String
  line : Nat
  deriving DecidableEq, Repr

/-- The map of the names, in the order of their insertion. `first_lines` has the same names and lines. -/
abbrev EnvValues := List (String × FileValue)

def envParseError (line : Nat) (reason : String) : DynError :=
  .invalidInput (".env line " ++ toString line ++ ": " ++ reason)

/-- The two quotes. -/
def isQuote (c : Char) : Bool := c = Char.ofNat 0x27 || c = '"'

def isBlank (c : Char) : Bool := c = ' ' || c = '\t'

def trimEnvWhitespace (value : List Char) : List Char := trim isBlank value

/-- The line of a record, without its end. -/
def stripEnd (record : List Char) : List Char :=
  if record.getLast? = some '\n' then
    if record.dropLast.getLast? = some '\r' then record.dropLast.dropLast else record.dropLast
  else record

def isUpper (c : Char) : Bool := 0x41 ≤ c.val && c.val ≤ 0x5a

def isNameChar (c : Char) : Bool := isUpper c || isAsciiDigit c || c = '_'

def namePre : List Char := "VECTIS_".toList

def validName (key : List Char) : Bool :=
  namePre.isPrefixOf key && ((key.drop namePre.length).head?.any isUpper && (key.drop namePre.length).all isNameChar)

/-- The value of an assignment, trimmed before. -/
def parseValue (lineNumber : Nat) : List Char → Res (List Char)
  | [] => .ok []
  | quote :: remainder =>
    if isQuote quote then
      match splitOnce quote remainder with
      | none => .error (envParseError lineNumber "unterminated quoted value")
      | some (value, rest) =>
        if !(trimEnvWhitespace rest).isEmpty then
          .error (envParseError lineNumber "unexpected content after closing quote")
        else .ok value
    else .ok (quote :: remainder)

/-- The assignment of a trimmed line that is neither empty nor a comment. -/
def parseAssignment (values : EnvValues) (lineNumber : Nat) (line : List Char) : Res (String × String) :=
  match splitOnce '=' line with
  | none => .error (envParseError lineNumber "expected KEY=VALUE assignment")
  | some (key, value) =>
    let key := trimEnvWhitespace key
    if (String.ofList key).utf8ByteSize > envNameMaxSizeBytes then
      .error (envParseError lineNumber ("variable name exceeds " ++ toString envNameMaxSizeBytes ++ " bytes"))
    else if !validName key then .error (envParseError lineNumber "invalid VECTIS_ variable name")
    else
      match values.lookup (String.ofList key) with
      | some first =>
        .error (envParseError lineNumber ("duplicate variable; first defined on line " ++ toString first.line))
      | none => do
        let value ← parseValue lineNumber (trimEnvWhitespace value)
        if (String.ofList value).utf8ByteSize > envValueMaxSizeBytes then
          .error (envParseError lineNumber ("variable value exceeds " ++ toString envValueMaxSizeBytes ++ " bytes"))
        else .ok (String.ofList key, String.ofList value)

/-- One round of the loop: the assignment of the record, when it has one. -/
def parseLine (values : EnvValues) (lineNumber : Nat) (record : List Char) : Res (Option (String × String)) :=
  let line := stripEnd record
  if '\x00' ∈ line ∨ '\r' ∈ line then .error (envParseError lineNumber "NUL or isolated carriage return")
  else
    let line := trimEnvWhitespace line
    if line.isEmpty ∨ line.head? = some '#' then .ok none
    else (parseAssignment values lineNumber line).map some

/-- The loop over the records, from line `lineNumber` on. -/
def parseRecords (lineNumber : Nat) (values : EnvValues) : List (List Char) → Res EnvValues
  | [] => .ok values
  | record :: records => do
    match ← parseLine values lineNumber record with
    | none => parseRecords (lineNumber + 1) values records
    | some (key, value) => parseRecords (lineNumber + 1) (values ++ [(key, ⟨value, lineNumber⟩)]) records

def parseProtectedEnvContent (content : String) : Res EnvValues :=
  if content.utf8ByteSize > envFileMaxSizeBytes then .error (.invalidInput ".env exceeds maximum file size")
  else parseRecords 1 [] (splitInclusive '\n' content.toList)

/-! ## The grammar -/

/-- The value of an assignment. -/
inductive EnvValue
  | unquoted (text : List Char)
  | quoted (quote : Char) (text : List Char)
  deriving DecidableEq, Repr

namespace EnvValue

def chars : EnvValue → List Char
  | unquoted text => text
  | quoted quote text => quote :: (text ++ [quote])

def text : EnvValue → List Char
  | unquoted text => text
  | quoted _ text => text

/-- An unquoted value has no blanks at its ends and does not begin with a quote; a quoted one does not hold its
quote. -/
def Legal : EnvValue → Prop
  | unquoted text => trimEnvWhitespace text = text ∧ ∀ c ∈ text.head?, isQuote c = false
  | quoted quote text => isQuote quote = true ∧ quote ∉ text

end EnvValue

/-- `NAME = VALUE`. -/
structure Assignment where
  name : List Char
  value : EnvValue
  deriving DecidableEq, Repr

/-- The name matches `VECTIS_[A-Z][A-Z0-9_]*`. -/
def NameShape (name : List Char) : Prop := ∃ first rest, name = namePre ++ first :: rest ∧ isUpper first = true ∧
  ∀ c ∈ rest, isNameChar c = true

/-- Names and values are within their limits. -/
structure Assignment.Legal (assignment : Assignment) : Prop where
  name : NameShape assignment.name
  nameSize : (String.ofList assignment.name).utf8ByteSize ≤ envNameMaxSizeBytes
  value : assignment.value.Legal
  valueSize : (String.ofList assignment.value.text).utf8ByteSize ≤ envValueMaxSizeBytes

/-- A line, with the blanks around its parts. -/
inductive EnvLine
  | blank (blanks : List Char)
  | comment (blanks text : List Char)
  | assign (before : List Char) (assignment : Assignment) (beforeEquals afterEquals after : List Char)
  deriving DecidableEq, Repr

namespace EnvLine

def chars : EnvLine → List Char
  | blank blanks => blanks
  | comment blanks text => blanks ++ '#' :: text
  | assign before assignment beforeEquals afterEquals after =>
    before ++ (assignment.name ++ (beforeEquals ++ '=' :: (afterEquals ++ (assignment.value.chars ++ after))))

def assignment? : EnvLine → Option Assignment
  | assign _ assignment _ _ _ => some assignment
  | _ => none

/-- The blanks are spaces and tabs. -/
def Spaced : EnvLine → Prop
  | blank blanks => Blank isBlank blanks
  | comment blanks _ => Blank isBlank blanks
  | assign before _ beforeEquals afterEquals after =>
    Blank isBlank before ∧ Blank isBlank beforeEquals ∧ Blank isBlank afterEquals ∧ Blank isBlank after

/-- A line of the grammar, of one line of text. -/
structure Legal (line : EnvLine) : Prop where
  spaced : line.Spaced
  assignment : ∀ assignment ∈ line.assignment?, assignment.Legal
  clean : '\x00' ∉ line.chars ∧ '\r' ∉ line.chars ∧ '\n' ∉ line.chars

end EnvLine

/-- The lines of a file, each with whether it ends in CRLF, and a last one without an end. -/
structure EnvFile where
  lines : List (EnvLine × Bool)
  last : Option EnvLine

namespace EnvFile

def ending (crlf : Bool) : List Char := if crlf then ['\r', '\n'] else ['\n']

def chars (file : EnvFile) : List Char :=
  file.lines.flatMap (fun line => line.1.chars ++ ending line.2) ++ (file.last.map EnvLine.chars).getD []

def allLines (file : EnvFile) : List EnvLine := file.lines.map Prod.fst ++ file.last.toList

end EnvFile

/-- The entries of lines, from line `lineNumber` on. -/
def entriesFrom (lineNumber : Nat) : List EnvLine → EnvValues
  | [] => []
  | line :: lines =>
    (line.assignment?.toList.map fun assignment =>
      (String.ofList assignment.name, ⟨String.ofList assignment.value.text, lineNumber⟩)) ++
      entriesFrom (lineNumber + 1) lines

/-- A file of the grammar: its lines are, the last one is not empty, and no name is assigned twice. -/
structure EnvFile.Legal (file : EnvFile) : Prop where
  lines : ∀ line ∈ file.allLines, line.Legal
  last : ∀ line ∈ file.last, line.chars ≠ []
  names : ((entriesFrom 1 file.allLines).map Prod.fst).Nodup

/-! ## Records and lines -/

theorem stripEnd_ending {line : List Char} (h : '\r' ∉ line) (crlf : Bool) :
    stripEnd (line ++ EnvFile.ending crlf) = line := by
  unfold stripEnd EnvFile.ending
  cases crlf with
  | true => simp
  | false =>
    have hlast : line.getLast? ≠ some '\r' := fun hr => h (List.mem_of_getLast? hr)
    simp [hlast]

theorem stripEnd_unended {line : List Char} (h : '\n' ∉ line) : stripEnd line = line :=
  if_neg fun hlast => h (List.mem_of_getLast? hlast)

/-- A record whose line has no carriage return ends in LF or CRLF. -/
theorem exists_ending {text : List Char} (h : '\n' ∉ text) :
    ∃ crlf, text ++ ['\n'] = stripEnd (text ++ ['\n']) ++ EnvFile.ending crlf ∧ '\n' ∉ stripEnd (text ++ ['\n']) := by
  have hend : stripEnd (text ++ ['\n']) = if text.getLast? = some '\r' then text.dropLast else text := by
    simp [stripEnd]
  rw [hend]
  split
  · rename_i hlast
    refine ⟨true, ?_, fun hmem => h (List.dropLast_subset _ hmem)⟩
    obtain ⟨line, rfl⟩ := List.getLast?_eq_some_iff.mp hlast
    simp [EnvFile.ending]
  · exact ⟨false, rfl, h⟩

/-! ## Names and values -/

theorem validName_iff {name : List Char} : validName name = true ↔ NameShape name := by
  unfold validName NameShape
  rw [Bool.and_eq_true, List.isPrefixOf_iff_prefix]
  constructor
  · rintro ⟨⟨rest, rfl⟩, h⟩
    rw [List.drop_left] at h
    cases rest with
    | nil => simp at h
    | cons first rest =>
      simp only [List.head?_cons, Option.any_some, List.all_cons, Bool.and_eq_true] at h
      exact ⟨first, rest, rfl, h.1, List.all_eq_true.mp h.2.2⟩
  · rintro ⟨first, rest, rfl, hfirst, hrest⟩
    refine ⟨⟨_, rfl⟩, ?_⟩
    rw [List.drop_left]
    simp only [List.head?_cons, Option.any_some, List.all_cons, Bool.and_eq_true]
    exact ⟨hfirst, by simp [isNameChar, hfirst], List.all_eq_true.mpr hrest⟩

/-- The letter that names begin with. -/
theorem NameShape.cons {name : List Char} (h : NameShape name) : ∃ rest, name = 'V' :: rest := by
  obtain ⟨first, rest, rfl, -⟩ := h
  exact ⟨"ECTIS_".toList ++ first :: rest, rfl⟩

theorem nameChar_of_mem {name : List Char} (h : NameShape name) {c : Char} (hc : c ∈ name) : isNameChar c = true := by
  obtain ⟨first, rest, rfl, hfirst, hrest⟩ := h
  rw [List.mem_append, List.mem_cons] at hc
  have hpre : ∀ c ∈ namePre, isNameChar c = true := List.all_eq_true.mp (by decide)
  obtain hc | rfl | hc := hc
  · exact hpre c hc
  · simp [isNameChar, hfirst]
  · exact hrest c hc

theorem nameChar_text {c : Char} (h : isNameChar c = true) : isBlank c = false ∧ c ≠ '=' ∧ c ≠ '#' := by
  refine ⟨?_, ?_, ?_⟩
  · rw [isBlank, Bool.or_eq_false_iff, decide_eq_false_iff_not, decide_eq_false_iff_not]
    constructor
    all_goals
      rintro rfl
      exact absurd h (by decide)
  all_goals
    rintro rfl
    exact absurd h (by decide)

/-- A text whose ends are not blank is not trimmed. -/
theorem trim_self {first : Char} {rest : List Char} (h : ∀ c ∈ first :: rest, isBlank c = false) :
    trimEnvWhitespace (first :: rest) = first :: rest := by
  have hfirst := h first List.mem_cons_self
  rw [trimEnvWhitespace, trim, List.dropWhile_cons_of_neg (by simp [hfirst]), List.rdropWhile_eq_self_iff]
  intro hne
  simp [h _ (List.getLast_mem hne)]

theorem trim_name {name : List Char} (h : NameShape name) : trimEnvWhitespace name = name := by
  have hchars : ∀ c ∈ name, isBlank c = false := fun c hc => (nameChar_text (nameChar_of_mem h hc)).1
  obtain ⟨first, rest, rfl, -⟩ := h
  exact trim_self hchars

theorem quote_not_blank {c : Char} (h : isQuote c = true) : isBlank c = false := by
  rw [isQuote, Bool.or_eq_true, decide_eq_true_eq, decide_eq_true_eq] at h
  obtain rfl | rfl := h <;> decide

theorem trim_value {value : EnvValue} (h : value.Legal) : trimEnvWhitespace value.chars = value.chars := by
  cases value with
  | unquoted text => exact h.1
  | quoted quote text =>
    have hquote := quote_not_blank h.1
    rw [EnvValue.chars, trimEnvWhitespace, trim, List.dropWhile_cons_of_neg (by simp [hquote]), ← List.cons_append,
      List.rdropWhile_concat_neg _ _ _ (by simp [hquote])]

/-- What the value of an assignment is. -/
theorem parseValue_ok_iff {lineNumber : Nat} {chars text : List Char} (htrim : trimEnvWhitespace chars = chars) :
    parseValue lineNumber chars = .ok text ↔ ∃ value : EnvValue, ∃ after, value.Legal ∧ Blank isBlank after ∧
      chars = value.chars ++ after ∧ text = value.text := by
  constructor
  · intro h
    unfold parseValue at h
    split at h
    · cases h
      exact ⟨.unquoted [], [], ⟨rfl, by simp⟩, by simp [Blank], rfl, rfl⟩
    · rename_i quote remainder
      split at h
      · rename_i hquote
        split at h
        · cases h
        · rename_i rest hsplit
          obtain ⟨hrest, h⟩ := Loop.guard_eq_ok.mp h
          cases h
          obtain ⟨rfl, hnot⟩ := splitOnce_some.mp hsplit
          rw [Bool.not_eq_true', Bool.not_eq_false, List.isEmpty_iff] at hrest
          exact ⟨.quoted quote text, rest, ⟨hquote, hnot⟩, trim_blank.mp hrest, by simp [EnvValue.chars], rfl⟩
      · rename_i hquote
        cases h
        refine ⟨.unquoted (quote :: remainder), [], ⟨htrim, ?_⟩, by simp [Blank], by simp [EnvValue.chars], rfl⟩
        simpa using hquote
  · rintro ⟨value, after, hvalue, hafter, rfl, rfl⟩
    cases value with
    | unquoted text =>
      have hsame : text ++ after = text := by
        rw [EnvValue.chars, trimEnvWhitespace, trim_append_blank hafter] at htrim
        exact htrim.symm.trans hvalue.1
      rw [EnvValue.chars, hsame]
      cases text with
      | nil => rfl
      | cons quote remainder =>
        have hquote := hvalue.2 quote rfl
        simp [parseValue, hquote, EnvValue.text]
    | quoted quote text =>
      have hsplit : splitOnce quote (text ++ [quote] ++ after) = some (text, after) :=
        splitOnce_some.mpr ⟨by simp, hvalue.2⟩
      have hblank : trimEnvWhitespace after = [] := trim_blank.mpr hafter
      simp only [EnvValue.chars, List.cons_append, parseValue, hvalue.1, if_true, hsplit, hblank, List.isEmpty_nil,
        Bool.not_true, Bool.false_eq_true, if_false, EnvValue.text]

/-! ## Lines -/

variable {values : EnvValues} {lineNumber : Nat}

/-- The texts of an entry. -/
def Assignment.texts (assignment : Assignment) : String × String :=
  (String.ofList assignment.name, String.ofList assignment.value.text)

/-- What the assignment of a line is, in terms of its parts. -/
theorem parseAssignment_ok_iff {line : List Char} {result : String × String} :
    parseAssignment values lineNumber line = .ok result ↔ ∃ key value text, line = key ++ '=' :: value ∧ '=' ∉ key ∧
      NameShape (trimEnvWhitespace key) ∧ (String.ofList (trimEnvWhitespace key)).utf8ByteSize ≤ envNameMaxSizeBytes ∧
      values.lookup (String.ofList (trimEnvWhitespace key)) = none ∧
      parseValue lineNumber (trimEnvWhitespace value) = .ok text ∧
      (String.ofList text).utf8ByteSize ≤ envValueMaxSizeBytes ∧
      result = (String.ofList (trimEnvWhitespace key), String.ofList text) := by
  unfold parseAssignment
  constructor
  · intro h
    split at h
    · cases h
    · rename_i key value hsplit
      obtain ⟨hline, hnot⟩ := splitOnce_some.mp hsplit
      obtain ⟨hsize, h⟩ := Loop.guard_eq_ok.mp h
      obtain ⟨hname, h⟩ := Loop.guard_eq_ok.mp h
      split at h
      · cases h
      · rename_i hlookup
        obtain ⟨text, htext, h⟩ := Loop.bind_eq_ok.mp h
        obtain ⟨hvalue, h⟩ := Loop.guard_eq_ok.mp h
        rw [Bool.not_eq_true', Bool.not_eq_false] at hname
        exact ⟨key, value, text, hline, hnot, validName_iff.mp hname, Nat.le_of_not_lt hsize, hlookup, htext,
          Nat.le_of_not_lt hvalue, (Except.ok.inj h).symm⟩
  · rintro ⟨key, value, text, hline, hnot, hname, hsize, hlookup, htext, hvalue, rfl⟩
    rw [splitOnce_some.mpr ⟨hline, hnot⟩]
    refine Loop.guard_eq_ok.mpr ⟨Nat.not_lt.mpr hsize, Loop.guard_eq_ok.mpr ⟨by simp [validName_iff.mpr hname], ?_⟩⟩
    simp only [hlookup]
    exact Loop.bind_eq_ok.mpr ⟨text, htext, Loop.guard_eq_ok.mpr ⟨Nat.not_lt.mpr hvalue, rfl⟩⟩

/-- What a legal assignment is trimmed to. -/
theorem trim_assign {before name beforeEquals rest : List Char} (hbefore : Blank isBlank before)
    (hname : NameShape name) :
    trimEnvWhitespace (before ++ (name ++ (beforeEquals ++ '=' :: rest))) =
      name ++ beforeEquals ++ '=' :: rest.rdropWhile isBlank := by
  obtain ⟨more, rfl⟩ := NameShape.cons hname
  rw [trimEnvWhitespace, trim, dropWhile_blank_append hbefore, ← List.append_assoc, List.cons_append, List.cons_append,
    List.dropWhile_cons_of_neg (by decide)]
  exact rdropWhile_append_cons (by decide) ('V' :: more ++ beforeEquals) rest

/-- The value of a legal assignment, after the line was trimmed. -/
theorem trim_after_equals {afterEquals after : List Char} {value : EnvValue} (hbefore : Blank isBlank afterEquals)
    (hafter : Blank isBlank after) (hvalue : value.Legal) :
    trimEnvWhitespace ((afterEquals ++ (value.chars ++ after)).rdropWhile isBlank) = value.chars := by
  rw [trimEnvWhitespace, trim_rdropWhile, trim_around hbefore hafter]
  exact trim_value hvalue

/-- Why the assignment of a line is accepted: its name is new. -/
def EnvLine.Fresh (values : EnvValues) (line : EnvLine) : Prop :=
  ∀ assignment ∈ line.assignment?, values.lookup (String.ofList assignment.name) = none

/-- A line of the grammar whose name is new is read. -/
theorem parseLine_of_legal {record : List Char} {line : EnvLine} (hline : stripEnd record = line.chars)
    (hlegal : line.Legal) (hfresh : line.Fresh values) :
    parseLine values lineNumber record = .ok (line.assignment?.map Assignment.texts) := by
  unfold parseLine
  rw [hline]
  refine Loop.guard_eq_ok.mpr ⟨not_or.mpr ⟨hlegal.clean.1, hlegal.clean.2.1⟩, ?_⟩
  cases line with
  | blank blanks =>
    have hblank : trimEnvWhitespace blanks = [] := trim_blank.mpr hlegal.spaced
    simp [EnvLine.chars, hblank, EnvLine.assignment?]
  | comment blanks text =>
    have hcomment : trimEnvWhitespace (blanks ++ '#' :: text) = '#' :: text.rdropWhile isBlank := by
      rw [trimEnvWhitespace, trim, dropWhile_blank_append hlegal.spaced, List.dropWhile_cons_of_neg (by decide)]
      exact rdropWhile_append_cons (by decide) [] text
    simp [EnvLine.chars, hcomment, EnvLine.assignment?]
  | assign before assignment beforeEquals afterEquals after =>
    obtain ⟨hbefore, hbeforeEquals, hafterEquals, hafter⟩ := hlegal.spaced
    have hassignment := hlegal.assignment assignment rfl
    have hkey : trimEnvWhitespace (assignment.name ++ beforeEquals) = assignment.name := by
      rw [trimEnvWhitespace, trim_append_blank hbeforeEquals]
      exact trim_name hassignment.name
    have hparse : parseAssignment values lineNumber (assignment.name ++ beforeEquals ++
        '=' :: (afterEquals ++ (assignment.value.chars ++ after)).rdropWhile isBlank) = .ok assignment.texts := by
      refine parseAssignment_ok_iff.mpr ⟨_, _, assignment.value.text, rfl, ?_, ?_⟩
      · intro hmem
        obtain hmem | hmem := List.mem_append.mp hmem
        · exact (nameChar_text (nameChar_of_mem hassignment.name hmem)).2.1 rfl
        · exact absurd (hbeforeEquals _ hmem) (by decide)
      · rw [hkey, trim_after_equals hafterEquals hafter hassignment.value]
        refine ⟨hassignment.name, hassignment.nameSize, hfresh assignment rfl, ?_, hassignment.valueSize, rfl⟩
        exact (parseValue_ok_iff (trim_value hassignment.value)).mpr
          ⟨assignment.value, [], hassignment.value, by simp [Blank], (List.append_nil _).symm, rfl⟩
    obtain ⟨rest, hname⟩ := NameShape.cons hassignment.name
    have hassign : ¬((assignment.name ++ beforeEquals ++
        '=' :: (afterEquals ++ (assignment.value.chars ++ after)).rdropWhile isBlank).isEmpty = true ∨
        (assignment.name ++ beforeEquals ++
          '=' :: (afterEquals ++ (assignment.value.chars ++ after)).rdropWhile isBlank).head? = some '#') := by
      simp [hname]
    rw [EnvLine.chars, trim_assign hbefore hassignment.name, if_neg hassign, hparse]
    rfl

/-- A line that is read is one of the grammar, and its name is new. -/
theorem exists_legal_of_parseLine {record : List Char} {result : Option (String × String)}
    (hend : '\n' ∉ stripEnd record) (h : parseLine values lineNumber record = .ok result) :
    ∃ line : EnvLine, line.Legal ∧ stripEnd record = line.chars ∧ line.Fresh values ∧
      result = line.assignment?.map Assignment.texts := by
  unfold parseLine at h
  generalize stripEnd record = text at h hend
  obtain ⟨hclean, h⟩ := Loop.guard_eq_ok.mp h
  rw [not_or] at hclean
  simp only at h
  obtain ⟨before, after, htext, hbefore, hafter⟩ := exists_trim isBlank text
  split at h
  · rename_i hskip
    cases h
    obtain hempty | hcomment := hskip
    · exact ⟨.blank text, ⟨trim_blank.mp (List.isEmpty_iff.mp hempty), by simp [EnvLine.assignment?],
        hclean.1, hclean.2, hend⟩, rfl, by simp [EnvLine.Fresh, EnvLine.assignment?], rfl⟩
    · obtain ⟨rest, hrest⟩ := List.head?_eq_some_iff.mp hcomment
      rw [trimEnvWhitespace] at hrest
      have hchars : text = (EnvLine.comment before (rest ++ after)).chars := by
        rw [htext, hrest]
        simp [EnvLine.chars]
      exact ⟨.comment before (rest ++ after), ⟨hbefore, by simp [EnvLine.assignment?],
        hchars ▸ hclean.1, hchars ▸ hclean.2, hchars ▸ hend⟩, hchars, by simp [EnvLine.Fresh, EnvLine.assignment?], rfl⟩
  · obtain ⟨pair, hpair, h⟩ := Loop.map_eq_ok.mp h
    subst h
    obtain ⟨key, value, parsed, hsplit, -, hname, hnameSize, hfresh, hvalue, hvalueSize, rfl⟩ :=
      parseAssignment_ok_iff.mp hpair
    obtain ⟨keyBefore, keyAfter, hkey, hkeyBefore, hkeyAfter⟩ := exists_trim isBlank key
    obtain ⟨valueBefore, valueAfter, hvalueText, hvalueBefore, hvalueAfter⟩ := exists_trim isBlank value
    obtain ⟨parsedValue, rest, hlegal, hrest, hchars, rfl⟩ := (parseValue_ok_iff (trim_trim value)).mp hvalue
    let assignment : Assignment := ⟨trimEnvWhitespace key, parsedValue⟩
    let line : EnvLine := .assign (before ++ keyBefore) assignment keyAfter valueBefore (rest ++ (valueAfter ++ after))
    have hline : text = line.chars := by
      calc text = before ++ (key ++ '=' :: value) ++ after := by rw [← hsplit]; exact htext
        _ = before ++ ((keyBefore ++ trim isBlank key ++ keyAfter) ++
            '=' :: (valueBefore ++ (parsedValue.chars ++ rest) ++ valueAfter)) ++ after := by
          rw [← hkey, ← hchars]
          exact congrArg (fun value => before ++ (key ++ '=' :: value) ++ after) hvalueText
        _ = line.chars := by simp [line, assignment, EnvLine.chars, trimEnvWhitespace]
    refine ⟨line, ⟨⟨?_, hkeyAfter, hvalueBefore, ?_⟩, ?_, hline ▸ hclean.1, hline ▸ hclean.2, hline ▸ hend⟩, hline,
      ?_, rfl⟩
    · exact fun c hc => (List.mem_append.mp hc).elim (hbefore c) (hkeyBefore c)
    · intro c hc
      rw [List.mem_append, List.mem_append] at hc
      exact hc.elim (hrest c) fun hc => hc.elim (hvalueAfter c) (hafter c)
    · intro other hother
      cases hother
      exact ⟨hname, hnameSize, hlegal, hvalueSize⟩
    · intro other hother
      cases hother
      exact hfresh

/-! ## Records -/

/-- The lines of the records. -/
def Reads (lines : List EnvLine) (records : List (List Char)) : Prop :=
  List.Forall₂ (fun line record => stripEnd record = line.chars) lines records

theorem entriesFrom_cons (line : EnvLine) (lines : List EnvLine) :
    entriesFrom lineNumber (line :: lines) = entriesFrom lineNumber [line] ++ entriesFrom (lineNumber + 1) lines := by
  simp [entriesFrom]

/-- A name is new when it differs from those before it. -/
theorem fresh_iff {line : EnvLine} (hvalues : (values.map Prod.fst).Nodup) :
    line.Fresh values ↔ ((values ++ entriesFrom lineNumber [line]).map Prod.fst).Nodup := by
  unfold EnvLine.Fresh
  cases hassignment : line.assignment? with
  | none => simp [entriesFrom, hassignment, hvalues]
  | some assignment =>
    have hentries : (values ++ entriesFrom lineNumber [line]).map Prod.fst =
        values.map Prod.fst ++ [String.ofList assignment.name] := by
      simp [entriesFrom, hassignment]
    rw [hentries, List.nodup_append]
    simp only [Option.mem_some, forall_eq', List.lookup_eq_none_iff]
    constructor
    · intro h
      refine ⟨hvalues, by simp, fun name hname other hother => ?_⟩
      obtain ⟨entry, hentry, rfl⟩ := List.mem_map.mp hname
      rw [List.mem_singleton.mp hother]
      simpa using Ne.symm (by simpa using h entry hentry)
    · intro h entry hentry
      have hne := h.2.2 entry.1 (List.mem_map_of_mem hentry) _ (List.mem_singleton_self _)
      simpa using Ne.symm hne

/-- A record whose line is read: its entry is added. -/
theorem parseRecords_cons {record : List Char} {records : List (List Char)} {line : EnvLine}
    (h : parseLine values lineNumber record = .ok (line.assignment?.map Assignment.texts)) :
    parseRecords lineNumber values (record :: records) =
      parseRecords (lineNumber + 1) (values ++ entriesFrom lineNumber [line]) records := by
  rw [parseRecords, h]
  cases hassignment : line.assignment? with
  | none => simp [entriesFrom, hassignment, bind, Except.bind]
  | some assignment => simp [entriesFrom, hassignment, bind, Except.bind, Assignment.texts]

/-- What the loop makes of records. -/
theorem parseRecords_ok_iff {records : List (List Char)} {result : EnvValues} (hvalues : (values.map Prod.fst).Nodup)
    (hrecords : ∀ record ∈ records, '\n' ∉ stripEnd record) :
    parseRecords lineNumber values records = .ok result ↔ ∃ lines, Reads lines records ∧ (∀ line ∈ lines, line.Legal) ∧
      ((values ++ entriesFrom lineNumber lines).map Prod.fst).Nodup ∧
      result = values ++ entriesFrom lineNumber lines := by
  induction records generalizing lineNumber values with
  | nil =>
    constructor
    · intro h
      cases h
      exact ⟨[], .nil, by simp, by simpa [entriesFrom] using hvalues, by simp [entriesFrom]⟩
    · rintro ⟨lines, hreads, -, -, rfl⟩
      cases hreads
      simp [parseRecords, entriesFrom]
  | cons record records ih =>
    rw [List.forall_mem_cons] at hrecords
    constructor
    · intro h
      obtain ⟨parsed, hparsed, -⟩ := Loop.bind_eq_ok.mp h
      obtain ⟨line, hlegal, hline, hfresh, rfl⟩ := exists_legal_of_parseLine hrecords.1 hparsed
      rw [parseRecords_cons hparsed, ih ((fresh_iff hvalues).mp hfresh) hrecords.2] at h
      obtain ⟨lines, hreads, hlines, hnames, rfl⟩ := h
      rw [List.append_assoc, ← entriesFrom_cons] at hnames
      refine ⟨line :: lines, .cons hline hreads, List.forall_mem_cons.mpr ⟨hlegal, hlines⟩, hnames, ?_⟩
      rw [List.append_assoc, ← entriesFrom_cons]
    · rintro ⟨lines, hreads, hlines, hnames, hresult⟩
      obtain _ | ⟨hline, hreads⟩ := hreads
      rename_i line lines
      rw [entriesFrom_cons, ← List.append_assoc] at hnames hresult
      have hnodup : ((values ++ entriesFrom lineNumber [line]).map Prod.fst).Nodup := by
        rw [List.map_append] at hnames
        exact (List.nodup_append.mp hnames).1
      have hlegal := List.forall_mem_cons.mp hlines
      rw [parseRecords_cons (parseLine_of_legal hline hlegal.1 ((fresh_iff hvalues).mpr hnodup)), ih hnodup hrecords.2]
      exact ⟨lines, hreads, hlegal.2, hnames, hresult⟩

/-! ## Files -/

theorem stripEnd_of_isRecords {records : List (List Char)} (h : IsRecords '\n' records) :
    ∀ record ∈ records, '\n' ∉ stripEnd record := by
  induction records with
  | nil => simp
  | cons record records ih =>
    rw [List.forall_mem_cons]
    obtain ⟨⟨text, rfl, htext⟩, hrest⟩ | ⟨rfl, -, hrecord⟩ := h
    · obtain ⟨-, -, hend⟩ := exists_ending htext
      exact ⟨hend, ih hrest⟩
    · exact ⟨(stripEnd_unended hrecord).symm ▸ hrecord, by simp⟩

/-- The file of records. -/
theorem exists_file {records : List (List Char)} {lines : List EnvLine} (hrecords : IsRecords '\n' records)
    (hreads : Reads lines records) :
    ∃ file : EnvFile, file.allLines = lines ∧ file.chars = records.flatten ∧ ∀ line ∈ file.last, line.chars ≠ [] := by
  induction hreads with
  | nil => exact ⟨⟨[], none⟩, rfl, rfl, by simp⟩
  | @cons line record lines records hline hreads ih =>
    obtain ⟨⟨text, rfl, htext⟩, hrest⟩ | ⟨rfl, hne, hrecord⟩ := hrecords
    · obtain ⟨file, hlines, hchars, hlast⟩ := ih hrest
      obtain ⟨crlf, hending, -⟩ := exists_ending htext
      refine ⟨⟨(line, crlf) :: file.lines, file.last⟩, ?_, ?_, hlast⟩
      · rw [← hlines]
        rfl
      · rw [List.flatten_cons, ← hchars, hending, hline]
        simp [EnvFile.chars]
    · cases hreads
      rw [stripEnd_unended hrecord] at hline
      subst hline
      exact ⟨⟨[], some line⟩, rfl, by simp [EnvFile.chars], fun _ h => by cases h; exact hne⟩

/-- The records of a file. -/
theorem reads_file {file : EnvFile} (hlines : ∀ line ∈ file.allLines, line.Legal)
    (hlast : ∀ line ∈ file.last, line.chars ≠ []) :
    Reads file.allLines (splitInclusive '\n' file.chars) := by
  obtain ⟨lines, last⟩ := file
  induction lines with
  | nil =>
    cases last with
    | none => exact .nil
    | some line =>
      have hend := (hlines line (by simp [EnvFile.allLines])).clean.2.2
      have hchars : EnvFile.chars ⟨[], some line⟩ = line.chars := by simp [EnvFile.chars]
      rw [hchars, splitInclusive_last hend (hlast line rfl)]
      exact .cons (stripEnd_unended hend) .nil
  | cons entry lines ih =>
    obtain ⟨line, crlf⟩ := entry
    have hclean := (hlines line (by simp [EnvFile.allLines])).clean
    have hrest := ih (fun line hline => hlines line (by
      rw [EnvFile.allLines, List.map_cons, List.cons_append]
      exact List.mem_cons_of_mem _ hline)) hlast
    have hsplit : splitInclusive '\n' (EnvFile.chars ⟨(line, crlf) :: lines, last⟩) =
        (line.chars ++ EnvFile.ending crlf) :: splitInclusive '\n' (EnvFile.chars ⟨lines, last⟩) := by
      cases crlf with
      | true =>
        have hend : '\n' ∉ line.chars ++ ['\r'] := by simp [hclean.2.2]
        have h := splitInclusive_append hend (EnvFile.chars ⟨lines, last⟩)
        simpa [EnvFile.chars, EnvFile.ending] using h
      | false =>
        have h := splitInclusive_append hclean.2.2 (EnvFile.chars ⟨lines, last⟩)
        simpa [EnvFile.chars, EnvFile.ending] using h
    rw [hsplit]
    exact .cons (stripEnd_ending hclean.2.1 crlf) hrest

/-- A text is accepted with the entries of the file it is the text of. -/
theorem parse_ok_iff {content : String} {result : EnvValues} :
    parseProtectedEnvContent content = .ok result ↔ content.utf8ByteSize ≤ envFileMaxSizeBytes ∧
      ∃ file : EnvFile, file.Legal ∧ String.ofList file.chars = content ∧ result = entriesFrom 1 file.allLines := by
  have hrecords : IsRecords '\n' (splitInclusive '\n' content.toList) := isRecords_splitInclusive _
  rw [parseProtectedEnvContent, Loop.guard_eq_ok, Nat.not_lt,
    parseRecords_ok_iff (by simp) (stripEnd_of_isRecords hrecords)]
  refine and_congr_right fun _ => ?_
  constructor
  · rintro ⟨lines, hreads, hlines, hnames, rfl⟩
    obtain ⟨file, rfl, hchars, hlast⟩ := exists_file hrecords hreads
    rw [flatten_splitInclusive] at hchars
    exact ⟨file, ⟨hlines, hlast, hnames⟩, by rw [hchars, String.ofList_toList], rfl⟩
  · rintro ⟨file, hlegal, rfl, rfl⟩
    rw [String.toList_ofList]
    exact ⟨file.allLines, reads_file hlegal.lines hlegal.last, hlegal.lines, hlegal.names, rfl⟩

end Vectis.Core.ConfigLoader
