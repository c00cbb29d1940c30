import Mathlib.Data.List.Basic
import RunnerFleet.Metrics.Exposition

/-!
# Reading an exposition back

A scraper splits a document at its line feeds, reads each line by itself, unescaping the label
values of samples, and gathers samples under the declaration before them (`Scrape.read?`). What
families write is read as these families again (`Scrape.read?_renderFamilies`), provided that their
names are names and that no help text and no value of a sample has a line feed
(`Scrape.LegibleFamily`). Of label values nothing is asked: escaping takes the three replacements
together to one form for each character (`toList_escapeLabel`), and a form is never split by the end
of a line or a value.
-/

namespace RunnerFleet

/-! ## Escaped label values -/

/-- The written form of one character of a label value. -/
def escapeLabelChar : Char → List Char
  | '\\' => ['\\', '\\']
  | '"' => ['\\', '"']
  | '\n' => ['\\', 'n']
  | c => [c]

theorem escapeLabelChar_of_ne {c : Char} (hslash : c ≠ '\\') (hquote : c ≠ '"') (hfeed : c ≠ '\n') :
    escapeLabelChar c = [c] := by
  unfold escapeLabelChar
  split <;> simp_all

/-- One after the other, the replacements write each character in its own form. -/
theorem toList_escapeLabel (s : String) :
    (escapeLabel s).toList = s.toList.flatMap escapeLabelChar := by
  simp only [escapeLabel, replaceChar, String.toList_ofList, List.flatMap_assoc]
  refine List.flatMap_congr fun c _ => ?_
  by_cases hslash : c = '\\'
  · subst hslash
    rfl
  by_cases hquote : c = '"'
  · subst hquote
    rfl
  by_cases hfeed : c = '\n'
  · subst hfeed
    rfl
  simp [escapeLabelChar_of_ne hslash hquote hfeed, hslash, hquote, hfeed]

theorem newline_not_mem_escapeLabel (s : String) : '\n' ∉ (escapeLabel s).toList := by
  rw [toList_escapeLabel, List.mem_flatMap]
  rintro ⟨c, -, hc⟩
  unfold escapeLabelChar at hc
  split at hc <;> grind

namespace Scrape

/-! ## The reader -/

/-- The characters of names. -/
def isNameChar (c : Char) : Bool := c.isAlphanum || c == '_' || c == ':'

/-- Reads a name, and gives what follows it. -/
def readName (s : List Char) : String × List Char :=
  (String.ofList (s.takeWhile isNameChar), s.dropWhile isNameChar)

/-- The character that a backslash and this one stand for. -/
def unescape? : Char → Option Char
  | '\\' => some '\\'
  | '"' => some '"'
  | 'n' => some '\n'
  | _ => none

/-- Reads a label value up to its closing quote, and gives what follows the quote. -/
def readValue : List Char → Option (List Char × List Char)
  | [] => none
  | '"' :: rest => some ([], rest)
  | '\\' :: c :: rest =>
    (unescape? c).bind fun d => (readValue rest).map fun (text, rest) => (d :: text, rest)
  | c :: rest => (readValue rest).map fun (text, rest) => (c :: text, rest)

theorem length_readValue {s text rest : List Char} (h : readValue s = some (text, rest)) :
    rest.length < s.length := by
  fun_induction readValue s generalizing text rest with
  | case1 => cases h
  | case2 rest' =>
    cases h
    exact Nat.lt_succ_self _
  | case3 c rest' ih =>
    obtain ⟨d, -, hd⟩ := Option.bind_eq_some_iff.1 h
    obtain ⟨⟨text', rest''⟩, hread, heq⟩ := Option.map_eq_some_iff.1 hd
    cases heq
    exact Nat.lt_succ_of_lt (Nat.lt_succ_of_lt (ih hread))
  | case4 c rest' _ _ ih =>
    obtain ⟨⟨text', rest''⟩, hread, heq⟩ := Option.map_eq_some_iff.1 h
    cases heq
    exact Nat.lt_succ_of_lt (ih hread)

/-- Reads labels up to the closing brace, and gives what follows the brace. -/
def readLabels (s : List Char) : Option (List (String × String) × List Char) :=
  match _ : readName s with
  | (name, '=' :: '"' :: quoted) =>
    match _ : readValue quoted with
    | some (text, ',' :: rest) =>
      (readLabels rest).map fun (labels, rest) => ((name, String.ofList text) :: labels, rest)
    | some (text, '\x7d' :: rest) => some ([(name, String.ofList text)], rest)
    | _ => none
  | _ => none
termination_by s.length
decreasing_by
  have hshort := length_readValue ‹readValue quoted = some (text, ',' :: rest)›
  have hquoted : s.dropWhile isNameChar = '=' :: '"' :: quoted :=
    congrArg Prod.snd ‹readName s = (name, '=' :: '"' :: quoted)›
  have hdrop := (List.dropWhile_sublist isNameChar (l := s)).length_le
  rw [hquoted] at hdrop
  simp only [List.length_cons] at hshort hdrop
  omega

/-- Reads the line of a sample; its value is what follows the blank. -/
def readSample (s : List Char) : Option Sample :=
  match readName s with
  | (name, ' ' :: value) => some ⟨name, [], String.ofList value⟩
  | (name, '\x7b' :: rest) =>
    match readLabels rest with
    | some (labels, ' ' :: value) => some ⟨name, labels, String.ofList value⟩
    | _ => none
  | _ => none

/-- What a line says. -/
inductive Line where
  | help (name text : String)
  | type (name : String) (kind : FamilyKind)
  | sample (s : Sample)

/-- Reads a name and what is said of it. -/
def readRemark (s : List Char) : Option (String × String) :=
  match readName s with
  | (name, ' ' :: text) => some (name, String.ofList text)
  | _ => none

def readKind (word : String) : Option FamilyKind :=
  [FamilyKind.gauge, .counter, .histogram].find? (·.name == word)

/-- Reads what a hash sign begins: a help line or a type line. -/
def readDeclaration (s : List Char) : Option Line :=
  match s.dropPrefix? " HELP ".toList, s.dropPrefix? " TYPE ".toList with
  | some rest, _ => (readRemark rest).map fun (name, text) => .help name text
  | none, some rest =>
    (readRemark rest).bind fun (name, word) => (readKind word).map fun kind => .type name kind
  | none, none => none

/-- Reads one line. -/
def readLine : List Char → Option Line
  | '#' :: rest => readDeclaration rest
  | s => (readSample s).map .sample

/-- Gathers lines into families, and gives the samples before the first: a help line and a type line
of one name begin a family, and the samples up to the next declaration are its own. -/
def gather : List Line → Option (List Sample × List Family)
  | [] => some ([], [])
  | .sample s :: rest => (gather rest).map fun (samples, families) => (s :: samples, families)
  | .help name help :: .type name' kind :: rest =>
    if name' = name then
      (gather rest).map fun (samples, families) => ([], ⟨name, help, kind, samples⟩ :: families)
    else none
  | _ => none

/-- The lines of a document in which every line ends in a line feed. -/
def lines? (document : String) : Option (List (List Char)) :=
  let parts := document.toList.splitOn '\n'
  if parts.getLast? = some [] then some parts.dropLast else none

/-- Reads a document in which no sample comes before a declaration. -/
def read? (document : String) : Option (List Family) :=
  match ((lines? document).bind (·.mapM readLine)).bind gather with
  | some ([], families) => some families
  | _ => none

/-! ## What is written is read -/

/-- A name of a metric or a label. -/
def IsName (s : String) : Prop := ∀ c ∈ s.toList, isNameChar c

instance (s : String) : Decidable (IsName s) :=
  decidable_of_iff (s.toList.all isNameChar = true) List.all_eq_true

theorem IsName.ofList {l : List Char} (h : l.all isNameChar = true) : IsName (String.ofList l) := by
  intro c hc
  rw [String.toList_ofList] at hc
  exact List.all_eq_true.1 h c hc

variable {s : String} {c : Char} {rest : List Char}

theorem readName_append (h : IsName s) (hc : isNameChar c = false) :
    readName (s.toList ++ c :: rest) = (s, c :: rest) := by
  rw [readName, List.takeWhile_append_of_pos h, List.dropWhile_append_of_pos h,
    List.takeWhile_cons_of_neg (by rw [hc]; exact Bool.false_ne_true),
    List.dropWhile_cons_of_neg (by rw [hc]; exact Bool.false_ne_true), List.append_nil,
    String.ofList_toList]

theorem readValue_cons (hquote : c ≠ '"') (hslash : c ≠ '\\') :
    readValue (c :: rest) = (readValue rest).map fun (text, rest) => (c :: text, rest) := by
  rw [readValue]
  · exact fun h => hquote h
  · exact fun _ _ h => absurd h hslash

theorem readValue_escape (text rest : List Char) :
    readValue (text.flatMap escapeLabelChar ++ '"' :: rest) = some (text, rest) := by
  induction text with
  | nil => rfl
  | cons c text ih =>
    rw [List.flatMap_cons, List.append_assoc]
    by_cases hslash : c = '\\'
    · subst hslash
      simp [escapeLabelChar, readValue, unescape?, ih]
    by_cases hquote : c = '"'
    · subst hquote
      simp [escapeLabelChar, readValue, unescape?, ih]
    by_cases hfeed : c = '\n'
    · subst hfeed
      simp [escapeLabelChar, readValue, unescape?, ih]
    rw [escapeLabelChar_of_ne hslash hquote hfeed, List.singleton_append,
      readValue_cons hquote hslash, ih]
    rfl

/-- A label and what follows it. -/
theorem toList_writeLabel (l : String × String) :
    (writeLabel l).toList ++ rest =
      l.1.toList ++ '=' :: '"' :: (l.2.toList.flatMap escapeLabelChar ++ '"' :: rest) := by
  simp [writeLabel, String.toList_append, toList_escapeLabel]

/-- After a label a comma makes the reading go on, and the brace ends it. -/
theorem readLabels_writeLabel {l : String × String} (h : IsName l.1) :
    readLabels ((writeLabel l).toList ++ rest) =
      match rest with
      | ',' :: rest => (readLabels rest).map fun (labels, rest) => (l :: labels, rest)
      | '\x7d' :: rest => some ([l], rest)
      | _ => none := by
  have hname : readName (l.1.toList ++ '=' :: '"' :: (l.2.toList.flatMap escapeLabelChar ++
      '"' :: rest)) = (l.1, '=' :: '"' :: (l.2.toList.flatMap escapeLabelChar ++ '"' :: rest)) :=
    readName_append h (by decide)
  have hvalue := readValue_escape l.2.toList rest
  rw [toList_writeLabel, readLabels]
  split
  · next name quoted hread =>
    cases hname.symm.trans hread
    split
    · next text after hread' =>
      cases hvalue.symm.trans hread'
      simp only [String.ofList_toList]
    · next text after hread' =>
      cases hvalue.symm.trans hread'
      simp only [String.ofList_toList]
    · next hcomma hbrace =>
      split
      · exact absurd hvalue (hcomma _ _)
      · exact absurd hvalue (hbrace _ _)
      · rfl
  · next hnone => exact absurd hname (hnone _ _)

theorem readLabels_write {labels : List (String × String)} (hne : labels ≠ [])
    (h : ∀ l ∈ labels, IsName l.1) :
    readLabels ([','].intercalate (labels.map fun l => (writeLabel l).toList) ++ '\x7d' :: rest) =
      some (labels, rest) := by
  induction labels with
  | nil => exact absurd rfl hne
  | cons l labels ih =>
    have hl := h l List.mem_cons_self
    cases labels with
    | nil =>
      rw [List.map_singleton, List.intercalate_singleton, readLabels_writeLabel hl]
      rfl
    | cons l' labels =>
      have hrest := ih (List.cons_ne_nil _ _) fun k hk => h k (List.mem_cons_of_mem l hk)
      rw [List.map_cons] at hrest ⊢
      rw [List.map_cons, List.intercalate_cons_cons, List.append_assoc, List.append_assoc,
        List.singleton_append, readLabels_writeLabel hl]
      simp only [hrest, Option.map_some]

/-- A sample that can be told from its line. -/
structure LegibleSample (s : Sample) : Prop where
  name : IsName s.name
  labels : ∀ l ∈ s.labels, IsName l.1
  value : '\n' ∉ s.value.toList

theorem toList_line (s : Sample) : s.line.toList = s.name.toList ++
    ((if s.labels = [] then []
      else '\x7b' ::
        ([','].intercalate (s.labels.map fun l => (writeLabel l).toList) ++ ['\x7d'])) ++
      ' ' :: s.value.toList) := by
  by_cases hlabels : s.labels = []
  · simp [Sample.line, hlabels]
  · simp [Sample.line, hlabels, String.toList_intercalate, Function.comp_def]

theorem readSample_line {s : Sample} (h : LegibleSample s) : readSample s.line.toList = some s := by
  rw [toList_line]
  by_cases hlabels : s.labels = []
  · rw [if_pos hlabels, List.nil_append, readSample, readName_append h.name (by decide)]
    simp only [String.ofList_toList, ← hlabels]
  · rw [if_neg hlabels, List.cons_append, readSample, readName_append h.name (by decide)]
    simp only [List.append_assoc, List.singleton_append, readLabels_write hlabels h.labels,
      String.ofList_toList]

theorem not_mem_intercalate {separator : List Char} {parts : List (List Char)}
    (hseparator : c ∉ separator) (h : ∀ part ∈ parts, c ∉ part) :
    c ∉ separator.intercalate parts := by
  induction parts with
  | nil => exact List.not_mem_nil
  | cons part parts ih =>
    have hpart := h part List.mem_cons_self
    have hparts := ih fun l hl => h l (List.mem_cons_of_mem part hl)
    cases parts with
    | nil => rwa [List.intercalate_singleton]
    | cons next parts =>
      rw [List.intercalate_cons_cons, List.mem_append, List.mem_append]
      rintro ((hmem | hmem) | hmem)
      · exact hpart hmem
      · exact hseparator hmem
      · exact hparts hmem

theorem newline_not_mem_name (h : IsName s) : '\n' ∉ s.toList := fun hmem =>
  absurd (h _ hmem) (by decide)

theorem newline_not_mem_writeLabel {l : String × String} (h : IsName l.1) :
    '\n' ∉ (writeLabel l).toList := by
  have hname := newline_not_mem_name h
  have htext := newline_not_mem_escapeLabel l.2
  simp [writeLabel, String.toList_append, hname, htext]

theorem newline_not_mem_sample {s : Sample} (h : LegibleSample s) : '\n' ∉ s.line.toList := by
  have hname := newline_not_mem_name h.name
  have hlabels : '\n' ∉ [','].intercalate (s.labels.map fun l => (writeLabel l).toList) := by
    refine not_mem_intercalate (by decide) fun part hpart => ?_
    obtain ⟨l, hl, rfl⟩ := List.mem_map.1 hpart
    exact newline_not_mem_writeLabel (h.labels l hl)
  rw [toList_line]
  split <;> simp [hname, hlabels, h.value]

/-- The line that says this. -/
def Line.text : Line → String
  | .help name text => "# HELP " ++ name ++ " " ++ text
  | .type name kind => "# TYPE " ++ name ++ " " ++ kind.name
  | .sample s => s.line

/-- A line that can be read. -/
inductive Legible : Line → Prop where
  | help {name text : String} (hname : IsName name) (htext : '\n' ∉ text.toList) :
      Legible (.help name text)
  | type {name : String} (kind : FamilyKind) (hname : IsName name) : Legible (.type name kind)
  | sample {s : Sample} (h : LegibleSample s) : Legible (.sample s)

theorem readRemark_append {name text : String} (h : IsName name) :
    readRemark (name.toList ++ ' ' :: text.toList) = some (name, text) := by
  rw [readRemark, readName_append h (by decide)]
  simp only [String.ofList_toList]

theorem Legible.newline_not_mem {line : Line} (h : Legible line) : '\n' ∉ line.text.toList := by
  cases h with
  | help hname htext =>
    have hname := newline_not_mem_name hname
    simp [Line.text, String.toList_append, hname, htext]
  | type kind hname =>
    have hname := newline_not_mem_name hname
    cases kind <;> simp [Line.text, String.toList_append, FamilyKind.name, hname]
  | sample h => exact newline_not_mem_sample h

theorem readLine_sample {s : Sample} (h : LegibleSample s) :
    readLine s.line.toList = some (.sample s) := by
  have hread := readSample_line h
  unfold readLine
  split
  · next rest heq =>
    -- a hash sign is in no name, so it begins no sample
    rw [heq] at hread
    cases hread
  · rw [hread]
    rfl

theorem readLine_text {line : Line} (h : Legible line) : readLine line.text.toList = some line := by
  cases h with
  | @help name text hname htext =>
    have hline : (Line.help name text).text.toList =
        '#' :: (" HELP ".toList ++ (name.toList ++ ' ' :: text.toList)) := by
      simp [Line.text, String.toList_append]
    have hdrop := List.dropPrefix?_append_of_beq (name.toList ++ ' ' :: text.toList)
      (beq_self_eq_true " HELP ".toList)
    rw [hline, readLine, readDeclaration, hdrop]
    simp only [readRemark_append hname, Option.map_some]
  | @type name kind hname =>
    have hline : (Line.type name kind).text.toList =
        '#' :: (" TYPE ".toList ++ (name.toList ++ ' ' :: kind.name.toList)) := by
      simp [Line.text, String.toList_append]
    have hdrop := List.dropPrefix?_append_of_beq (name.toList ++ ' ' :: kind.name.toList)
      (beq_self_eq_true " TYPE ".toList)
    have hhelp : (" TYPE ".toList ++ (name.toList ++ ' ' :: kind.name.toList)).dropPrefix?
        " HELP ".toList = none := rfl
    rw [hline, readLine, readDeclaration, hdrop, hhelp]
    simp only [readRemark_append hname, Option.bind_some]
    cases kind <;> rfl
  | sample h => exact readLine_sample h

/-! ### Documents -/

theorem flatMap_newline (lines : List (List Char)) :
    lines.flatMap (· ++ ['\n']) = ['\n'].intercalate (lines ++ [[]]) := by
  induction lines with
  | nil => rfl
  | cons line lines ih =>
    rw [List.flatMap_cons, ih, List.cons_append, List.intercalate_cons_of_ne_nil (by simp)]

/-- A document is split into the lines that it was made of. -/
theorem splitOn_join {lines : List String} (h : ∀ line ∈ lines, '\n' ∉ line.toList) :
    (String.join (lines.map (· ++ "\n"))).toList.splitOn '\n' =
      lines.map String.toList ++ [[]] := by
  have htext : (String.join (lines.map (· ++ "\n"))).toList =
      ['\n'].intercalate (lines.map String.toList ++ [[]]) := by
    rw [String.toList_join, List.flatMap_map, ← flatMap_newline, List.flatMap_map]
    exact List.flatMap_congr fun line _ => String.toList_append
  rw [htext, List.splitOn_intercalate '\n' _ (by simp)]
  intro part hpart
  rcases List.mem_append.1 hpart with hpart | hpart
  · obtain ⟨line, hline, rfl⟩ := List.mem_map.1 hpart
    exact h line hline
  · rw [List.mem_singleton.1 hpart]
    exact List.not_mem_nil

/-- The lines of a family, by what they say. -/
def linesOf (f : Family) : List Line :=
  .help f.name f.help :: .type f.name f.kind :: f.samples.map .sample

theorem map_text_linesOf (f : Family) : (linesOf f).map Line.text = f.lines := by
  simp [linesOf, Family.lines, Line.text, Function.comp_def]

theorem gather_samples {samples early : List Sample} {families : List Family} {lines : List Line}
    (h : gather lines = some (early, families)) :
    gather (samples.map .sample ++ lines) = some (samples ++ early, families) := by
  induction samples with
  | nil => exact h
  | cons s samples ih =>
    rw [List.map_cons, List.cons_append, gather, ih]
    rfl

theorem gather_flatMap (families : List Family) :
    gather (families.flatMap linesOf) = some ([], families) := by
  induction families with
  | nil => rfl
  | cons f families ih =>
    have hsamples : gather (f.samples.map .sample ++ families.flatMap linesOf) =
        some (f.samples ++ [], families) := gather_samples ih
    rw [List.flatMap_cons, linesOf, List.cons_append, List.cons_append, gather, if_pos rfl,
      hsamples, Option.map_some, List.append_nil]

theorem mapM_readLine {lines : List Line} (h : ∀ line ∈ lines, Legible line) :
    (lines.map fun line => line.text.toList).mapM readLine = some lines := by
  induction lines with
  | nil => rfl
  | cons line lines ih =>
    have hrest := ih fun l hl => h l (List.mem_cons_of_mem line hl)
    rw [List.map_cons, List.mapM_cons, readLine_text (h line List.mem_cons_self), hrest]
    rfl

/-- A family that can be told from its lines. -/
structure LegibleFamily (f : Family) : Prop where
  name : IsName f.name
  help : '\n' ∉ f.help.toList
  samples : ∀ s ∈ f.samples, LegibleSample s

theorem legible_linesOf {f : Family} (h : LegibleFamily f) : ∀ line ∈ linesOf f, Legible line := by
  intro line hline
  simp only [linesOf, List.mem_cons, List.mem_map] at hline
  rcases hline with rfl | rfl | ⟨s, hs, rfl⟩
  · exact .help h.name h.help
  · exact .type f.kind h.name
  · exact .sample (h.samples s hs)

variable {families : List Family}

/-- The line feeds of a document are the ends of its lines. -/
theorem splitOn_renderFamilies (h : ∀ f ∈ families, LegibleFamily f) :
    (renderFamilies families).toList.splitOn '\n' =
      (families.flatMap Family.lines).map String.toList ++ [[]] := by
  refine splitOn_join fun line hline => ?_
  obtain ⟨f, hf, hline⟩ := List.mem_flatMap.1 hline
  rw [← map_text_linesOf] at hline
  obtain ⟨l, hl, rfl⟩ := List.mem_map.1 hline
  exact (legible_linesOf (h f hf) l hl).newline_not_mem

/-- A document is read as the families that it was written of. -/
theorem read?_renderFamilies (h : ∀ f ∈ families, LegibleFamily f) :
    read? (renderFamilies families) = some families := by
  have hlines : (families.flatMap Family.lines).map String.toList =
      (families.flatMap linesOf).map fun line => line.text.toList := by
    rw [List.map_flatMap, List.map_flatMap]
    refine List.flatMap_congr fun f _ => ?_
    rw [← map_text_linesOf, List.map_map]
    rfl
  have hlegible : ∀ line ∈ families.flatMap linesOf, Legible line := by
    intro line hline
    obtain ⟨f, hf, hline⟩ := List.mem_flatMap.1 hline
    exact legible_linesOf (h f hf) line hline
  rw [read?, lines?, splitOn_renderFamilies h, List.getLast?_concat, if_pos rfl,
    List.dropLast_concat, hlines, Option.bind_some, mapM_readLine hlegible, Option.bind_some,
    gather_flatMap]

end Scrape

end RunnerFleet
