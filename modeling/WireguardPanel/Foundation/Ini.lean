import WireguardPanel.Foundation.Text

/-!
# Files of sections

A file consists of lines. A line in brackets starts a section, a line with an
equals sign is a directive of its section, and what follows a `#` is a comment.

* `Ini.read`: the sections of a file, if every line of it is understood.
* `Ini.read_write`: sections that have been written are read back, if their
  values stand on one line each.
* `Ini.read_values`: no line feed and no `#` is ever read in a value.
-/

namespace Foundation

namespace Ini

/-- A section, with its directives in their order. -/
structure Section where
  name : String
  directives : List (String × String)
  deriving DecidableEq

/-- What a line of a file is. -/
inductive Line
  | blank
  | header (name : String)
  | directive (key value : String)
  deriving DecidableEq

/-- A line without its comment and without white space at its ends. -/
def content (line : String) : String :=
  Text.trim (String.ofList (line.toList.takeWhile (· ≠ '#')))

/-- A key and a value with an equals sign between them. -/
def readDirective (text : String) : Option Line :=
  match text.toList.dropWhile (· ≠ '=') with
  | [] => none
  | _ :: value => some <| .directive
      (Text.trim (String.ofList (text.toList.takeWhile (· ≠ '='))))
      (Text.trim (String.ofList value))

/-- What a line is, if it is understood. -/
def readLine (line : String) : Option Line :=
  match (content line).toList with
  | [] => some .blank
  | '[' :: name =>
    if name.getLast? = some ']' then some (.header (String.ofList name.dropLast)) else none
  | _ => readDirective (content line)

/-- The directives before the first section, and the sections. -/
def collect : List String → Option (List (String × String) × List Section)
  | [] => some ([], [])
  | line :: lines =>
    (readLine line).bind fun parsed => (collect lines).map fun rest =>
      match parsed with
      | .blank => rest
      | .header name => ([], ⟨name, rest.1⟩ :: rest.2)
      | .directive key value => ((key, value) :: rest.1, rest.2)

/-- The sections of a file. Every directive belongs to one. -/
def read (text : String) : Option (List Section) :=
  match collect (Text.split '\n' text) with
  | some ([], sections) => some sections
  | _ => none

/-! ## What has been written -/

theorem collect_blank {line : String} {lines : List String} (h : readLine line = some .blank) :
    collect (line :: lines) = collect lines := by
  rw [collect, h, Option.bind_some]
  exact Option.map_id'

theorem collect_header {line name : String} {lines : List String}
    (h : readLine line = some (.header name)) :
    collect (line :: lines) =
      (collect lines).map fun rest => ([], ⟨name, rest.1⟩ :: rest.2) := by
  rw [collect, h, Option.bind_some]

theorem collect_directive {line key value : String} {lines : List String}
    (h : readLine line = some (.directive key value)) :
    collect (line :: lines) =
      (collect lines).map fun rest => ((key, value) :: rest.1, rest.2) := by
  rw [collect, h, Option.bind_some]

/-- A key: a word that no line can be mistaken for. -/
structure IsKey (key : String) : Prop where
  ne_nil : key.toList ≠ []
  plain : ∀ c ∈ key.toList, Text.isSpace c = false ∧ c ≠ '=' ∧ c ≠ '#' ∧ c ≠ '['

/-- White space before a text is trimmed anyway. -/
theorem trim_space_append (cs : List Char) :
    Text.trim (String.ofList (Text.trimRight (' ' :: cs))) = Text.trim (String.ofList cs) := by
  have hagain := Text.trim_ofList_trimRight (String.ofList (' ' :: cs))
  rw [String.toList_ofList] at hagain
  rw [hagain, Text.trim, Text.trim, String.toList_ofList, String.toList_ofList,
    List.dropWhile_cons_of_pos (by decide)]

section Directive

variable {key value : String}

/-- The key of a directive, with the space after it. -/
theorem trim_key (hkey : IsKey key) : Text.trim (String.ofList (key.toList ++ [' '])) = key := by
  have hspace : ∀ c ∈ key.toList, Text.isSpace c = false := fun c hc => (hkey.plain c hc).1
  obtain ⟨front, last, hlast⟩ : ∃ front last, key.toList = front ++ [last] :=
    ⟨_, _, (List.dropLast_append_getLast hkey.ne_nil).symm⟩
  have hright : Text.trimRight (key.toList ++ [' ']) = key.toList := by
    rw [hlast, List.append_assoc]
    exact Text.trimRight_append_cons (hspace last (hlast ▸ by simp)) front [' ']
  have hagain := Text.trim_ofList_trimRight (String.ofList (key.toList ++ [' ']))
  rw [String.toList_ofList, hright, String.ofList_toList] at hagain
  rw [← hagain, Text.trim_eq_self hspace]

/-- The content of a directive: no comment, and white space at the end only. -/
theorem content_directive (hkey : IsKey key) (hvalue : '#' ∉ value.toList) :
    (content (key ++ " = " ++ value)).toList =
      (key.toList ++ [' ']) ++ '=' :: Text.trimRight (' ' :: value.toList) := by
  obtain ⟨first, rest, hfirst⟩ := List.exists_cons_of_ne_nil hkey.ne_nil
  have hline : (key ++ " = " ++ value).toList =
      (key.toList ++ [' ']) ++ '=' :: ' ' :: value.toList := by
    simp only [String.toList_append, List.append_assoc]
    rfl
  have hcomment : '#' ∉ (key ++ " = " ++ value).toList := by
    rw [hline]
    simp only [List.mem_append, List.mem_cons, List.not_mem_nil]
    rintro ((hmem | hmem | hmem) | hmem | hmem | hmem)
    · exact (hkey.plain _ hmem).2.2.1 rfl
    · exact absurd hmem (by decide)
    · exact hmem
    · exact absurd hmem (by decide)
    · exact absurd hmem (by decide)
    · exact hvalue hmem
  have hstart : ((key.toList ++ [' ']) ++ '=' :: ' ' :: value.toList).dropWhile Text.isSpace =
      (key.toList ++ [' ']) ++ '=' :: ' ' :: value.toList := by
    rw [hfirst, List.cons_append, List.cons_append, List.dropWhile_cons_of_neg]
    rw [(hkey.plain first (hfirst ▸ List.mem_cons_self)).1]
    decide
  rw [content, List.takeWhile_eq_self_iff.2 (Text.decide_ne hcomment), Text.trim,
    String.toList_ofList, String.toList_ofList, hline, hstart,
    Text.trimRight_append_cons (by decide)]

/-- A directive is read as it has been written, up to white space at the ends of
    its value. -/
theorem readLine_directive (hkey : IsKey key) (hvalue : '#' ∉ value.toList) :
    readLine (key ++ " = " ++ value) = some (.directive key (Text.trim value)) := by
  obtain ⟨first, rest, hfirst⟩ := List.exists_cons_of_ne_nil hkey.ne_nil
  have hcontent := content_directive hkey hvalue
  have hequals : '=' ∉ key.toList ++ [' '] := by
    rw [List.mem_append]
    rintro (hmem | hmem)
    · exact (hkey.plain _ hmem).2.1 rfl
    · exact absurd hmem (by decide)
  have hdirective : readLine (key ++ " = " ++ value) =
      readDirective (content (key ++ " = " ++ value)) := by
    rw [hfirst, List.cons_append, List.cons_append] at hcontent
    rw [readLine]
    split
    · next hnil => exact absurd (hcontent.symm.trans hnil) (List.cons_ne_nil _ _)
    · next hopen =>
      exact absurd (List.cons.inj (hcontent.symm.trans hopen)).1
        (hkey.plain first (hfirst ▸ List.mem_cons_self)).2.2.2
    · rfl
  rw [hdirective, readDirective, hcontent, Text.takeWhile_ne hequals,
    Text.dropWhile_ne hequals,
    trim_key hkey]
  change some (Line.directive key
    (Text.trim (String.ofList (Text.trimRight (' ' :: value.toList))))) = _
  rw [trim_space_append, String.ofList_toList]

end Directive

/-- A name in brackets starts a section. -/
theorem readLine_header {name : String} (h : '#' ∉ name.toList) :
    readLine ("[" ++ name ++ "]") = some (.header name) := by
  have hline : ("[" ++ name ++ "]").toList = '[' :: (name.toList ++ [']']) := by
    rw [String.toList_append, String.toList_append]
    rfl
  have hcomment : '#' ∉ ("[" ++ name ++ "]").toList := by
    rw [hline, List.mem_cons, List.mem_append]
    rintro (hmem | hmem | hmem)
    · exact absurd hmem (by decide)
    · exact h hmem
    · exact absurd hmem (by decide)
  have hcontent : (content ("[" ++ name ++ "]")).toList = '[' :: (name.toList ++ [']']) := by
    rw [content, List.takeWhile_eq_self_iff.2 (Text.decide_ne hcomment), String.ofList_toList,
      Text.trim_eq_of_ends, hline]
    · rw [hline]
      rintro c hc
      cases hc
      decide
    · rw [hline, ← List.cons_append, List.getLast?_concat]
      rintro c hc
      cases hc
      decide
  rw [readLine, hcontent]
  change (if (name.toList ++ [']']).getLast? = some ']' then
    some (Line.header (String.ofList (name.toList ++ [']']).dropLast)) else none) = _
  rw [if_pos List.getLast?_concat, List.dropLast_concat, String.ofList_toList]

/-! ## Files -/

/-- The line of a directive. -/
def directiveLine (d : String × String) : String := d.1 ++ " = " ++ d.2

/-- The lines of a section: its name, its directives and a blank line. -/
def sectionLines (s : Section) : List String :=
  ("[" ++ s.name ++ "]") :: (s.directives.map directiveLine ++ [""])

/-- The text of a file. -/
def write (sections : List Section) : String := Text.join "\n" (sections.flatMap sectionLines)

/-- A value that stands on one line. -/
def Value (value : String) : Prop := '\n' ∉ value.toList ∧ '#' ∉ value.toList

/-- A section that can be written: its values stand on one line each, without
    white space at their ends. -/
structure Section.Writable (s : Section) : Prop where
  name : Value s.name
  key : ∀ d ∈ s.directives, IsKey d.1
  value : ∀ d ∈ s.directives, Value d.2 ∧ Text.trim d.2 = d.2

theorem not_mem_directiveLine {d : String × String} (hkey : IsKey d.1) (hvalue : Value d.2) :
    '\n' ∉ (directiveLine d).toList := by
  rw [directiveLine, String.toList_append, String.toList_append]
  simp only [List.mem_append]
  rintro ((hmem | hmem) | hmem)
  · exact absurd (hkey.plain _ hmem).1 (by decide)
  · exact absurd hmem (by decide)
  · exact hvalue.1 hmem

theorem not_mem_sectionLines {s : Section} (h : s.Writable) :
    ∀ line ∈ sectionLines s, '\n' ∉ line.toList := by
  refine List.forall_mem_cons.2 ⟨?_, fun line hline => ?_⟩
  · rw [String.toList_append, String.toList_append]
    simp only [List.mem_append]
    rintro ((hmem | hmem) | hmem)
    · exact absurd hmem (by decide)
    · exact h.name.1 hmem
    · exact absurd hmem (by decide)
  · rcases List.mem_append.1 hline with hline | hline
    · obtain ⟨d, hd, rfl⟩ := List.mem_map.1 hline
      exact not_mem_directiveLine (h.key d hd) (h.value d hd).1
    · obtain rfl := List.mem_singleton.1 hline
      exact List.not_mem_nil

theorem collect_directives {directives : List (String × String)}
    (hkey : ∀ d ∈ directives, IsKey d.1)
    (hvalue : ∀ d ∈ directives, Value d.2 ∧ Text.trim d.2 = d.2) (lines : List String) :
    collect (directives.map directiveLine ++ lines) =
      (collect lines).map fun rest => (directives ++ rest.1, rest.2) := by
  induction directives with
  | nil => exact Option.map_id'.symm
  | cons d directives ih =>
    obtain ⟨hkey, hkeys⟩ := List.forall_mem_cons.1 hkey
    obtain ⟨⟨hvalue, htrim⟩, hvalues⟩ := List.forall_mem_cons.1 hvalue
    have hline := readLine_directive hkey hvalue.2
    rw [htrim] at hline
    rw [List.map_cons, List.cons_append, directiveLine, collect_directive hline, ih hkeys hvalues,
      Option.map_map]
    rfl

theorem collect_sections {sections : List Section} (h : ∀ s ∈ sections, s.Writable) :
    collect (sections.flatMap sectionLines) = some ([], sections) := by
  induction sections with
  | nil => rfl
  | cons s sections ih =>
    obtain ⟨hs, hsections⟩ := List.forall_mem_cons.1 h
    rw [List.flatMap_cons, sectionLines, List.cons_append, List.append_assoc,
      collect_header (readLine_header hs.name.2), collect_directives hs.key hs.value,
      List.singleton_append, collect_blank (by decide), ih hsections]
    change some ([], Section.mk s.name (s.directives ++ []) :: sections) = _
    rw [List.append_nil]

/-- A file is read as it has been written. -/
theorem read_write {sections : List Section} (h : ∀ s ∈ sections, s.Writable) :
    read (write sections) = some sections := by
  cases sections with
  | nil => decide
  | cons s rest =>
    have hlines : ∀ line ∈ (s :: rest).flatMap sectionLines,
        '\n' ∉ line.toList := fun line hline => by
      obtain ⟨t, ht, hline⟩ := List.mem_flatMap.1 hline
      exact not_mem_sectionLines (h t ht) line hline
    have hsplit : Text.split '\n' (write (s :: rest)) = (s :: rest).flatMap sectionLines :=
      Text.split_join (List.cons_ne_nil _ _) hlines
    rw [read, hsplit, collect_sections h]

/-! ## What can be read -/

/-- The characters of a line that is read. -/
theorem mem_content {line : String} {c : Char} (h : c ∈ (content line).toList) :
    c ∈ line.toList ∧ c ≠ '#' := by
  have hmem := Text.mem_trim h
  rw [String.toList_ofList] at hmem
  have hne := List.mem_takeWhile_imp hmem
  exact ⟨(List.takeWhile_prefix _).subset hmem, by simpa using hne⟩

/-- The value of a directive comes from its line, without the comment. -/
theorem mem_of_readLine {line key value : String} {c : Char}
    (h : readLine line = some (.directive key value)) (hc : c ∈ value.toList) :
    c ∈ line.toList ∧ c ≠ '#' := by
  refine mem_content ?_
  have hdirective : readDirective (content line) = some (.directive key value) := by
    rw [readLine] at h
    split at h
    · cases h
    · split_ifs at h
      cases h
    · exact h
  rw [readDirective] at hdirective
  split at hdirective
  · cases hdirective
  · next first rest hrest =>
    have hvalue := (Line.directive.inj (Option.some.inj hdirective)).2
    have hmem := Text.mem_trim (hvalue.symm ▸ hc)
    rw [String.toList_ofList] at hmem
    exact (List.dropWhile_suffix _).subset (hrest ▸ List.mem_cons_of_mem _ hmem)

theorem collect_values {lines : List String} (hlines : ∀ line ∈ lines, '\n' ∉ line.toList)
    {directives : List (String × String)} {sections : List Section}
    (h : collect lines = some (directives, sections)) :
    (∀ d ∈ directives, Value d.2) ∧ ∀ s ∈ sections, ∀ d ∈ s.directives, Value d.2 := by
  induction lines generalizing directives sections with
  | nil =>
    cases h
    exact ⟨fun d hd => absurd hd List.not_mem_nil, fun s hs => absurd hs List.not_mem_nil⟩
  | cons line lines ih =>
    rw [collect] at h
    obtain ⟨hline, hlines⟩ := List.forall_mem_cons.1 hlines
    obtain ⟨parsed, hparsed, h⟩ := Option.bind_eq_some_iff.1 h
    obtain ⟨⟨before, rest⟩, hrest, h⟩ := Option.map_eq_some_iff.1 h
    obtain ⟨hbefore, hsections⟩ := ih hlines hrest
    cases parsed with
    | blank =>
      cases h
      exact ⟨hbefore, hsections⟩
    | header name =>
      cases h
      exact ⟨fun d hd => absurd hd List.not_mem_nil, List.forall_mem_cons.2 ⟨hbefore, hsections⟩⟩
    | directive key value =>
      cases h
      refine ⟨List.forall_mem_cons.2 ⟨?_, hbefore⟩, hsections⟩
      exact ⟨fun hmem => hline (mem_of_readLine hparsed hmem).1,
        fun hmem => (mem_of_readLine hparsed hmem).2 rfl⟩

/-- The values that are read stand on one line each. -/
theorem read_values {text : String} {sections : List Section} (h : read text = some sections) :
    ∀ s ∈ sections, ∀ d ∈ s.directives, Value d.2 := by
  rw [read] at h
  split at h
  · next found hcollect =>
    cases h
    refine (collect_values (fun line hline => ?_) hcollect).2
    obtain ⟨cs, hcs, rfl⟩ := List.mem_map.1 hline
    rw [String.toList_ofList]
    exact (Text.of_mem_splitOn hcs).1
  · cases h

end Ini

end Foundation
