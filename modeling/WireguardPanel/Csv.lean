import WireguardPanel.Platform

/-!
# Tables of peers

The texts from which peers are created in bulk, and the reports about it.

* `csvLine`: a line of a table, with quotes where they are needed.
* `parseCsv`: the records of a table. `scan` is its loop over the characters.
* `scan_csvField`, `scan_csvLine`: what the loop makes of a field and of a line.
* `parseCsv_csvLine`: tables that were written by lines are read back.

Values are given as their texts, and `toLowerCase` is any function on texts.
-/

namespace WireguardPanel

open Foundation

/-! ## Writing -/

/-- A field of `csvLine`. -/
def csvField (text : String) : List Char :=
  if text.toList.any (· ∈ ['"', ',', '\r', '\n']) then
    '"' :: text.toList.flatMap (fun c => if c = '"' then ['"', '"'] else [c]) ++ ['"']
  else text.toList

/-- `csvLine`. There is no text for `null` and `undefined`. -/
def csvLine (values : List (Option String)) : String :=
  Text.join "," (values.map fun value => String.ofList (csvField (value.getD "")))

/-! ## Reading -/

/-- The variables of the loop of `parseCsv`. -/
structure CsvState where
  rows : List (List String) := []
  row : List String := []
  field : List Char := []
  quoted : Bool := false

/-- `field.replace(/\r$/, "").trim()`. -/
def lastField (field : List Char) : String :=
  Text.trim (String.ofList (if field.getLast? = some '\r' then field.dropLast else field))

/-- The end of a row, which is kept if it has a field that is not empty. -/
def CsvState.endRow (s : CsvState) : CsvState :=
  let row := s.row ++ [lastField s.field]
  { rows := if row.any (· ≠ "") then s.rows ++ [row] else s.rows }

/-- The loop of `parseCsv`. -/
def scan : CsvState → List Char → CsvState
  | s, [] => s
  | s, char :: rest =>
    if s.quoted then
      if char = '"' then
        match rest with
        | '"' :: rest => scan { s with field := s.field ++ ['"'] } rest
        | rest => scan { s with quoted := false } rest
      else scan { s with field := s.field ++ [char] } rest
    else if char = '"' then scan { s with quoted := true } rest
    else if char = ',' then
      scan { s with row := s.row ++ [String.ofList s.field], field := [] } rest
    else if char = '\n' then scan s.endRow rest
    else scan { s with field := s.field ++ [char] } rest

/-- `replace(/[ -]+/g, "_")`, after a character that has been replaced or not. -/
def underscored : Bool → List Char → List Char
  | _, [] => []
  | replaced, c :: cs =>
    if c = ' ' ∨ c = '-' then (if replaced then [] else ['_']) ++ underscored true cs
    else c :: underscored false cs

/-- A name in the header. -/
def normalizedHeader (toLowerCase : String → String) (value : String) : String :=
  String.ofList (underscored false (toLowerCase (Text.trim value)).toList)

/-- `Object.fromEntries`: a later value takes the place of an earlier one. -/
def recordOf (entries : List (String × String)) : List (String × String) :=
  entries.foldl (fun record entry =>
    if record.any (·.1 = entry.1) then
      record.map fun field => if field.1 = entry.1 then entry else field
    else record ++ [entry]) []

/-- `parseCsv`. -/
def parseCsv (toLowerCase : String → String) (input : String) :
    Except AppError (List (List (String × String))) := do
  let s := scan {} input.toList
  rejectIf (s.quoted = true) (.error "CSV contains an unterminated quoted field.")
  match s.endRow.rows with
  | header :: first :: rows =>
    let headers := header.map (normalizedHeader toLowerCase)
    rejectIf ("name" ∉ headers) (.error "CSV must include a name column.")
    return (first :: rows).map fun values =>
      recordOf (headers.zipIdx.map fun (header, index) =>
        (header, (values[index]?.map Text.trim).getD ""))
  | _ => throw (.error "CSV must contain a header and at least one peer row.")

/-! ## The characters of a field -/

/-- Inside quotes a quote is doubled. -/
def doubled (c : Char) : List Char := if c = '"' then ['"', '"'] else [c]

theorem scan_unquoted {s : CsvState} (h : s.quoted = false) (char : Char) (rest : List Char) :
    scan s (char :: rest) =
      if char = '"' then scan { s with quoted := true } rest
      else if char = ',' then
        scan { s with row := s.row ++ [String.ofList s.field], field := [] } rest
      else if char = '\n' then scan s.endRow rest
      else scan { s with field := s.field ++ [char] } rest := by
  rw [scan.eq_def]
  simp [h]

theorem scan_quote {s : CsvState} (h : s.quoted = true) {rest : List Char}
    (hrest : rest.head? ≠ some '"') :
    scan s ('"' :: rest) = scan { s with quoted := false } rest := by
  rw [scan.eq_def]
  cases rest with
  | nil => simp [h]
  | cons c rest =>
    have hc : c ≠ '"' := by simpa using hrest
    simp [h, hc]

theorem scan_doubled {s : CsvState} (h : s.quoted = true) (c : Char) (rest : List Char) :
    scan s (doubled c ++ rest) = scan { s with field := s.field ++ [c] } rest := by
  rw [doubled]
  split_ifs with hc
  · rw [hc, List.cons_append, scan.eq_def]
    simp [h]
  · rw [List.singleton_append, scan.eq_def]
    simp [h, hc]

theorem scan_plain {s : CsvState} (hquoted : s.quoted = false) {cs : List Char}
    (h : ∀ c ∈ cs, c ≠ '"' ∧ c ≠ ',' ∧ c ≠ '\n') (rest : List Char) :
    scan s (cs ++ rest) = scan { s with field := s.field ++ cs } rest := by
  induction cs generalizing s with
  | nil => rw [List.nil_append, List.append_nil]
  | cons c cs ih =>
    obtain ⟨⟨hquote, hcomma, hbreak⟩, hcs⟩ := List.forall_mem_cons.1 h
    rw [List.cons_append, scan_unquoted hquoted, if_neg hquote, if_neg hcomma, if_neg hbreak]
    have hlater := ih (s := { s with field := s.field ++ [c] }) hquoted hcs
    rw [List.append_assoc, List.singleton_append] at hlater
    exact hlater

/-- Inside quotes there are no separators, and a quote that is not followed by
    another one ends the quotes. -/
theorem scan_quoted {s : CsvState} (hquoted : s.quoted = true) (cs : List Char)
    {rest : List Char} (hrest : rest.head? ≠ some '"') :
    scan s (cs.flatMap doubled ++ '"' :: rest) =
      scan { s with field := s.field ++ cs, quoted := false } rest := by
  induction cs generalizing s with
  | nil => rw [List.flatMap_nil, List.nil_append, scan_quote hquoted hrest, List.append_nil]
  | cons c cs ih =>
    rw [List.flatMap_cons, List.append_assoc, scan_doubled hquoted]
    have hlater := ih (s := { s with field := s.field ++ [c] }) hquoted
    rw [List.append_assoc, List.singleton_append] at hlater
    exact hlater

/-- A field is read as its text, if no quote comes after it. -/
theorem scan_csvField (rows : List (List String)) (row : List String) (text : String)
    {rest : List Char} (hrest : rest.head? ≠ some '"') :
    scan ⟨rows, row, [], false⟩ (csvField text ++ rest) =
      scan ⟨rows, row, text.toList, false⟩ rest := by
  rw [csvField]
  split_ifs with hspecial
  · have hopen : ∀ cs, scan ⟨rows, row, [], false⟩ ('"' :: cs) = scan ⟨rows, row, [], true⟩ cs :=
      fun cs => scan_unquoted rfl '"' cs
    rw [List.cons_append, List.cons_append, hopen, List.append_assoc, List.singleton_append]
    exact scan_quoted rfl text.toList hrest
  · refine scan_plain rfl (fun c hc => ?_) rest
    have hplain : c ∉ ['"', ',', '\r', '\n'] := fun hmem =>
      hspecial (List.any_eq_true.2 ⟨c, hc, decide_eq_true hmem⟩)
    simp only [List.mem_cons, not_or] at hplain
    exact ⟨hplain.1, hplain.2.1, hplain.2.2.2.1⟩

/-! ## Lines -/

/-- A line is read up to its last field. -/
theorem scan_csvLine (rows : List (List String)) (row front : List String) (last : String)
    {rest : List Char} (hrest : rest.head? ≠ some '"') :
    scan ⟨rows, row, [], false⟩ ((csvLine ((front ++ [last]).map some)).toList ++ rest) =
      scan ⟨rows, row ++ front, last.toList, false⟩ rest := by
  induction front generalizing row with
  | nil =>
    have hline : (csvLine (([] ++ [last]).map some)).toList = csvField last := by
      simp [csvLine, Text.join]
    rw [hline, scan_csvField rows row last hrest, List.append_nil]
  | cons field front ih =>
    have hline : (csvLine ((field :: front ++ [last]).map some)).toList =
        csvField field ++ ',' :: (csvLine ((front ++ [last]).map some)).toList := by
      obtain ⟨next, later, hnext⟩ : ∃ next later, front ++ [last] = next :: later := by
        cases front <;> exact ⟨_, _, rfl⟩
      rw [List.cons_append, hnext]
      simp [csvLine, Text.join]
    have hcomma : ∀ cs, scan ⟨rows, row, field.toList, false⟩ (',' :: cs) =
        scan ⟨rows, row ++ [field], [], false⟩ cs := fun cs => by
      rw [scan_unquoted rfl, if_neg (by decide), if_pos rfl, String.ofList_toList]
    rw [hline, List.append_assoc, List.cons_append, scan_csvField rows row field (by simp), hcomma,
      ih, List.append_assoc, List.singleton_append]

/-- A row as it is kept: its last field is trimmed. -/
def keptRow (row : List String) : List String := row.dropLast ++ row.getLast?.toList.map Text.trim

theorem keptRow_append (front : List String) (last : String) :
    keptRow (front ++ [last]) = front ++ [Text.trim last] := by
  simp [keptRow]

/-- A carriage return at the end of a field is removed, as any other white space
    there would be. -/
theorem lastField_toList (text : String) : lastField text.toList = Text.trim text := by
  rw [lastField]
  split_ifs with hreturn
  · obtain ⟨front, hfront⟩ := List.getLast?_eq_some_iff.1 hreturn
    have hright : Text.trimRight (front ++ ['\r']) = Text.trimRight front := by
      rw [Text.trimRight, List.reverse_append, List.reverse_singleton, List.singleton_append,
        List.dropWhile_cons_of_pos (by decide), Text.trimRight]
    rw [hfront, List.dropLast_concat, ← Text.trim_ofList_trimRight text, hfront, hright]
    have hagain := Text.trim_ofList_trimRight (String.ofList front)
    rw [String.toList_ofList] at hagain
    exact hagain.symm
  · rw [String.ofList_toList]

theorem lastField_return (text : String) :
    lastField (text.toList ++ ['\r']) = Text.trim text := by
  rw [lastField, List.getLast?_concat, if_pos rfl, List.dropLast_concat, String.ofList_toList]

/-- The state between two lines. -/
def between (rows : List (List String)) : CsvState := { rows }

/-- A row with a field that is not empty is kept. -/
theorem endRow_eq {rows : List (List String)} {front : List String} {last : String}
    {field : List Char} (hlast : lastField field = Text.trim last)
    (h : ∃ value ∈ keptRow (front ++ [last]), value ≠ "") :
    CsvState.endRow ⟨rows, front, field, false⟩ =
    between (rows ++ [keptRow (front ++ [last])]) := by
  obtain ⟨value, hvalue, hne⟩ := h
  have hany : (front ++ [lastField field]).any (· ≠ "") = true := by
    rw [hlast, ← keptRow_append]
    exact List.any_eq_true.2 ⟨value, hvalue, decide_eq_true hne⟩
  rw [CsvState.endRow, if_pos hany, hlast, ← keptRow_append]
  rfl

/-- A line of a row that is kept, without its end. -/
theorem exists_scan_csvLine {line : List String} (h : ∃ value ∈ keptRow line, value ≠ "") :
    ∃ front last, line = front ++ [last] ∧ ∀ rows rest, rest.head? ≠ some '"' →
      scan (between rows) ((csvLine (line.map some)).toList ++ rest) =
        scan ⟨rows, front, last.toList, false⟩ rest := by
  rcases List.eq_nil_or_concat line with rfl | ⟨front, last, rfl⟩
  · obtain ⟨value, hvalue, -⟩ := h
    exact absurd hvalue List.not_mem_nil
  · refine ⟨front, last, List.concat_eq_append, fun rows rest hrest => ?_⟩
    have hscan := scan_csvLine rows [] front last hrest
    rw [List.nil_append] at hscan
    rw [List.concat_eq_append]
    exact hscan

/-- A line with its end. -/
theorem scan_line {sep : String} (hsep : sep = "\n" ∨ sep = "\r\n") {line : List String}
    (h : ∃ value ∈ keptRow line, value ≠ "") (rows : List (List String)) (rest : List Char) :
    scan (between rows) ((csvLine (line.map some)).toList ++ (sep.toList ++ rest)) =
      scan (between (rows ++ [keptRow line])) rest := by
  obtain ⟨front, last, rfl, hscan⟩ := exists_scan_csvLine h
  rcases hsep with rfl | rfl
  · change scan (between rows) (_ ++ '\n' :: rest) = _
    rw [hscan rows _ (by simp), scan_unquoted rfl, if_neg (by decide), if_neg (by decide),
      if_pos rfl, endRow_eq (lastField_toList last) h]
  · change scan (between rows) (_ ++ '\r' :: '\n' :: rest) = _
    rw [hscan rows _ (by simp), scan_unquoted rfl, if_neg (by decide), if_neg (by decide),
      if_neg (by decide), scan_unquoted rfl, if_neg (by decide), if_neg (by decide), if_pos rfl,
      endRow_eq (lastField_return last) h]

/-- The rows that are read from lines, the last of which may be ended or not. -/
theorem endRow_scan {sep : String} (hsep : sep = "\n" ∨ sep = "\r\n") (final : Bool)
    (rows : List (List String)) {lines : List (List String)} (hne : lines ≠ [])
    (hlines : ∀ line ∈ lines, ∃ value ∈ keptRow line, value ≠ "") {s : CsvState}
    (hs : s = scan (between rows) ((Text.join sep (lines.map fun line =>
      csvLine (line.map some))).toList ++ if final then sep.toList else [])) :
    s.quoted = false ∧ s.endRow.rows = rows ++ lines.map keptRow := by
  induction lines generalizing rows with
  | nil => exact absurd rfl hne
  | cons line rest ih =>
    obtain ⟨hline, hrest⟩ := List.forall_mem_cons.1 hlines
    cases rest with
    | nil =>
      rw [List.map_singleton, Text.join] at hs
      cases final with
      | false =>
        obtain ⟨front, last, rfl, hscan⟩ := exists_scan_csvLine hline
        have hend := hscan rows [] (by simp)
        rw [if_neg Bool.false_ne_true, hend] at hs
        rw [hs]
        exact ⟨rfl, congrArg CsvState.rows (endRow_eq (lastField_toList last) hline)⟩
      | true =>
        have hend := scan_line hsep hline rows []
        rw [List.append_nil] at hend
        rw [if_pos rfl, hend] at hs
        rw [hs]
        exact ⟨rfl, rfl⟩
    | cons next rest =>
      rw [List.map_cons, List.map_cons, Text.join, String.toList_append, String.toList_append,
        List.append_assoc, List.append_assoc, scan_line hsep hline] at hs
      have hlater := ih (rows ++ [keptRow line]) (List.cons_ne_nil _ _) hrest hs
      rwa [List.append_assoc, List.singleton_append] at hlater

/-! ## Records -/

/-- A record with a value for every name. -/
theorem recordOf_eq_self {entries : List (String × String)} (h : (entries.map Prod.fst).Nodup) :
    recordOf entries = entries := by
  have hfold : ∀ (later record : List (String × String)),
      ((record ++ later).map Prod.fst).Nodup →
      later.foldl (fun record entry =>
        if record.any (·.1 = entry.1) then
          record.map fun field => if field.1 = entry.1 then entry else field
        else record ++ [entry]) record = record ++ later := by
    intro later
    induction later with
    | nil => exact fun record _ => (List.append_nil record).symm
    | cons entry later ih =>
      intro record hnodup
      have hnew : ¬record.any (·.1 = entry.1) = true := fun hany => by
        obtain ⟨field, hfield, heq⟩ := List.any_eq_true.1 hany
        rw [List.map_append, List.map_cons] at hnodup
        exact (List.nodup_append.1 hnodup).2.2 _ (List.mem_map_of_mem hfield) _
          List.mem_cons_self (of_decide_eq_true heq)
      rw [List.foldl_cons, if_neg hnew, ih, List.append_assoc, List.singleton_append]
      rwa [List.append_assoc, List.singleton_append]
  exact hfold entries [] h

/-- The record of a row of as many fields as there are names. -/
theorem recordOf_zip {headers row : List String} (hdistinct : headers.Nodup)
    (hlength : row.length = headers.length) (htrim : ∀ field ∈ row, Text.trim field = field) :
    recordOf (headers.zipIdx.map fun (header, index) =>
      (header, (row[index]?.map Text.trim).getD "")) = headers.zip row := by
  have hzip : (headers.zipIdx.map fun (header, index) =>
      (header, (row[index]?.map Text.trim).getD "")) = headers.zip row := by
    refine List.ext_getElem (by simp [hlength]) fun index hindex _ => ?_
    have hrow : index < row.length := by simpa [hlength] using hindex
    simp [hrow, htrim _ (List.getElem_mem hrow)]
  rw [hzip, recordOf_eq_self]
  rwa [List.map_fst_zip hlength.ge]

theorem keptRow_eq_self {row : List String} (h : ∀ field ∈ row, Text.trim field = field) :
    keptRow row = row := by
  rcases List.eq_nil_or_concat row with rfl | ⟨front, last, rfl⟩
  · rfl
  · rw [List.concat_eq_append] at h ⊢
    rw [keptRow_append, h last (by simp)]

/-- The names of a header do not depend on the white space around them. -/
theorem map_normalizedHeader_keptRow (toLowerCase : String → String) (header : List String) :
    (keptRow header).map (normalizedHeader toLowerCase) =
      header.map (normalizedHeader toLowerCase) := by
  rcases List.eq_nil_or_concat header with rfl | ⟨front, last, rfl⟩
  · rfl
  · rw [List.concat_eq_append, keptRow_append, List.map_append, List.map_append]
    simp only [List.map_cons, List.map_nil, normalizedHeader, Text.trim_trim]

theorem exists_ne_empty_of_name {header : List String} (h : "name" ∈ header) :
    ∃ value ∈ keptRow header, value ≠ "" := by
  rcases List.eq_nil_or_concat header with rfl | ⟨front, last, rfl⟩
  · exact absurd h List.not_mem_nil
  · rw [List.concat_eq_append] at h ⊢
    rw [keptRow_append]
    rcases List.mem_append.1 h with hfront | hlast
    · exact ⟨_, List.mem_append_left _ hfront, by decide⟩
    · rw [← List.mem_singleton.1 hlast]
      exact ⟨_, List.mem_append_right _ (List.mem_singleton_self _), by decide⟩

/-- A table that is written line by line is read back as one record for a row. -/
theorem parseCsv_csvLine (toLowerCase : String → String) (header : List String)
    (rows : List (List String)) (sep : String) (final : Bool)
    (hnormalized : ∀ name ∈ header, normalizedHeader toLowerCase name = name)
    (hdistinct : header.Nodup) (hname : "name" ∈ header) (hrows : rows ≠ [])
    (hlength : ∀ row ∈ rows, row.length = header.length)
    (htrim : ∀ row ∈ rows, ∀ field ∈ row, Text.trim field = field)
    (hfield : ∀ row ∈ rows, ∃ field ∈ row, field ≠ "")
    (hsep : sep = "\n" ∨ sep = "\r\n") :
    parseCsv toLowerCase (Text.join sep ((header :: rows).map fun values =>
      csvLine (values.map some)) ++ if final then sep else "") = .ok (rows.map header.zip) := by
  have hkept : rows.map keptRow = rows :=
    (List.map_congr_left fun row hrow => keptRow_eq_self (htrim row hrow)).trans (List.map_id rows)
  have hlines : ∀ line ∈ header :: rows, ∃ value ∈ keptRow line, value ≠ "" := by
    refine List.forall_mem_cons.2 ⟨exists_ne_empty_of_name hname, fun row hrow => ?_⟩
    rw [keptRow_eq_self (htrim row hrow)]
    exact hfield row hrow
  have htext : (Text.join sep ((header :: rows).map fun values => csvLine (values.map some)) ++
      if final then sep else "").toList = (Text.join sep ((header :: rows).map fun values =>
        csvLine (values.map some))).toList ++ if final then sep.toList else [] := by
    rw [String.toList_append]
    cases final <;> rfl
  obtain ⟨hquoted, hread⟩ := endRow_scan hsep final [] (List.cons_ne_nil header rows) hlines rfl
  rw [← htext, List.nil_append, List.map_cons (f := keptRow), hkept] at hread
  rw [← htext] at hquoted
  have hheaders : (keptRow header).map (normalizedHeader toLowerCase) = header := by
    rw [map_normalizedHeader_keptRow]
    exact (List.map_congr_left hnormalized).trans (List.map_id header)
  obtain ⟨first, rest, rfl⟩ := List.exists_cons_of_ne_nil hrows
  have hinitial : (between [] : CsvState) = {} := rfl
  rw [hinitial] at hquoted hread
  rw [parseCsv]
  simp only [hquoted, hread, hheaders, rejectIf, Bool.false_eq_true, if_false, hname,
    not_true_eq_false]
  refine congrArg Except.ok (List.map_congr_left fun row hrow => ?_)
  exact recordOf_zip hdistinct (hlength row hrow) (htrim row hrow)

/-- A table with commas, quotes and line breaks in its fields. -/
theorem parseCsv_csvLine_comment :
    parseCsv (fun text => String.ofList (text.toList.map Char.toLower))
        (Text.join "\r\n" ([["name", "comment"],
        ["a", "Laptop, \"primary\""], ["b", "x\ny"]].map fun values =>
          csvLine (values.map some)) ++ if true then "\r\n" else "") =
      .ok [[("name", "a"), ("comment", "Laptop, \"primary\"")],
        [("name", "b"), ("comment", "x\ny")]] :=
  parseCsv_csvLine (fun text => String.ofList (text.toList.map Char.toLower)) ["name", "comment"]
    [["a", "Laptop, \"primary\""], ["b", "x\ny"]] "\r\n" true (by decide) (by decide) (by decide)
    (by decide) (by decide) (by decide) (by decide) (.inr rfl)

end WireguardPanel
