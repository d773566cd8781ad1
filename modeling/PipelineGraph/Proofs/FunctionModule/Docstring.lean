/-
**The docstring of a definition.**

Descriptions and the labels of datasets are written into the docstring of a function. None of them ends it:
read as a string literal, the docstring ends at the quotes on the line before the body, whatever stands in
it (`docstring_ends_before_body`).

A description on one line is the first line of the docstring that is read, exactly when its backslashes
stand for themselves and the escapes in the lines below it are complete (`docstring_says_description_iff`).
A path with backslashes is a description that is lost (`docstring_of_windowsPath`).
-/

import PipelineGraph.FunctionModule
import PipelineGraph.Proofs.Source.Legible

namespace PipelineGraph.FunctionRef

open Source (escapeTriples escapeDocstring tripleQuote Quotes scan CharacterNames decode decode_cons
  decode_nil decode_lineEnd readLiteral firstLine isLegible firstLine_docstring_iff)
open Text (unlines)

/-! ### The lines of a docstring -/

/-- The lines of a docstring between the quotes that open it and the line that closes it. -/
def innerLines (function : FunctionRef) (options : Options) : List String :=
  (match lines (escapeDocstring (function.writtenDescription.getD options.defaultDescription)) with
    | [] => [""]
    | first :: rest => first :: rest.map (indentLine 4)) ++
  (function.argumentLines ++ function.returnLines)

/-- A docstring is its inner lines, with quotes before the first and on a line after the last. -/
theorem exists_docstringLines_eq (function : FunctionRef) (options : Options) :
    ∃ first rest, function.innerLines options = first :: rest ∧
      function.docstringLines options =
        ("    " ++ tripleQuote ++ first) :: rest ++ ["    " ++ tripleQuote] := by
  unfold innerLines docstringLines summaryLines
  dsimp only
  cases lines (escapeDocstring (function.writtenDescription.getD options.defaultDescription)) with
  | nil => exact ⟨"", function.argumentLines ++ function.returnLines, rfl, by simp⟩
  | cons first rest =>
    exact ⟨first, rest.map (indentLine 4) ++ (function.argumentLines ++ function.returnLines), rfl,
      by simp⟩

theorem bodyLines_ne_nil (function : FunctionRef) : function.bodyLines ≠ [] := by
  unfold bodyLines
  split <;> exact List.cons_ne_nil _ _

/-- What stands between the quotes of a docstring, less the spaces before the quotes that close it. -/
def docstring (function : FunctionRef) (options : Options) : String :=
  String.intercalate "\n" (function.innerLines options) ++ "\n"

/-- The text of the body. -/
def bodyText (function : FunctionRef) : String := String.intercalate "\n" function.bodyLines ++ "\n"

/-- **A definition is its signature, its docstring and its body.** -/
theorem text_eq (function : FunctionRef) (options : Options) :
    function.text options = function.signature ++ "\n    \"\"\"" ++
      (function.docstring options ++ "    \"\"\"\n" ++ function.bodyText) := by
  obtain ⟨first, rest, inner, all⟩ := function.exists_docstringLines_eq options
  have body := function.bodyLines_ne_nil
  rw [text, docstring, bodyText, inner, all, List.cons_append,
    String.intercalate_cons_of_ne_nil (by simp), String.intercalate_append_of_ne_nil (by simp) body,
    List.cons_append, ← List.cons_append, String.intercalate_append_of_ne_nil (by simp) (by simp),
    String.intercalate_cons_append]
  have opens : "\n    \"\"\"" = "\n" ++ ("    " ++ tripleQuote) := rfl
  have closes : "    \"\"\"\n" = "    " ++ tripleQuote ++ "\n" := rfl
  rw [opens, closes, String.intercalate_singleton]
  simp only [String.append_assoc]

/-! ### The end of a docstring -/

/-- The lines of an escaped text are escaped. -/
theorem exists_escaped_of_mem_lines {text line : String} (isLine : line ∈ lines (escapeDocstring text)) :
    ∃ plain, line.toList = escapeTriples plain := by
  rw [lines, escapeDocstring, String.toList_ofList, Source.splitLines_escapeTriples] at isLine
  obtain ⟨written, isWritten, rfl⟩ := List.mem_map.mp isLine
  obtain ⟨plain, _, rfl⟩ := List.mem_map.mp isWritten
  exact ⟨plain, String.toList_ofList⟩

/-- A line is an escaped text, and the backslashes of this text are those of datasets. -/
def WrittenFor (datasets : List DatasetRef) (line : String) : Prop :=
  ∃ plain, line.toList = escapeTriples plain ∧
    ('\\' ∈ plain → ∃ dataset ∈ datasets, '\\' ∈ dataset.name.toList ∨ '\\' ∈ dataset.label.toList)

theorem WrittenFor.mono {datasets more : List DatasetRef} (among : datasets ⊆ more) {line : String}
    (written : WrittenFor datasets line) : WrittenFor more line := by
  obtain ⟨plain, same, backslash⟩ := written
  refine ⟨plain, same, fun inside => ?_⟩
  obtain ⟨dataset, isDataset, has⟩ := backslash inside
  exact ⟨dataset, among isDataset, has⟩

/-- A line without backslashes and quotes is written for any datasets. -/
theorem writtenFor_of_plain (datasets : List DatasetRef) {line : String}
    (plain : escapeTriples line.toList = line.toList ∧ '\\' ∉ line.toList) :
    WrittenFor datasets line :=
  ⟨line.toList, plain.1.symm, fun inside => absurd inside plain.2⟩

theorem writtenFor_datasetLine {datasets : List DatasetRef} {dataset : DatasetRef}
    (isDataset : dataset ∈ datasets) {between : String} (plain : '\\' ∉ between.toList) :
    WrittenFor datasets
      (escapeDocstring ("        " ++ dataset.name ++ between ++ dataset.label ++ ".")) := by
  refine ⟨_, String.toList_ofList, fun inside => ⟨dataset, isDataset, ?_⟩⟩
  simpa [String.toList_append, plain] using inside

theorem writtenFor_of_mem_argumentLines {function : FunctionRef} {line : String}
    (isLine : line ∈ function.argumentLines) : WrittenFor function.inputs line := by
  unfold argumentLines at isLine
  split at isLine
  · cases isLine
  · rcases List.mem_cons.mp isLine with rfl | isLine
    · exact writtenFor_of_plain _ (by decide)
    · rcases List.mem_cons.mp isLine with rfl | isLine
      · exact writtenFor_of_plain _ (by decide)
      · obtain ⟨input, isInput, rfl⟩ := List.mem_map.mp isLine
        exact writtenFor_datasetLine isInput (by decide)

theorem writtenFor_of_mem_returnLines {function : FunctionRef} {line : String}
    (isLine : line ∈ function.returnLines) : WrittenFor function.outputs line := by
  unfold returnLines at isLine
  rcases List.mem_cons.mp isLine with rfl | isLine
  · exact writtenFor_of_plain _ (by decide)
  · rcases List.mem_cons.mp isLine with rfl | isLine
    · exact writtenFor_of_plain _ (by decide)
    · split at isLine
      · rw [List.mem_singleton.mp isLine]
        exact writtenFor_of_plain _ (by decide)
      · rw [List.mem_singleton.mp isLine]
        exact writtenFor_of_plain _ (by decide)
      · obtain ⟨output, isOutput, rfl⟩ := List.mem_map.mp isLine
        exact writtenFor_datasetLine isOutput (by decide)

/-- **Every inner line is escaped**, and spaces in front of it change nothing. -/
theorem exists_escaped_of_mem_innerLines {function : FunctionRef} {options : Options} {line : String}
    (isLine : line ∈ function.innerLines options) : ∃ plain, line.toList = escapeTriples plain := by
  rcases List.mem_append.mp isLine with inSummary | later
  · split at inSummary
    · exact ⟨[], List.mem_singleton.mp inSummary ▸ rfl⟩
    · rename_i first rest split
      have escaped : ∀ line ∈ first :: rest, ∃ plain, line.toList = escapeTriples plain :=
        fun line isLine => exists_escaped_of_mem_lines (split ▸ isLine)
      rcases List.mem_cons.mp inSummary with rfl | moved
      · exact escaped _ List.mem_cons_self
      · obtain ⟨written, isWritten, rfl⟩ := List.mem_map.mp moved
        obtain ⟨plain, same⟩ := escaped written (List.mem_cons_of_mem _ isWritten)
        rw [indentLine, String.toList_ofList, same]
        exact Source.exists_indentLine_eq 4 plain
  · rcases List.mem_append.mp later with inArguments | inReturns
    · obtain ⟨plain, same, _⟩ := writtenFor_of_mem_argumentLines inArguments
      exact ⟨plain, same⟩
    · obtain ⟨plain, same, _⟩ := writtenFor_of_mem_returnLines inReturns
      exact ⟨plain, same⟩

theorem toList_docstring (function : FunctionRef) (options : Options) :
    (function.docstring options).toList =
      unlines ((function.innerLines options).map String.toList) := by
  obtain ⟨first, rest, inner, _⟩ := function.exists_docstringLines_eq options
  rw [docstring, String.toList_append]
  exact Text.toList_intercalate_lines (inner ▸ List.cons_ne_nil first rest)

/-- The quotes that close a docstring are found after the spaces on their line. -/
theorem scan_closing (after : List Char) :
    scan .triple false ("    \"\"\"".toList ++ after) = some ("    ".toList, after) := by
  have space : ∀ rest, scan .triple false (' ' :: rest) =
      (scan .triple false rest).map fun found => (' ' :: found.1, found.2) :=
    Source.scan_other (by decide) (by decide) rfl
  show scan .triple false (' ' :: ' ' :: ' ' :: ' ' :: (Quotes.triple.marks ++ after)) = _
  rw [space, space, space, space, Source.scan_marks]
  rfl

/-- **Nothing in a docstring is read as its end**, and nothing of the body as a part of it. -/
theorem scan_docstring (function : FunctionRef) (options : Options) :
    scan .triple false (function.docstring options ++ "    \"\"\"\n" ++ function.bodyText).toList =
      some ((function.docstring options ++ "    ").toList, ("\n" ++ function.bodyText).toList) := by
  have escaped : ∀ line ∈ (function.innerLines options).map String.toList,
      ∃ plain, line = escapeTriples plain := by
    intro line isLine
    obtain ⟨written, isWritten, rfl⟩ := List.mem_map.mp isLine
    exact exists_escaped_of_mem_innerLines isWritten
  have split : (function.docstring options ++ "    \"\"\"\n" ++ function.bodyText).toList =
      unlines ((function.innerLines options).map String.toList) ++
        ("    \"\"\"".toList ++ ("\n" ++ function.bodyText).toList) := by
    have closing : "    \"\"\"\n" = "    \"\"\"" ++ "\n" := rfl
    rw [closing, ← toList_docstring, ← String.toList_append, ← String.toList_append,
      String.append_assoc, String.append_assoc]
  rw [split, Source.scan_escapedLines escaped, scan_closing, Option.map_some, ← toList_docstring,
    ← String.toList_append]

/-- **User text does not end a docstring.** After the quotes that open it, the first quotes in which no
backslash has a part are those on the line before the body. -/
theorem docstring_ends_before_body (function : FunctionRef) (options : Options) :
    function.text options = function.signature ++ "\n    \"\"\"" ++
        (function.docstring options ++ "    \"\"\"\n" ++ function.bodyText) ∧
      scan .triple false (function.docstring options ++ "    \"\"\"\n" ++ function.bodyText).toList =
        some ((function.docstring options ++ "    ").toList, ("\n" ++ function.bodyText).toList) :=
  ⟨function.text_eq options, function.scan_docstring options⟩

/-! ### The first line of a docstring -/

/-- A description on one line is one inner line, and an empty line comes after it. -/
theorem exists_innerLines_eq {function : FunctionRef} {description : String} (options : Options)
    (written : function.description = some description) (visible : isBlank description = false)
    (oneLine : '\n' ∉ description.toList) :
    ∃ later, function.argumentLines ++ function.returnLines = "" :: later ∧
      function.innerLines options = escapeDocstring description :: "" :: later := by
  have nonempty : description.toList ≠ [] := by
    intro empty
    rw [isBlank, empty] at visible
    cases visible
  have same : function.writtenDescription = some description := by
    rw [writtenDescription, nonBlank?, written]
    simp [visible]
  have single : lines (escapeDocstring description) = [escapeDocstring description] := by
    rw [lines, escapeDocstring, String.toList_ofList, Source.splitLines_escapeTriples,
      Text.splitLines_eq_singleton nonempty oneLine]
    rfl
  obtain ⟨later, starts⟩ : ∃ later, function.argumentLines ++ function.returnLines = "" :: later := by
    unfold argumentLines returnLines
    split <;> exact ⟨_, rfl⟩
  refine ⟨later, starts, ?_⟩
  rw [innerLines, same, Option.getD_some, single, starts]
  rfl

/-- The source of a definition from the quotes that open its docstring. -/
def docstringOn (function : FunctionRef) (options : Options) : String :=
  "\"\"\"" ++ (function.docstring options ++ "    \"\"\"\n" ++ function.bodyText)

theorem text_eq_docstringOn (function : FunctionRef) (options : Options) :
    function.text options = function.signature ++ "\n    " ++ function.docstringOn options := by
  have opens : "\n    \"\"\"" = "\n    " ++ "\"\"\"" := rfl
  rw [function.text_eq options, opens, docstringOn]
  simp only [String.append_assoc]

theorem readLiteral_docstringOn (names : CharacterNames) (function : FunctionRef) (options : Options) :
    readLiteral names (function.docstringOn options).toList =
      (decode names (function.docstring options ++ "    ").toList).map fun points =>
        (points, ("\n" ++ function.bodyText).toList) := by
  have marks : "\"\"\"".toList = ['"', '"', '"'] := rfl
  rw [docstringOn, String.toList_append, marks]
  exact Source.readInside_of_scan names (function.scan_docstring options)

/-- A description on one line is the first line that is read, exactly when it is legible and the lines
after it are decoded. -/
theorem firstLine_docstringOn_iff (names : CharacterNames) (function : FunctionRef)
    {description : String} (options : Options) (written : function.description = some description)
    (visible : isBlank description = false) (oneLine : '\n' ∉ description.toList) :
    (∃ points after, readLiteral names (function.docstringOn options).toList = some (points, after) ∧
        firstLine points = description.toList.map Char.toNat) ↔
      isLegible description.toList = true ∧
        ∀ line ∈ function.argumentLines ++ function.returnLines,
          (decode names (line.toList ++ ['\n'])).isSome = true := by
  obtain ⟨later, starts, inner⟩ := exists_innerLines_eq options written visible oneLine
  have spaces : decode names "    ".toList = some ("    ".toList.map Char.toNat) := by
    show decode names [' ', ' ', ' ', ' '] = _
    simp only [decode_cons names (c := ' ') (by decide), decode_nil]
    rfl
  have inside : (function.docstring options ++ "    ").toList =
      unlines (escapeTriples description.toList :: [] :: later.map String.toList) ++ "    ".toList := by
    rw [String.toList_append, toList_docstring, inner, List.map_cons, List.map_cons, escapeDocstring,
      String.toList_ofList]
    rfl
  have whole := firstLine_docstring_iff names oneLine (later.map String.toList) "    ".toList
  rw [spaces, List.forall_mem_map, ← inside] at whole
  have empty : (decode names ("".toList ++ ['\n'])).isSome = true := by
    rw [show "".toList ++ ['\n'] = ['\n'] from rfl, decode_lineEnd]
    rfl
  rw [starts, List.forall_mem_cons, readLiteral_docstringOn]
  simp only [Option.map_eq_some_iff, Prod.mk.injEq]
  constructor
  · rintro ⟨_, _, ⟨points, isRead, rfl, rfl⟩, spelled⟩
    obtain ⟨legible, complete, _⟩ := whole.mp ⟨points, isRead, spelled⟩
    exact ⟨legible, empty, complete⟩
  · rintro ⟨legible, _, complete⟩
    obtain ⟨points, isRead, spelled⟩ := whole.mpr ⟨legible, complete, rfl⟩
    exact ⟨points, _, ⟨points, isRead, rfl, rfl⟩, spelled⟩

/-- **What is written without backslashes is read as it is written.** -/
theorem firstLine_docstringOn (names : CharacterNames) (function : FunctionRef) {description : String}
    (options : Options) (written : function.description = some description)
    (visible : isBlank description = false) (oneLine : '\n' ∉ description.toList)
    (plain : '\\' ∉ description.toList)
    (plainDatasets : ∀ dataset ∈ function.inputs ++ function.outputs,
      ¬ ('\\' ∈ dataset.name.toList ∨ '\\' ∈ dataset.label.toList)) :
    ∃ points after, readLiteral names (function.docstringOn options).toList = some (points, after) ∧
      firstLine points = description.toList.map Char.toNat := by
  rw [firstLine_docstringOn_iff names function options written visible oneLine]
  refine ⟨Source.isLegible_of_notMem plain, fun line isLine => ?_⟩
  obtain ⟨text, same, backslash⟩ : WrittenFor (function.inputs ++ function.outputs) line := by
    rcases List.mem_append.mp isLine with inArguments | inReturns
    · exact (writtenFor_of_mem_argumentLines inArguments).mono (List.subset_append_left _ _)
    · exact (writtenFor_of_mem_returnLines inReturns).mono (List.subset_append_right _ _)
  have noBackslash : '\\' ∉ text := fun inside =>
    let ⟨dataset, isDataset, has⟩ := backslash inside
    plainDatasets dataset isDataset has
  rw [same, Source.decode_legible names (Source.isLegible_of_notMem noBackslash)]
  rfl

/-- **A docstring says what its description says** exactly when each backslash of the description stands
for itself and the lines on the arguments and the results hold no escape that is not complete. -/
theorem docstring_says_description_iff (names : CharacterNames) (function : FunctionRef)
    {description : String} (options : Options) (written : function.description = some description)
    (visible : isBlank description = false)
    (oneLine : ∀ c ∈ description.toList, c ≠ '\n' ∧ c ≠ '\r') :
    function.text options = function.signature ++ "\n    " ++ function.docstringOn options ∧
      ((∃ points after,
          readLiteral names (function.docstringOn options).toList = some (points, after) ∧
            firstLine points = description.toList.map Char.toNat) ↔
        isLegible description.toList = true ∧
          ∀ line ∈ function.argumentLines ++ function.returnLines,
            (decode names (line.toList ++ ['\n'])).isSome = true) := by
  have noFeed : '\n' ∉ description.toList := fun isIn => (oneLine _ isIn).1 rfl
  exact ⟨function.text_eq_docstringOn options,
    firstLine_docstringOn_iff names function options written visible noFeed⟩

/-- Names of characters with one name in them. -/
def bulletName : CharacterNames where
  find name := if name = "BULLET".toList then some 0x2022 else none
  oneLine name feed := by
    split
    · rename_i same
      rw [same] at feed
      exact absurd feed (by decide)
    · rfl

/-- A function whose description holds quotes and a regular expression, with an escape in a label. -/
def matchRows : FunctionRef where
  id := "f"
  label := "Match rows"
  identifier := "match_rows"
  description := some "Drops \"\"\"\\d\"\"\"."
  inputs :=
    [{ id := "d", name := "rows", label := "\\N\x7bBULLET\x7d rows", storageType := "CSVDataset"
       location := "rows.csv" }]

theorem docstring_says_description_of_matchRows :
    ∃ points after, readLiteral bulletName (matchRows.docstringOn {}).toList = some (points, after) ∧
      firstLine points = "Drops \"\"\"\\d\"\"\".".toList.map Char.toNat :=
  (docstring_says_description_iff bulletName matchRows {} rfl (by decide) (by simp)).2.mpr
    ⟨by decide, by decide +kernel⟩

/-- A function whose description holds a path with backslashes. -/
def readUsers : FunctionRef where
  id := "f"
  label := "Read users"
  identifier := "read_users"
  description := some "Reads C:\\users\\new"
  body := some "return None"

/-- **A path with backslashes is not said**, whatever the names of characters: its escapes are not
complete. -/
theorem docstring_of_windowsPath :
    readUsers.text {} = readUsers.signature ++ "\n    " ++ readUsers.docstringOn {} ∧
      ¬ ∃ names points after,
        readLiteral names (readUsers.docstringOn {}).toList = some (points, after) ∧
          firstLine points = "Reads C:\\users\\new".toList.map Char.toNat := by
  refine ⟨readUsers.text_eq_docstringOn {}, ?_⟩
  rintro ⟨names, spelled⟩
  obtain ⟨legible, _⟩ :=
    (firstLine_docstringOn_iff names readUsers {} rfl (by decide) (by decide)).mp spelled
  exact absurd legible (by decide)

end PipelineGraph.FunctionRef
