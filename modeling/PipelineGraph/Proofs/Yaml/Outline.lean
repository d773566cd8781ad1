/-
**Block mappings of texts are read from their tokens.**

An outline is a text or a block mapping of outlines, and each plain text in it reads as a text. Its
tokens are parsed to its tree (`readOptional_tokens`), the tree has no anchor and is linked to its
occurrence (`link_tree`), and the occurrence is read as its content (`contentWithin_occurrence`). The
three go through the outline in the same way, entry by entry.

* `readWith_content` — a text whose tokens are those of an outline is read as the outline's content.
-/

import PipelineGraph.Yaml.Record
import PipelineGraph.Yaml.ScalarText

namespace PipelineGraph.Yaml

open Shape (Content)

/-- **A text or a block mapping.** -/
inductive Outline
  | text (text : String) (plain : Bool) (reads : plain = true → readsAsText text = true)
  | mapping (entries : List (Outline × Outline))

mutual

/-- The tokens of an outline. -/
def Outline.tokens : Outline → List Token
  | .text text plain _ => [.scalar text plain]
  | .mapping entries => .blockMappingStart :: (entryTokens entries ++ [.blockEnd])

/-- The tokens of the entries of a block mapping. -/
def entryTokens : List (Outline × Outline) → List Token
  | [] => []
  | (key, value) :: rest => .key :: (key.tokens ++ .value :: (value.tokens ++ entryTokens rest))

end

mutual

/-- The tree of an outline. -/
def Outline.tree : Outline → Tree
  | .text text plain _ => .scalar {} plain text
  | .mapping entries => .mapping {} (entryTrees entries)

/-- The trees of the entries of a block mapping. -/
def entryTrees : List (Outline × Outline) → List (Tree × Tree)
  | [] => []
  | (key, value) :: rest => (key.tree, value.tree) :: entryTrees rest

end

mutual

/-- The occurrence of an outline. -/
def Outline.occurrence : Outline → Occurrence
  | .text text plain _ => .value none (.scalar ⟨none, plain, text⟩)
  | .mapping entries => .value none (.mapping none (entryOccurrences entries))

/-- The occurrences of the entries of a block mapping. -/
def entryOccurrences : List (Outline × Outline) → List (Occurrence × Occurrence)
  | [] => []
  | (key, value) :: rest => (key.occurrence, value.occurrence) :: entryOccurrences rest

end

mutual

/-- What an outline says. -/
def Outline.content : Outline → Content
  | .text text _ _ => .text text
  | .mapping entries => .map (entryContents entries)

/-- What the entries of a block mapping say. -/
def entryContents : List (Outline × Outline) → List (Content × Content)
  | [] => []
  | (key, value) :: rest => (key.content, value.content) :: entryContents rest

end

mutual

/-- The number of block mappings around the innermost text. -/
def Outline.height : Outline → Nat
  | .text _ _ _ => 0
  | .mapping entries => entriesHeight entries + 1

/-- The number of block mappings around the innermost text of the entries. -/
def entriesHeight : List (Outline × Outline) → Nat
  | [] => 0
  | (key, value) :: rest => max (max key.height value.height) (entriesHeight rest)

end

/-! ### From tokens to trees -/

theorem startsWith_tokens (outline : Outline) (rest : List Token) :
    startsWith (outline.tokens ++ rest) blockStops = false := by
  cases outline with
  | text text plain _ => rfl
  | mapping entries => rfl

section

variable (handles : Handles)

mutual

/-- **The tokens of an outline are parsed to its tree**, whatever follows. -/
theorem readOptional_tokens : ∀ (outline : Outline) (fuel : Nat) (rest : List Token),
    2 * outline.tokens.length ≤ fuel →
    readOptional handles fuel true true blockStops (outline.tokens ++ rest) = some (outline.tree, rest)
  | .text text plain _, fuel, rest, enough => by
    obtain ⟨fuel, rfl⟩ := Nat.exists_eq_add_of_le' (show 2 ≤ fuel from enough)
    rw [readOptional, startsWith_tokens]
    rfl
  | .mapping entries, fuel, rest, enough => by
    have counted : (Outline.mapping entries).tokens.length = (entryTokens entries).length + 2 := by
      simp [Outline.tokens]
    obtain ⟨fuel, rfl⟩ := Nat.exists_eq_add_of_le' (show 2 ≤ fuel by omega)
    have inside := readBlockEntries_tokens entries fuel rest (by omega)
    have written : (Outline.mapping entries).tokens ++ rest =
        .blockMappingStart :: (entryTokens entries ++ .blockEnd :: rest) := by
      simp [Outline.tokens]
    rw [readOptional, startsWith_tokens, written]
    show (readBlockEntries handles fuel _).bind _ = _
    rw [inside]
    rfl

/-- The tokens of entries are parsed to their trees, up to the end of their block. -/
theorem readBlockEntries_tokens : ∀ (entries : List (Outline × Outline)) (fuel : Nat)
    (rest : List Token), 2 * (entryTokens entries).length < fuel →
    readBlockEntries handles fuel (entryTokens entries ++ .blockEnd :: rest) =
      some (entryTrees entries, rest)
  | [], fuel + 1, rest, _ => rfl
  | (key, value) :: others, fuel + 1, rest, enough => by
    have counted : (entryTokens ((key, value) :: others)).length =
        key.tokens.length + value.tokens.length + (entryTokens others).length + 2 := by
      simp [entryTokens]
      omega
    obtain ⟨fuel, rfl⟩ := Nat.exists_eq_add_of_le' (show 1 ≤ fuel by omega)
    have isKey := readOptional_tokens key (fuel + 1)
      (.value :: (value.tokens ++ (entryTokens others ++ .blockEnd :: rest))) (by omega)
    have isValue := readOptional_tokens value fuel (entryTokens others ++ .blockEnd :: rest) (by omega)
    have areOthers := readBlockEntries_tokens others (fuel + 1) rest (by omega)
    have written : entryTokens ((key, value) :: others) ++ .blockEnd :: rest =
        .key :: (key.tokens ++
          .value :: (value.tokens ++ (entryTokens others ++ .blockEnd :: rest))) := by
      simp [entryTokens]
    rw [written, readBlockEntries]
    show (readOptional _ _ _ _ _ _).bind _ = _
    rw [isKey]
    show (readEntryValue _ _ _ _ _).bind _ = _
    rw [readEntryValue]
    show (readOptional _ _ _ _ _ _).bind _ = _
    rw [isValue]
    show (readBlockEntries _ _ _).bind _ = _
    rw [areOthers]
    rfl

end

end

/-- The tokens of a block mapping that is not empty are a document. -/
theorem ofTokens_mapping (entries : List (Outline × Outline)) :
    Tree.ofTokens (Outline.mapping entries).tokens =
      some (some (Outline.mapping entries).tree) := by
  have inside := readBlockEntries_tokens standardHandles entries
    (6 * (Outline.mapping entries).tokens.length + 5) [] (by
      simp only [Outline.tokens, List.length_cons, List.length_append]
      omega)
  have isRead : readDocument (6 * (Outline.mapping entries).tokens.length + 6)
      (Outline.mapping entries).tokens = some ((Outline.mapping entries).tree, []) := by
    show (readBlockEntries standardHandles _ _).bind _ = _
    rw [inside]
    rfl
  show (readDocument _ _).bind _ = _
  rw [isRead]
  rfl

/-! ### From trees to occurrences -/

mutual

/-- **The tree of an outline is linked to its occurrence**, and no anchor is numbered. -/
theorem link_tree : ∀ (outline : Outline) (names : Names),
    outline.tree.link.run names = some (outline.occurrence, names)
  | .text text plain _, names => rfl
  | .mapping entries, names => by
    show ((linkEntries (entryTrees entries)).run names).bind _ = _
    rw [linkEntries_trees entries names]
    rfl

/-- The trees of entries are linked to their occurrences. -/
theorem linkEntries_trees : ∀ (entries : List (Outline × Outline)) (names : Names),
    (linkEntries (entryTrees entries)).run names = some (entryOccurrences entries, names)
  | [], names => rfl
  | (key, value) :: others, names => by
    show (key.tree.link.run names).bind _ = _
    rw [link_tree key names]
    show (value.tree.link.run names).bind _ = _
    rw [link_tree value names]
    show ((linkEntries (entryTrees others)).run names).bind _ = _
    rw [linkEntries_trees others names]
    rfl

end

/-! ### From occurrences to content -/

/-- A plain text that reads as a text means that text. -/
theorem plainFound_of_readsAsText {text : String} (reads : readsAsText text = true) :
    Scalar.plainFound text = .text text := by
  rw [readsAsText] at reads
  rw [Scalar.plainFound]
  cases meaning : Meaning.ofPlain text with
  | text => rfl
  | nothing => simp [meaning] at reads
  | bool value => simp [meaning] at reads
  | integer value => simp [meaning] at reads
  | float value => simp [meaning] at reads

theorem found_text {text : String} {plain : Bool} (reads : plain = true → readsAsText text = true) :
    Scalar.found ⟨none, plain, text⟩ = .ok (.text text) := by
  cases plain with
  | false => rfl
  | true =>
    show Except.ok (Scalar.plainFound text) = _
    rw [plainFound_of_readsAsText (reads rfl)]

/-- A reader that succeeds goes on with what it has read. -/
theorem run_bind_ok {α β : Type} {first : Decoder α} {next : α → Decoder β} {value : α}
    {before after : Nat} (isRead : first.run before = .ok (value, after)) :
    (first >>= next).run before = (next value).run after := by
  rw [StateT.run_bind, isRead]
  rfl

section

variable (document : Document) (left : Nat)

/-- A text is read as it is, at any depth. -/
theorem contentWithin_text {text : String} {plain : Bool}
    (reads : plain = true → readsAsText text = true) (depth : Nat) (place : Place) :
    (Site.contentWithin depth ⟨document, depth, place, .value none (.scalar ⟨none, plain, text⟩)⟩).run
      left = .ok (.text text, left) := by
  have found := found_text reads
  cases depth with
  | zero =>
    simp only [Site.contentWithin, Site.contentWith, Site.value, pure_bind, found]
    rfl
  | succ depth =>
    simp only [Site.contentWithin, Site.contentWith, Site.value, pure_bind, found]
    rfl

/-- Reads the key and the value of an entry. -/
def entryWithin (depth : Nat) (entry : Site × Site) : Decoder (Content × Content) := do
  return (← Site.contentWithin depth entry.1, ← Site.contentWithin depth entry.2)

mutual

/-- **The occurrence of an outline is read as what the outline says**, if it is not too deep. -/
theorem contentWithin_occurrence : ∀ (outline : Outline) (depth : Nat) (place : Place),
    outline.height ≤ depth →
    (Site.contentWithin depth ⟨document, depth, place, outline.occurrence⟩).run left =
      .ok (outline.content, left)
  | .text text plain reads, depth, place, _ => contentWithin_text document left reads depth place
  | .mapping entries, 0, place, shallow => absurd shallow (Nat.not_succ_le_zero _)
  | .mapping entries, depth + 1, place, shallow => by
    have inside := mapM_entryOccurrences entries depth
      ⟨document, depth, place, (Outline.mapping entries).occurrence⟩ rfl rfl
      (Nat.le_of_succ_le_succ shallow)
    show ((Site.entries ⟨document, depth, place, _⟩ (entryOccurrences entries)).mapM
      (entryWithin depth) >>= fun entries => return Content.map entries : Decoder Content).run left = _
    exact run_bind_ok inside

/-- The occurrences of entries are read one after the other. -/
theorem mapM_entryOccurrences : ∀ (entries : List (Outline × Outline)) (depth : Nat) (site : Site),
    site.document = document → site.depth = depth → entriesHeight entries ≤ depth →
    ((site.entries (entryOccurrences entries)).mapM (entryWithin depth)).run left =
      .ok (entryContents entries, left)
  | [], depth, site, _, _, _ => rfl
  | (key, value) :: others, depth, ⟨_, _, place, occurrence⟩, rfl, rfl, shallow => by
    obtain ⟨⟨shallowKey, shallowValue⟩, shallowOthers⟩ :
        (key.height ≤ depth ∧ value.height ≤ depth) ∧ entriesHeight others ≤ depth := by
      simpa only [entriesHeight, Nat.max_le] using shallow
    have isKey := contentWithin_occurrence key depth place shallowKey
    have isValue := contentWithin_occurrence value depth
      (Site.placeUnder ⟨document, depth, place, occurrence⟩ key.occurrence) shallowValue
    have areOthers := mapM_entryOccurrences others depth ⟨document, depth, place, occurrence⟩ rfl rfl
      shallowOthers
    have isEntry : (entryWithin depth (⟨document, depth, place, key.occurrence⟩, ⟨document, depth,
        Site.placeUnder ⟨document, depth, place, occurrence⟩ key.occurrence,
        value.occurrence⟩)).run left = .ok ((key.content, value.content), left) := by
      exact (run_bind_ok isKey).trans (run_bind_ok isValue)
    show (((_, _) :: Site.entries _ (entryOccurrences others)).mapM (entryWithin depth)).run left = _
    rw [List.mapM_cons]
    exact (run_bind_ok isEntry).trans (run_bind_ok areOthers)

end

end

/-- **A text whose tokens are those of a block mapping is read as what the mapping says.** -/
theorem readWith_content {text : String} {entries : List (Outline × Outline)}
    (scanned : scan text.toList = some (Outline.mapping entries).tokens)
    (shallow : (Outline.mapping entries).height ≤ maxDepth) :
    readWith Site.content text = .ok (Outline.mapping entries).content := by
  have isTree : Tree.ofText text = some (some (Outline.mapping entries).tree) := by
    rw [Tree.ofText, scanned]
    exact ofTokens_mapping entries
  have isDocument : Document.ofText text = some ⟨(Outline.mapping entries).occurrence,
      (Outline.mapping entries).occurrence.anchored.reverse⟩ := by
    rw [Document.ofText, isTree]
    show ((Outline.mapping entries).tree.link.run []).bind _ = _
    rw [link_tree]
    rfl
  have isRead := contentWithin_occurrence ⟨(Outline.mapping entries).occurrence,
    (Outline.mapping entries).occurrence.anchored.reverse⟩
    (aliasesPerEvent * (Outline.mapping entries).occurrence.events) _ maxDepth .root shallow
  rw [readWith, isDocument]
  exact congrArg (Prod.fst <$> ·) isRead

end PipelineGraph.Yaml
