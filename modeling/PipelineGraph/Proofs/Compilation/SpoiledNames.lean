/-
**Which good labels get bad names.**

A label that is an identifier has no white space, so its name is the lower case of its characters. The
lower case of a letter is a letter, but for `İ`: it becomes an `i` with a combining dot, and the dot is
neither a letter nor a numeral, so the check takes no name with it, though identifiers with combining
marks are legal in the modules that are written. `good_names_spoiled_iff` says that this is the only way
in which naming spoils a label that is an identifier, and so which of the datasets with such labels are
reported for their names; `good_names_spoiled_dotted` is one of them.
-/

import PipelineGraph.Proofs.Compilation.SourceNames
import PipelineGraph.Proofs.Text.Canonical

namespace PipelineGraph

namespace Text

/-! ### The characters of an identifier -/

theorem isWhite_of_continuesIdentifier {c : Char} (continues : continuesIdentifier c = true) :
    isWhite c = false := by
  rcases Bool.or_eq_true_iff.mp continues with underscore | alphanumeric
  · rw [eq_of_beq underscore]
    exact isSettled_underscore.1
  · exact isWhite_of_isAlphanumeric alphanumeric

/-- **An identifier is named by its lower case.** -/
theorem canonicalChars_of_identifier {text : List Char} (identifier : isIdentifierChars text = true) :
    canonicalChars false text = text.flatMap lowerChar := by
  cases text with
  | nil => rfl
  | cons first rest =>
    have continues := continuesIdentifier_of_mem identifier
    have stretch := canonicalChars_other [] (fun c inside =>
      isWhite_of_continuesIdentifier (continues c inside)) (List.cons_ne_nil first rest) false
    rwa [List.append_nil, canonicalChars, List.append_nil] at stretch

/-! ### Their lower case -/

theorem startsIdentifier_lowerChar {c : Char} (plain : c ≠ 'İ') (starts : startsIdentifier c = true) :
    ∃ d, lowerChar c = [d] ∧ startsIdentifier d = true := by
  rcases lowerChar_cases plain with same | ⟨letter, lower, isLetter⟩
  · exact ⟨c, same, starts⟩
  · exact ⟨letter, lower, Bool.or_eq_true_iff.mpr (.inr isLetter)⟩

theorem continuesIdentifier_lowerChar {c : Char} (plain : c ≠ 'İ')
    (continues : continuesIdentifier c = true) :
    ∀ d ∈ lowerChar c, continuesIdentifier d = true := by
  rcases lowerChar_cases plain with same | ⟨letter, lower, isLetter⟩
  · rw [same]
    exact List.forall_mem_singleton.mpr continues
  · rw [lower]
    exact List.forall_mem_singleton.mpr
      (continuesIdentifier_of_starts (Bool.or_eq_true_iff.mpr (.inr isLetter)))

/-- Without an `İ`, the lower case of an identifier is an identifier. -/
theorem isIdentifierChars_lower {text : List Char} (identifier : isIdentifierChars text = true)
    (plain : 'İ' ∉ text) : isIdentifierChars (text.flatMap lowerChar) = true := by
  cases text with
  | nil => exact identifier
  | cons first rest =>
    obtain ⟨starts, continues⟩ := Bool.and_eq_true_iff.mp identifier
    obtain ⟨plainFirst, plainRest⟩ := not_or.mp (mt List.mem_cons.mpr plain)
    obtain ⟨lower, same, startsLower⟩ := startsIdentifier_lowerChar (Ne.symm plainFirst) starts
    rw [List.flatMap_cons, same, List.singleton_append, isIdentifierChars, startsLower, Bool.true_and,
      List.all_eq_true]
    intro d inside
    obtain ⟨c, isRest, image⟩ := List.mem_flatMap.mp inside
    have notDotted : c ≠ 'İ' := fun dotted => plainRest (dotted ▸ isRest)
    exact continuesIdentifier_lowerChar notDotted (List.all_eq_true.mp continues c isRest) d image

/-- The combining dot stands in no identifier. -/
theorem continuesIdentifier_dot : continuesIdentifier '\u0307' = false := by decide +kernel

/-- **With an `İ`, the lower case of a text is no identifier.** -/
theorem isIdentifierChars_lower_dotted {text : List Char} (dotted : 'İ' ∈ text) :
    isIdentifierChars (text.flatMap lowerChar) = false := by
  have dot : '\u0307' ∈ text.flatMap lowerChar :=
    List.mem_flatMap.mpr ⟨'İ', dotted, mem_lowerChar_dotted_iff.mpr (.inr rfl)⟩
  refine Bool.eq_false_iff.mpr fun identifier => ?_
  have continues := continuesIdentifier_of_mem identifier _ dot
  exact Bool.false_ne_true (continuesIdentifier_dot.symm.trans continues)

end Text

/-! ### Labels -/

/-- **The name of an identifier is one just if it has no `İ`.** -/
theorem isIdentifier_canonical_iff {label : String} (good : isIdentifier label = true) :
    isIdentifier (canonical label) = false ↔ 'İ' ∈ label.toList := by
  rw [isIdentifier, canonical, String.toList_ofList, Text.canonicalChars_of_identifier good]
  constructor
  · intro bad
    by_contra plain
    exact Bool.false_ne_true (bad.symm.trans (Text.isIdentifierChars_lower good plain))
  · exact Text.isIdentifierChars_lower_dotted

/-! ### Datasets -/

namespace Graph

variable {graph : Graph}

/-- A dataset of the wiring is named by its label. -/
theorem name_of_mem_datasets {dataset : DatasetRef} (inside : dataset ∈ graph.wiring.datasets) :
    dataset.name = canonical dataset.label := by
  obtain ⟨node, _, payload, _, rfl⟩ := exists_standsFor_of_mem_datasets inside
  rfl

/-- **A report on a bad name at a dataset is the report on this dataset.** -/
theorem reported_at_dataset_iff {options : Options} {dataset : DatasetRef}
    (inside : dataset ∈ graph.wiring.datasets) :
    (∃ diagnostic ∈ graph.diagnostics options, diagnostic.code = .invalidIdentifier ∧
        diagnostic.nodeId = some dataset.id) ↔
      dataset ∈ firsts DatasetRef.name graph.wiring.datasets ∧ isIdentifier dataset.name = false := by
  obtain ⟨datasets, _, apart⟩ := List.nodup_append.mp graph.ids_nodup
  constructor
  · rintro ⟨diagnostic, isDiagnostic, code, atNode⟩
    cases mem_diagnostics_invalid_iff.mp ⟨isDiagnostic, code⟩ with
    | @dataset other kept bad =>
      have same : other = dataset := List.inj_on_of_nodup_map datasets
        (mem_of_mem_firsts _ kept) inside (Option.some.inj atNode)
      exact same ▸ ⟨kept, bad⟩
    | @function function isFunction bad =>
      have same : function.id = dataset.id := Option.some.inj atNode
      exact absurd same.symm (apart _ (List.mem_map_of_mem inside) _ (List.mem_map_of_mem isFunction))
  · rintro ⟨kept, bad⟩
    obtain ⟨isDiagnostic, code⟩ := mem_diagnostics_invalid_iff.mpr (.dataset kept bad)
    exact ⟨_, isDiagnostic, code, rfl⟩

/-- **Naming spoils a label that is an identifier only by an `İ` in it.** Of the datasets whose labels
are identifiers, the first with each name is reported for its name just if there is an `İ` in its label,
and no other is reported for its name. -/
theorem good_names_spoiled_iff (graph : Graph) (options : Options) :
    (∀ label : String, isIdentifier label = true →
        (isIdentifier (canonical label) = false ↔ 'İ' ∈ label.toList)) ∧
      ∀ dataset ∈ graph.wiring.datasets, isIdentifier dataset.label = true →
        ((∃ diagnostic ∈ (graph.compile options).diagnostics,
            diagnostic.code = .invalidIdentifier ∧ diagnostic.nodeId = some dataset.id) ↔
          dataset ∈ firstOccurrences DatasetRef.name graph.wiring.datasets ∧
            'İ' ∈ dataset.label.toList) := by
  refine ⟨fun label => isIdentifier_canonical_iff, fun dataset inside good => ?_⟩
  rw [← firsts_eq_firstOccurrences, ← isIdentifier_canonical_iff good, ← name_of_mem_datasets inside]
  exact reported_at_dataset_iff inside

/-- Two datasets whose labels are identifiers. -/
def places : Graph :=
  { nodes :=
      [{ id := "d1", label := "Orléans", payload := .dataset {} },
       { id := "d2", label := "İstanbul", payload := .dataset {} }] }

theorem datasets_places : places.wiring.datasets =
    [{ id := "d1", name := canonical "Orléans", label := "Orléans", storageType := "", location := "" },
     { id := "d2", name := canonical "İstanbul", label := "İstanbul", storageType := ""
       location := "" }] := rfl

/-- One of the two labels is spoiled, and its dataset is reported; the other is not. -/
theorem good_names_spoiled_places :
    (∀ dataset ∈ places.wiring.datasets, isIdentifier dataset.label = true) ∧
      isIdentifier (canonical "Orléans") ≠ false ∧ isIdentifier (canonical "İstanbul") = false ∧
      (¬ ∃ diagnostic ∈ (places.compile {}).diagnostics,
        diagnostic.code = .invalidIdentifier ∧ diagnostic.nodeId = some "d1") ∧
      ∃ diagnostic ∈ (places.compile {}).diagnostics,
        diagnostic.code = .invalidIdentifier ∧ diagnostic.nodeId = some "d2" := by
  obtain ⟨labels, reports⟩ := good_names_spoiled_iff places {}
  have plain : isIdentifier "Orléans" = true := by decide +kernel
  have dotted : isIdentifier "İstanbul" = true := by decide +kernel
  have atPlain := reports _ (datasets_places ▸ List.mem_cons_self) plain
  have atDotted := reports _ (datasets_places ▸ List.mem_cons_of_mem _ List.mem_cons_self) dotted
  have undotted : 'İ' ∉ "Orléans".toList := by decide +kernel
  have isDotted : 'İ' ∈ "İstanbul".toList := by decide +kernel
  refine ⟨?_, mt (labels _ plain).mp undotted, (labels _ dotted).mpr isDotted,
    mt atPlain.mp fun both => undotted both.2, atDotted.mpr ⟨?_, isDotted⟩⟩
  · rw [datasets_places]
    exact List.forall_mem_cons.mpr ⟨plain, List.forall_mem_singleton.mpr dotted⟩
  · rw [datasets_places]
    decide +kernel

/-- **A label that is an identifier gets a name that is none**, and its dataset is reported. -/
theorem good_names_spoiled_dotted :
    isIdentifier "İstanbul" = true ∧ isIdentifier (canonical "İstanbul") = false ∧
      ∃ diagnostic ∈ (places.compile {}).diagnostics,
        diagnostic.code = .invalidIdentifier ∧ diagnostic.nodeId = some "d2" := by
  decide +kernel

end Graph

end PipelineGraph
