/-
**Which JSON texts are read as a graph.**

`Graph.ofJson_accepts_documented` — a text that spells an object is read as a graph exactly when the
members of the object are of the documented shape, and then as the graph that they describe. How the
text spells them, in what order they stand and which others stand between them makes no difference.

The text may have members of any shape where the format has none, and arrays in place of objects are
left aside: what the nodes and edges are made of are objects (`Graph.Framed`).
-/

import PipelineGraph.Proofs.Graph.Reading
import PipelineGraph.Proofs.Graph.Rearrangement
import PipelineGraph.Proofs.Json.Writing

namespace PipelineGraph

open Shape Json

/-- **A text is read as a graph exactly when its members are of the documented shape**, and as the graph
that they describe; texts with members that are alike are read as the same graph. -/
theorem Graph.ofJson_accepts_documented {members : Members} {text : String}
    (spelled : (Value.object members).SpelledBy text)
    (shallow : (Value.object members).depth ≤ maxDepth) (framed : Graph.Framed members) :
    ((∃ graph, Graph.ofJson text = .ok graph) ↔ Graph.Documented members) ∧
      (∀ graph, Graph.ofJson text = .ok graph ↔ graph.DescribedBy members) ∧
      ∀ {members' : Members} {text' : String}, (Value.object members').SpelledBy text' →
        (Value.object members').depth ≤ maxDepth → Graph.Framed members' →
        RearrangedBy Alike members members' →
        ∀ graph, Graph.ofJson text' = .ok graph ↔ Graph.ofJson text = .ok graph := by
  have reads := Graph.ofJson_iff spelled shallow framed
  refine ⟨?_, reads, ?_⟩
  · rw [← Graph.exists_describedBy_iff]
    exact exists_congr reads
  · intro members' text' spelled' shallow' framed' rearranged graph
    rw [reads graph, Graph.ofJson_iff spelled' shallow' framed' graph]
    exact (Graph.describedBy_iff_of_rearranged rearranged graph).symm

/-- The members of a dataset node with its type at the end and a note that is not known. -/
def Graph.notedNode : Members :=
  [("data", .object [("type", .string "csv"), ("label", .string "Raw")]),
    ("note", .array [.bool true]), ("id", .string "raw"),
    ("position", .object [("y", .number (.float 2.5)), ("x", .number (.float 1.5))]),
    ("type", .string "dataset")]

/-- The members of a graph with the edges first and a version that is not known. -/
def Graph.notedGraph : Members :=
  [("edges", .array []), ("version", .null), ("nodes", .array [.object notedNode])]

/-- The same members without the version, the nodes first. -/
def Graph.plainGraph : Members := [("nodes", .array [.object notedNode]), ("edges", .array [])]

theorem Graph.ofJson_accepts_noted :
    Graph.ofJson (Value.object notedGraph).text =
        .ok ⟨[⟨"raw", "Raw", ⟨1.5, 2.5⟩, .dataset ⟨"csv", "", none⟩⟩], []⟩ ∧
      Graph.ofJson (Value.object plainGraph).text =
        .ok ⟨[⟨"raw", "Raw", ⟨1.5, 2.5⟩, .dataset ⟨"csv", "", none⟩⟩], []⟩ := by
  have x : ReadsBack 1.5 := by decide +kernel
  have y : ReadsBack 2.5 := by decide +kernel
  have node : (Value.object notedNode).IsWritten :=
    ⟨⟨trivial, trivial, trivial⟩, ⟨trivial, trivial⟩, trivial,
      ⟨y.isWritten, x.isWritten, trivial⟩, trivial, trivial⟩
  have noted : (Value.object notedGraph).IsWritten := ⟨trivial, trivial, ⟨node, trivial⟩, trivial⟩
  have plain : (Value.object plainGraph).IsWritten := ⟨⟨node, trivial⟩, trivial, trivial⟩
  have framedNode : Node.Framed notedNode :=
    ⟨fun _ inside => ⟨_, List.mem_singleton.mp inside⟩, fun _ inside => ⟨_, List.mem_singleton.mp inside⟩⟩
  have framed : ∀ members, named "nodes" members = [.array [.object notedNode]] →
      named "edges" members = [.array []] → Graph.Framed members := by
    intro members nodes edges
    constructor
    · intro items inside item isItem
      rw [nodes, List.mem_singleton] at inside
      cases inside
      exact ⟨_, List.mem_singleton.mp isItem, framedNode⟩
    · intro items inside item isItem
      rw [edges, List.mem_singleton] at inside
      cases inside
      cases isItem
  have rearranged : RearrangedBy Alike notedGraph plainGraph :=
    .trans (.member "edges" (.same _) (.less (by decide) .null _)) (.swap _ _ [])
  have accepts := Graph.ofJson_accepts_documented noted.spelledBy (by decide) (framed _ rfl rfl)
  have described : Graph.DescribedBy ⟨[⟨"raw", "Raw", ⟨1.5, 2.5⟩, .dataset ⟨"csv", "", none⟩⟩], []⟩
      notedGraph :=
    ⟨.value (.array (.cons (.object ⟨.value (.kind .dataset), .value (.text "raw"),
        .value (.object ⟨.value (.number (.float 1.5)), .value (.number (.float 2.5))⟩),
        .value (.object ⟨.value (.text "Raw"), .value (.text "csv"), .default rfl, .default rfl⟩)⟩) .nil)),
      .value (.array .nil)⟩
  have read := (accepts.2.1 _).mpr described
  exact ⟨read, (accepts.2.2 plain.spelledBy (by decide) (framed _ rfl rfl) rearranged _).mpr read⟩

end PipelineGraph
