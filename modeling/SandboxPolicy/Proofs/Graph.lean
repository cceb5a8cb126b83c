import SandboxPolicy.Proofs.BuilderSteps
import SandboxPolicy.Proofs.Checking

/-!
The nodes of a builder as a graph. Each node tests a filter of the catalogue and leads to earlier
nodes, or it is a verdict.
-/

namespace SandboxPolicy.Builder

variable {builder before middle after : Builder}

def HasArgument (builder : Builder) (place : UInt16) : Argument → Prop
  | .regex value => builder.HasText .regex place value
  | .entitlement value => builder.HasText .entitlement place value
  | .path value | .name value | .keyword value | .address value =>
      builder.HasBlob place (utf8Bytes value)

def IsTest (builder : Builder) (node : Node) (name : String) (argument : Argument)
    (onMatch onUnmatch : UInt16) : Prop :=
  ∃ known place, Catalogue.byName? name = some known ∧ argument.Suits known.kind ∧
    builder.HasArgument place argument ∧ node = .test known.id place onMatch onUnmatch

/-- The node is a verdict, or a test that leads to nodes before the index. -/
inductive Leads (builder : Builder) (index : Nat) (node : Node) : Prop where
  | verdict (verdict : Verdict) : node = .terminal verdict → Leads builder index node
  | test {name : String} {argument : Argument} {onMatch onUnmatch : UInt16} :
      builder.IsTest node name argument onMatch onUnmatch → onMatch.toNat < index →
      onUnmatch.toNat < index → Leads builder index node

/-- All nodes lead on, all regular expressions compile, and all operations enter at nodes. -/
structure Graph (builder : Builder) : Prop where
  sound : builder.Sound
  leads : ∀ index node, builder.nodeList[index]? = some node → builder.Leads index node
  regexes : ∀ source ∈ builder.textList .regex, ∃ pattern, Regex.compile source = .ok pattern
  entries : ∀ record ∈ builder.profiles.toList, ∀ entry ∈ record.operations,
    entry.toNat < builder.nodeList.length

structure Extends (before after : Builder) : Prop where
  graph : after.Graph
  grows : before.Grows after
  profiles_eq : after.profiles = before.profiles

theorem Graph.extends (graph : builder.Graph) : builder.Extends builder :=
  ⟨graph, .refl builder, rfl⟩

theorem Extends.trans (first : before.Extends middle) (second : middle.Extends after) :
    before.Extends after :=
  ⟨second.graph, first.grows.trans second.grows, second.profiles_eq.trans first.profiles_eq⟩

theorem Grows.index_lt (grown : before.Grows after) {index : Nat}
    (bound : index < before.nodeList.length) : index < after.nodeList.length :=
  Nat.lt_of_lt_of_le bound grown.nodes.length_le

theorem HasArgument.grow {place : UInt16} {argument : Argument}
    (held : before.HasArgument place argument) (grown : before.Grows after) :
    after.HasArgument place argument := by
  cases argument with
  | regex value => exact HasText.grow held grown
  | entitlement value => exact HasText.grow held grown
  | path value => exact HasBlob.grow held grown
  | name value => exact HasBlob.grow held grown
  | keyword value => exact HasBlob.grow held grown
  | address value => exact HasBlob.grow held grown

theorem IsTest.grow {node : Node} {name : String} {argument : Argument}
    {onMatch onUnmatch : UInt16} (tests : before.IsTest node name argument onMatch onUnmatch)
    (grown : before.Grows after) : after.IsTest node name argument onMatch onUnmatch := by
  obtain ⟨known, place, found, suits, held, same⟩ := tests
  exact ⟨known, place, found, suits, held.grow grown, same⟩

theorem Leads.grow {index : Nat} {node : Node} (leads : before.Leads index node)
    (grown : before.Grows after) : after.Leads index node := by
  cases leads with
  | verdict verdict same => exact .verdict verdict same
  | test tests matchBound unmatchBound => exact .test (tests.grow grown) matchBound unmatchBound

theorem Graph.advance (graph : before.Graph) (advanced : before.Advances after)
    (leads : ∀ index node, after.nodeList[index]? = some node →
      before.nodeList[index]? = some node ∨ after.Leads index node)
    (regexes : ∀ source ∈ after.textList .regex, source ∈ before.textList .regex ∨
      ∃ pattern, Regex.compile source = .ok pattern) : before.Extends after where
  graph := by
    refine ⟨advanced.sound, ?_, ?_, ?_⟩
    · intro index node found
      rcases leads index node found with old | new
      · exact (graph.leads index node old).grow advanced.grows
      · exact new
    · intro source member
      rcases regexes source member with old | new
      · exact graph.regexes source old
      · exact new
    · rw [advanced.profiles_eq]
      exact fun record member entry entered =>
        advanced.grows.index_lt (graph.entries record member entry entered)
  grows := advanced.grows
  profiles_eq := advanced.profiles_eq

theorem Graph.node (graph : builder.Graph) {node : Node} {index : UInt16}
    (leads : builder.Leads builder.nodeList.length node)
    (added : Builder.node node builder = .ok index after) :
    builder.Extends after ∧ after.HasNode index node := by
  obtain ⟨advanced, held⟩ := graph.sound.node added
  refine ⟨?_, held⟩
  rcases node_eq_ok.mp added with ⟨_, _, _, rfl⟩ | ⟨_, _, _, rfl⟩
  · exact graph.extends
  · refine graph.advance advanced ?_ fun source member => .inl member
    intro place node' found
    rw [withNode_nodeList] at found
    by_cases old : place < builder.nodeList.length
    · rw [List.getElem?_append_left old] at found
      exact .inl found
    · rw [List.getElem?_append_right (by omega), List.getElem?_singleton] at found
      split at found
      next last =>
        obtain rfl := Option.some.inj found
        have same : place = builder.nodeList.length := by omega
        exact .inr (same ▸ leads.grow advanced.grows)
      next => simp at found

theorem node_keeps_lists {node : Node} {index : UInt16}
    (added : Builder.node node builder = .ok index after) :
    after.blobList = builder.blobList ∧ ∀ kind, after.textList kind = builder.textList kind := by
  rcases node_eq_ok.mp added with ⟨_, _, _, rfl⟩ | ⟨_, _, _, rfl⟩
  · exact ⟨rfl, fun _ => rfl⟩
  · exact ⟨rfl, fun kind => by cases kind <;> rfl⟩

theorem blob_keeps_lists {bytes : List UInt8} {place : UInt16}
    (added : blob bytes builder = .ok place after) :
    after.nodeList = builder.nodeList ∧ ∀ kind, after.textList kind = builder.textList kind := by
  rcases blob_eq_ok.mp added with ⟨_, _, _, rfl⟩ | ⟨_, _, _, _, rfl⟩
  · exact ⟨rfl, fun _ => rfl⟩
  · exact ⟨rfl, fun kind => by cases kind <;> rfl⟩

theorem Graph.text (graph : builder.Graph) {value : String} {place : UInt16}
    (added : Builder.text value builder = .ok place after) :
    builder.Extends after ∧ after.HasBlob place (utf8Bytes value) := by
  obtain ⟨advanced, held⟩ := graph.sound.text added
  obtain ⟨nodes, texts⟩ := blob_keeps_lists added
  refine ⟨graph.advance advanced ?_ ?_, held⟩
  · exact fun index node found => .inl (nodes ▸ found)
  · exact fun source member => .inl (texts .regex ▸ member)

theorem entry_keeps_lists {kind : TableKind} {value : String} {index : UInt16}
    (added : entry kind value builder = .ok index after) :
    after.nodeList = builder.nodeList ∧
      ∀ other, ∀ text ∈ after.textList other,
        text ∈ builder.textList other ∨ other = kind ∧ text = value := by
  rcases entry_eq_ok.mp added with ⟨_, _, _, rfl⟩ | ⟨_, _, _, place, middle, stored, rfl⟩
  · exact ⟨rfl, fun other text member => .inl member⟩
  · obtain ⟨nodes, texts⟩ := blob_keeps_lists stored
    refine ⟨by rw [addText_nodeList, nodes], ?_⟩
    intro other text member
    rw [← texts other]
    rw [textList, addText_table] at member
    split at member
    next same =>
      simp only [Interner.add_entries, List.mem_append, List.mem_singleton] at member
      rcases member with old | new
      · exact .inl (same ▸ old)
      · exact .inr ⟨same, new⟩
    next => exact .inl member

theorem Graph.entry (graph : builder.Graph) {kind : TableKind} {value : String} {index : UInt16}
    (compiles : kind = .regex → ∃ pattern, Regex.compile value = .ok pattern)
    (added : Builder.entry kind value builder = .ok index after) :
    builder.Extends after ∧ after.HasText kind index value := by
  obtain ⟨advanced, held⟩ := graph.sound.entry added
  obtain ⟨nodes, texts⟩ := entry_keeps_lists added
  refine ⟨graph.advance advanced ?_ ?_, held⟩
  · exact fun index node found => .inl (nodes ▸ found)
  · intro source member
    rcases texts .regex source member with old | ⟨same, rfl⟩
    · exact .inl old
    · exact .inr (compiles same.symm)

theorem addProfile_keeps_lists {name : Option String} {operations : List UInt16}
    (added : addProfile name operations builder = .ok () after) :
    after.nodeList = builder.nodeList ∧ ∀ kind, after.textList kind = builder.textList kind := by
  obtain ⟨_, ⟨_, _, rfl⟩ | ⟨_, _, middle, stored, rfl⟩⟩ := addProfile_eq_ok.mp added
  · exact ⟨rfl, fun kind => by cases kind <;> rfl⟩
  · obtain ⟨nodes, texts⟩ := blob_keeps_lists stored
    exact ⟨nodes, fun kind => texts kind ▸ by cases kind <;> rfl⟩

theorem Graph.addProfile (graph : builder.Graph) {name : Option String}
    {operations : List UInt16}
    (entered : ∀ entry ∈ operations, entry.toNat < builder.nodeList.length)
    (added : Builder.addProfile name operations builder = .ok () after) :
    after.Graph ∧ builder.Grows after ∧
      ∃ record, after.profiles.toList = builder.profiles.toList ++ [record] ∧
        record.operations = operations ∧ after.Names record (name.getD "") := by
  obtain ⟨sound, grown, record, profiles, given, named⟩ := graph.sound.addProfile added
  obtain ⟨nodes, texts⟩ := addProfile_keeps_lists added
  refine ⟨⟨sound, ?_, ?_, ?_⟩, grown, record, profiles, given, named⟩
  · intro index node found
    exact (graph.leads index node (nodes ▸ found)).grow grown
  · rw [texts .regex]
    exact graph.regexes
  · rw [profiles]
    intro record' member entry enters
    rcases List.mem_append.mp member with old | new
    · exact grown.index_lt (graph.entries record' old entry enters)
    · rw [List.mem_singleton.mp new, given] at enters
      exact grown.index_lt (entered entry enters)

theorem start_graph {kind : ProfileKind} {operationCount : Nat}
    (started : start kind operationCount = .ok builder) : builder.Graph := by
  have sound := start_sound started
  rw [start] at started
  split at started
  next =>
    cases started
    refine ⟨sound, ?_, ?_, ?_⟩
    · simp [nodeList, Interner.empty]
    · simp [textList, table, TextTable.empty, Interner.empty]
    · simp
  next => simp at started

end SandboxPolicy.Builder
