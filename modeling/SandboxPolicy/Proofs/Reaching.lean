import Mathlib.Logic.Relation
import SandboxPolicy.Proofs.Lowering
import SandboxPolicy.Proofs.Parsing

/-!
What lowering adds is used. Every new node is reached from the node that lowering a filter ends
with, every node tests a filter of a policy, and what is stored besides nodes is there for them.
-/

namespace SandboxPolicy

open Steps

namespace Node

def Steps (nodes : List Node) (index next : Nat) : Prop :=
  ∃ node, nodes[index]? = some node ∧ node.opcode = filterOpcode ∧
    (node.onMatch.toNat = next ∨ node.onUnmatch.toNat = next)

def Reaches (nodes : List Node) : Nat → Nat → Prop := Relation.ReflTransGen (Steps nodes)

variable {nodes more : List Node} {index next : Nat}

theorem Reaches.refl (nodes : List Node) (index : Nat) : Reaches nodes index index :=
  Relation.ReflTransGen.refl

theorem Reaches.trans {last : Nat} (first : Reaches nodes index next)
    (second : Reaches nodes next last) : Reaches nodes index last :=
  Relation.ReflTransGen.trans first second

theorem Reaches.grow (reached : Reaches nodes index next) (grown : nodes <+: more) :
    Reaches more index next := by
  obtain ⟨rest, rfl⟩ := grown
  refine Relation.ReflTransGen.mono (fun one other step => ?_) _ _ reached
  obtain ⟨node, found, isFilter, leads⟩ := step
  exact ⟨node, List.getElem?_append_left (List.getElem?_eq_some_iff.mp found).1 ▸ found,
    isFilter, leads⟩

end Node

namespace Argument

def entered? : Argument → Option (TableKind × String)
  | .regex value => some (.regex, value)
  | .entitlement value => some (.entitlement, value)
  | .path value =>
      (patternVariable? value.toList).map fun name => (.variable, String.ofList name)
  | .name _ | .keyword _ | .address _ => none

def stored? : Argument → Option String
  | .path value | .name value | .keyword value | .address value => some value
  | .regex _ | .entitlement _ => none

end Argument

namespace Builder

variable {known : String × Argument → Prop} {builder before middle after : Builder}

structure Tests (builder : Builder) (known : String × Argument → Prop) (node : Node)
    (leaf : String × Argument) : Prop where
  known : known leaf
  isTest : ∃ onMatch onUnmatch, builder.IsTest node leaf.1 leaf.2 onMatch onUnmatch
  entered : ∀ kind text, leaf.2.entered? = some (kind, text) → text ∈ builder.textList kind

theorem Tests.grow {node : Node} {leaf : String × Argument}
    (tests : before.Tests known node leaf) (grown : before.Grows after) :
    after.Tests known node leaf where
  known := tests.known
  isTest := by
    obtain ⟨onMatch, onUnmatch, isTest⟩ := tests.isTest
    exact ⟨onMatch, onUnmatch, isTest.grow grown⟩
  entered := fun kind text entered =>
    (grown.texts kind).subset (tests.entered kind text entered)

/-- The bytes are a text of a table, the argument of a node, or the name of a profile. -/
inductive Refers (builder : Builder) (known : String × Argument → Prop) (bytes : List UInt8) :
    Prop where
  | table {kind : TableKind} {text : String} : text ∈ builder.textList kind →
      bytes = utf8Bytes text → Refers builder known bytes
  | argument {node : Node} {leaf : String × Argument} {text : String} :
      node ∈ builder.nodeList → builder.Tests known node leaf → leaf.2.stored? = some text →
      bytes = utf8Bytes text → Refers builder known bytes
  | name {record : ProfileRecord} {place : UInt16} : record ∈ builder.profiles.toList →
      record.nameOffset = some place → builder.HasBlob place bytes → Refers builder known bytes

theorem Refers.grow {bytes : List UInt8} (refers : before.Refers known bytes)
    (grown : before.Grows after) : after.Refers known bytes := by
  cases refers with
  | table member same => exact .table ((grown.texts _).subset member) same
  | argument member tests stored same =>
      exact .argument (grown.nodes.subset member) (tests.grow grown) stored same
  | name member named held => exact .name (grown.profiles.subset member) named (held.grow grown)

/-- Nodes are verdicts or tests of known filters, and everything else is there because of a node or
a profile. -/
structure Tidy (builder : Builder) (known : String × Argument → Prop) : Prop where
  nodes : ∀ node ∈ builder.nodeList,
    (∃ verdict, node = .terminal verdict) ∨ ∃ leaf, builder.Tests known node leaf
  texts : ∀ kind, ∀ text ∈ builder.textList kind, ∃ node ∈ builder.nodeList,
    ∃ leaf, builder.Tests known node leaf ∧ leaf.2.entered? = some (kind, text)
  blobs : ∀ bytes ∈ builder.blobList, builder.Refers known bytes

theorem Tidy.grow (tidy : before.Tidy known) (grown : before.Grows after)
    (nodes : ∀ node ∈ after.nodeList, node ∈ before.nodeList ∨
      (∃ verdict, node = .terminal verdict) ∨ ∃ leaf, after.Tests known node leaf)
    (texts : ∀ kind, ∀ text ∈ after.textList kind, text ∈ before.textList kind ∨
      ∃ node ∈ after.nodeList, ∃ leaf, after.Tests known node leaf ∧
        leaf.2.entered? = some (kind, text))
    (blobs : ∀ bytes ∈ after.blobList, bytes ∈ before.blobList ∨ after.Refers known bytes) :
    after.Tidy known where
  nodes := by
    intro node member
    rcases nodes node member with old | new
    · exact (tidy.nodes node old).imp id fun ⟨leaf, tests⟩ => ⟨leaf, tests.grow grown⟩
    · exact new
  texts := by
    intro kind text member
    rcases texts kind text member with old | new
    · obtain ⟨node, inside, leaf, tests, entered⟩ := tidy.texts kind text old
      exact ⟨node, grown.nodes.subset inside, leaf, tests.grow grown, entered⟩
    · exact new
  blobs := by
    intro bytes member
    rcases blobs bytes member with old | new
    · exact (tidy.blobs bytes old).grow grown
    · exact new

theorem node_adds {node : Node} {index : UInt16}
    (added : Builder.node node builder = .ok index after) :
    ∀ other ∈ after.nodeList, other ∈ builder.nodeList ∨ other = node := by
  rcases node_eq_ok.mp added with ⟨_, _, _, rfl⟩ | ⟨_, _, _, rfl⟩
  · exact fun other member => .inl member
  · intro other member
    simpa using member

theorem blob_adds {bytes : List UInt8} {place : UInt16}
    (added : Builder.blob bytes builder = .ok place after) :
    ∀ other ∈ after.blobList, other ∈ builder.blobList ∨ other = bytes := by
  rcases blob_eq_ok.mp added with ⟨_, _, _, rfl⟩ | ⟨_, _, _, _, rfl⟩
  · exact fun other member => .inl member
  · intro other member
    simpa using member

theorem entry_adds {kind : TableKind} {value : String} {index : UInt16}
    (added : Builder.entry kind value builder = .ok index after) :
    ∀ other ∈ after.blobList, other ∈ builder.blobList ∨ other = utf8Bytes value := by
  rcases entry_eq_ok.mp added with ⟨_, _, _, rfl⟩ | ⟨_, _, _, _, _, stored, rfl⟩
  · exact fun other member => .inl member
  · rw [addText_blobList]
    exact blob_adds stored

structure Stores (before after : Builder) (value : Argument) : Prop where
  nodes : after.nodeList = before.nodeList
  entered : ∀ kind text, value.entered? = some (kind, text) → text ∈ after.textList kind
  texts : ∀ kind, ∀ text ∈ after.textList kind,
    text ∈ before.textList kind ∨ value.entered? = some (kind, text)
  blobs : ∀ bytes ∈ after.blobList, bytes ∈ before.blobList ∨
    (∃ kind text, value.entered? = some (kind, text) ∧ bytes = utf8Bytes text) ∨
    ∃ text, value.stored? = some text ∧ bytes = utf8Bytes text

theorem entry_stores (sound : builder.Sound) {kind : TableKind} {text : String} {index : UInt16}
    {value : Argument} (enters : value.entered? = some (kind, text))
    (added : Builder.entry kind text builder = .ok index after) : builder.Stores after value where
  nodes := (entry_keeps_lists added).1
  entered := by
    intro kind' text' same
    rw [enters] at same
    cases same
    exact List.mem_of_getElem? (sound.entry added).2
  texts := by
    intro kind' text' member
    rcases (entry_keeps_lists added).2 kind' text' member with old | ⟨rfl, rfl⟩
    · exact .inl old
    · exact .inr enters
  blobs := by
    intro bytes member
    exact (entry_adds added bytes member).imp id fun same => .inl ⟨kind, text, enters, same⟩

theorem text_stores {text : String} {place : UInt16} {value : Argument}
    (enters : value.entered? = none) (stores : value.stored? = some text)
    (added : Builder.text text builder = .ok place after) : builder.Stores after value where
  nodes := (blob_keeps_lists added).1
  entered := by simp [enters]
  texts := fun kind text' member => .inl ((blob_keeps_lists added).2 kind ▸ member)
  blobs := fun bytes member =>
    (blob_adds added bytes member).imp id fun same => .inr ⟨text, stores, same⟩

end Builder

structure Filter.Fits (known : String × Argument → Prop) (guard : Filter) : Prop where
  valid : guard.Valid
  full : guard.Full
  known : ∀ leaf ∈ guard.leaves, known leaf

namespace Filter.Fits

variable {known : String × Argument → Prop} {items : List Filter}

theorem all (fits : (Filter.all items).Fits known) :
    items ≠ [] ∧ ∀ item ∈ items, item.Fits known := by
  obtain ⟨valid, full, listed⟩ := fits
  cases full with
  | all some full =>
      refine ⟨some, fun item member => ⟨valid.all item member, full item member, ?_⟩⟩
      exact fun leaf inside => listed leaf (mem_leavesOf.mpr ⟨item, member, inside⟩)

theorem any (fits : (Filter.any items).Fits known) :
    items ≠ [] ∧ ∀ item ∈ items, item.Fits known := by
  obtain ⟨valid, full, listed⟩ := fits
  cases full with
  | any some full =>
      refine ⟨some, fun item member => ⟨valid.any item member, full item member, ?_⟩⟩
      exact fun leaf inside => listed leaf (mem_leavesOf.mpr ⟨item, member, inside⟩)

theorem not {item : Filter} (fits : (Filter.not item).Fits known) : item.Fits known := by
  obtain ⟨valid, full, listed⟩ := fits
  cases full with
  | not full => exact ⟨valid.not, full, listed⟩

end Filter.Fits

namespace Lower

open Builder

variable {known : String × Argument → Prop} {builder middle after : Builder}

theorem argument_stores (sound : builder.Sound) {value : Argument} {place : UInt16}
    (lowered : argument value builder = .ok place after) : builder.Stores after value := by
  cases value with
  | regex | entitlement => exact entry_stores sound rfl lowered
  | name | keyword | address => exact text_stores rfl rfl lowered
  | path path =>
      cases leading : patternVariable? path.toList with
      | none =>
          simp only [argument, leading] at lowered
          exact text_stores (by simp [Argument.entered?, leading]) rfl lowered
      | some name =>
          simp only [argument, leading] at lowered
          obtain ⟨_, middle, named, stored⟩ := bind_eq_ok.mp lowered
          obtain ⟨index, added, _⟩ := map_eq_ok.mp named
          have enters : (Argument.path path).entered? = some (.variable, String.ofList name) := by
            simp [Argument.entered?, leading]
          have first := entry_stores sound enters added
          obtain ⟨sameNodes, sameTexts⟩ := blob_keeps_lists stored
          constructor
          · exact sameNodes.trans first.nodes
          · exact fun kind text same => sameTexts kind ▸ first.entered kind text same
          · exact fun kind text member => first.texts kind text (sameTexts kind ▸ member)
          · intro bytes member
            rcases blob_adds stored bytes member with old | same
            · exact first.blobs bytes old
            · exact .inr (.inr ⟨path, rfl, same⟩)

/-- What lowering has added: a tidy builder stays so, and new nodes are reached from entries. -/
structure Adds (known : String × Argument → Prop) (before after : Builder)
    (entries : List UInt16) : Prop where
  extended : before.Extends after
  tidy : before.Tidy known → after.Tidy known
  reached : ∀ place, before.nodeList.length ≤ place → place < after.nodeList.length →
    ∃ entry ∈ entries, Node.Reaches after.nodeList entry.toNat place

/-- Lowering has added a node, or found it, from which the targets are reached. -/
structure Heads (known : String × Argument → Prop) (before after : Builder) (index : UInt16)
    (targets : List UInt16) : Prop extends Adds known before after [index] where
  bound : index.toNat < after.nodeList.length
  onward : ∀ target ∈ targets, Node.Reaches after.nodeList index.toNat target.toNat

theorem Adds.none (graph : builder.Graph) (entries : List UInt16) :
    Adds known builder builder entries :=
  ⟨graph.extends, id, fun _ fresh bound => absurd bound (Nat.not_lt.mpr fresh)⟩

theorem Adds.append {before middle after : Builder} {first second : List UInt16}
    (left : Adds known before middle first) (right : Adds known middle after second) :
    Adds known before after (first ++ second) where
  extended := left.extended.trans right.extended
  tidy := right.tidy ∘ left.tidy
  reached := by
    intro place fresh bound
    by_cases early : place < middle.nodeList.length
    · obtain ⟨entry, member, reached⟩ := left.reached place fresh early
      exact ⟨entry, List.mem_append_left _ member, reached.grow right.extended.grows.nodes⟩
    · obtain ⟨entry, member, reached⟩ := right.reached place (Nat.le_of_not_lt early) bound
      exact ⟨entry, List.mem_append_right _ member, reached⟩

theorem Heads.through {before middle after : Builder} {next index : UInt16}
    {targets others : List UInt16} (first : Heads known before middle next targets)
    (second : Heads known middle after index others) (leads : next ∈ others) :
    Heads known before after index (others ++ targets) where
  extended := first.extended.trans second.extended
  tidy := second.tidy ∘ first.tidy
  reached := by
    intro place fresh bound
    obtain ⟨entry, member, reached⟩ :=
      (first.toAdds.append second.toAdds).reached place fresh bound
    refine ⟨index, List.mem_singleton_self _, ?_⟩
    rcases List.mem_cons.mp member with rfl | isIndex
    · exact (second.onward entry leads).trans reached
    · exact List.mem_singleton.mp isIndex ▸ reached
  bound := second.bound
  onward := by
    intro target member
    rcases List.mem_append.mp member with near | far
    · exact second.onward target near
    · exact (second.onward next leads).trans
        ((first.onward target far).grow second.extended.grows.nodes)

theorem Heads.keep {before after : Builder} {index : UInt16} {targets fewer : List UInt16}
    (heads : Heads known before after index targets) (kept : fewer ⊆ targets) :
    Heads known before after index fewer :=
  { heads with onward := fun target member => heads.onward target (kept member) }

theorem node_heads (extended : builder.Extends middle) {node : Node} {index : UInt16}
    {targets : List UInt16} (sameNodes : middle.nodeList = builder.nodeList)
    (leads : middle.Leads middle.nodeList.length node)
    (added : Builder.node node middle = .ok index after)
    (tidy : builder.Grows after → after.HasNode index node → builder.Tidy known →
      after.Tidy known)
    (onward : ∀ target ∈ targets, node.opcode = Node.filterOpcode ∧
      (node.onMatch = target ∨ node.onUnmatch = target)) :
    Heads known builder after index targets := by
  obtain ⟨second, held⟩ := extended.graph.node leads added
  have grown := extended.grows.trans second.grows
  refine ⟨⟨extended.trans second, tidy grown held, ?_⟩, held.bound, ?_⟩
  · intro place fresh bound
    refine ⟨index, List.mem_singleton_self _, ?_⟩
    rw [← sameNodes] at fresh
    -- Only a node that was not found is new, and it is the last then, which is its own head.
    rcases node_eq_ok.mp added with ⟨_, _, _, rfl⟩ | ⟨_, room, rfl, rfl⟩
    · omega
    · rw [nodeLimit] at room
      have next := extended.graph.sound.nodes_next
      rw [withNode_nodeList, List.length_append, List.length_singleton] at bound
      have last : (UInt16.ofNat middle.nodes.next).toNat = place := by
        rw [toNat_ofNat_of_le (by omega)]
        omega
      rw [last]
      exact .refl _ _
  · intro target member
    obtain ⟨isFilter, leads⟩ := onward target member
    refine Relation.ReflTransGen.single ⟨node, held, isFilter, ?_⟩
    exact leads.imp (congrArg UInt16.toNat) (congrArg UInt16.toNat)

theorem terminal_heads (graph : builder.Graph) {verdict : Verdict} {index : UInt16}
    (lowered : terminal verdict builder = .ok index after) :
    Heads known builder after index [] := by
  have added := build_eq_ok.mp lowered
  obtain ⟨sameBlobs, sameTexts⟩ := node_keeps_lists added
  refine node_heads graph.extends rfl (.verdict verdict rfl) added ?_ (by simp)
  intro grown _ tidy
  refine tidy.grow grown ?_ ?_ ?_
  · intro node member
    exact (node_adds added node member).imp id fun same => .inl ⟨verdict, same⟩
  · exact fun kind text member => .inl (sameTexts kind ▸ member)
  · exact fun bytes member => .inl (sameBlobs ▸ member)

theorem leaf_heads {name : String} {value : Argument} (graph : builder.Graph)
    (checked : checkArgument name value = .ok ()) (isKnown : known (name, value))
    {onMatch onUnmatch index : UInt16} (matchBound : onMatch.toNat < builder.nodeList.length)
    (unmatchBound : onUnmatch.toNat < builder.nodeList.length)
    (lowered : filter onMatch onUnmatch (.leaf name value) builder = .ok index after) :
    Heads known builder after index [onMatch, onUnmatch] := by
  obtain ⟨entry, found, suits⟩ := checkArgument_suits checked
  simp only [filter, found, build_eq_ok] at lowered
  obtain ⟨place, middle, stored, added⟩ := bind_eq_ok.mp lowered
  obtain ⟨extended, held⟩ := argument_extends graph suits stored
  have stores := argument_stores graph.sound stored
  have isTest :
      middle.IsTest (.test entry.id place onMatch onUnmatch) name value onMatch onUnmatch :=
    ⟨entry, place, found, suits, held, rfl⟩
  have leads := Leads.test isTest (extended.grows.index_lt matchBound)
    (extended.grows.index_lt unmatchBound)
  obtain ⟨sameBlobs, sameTexts⟩ := node_keeps_lists added
  refine node_heads extended stores.nodes leads added ?_ ?_
  · intro grown node tidy
    have member := List.mem_of_getElem? node
    have grown' := (extended.graph.sound.node added).1.grows
    have tests : after.Tests known (.test entry.id place onMatch onUnmatch) (name, value) :=
      ⟨isKnown, ⟨onMatch, onUnmatch, isTest.grow grown'⟩,
        fun kind text entered => sameTexts kind ▸ stores.entered kind text entered⟩
    refine tidy.grow grown ?_ ?_ ?_
    · intro other inside
      rcases node_adds added other inside with old | rfl
      · exact .inl (stores.nodes ▸ old)
      · exact .inr (.inr ⟨_, tests⟩)
    · intro kind text inside
      rcases stores.texts kind text (sameTexts kind ▸ inside) with old | entered
      · exact .inl old
      · exact .inr ⟨_, member, _, tests, entered⟩
    · intro bytes inside
      rcases stores.blobs bytes (sameBlobs ▸ inside) with
        old | ⟨kind, text, entered, same⟩ | ⟨text, isStored, same⟩
      · exact .inl old
      · exact .inr (.table (tests.entered kind text entered) same)
      · exact .inr (.argument member tests isStored same)
  · intro target member
    refine ⟨rfl, ?_⟩
    rcases List.mem_cons.mp member with rfl | later
    · exact .inl rfl
    · exact .inr (List.mem_singleton.mp later).symm

mutual

theorem filter_heads (guard : Filter) (fits : guard.Fits known) {builder after : Builder}
    {onMatch onUnmatch index : UInt16} (graph : builder.Graph)
    (matchBound : onMatch.toNat < builder.nodeList.length)
    (unmatchBound : onUnmatch.toNat < builder.nodeList.length)
    (lowered : filter onMatch onUnmatch guard builder = .ok index after) :
    Heads known builder after index [onMatch, onUnmatch] := by
  match guard with
  | .leaf name value =>
      have member : (name, value) ∈ (Filter.leaf name value).leaves := List.mem_singleton_self _
      exact leaf_heads graph (fits.valid _ member) (fits.known _ member) matchBound unmatchBound
        lowered
  | .all items =>
      simp only [filter] at lowered
      obtain ⟨some, fits⟩ := fits.all
      exact allOf_heads items some fits graph matchBound unmatchBound lowered
  | .any items =>
      simp only [filter] at lowered
      obtain ⟨some, fits⟩ := fits.any
      exact anyOf_heads items some fits graph matchBound unmatchBound lowered
  | .not item =>
      simp only [filter] at lowered
      exact (filter_heads item fits.not graph unmatchBound matchBound lowered).keep
        (List.Perm.swap _ _ _).subset

theorem allOf_heads (items : List Filter) (some : items ≠ [])
    (fits : ∀ item ∈ items, item.Fits known) {builder after : Builder}
    {onMatch onUnmatch index : UInt16} (graph : builder.Graph)
    (matchBound : onMatch.toNat < builder.nodeList.length)
    (unmatchBound : onUnmatch.toNat < builder.nodeList.length)
    (lowered : allOf onMatch onUnmatch items builder = .ok index after) :
    Heads known builder after index [onMatch, onUnmatch] := by
  match items with
  | [only] =>
      simp only [allOf] at lowered
      exact filter_heads only (fits only List.mem_cons_self) graph matchBound unmatchBound lowered
  | first :: second :: rest =>
      rw [allOf] at lowered
      -- The items behind come first and lead to both targets; the front one has to lead to them.
      obtain ⟨next, middle, later, sooner⟩ := bind_eq_ok.mp lowered
      have others := allOf_heads (second :: rest) (List.cons_ne_nil _ _)
        (fun item member => fits item (List.mem_cons_of_mem _ member)) graph matchBound
        unmatchBound later
      have front := filter_heads first (fits first List.mem_cons_self) others.extended.graph
        others.bound (others.extended.grows.index_lt unmatchBound) sooner
      exact (others.through front (by simp)).keep (by simp)

theorem anyOf_heads (items : List Filter) (some : items ≠ [])
    (fits : ∀ item ∈ items, item.Fits known) {builder after : Builder}
    {onMatch onUnmatch index : UInt16} (graph : builder.Graph)
    (matchBound : onMatch.toNat < builder.nodeList.length)
    (unmatchBound : onUnmatch.toNat < builder.nodeList.length)
    (lowered : anyOf onMatch onUnmatch items builder = .ok index after) :
    Heads known builder after index [onMatch, onUnmatch] := by
  match items with
  | [only] =>
      simp only [anyOf] at lowered
      exact filter_heads only (fits only List.mem_cons_self) graph matchBound unmatchBound lowered
  | first :: second :: rest =>
      rw [anyOf] at lowered
      obtain ⟨next, middle, later, sooner⟩ := bind_eq_ok.mp lowered
      have others := anyOf_heads (second :: rest) (List.cons_ne_nil _ _)
        (fun item member => fits item (List.mem_cons_of_mem _ member)) graph matchBound
        unmatchBound later
      have front := filter_heads first (fits first List.mem_cons_self) others.extended.graph
        (others.extended.grows.index_lt matchBound) others.bound sooner
      exact (others.through front (by simp)).keep (by simp)

end

theorem tests_heads {guarded : List (Filter × Verdict)}
    (fits : ∀ item ∈ guarded, item.1.Fits known) {builder after : Builder} {entry index : UInt16}
    (graph : builder.Graph) (bound : entry.toNat < builder.nodeList.length)
    (lowered : tests entry guarded builder = .ok index after) :
    Heads known builder after index [entry] := by
  induction guarded generalizing builder entry with
  | nil =>
      cases lowered
      exact ⟨.none graph _, bound, by simpa using Node.Reaches.refl _ _⟩
  | cons first rest ih =>
      obtain ⟨guard, verdict⟩ := first
      simp only [tests] at lowered
      obtain ⟨decided, second, added, lowered⟩ := bind_eq_ok.mp lowered
      obtain ⟨next, third, filtered, lowered⟩ := bind_eq_ok.mp lowered
      have verdicts : Heads known builder second decided [] := terminal_heads graph added
      have front := filter_heads guard (fits _ List.mem_cons_self) verdicts.extended.graph
        verdicts.bound (verdicts.extended.grows.index_lt bound) filtered
      have others := ih (fun item member => fits item (List.mem_cons_of_mem _ member))
        front.extended.graph front.bound lowered
      exact ((verdicts.through front (by simp)).through others (by simp)).keep (by simp)

theorem chain_heads {chain : Chain} (fits : ∀ item ∈ chain.tests, item.1.Fits known)
    (graph : builder.Graph) {index : UInt16}
    (lowered : Lower.chain chain builder = .ok index after) :
    Heads known builder after index [] := by
  obtain ⟨base, middle, added, lowered⟩ := bind_eq_ok.mp lowered
  have verdict : Heads known builder middle base [] := terminal_heads graph added
  have others := tests_heads fits verdict.extended.graph verdict.bound lowered
  exact (verdict.through others (by simp)).keep (by simp)

end Lower

end SandboxPolicy
