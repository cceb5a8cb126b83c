import SandboxPolicy.Proofs.Compiled
import SandboxPolicy.Proofs.Coverage
import SandboxPolicy.Proofs.Reaching

/-!
Compiled profiles hold nothing that is not used: each node can be reached, each entry of a table is
asked for by a node, and each blob is referred to. So the table of variables tells on which of them
decisions depend.
-/

namespace SandboxPolicy

open Steps

variable {table : OperationTable} {known : String × Argument → Prop} {parameters : Bindings}

/-! Slots and policies. -/

def Rule.Fits (known : String × Argument → Prop) (rule : Rule) : Prop :=
  ∀ guard, rule.filter = some guard → guard.Fits known

namespace Lower

open Builder

variable {builder after : Builder} {rules : List (List Nat × Rule)}

theorem slot_adds {memory memory' : ChainMemory} {number : Nat} {entry : UInt16}
    (fits : ∀ rule ∈ rulesAt rules (coveringRules table number rules), rule.Fits known)
    (graph : builder.Graph)
    (lowered : slot table rules memory number builder = .ok (entry, memory') after) :
    Adds known builder after [entry] := by
  simp only [slot] at lowered
  cases remembered : memory[coveringRules table number rules]? with
  | some found =>
      simp only [remembered, pure_apply, EStateM.Result.ok.injEq, Prod.mk.injEq] at lowered
      -- An entry that is remembered was entered before, so nothing is new.
      obtain ⟨_, rfl⟩ := lowered
      exact .none graph [entry]
  | none =>
      simp only [remembered] at lowered
      obtain ⟨found, middle, chained, done⟩ := bind_eq_ok.mp lowered
      simp only [pure_apply, EStateM.Result.ok.injEq, Prod.mk.injEq] at done
      obtain ⟨⟨rfl, _⟩, rfl⟩ := done
      refine (chain_heads (fun item member => ?_) graph chained).toAdds
      obtain ⟨rule, inside, filter⟩ := Chain.mem_ofRules_tests member
      exact fits rule inside item.1 filter

theorem slots_adds {memory : ChainMemory} {numbers : List Nat} {entries : List UInt16}
    (fits : ∀ number, ∀ rule ∈ rulesAt rules (coveringRules table number rules), rule.Fits known)
    (graph : builder.Graph)
    (lowered : slots table rules memory numbers builder = .ok entries after) :
    Adds known builder after entries := by
  induction numbers generalizing builder memory entries with
  | nil =>
      cases lowered
      exact .none graph []
  | cons number rest ih =>
      simp only [slots] at lowered
      obtain ⟨⟨entry, memory'⟩, middle, first, lowered⟩ := bind_eq_ok.mp lowered
      obtain ⟨others, last, later, done⟩ := bind_eq_ok.mp lowered
      cases done
      have adds := slot_adds (fits number) graph first
      exact adds.append (ih adds.extended.graph later)

end Lower

theorem Policy.lower_adds {policy : Policy} (fits : ∀ rule ∈ policy.rules, rule.Fits known)
    {builder after : Builder} {entries : List UInt16} (graph : builder.Graph)
    (lowered : policy.lower table builder = .ok entries after) :
    Lower.Adds known builder after entries := by
  obtain ⟨resolved, middle, lifted, slots⟩ := bind_eq_ok.mp lowered
  obtain ⟨found, rfl⟩ := liftExcept_eq_ok.mp lifted
  refine Lower.slots_adds (fun number rule member => ?_) graph slots
  rw [(Policy.resolves found).covering] at member
  exact fits rule (List.mem_of_mem_filter member)

namespace Builder

variable {builder after : Builder}

structure AllUsed (builder : Builder) (known : String × Argument → Prop) : Prop where
  graph : builder.Graph
  tidy : builder.Tidy known
  reached : ∀ index < builder.nodeList.length, ∃ record ∈ builder.profiles.toList,
    ∃ entry ∈ record.operations, Node.Reaches builder.nodeList entry.toNat index

theorem start_allUsed {kind : ProfileKind} {operationCount : Nat}
    (started : start kind operationCount = .ok builder) : builder.AllUsed known := by
  have graph := start_graph started
  rw [start] at started
  split at started
  next =>
    cases started
    refine ⟨graph, ⟨?_, ?_, ?_⟩, ?_⟩
    · simp [nodeList, Interner.empty]
    · intro kind
      cases kind <;> simp [textList, Builder.table, TextTable.empty, Interner.empty]
    · simp [blobList, Interner.empty]
    · simp [nodeList, Interner.empty]
  next => cases started

theorem addProfile_adds (sound : builder.Sound) {name : Option String} {operations : List UInt16}
    (added : addProfile name operations builder = .ok () after) :
    ∀ bytes ∈ after.blobList, bytes ∈ builder.blobList ∨
      ∃ record ∈ after.profiles.toList, ∃ place, record.nameOffset = some place ∧
        after.HasBlob place bytes := by
  obtain ⟨_, ⟨_, _, rfl⟩ | ⟨_, place, middle, stored, rfl⟩⟩ := addProfile_eq_ok.mp added
  · exact fun bytes member => .inl member
  · intro bytes member
    rcases blob_adds stored bytes member with old | rfl
    · exact .inl old
    · have held := (sound.text stored).2.grow (withRecord_grows middle (some place) operations)
      refine .inr ⟨⟨middle.profiles.size, some place, 0, 0, operations⟩, ?_, place, rfl, held⟩
      simp [withRecord]

end Builder

open Builder

theorem addPolicy_allUsed {name : Option String} {policy : Policy}
    (valid : ∀ rule ∈ policy.rules, rule.Valid table)
    (fits : ∀ rule ∈ policy.rules, rule.Fits known) {builder after : Builder}
    (used : builder.AllUsed known)
    (lowered : addPolicy table name policy builder = .ok () after) : after.AllUsed known := by
  obtain ⟨entries, middle, first, second⟩ := bind_eq_ok.mp lowered
  have adds := Policy.lower_adds fits used.graph first
  obtain ⟨_, serves⟩ := Policy.lower_serves valid used.graph first
  have added := Lower.build_eq_ok.mp second
  obtain ⟨graph, grown, record, profiles, given, _⟩ :=
    adds.extended.graph.addProfile serves.bound added
  obtain ⟨sameNodes, sameTexts⟩ := addProfile_keeps_lists added
  refine ⟨graph, (adds.tidy used.tidy).grow grown ?_ ?_ ?_, ?_⟩
  · exact fun node member => .inl (sameNodes ▸ member)
  · exact fun kind text member => .inl (sameTexts kind ▸ member)
  · intro bytes member
    rcases addProfile_adds adds.extended.graph.sound added bytes member with
      old | ⟨record', inside, place, named, held⟩
    · exact .inl old
    · exact .inr (.name inside named held)
  · intro index bound
    rw [sameNodes] at bound ⊢
    rw [profiles, adds.extended.profiles_eq]
    -- An old node is reached from an old profile, a new one from the profile that is added.
    by_cases early : index < builder.nodeList.length
    · obtain ⟨old, member, entry, enters, reached⟩ := used.reached index early
      exact ⟨old, List.mem_append_left _ member, entry, enters,
        reached.grow adds.extended.grows.nodes⟩
    · obtain ⟨entry, enters, reached⟩ := adds.reached index (Nat.le_of_not_lt early) bound
      exact ⟨record, by simp, entry, given ▸ enters, reached⟩

/-! Sources. -/

def WrittenIn (table : OperationTable) (parameters : Bindings) (sources : List String)
    (leaf : String × Argument) : Prop :=
  ∃ source ∈ sources, ∃ policy, Policy.check table source parameters = .ok policy ∧
    leaf ∈ policy.leaves

theorem Policy.check_fits {source : String} {policy : Policy} {sources : List String}
    (checked : Policy.check table source parameters = .ok policy) (member : source ∈ sources) :
    ∀ rule ∈ policy.rules, rule.Fits (WrittenIn table parameters sources) := by
  obtain ⟨parsed, silent⟩ := Policy.check_eq_ok.mp checked
  intro rule listed guard filter
  refine ⟨(Policy.diagnostics_nil silent rule listed).filter guard filter,
    (Policy.parse_written parsed rule listed).full guard filter, ?_⟩
  intro leaf inside
  refine ⟨source, member, policy, checked, List.mem_flatMap.mpr ⟨rule, listed, ?_⟩⟩
  simpa [filter] using inside

theorem addSources_allUsed {all : List String} {seen : List String}
    {sources : List (String × String)} (listed : ∀ source ∈ sources, source.2 ∈ all)
    {builder after : Builder} (used : builder.AllUsed (WrittenIn table parameters all))
    (lowered : addSources table parameters seen sources builder = .ok () after) :
    after.AllUsed (WrittenIn table parameters all) := by
  induction sources generalizing seen builder with
  | nil =>
      cases lowered
      exact used
  | cons source rest ih =>
      obtain ⟨_, policy, middle, checked, first, later⟩ := addSources_cons_eq_ok.mp lowered
      have valid := Policy.diagnostics_nil (Policy.check_eq_ok.mp checked).2
      have fits := Policy.check_fits checked (listed source List.mem_cons_self)
      exact ih (fun other member => listed other (List.mem_cons_of_mem _ member))
        (addPolicy_allUsed valid fits used first) later

inductive CompiledFrom (table : OperationTable) (parameters : Bindings) :
    List String → CompiledProfile → Prop where
  | single {source : String} {profile : CompiledProfile} :
      compile table source parameters = .ok profile → CompiledFrom table parameters [source] profile
  | collection {sources : List (String × String)} {profile : CompiledProfile} :
      compileCollection table sources parameters = .ok profile →
      CompiledFrom table parameters (sources.map Prod.snd) profile

theorem CompiledFrom.allUsed {sources : List String} {profile : CompiledProfile}
    (compiled : CompiledFrom table parameters sources profile) :
    ∃ builder : Builder, builder.AllUsed (WrittenIn table parameters sources) ∧
      builder.operationCount.toNat = table.size ∧ builder.finish = .ok profile.bytecode := by
  cases compiled with
  | @single source _ compiled =>
      obtain ⟨policy, checked, compiled⟩ := Outcome.bind_eq_ok.mp compiled
      obtain ⟨builder, started, compiled⟩ := Outcome.bind_eq_ok.mp compiled
      obtain ⟨_, after, added, finished⟩ := finished_eq_ok.mp compiled
      rw [Outcome.mapError_eq_ok] at checked started
      have valid := Policy.diagnostics_nil (Policy.check_eq_ok.mp checked).2
      have fits := Policy.check_fits checked (List.mem_singleton_self source)
      have gained := addPolicy_gains valid (start_graph started) added
      refine ⟨after, addPolicy_allUsed valid fits (start_allUsed started) added, ?_, finished⟩
      rw [gained.grows.count_eq, (start_kind started).2.1]
  | @collection sources _ compiled =>
      obtain ⟨builder, started, compiled⟩ := Outcome.bind_eq_ok.mp compiled
      obtain ⟨_, after, added, finished⟩ := finished_eq_ok.mp compiled
      rw [Outcome.mapError_eq_ok] at started
      obtain ⟨_, _, gained⟩ := addSources_gains (start_graph started) added
      have listed : ∀ source ∈ sources, source.2 ∈ sources.map Prod.snd := fun source member =>
        List.mem_map_of_mem member
      refine ⟨after, addSources_allUsed listed (start_allUsed started) added, ?_, finished⟩
      rw [gained.grows.count_eq, (start_kind started).2.1]

/-! What is read back. -/

namespace Node

def Asks (node : Node) (kind : ArgumentKind) : Prop :=
  node.opcode = filterOpcode ∧ ∃ filter, Catalogue.byId? node.filter = some filter ∧
    filter.kind = kind

end Node

namespace Image

inductive Refers (image : Image) (place : UInt16) : Prop where
  | table : place ∈ image.regexes ++ image.variablePlaces ++ image.entitlementPlaces →
      Refers image place
  | argument {node : Node} {kind : ArgumentKind} : node ∈ image.nodes → node.Asks kind →
      kind ≠ .regex → kind ≠ .entitlement → node.argument = place → Refers image place
  | name {record : ProfileRecord} : record ∈ image.profiles → record.nameOffset = some place →
      Refers image place

/-- Nothing in the profile is superfluous, and the table of variables has those that begin a path. -/
structure AllUsed (image : Image) : Prop where
  nodes : ∀ index < image.nodes.length, ∃ record ∈ image.profiles,
    ∃ entry ∈ record.operations, Node.Reaches image.nodes entry.toNat index
  regexes : ∀ index < image.regexes.length, ∃ node ∈ image.nodes,
    node.Asks .regex ∧ node.argument.toNat = index
  entitlements : ∀ index < image.entitlementPlaces.length, ∃ node ∈ image.nodes,
    node.Asks .entitlement ∧ node.argument.toNat = index
  variable_distinct : image.variableNames.Nodup
  variable_iff : ∀ name, name ∈ image.variableNames ↔ ∃ node ∈ image.nodes, node.Asks .path ∧
    ∃ path, image.data.text node.argument = .ok path ∧ BeginsWith path.toList name.toList
  blobs : ∃ blobs, image.data.bytes = blobs.flatMap DataArea.encodeBlob ∧
    ∀ before bytes after, blobs = before ++ bytes :: after → ∃ place : UInt16,
      (before.flatMap DataArea.encodeBlob).length = 8 * place.toNat ∧
        image.data.blob place = .ok bytes ∧ image.Refers place

end Image

namespace Argument

theorem entered?_eq_regex {argument : Argument} {text : String} :
    argument.entered? = some (.regex, text) ↔ argument = .regex text := by
  cases argument <;> simp [entered?]

theorem entered?_eq_entitlement {argument : Argument} {text : String} :
    argument.entered? = some (.entitlement, text) ↔ argument = .entitlement text := by
  cases argument <;> simp [entered?]

theorem entered?_eq_variable {argument : Argument} {name : String} :
    argument.entered? = some (.variable, name) ↔
      ∃ path, argument = .path path ∧ BeginsWith path.toList name.toList := by
  simp only [← patternVariable?_eq_some]
  cases argument with
  | path path =>
      simp only [entered?, Option.map_eq_some_iff, Prod.mk.injEq, true_and, Argument.path.injEq,
        exists_eq_left']
      constructor
      · rintro ⟨chars, leading, rfl⟩
        rw [leading, String.toList_ofList]
      · exact fun leading => ⟨name.toList, leading, String.ofList_toList⟩
  | regex | name | keyword | address | entitlement => simp [entered?]

theorem Suits.ne_of_stored {kind : ArgumentKind} {argument : Argument} {text : String}
    (suits : argument.Suits kind) (stored : argument.stored? = some text) :
    kind ≠ .regex ∧ kind ≠ .entitlement := by
  cases suits with
  | path | name | keyword | address => simp
  | regex | entitlement => cases stored

end Argument

theorem Node.Asks.unique {node : Node} {kind other : ArgumentKind} (asks : node.Asks kind)
    (asks' : node.Asks other) : kind = other := by
  obtain ⟨_, filter, found, rfl⟩ := asks
  obtain ⟨_, filter', found', rfl⟩ := asks'
  rw [Option.some.inj (found.symm.trans found')]

namespace Builder

variable {builder : Builder}

theorem Tests.asks {node : Node} {leaf : String × Argument}
    (tests : builder.Tests known node leaf) :
    ∃ kind, node.Asks kind ∧ leaf.2.Suits kind ∧ builder.HasArgument node.argument leaf.2 := by
  obtain ⟨onMatch, onUnmatch, filter, place, named, suits, held, rfl⟩ := tests.isTest
  exact ⟨filter.kind, ⟨rfl, filter, Catalogue.byId?_of_byName? named, rfl⟩, suits, held⟩

theorem HasArgument.blob {place : UInt16} {argument : Argument} {text : String}
    (held : builder.HasArgument place argument) (stored : argument.stored? = some text) :
    builder.HasBlob place (utf8Bytes text) := by
  cases argument with
  | path | name | keyword | address =>
      cases stored
      exact held
  | regex | entitlement => cases stored

theorem HasBlob.place_eq (sound : builder.Sound) {place other : UInt16} {bytes : List UInt8}
    (one : builder.HasBlob place bytes) (two : builder.HasBlob other bytes) : place = other :=
  UInt16.toNat_inj.mp (sound.blobs.place_unique one two)

theorem HasText.index_eq (sound : builder.Sound) {kind : TableKind} {place : UInt16}
    {index : Nat} {text : String} (one : builder.HasText kind place text)
    (two : (builder.textList kind)[index]? = some text) : place.toNat = index :=
  (sound.tables kind).texts.place_unique (Interner.standsAt_one.mpr one)
    (Interner.standsAt_one.mpr two)

theorem exists_placed {α : Type} (property : ProfileRecord → α)
    (free : ∀ record position, property { record with offset := position } = property record)
    {record : ProfileRecord} (member : record ∈ builder.profiles.toList) :
    ∃ placed ∈ builder.image.profiles, property placed = property record := by
  have listed := List.mem_map_of_mem (f := property) member
  rw [← image_map builder property free] at listed
  exact List.mem_map.mp listed

theorem Tidy.entered (tidy : builder.Tidy known) (sound : builder.Sound) (kind : TableKind)
    {index : Nat} (bound : index < (builder.table kind).places.toList.length) :
    ∃ text, (builder.textList kind)[index]? = some text ∧ ∃ node ∈ builder.nodeList, ∃ leaf,
      builder.Tests known node leaf ∧ leaf.2.entered? = some (kind, text) := by
  rw [Array.length_toList, sound.places_size] at bound
  have found := List.getElem?_eq_getElem bound
  exact ⟨_, found, tidy.texts kind _ (List.mem_of_getElem? found)⟩

theorem Tidy.regex_asked (tidy : builder.Tidy known) (sound : builder.Sound) {index : Nat}
    (bound : index < builder.image.regexes.length) :
    ∃ node ∈ builder.nodeList, node.Asks .regex ∧ node.argument.toNat = index := by
  obtain ⟨text, found, node, member, leaf, tests, entered⟩ := tidy.entered sound .regex bound
  obtain ⟨kind, asks, suits, held⟩ := tests.asks
  rw [Argument.entered?_eq_regex.mp entered] at suits held
  generalize kind = asked at asks suits
  cases suits
  exact ⟨node, member, asks, HasText.index_eq sound held found⟩

theorem Tidy.entitlement_asked (tidy : builder.Tidy known) (sound : builder.Sound) {index : Nat}
    (bound : index < builder.image.entitlementPlaces.length) :
    ∃ node ∈ builder.nodeList, node.Asks .entitlement ∧ node.argument.toNat = index := by
  obtain ⟨text, found, node, member, leaf, tests, entered⟩ :=
    tidy.entered sound .entitlement bound
  obtain ⟨kind, asks, suits, held⟩ := tests.asks
  rw [Argument.entered?_eq_entitlement.mp entered] at suits held
  cases suits
  exact ⟨node, member, asks, HasText.index_eq sound held found⟩

theorem Tidy.variable_iff (tidy : builder.Tidy known) (sound : builder.Sound) (name : String) :
    name ∈ builder.textList .variable ↔ ∃ node ∈ builder.nodeList, node.Asks .path ∧
      ∃ path, builder.image.data.text node.argument = .ok path ∧
        BeginsWith path.toList name.toList := by
  constructor
  · intro member
    obtain ⟨node, inside, leaf, tests, entered⟩ := tidy.texts .variable name member
    obtain ⟨kind, asks, suits, held⟩ := tests.asks
    obtain ⟨path, isPath, leading⟩ := Argument.entered?_eq_variable.mp entered
    rw [isPath] at suits held
    cases suits
    exact ⟨node, inside, asks, path, HasBlob.text sound held, leading⟩
  · rintro ⟨node, inside, asks, path, read, leading⟩
    rcases tidy.nodes node inside with ⟨verdict, rfl⟩ | ⟨leaf, tests⟩
    · exact absurd asks.1 (by simp [Node.terminal, Node.terminalOpcode, Node.filterOpcode])
    · obtain ⟨kind, asks', suits, held⟩ := tests.asks
      obtain rfl := asks'.unique asks
      refine tests.entered .variable name (Argument.entered?_eq_variable.mpr ?_)
      cases isPath : leaf.2 with
      | path path' =>
          rw [isPath] at held
          rw [HasBlob.text sound held] at read
          cases read
          exact ⟨path, rfl, leading⟩
      | regex | name | keyword | address | entitlement =>
          rw [isPath] at suits
          cases suits

theorem Refers.image (sound : builder.Sound) {bytes : List UInt8} {place : UInt16}
    (refers : builder.Refers known bytes) (held : builder.HasBlob place bytes) :
    builder.image.Refers place := by
  cases refers with
  | @table kind text member same =>
      obtain ⟨index, bound, rfl⟩ := List.mem_iff_getElem.mp member
      have stored := (sound.tables kind).stored
      have bound' : index < (builder.table kind).places.toList.length := stored.length_eq ▸ bound
      have isPlace := HasBlob.place_eq sound (stored.get bound bound') (same ▸ held)
      have listed : place ∈ (builder.table kind).places.toList :=
        isPlace ▸ List.getElem_mem bound'
      refine .table ?_
      match kind, listed with
      | .regex, listed => exact List.mem_append_left _ (List.mem_append_left _ listed)
      | .variable, listed => exact List.mem_append_left _ (List.mem_append_right _ listed)
      | .entitlement, listed => exact List.mem_append_right _ listed
  | argument member tests stored same =>
      obtain ⟨kind, asks, suits, has⟩ := tests.asks
      have isPlace := HasBlob.place_eq sound (has.blob stored) (same ▸ held)
      obtain ⟨notRegex, notEntitlement⟩ := suits.ne_of_stored stored
      exact .argument member asks notRegex notEntitlement isPlace
  | @name record place' member named stored =>
      obtain ⟨placed, inside, same⟩ := exists_placed ProfileRecord.nameOffset (fun _ _ => rfl) member
      refine .name inside ?_
      rw [same, named, HasBlob.place_eq sound stored held]

theorem AllUsed.image (used : builder.AllUsed known) : builder.image.AllUsed where
  nodes := by
    intro index bound
    obtain ⟨record, member, entry, enters, reached⟩ := used.reached index bound
    obtain ⟨placed, inside, same⟩ := exists_placed ProfileRecord.operations (fun _ _ => rfl) member
    exact ⟨placed, inside, entry, same ▸ enters, reached⟩
  regexes := fun index bound => used.tidy.regex_asked used.graph.sound bound
  entitlements := fun index bound => used.tidy.entitlement_asked used.graph.sound bound
  variable_distinct := (used.graph.sound.tables .variable).texts.distinct
  variable_iff := used.tidy.variable_iff used.graph.sound
  blobs := by
    have sound := used.graph.sound
    refine ⟨builder.blobList, rfl, fun before bytes after split => ?_⟩
    have stands : Interner.StandsAt DataArea.width builder.blobList bytes
        (Interner.extent DataArea.width before) := ⟨before, after, split, rfl⟩
    have near := toNat_ofNat_of_le (sound.place_le _ _ stands)
    have held : builder.HasBlob (.ofNat (Interner.extent DataArea.width before)) bytes := by
      rwa [HasBlob, near]
    refine ⟨_, ?_, HasBlob.blob sound held, (used.tidy.blobs bytes ?_).image sound held⟩
    · rw [near, DataArea.encodeBlobs_length]
    · simp [split]

end Builder

/-! Variables. -/

namespace Evaluator

variable {evaluator : Evaluator} {one other : Bindings}

theorem walk_congr {left right : Evaluator} {request : Request}
    (images : right.image = left.image)
    (same : ∀ (index : Nat) (node : Node), left.image.nodes[index]? = some node →
      node.opcode = Node.filterOpcode →
      right.nodeMatches request index node = left.nodeMatches request index node)
    (operation : Nat) (source : Option Nat) (unvisited : List Nat) (index : Nat) :
    right.walk request operation source unvisited index =
      left.walk request operation source unvisited index := by
  fun_induction Evaluator.walk left request operation source unvisited index with
  | case1 source unvisited index missing => rw [walk, images, missing]
  | case2 source unvisited index node found member isTerminal verdict decoded =>
      simp [walk, images, found, member, isTerminal, decoded]
  | case3 source unvisited index node found member isTerminal undecoded =>
      simp [walk, images, found, member, isTerminal, undecoded]
  | case4 source unvisited index node found member other isFilter error failed =>
      simp [walk, images, found, member, other, isFilter, same index node found isFilter, failed]
  | case5 source unvisited index node found member other isFilter holds matched next ih =>
      rw [← ih, walk, images]
      simp [found, member, other, isFilter, same index node found isFilter, matched, next]
  | case6 source unvisited index node found member other notFilter =>
      simp [walk, images, found, member, other, notFilter]
  | case7 source unvisited index node found visited =>
      simp [walk, images, found, visited]

theorem expand_congr {path : List Char}
    (agree : ∀ name, patternVariable? path = some name →
      one.get? (String.ofList name) = other.get? (String.ofList name)) :
    expand one path = expand other path := by
  rw [expand, expand]
  cases leading : patternVariable? path with
  | none => rfl
  | some name => simp only [agree name leading]

theorem nodeMatches_congr {request : Request} {index : Nat} {node : Node}
    (agree : node.Asks .path → ∀ path name, evaluator.image.data.text node.argument = .ok path →
      patternVariable? path.toList = some name →
      one.get? (String.ofList name) = other.get? (String.ofList name))
    (isFilter : node.opcode = Node.filterOpcode) :
    (evaluator.under one).nodeMatches request index node =
      (evaluator.under other).nodeMatches request index node := by
  rw [nodeMatches, nodeMatches]
  cases found : Catalogue.byId? node.filter with
  | none => rfl
  | some filter =>
      cases kindEq : filter.kind with
      | path =>
          have asks : node.Asks .path := ⟨isFilter, filter, found, kindEq⟩
          cases read : evaluator.image.data.text node.argument with
          | error error => simp [kindEq, argumentMatches, under, read]
          | ok path =>
              have expanded : expand one path.toList = expand other path.toList :=
                expand_congr fun name leading => agree asks path name read leading
              simp [kindEq, argumentMatches, under, read, pathMatches, expanded]
      | regex | name | keyword | address | entitlement => simp [argumentMatches, kindEq, under]

theorem evaluate_congr (used : evaluator.image.AllUsed)
    (agree : ∀ name ∈ evaluator.image.variableNames, one.get? name = other.get? name)
    (profile : Nat) (request : Request) :
    (evaluator.under one).evaluate profile request =
      (evaluator.under other).evaluate profile request := by
  have same : ∀ (index : Nat) (node : Node), evaluator.image.nodes[index]? = some node →
      node.opcode = Node.filterOpcode →
      (evaluator.under one).nodeMatches request index node =
        (evaluator.under other).nodeMatches request index node := by
    intro index node found isFilter
    refine nodeMatches_congr (fun asks path name read leading => ?_) isFilter
    refine agree _ ((used.variable_iff _).mpr ⟨node, List.mem_of_getElem? found, asks, path, read, ?_⟩)
    rwa [String.toList_ofList, ← patternVariable?_eq_some]
  have walks : ∀ operation source unvisited index,
      (evaluator.under one).walk request operation source unvisited index =
        (evaluator.under other).walk request operation source unvisited index :=
    walk_congr rfl same
  simp only [evaluate, walks]
  rfl

end Evaluator

theorem mem_firstUses {name : String} {names : List String} :
    name ∈ firstUses names ↔ name ∈ names := by
  induction names with
  | nil => rfl
  | cons first rest ih =>
      rw [firstUses, List.mem_cons, List.mem_cons, List.mem_filter, ih]
      by_cases same : name = first <;> simp [same]

theorem Policy.mem_patternVariables {policy : Policy} {name : String} :
    name ∈ policy.patternVariables ↔
      ∃ leaf ∈ policy.leaves, leaf.2.entered? = some (.variable, name) := by
  rw [patternVariables, mem_firstUses, List.mem_filterMap]
  refine exists_congr fun leaf => and_congr_right' ?_
  cases leaf.2 with
  | path path => simp [Argument.entered?]
  | regex | name | keyword | address | entitlement => simp [Argument.entered?]

structure Evaluator.Economical (evaluator : Evaluator) (table : OperationTable)
    (parameters : Bindings) (sources : List String) : Prop where
  used : evaluator.image.AllUsed
  bindings : ∀ one other : Bindings,
    (∀ name ∈ evaluator.image.variableNames, one.get? name = other.get? name) →
    ∀ profile request, (evaluator.under one).evaluate profile request =
      (evaluator.under other).evaluate profile request
  variable_written : ∀ name ∈ evaluator.image.variableNames, ∃ source ∈ sources, ∃ policy,
    Policy.check table source parameters = .ok policy ∧ name ∈ policy.patternVariables

/-- Compiled profiles hold nothing that is not used, and their tables of variables are exact. -/
theorem compiled_economical {sources : List String} {profile : CompiledProfile}
    (compiled : CompiledFrom table parameters sources profile) :
    ∃ evaluator, Evaluator.ofBytes profile.bytecode table = .ok evaluator ∧
      evaluator.Economical table parameters sources := by
  obtain ⟨builder, used, counted, finished⟩ := compiled.allUsed
  obtain ⟨evaluator, accepted, _, reads⟩ := used.graph.readBy counted finished
  have imageUsed : evaluator.image.AllUsed := reads.image_eq ▸ used.image
  refine ⟨evaluator, accepted, imageUsed, ?_, ?_⟩
  · exact fun one other agree => Evaluator.evaluate_congr imageUsed agree
  · intro name member
    rw [reads.image_eq] at member
    obtain ⟨node, _, leaf, tests, entered⟩ := used.tidy.texts .variable name member
    obtain ⟨source, listed, policy, checked, inside⟩ := tests.known
    exact ⟨source, listed, policy, checked,
      Policy.mem_patternVariables.mpr ⟨leaf, inside, entered⟩⟩

set_option maxRecDepth 100000 in
theorem compiled_economical_variable : ∃ profile,
    CompiledFrom ⟨["default"], by decide, rfl, by decide⟩ .empty
      ["(version 1) (allow default (literal \"$\x7bA\x7d\"))"] profile ∧
    ∃ evaluator, Evaluator.ofBytes profile.bytecode ⟨["default"], by decide, rfl, by decide⟩ =
        .ok evaluator ∧
      evaluator.Economical ⟨["default"], by decide, rfl, by decide⟩ .empty
        ["(version 1) (allow default (literal \"$\x7bA\x7d\"))"] := by
  have accepted : (compile ⟨["default"], by decide, rfl, by decide⟩
      "(version 1) (allow default (literal \"$\x7bA\x7d\"))" .empty).isOk = true := by cbv
  obtain ⟨profile, compiled⟩ := Outcome.exists_of_isOk accepted
  exact ⟨profile, .single compiled, compiled_economical (.single compiled)⟩

end SandboxPolicy
