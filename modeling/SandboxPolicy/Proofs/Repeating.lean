import SandboxPolicy.Proofs.Overflow

/-!
Steps of a builder that are taken again. What they stored is found where it stands, so they give
the same answer and change nothing, however the builder has grown in between. Slots that share a
chain could therefore lower it anew: the memory of chains makes no difference.
-/

namespace SandboxPolicy

open Steps

namespace Builder

variable {ε α β : Type} {builder middle after later : Builder}

/-- The step gives this answer in every builder that holds what this one does, and changes none. -/
def Repeats (builder : Builder) (step : EStateM ε Builder α) (value : α) : Prop :=
  ∀ later, later.Sound → builder.Grows later → step later = .ok value later

def Repeatable (step : EStateM ε Builder α) : Prop :=
  ∀ builder value after, builder.Sound → step builder = .ok value after →
    builder.Advances after ∧ after.Repeats step value

theorem Advances.trans (first : builder.Advances middle) (second : middle.Advances after) :
    builder.Advances after :=
  ⟨second.sound, first.grows.trans second.grows, second.profiles_eq.trans first.profiles_eq⟩

theorem Repeats.grow {step : EStateM ε Builder α} {value : α} (repeats : builder.Repeats step value)
    (grown : builder.Grows after) : after.Repeats step value :=
  fun later sound more => repeats later sound (grown.trans more)

theorem Repeatable.pure (value : α) : Repeatable (pure value : EStateM ε Builder α) := by
  intro builder found after sound done
  cases done
  exact ⟨sound.advances, fun _ _ _ => rfl⟩

theorem Repeatable.throw (error : ε) : Repeatable (throw error : EStateM ε Builder α) := by
  intro builder value after sound done
  cases done

theorem Repeatable.bind {first : EStateM ε Builder α} {next : α → EStateM ε Builder β}
    (begins : Repeatable first) (continues : ∀ value, Repeatable (next value)) :
    Repeatable (first >>= next) := by
  intro builder result after sound done
  obtain ⟨value, middle, started, ended⟩ := bind_eq_ok.mp done
  obtain ⟨advanced, repeats⟩ := begins builder value middle sound started
  obtain ⟨advanced', repeats'⟩ := continues value middle result after advanced.sound ended
  refine ⟨advanced.trans advanced', fun later sound' grown => ?_⟩
  rw [bind_of_ok (repeats.grow advanced'.grows later sound' grown)]
  exact repeats' later sound' grown

theorem node_repeatable (entry : Node) : Repeatable (node entry) := by
  intro builder index after sound added
  obtain ⟨advanced, held⟩ := sound.node added
  refine ⟨advanced, fun later sound' grown => ?_⟩
  have stands := Interner.standsAt_one.mpr (held.grow grown)
  have found := (sound'.nodes.find?_iff entry index.toNat).mpr stands
  exact node_eq_ok.mpr (.inl ⟨index.toNat, found, UInt16.ofNat_toNat.symm, rfl⟩)

theorem blob_repeatable (bytes : List UInt8) : Repeatable (blob bytes) := by
  intro builder place after sound added
  obtain ⟨advanced, held⟩ := sound.blob added
  refine ⟨advanced, fun later sound' grown => ?_⟩
  have found := (sound'.blobs.find?_iff bytes place.toNat).mpr (held.grow grown)
  exact blob_eq_ok.mpr (.inl ⟨place.toNat, found, UInt16.ofNat_toNat.symm, rfl⟩)

theorem text_repeatable (value : String) : Repeatable (text value) := blob_repeatable _

theorem entry_repeatable (kind : TableKind) (value : String) : Repeatable (entry kind value) := by
  intro builder index after sound added
  obtain ⟨advanced, held⟩ := sound.entry added
  refine ⟨advanced, fun later sound' grown => ?_⟩
  have stands := Interner.standsAt_one.mpr (held.grow grown)
  have found := ((sound'.tables kind).texts.find?_iff value index.toNat).mpr stands
  exact entry_eq_ok.mpr (.inl ⟨index.toNat, found, UInt16.ofNat_toNat.symm, rfl⟩)

end Builder

namespace Lower

open Builder

variable {builder after : Builder}

theorem build_repeatable {α : Type} {step : Build α} (repeatable : Repeatable step) :
    Repeatable (build step) := by
  intro builder value after sound done
  obtain ⟨advanced, repeats⟩ := repeatable builder value after sound (build_eq_ok.mp done)
  exact ⟨advanced, fun later sound' grown => build_eq_ok.mpr (repeats later sound' grown)⟩

theorem terminal_repeatable (verdict : Verdict) : Repeatable (terminal verdict) :=
  build_repeatable (node_repeatable _)

theorem argument_repeatable (value : Argument) : Repeatable (argument value) := by
  rcases argument_cases value with ⟨kind, text, same⟩ | ⟨text, same⟩ | ⟨name, path, same⟩
  · rw [same]
    exact entry_repeatable kind text
  · rw [same]
    exact text_repeatable text
  · rw [same]
    exact (entry_repeatable .variable name).bind fun _ => text_repeatable path

theorem leaf_repeatable (name : String) (value : Argument) (onMatch onUnmatch : UInt16) :
    Repeatable (filter onMatch onUnmatch (.leaf name value)) := by
  rw [filter]
  cases Catalogue.byName? name with
  | none => exact .throw _
  | some known =>
      exact build_repeatable ((argument_repeatable value).bind fun place => node_repeatable _)

theorem chain_repeatable (chain : Chain) : Repeatable (Lower.chain chain) := by
  have closed : Closed fun _ (step : Lower UInt16) => Repeatable step := ⟨.pure, .bind⟩
  apply chain_closed closed (terminal_repeatable chain.base)
  · exact fun item _ => terminal_repeatable item.2
  · exact fun item _ leaf _ => leaf_repeatable leaf.1 leaf.2

variable {table : OperationTable} {rules : List (List Nat × Rule)} {memory : ChainMemory}

def chainAt (table : OperationTable) (rules : List (List Nat × Rule)) (number : Nat) :
    Lower UInt16 :=
  chain (.ofRules (rulesAt rules (coveringRules table number rules)))

def Recalls (builder : Builder) (rules : List (List Nat × Rule)) (memory : ChainMemory) : Prop :=
  ∀ covering entry, memory[covering]? = some entry →
    builder.Repeats (chain (.ofRules (rulesAt rules covering))) entry

theorem Recalls.grow (recalls : Recalls builder rules memory) (grown : builder.Grows after) :
    Recalls after rules memory :=
  fun covering entry known => (recalls covering entry known).grow grown

theorem Recalls.insert (recalls : Recalls builder rules memory) {covering : List Nat}
    {entry : UInt16} (repeats : builder.Repeats (chain (.ofRules (rulesAt rules covering))) entry) :
    Recalls builder rules (memory.insert covering entry) := by
  intro other found known
  rw [Std.HashMap.getElem?_insert] at known
  split at known
  next same =>
    obtain rfl := eq_of_beq same
    obtain rfl := Option.some.inj known
    exact repeats
  next => exact recalls other found known

theorem slot_ends (number : Nat) (sound : builder.Sound)
    (recalls : Recalls builder rules memory) :
    (∃ entry middle memory', chainAt table rules number builder = .ok entry middle ∧
      slot table rules memory number builder = .ok (entry, memory') middle ∧
      middle.Sound ∧ Recalls middle rules memory') ∨
    (∃ error middle, chainAt table rules number builder = .error error middle ∧
      slot table rules memory number builder = .error error middle) := by
  simp only [slot]
  cases known : memory[coveringRules table number rules]? with
  | some entry =>
      have again := recalls _ _ known builder sound (.refl builder)
      exact .inl ⟨entry, builder, memory, again, rfl, sound, recalls⟩
  | none =>
      cases lowered : chainAt table rules number builder with
      | error error middle =>
          exact .inr ⟨error, middle, rfl, bind_eq_error.mpr (.inl lowered)⟩
      | ok entry middle =>
          obtain ⟨advanced, repeats⟩ := chain_repeatable _ builder entry middle sound lowered
          exact .inl ⟨entry, middle, _, rfl, bind_eq_ok.mpr ⟨entry, middle, lowered, rfl⟩,
            advanced.sound, (recalls.grow advanced.grows).insert repeats⟩

/-- The memory makes no difference: every slot may lower its chain anew. -/
theorem slots_eq_mapM (numbers : List Nat) (sound : builder.Sound)
    (recalls : Recalls builder rules memory) :
    slots table rules memory numbers builder = numbers.mapM (chainAt table rules) builder := by
  induction numbers generalizing builder memory with
  | nil => rfl
  | cons number rest ih =>
      rw [List.mapM_cons, slots]
      obtain ⟨entry, middle, memory', lowered, ended, sound', recalls'⟩ |
        ⟨error, middle, lowered, ended⟩ := slot_ends number sound recalls
      · rw [bind_of_ok lowered, bind_of_ok ended]
        dsimp only
        rw [bind_apply, bind_apply, ih sound' recalls']
      · rw [bind_apply, bind_apply, lowered, ended]

end Lower

end SandboxPolicy
