import Mathlib
import SandboxPolicy.Proofs.Overflow
import SandboxPolicy.Proofs.Reading
import SandboxPolicy.Proofs.Sharing

/-!
How much a builder holds. A step fails just where it would have to add to what is full already, and
no number is cut short on its way into the bytes: those that are answered are places in the builder,
and those that are written are its counts.
-/

namespace SandboxPolicy

open Steps

def Steps.Fails {ε σ α : Type} (step : EStateM ε σ α) (state : σ) : Prop :=
  ∃ error after, step state = .error error after

/-- An overflow is one of more entries than there is room for. -/
def BytecodeError.Exceeds : BytecodeError → Prop
  | .overflow _ count limit => limit < count
  | _ => True

theorem BuildFault.exceeds {error : BytecodeError} (fault : BuildFault error) : error.Exceeds := by
  obtain ⟨name, count, limit, rfl, many, _⟩ := fault.overflows
  exact many

namespace Builder

variable {builder : Builder}

def dataLength (builder : Builder) : Nat := (builder.blobList.flatMap DataArea.encodeBlob).length

/-- The counts of what the builder holds, whether a header has room for them or not. -/
def tally (builder : Builder) : Plan where
  flags := builder.kind.flags.toNat
  nodeCount := builder.nodeList.length
  blockCount := 0
  operationCount := builder.operationCount.toNat
  variableCount := (builder.textList .variable).length
  variableStateCount := 0
  profileCount := if builder.kind = .single then 0 else builder.profiles.size
  regexCount := (builder.textList .regex).length
  entitlementCount := (builder.textList .entitlement).length
  instructionCount := 0

structure Capacity (builder : Builder) : Prop where
  node : ∀ entry, Fails (Builder.node entry) builder ↔
    entry ∉ builder.nodeList ∧ builder.nodeList.length = nodeLimit
  blob : ∀ bytes, Fails (Builder.blob bytes) builder ↔
    bytes ∉ builder.blobList ∧ (65535 < bytes.length ∨ 65536 * 8 ≤ builder.dataLength)
  text : ∀ value, Fails (Builder.text value) builder ↔
    utf8Bytes value ∉ builder.blobList ∧
      (65535 < (utf8Bytes value).length ∨ 65536 * 8 ≤ builder.dataLength)
  entry : ∀ kind value, Fails (Builder.entry kind value) builder ↔
    value ∉ builder.textList kind ∧
      ((builder.textList kind).length = kind.limit ∨ Fails (Builder.text value) builder)
  profile : ∀ name operations, Fails (addProfile name operations) builder ↔
    operations.length ≠ builder.operationCount.toNat ∨
      (builder.kind = .single ∧ 0 < builder.profiles.size) ∨
      (builder.kind = .collection ∧ Fails (Builder.text (name.getD "")) builder)
  finish : (∃ error, builder.finish = .error error) ↔
    builder.profiles.size = 0 ∨ (builder.kind = .collection ∧ 65535 < builder.profiles.size)
  exceeds : ∀ (call : BuilderCall) error after,
    call.step builder = .error error after → error.Exceeds
  finish_exceeds : ∀ error, builder.finish = .error error → error.Exceeds
  answer : ∀ (call : BuilderCall) answer after,
    call.step builder = .ok answer after → after.Honours call answer
  written : ∀ output, builder.finish = .ok output → Plan.ofBytes output = builder.tally

section Sound

variable (sound : builder.Sound)
include sound

theorem Sound.node_fails_iff (entry : Node) : Fails (Builder.node entry) builder ↔
    entry ∉ builder.nodeList ∧ builder.nodeList.length = nodeLimit := by
  have next := sound.nodes_next
  have limit := sound.nodes_le
  have fresh := sound.nodes.find?_eq_none_iff entry
  constructor
  · rintro ⟨error, after, failed⟩
    obtain ⟨missing, full, _, _⟩ := node_eq_error.mp failed
    exact ⟨fresh.mp missing, by omega⟩
  · rintro ⟨absent, full⟩
    exact ⟨_, _, node_eq_error.mpr ⟨fresh.mpr absent, by omega, rfl, rfl⟩⟩

theorem Sound.dataLength_eq : builder.dataLength = 8 * builder.blobs.next := by
  rw [dataLength, DataArea.encodeBlobs_length, sound.blobs.next_eq, blobList]

theorem Sound.blob_fails_iff (bytes : List UInt8) : Fails (Builder.blob bytes) builder ↔
    bytes ∉ builder.blobList ∧ (65535 < bytes.length ∨ 65536 * 8 ≤ builder.dataLength) := by
  have length := sound.dataLength_eq
  have fresh := sound.blobs.find?_eq_none_iff bytes
  constructor
  · rintro ⟨error, after, failed⟩
    obtain ⟨missing, _, ⟨long, _⟩ | ⟨_, far, _⟩⟩ := blob_eq_error.mp failed
    · exact ⟨fresh.mp missing, .inl long⟩
    · exact ⟨fresh.mp missing, .inr (by omega)⟩
  · rintro ⟨absent, reason⟩
    by_cases long : 65535 < bytes.length
    · exact ⟨_, _, blob_eq_error.mpr ⟨fresh.mpr absent, rfl, .inl ⟨long, rfl⟩⟩⟩
    · have far : 65535 < builder.blobs.next := by omega
      exact ⟨_, _, blob_eq_error.mpr
        ⟨fresh.mpr absent, rfl, .inr ⟨Nat.le_of_not_lt long, far, rfl⟩⟩⟩

theorem Sound.entry_fails_iff (kind : TableKind) (value : String) :
    Fails (Builder.entry kind value) builder ↔ value ∉ builder.textList kind ∧
      ((builder.textList kind).length = kind.limit ∨ Fails (Builder.text value) builder) := by
  have next := sound.texts_next kind
  have limit : (builder.textList kind).length ≤ kind.limit := (sound.tables kind).size_le
  have fresh := (sound.tables kind).texts.find?_eq_none_iff value
  constructor
  · rintro ⟨error, after, failed⟩
    obtain ⟨missing, ⟨full, _, _⟩ | ⟨_, failed⟩⟩ := entry_eq_error.mp failed
    · exact ⟨fresh.mp missing, .inl (by omega)⟩
    · exact ⟨fresh.mp missing, .inr ⟨error, after, failed⟩⟩
  · rintro ⟨absent, reason⟩
    by_cases full : kind.limit ≤ (builder.table kind).texts.next
    · exact ⟨_, _, entry_eq_error.mpr ⟨fresh.mpr absent, .inl ⟨full, rfl, rfl⟩⟩⟩
    · obtain ⟨error, after, failed⟩ := reason.resolve_left (by omega)
      exact ⟨error, after, entry_eq_error.mpr
        ⟨fresh.mpr absent, .inr ⟨Nat.lt_of_not_le full, failed⟩⟩⟩

theorem Sound.finish_fails_iff : (∃ error, builder.finish = .error error) ↔
    builder.profiles.size = 0 ∨ (builder.kind = .collection ∧ 65535 < builder.profiles.size) := by
  rw [sound.finish_eq]
  simp only [Array.isEmpty_iff_size_eq_zero]
  split_ifs with empty many
  · simp [empty]
  · simp [many]
  · simp [empty, many]

theorem Sound.finish_exceeds {error : BytecodeError} (failed : builder.finish = .error error) :
    error.Exceeds := by
  rw [sound.finish_eq] at failed
  split_ifs at failed with empty many
  · cases failed
    trivial
  · cases failed
    exact many.2

theorem Sound.written_tally {output : List UInt8} (finished : builder.finish = .ok output) :
    Plan.ofBytes output = builder.tally := by
  obtain ⟨header, heads, _, read⟩ := Image.ofBytes_eq_ok.mp (ofBytes_finish sound finished)
  obtain ⟨_, _, _, _, same⟩ := Sections.read_eq_ok.mp read
  obtain rfl : builder.header = header := congrArg Image.header same
  obtain ⟨nodeCount, variableCount, regexCount, entitlementCount⟩ := header_counts sound
  have texts (kind : TableKind) :
      (builder.table kind).places.toList.length = (builder.textList kind).length := by
    rw [Array.length_toList, sound.places_size]
  rw [← heads.plan_eq, Header.plan, nodeCount, variableCount, regexCount, entitlementCount, tally,
    ← texts, ← texts, ← texts]
  have profiles : builder.header.profileCount.toNat =
      if builder.kind = .single then 0 else builder.profiles.size := by
    have counted := recordCount_eq sound finished
    cases kindEq : builder.kind with
    | single => simp [header, kindEq]
    | collection =>
        rw [Header.recordCount] at counted
        simpa [header, kindEq] using counted
  rw [profiles]
  rfl

end Sound

theorem addProfile_fails_iff (name : Option String) (operations : List UInt16)
    (builder : Builder) : Fails (addProfile name operations) builder ↔
      operations.length ≠ builder.operationCount.toNat ∨
        (builder.kind = .single ∧ 0 < builder.profiles.size) ∨
        (builder.kind = .collection ∧ Fails (text (name.getD "")) builder) := by
  rw [Fails, addProfile_apply]
  by_cases wrong : operations.length ≠ builder.operationCount.toNat
  · simp [wrong]
  · rw [if_neg wrong]
    cases kindEq : builder.kind with
    | single =>
        simp only [Array.isEmpty_iff_size_eq_zero]
        by_cases empty : builder.profiles.size = 0
        · simp [wrong, empty]
        · simp [empty, Nat.pos_of_ne_zero empty]
    | collection =>
        cases stored : text (name.getD "") builder <;> simp [wrong, Fails, stored]

theorem step_exceeds (call : BuilderCall) : FailsOnly BytecodeError.Exceeds call.step := by
  intro builder error after failed
  cases call with
  | node entry =>
      rw [BuilderCall.step, map_eq_error] at failed
      exact (node_fails entry builder error after failed).exceeds
  | blob bytes =>
      rw [BuilderCall.step, map_eq_error] at failed
      exact (blob_fails bytes builder error after failed).exceeds
  | text value =>
      rw [BuilderCall.step, map_eq_error] at failed
      exact (text_fails value builder error after failed).exceeds
  | entry kind value =>
      rw [BuilderCall.step, map_eq_error] at failed
      exact (entry_fails kind value builder error after failed).exceeds
  | profile name operations =>
      rw [BuilderCall.step, map_eq_error, addProfile_apply] at failed
      split at failed
      next =>
        cases failed
        trivial
      next =>
        cases kindEq : builder.kind with
        | single =>
            rw [kindEq] at failed
            dsimp only at failed
            split at failed
            next => cases failed
            next =>
              cases failed
              exact Nat.lt_succ_self 1
        | collection =>
            rw [kindEq] at failed
            cases stored : text (name.getD "") builder with
            | ok place middle => simp [stored] at failed
            | error found middle =>
                simp only [stored] at failed
                cases failed
                exact (text_fails _ _ _ _ stored).exceeds

theorem Sound.capacity (sound : builder.Sound) : builder.Capacity where
  node := sound.node_fails_iff
  blob := sound.blob_fails_iff
  text := fun value => sound.blob_fails_iff (utf8Bytes value)
  entry := sound.entry_fails_iff
  profile := fun name operations => addProfile_fails_iff name operations builder
  finish := sound.finish_fails_iff
  exceeds := fun call error after failed => step_exceeds call builder error after failed
  finish_exceeds := fun _ failed => sound.finish_exceeds failed
  answer := fun call answer _ done =>
    (step_follows sound done).honours call answer (List.mem_singleton_self _)
  written := fun _ finished => sound.written_tally finished

/-- After any calls, of which some may have failed, a builder has room for whatever fits into the
format, and for nothing else. -/
theorem run_capacity {kind : ProfileKind} {operationCount : Nat}
    (started : start kind operationCount = .ok builder) (calls : List BuilderCall) :
    (builder.run calls).2.Capacity ∧ (builder.run calls).2.kind = kind ∧
      (builder.run calls).2.operationCount.toNat = operationCount ∧
      ∀ kind count error, start kind count = .error error → error.Exceeds := by
  obtain ⟨kindEq, countEq, _⟩ := start_kind started
  have followed := run_follows (start_sound started) calls
  refine ⟨followed.sound.capacity, followed.grows.kind_eq.trans kindEq, ?_, ?_⟩
  · rw [followed.grows.count_eq, countEq]
  · intro kind count error failed
    rw [start] at failed
    split at failed
    next => cases failed
    next many =>
      cases failed
      exact Nat.lt_of_not_le many

/-- A blob of 65535 bytes is as long as can be, and a single profile has no other beside it. -/
theorem run_capacity_single : ∃ builder, start .single 1 = .ok builder ∧
    ∃ last, (builder.run [.profile none [0]]).2 = last ∧ last.Capacity ∧
      Fails (addProfile none [0]) last ∧ Fails (blob (List.replicate 65536 0)) last ∧
      ¬Fails (blob (List.replicate 65535 0)) last := by
  let fresh : Builder := ⟨.single, 1, #[], .empty, .empty, .empty, .empty, .empty⟩
  have started : start .single 1 = .ok fresh := rfl
  obtain ⟨capacity, kindEq, _⟩ := run_capacity started [.profile none [0]]
  have profiles : (fresh.run [.profile none [0]]).2.profiles.size = 1 := by cbv
  have blobs : (fresh.run [.profile none [0]]).2.blobList = [] := by cbv
  refine ⟨fresh, started, _, rfl, capacity, ?_, ?_, ?_⟩
  · exact (capacity.profile none [0]).mpr (.inr (.inl ⟨kindEq, by omega⟩))
  · refine (capacity.blob _).mpr ⟨?_, .inl ?_⟩
    · rw [blobs]
      exact List.not_mem_nil
    · rw [List.length_replicate]
      omega
  · rw [capacity.blob, dataLength, blobs]
    rintro ⟨_, long | far⟩
    · rw [List.length_replicate] at long
      omega
    · rw [List.flatMap_nil, List.length_nil] at far
      omega

end Builder

end SandboxPolicy
