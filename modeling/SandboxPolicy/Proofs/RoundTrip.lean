import Mathlib
import SandboxPolicy.Proofs.BuilderRuns
import SandboxPolicy.Proofs.Layout

/-!
Reading undoes writing: after any calls of a builder, the profile that it writes is read back as
what the calls put into it, under the numbers that they were answered with.
-/

namespace SandboxPolicy

structure Image.Shows (image : Image) (kind : ProfileKind) (operationCount : Nat)
    (answered : List AnsweredCall) : Prop where
  kind_eq : image.header.kind = kind
  operationCount : image.header.operationCount.toNat = operationCount
  nodeCount : image.header.nodeCount.toNat = image.nodes.length
  regexCount : image.header.regexCount.toNat = image.regexes.length
  variableCount : image.header.variableCount.toNat = image.variablePlaces.length ∧
    image.variableNames.length = image.variablePlaces.length
  entitlementCount : image.header.entitlementCount.toNat = image.entitlementPlaces.length ∧
    image.entitlements.length = image.entitlementPlaces.length
  otherCounts : image.header.variableStateCount.toNat = image.variableStates.length ∧
    image.header.instructionCount.toNat = image.instructions.length ∧
    image.header.blockCount.toNat = image.blocks.length
  recordCount : image.header.recordCount = image.profiles.length
  profileCount : image.header.profileCount.toNat =
    if kind = .single then 0 else image.profiles.length
  node : ∀ entry index, (.node entry, .ok (some index)) ∈ answered →
    image.nodes[index.toNat]? = some entry
  blob : ∀ bytes place, (.blob bytes, .ok (some place)) ∈ answered →
    image.data.blob place = .ok bytes
  text : ∀ value place, (.text value, .ok (some place)) ∈ answered →
    image.data.text place = .ok value
  regex : ∀ value index, (.entry .regex value, .ok (some index)) ∈ answered →
    image.regex index = .ok value
  variableName : ∀ value index, (.entry .variable value, .ok (some index)) ∈ answered →
    image.variableNames[index.toNat]? = some value
  entitlement : ∀ value index, (.entry .entitlement value, .ok (some index)) ∈ answered →
    image.entitlement? index = some value
  operations : image.profiles.map ProfileRecord.operations =
    (answered.filterMap acceptedProfile?).map Prod.snd
  names : image.profiles.map image.profileName =
    (answered.filterMap acceptedProfile?).map fun given =>
      .ok (if kind = .single then Image.singleName else given.1.getD "")
  nodesOffset : 8 ∣ image.nodesOffset
  dataOffset : 8 ∣ image.dataOffset

namespace Builder

variable {builder : Builder}

theorem Follows.shows {start : Builder} {answered : List AnsweredCall}
    (followed : start.Follows answered builder) (fresh : start.profiles.toList = [])
    {bytes : List UInt8} (finished : builder.finish = .ok bytes) :
    builder.image.Shows start.kind start.operationCount.toNat answered := by
  have sound := followed.sound
  have kindEq := followed.grows.kind_eq
  obtain ⟨nodeCount, variableCount, regexCount, entitlementCount⟩ := header_counts sound
  have recordCount := recordCount_eq sound finished
  obtain ⟨added, profiles, records⟩ := followed.profiles
  rw [fresh, List.nil_append] at profiles
  have placedLength := @ProfileRecord.placed_length builder.header.plan.recordsOffset
    (ProfileRecord.length builder.kind builder.operationCount.toNat) builder.profiles.toList
  have counted : builder.header.recordCount = builder.image.profiles.length :=
    recordCount.trans placedLength.symm
  exact {
    kind_eq := kindEq
    operationCount := congrArg UInt8.toNat followed.grows.count_eq
    nodeCount := nodeCount
    regexCount := regexCount
    variableCount := ⟨variableCount, (sound.places_size .variable).symm⟩
    entitlementCount := ⟨entitlementCount, (sound.places_size .entitlement).symm⟩
    otherCounts := ⟨rfl, rfl, rfl⟩
    recordCount := counted
    profileCount := by
      rw [← kindEq]
      cases same : builder.kind with
      | single => simp [image, header, same]
      | collection =>
          rw [← counted, Header.recordCount]
          simp [image, header, same]
    node := fun entry index member => followed.honours _ _ member
    blob := fun bytes place member => HasBlob.blob sound (followed.honours _ _ member)
    text := fun value place member => HasBlob.text sound (followed.honours _ _ member)
    regex := fun value index member => HasText.regex sound (followed.honours _ _ member)
    variableName := fun value index member => followed.honours _ _ member
    entitlement := fun value index member => followed.honours _ _ member
    operations := by
      rw [image_map _ _ fun _ _ => rfl, profiles]
      exact map_eq_of_forall₂ (fun record given kept => kept.1) records
    names := by
      rw [image_map _ _ fun _ _ => rfl, profiles, ← kindEq]
      exact map_eq_of_forall₂ (fun record given kept => kept.2.profileName sound) records
    nodesOffset := dvd_roundUp _
    dataOffset := Nat.dvd_add (Nat.dvd_add (dvd_roundUp _) (Nat.dvd_mul_right _ _))
      (Nat.dvd_mul_right_of_dvd (by decide) _) }

def written (kind : ProfileKind) (operationCount : Nat) (calls : List BuilderCall) :
    Except BytecodeError (List AnsweredCall × List UInt8) :=
  match start kind operationCount with
  | .error error => .error error
  | .ok builder =>
      let (answered, last) := builder.run calls
      match last.finish with
      | .error error => .error error
      | .ok bytes => .ok (answered, bytes)

/-- Whatever a builder is asked for, the profile that it writes reads back as just that. -/
theorem written_reads_back {kind : ProfileKind} {operationCount : Nat} {calls : List BuilderCall}
    {answered : List AnsweredCall} {bytes : List UInt8}
    (done : written kind operationCount calls = .ok (answered, bytes)) :
    ∃ image, Image.ofBytes bytes = .ok image ∧ image.Shows kind operationCount answered := by
  cases started : start kind operationCount with
  | error error => simp [written, started] at done
  | ok builder =>
      obtain ⟨kindEq, countEq, fresh⟩ := start_kind started
      have followed := run_follows (start_sound started) calls
      cases finished : (builder.run calls).2.finish with
      | error error => simp [written, started, finished] at done
      | ok bytes' =>
          have same : (builder.run calls).1 = answered ∧ bytes' = bytes := by
            simpa [written, started, finished] using done
          obtain ⟨rfl, rfl⟩ := same
          refine ⟨(builder.run calls).2.image, ofBytes_finish followed.sound finished, ?_⟩
          rw [← kindEq, ← countEq]
          exact followed.shows fresh finished

theorem written_reads_back_collection : ∃ image,
    Image.ofBytes [0, 128, 0, 0, 1, 0, 0, 0, 1, 0, 1, 0, 0, 0, 0, 0, 0, 0, 1, 0, 0, 0, 0, 0, 0, 0,
      0, 0, 0, 0, 0, 0, 1, 0, 97, 0, 0, 0, 0, 0, 1, 0, 112, 0, 0, 0, 0, 0] = .ok image ∧
    image.Shows .collection 1
      [(.profile (some "p") [], .error (.operationCount 1 0)), (.entry .regex "a", .ok (some 0)),
        (.text "a", .ok (some 0)), (.profile (some "p") [0], .ok none)] :=
  @written_reads_back .collection 1
    [.profile (some "p") [], .entry .regex "a", .text "a", .profile (some "p") [0]] _ _ (by cbv)

end Builder

end SandboxPolicy
