import SandboxPolicy.Proofs.Building

/-!
The steps of a builder one by one, and any number of them in a row. After any steps, whether they
succeed or fail, the builder is sound, and what it answered still holds.
-/

namespace SandboxPolicy.Builder

open Steps

variable {builder after : Builder} {error : BytecodeError}

/-- The second builder is sound and holds all that the first does, and the same profiles. -/
structure Advances (before after : Builder) : Prop where
  sound : after.Sound
  grows : before.Grows after
  profiles_eq : after.profiles = before.profiles

theorem Sound.advances (sound : builder.Sound) : builder.Advances builder :=
  ⟨sound, .refl builder, rfl⟩

theorem toNat_ofNat_of_le {number : Nat} (small : number ≤ 65535) :
    (UInt16.ofNat number).toNat = number := by
  rw [UInt16.toNat_ofNat']
  omega

theorem Sound.nodes_next (sound : builder.Sound) :
    builder.nodes.next = builder.nodeList.length := by
  rw [sound.nodes.next_eq, Interner.extent_one, nodeList]

theorem Sound.texts_next (sound : builder.Sound) (kind : TableKind) :
    (builder.table kind).texts.next = (builder.textList kind).length := by
  rw [(sound.tables kind).texts.next_eq, Interner.extent_one, textList]

/-! Nodes. -/

theorem node_eq_ok {entry : Node} {index : UInt16} :
    node entry builder = .ok index after ↔
      (∃ place, builder.nodes.find? entry = some place ∧ index = .ofNat place ∧ after = builder) ∨
      (builder.nodes.find? entry = none ∧ builder.nodes.next < nodeLimit ∧
        index = .ofNat builder.nodes.next ∧ after = builder.withNode entry) := by
  simp only [node]
  cases found : builder.nodes.find? entry with
  | some place => simp [eq_comm]
  | none =>
      by_cases full : nodeLimit ≤ builder.nodes.next
      · simp [full, Nat.not_lt.mpr full]
      · simp [full, Nat.lt_of_not_le full, withNode, eq_comm]

theorem node_eq_error {entry : Node} :
    node entry builder = .error error after ↔
      builder.nodes.find? entry = none ∧ nodeLimit ≤ builder.nodes.next ∧
        error = .overflow "operation entries" (builder.nodes.next + 1) nodeLimit ∧
        after = builder := by
  simp only [node]
  cases found : builder.nodes.find? entry with
  | some place => simp
  | none =>
      by_cases full : nodeLimit ≤ builder.nodes.next
      · simp [full, eq_comm]
      · simp [full]

theorem Sound.node (sound : builder.Sound) {entry : Node} {index : UInt16}
    (added : Builder.node entry builder = .ok index after) :
    builder.Advances after ∧ after.HasNode index entry := by
  have limit := sound.nodes_le
  have next := sound.nodes_next
  rw [nodeLimit] at limit
  rcases node_eq_ok.mp added with ⟨place, found, rfl, rfl⟩ | ⟨fresh, room, rfl, rfl⟩
  · have stands := Interner.standsAt_one.mp ((sound.nodes.find?_iff entry place).mp found)
    have bound : place < after.nodeList.length := (List.getElem?_eq_some_iff.mp stands).1
    refine ⟨sound.advances, ?_⟩
    rw [HasNode, toNat_ofNat_of_le (by omega)]
    exact stands
  · refine ⟨⟨sound.withNode fresh room, withNode_grows builder entry, rfl⟩, ?_⟩
    rw [nodeLimit] at room
    rw [HasNode, toNat_ofNat_of_le (by omega), withNode_nodeList, next]
    simp

/-! Blobs and texts. -/

theorem blob_eq_ok {bytes : List UInt8} {place : UInt16} :
    blob bytes builder = .ok place after ↔
      (∃ found, builder.blobs.find? bytes = some found ∧ place = .ofNat found ∧
        after = builder) ∨
      (builder.blobs.find? bytes = none ∧ bytes.length ≤ 65535 ∧ builder.blobs.next ≤ 65535 ∧
        place = .ofNat builder.blobs.next ∧ after = builder.withBlob bytes) := by
  simp only [blob]
  cases found : builder.blobs.find? bytes with
  | some place => simp [eq_comm]
  | none =>
      by_cases long : 65535 < bytes.length
      · simp [long, Nat.not_le.mpr long]
      · by_cases far : 65535 < builder.blobs.next
        · simp [long, far, Nat.not_le.mpr far]
        · simp [long, far, Nat.le_of_not_lt long, Nat.le_of_not_lt far, withBlob, DataArea.width,
            eq_comm]

theorem blob_eq_error {bytes : List UInt8} :
    blob bytes builder = .error error after ↔
      builder.blobs.find? bytes = none ∧ after = builder ∧
        ((65535 < bytes.length ∧ error = .overflow "data entry" bytes.length 65535) ∨
          (bytes.length ≤ 65535 ∧ 65535 < builder.blobs.next ∧
            error = .overflow "data area" builder.blobs.next 65535)) := by
  simp only [blob]
  cases found : builder.blobs.find? bytes with
  | some place => simp
  | none =>
      by_cases long : 65535 < bytes.length
      · simp [long, Nat.not_le.mpr long, eq_comm, and_comm]
      · by_cases far : 65535 < builder.blobs.next
        · simp [long, far, Nat.le_of_not_lt long, eq_comm, and_comm]
        · simp [long, far]

theorem Sound.blob (sound : builder.Sound) {bytes : List UInt8} {place : UInt16}
    (added : Builder.blob bytes builder = .ok place after) :
    builder.Advances after ∧ after.HasBlob place bytes := by
  rcases blob_eq_ok.mp added with ⟨found, isFound, rfl, rfl⟩ | ⟨fresh, short, near, rfl, rfl⟩
  · have stands := (sound.blobs.find?_iff bytes found).mp isFound
    refine ⟨sound.advances, ?_⟩
    rw [HasBlob, toNat_ofNat_of_le (sound.place_le bytes found stands)]
    exact stands
  · refine ⟨⟨sound.withBlob fresh short near, withBlob_grows builder bytes, rfl⟩, ?_⟩
    rw [HasBlob, toNat_ofNat_of_le near, withBlob_blobList, Interner.standsAt_concat]
    exact Or.inr ⟨rfl, sound.blobs.next_eq⟩

theorem Sound.text (sound : builder.Sound) {value : String} {place : UInt16}
    (added : Builder.text value builder = .ok place after) :
    builder.Advances after ∧ after.HasBlob place (utf8Bytes value) := by
  exact sound.blob added

/-! Entries of the tables. -/

theorem text_keeps {value : String} {place : UInt16} (kind : TableKind)
    (added : text value builder = .ok place after) : after.table kind = builder.table kind := by
  rcases blob_eq_ok.mp added with ⟨_, _, _, rfl⟩ | ⟨_, _, _, _, rfl⟩
  · rfl
  · cases kind <;> rfl

theorem entry_apply (kind : TableKind) (value : String) (builder : Builder) :
    entry kind value builder =
      match (builder.table kind).texts.find? value with
      | some index => .ok (.ofNat index) builder
      | none =>
          if kind.limit ≤ (builder.table kind).texts.next then
            .error (.overflow kind.name ((builder.table kind).texts.next + 1) kind.limit) builder
          else
            match text value builder with
            | .error error after => .error error after
            | .ok place after =>
                .ok (.ofNat (builder.table kind).texts.next) (after.addText kind value place) := by
  rw [entry, bind_of_ok get_apply]
  cases (builder.table kind).texts.find? value with
  | some index => rfl
  | none =>
      by_cases full : kind.limit ≤ (builder.table kind).texts.next
      · simp only [full, if_true, bind_apply, throw_apply]
      · simp only [full, if_false, bind_apply]
        cases text value builder <;> rfl

theorem entry_eq_ok {kind : TableKind} {value : String} {index : UInt16} :
    entry kind value builder = .ok index after ↔
      (∃ found, (builder.table kind).texts.find? value = some found ∧ index = .ofNat found ∧
        after = builder) ∨
      ((builder.table kind).texts.find? value = none ∧
        (builder.table kind).texts.next < kind.limit ∧
        index = .ofNat (builder.table kind).texts.next ∧
        ∃ place middle, text value builder = .ok place middle ∧
          after = middle.addText kind value place) := by
  rw [entry_apply]
  cases found : (builder.table kind).texts.find? value with
  | some place => simp [eq_comm]
  | none =>
      by_cases full : kind.limit ≤ (builder.table kind).texts.next
      · simp [full, Nat.not_lt.mpr full]
      · cases text value builder with
        | error error middle => simp [full]
        | ok place middle => simp [full, Nat.lt_of_not_le full, eq_comm]

theorem entry_eq_error {kind : TableKind} {value : String} :
    entry kind value builder = .error error after ↔
      (builder.table kind).texts.find? value = none ∧
        ((kind.limit ≤ (builder.table kind).texts.next ∧ after = builder ∧
            error = .overflow kind.name ((builder.table kind).texts.next + 1) kind.limit) ∨
          ((builder.table kind).texts.next < kind.limit ∧
            text value builder = .error error after)) := by
  rw [entry_apply]
  cases found : (builder.table kind).texts.find? value with
  | some place => simp
  | none =>
      by_cases full : kind.limit ≤ (builder.table kind).texts.next
      · simp [full, Nat.not_lt.mpr full, eq_comm, and_comm]
      · cases text value builder with
        | error error middle => simp [full, Nat.lt_of_not_le full]
        | ok place middle => simp [full]

theorem entry_keeps {kind : TableKind} {value : String}
    (failed : entry kind value builder = .error error after) : after = builder := by
  rcases (entry_eq_error.mp failed).2 with ⟨_, same, _⟩ | ⟨_, stored⟩
  · exact same
  · exact (blob_eq_error.mp stored).2.1

theorem limit_le (kind : TableKind) : kind.limit ≤ 65535 := by
  cases kind <;> decide

theorem Sound.entry (sound : builder.Sound) {kind : TableKind} {value : String} {index : UInt16}
    (added : Builder.entry kind value builder = .ok index after) :
    builder.Advances after ∧ after.HasText kind index value := by
  have table := sound.tables kind
  have limit := limit_le kind
  have size := table.size_le
  rcases entry_eq_ok.mp added with
    ⟨found, isFound, rfl, rfl⟩ | ⟨fresh, room, rfl, place, middle, stored, rfl⟩
  · have stands := Interner.standsAt_one.mp ((table.texts.find?_iff value found).mp isFound)
    have bound := (List.getElem?_eq_some_iff.mp stands).1
    refine ⟨sound.advances, ?_⟩
    rw [HasText, toNat_ofNat_of_le (by omega)]
    exact stands
  · have next := sound.texts_next kind
    have kept := text_keeps kind stored
    obtain ⟨advanced, held⟩ := sound.text stored
    refine ⟨⟨?_, advanced.grows.trans (addText_grows middle kind value place), ?_⟩, ?_⟩
    · exact advanced.sound.addText (by rw [kept]; exact fresh) (by rw [kept]; exact room) held
    · rw [← advanced.profiles_eq]
      cases kind <;> rfl
    · rw [HasText, toNat_ofNat_of_le (by omega), textList, addText_table, if_pos rfl, kept, next]
      simp [textList]

/-! Profiles. -/

theorem addProfile_apply (name : Option String) (operations : List UInt16) (builder : Builder) :
    addProfile name operations builder =
      if operations.length ≠ builder.operationCount.toNat then
        .error (.operationCount builder.operationCount.toNat operations.length) builder
      else
        match builder.kind with
        | .single =>
            if builder.profiles.isEmpty then .ok () (builder.withRecord none operations)
            else .error (.overflow "profiles" 2 1) builder
        | .collection =>
            match text (name.getD "") builder with
            | .error error after => .error error after
            | .ok place after => .ok () (after.withRecord (some place) operations) := by
  rw [addProfile, bind_of_ok get_apply]
  by_cases wrong : operations.length ≠ builder.operationCount.toNat
  · rw [if_pos wrong, if_pos wrong]
    rfl
  · rw [if_neg wrong, if_neg wrong]
    cases builder.kind with
    | single => cases builder.profiles.isEmpty <;> rfl
    | collection =>
        simp only [bind_apply, map_apply]
        cases text (name.getD "") builder <;> rfl

theorem addProfile_eq_ok {name : Option String} {operations : List UInt16} :
    addProfile name operations builder = .ok () after ↔
      operations.length = builder.operationCount.toNat ∧
        ((builder.kind = .single ∧ builder.profiles.isEmpty ∧
            after = builder.withRecord none operations) ∨
          (builder.kind = .collection ∧ ∃ place middle,
            text (name.getD "") builder = .ok place middle ∧
              after = middle.withRecord (some place) operations)) := by
  rw [addProfile_apply]
  by_cases wrong : operations.length ≠ builder.operationCount.toNat
  · simp [wrong]
  · rw [if_neg wrong]
    have counted : operations.length = builder.operationCount.toNat := not_not.mp wrong
    cases kindEq : builder.kind with
    | single => cases alone : builder.profiles.isEmpty <;> simp [counted, eq_comm (a := after)]
    | collection =>
        cases stored : text (name.getD "") builder with
        | error error middle => simp [counted]
        | ok place middle => simp [counted, eq_comm (a := after)]

theorem Sound.addProfile (sound : builder.Sound) {name : Option String}
    {operations : List UInt16}
    (added : Builder.addProfile name operations builder = .ok () after) :
    after.Sound ∧ builder.Grows after ∧
      ∃ record, after.profiles.toList = builder.profiles.toList ++ [record] ∧
        record.operations = operations ∧ after.Names record (name.getD "") := by
  obtain ⟨counted, ⟨kindEq, alone, rfl⟩ | ⟨kindEq, place, middle, stored, rfl⟩⟩ :=
    addProfile_eq_ok.mp added
  · let record : ProfileRecord := ⟨builder.profiles.size, none, 0, 0, operations⟩
    have named : builder.Names record (name.getD "") := by simp [Names, kindEq, record]
    have grown := withRecord_grows builder none operations
    refine ⟨sound.withRecord (fun _ => alone) ⟨rfl, rfl, counted, _, named⟩, grown,
      record, by simp [Builder.withRecord, record], rfl, named.grow grown⟩
  · obtain ⟨advanced, held⟩ := sound.text stored
    have kindEq' : middle.kind = .collection := advanced.grows.kind_eq.trans kindEq
    let record : ProfileRecord := ⟨middle.profiles.size, some place, 0, 0, operations⟩
    have named : middle.Names record (name.getD "") := by
      simp only [Names, kindEq']
      exact ⟨place, rfl, held⟩
    have grown := withRecord_grows middle (some place) operations
    refine ⟨advanced.sound.withRecord (fun isSingle => ?_)
      ⟨rfl, rfl, counted.trans ?_, _, named⟩, advanced.grows.trans grown, record, ?_, rfl,
      named.grow grown⟩
    · rw [kindEq'] at isSingle
      cases isSingle
    · rw [advanced.grows.count_eq]
    · simp [Builder.withRecord, record, advanced.profiles_eq]

theorem addProfile_keeps {name : Option String} {operations : List UInt16}
    (failed : addProfile name operations builder = .error error after) : after = builder := by
  rw [addProfile_apply] at failed
  split at failed
  next => exact (EStateM.Result.error.inj failed).2.symm
  next =>
    cases kindEq : builder.kind with
    | single =>
        simp only [kindEq] at failed
        split at failed
        next => cases failed
        next => exact (EStateM.Result.error.inj failed).2.symm
    | collection =>
        simp only [kindEq] at failed
        cases stored : text (name.getD "") builder with
        | ok place middle => simp [stored] at failed
        | error found middle =>
            simp only [stored, EStateM.Result.error.injEq] at failed
            exact failed.2 ▸ (blob_eq_error.mp stored).2.1

end SandboxPolicy.Builder
