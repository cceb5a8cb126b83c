import Mathlib
import SandboxPolicy.Proofs.BuilderSteps

/-!
Any calls of a builder, one after the other, some of which may fail. What it answered to one of
them holds after all of them, and its profiles are those that it accepted, in order. A call that
fails could as well have been left out.
-/

namespace SandboxPolicy

open Steps

inductive BuilderCall where
  | node (entry : Node)
  | blob (bytes : List UInt8)
  | text (value : String)
  | entry (kind : TableKind) (value : String)
  | profile (name : Option String) (operations : List UInt16)

namespace BuilderCall

def step : BuilderCall → Build (Option UInt16)
  | .node value => some <$> Builder.node value
  | .blob value => some <$> Builder.blob value
  | .text value => some <$> Builder.text value
  | .entry kind value => some <$> Builder.entry kind value
  | .profile name operations => (fun _ => none) <$> Builder.addProfile name operations

def outcome (call : BuilderCall) (builder : Builder) :
    Except BytecodeError (Option UInt16) × Builder :=
  match call.step builder with
  | .ok answer after => (.ok answer, after)
  | .error error after => (.error error, after)

end BuilderCall

abbrev AnsweredCall := BuilderCall × Except BytecodeError (Option UInt16)

def acceptedProfile? : AnsweredCall → Option (Option String × List UInt16)
  | (.profile name operations, .ok _) => some (name, operations)
  | _ => none

namespace Builder

def run (builder : Builder) : List BuilderCall → List AnsweredCall × Builder
  | [] => ([], builder)
  | call :: rest =>
      let (answer, next) := call.outcome builder
      let (answered, last) := next.run rest
      ((call, answer) :: answered, last)

def Honours (builder : Builder) : BuilderCall → Option UInt16 → Prop
  | .node entry, some index => builder.HasNode index entry
  | .blob bytes, some place => builder.HasBlob place bytes
  | .text value, some place => builder.HasBlob place (utf8Bytes value)
  | .entry kind value, some index => builder.HasText kind index value
  | _, _ => True

def Records (builder : Builder) (record : ProfileRecord)
    (given : Option String × List UInt16) : Prop :=
  record.operations = given.2 ∧ builder.Names record (given.1.getD "")

variable {before builder after : Builder}

theorem Honours.grow {call : BuilderCall} {answer : Option UInt16}
    (kept : before.Honours call answer) (grown : before.Grows after) :
    after.Honours call answer := by
  cases answer with
  | none => cases call <;> trivial
  | some number =>
      cases call with
      | node entry => exact HasNode.grow kept grown
      | blob bytes => exact HasBlob.grow kept grown
      | text value => exact HasBlob.grow kept grown
      | entry kind value => exact HasText.grow kept grown
      | profile => trivial

theorem Records.grow {record : ProfileRecord} {given : Option String × List UInt16}
    (kept : before.Records record given) (grown : before.Grows after) :
    after.Records record given :=
  ⟨kept.1, kept.2.grow grown⟩

structure Follows (before : Builder) (answered : List AnsweredCall) (after : Builder) : Prop where
  sound : after.Sound
  grows : before.Grows after
  honours : ∀ call answer, (call, .ok answer) ∈ answered → after.Honours call answer
  profiles : ∃ added, after.profiles.toList = before.profiles.toList ++ added ∧
    List.Forall₂ after.Records added (answered.filterMap acceptedProfile?)

theorem Follows.nil (sound : builder.Sound) : builder.Follows [] builder where
  sound := sound
  grows := .refl builder
  honours := by simp
  profiles := ⟨[], by simp⟩

theorem Follows.append {middle : Builder} {first second : List AnsweredCall}
    (left : before.Follows first middle) (right : middle.Follows second after) :
    before.Follows (first ++ second) after where
  sound := right.sound
  grows := left.grows.trans right.grows
  honours := by
    intro call answer member
    rcases List.mem_append.mp member with early | late
    · exact (left.honours call answer early).grow right.grows
    · exact right.honours call answer late
  profiles := by
    obtain ⟨early, earlyList, earlyRecords⟩ := left.profiles
    obtain ⟨late, lateList, lateRecords⟩ := right.profiles
    refine ⟨early ++ late, by rw [lateList, earlyList, List.append_assoc], ?_⟩
    rw [List.filterMap_append]
    exact List.rel_append (earlyRecords.imp fun _ _ kept => kept.grow right.grows) lateRecords

theorem Advances.follows {call : BuilderCall} {answer : Option UInt16}
    (advanced : builder.Advances after) (honoured : after.Honours call answer)
    (other : acceptedProfile? (call, .ok answer) = none) :
    builder.Follows [(call, .ok answer)] after where
  sound := advanced.sound
  grows := advanced.grows
  honours := by
    intro call' answer' member
    cases List.mem_singleton.mp member
    exact honoured
  profiles := ⟨[], by simp [advanced.profiles_eq], by simp [other]⟩

theorem step_keeps {call : BuilderCall} {error : BytecodeError}
    (failed : call.step builder = .error error after) : after = builder := by
  cases call with
  | node entry =>
      simp only [BuilderCall.step, map_eq_error] at failed
      exact (node_eq_error.mp failed).2.2.2
  | blob bytes =>
      simp only [BuilderCall.step, map_eq_error] at failed
      exact (blob_eq_error.mp failed).2.1
  | text value =>
      simp only [BuilderCall.step, map_eq_error] at failed
      exact (blob_eq_error.mp failed).2.1
  | entry kind value =>
      simp only [BuilderCall.step, map_eq_error] at failed
      exact entry_keeps failed
  | profile name operations =>
      simp only [BuilderCall.step, map_eq_error] at failed
      exact addProfile_keeps failed

theorem step_follows (sound : builder.Sound) {call : BuilderCall} {answer : Option UInt16}
    (done : call.step builder = .ok answer after) :
    builder.Follows [(call, .ok answer)] after := by
  cases call with
  | node entry =>
      obtain ⟨index, added, rfl⟩ := map_eq_ok.mp done
      obtain ⟨advanced, held⟩ := sound.node added
      exact advanced.follows held rfl
  | blob bytes =>
      obtain ⟨place, added, rfl⟩ := map_eq_ok.mp done
      obtain ⟨advanced, held⟩ := sound.blob added
      exact advanced.follows held rfl
  | text value =>
      obtain ⟨place, added, rfl⟩ := map_eq_ok.mp done
      obtain ⟨advanced, held⟩ := sound.text added
      exact advanced.follows held rfl
  | entry kind value =>
      obtain ⟨index, added, rfl⟩ := map_eq_ok.mp done
      obtain ⟨advanced, held⟩ := sound.entry added
      exact advanced.follows held rfl
  | profile name operations =>
      obtain ⟨_, added, rfl⟩ := map_eq_ok.mp done
      obtain ⟨after_sound, grown, record, profiles, given, named⟩ := sound.addProfile added
      refine ⟨after_sound, grown, ?_, [record], profiles, ?_⟩
      · intro call answer member
        cases List.mem_singleton.mp member
        trivial
      · exact .cons ⟨given, named⟩ .nil

theorem outcome_follows (sound : builder.Sound) (call : BuilderCall) :
    builder.Follows [(call, (call.outcome builder).1)] (call.outcome builder).2 := by
  cases done : call.step builder with
  | ok answer after =>
      simp only [BuilderCall.outcome, done]
      exact step_follows sound done
  | error error after =>
      -- A call that fails leaves the builder as it was.
      have same := step_keeps done
      subst same
      simp only [BuilderCall.outcome, done]
      refine ⟨sound, .refl after, by simp, [], by simp, ?_⟩
      cases call <;> exact .nil

theorem run_follows (sound : builder.Sound) (calls : List BuilderCall) :
    builder.Follows (builder.run calls).1 (builder.run calls).2 := by
  induction calls generalizing builder with
  | nil => exact .nil sound
  | cons call rest ih =>
      have first := outcome_follows sound call
      exact first.append (ih first.sound)

/-! Calls that fail. -/

theorem outcome_keeps {call : BuilderCall} {error : BytecodeError}
    (failed : (call.outcome builder).1 = .error error) : (call.outcome builder).2 = builder := by
  cases done : call.step builder with
  | ok answer after => simp [BuilderCall.outcome, done] at failed
  | error fault after =>
      simp only [BuilderCall.outcome, done]
      exact step_keeps done

theorem run_cons (builder : Builder) (call : BuilderCall) (rest : List BuilderCall) :
    builder.run (call :: rest) =
      ((call, (call.outcome builder).1) :: ((call.outcome builder).2.run rest).1,
        ((call.outcome builder).2.run rest).2) := rfl

theorem run_append (builder : Builder) (first second : List BuilderCall) :
    builder.run (first ++ second) =
      ((builder.run first).1 ++ ((builder.run first).2.run second).1,
        ((builder.run first).2.run second).2) := by
  induction first generalizing builder with
  | nil => rfl
  | cons call rest ih => rw [List.cons_append, run_cons, ih, run_cons, List.cons_append]

def session (builder : Builder) (calls : List BuilderCall) :
    List AnsweredCall × Except BytecodeError (List UInt8) :=
  ((builder.run calls).1, (builder.run calls).2.finish)

/-- A call that fails has no effect on the answers to the calls after it, nor on what is written. -/
theorem session_leaves_out {earlier later : List BuilderCall} {call : BuilderCall}
    {error : BytecodeError}
    (failed : (call.outcome (builder.run earlier).2).1 = .error error) :
    ∃ answered written,
      builder.session (earlier ++ call :: later) =
        ((builder.run earlier).1 ++ (call, .error error) :: answered, written) ∧
      builder.session (earlier ++ later) = ((builder.run earlier).1 ++ answered, written) := by
  have kept := outcome_keeps failed
  have first : (builder.run earlier).2.run (call :: later) =
      ((call, .error error) :: ((builder.run earlier).2.run later).1,
        ((builder.run earlier).2.run later).2) := by
    rw [run_cons, failed, kept]
  refine ⟨((builder.run earlier).2.run later).1, ((builder.run earlier).2.run later).2.finish,
    ?_, ?_⟩
  · rw [session, run_append, first]
  · rw [session, run_append]

theorem session_leaves_out_profile : ∃ builder, start .collection 1 = .ok builder ∧
    ∃ answered written,
      builder.session [.text "a", .profile (some "p") [], .text "b", .profile (some "a") [0]] =
        ([(.text "a", .ok (some 0)), (.profile (some "p") [], .error (.operationCount 1 0))] ++
          answered, written) ∧
      builder.session [.text "a", .text "b", .profile (some "a") [0]] =
        ((.text "a", .ok (some 0)) :: answered, written) := by
  let fresh : Builder := ⟨.collection, 1, #[], .empty, .empty, .empty, .empty, .empty⟩
  have first : (fresh.run [.text "a"]).1 = [(.text "a", .ok (some 0))] := by cbv
  have failed : (BuilderCall.outcome (.profile (some "p") []) (fresh.run [.text "a"]).2).1 =
      .error (.operationCount 1 0) := by cbv
  obtain ⟨answered, written, whole, rest⟩ :=
    @session_leaves_out fresh [.text "a"] [.text "b", .profile (some "a") [0]] _ _ failed
  rw [first] at whole rest
  exact ⟨fresh, rfl, answered, written, whole, rest⟩

end Builder

end SandboxPolicy
