import ChunkCodecs.Proofs.Command.Actions

/-!
# What failing actions leave

An action on a desk yields something or fails, and either way it leaves a desk. A sequence of
actions fails where the first one of them fails that does, with everything done that was done
before. Each of the actions that can fail comes with the condition under which it does.

However a command ends, it has made no directory and removed no file.
-/

namespace ChunkCodecs

/-- Adding to a file leaves all directories and files. -/
theorem FileSystem.extends_append {files after : FileSystem} {path : String} {addition : Bytes}
    (added : files.append path addition = .ok after) : files.Extends after := by
  unfold FileSystem.append at added
  split at added <;> exact FileSystem.extends_write added

namespace Desk

/-- A record leaves all directories and files. -/
theorem extends_add (desk : Desk) (entry : Record) : desk.files.Extends (desk.add entry).files := by
  unfold add
  split
  · exact .refl desk.files
  · cases desk.log.path with
    | none => exact .refl desk.files
    | some path =>
      cases added : desk.files.append path (Text.Utf8.encode entry.line.toList) with
      | error fault =>
        simp only [added]
        exact .refl desk.files
      | ok files =>
        simp only [added]
        exact FileSystem.extends_append added

/-- Records leave all directories and files. -/
theorem extends_addAll (desk : Desk) (journal : Journal) :
    desk.files.Extends (desk.addAll journal).files := by
  induction journal generalizing desk with
  | nil => exact .refl desk.files
  | cons entry others inductionHypothesis =>
    exact (desk.extends_add entry).trans (inductionHypothesis (desk.add entry))

end Desk

namespace Action

variable {α β : Type} {desk after : Desk}

/-- An action on a desk fails and leaves a desk. -/
def Fails (action : Action α) (desk after : Desk) : Prop :=
  ∃ fault, action.run desk = .error fault after

/-- Every action yields something or fails. -/
theorem yields_or_fails (action : Action α) (desk : Desk) :
    (∃ value after, action.Yields desk value after) ∨ ∃ after, action.Fails desk after := by
  cases ended : action.run desk with
  | ok value after => exact .inl ⟨value, after, ended⟩
  | error fault after => exact .inr ⟨after, fault, ended⟩

/-- A sequence of actions fails where the first one does, or where the second one does after the
first one. -/
theorem fails_bind_iff {action : Action α} {next : α → Action β} :
    (action >>= next).Fails desk after ↔ action.Fails desk after ∨
      ∃ given between, action.Yields desk given between ∧ (next given).Fails between after := by
  simp only [Fails, Yields, EStateM.run, bind, EStateM.bind]
  cases action desk with
  | ok given between =>
    constructor
    · exact fun later => .inr ⟨given, between, rfl, later⟩
    · rintro (⟨_, ⟨⟩⟩ | ⟨_, _, ⟨⟩, later⟩)
      exact later
  | error fault between =>
    constructor
    · rintro ⟨_, ⟨⟩⟩
      exact .inl ⟨fault, rfl⟩
    · rintro (⟨_, ⟨⟩⟩ | ⟨_, _, ⟨⟩, _⟩)
      exact ⟨fault, rfl⟩

/-- What is done with the desk fails on the same desk. -/
theorem fails_get_bind_iff {next : Desk → Action β} :
    (get >>= next).Fails desk after ↔ (next desk).Fails desk after := .rfl

/-- A value alone does not fail. -/
theorem not_fails_pure {value : α} : ¬ (pure value : Action α).Fails desk after := by
  rintro ⟨_, ⟨⟩⟩

/-- Setting the desk does not fail. -/
theorem not_fails_set {wanted : Desk} : ¬ (set wanted : Action PUnit).Fails desk after := by
  rintro ⟨_, ⟨⟩⟩

/-- A change of the desk does not fail. -/
theorem not_fails_modify {change : Desk → Desk} :
    ¬ (modify change : Action PUnit).Fails desk after := by
  rintro ⟨_, ⟨⟩⟩

/-- A failure leaves the desk. -/
theorem fails_throw_iff {fault : Fault} :
    (throw fault : Action α).Fails desk after ↔ after = desk := by
  simp [Fails, EStateM.run, throw, throwThe, MonadExceptOf.throw, EStateM.throw, eq_comm]

/-- Giving a result fails if there is none. -/
theorem fails_ofExcept_iff {result : Except Fault α} :
    (ofExcept result).Fails desk after ↔ (¬ ∃ value, result = .ok value) ∧ after = desk := by
  cases result with
  | ok found => simp [ofExcept, not_fails_pure]
  | error fault => simp [ofExcept, fails_throw_iff]

/-- An operation that has no result fails when it was recorded. -/
theorem fails_perform_iff {logged : Logged α} :
    (perform logged).Fails desk after ↔
      (¬ ∃ value, logged.result = .ok value) ∧ after = desk.addAll logged.journal := by
  simp only [perform, fails_bind_iff, recordAll, not_fails_modify, false_or, yields_modify_iff,
    fails_ofExcept_iff]
  constructor
  · rintro ⟨_, _, rfl, failed, rfl⟩
    exact ⟨failed, rfl⟩
  · rintro ⟨failed, rfl⟩
    exact ⟨(), _, rfl, failed, rfl⟩

/-- Reading a file fails if it cannot be read. -/
theorem fails_readFile_iff {path : String} :
    (readFile path).Fails desk after ↔
      (¬ ∃ content, desk.files.read path = .ok content) ∧ after = desk := by
  rw [readFile, fails_get_bind_iff, fails_ofExcept_iff]
  simp only [mapError_eq_ok_iff]

/-- Writing a file fails if it cannot be written. -/
theorem fails_writeFile_iff {path : String} {content : Bytes} :
    (writeFile path content).Fails desk after ↔ ¬ desk.files.Accepts path ∧ after = desk := by
  rw [writeFile, fails_get_bind_iff, fails_bind_iff]
  simp only [fails_ofExcept_iff, mapError_eq_ok_iff, not_fails_set, and_false, exists_false,
    or_false, FileSystem.write_eq_ok_iff]
  constructor
  · rintro ⟨refused, rfl⟩
    exact ⟨fun accepted => refused ⟨_, accepted, rfl⟩, rfl⟩
  · rintro ⟨refused, rfl⟩
    refine ⟨?_, rfl⟩
    rintro ⟨_, accepted, _⟩
    exact refused accepted

/-- Opening a log file fails if it cannot be written. -/
theorem fails_openLog_iff {path : String} :
    (openLog path).Fails desk after ↔ ¬ desk.files.Accepts path ∧ after = desk := by
  rw [openLog, fails_get_bind_iff, fails_bind_iff,
    ← @FileSystem.exists_append_iff desk.files path []]
  simp only [fails_ofExcept_iff, mapError_eq_ok_iff, not_fails_set, and_false, exists_false,
    or_false]

/-- Preparing the journal fails if there is a log file that cannot be written, and then leaves the
files. -/
theorem files_of_fails_prepare {reporting : Reporting}
    (failed : (prepare reporting).Fails desk after) : after.files = desk.files := by
  simp only [prepare, fails_bind_iff, not_fails_modify, false_or, yields_modify_iff] at failed
  obtain ⟨_, between, rfl, failed⟩ := failed
  split at failed
  · split at failed
    · exact absurd failed not_fails_pure
    · obtain ⟨_, rfl⟩ := fails_openLog_iff.mp failed
      rfl
  · exact absurd failed not_fails_pure

/-- An action on a desk yields something or fails, and leaves a desk. -/
def Leaves (action : Action α) (desk after : Desk) : Prop :=
  (∃ value, action.Yields desk value after) ∨ action.Fails desk after

/-- Whatever comes of an action, no directory came or went, and no file went. -/
def Extending (action : Action α) : Prop :=
  ∀ desk after, action.Leaves desk after → desk.files.Extends after.files

/-- A sequence of extending actions is extending. -/
theorem Extending.bind {action : Action α} {next : α → Action β} (first : action.Extending)
    (second : ∀ given, (next given).Extending) : (action >>= next).Extending := by
  rintro desk after (⟨value, yielded⟩ | failed)
  · obtain ⟨given, between, yields, later⟩ := yields_bind_iff.mp yielded
    exact (first _ _ (.inl ⟨given, yields⟩)).trans (second given _ _ (.inl ⟨value, later⟩))
  · rcases fails_bind_iff.mp failed with here | ⟨given, between, yields, later⟩
    · exact first _ _ (.inr here)
    · exact (first _ _ (.inl ⟨given, yields⟩)).trans (second given _ _ (.inr later))

/-- What is done with the desk is extending if it is extending for every desk. -/
theorem extending_get_bind {next : Desk → Action β} (extending : ∀ desk, (next desk).Extending) :
    (get >>= next).Extending :=
  fun desk after leaves => extending desk desk after leaves

/-- A value alone changes nothing. -/
theorem extending_pure (value : α) : (pure value : Action α).Extending := by
  rintro desk after (⟨found, yielded⟩ | failed)
  · obtain ⟨_, rfl⟩ := yields_pure_iff.mp yielded
    exact .refl _
  · exact absurd failed not_fails_pure

/-- A failure changes nothing. -/
theorem extending_throw (fault : Fault) : (throw fault : Action α).Extending := by
  rintro desk after (⟨found, yielded⟩ | failed)
  · exact absurd yielded not_yields_throw
  · rw [fails_throw_iff.mp failed]
    exact .refl _

/-- Giving a result changes nothing. -/
theorem extending_ofExcept (result : Except Fault α) : (ofExcept result).Extending := by
  cases result with
  | ok value => exact extending_pure value
  | error fault => exact extending_throw fault

/-- A change that leaves all directories and files is extending. -/
theorem extending_modify {change : Desk → Desk}
    (extends_all : ∀ desk : Desk, desk.files.Extends (change desk).files) :
    (modify change : Action PUnit).Extending := by
  rintro desk after (⟨found, yielded⟩ | failed)
  · rw [yields_modify_iff.mp yielded]
    exact extends_all desk
  · exact absurd failed not_fails_modify

/-- A record is extending. -/
theorem extending_inform (text : String) : (inform text).Extending :=
  extending_modify fun desk => desk.extends_add _

/-- Records are extending. -/
theorem extending_recordAll (journal : Journal) : (recordAll journal).Extending :=
  extending_modify fun desk => desk.extends_addAll journal

/-- Recording an operation is extending. -/
theorem extending_perform (logged : Logged α) : (perform logged).Extending :=
  (extending_recordAll logged.journal).bind fun _ => extending_ofExcept logged.result

/-- Reading a file changes nothing. -/
theorem extending_readFile (path : String) : (readFile path).Extending :=
  extending_get_bind fun _ => extending_ofExcept _

/-- Finding the size of a file changes nothing. -/
theorem extending_sizeOf (path : String) : (sizeOf path).Extending :=
  (extending_readFile path).bind fun _ => extending_pure _

/-- Writing a file leaves all directories and files. -/
theorem extending_writeFile (path : String) (content : Bytes) :
    (writeFile path content).Extending := by
  rintro desk after (⟨found, yielded⟩ | failed)
  · obtain ⟨files, written, rfl⟩ := yields_writeFile_iff.mp yielded
    exact FileSystem.extends_write written
  · obtain ⟨_, rfl⟩ := fails_writeFile_iff.mp failed
    exact .refl _

/-- Preparing the journal leaves all directories and files. -/
theorem extending_prepare (reporting : Reporting) : (prepare reporting).Extending := by
  rintro desk after (⟨found, yielded⟩ | failed)
  · have ended := yields_prepare_iff.mp yielded
    cases logged : reporting.logPath with
    | none =>
      rw [logged] at ended
      obtain rfl := ended
      exact .refl _
    | some path =>
      rw [logged] at ended
      obtain ⟨files, added, rfl⟩ := ended
      exact FileSystem.extends_append added
  · rw [files_of_fails_prepare failed]
    exact .refl _

/-- Moving a chunk leaves all directories and files. -/
theorem extending_moveChunk (input output : String) (move : Source → Transfer) :
    (moveChunk input output move).Extending := by
  refine (extending_readFile input).bind fun _ => ?_
  refine (extending_writeFile output []).bind fun _ => ?_
  refine (extending_readFile input).bind fun content => ?_
  refine (extending_recordAll _).bind fun _ => ?_
  refine (extending_writeFile output _).bind fun _ => ?_
  cases (move (.ofBytes content)).failure with
  | none => exact extending_pure ()
  | some fault => exact extending_throw fault

/-- Compressing a file leaves all directories and files. -/
theorem extending_compress (backing : Backing) (input : String) (output : Option String)
    (choice : CodecChoice) : (compress backing input output choice).Extending := by
  refine (extending_perform choice.build).bind fun codec => ?_
  refine (extending_inform _).bind fun _ => ?_
  refine (extending_moveChunk input _ _).bind fun _ => ?_
  refine (extending_writeFile _ _).bind fun _ => ?_
  refine (extending_sizeOf input).bind fun _ => ?_
  refine (extending_sizeOf _).bind fun _ => ?_
  exact (extending_inform _).bind fun _ => extending_pure _

end Action

end ChunkCodecs
