import LoadLedger.Machine
import LoadLedger.Proofs.Settings.File
import LoadLedger.Tool.Run

/-!
# How bad settings are answered

A run answers a fault of the settings family with the code 1 and a record that tells it, before it
reads any input. The faults that escape from loading the settings (`Settings.FileEscape`) end the
run as they are.
-/

namespace LoadLedger.Tool

/-- What a run comes to when its settings have a fault. -/
def answerTo (cause : Fault) : ToolRun :=
  if cause.family = .settings then
    ⟨.code 1, "", [⟨.error, "Configuration error: " ++ cause.message⟩]⟩
  else ⟨.fault cause, "", []⟩

section

variable [Depths] [Scheduler] [FileNames]

/-- A run asks for its settings first, so that a fault of theirs decides. -/
theorem runWith_of_settings_error {s : Surroundings} {a : Arguments} {cause : Fault}
    (h : settingsOf s.tree a = .error cause) : runWith s a = answerTo cause := by
  rw [runWith, h, answerTo]
  simp only [beq_iff_eq]

omit [Scheduler] [FileNames] in
/-- The file is loaded unless it is the default one and missing. -/
theorem settingsAt_text {tree : FileTree} {path : String}
    (h : path ≠ Settings.defaultPath ∨ tree.exists? (FileTree.Path.ofString path).toText = true) :
    settingsAt tree (.text path) = Settings.load tree path := by
  rw [settingsAt, if_neg]
  rw [Bool.and_eq_true, beq_iff_eq, Bool.not_eq_true']
  rintro ⟨hdefault, hmissing⟩
  obtain hother | hfound := h
  · exact hother hdefault
  · cases hfound.symm.trans hmissing

/-- **What loading settings comes to, and how a run answers it.** Loading ends with settings, with a
fault of the settings family, or in one of the listed escapes. A run that loads its settings answers
a fault of the family with the code 1 and one record; a fault that escapes ends the run. -/
theorem settings_answered_iff (s : Surroundings) (path : String) (cause : Fault) :
    ((Settings.load s.tree path = .error cause ∧ cause.family ≠ .settings) ↔
        Settings.FileEscape s.tree path cause) ∧
      ∀ arguments a, Arguments.read Settings.defaultPath arguments = .ok a →
        a.config = .text path →
        (path ≠ Settings.defaultPath ∨
          s.tree.exists? (FileTree.Path.ofString path).toText = true) →
        Settings.load s.tree path = .error cause → run s arguments = answerTo cause := by
  refine ⟨Settings.escapes_load_iff, ?_⟩
  intro arguments a ha hconfig hloaded hload
  have hsettings : settingsOf s.tree a = .error cause := by
    rw [settingsOf, hconfig, settingsAt_text hloaded, hload]
    rfl
  rw [run, ha]
  exact runWith_of_settings_error hsettings

end

/-! ## Two files -/

/-- A folder with a file of settings. -/
def withSettings (text : String) : Surroundings where
  tree := FileTree.empty.add "settings" (some (Text.Utf8.encode text))
  startTime := 0.0
  endTime := 0.0
  live := []

/-- The arguments that name the file of settings. -/
def settingsArguments : Arguments :=
  ⟨.ofString "outcomes", .text "settings", .null, .null, .null⟩

/-- A size that is negative. -/
def negativeSize : String :=
  "\x7b\"aggregator\": \x7b\"failure_queue_size\": -1\x7d\x7d"

open Machine

/-- It is reported, and the code is 1. -/
theorem run_negativeSize :
    run (withSettings negativeSize) ["outcomes", "--config", "settings"] =
      answerTo (.queueSizeNegative "-1") :=
  (settings_answered_iff _ "settings" _).2 _ settingsArguments rfl rfl (.inl (by decide))
    (by decide +kernel)

/-- A size that is infinite. -/
def infiniteSize : String :=
  "\x7b\"aggregator\": \x7b\"failure_queue_size\": Infinity\x7d\x7d"

/-- No integer can stand for it, which nobody reports. -/
theorem load_infiniteSize :
    Settings.load (withSettings infiniteSize).tree "settings" = .error .infinityIsNoInteger ∧
      Fault.family .infinityIsNoInteger ≠ .settings ∧
      run (withSettings infiniteSize) ["outcomes", "--config", "settings"] =
        ⟨.fault .infinityIsNoInteger, "", []⟩ := by
  have hload : Settings.load (withSettings infiniteSize).tree "settings" =
      .error .infinityIsNoInteger := by
    decide +kernel
  refine ⟨hload, by decide, ?_⟩
  have hsettings : settingsOf (withSettings infiniteSize).tree settingsArguments =
      .error .infinityIsNoInteger := by
    rw [settingsOf, settingsArguments, settingsAt_text (.inl (by decide)), hload]
    rfl
  exact runWith_of_settings_error hsettings

end LoadLedger.Tool
