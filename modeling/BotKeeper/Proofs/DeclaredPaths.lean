import BotKeeper.Proofs.Rendering
import BotKeeper.Script.Declared

/-! A rendered script declares the paths that it was rendered from. The lines before the two
declarations begin in other ways, whatever stands in them, so the search ends at the
declarations, and what the words of the three languages are written as is read back. Nothing is
rendered but configs whose paths are texts (`plain_of_render`), so it is enough to look at these. -/

namespace BotKeeper.Proofs
open Script

def declaredWord : ScriptTarget → List Char → List Char
  | .shellScript, value => Shell.word value
  | .powerShell, value => PowerShell.word value
  | .batchFile, value => Batch.word value ++ ['"']

private theorem value?_declaredWord (target : ScriptTarget) (value : List Char) :
    value? target (declaredWord target value) = some value := by
  cases target with
  | shellScript => exact Shell.value?_word value
  | powerShell => exact PowerShell.value?_word value
  | batchFile => exact Batch.value?_word value

variable {target : ScriptTarget} {host : HostOs} {config : InstanceConfig} {text : String}

/-- The declarations are the first lines that begin like them. -/
theorem declaration?_render (rendered : render config target host = .ok text) :
    declaration? (executableOpening target) text.toList =
        some (declaredWord target config.executable.toList) ∧
      declaration? (workingDirOpening target) text.toList =
        some (declaredWord target config.workingDir.toList) := by
  unfold declaration?
  rw [lines_of_render rendered]
  cases target with
  | shellScript => exact ⟨rfl, rfl⟩
  | powerShell => exact ⟨rfl, rfl⟩
  | batchFile => exact ⟨rfl, rfl⟩

private theorem declaredValue_of_declaration {opening value : String} {raw : List Char}
    (found : declaration? opening raw = some (declaredWord target value.toList)) :
    declaredValue target opening raw = .ok value := by
  unfold declaredValue
  rw [found]
  dsimp only
  rw [value?_declaredWord]
  exact congrArg Except.ok String.ofList_toList

/-- Whatever its config holds, a rendered script declares the program and the directory of it. -/
theorem declared_paths_survive_rendering (rendered : render config target host = .ok text) :
    declaredPaths text target = .ok ⟨config.executable, config.workingDir⟩ := by
  obtain ⟨executable, workingDir⟩ := declaration?_render rendered
  unfold declaredPaths
  rw [declaredValue_of_declaration executable, declaredValue_of_declaration workingDir]
  rfl

/-- Quotes, percent signs, backslashes, white space at the ends, and texts that look like the
declarations themselves. -/
def oddConfig : InstanceConfig where
  accountId := 100001
  name := "BOT_EXECUTABLE='x'"
  executable := " it's '' 100%% of \\'set\\ "
  args := ["BOT_WORKDIR='y'", "$BotWorkDir = 'y'"]
  workingDir := "BOT_WORKDIR=%BOT_WORKDIR%'\u3000"

theorem declared_paths_survive_odd_rendering : ∃ text, render oddConfig .batchFile .windows = .ok text ∧
    declaredPaths text .batchFile = .ok ⟨oddConfig.executable, oddConfig.workingDir⟩ := by
  obtain ⟨text, rendered⟩ : ∃ text, render oddConfig .batchFile .windows = .ok text :=
    exists_render rfl (by decide +kernel)
  exact ⟨text, rendered, declared_paths_survive_rendering rendered⟩

end BotKeeper.Proofs
