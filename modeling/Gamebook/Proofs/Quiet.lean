import Gamebook.Proofs.Packs
import Gamebook.Proofs.PromptRules
import Gamebook.Proofs.Settings

/-!
# Steps that leave the settings alone

The language changes when the settings are loaded and when another one is chosen, and the file of
the settings is written when a language is chosen or by a call of its own. Everything else is quiet:
it changes neither, whether it fails or not. Games, packs and help are quiet, and so is every line
typed at the prompt that does not ask for a language.

## Key results

- `InGame.quiet`, `Phrasebook.quiet_load`: games and the loading of packs
- `Prompt.quiet_rules`: the prompt, as long as no language is chosen
-/

namespace Gamebook

open Play

/-! ## Quiet steps -/

/-- `v` has the language and the settings of `w`. -/
structure World.SameSettings (w v : World) : Prop where
  language : v.phrasebook.language = w.phrasebook.language
  file : v.disk.find Settings.file = w.disk.find Settings.file

theorem World.SameSettings.refl (w : World) : w.SameSettings w := ⟨rfl, rfl⟩

theorem World.SameSettings.trans {u v w : World} (huv : u.SameSettings v) (hvw : v.SameSettings w) :
    u.SameSettings w :=
  ⟨hvw.language.trans huv.language, hvw.file.trans huv.file⟩

/-- `Quiet p`: the step `p` changes neither the language nor the settings, whether it fails or
    not. -/
def Play.Quiet {α : Type} (p : Play α) : Prop := ∀ w : World, w.SameSettings (p.exec w).2

/-- What is put under another name is no part of the settings. -/
private theorem Settings.find_put {d : Disk} {name : String} {node : Node} (h : name ≠ file) :
    Disk.find { d with entries := Table.put d.entries name node } file = d.find file := by
  rw [find_file, find_file, Table.get?_put, if_neg h]

private theorem Settings.find_makeFolder {d : Disk} {name : String} (h : name ≠ file) :
    (d.makeFolder name).find file = d.find file := by
  unfold Disk.makeFolder
  split
  · rfl
  · exact find_put h

namespace Play.Quiet

variable {α β : Type}

theorem pure (a : α) : Quiet (Pure.pure a) := fun w => .refl w

theorem get : Quiet (MonadState.get : Play World) := fun w => .refl w

theorem bind {p : Play α} {f : α → Play β} (hp : Quiet p) (hf : ∀ a, Quiet (f a)) :
    Quiet (p >>= f) := by
  intro w
  have hfirst := hp w
  rw [exec_bind]
  rcases hrun : p.exec w with ⟨e | a, v⟩ <;> rw [hrun] at hfirst
  · exact hfirst
  · exact hfirst.trans (hf a v)

theorem traced {p : Play α} {steps : Fault → List Step} (hp : Quiet p) :
    Quiet (p.traced steps) := by
  intro w
  rw [exec_traced]
  exact hp w

end Play.Quiet

/-- A step that is `InGame` is `Quiet`: the folder that it may make has another name. -/
theorem Play.InGame.quiet {α : Type} {p : Play α} (h : InGame p) : Quiet p := by
  have hname : Story.folder ≠ Settings.file := by decide
  intro w
  exact h.preserves .refl .trans (fun _ _ => ⟨rfl, rfl⟩) (fun _ _ => ⟨rfl, rfl⟩)
    (fun _ => ⟨rfl, Settings.find_makeFolder hname⟩) w

/-! ## Packs -/

namespace Phrasebook

private theorem folder_ne_settings : folder ≠ Settings.file := by decide

/-- `Phrasebook.load` is `Quiet`, whichever way it goes. -/
theorem quiet_load : Quiet load := by
  intro w
  have hloads := loads_exec_load w
  refine ⟨hloads.language, ?_⟩
  -- all that it writes is in the folder of the packs
  generalize load.exec w = out at hloads
  cases hloads with
  | file => rfl
  | made => exact Settings.find_put folder_ne_settings
  | found => rfl
  | blocked => rfl
  | written => exact Settings.find_put folder_ne_settings

theorem quiet_writeEnglish : Quiet writeEnglish := by
  intro w
  have hparts : Disk.parts (folder ++ "/en.json") = [folder, "en.json"] := by decide
  rw [writeEnglish, exec_writeText, Disk.write_inner _ _ hparts]
  -- nothing is written unless there is a folder, and then only in it
  rcases Table.get? w.disk.entries folder with _ | (_ | inner)
  · exact ⟨rfl, rfl⟩
  · exact ⟨rfl, rfl⟩
  · dsimp only
    rcases Table.get? inner "en.json" with _ | (_ | _)
    · exact ⟨rfl, Settings.find_put folder_ne_settings⟩
    · exact ⟨rfl, Settings.find_put folder_ne_settings⟩
    · exact ⟨rfl, rfl⟩

end Phrasebook

/-! ## The prompt -/

namespace Prompt

/-- The prompt is `Quiet`, as games are, as long as no language is chosen. -/
theorem quiet_rules : PromptRules Quiet :=
  .of_inGame InGame.quiet .bind .traced (fun next => .bind .get next) fun _ _ => ⟨rfl, rfl⟩

/-- `recover` is `Quiet`. -/
theorem quiet_recover (m : Mishap) : Quiet (recover m) := by
  unfold recover
  split
  · exact .bind (quiet_rules.tell _ _) fun _ => .pure _
  · exact .bind (quiet_rules.tell _ _) fun _ => .pure _
  · -- the report is made of the whole world, but only told
    exact .bind .get fun _ => .bind (quiet_rules.tell _ _) fun _ => .pure _

end Prompt

end Gamebook
