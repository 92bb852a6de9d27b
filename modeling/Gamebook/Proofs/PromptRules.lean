import Gamebook.Proofs.Calls
import Gamebook.Proofs.InGame
import Mathlib.Tactic.SplitIfs

/-!
# Walks through the prompt

`PromptRules K` lists what a property `K` of steps needs to hold of the prompt: the rules for
stories, and that `K` holds of notes on the desk and of what depends on the phrasebook. From there
on it goes through `help`, `askHelp`, `runStory` and `command` once, whatever `K` is.

A line typed at the prompt may ask for a story, which `storyAsked?` tells, or for a language, which
`languageAsked?` tells. Only a line that asks for a language goes beyond the rules: it changes the
language and writes the settings.

## Key results

- `PromptRules.command_of_not_asked`: lines typed at the prompt that ask for no language
- `PromptRules.command_of_changeLanguage`: all lines, if `K` holds of `changeLanguage`
- `PromptRules.of_inGame`: the rules for what holds of every game
- `PromptRules.call`: most parts of the program that can be called
- `command_of_languageAsked`, `command_of_storyAsked`: what `command` does with such a line
-/

namespace Gamebook

open Play

/-! ## What a line asks for -/

namespace Prompt

/-- The name of the story that a line typed at the prompt asks for. -/
def storyAsked? (typed : String) : Option String :=
  let cs := Text.trim typed.toList
  if "run ".toList.isPrefixOf (cs.map Char.toLower) then
    some (String.ofList (Text.trim (cs.drop 4)))
  else none

/-- The language that a line typed at the prompt asks for. -/
def languageAsked? (typed : String) : Option String :=
  let cs := Text.trim typed.toList
  if "lang ".toList.isPrefixOf (cs.map Char.toLower) then
    some (String.ofList (Text.trim (cs.drop 5)))
  else none

/-- What a line that asks for a language does, with what becomes of it. -/
def tryLanguage (typed code : String) : Play Bool := do
  keep "cmd" (.str (.ofChars (Text.trim typed.toList)))
  keep "lang_code" (.str code)
  changeLanguage code

/-- A line whose small letters start with the word of another command is not the word `help`. -/
private theorem ne_help_of_isPrefixOf {c : Char} {word small : List Char}
    (h : (c :: word).isPrefixOf small = true) (hc : c ≠ 'h') : small ≠ "help".toList := by
  obtain ⟨rest, rfl⟩ := List.isPrefixOf_iff_prefix.1 h
  exact fun heq => hc (List.cons.inj heq).1

/-- A line that asks for a story runs it. -/
theorem command_of_storyAsked {typed name : String} (h : storyAsked? typed = some name) :
    command typed = (do
      keep "cmd" (.str (.ofChars (Text.trim typed.toList)))
      runStory name) := by
  simp only [storyAsked?] at h
  split at h
  · rename_i hrun
    obtain rfl := Option.some.inj h
    have hhelp := ne_help_of_isPrefixOf hrun (by decide)
    simp only [command, hhelp, hrun, if_true, if_false]
  · cases h

/-- A line that asks for a language does nothing but to try it. -/
theorem command_of_languageAsked {typed code : String} (h : languageAsked? typed = some code) :
    command typed = (fun _ => ()) <$> tryLanguage typed code := by
  simp only [languageAsked?] at h
  split at h
  · rename_i hlang
    obtain rfl := Option.some.inj h
    have hhelp := ne_help_of_isPrefixOf hlang (by decide)
    -- nor does a line that starts with `lang` start with `run`
    have hrun : "run ".toList.isPrefixOf ((Text.trim typed.toList).map Char.toLower) = false := by
      obtain ⟨rest, hrest⟩ := List.isPrefixOf_iff_prefix.1 hlang
      rw [← hrest]
      rfl
    simp only [command, hhelp, hrun, hlang, if_true, if_false, Bool.false_eq_true, tryLanguage,
      map_eq_pure_bind, bind_assoc]
  · cases h

end Prompt

/-! ## The rules -/

namespace Play

/-- Rules for a property `K` of steps that holds of the prompt: it holds of stories and of changes
    to the desk. What is done after `get` may depend on the phrasebook. -/
structure PromptRules (K : {α : Type} → Play α → Prop) : Prop extends LineRules K, FileRules K where
  lookPhrasebook : ∀ {α : Type} {f : World → Play α}, (∀ w, K (f w)) →
    (∀ w w', w.phrasebook = w'.phrasebook → f w = f w') → K (get >>= f)
  modifyDesk : ∀ f : Table String Json → Table String Json,
    K (modify fun w => { w with desk := f w.desk })

namespace PromptRules

open Prompt

variable {K : {α : Type} → Play α → Prop}

/-- What holds of games holds of the prompt, if it goes over from parts to wholes, also behind any
    look at the world, and holds of changes to the desk. -/
theorem of_inGame (hgame : ∀ {α : Type} {p : Play α}, InGame p → K p)
    (hbind : ∀ {α β : Type} {p : Play α} {f : α → Play β}, K p → (∀ a, K (f a)) → K (p >>= f))
    (htraced : ∀ {α : Type} {p : Play α} {steps : Fault → List Step}, K p → K (p.traced steps))
    (hlook : ∀ {α : Type} {f : World → Play α}, (∀ w, K (f w)) → K (get >>= f))
    (hdesk : ∀ f : Table String Json → Table String Json,
      K (modify fun w => { w with desk := f w.desk })) : PromptRules K where
  pure a := hgame (.pure a)
  fail f := hgame (.fail f)
  bind := hbind
  traced := htraced
  lookAnswers next _ := hlook next
  print text := hgame (.print text)
  pause seconds := hgame (.pause seconds)
  tell key args := hgame (.tell key args)
  askPhrase key args := hgame (.askPhrase key args)
  lookPlayer next _ := hlook next
  modifyPlayer _ := hgame (.modifyGame _)
  fight hp damage name := hgame (.fight hp damage name)
  lookDisk next _ := hlook next
  ensureStories := hgame .ensureStories
  lookPhrasebook next _ := hlook next
  modifyDesk := hdesk

theorem keep (hK : PromptRules K) (name : String) (v : Json) : K (Play.keep name v) :=
  hK.modifyDesk (Table.put · name v)

theorem phrase (hK : PromptRules K) (key : String) (args : List Template.Arg) :
    K (Play.phrase key args) :=
  hK.lookPhrasebook (fun _ => hK.orThrow _) fun _ _ hbook => by rw [hbook]

theorem story (hK : PromptRules K) (name : String) : K (Story.run name) :=
  hK.toFileRules.story hK.command name

theorem help (hK : PromptRules K) (page : Int) : K (Prompt.help page) := by
  unfold Prompt.help
  split
  · refine hK.bind (hK.forM (fun _ => hK.tell _ _) _) fun _ => ?_
    exact hK.lookPhrasebook (fun _ => hK.tell _ _) fun _ _ hbook => by rw [hbook]
  · split
    · exact hK.forM (fun _ => hK.print _) _
    · exact hK.pure _

theorem exampleFor (hK : PromptRules K) (name : List Char) : K (Prompt.exampleFor name) := by
  refine hK.bind (hK.phrase _ _) fun v => ?_
  split
  · exact hK.print _
  · exact hK.fail _

theorem askHelp (hK : PromptRules K) : K Prompt.askHelp := by
  refine hK.bind (hK.askPhrase _ _) fun page => hK.bind (hK.keep _ _) fun _ => ?_
  split
  · exact hK.help _
  · exact hK.tell _ _

theorem runStory (hK : PromptRules K) (name : String) : K (Prompt.runStory name) := by
  refine hK.bind (hK.keep _ _) fun _ => ?_
  split
  · exact hK.refuse name
  · refine hK.bind (hK.modifyPlayer fun _ => {}) fun _ => ?_
    exact hK.bind (hK.traced (hK.story name)) fun _ => hK.pure _

theorem welcome (hK : PromptRules K) : K Prompt.welcome := by
  refine hK.bind (hK.tell _ _) fun _ => hK.bind (hK.tell _ _) fun _ => ?_
  refine hK.bind (hK.tell _ _) fun _ => hK.bind (hK.tell _ _) fun _ => ?_
  refine hK.lookPhrasebook (fun _ => ?_) fun _ _ hbook => by rw [hbook]
  refine hK.bind (hK.orThrow _) fun name => ?_
  exact hK.bind (hK.modifyDesk fun _ => _) fun _ => hK.tell _ _

/-! ## Lines typed at the prompt -/

/-- A line that asks for no language. -/
theorem command_of_not_asked (hK : PromptRules K) {typed : String}
    (h : languageAsked? typed = none) : K (Prompt.command typed) := by
  have hlang : ¬ "lang ".toList.isPrefixOf ((Text.trim typed.toList).map Char.toLower) = true := by
    intro hlang
    simp only [languageAsked?, hlang, if_true] at h
    cases h
  unfold Prompt.command
  dsimp only
  refine hK.bind (hK.keep _ _) fun _ => ?_
  rw [if_neg hlang]
  -- in the order of the commands: help, run, list, test, the name of a story, and anything else
  split_ifs
  · exact hK.askHelp
  · exact hK.runStory _
  · exact hK.traced hK.list
  · exact hK.lookPlayer (fun _ => hK.tell _ _) fun _ _ hplayer => by rw [hplayer]
  · exact hK.bind (hK.tell _ _) fun _ => hK.traced (hK.exampleFor _)
  · exact hK.bind (hK.tell _ _) fun _ => hK.tell _ _
  · exact hK.pure _

/-- Another language is chosen, if `K` holds of changing it and of writing the settings. -/
theorem changeLanguage (hK : PromptRules K)
    (hset : ∀ code : String,
      K (modify fun w => { w with phrasebook := { w.phrasebook with language := .str code } }))
    (hsave : K Settings.save) (code : String) : K (Prompt.changeLanguage code) := by
  refine hK.lookPhrasebook (fun w => ?_) fun _ _ hbook => by rw [hbook]
  split
  · refine hK.bind (hset code) fun _ => hK.bind (hK.tell _ _) fun _ => ?_
    exact hK.bind hsave fun _ => hK.pure _
  · refine hK.lookPhrasebook (fun _ => ?_) fun _ _ hbook => by rw [hbook]
    exact hK.bind (hK.tell _ _) fun _ => hK.pure _

/-- Any line typed at the prompt, if `K` holds of choosing a language. -/
theorem command_of_changeLanguage (hK : PromptRules K)
    (hchange : ∀ code, K (Prompt.changeLanguage code)) (typed : String) :
    K (Prompt.command typed) := by
  cases hasked : languageAsked? typed with
  | none => exact hK.command_of_not_asked hasked
  | some code =>
    rw [command_of_languageAsked hasked]
    exact hK.map _ (hK.bind (hK.keep _ _) fun _ => hK.bind (hK.keep _ _) fun _ => hchange code)

end PromptRules

end Play

/-! ## Calls -/

/-- Whether a call goes no further than the prompt does without a language being chosen. -/
def Call.isPlain : Call → Bool
  | .loadSettings | .saveSettings | .loadPacks | .writeEnglish => false
  | .changeLanguage _ | .session => false
  | _ => true

/-- Calls that touch neither the settings nor the packs. -/
theorem Play.PromptRules.call {K : {α : Type} → Play α → Prop} (hK : PromptRules K) {called : Call}
    (h : called.isPlain = true) : K called.perform := by
  cases called with
  | phrase key args => exact hK.phrase key args
  | help page => exact hK.bind (hK.help page) fun _ => hK.pure _
  | say text name seconds => exact hK.bind (hK.say text name seconds) fun _ => hK.pure _
  | fight hp damage name => exact hK.map _ (hK.fight hp damage name)
  | setPlayer hp damage => exact hK.bind (hK.setPlayer hp damage) fun _ => hK.pure _
  | choose options =>
    refine hK.bind (hK.choose options) fun number => ?_
    cases number <;> exact hK.pure _
  | command line => exact hK.map _ (hK.toLineRules.command line)
  | story name => exact hK.map _ (hK.story name)
  | isStoryName name => exact hK.pure _
  | listStories => exact hK.bind hK.list fun _ => hK.pure _
  | _ => cases h

end Gamebook
