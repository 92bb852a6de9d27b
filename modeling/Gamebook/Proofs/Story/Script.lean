import Gamebook.Proofs.Command
import Gamebook.Proofs.Story.Opening

/-!
# Stories that are written from orders

An order is what the author of a story wants done: to change the player, to start a fight, to let
someone speak. Written down, it is a line of a story. A story that is written from orders and then
played does what the orders say, in their order and up to the first fight that is lost, whatever the
names and texts in them are.

## Key results

- `Order.parse_line`: the command that the line of an order is read as
- `Order.exec_run_line`: the line does what the order says
- `lines_text`: a written story has the lines of its orders
- `run_written_script`: playing the written story is carrying out the orders
-/

namespace Gamebook.Script

open Play

/-! ## Orders -/

/-- What becomes of one of the player's numbers. -/
inductive Change where
  | set (n : Int)
  | add (n : Int)
  deriving DecidableEq, Repr

namespace Change

/-- The number of a change. -/
def number : Change → Int
  | .set n => n
  | .add n => n

/-- What a change makes of an old number. -/
def result (old : Int) : Change → Int
  | .set n => n
  | .add n => old + n

/-- A change as an argument. -/
def text : Change → List Char
  | .set n => Whole.write n
  | .add n => 'a' :: 'd' :: 'd' :: ' ' :: Whole.write n

end Change

/-- A pause in seconds: digits, and perhaps more of them behind a point. -/
structure Pause where
  whole : List Char
  places : List Char := []
  deriving DecidableEq, Repr

namespace Pause

/-- A pause as an argument. -/
def text (p : Pause) : List Char := p.whole ++ if p.places = [] then [] else '.' :: p.places

/-- The length of a pause. -/
def seconds (p : Pause) : Binary64 :=
  .ofDecimal false (Nat.ofDigitChars 10 (p.whole ++ p.places) 0) (-(p.places.length : Int))

/-- A pause that is made of digits. -/
def IsWritable (p : Pause) : Prop :=
  p.whole ≠ [] ∧ p.whole.all Char.isDigit = true ∧ p.places.all Char.isDigit = true

instance (p : Pause) : Decidable p.IsWritable := inferInstanceAs (Decidable (_ ∧ _ ∧ _))

end Pause

/-- What the author of a story wants done. -/
inductive Order where
  | player (hp damage : Change)
  | fight (hp damage : Int) (name : String)
  | say (text name : String) (pause : Option Pause)
  deriving DecidableEq, Repr

namespace Order

/-- The word that the line of an order opens with. -/
def keyword : Order → List Char
  | .player _ _ => "player(".toList
  | .fight _ _ _ => "fight(".toList
  | .say _ _ _ => "say(".toList

/-- What stands between the commas of the line. -/
def arguments : Order → List (List Char)
  | .player hp damage => [hp.text, damage.text]
  | .fight hp damage name => [Whole.write hp, Whole.write damage, name.toList]
  | .say text name none => [text.toList, name.toList]
  | .say text name (some pause) => [text.toList, name.toList, pause.text]

/-- An order as a line of a story. -/
def line (order : Order) : List Char :=
  order.keyword ++ ([',', ' '].intercalate order.arguments ++ [')'])

/-- Whether an order can be written as a line: its numbers have not too many digits, its texts stay
    on the line, and no text holds the mark that ends it or starts with a blank that would be
    skipped. What someone says may start with blanks, the name of a foe may hold commas, and the
    name of someone who speaks may hold a parenthesis if a pause follows. -/
def IsWritable : Order → Prop
  | .player hp damage => hp.number.natAbs < Whole.limit ∧ damage.number.natAbs < Whole.limit
  | .fight hp damage name =>
    hp.natAbs < Whole.limit ∧ damage.natAbs < Whole.limit ∧
      Text.Avoids [')', '\n', '\r'] name.toList ∧ Text.IsTight name.toList
  | .say text name pause =>
    Text.Avoids [',', '\n', '\r'] text.toList ∧ Text.Avoids [',', '\n', '\r'] name.toList ∧
      Text.IsTight name.toList ∧
      match pause with
      | none => ')' ∉ name.toList
      | some pause => pause.IsWritable

instance (order : Order) : Decidable order.IsWritable :=
  match order with
  | .player _ _ => inferInstanceAs (Decidable (_ ∧ _))
  | .fight _ _ _ => inferInstanceAs (Decidable (_ ∧ _ ∧ _ ∧ _))
  | .say _ _ none => inferInstanceAs (Decidable (_ ∧ _ ∧ _ ∧ _))
  | .say _ _ (some _) => inferInstanceAs (Decidable (_ ∧ _ ∧ _ ∧ _))

/-- Carries an order out. Only a fight has a result: whether it was won. -/
def perform : Order → Play (Option Bool)
  | .player hp damage => do
    modifyGame fun g => { g with
      player := { hp := hp.result g.player.hp, damage := damage.result g.player.damage } }
    return none
  | .fight hp damage name => some <$> Battle.fight (.number hp) (.number damage) name
  | .say text name pause => do
    Gamebook.say text name ((pause.map Pause.seconds).getD (.zero false))
    return none

end Order

/-- A story in which every order has a line. -/
def text (script : List Order) : List Char := script.flatMap fun order => order.line ++ ['\n']

/-- Carries orders out, one after the other, until a fight is lost. Tells whether none was. -/
def performAll : List Order → Play Bool
  | [] => return true
  | order :: script => do
    if (← order.perform) = some false then return false else performAll script

/-! ## Arguments -/

/-- `Whole.write` gives no mark and no blank. -/
private theorem not_mem_write {n : Int} {c : Char} (hdigit : c.isDigit = false) (hminus : c ≠ '-') :
    c ∉ Whole.write n := by
  intro h
  rcases Whole.mem_write h with h | h
  · rw [h] at hdigit
    cases hdigit
  · exact hminus h

private theorem isTight_write (n : Int) : Text.IsTight (Whole.write n) := by
  refine Text.isTight_of_forall_mem fun c hc => ?_
  rcases Whole.mem_write hc with h | rfl
  · exact Text.isBlank_of_isDigit (Text.isDigit_of_ascii h)
  · decide

namespace Change

theorem not_mem_text {c : Char} (change : Change) (hdigit : c.isDigit = false) (hminus : c ≠ '-')
    (hadd : c ∉ ['a', 'd', ' ']) : c ∉ change.text := by
  cases change with
  | set n => exact not_mem_write hdigit hminus
  | add n =>
    simp only [List.mem_cons, List.not_mem_nil, or_false, not_or] at hadd
    simp [text, hadd, not_mem_write hdigit hminus]

private theorem isTight_text (change : Change) : Text.IsTight change.text := by
  cases change with
  | set n => exact isTight_write n
  | add n => exact show Text.isBlank 'a' = false by decide

/-- `Amount.apply` reads a change as what it is. -/
private theorem apply_text {change : Change} (h : change.number.natAbs < Whole.limit) (old : Int) :
    Amount.apply old (.text (String.ofList change.text)) = .ok (change.result old) := by
  cases change with
  | set n => exact Amount.apply_of_readWhole (readWhole_write h) old
  | add n => exact Amount.apply_add_of_readWhole (readWhole_write h) old

end Change

/-- `Amount.read` takes back what `Whole.write` does, if the number has not too many digits. -/
theorem read_write (n : Int) (h : n.natAbs < Whole.limit) :
    Amount.read (.text (String.ofList (Whole.write n))) = .ok n := by
  rw [Amount.read, String.toList_ofList]
  exact readWhole_write h

theorem Pause.IsWritable.not_mem_text {p : Pause} (h : p.IsWritable) {c : Char}
    (hdigit : c.isDigit = false) (hpoint : c ≠ '.') : c ∉ p.text := by
  obtain ⟨-, hwhole, hplaces⟩ := h
  have hrow {row : List Char} (hall : row.all Char.isDigit = true) : c ∉ row := by
    intro hmem
    rw [List.all_eq_true.1 hall c hmem] at hdigit
    cases hdigit
  rw [Pause.text]
  split <;> simp [hrow hwhole, hrow hplaces, hpoint]

/-- A pause that `IsWritable` is a `Delay`. -/
private theorem Pause.IsWritable.exists_delay {p : Pause} (h : p.IsWritable) :
    ∃ d : Command.Delay, d.text = p.text ∧ d.seconds = p.seconds := by
  obtain ⟨hne, hwhole, hplaces⟩ := h
  rw [List.all_eq_true] at hwhole hplaces
  have hdigits : ∀ c ∈ p.whole ++ p.places, c.isDigit = true := by
    intro c hc
    exact (List.mem_append.1 hc).elim (hwhole c) (hplaces c)
  -- ASCII digits are digits of a command
  refine ⟨⟨p.whole, p.places, hne, fun c hc => Text.isDigit_of_ascii (hwhole c hc),
    fun c hc => Text.isDigit_of_ascii (hplaces c hc)⟩, ?_, ?_⟩
  · show p.whole ++ Command.Delay.withPoint p.places = p.text
    rw [Pause.text]
    cases p.places <;> rfl
  · rw [Command.Delay.seconds, Pause.seconds, Text.numeral_eq_ofDigitChars _ _ hdigits]

/-! ## Lines -/

namespace Order

/-- The command that an order is written as. -/
def command : Order → Command
  | .player hp damage => .player (String.ofList hp.text) (String.ofList damage.text)
  | .fight hp damage name =>
    .fight (String.ofList (Whole.write hp)) (String.ofList (Whole.write damage)) name
  | .say text name pause => .say text name ((pause.map Pause.seconds).getD (.zero false))

/-- No blank stands at an end of the `line` of an order. -/
private theorem trim_line (order : Order) : Text.trim order.line = order.line := by
  obtain ⟨c, cs, hword, hc⟩ : ∃ c cs, order.keyword = c :: cs ∧ Text.isBlank c = false := by
    cases order with
    | player => exact ⟨'p', _, rfl, by decide⟩
    | fight => exact ⟨'f', _, rfl, by decide⟩
    | say => exact ⟨'s', _, rfl, by decide⟩
  rw [line, hword, List.cons_append, ← List.append_assoc]
  exact Text.trim_of_ends hc (by decide) _

/-- The `line` of an order is no menu. -/
private theorem menu?_line (order : Order) : Story.menu? order.line = none := by
  cases order <;> rfl

/-- The `command` of an order does what the order says. -/
private theorem exec_perform_command {order : Order} (h : order.IsWritable) (w : World) :
    order.command.perform.exec w = order.perform.exec w := by
  match order, h with
  | .player hp damage, ⟨hhp, hdamage⟩ =>
    simp only [command, Command.perform, perform, exec_bind, exec_setPlayer, Change.apply_text hhp,
      Change.apply_text hdamage, exec_modifyGame]
  | .fight hp damage name, ⟨hhp, hdamage, _⟩ =>
    -- the numbers are read back from how they are written
    have hfight : (Battle.fight (.text (String.ofList (Whole.write hp)))
        (.text (String.ofList (Whole.write damage))) name).exec w =
          (Battle.fight (.number hp) (.number damage) name).exec w :=
      Battle.exec_fight_congr (read_write hp hhp) (read_write damage hdamage) name w
    simp only [command, Command.perform, perform, exec_map, hfight]
  | .say text name pause, _ => rfl

/-- No argument goes over a line end. -/
private theorem not_mem_argument {order : Order} (h : order.IsWritable) {c : Char}
    (hc : c = '\n' ∨ c = '\r') : ∀ argument ∈ order.arguments, c ∉ argument := by
  have hmarks : c.isDigit = false ∧ c ≠ '-' ∧ c ≠ '.' ∧ c ∉ ['a', 'd', ' '] := by
    rcases hc with rfl | rfl <;> decide
  obtain ⟨hdigit, hminus, hpoint, hadd⟩ := hmarks
  -- whatever else a text must not hold, a line end is among it
  have hend (mark : Char) : c ∈ [mark, '\n', '\r'] := by
    rcases hc with rfl | rfl <;> simp
  match order, h with
  | .player hp damage, _ =>
    simp [arguments, Change.not_mem_text _ hdigit hminus hadd]
  | .fight hp damage name, ⟨_, _, hname, _⟩ =>
    simp [arguments, not_mem_write hdigit hminus, hname c (hend _)]
  | .say text name none, ⟨htext, hname, _⟩ =>
    simp [arguments, htext c (hend _), hname c (hend _)]
  | .say text name (some pause), ⟨htext, hname, _, hpause⟩ =>
    simp [arguments, htext c (hend _), hname c (hend _), hpause.not_mem_text hdigit hpoint]

/-- The `line` of an order is one line. -/
private theorem not_mem_line {order : Order} (h : order.IsWritable) {c : Char}
    (hc : c = '\n' ∨ c = '\r') : c ∉ order.line := by
  have hmarks : c ∉ [',', ' '] ∧ c ≠ ')' := by
    rcases hc with rfl | rfl <;> decide
  obtain ⟨hcomma, hclose⟩ := hmarks
  have hwords : c ∉ "player(".toList ∧ c ∉ "fight(".toList ∧ c ∉ "say(".toList := by
    rcases hc with rfl | rfl <;> decide
  -- a line end would be in the word, in an argument or between two of them
  have hkeyword : c ∉ order.keyword := by
    cases order with
    | player => exact hwords.1
    | fight => exact hwords.2.1
    | say => exact hwords.2.2
  have hbetween : c ∉ [',', ' '].intercalate order.arguments := by
    rw [Text.mem_intercalate hcomma]
    rintro ⟨argument, hargument, hmem⟩
    exact not_mem_argument h hc argument hargument hmem
  simp [line, hkeyword, hbetween, hclose]

/-! ### One kind of order after the other -/

/-- The line of a change to the player has two arguments. -/
private theorem parse_playerLine {hp damage : Change} (h : (player hp damage).IsWritable) :
    Command.parse (player hp damage).line = some (player hp damage).command := by
  let p : Command.TwoArguments :=
    { first := hp.text, gap := [' '], last := damage.text, rest := []
      first_comma := hp.not_mem_text (by decide) (by decide) (by decide)
      gap_blank := by decide
      last_tight := damage.isTight_text
      last_close := damage.not_mem_text (by decide) (by decide) (by decide) }
  have harguments : [',', ' '].intercalate [hp.text, damage.text] ++ [')'] = p.text := by
    simp [List.intercalate, Command.TwoArguments.text, p]
  have htext : line (.player hp damage) = "player(".toList ++ p.text :=
    congrArg ("player(".toList ++ ·) harguments
  -- the pattern of the arguments does not match over a line end
  have hbreak : '\n' ∉ p.text := fun hmem =>
    not_mem_line h (.inl rfl) (htext ▸ List.mem_append_right _ hmem)
  rw [Command.parse_player (trim_line _) htext, Command.playerArguments_text p hbreak]
  rfl

/-- The line of a fight has three arguments. -/
private theorem parse_fightLine {hp damage : Int} {name : String}
    (h : (fight hp damage name).IsWritable) :
    Command.parse (fight hp damage name).line = some (fight hp damage name).command := by
  obtain ⟨-, -, hname, htight⟩ := id h
  -- the name comes last, so that commas in it are part of it
  let p : Command.ThreeArguments :=
    { first := Whole.write hp, gap := [' ']
      others :=
        { first := Whole.write damage, gap := [' '], last := name.toList, rest := []
          first_comma := not_mem_write (by decide) (by decide)
          gap_blank := by decide
          last_tight := htight
          last_close := hname _ (by decide) }
      first_comma := not_mem_write (by decide) (by decide)
      gap_blank := by decide
      others_tight := isTight_write damage }
  have harguments : [',', ' '].intercalate [Whole.write hp, Whole.write damage, name.toList] ++
      [')'] = p.text := by
    simp [List.intercalate, Command.ThreeArguments.text, Command.TwoArguments.text, p]
  have htext : line (.fight hp damage name) = "fight(".toList ++ p.text :=
    congrArg ("fight(".toList ++ ·) harguments
  have hbreak : '\n' ∉ p.text := fun hmem =>
    not_mem_line h (.inl rfl) (htext ▸ List.mem_append_right _ hmem)
  rw [Command.parse_fight (trim_line _) htext, Command.fightArguments_text p hbreak]
  simp [command, p]

/-- What someone says and what follows it stay on the line. -/
private theorem not_mem_sayLine {text name : String} {pause : Option Pause} {rest : List Char}
    (h : (say text name pause).IsWritable)
    (hsay : (say text name pause).line = "say(".toList ++ (text.toList ++ ',' :: rest)) :
    '\n' ∉ text.toList ∧ '\n' ∉ rest := by
  have hline := not_mem_line h (.inl rfl)
  rw [hsay, List.mem_append, not_or, List.mem_append, List.mem_cons, not_or, not_or] at hline
  exact ⟨hline.2.1, hline.2.2.2⟩

/-- The line of a speech without a pause. -/
private theorem parse_plainSayLine {text name : String} (h : (say text name none).IsWritable) :
    Command.parse (say text name none).line = some (say text name none).command := by
  obtain ⟨htext, hname, htight, hclose⟩ := id h
  have hspace : Text.AllBlank [' '] := by decide
  have hcomma : ',' ∉ ' ' :: (name.toList ++ [')']) := by simpa using hname ',' (by decide)
  have harguments : [',', ' '].intercalate [text.toList, name.toList] ++ [')'] =
      text.toList ++ ',' :: ([' '] ++ (name.toList ++ [')'])) := by simp [List.intercalate]
  have hsay : line (.say text name none) =
      "say(".toList ++ (text.toList ++ ',' :: ([' '] ++ (name.toList ++ [')']))) :=
    congrArg ("say(".toList ++ ·) harguments
  have hbreak := not_mem_sayLine h hsay
  have hlast := Command.lastArgument_append hspace htight hclose (hname _ (by decide)) []
  -- a pause is looked for first, but there is no comma before it
  have hpaused : Command.cutAt ',' Command.lastPause
      (Text.trimStart ([' '] ++ (name.toList ++ [')']))) = none :=
    Command.cutAt_of_not_mem fun hmem => hcomma (Text.mem_of_mem_trimStart hmem)
  rw [Command.parse_say (trim_line _) hsay, Command.pausedSay_append (htext _ (by decide)) hbreak,
    Command.plainSay_append (htext _ (by decide)) hbreak, hlast, hpaused]
  simp [command]

/-- The line of a speech with a pause. -/
private theorem parse_pausedSayLine {text name : String} {pause : Pause}
    (h : (say text name (some pause)).IsWritable) :
    Command.parse (say text name (some pause)).line =
      some (say text name (some pause)).command := by
  obtain ⟨htext, hname, htight, hpause⟩ := id h
  obtain ⟨delay, hdelay, hseconds⟩ := Pause.IsWritable.exists_delay hpause
  have hspace : Text.AllBlank [' '] := by decide
  have harguments : [',', ' '].intercalate [text.toList, name.toList, pause.text] ++ [')'] =
      text.toList ++
        ',' :: ([' '] ++ (name.toList ++ ',' :: ([' '] ++ (delay.text ++ [')'])))) := by
    simp [List.intercalate, hdelay]
  have hsay : line (.say text name (some pause)) = "say(".toList ++ (text.toList ++
      ',' :: ([' '] ++ (name.toList ++ ',' :: ([' '] ++ (delay.text ++ [')']))))) :=
    congrArg ("say(".toList ++ ·) harguments
  have hbreak := not_mem_sayLine h hsay
  -- the name ends at the next comma, and the pause is behind it
  have htrimmed : Text.trimStart
      ([' '] ++ (name.toList ++ ',' :: ([' '] ++ (delay.text ++ [')'])))) =
        name.toList ++ ',' :: ([' '] ++ (delay.text ++ [')'])) :=
    Text.trimStart_append hspace ((Text.isTight_append_mark (by decide) _).2 htight)
  have hcut := Command.cutAt_of_next (hname ',' (by decide)) (hname '\n' (by decide)) (by decide)
    (Command.lastPause_append hspace delay [])
  rw [Command.parse_say (trim_line _) hsay, Command.pausedSay_append (htext _ (by decide)) hbreak,
    htrimmed, hcut, hseconds]
  simp [command]

/-- `Command.parse` reads the `line` of an order as its `command`. -/
theorem parse_line {order : Order} (h : order.IsWritable) :
    Command.parse order.line = some order.command := by
  match order, h with
  | .player _ _, h => exact parse_playerLine h
  | .fight _ _ _, h => exact parse_fightLine h
  | .say _ _ none, h => exact parse_plainSayLine h
  | .say _ _ (some _), h => exact parse_pausedSayLine h

/-- `Command.run` does with the `line` of an order what the order says. -/
theorem exec_run_line {order : Order} (h : order.IsWritable) (w : World) :
    (Command.run order.line).exec w = order.perform.exec w := by
  simp only [Command.run, parse_line h, exec_traced, exec_perform_command h]

end Order

/-! ## Stories -/

/-- The line of an order is the first line of a story that starts with it. -/
private theorem lines_append_line {order : Order} (h : order.IsWritable) (rest : List Char) :
    Story.lines (order.line ++ '\n' :: rest) = order.line :: Story.lines rest := by
  have hkeep : (!order.line.isEmpty && order.line.head? != some '#') = true := by
    cases order <;> rfl
  rw [Story.lines, List.splitOn_append_cons_self_of_not_mem (order.not_mem_line h (.inl rfl)),
    List.map_cons, Order.trim_line]
  exact List.filter_cons_of_pos hkeep

/-- A written story has the lines of its orders. -/
theorem lines_text {script : List Order} (h : ∀ order ∈ script, order.IsWritable) :
    Story.lines (text script) = script.map Order.line := by
  induction script with
  | nil => rfl
  | cons order script ih =>
    have horder := h order List.mem_cons_self
    have hscript := ih fun o ho => h o (List.mem_cons_of_mem _ ho)
    have htext : text (order :: script) = order.line ++ '\n' :: text script := by simp [text]
    rw [htext, lines_append_line horder, hscript, List.map_cons]

/-- Whatever is noted on the way, `playFrom` on the lines of orders is `performAll`. -/
private theorem exec_playFrom_lines {script : List Order} (h : ∀ order ∈ script, order.IsWritable)
    (notes : Story.Notes) (w : World) :
    (Story.playFrom Command.run 0 notes (script.map Order.line)).exec w =
      (performAll script).exec w := by
  -- the notes change from line to line, and only faults would show them
  induction script generalizing notes w with
  | nil => rfl
  | cons order script ih =>
    have horder := h order List.mem_cons_self
    have hscript := ih fun o ho => h o (List.mem_cons_of_mem _ ho)
    simp only [List.map_cons, Story.playFrom, Order.menu?_line, performAll, exec_bind, exec_traced,
      Order.exec_run_line horder]
    rcases order.perform.exec w with ⟨f | won, v⟩
    · rfl
    · dsimp only
      split
      · rfl
      · exact hscript _ v

/-- The file that a story is written to has only the line ends between its orders. -/
private theorem cr_not_mem_text {script : List Order} (h : ∀ order ∈ script, order.IsWritable) :
    '\r' ∉ text script := by
  intro hmem
  obtain ⟨order, horder, hmem⟩ := List.mem_flatMap.1 hmem
  rcases List.mem_append.1 hmem with hmem | hmem
  · exact Order.not_mem_line (h order horder) (.inr rfl) hmem
  · cases List.mem_singleton.1 hmem

/-- Playing a story that was written from orders is carrying the orders out: the same is shown and
    asked, the world is the same afterwards, and so is the result or the fault. -/
theorem run_written_script {script : List Order} (h : ∀ order ∈ script, order.IsWritable)
    {w : World} (hfile : w.disk.read "games/f.txr" = .ok (Text.Utf8.encode (text script))) :
    (Story.run "f.txr").exec w = (some <$> performAll script).exec w := by
  have hname : Story.isStoryName "f.txr" = true ∧ Story.pathOf "f.txr" = "games/f.txr" := by
    decide +kernel
  obtain ⟨notes, hopen⟩ := Story.exec_openStory hname.1 rfl (Story.has_folder_of_read hfile)
    (hname.2 ▸ hfile) (Text.Utf8.decode_encode _)
  -- the file has the lines of the orders, and these are played
  rw [Text.unifyLineEnds_of_not_mem (cr_not_mem_text h), lines_text h] at hopen
  rw [Story.run, exec_bind_of_ok hopen]
  simp only [Story.play, exec_map, exec_playFrom_lines h]

/-- A story with marks and blanks in its texts, and a fight that is lost before its last line. -/
def oddScript : List Order :=
  [.player (.add 5) (.set (-3)), .say " (a) b" "x) (y " (some ⟨['0', '2'], ['5', '0']⟩),
    .fight 50 100 "Goblin, (the old", .say "" "" none]

/-- A world with the odd story on its disk. -/
def oddWorld : World :=
  { disk := { entries := [("games", .folder
      [("f.txr", .file (Text.Utf8.encode (text oddScript)))])] }
    console := { answers := [.line "1", .line "2"] } }

theorem odd_script_is_run : (∀ order ∈ oddScript, order.IsWritable) ∧
    oddWorld.disk.read "games/f.txr" = .ok (Text.Utf8.encode (text oddScript)) ∧
    (Story.run "f.txr").exec oddWorld = (some <$> performAll oddScript).exec oddWorld := by
  have hscript : ∀ order ∈ oddScript, order.IsWritable := by decide +kernel
  have hfile : oddWorld.disk.read "games/f.txr" = .ok (Text.Utf8.encode (text oddScript)) := by
    rw [Disk.read, Story.find_story]
    rfl
  exact ⟨hscript, hfile, run_written_script hscript hfile⟩

end Gamebook.Script
