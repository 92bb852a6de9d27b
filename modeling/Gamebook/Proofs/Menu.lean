import Gamebook.Menu
import Gamebook.Proofs.Loops
import Mathlib.Data.List.TakeWhile

/-!
# What a menu makes of the answers

A menu shows its title and its options, and then asks until it gets an answer that settles it: the
number of an option, or an answer that is no line at all. All answers before that one are refused,
each with a question and a message of its own, and used up. Answers behind it are left alone. If all
answers are refused the last question finds none.

`chosen?` says which lines are numbers of options, on its own and not by the menu, so that the first
answer that settles the menu is what `dropWhile` leaves.

## Key results

- `exec_turn`, `exec_turn_refused`: what a turn does with an answer
- `settles_turn`, `settles_turns`: what one turn and all of them come to
- `first_acceptable_answer_is_taken`: what a menu comes to
-/

namespace Gamebook.Menu

open Play

/-! ## Answers -/

/-- The number of the option that a line asks for. -/
def chosen? (options : List String) (text : String) : Option Nat :=
  match Whole.read text.toList with
  | .ok n => if 1 ≤ n ∧ n ≤ options.length then some n.toNat else none
  | .error _ => none

/-- Whether an answer is a line that asks for no option. -/
def isRefused (options : List String) : Answer → Bool
  | .line text => (chosen? options text).isNone
  | _ => false

/-! ## Events -/

/-- What is shown before the first question: the title, and the options with their numbers. -/
def opening (b : Phrasebook) (options : List String) : List Event :=
  .print (b.words "choice_title" []) ::
    options.mapIdx fun place option => .print (Fault.count (place + 1) ++ ". " ++ option)

/-- The question for the number of an option. -/
def question (b : Phrasebook) (options : List String) : Event :=
  .ask (b.words "choose_option" [.int options.length])

/-- What the player is told about a line that asks for no option: a number must be one of theirs,
    and anything else must be a number. -/
def refusal (b : Phrasebook) (options : List String) (text : String) : Event :=
  match Whole.read text.toList with
  | .ok _ => .print (b.words "number_range" [.int options.length])
  | .error _ => .print (b.words "enter_number" [])

/-- What happens with an answer that is refused. -/
def exchange (b : Phrasebook) (options : List String) : Answer → List Event
  | .line text => [question b options, refusal b options text]
  | _ => []

/-- A world after some more events, with the answers that are left. -/
def after (w : World) (events : List Event) (answers : List Answer) : World :=
  { w with
    console := { w.console with answers, events := w.console.events ++ events.toArray } }

/-- `Settles w options events answers out`: how a menu is settled by the first of some answers,
    after some events. The world is otherwise as it was. -/
inductive Settles (w : World) (options : List String) (events : List Event) :
    List Answer → Except Fault (Option Nat) × World → Prop where
  /-- The line asks for an option. -/
  | chosen {text option : String} {k : Nat} {answers : List Answer}
      (hk : chosen? options text = some k) (hoption : options[k - 1]? = some option) :
      Settles w options events (.line text :: answers)
        (.ok (some k), after w (events ++ [question w.phrasebook options,
          .print (w.phrasebook.words "chosen_option" [.text option])]) answers)
  /-- The answer is no line. -/
  | brokenOff {answer : Answer} {fault : Fault} {answers : List Answer}
      (hfault : reply answer = .error fault) :
      Settles w options events (answer :: answers)
        (.error fault, after w (events ++ [question w.phrasebook options]) answers)
  /-- There is no answer. -/
  | ranOut :
      Settles w options events []
        (.error (.endOfInput true), after w (events ++ [question w.phrasebook options]) [])

/-! ## Turns -/

variable {options : List String} {w : World} {events : List Event} {answers : List Answer}
  {text : String}

/-- `replyTo` understands a line that asks for an option. -/
private theorem replyTo_of_chosen {k : Nat} (h : chosen? options text = some k) :
    ∃ option, options[k - 1]? = some option ∧ replyTo options text = .chosen k option := by
  unfold chosen? at h
  unfold replyTo
  split at h
  · rename_i n hread
    split at h
    · rename_i hrange
      cases h
      -- the number is not over the number of options, so there is an option at its place
      have hlt : n.toNat - 1 < options.length := by omega
      have hoption := List.getElem?_eq_getElem hlt
      exact ⟨options[n.toNat - 1], hoption, by simp only [hread, hrange.1, if_true, hoption]⟩
    · cases h
  · cases h

/-- `replyTo` takes a number that asks for no option to be outside. -/
private theorem replyTo_of_outside {n : Int} (hread : Whole.read text.toList = .ok n)
    (h : chosen? options text = none) : replyTo options text = .outside := by
  have hrange : ¬ (1 ≤ n ∧ n ≤ options.length) := by
    intro hrange
    simp only [chosen?, hread, if_pos hrange] at h
    cases h
  simp only [replyTo, hread]
  split
  · rw [List.getElem?_eq_none (by omega)]
  · rfl

section

variable (hcode : Phrasebook.isCode w.phrasebook.language = true)

include hcode

/-- `tell` adds a line to the events. -/
theorem exec_tell_after (key : String) (args : List Template.Arg) :
    (tell key args).exec (after w events answers) =
      (.ok (), after w (events ++ [.print (w.phrasebook.words key args)]) answers) := by
  rw [exec_tell_of_isCode (w := after w events answers) hcode]
  simp [after, Console.log]

/-- Every `turn` asks first. -/
theorem exec_turn (options : List String) (answers : List Answer) :
    (turn options).exec (after w events answers) =
      match answers with
      | [] => (.error (.endOfInput true), after w (events ++ [question w.phrasebook options]) [])
      | answer :: answers =>
        match reply answer with
        | .ok text => (respond options (replyTo options text)).exec
            (after w (events ++ [question w.phrasebook options]) answers)
        | .error fault =>
          (.error fault, after w (events ++ [question w.phrasebook options]) answers) := by
  have hask := exec_askPhrase_of_isCode (w := after w events answers) hcode "choose_option"
    [.int options.length]
  rw [turn, exec_bind, hask, exec_ask]
  cases answers with
  | nil => simp [after, Console.log, question]
  | cons answer answers => cases answer <;> simp [after, Console.log, question, reply]

/-- A `turn` refuses a line that asks for no option, and there is no result. -/
theorem exec_turn_refused {answer : Answer} (h : isRefused options answer = true) :
    (turn options).exec (after w events (answer :: answers)) =
      (.ok none, after w (events ++ exchange w.phrasebook options answer) answers) := by
  cases answer with
  | endOfInput => cases h
  | interrupt => cases h
  | line text =>
    have hnone : chosen? options text = none := Option.isNone_iff_eq_none.1 h
    rw [exec_turn hcode]
    simp only [reply, exchange, refusal]
    -- a number out of range and anything else get different messages
    cases hread : Whole.read text.toList with
    | ok n =>
      rw [replyTo_of_outside hread hnone, respond, exec_bind_of_ok (exec_tell_after hcode _ _),
        exec_pure, List.append_assoc]
      rfl
    | error fault =>
      have hreply : replyTo options text = .noNumber := by simp only [replyTo, hread]
      rw [hreply, respond, exec_bind_of_ok (exec_tell_after hcode _ _), exec_pure,
        List.append_assoc]
      rfl

/-- Any other answer settles the menu. -/
theorem settles_turn {answer : Answer} (h : isRefused options answer = false) (turns : Nat) :
    Settles w options events (answer :: answers)
      ((some <$> untilResult (turn options) (turns + 1)).exec
        (after w events (answer :: answers))) := by
  rw [exec_map, exec_untilResult_succ, exec_turn hcode]
  cases answer with
  | endOfInput => exact .brokenOff rfl
  | interrupt => exact .brokenOff rfl
  | line text =>
    -- a line that is not refused is the number of an option
    obtain ⟨k, hk⟩ := Option.isSome_iff_exists.1 (Option.isNone_eq_false_iff.1 h)
    obtain ⟨option, hoption, hreply⟩ := replyTo_of_chosen hk
    simp only [reply]
    rw [hreply, respond, exec_bind_of_ok (exec_tell_after hcode _ _), exec_pure, List.append_assoc]
    exact .chosen hk hoption

/-- What the turns come to: refused answers are used up, and the first other one `Settles` the menu.
    Induction on the answers, for any events so far. -/
theorem settles_turns (options : List String) (answers : List Answer) (events : List Event) :
    Settles w options
      (events ++ (answers.takeWhile (isRefused options)).flatMap (exchange w.phrasebook options))
      (answers.dropWhile (isRefused options))
      ((some <$> untilResult (turn options) (answers.length + 1)).exec
        (after w events answers)) := by
  induction answers generalizing events with
  | nil =>
    rw [exec_map, exec_untilResult_succ, exec_turn hcode, List.takeWhile_nil, List.flatMap_nil,
      List.append_nil]
    exact .ranOut
  | cons answer answers ih =>
    cases hrefused : isRefused options answer with
    | false =>
      simpa [hrefused] using settles_turn hcode hrefused (answers.length + 1)
    | true =>
      -- a refused answer and its messages are added to the events so far
      have hrest := ih (events ++ exchange w.phrasebook options answer)
      rw [exec_map] at hrest
      rw [exec_map, List.length_cons, exec_untilResult_succ, exec_turn_refused hcode hrefused]
      simpa [hrefused] using hrest

end

/-! ## Menus -/

/-- `showFrom` shows the options with their numbers, in their order. -/
private theorem exec_showFrom (number : Nat) (options : List String) (events : List Event)
    (answers : List Answer) :
    (showFrom number options).exec (after w events answers) =
      (.ok (), after w (events ++ options.mapIdx fun place option =>
        .print (Fault.count (number + place) ++ ". " ++ option)) answers) := by
  induction options generalizing number events with
  | nil => simp [showFrom]
  | cons option options ih =>
    have hprint (text : String) : (print text).exec (after w events answers) =
        (.ok (), after w (events ++ [.print text]) answers) := by
      rw [exec_print]
      simp [after, Console.log]
    rw [showFrom, exec_bind_of_ok (hprint _), ih, List.mapIdx_cons, List.append_assoc]
    -- the places behind the first one are counted from the next number
    simp only [Nat.add_assoc, Nat.add_comm 1]
    rfl

/-- A menu of at least two options shows them and asks until an answer settles it: the number of an
    option, or an answer that is no line. Every answer before that one is refused with a question
    and a message, and every answer behind it is left. Nothing but the console changes. -/
theorem first_acceptable_answer_is_taken {options : List String} (htwo : 2 ≤ options.length)
    {w : World} (hcode : Phrasebook.isCode w.phrasebook.language = true) :
    Settles w options
      (opening w.phrasebook options ++
        (w.console.answers.takeWhile (isRefused options)).flatMap (exchange w.phrasebook options))
      (w.console.answers.dropWhile (isRefused options)) ((choose options).exec w) := by
  have hstart : w = after w [] w.console.answers := by simp [after]
  have hopening : [] ++ [.print (w.phrasebook.words "choice_title" [])] ++
      (options.mapIdx fun place option => .print (Fault.count (1 + place) ++ ". " ++ option)) =
        opening w.phrasebook options := by
    simp [opening, Nat.add_comm]
  -- once the options are shown, only the turns are left
  have hrun : (choose options).exec w =
      (some <$> untilResult (turn options) (w.console.answers.length + 1)).exec
        (after w (opening w.phrasebook options) w.console.answers) := by
    refine (congrArg (choose options).exec hstart).trans ?_
    rw [choose, if_neg (by omega), exec_bind_of_ok (exec_tell_after hcode _ _),
      exec_bind_of_ok (exec_showFrom _ _ _ _), hopening, exec_map, exec_map, exec_repeatTurn]
    rfl
  rw [hrun]
  exact settles_turns hcode options w.console.answers (opening w.phrasebook options)

/-- A menu of two ways. -/
def twoWays : List String := ["left", "right"]

/-- A player who answers with a word, with a number too large, and then with a number in a wide
    digit and blanks around it. -/
def atCrossroads : World where
  console := { answers := [.line "west", .line "3", .line " ２ ", .interrupt] }

theorem right_way_is_taken : ∃ v, (choose twoWays).exec atCrossroads = (.ok (some 2), v) ∧
    v.console.answers = [.interrupt] ∧
    v.console.events.toList =
      [.print "choice_title", .print "1. left", .print "2. right",
       .ask "choose_option", .print "enter_number", .ask "choose_option", .print "number_range",
       .ask "choose_option", .print "chosen_option"] := by
  have hsettles := first_acceptable_answer_is_taken (show 2 ≤ twoWays.length by decide)
    (show Phrasebook.isCode atCrossroads.phrasebook.language = true from rfl)
  -- the first two answers are refused
  have hrest : atCrossroads.console.answers.dropWhile (isRefused twoWays) =
      [.line " ２ ", .interrupt] := by decide
  rw [hrest] at hsettles
  generalize (choose twoWays).exec atCrossroads = out at hsettles ⊢
  cases hsettles with
  | brokenOff hfault => cases hfault
  | @chosen _ option k _ hk hoption =>
    obtain rfl : k = 2 := by
      have htwo : chosen? twoWays " ２ " = some 2 := by decide
      exact Option.some.inj (hk.symm.trans htwo)
    cases hoption
    exact ⟨_, rfl, rfl, by decide +kernel⟩

end Gamebook.Menu
