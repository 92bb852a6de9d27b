import Gamebook.Template.Fill

/-!
# Templates that do not pry

A pack may ask for any part of the trail of a fault, and so for what the routines on it held, what
they share, and everything that can be reached from there. All of this lies behind the property
`tb_frame` of a trail. A template *pries* if one of its fields asks for that property on its way.
All other templates are discreet. They show the fault and the course of its trail, that is, its
lines and places, and no more: filled in with two reports of the same fault and course they give the
same text, whatever the routines held and whatever the surroundings are.

## Key results

- `Alike.follow?`: accesses that do not pry lead from alike values to alike values
- `fill_eq_of_discreet`: a discreet template shows nothing but the fault and its course
-/

namespace Gamebook

/-! ## Prying -/

namespace Template

/-- The property that leads from the trail of a fault to what its routines held and share. -/
def frameName : String := "tb_frame"

/-- Whether an access asks for `frameName`. -/
def Access.pries : Access → Bool
  | .property name => Wording.chars? name == some frameName.toList
  | .entry _ => false

/-- Whether a field pries on the way to its value. -/
def Field.pries (f : Field) : Bool :=
  (splitName f.name).any fun (_, accesses) => accesses.any Access.pries

/-- Whether a field of a text pries, or one in a specification down to a depth. -/
def priesTo : (depth : Nat) → Wording → Bool
  | 0, _ => false
  | depth + 1, w =>
    (pieces w).any fun found => found.any fun
      | .plain _ => false
      | .field f => f.pries || priesTo depth f.spec

/-- Whether a template pries. Fields stand in specifications, but not in those of such fields. -/
def pries (template : Wording) : Bool := priesTo 2 template

example : pries "\x7b0.__traceback__.tb_frame.f_globals[enemy_hp]:>5\x7d" = true := by
  decide +kernel
example : pries "tb_frame \x7b0.__traceback__.tb_lineno:\x7b0.args\x7d\x7d" = false := by
  decide +kernel

end Template

/-! ## The course of a trail -/

/-- Where a step stands: its line, and its place in the code. -/
def Step.mark (s : Step) : Nat × Option Nat := (s.line, s.place)

/-- Two reports of the same fault that came the same way. What was held on the way may differ. -/
structure Report.SameCourse (r r' : Report) : Prop where
  fault : r.fault = r'.fault
  marks : r.trail.map Step.mark = r'.trail.map Step.mark

namespace Report.SameCourse

variable {r r' : Report}

theorem length (h : r.SameCourse r') : r.trail.length = r'.trail.length := by
  simpa using congrArg List.length h.marks

/-- Trails of the same course have steps with the same mark at each place, or none. -/
theorem trail (h : r.SameCourse r') (place : Nat) :
    Option.Rel (fun s s' => s.mark = s'.mark) r.trail[place]? r'.trail[place]? := by
  have hmark := congrArg (fun marks => marks[place]?) h.marks
  simp only [List.getElem?_map] at hmark
  generalize r.trail[place]? = s at hmark ⊢
  generalize r'.trail[place]? = s' at hmark ⊢
  cases s <;> cases s' <;> simp at hmark
  · exact .none
  · exact .some hmark

end Report.SameCourse

/-! ## Values that show the same -/

namespace Template.Arg

variable {S : Surroundings} {r r' : Report}

/-- Two values that are the same but for the report they belong to. There are no frames among them,
    since those lie behind `frameName`. -/
inductive Alike (r r' : Report) : Arg → Arg → Prop where
  | same (a : Arg) : Alike r r' a a
  | fault : Alike r r' (.fault r) (.fault r')
  | trace (place : Nat) : Alike r r' (.trace r place) (.trace r' place)
  | bound (m : Member) {a a' : Arg} (h : Alike r r' a a') : Alike r r' (.bound m a) (.bound m a')
  | doing (work : Routine) {a a' : Arg} (h : Alike r r' a a') :
      Alike r r' (.doing work a) (.doing work a')

/-- Alike values, or none on either side. -/
abbrev AlikeIfAny (r r' : Report) : Option Arg → Option Arg → Prop := Option.Rel (Alike r r')

private theorem rel_of_eq {a a' : Option Arg} (h : a = a') : AlikeIfAny r r' a a' := by
  subst h
  cases a with
  | none => exact .none
  | some a => exact .some (.same a)

private theorem rel_bind {a a' : Option Arg} {f f' : Arg → Option Arg} (h : AlikeIfAny r r' a a')
    (hf : ∀ b b', Alike r r' b b' → AlikeIfAny r r' (f b) (f' b')) :
    AlikeIfAny r r' (a.bind f) (a'.bind f') := by
  cases h with
  | none => exact .none
  | some h => exact hf _ _ h

namespace Alike

variable {a a' : Arg}

/-- `Alike` values are of the same kind. -/
theorem kindName (hr : r.SameCourse r') (h : Alike r r' a a') :
    a.kindName = a'.kindName := by
  cases h with
  | fault => exact congrArg Fault.label hr.fault
  | _ => rfl

/-! ### What values hold -/

/-- A fault shows itself, and leads to the start of its trail. -/
theorem ofFault? (hr : r.SameCourse r') (name : String) :
    AlikeIfAny r r' (Arg.ofFault? r name) (Arg.ofFault? r' name) := by
  have hempty : r.trail.isEmpty = r'.trail.isEmpty := by
    rw [← List.isEmpty_map (f := Step.mark), hr.marks, List.isEmpty_map]
  unfold Arg.ofFault?
  rw [hr.fault, hempty]
  generalize r'.fault = fault
  -- only the trail belongs to the report, and there is one in both or in neither
  split
  case h_6 =>
    split
    · exact .some (.same _)
    · exact .some (.trace 0)
  all_goals exact rel_of_eq rfl

/-- A place of the trail shows its mark and leads to the next place, if not asked for a frame. -/
theorem ofTrace? (hr : r.SameCourse r') (place : Nat) {name : String} (hname : name ≠ frameName) :
    AlikeIfAny r r' (Arg.ofTrace? r place name) (Arg.ofTrace? r' place name) := by
  have hstep := hr.trail place
  unfold Arg.ofTrace?
  rw [hr.length]
  generalize r.trail[place]? = s at hstep ⊢
  generalize r'.trail[place]? = s' at hstep ⊢
  cases hstep with
  | none => exact .none
  | @some s s' hmark =>
    obtain ⟨hline, hplace⟩ : s.line = s'.line ∧ s.place = s'.place := by
      simpa [Step.mark] using hmark
    by_cases hnext : name = "tb_next"
    · subst hnext
      show AlikeIfAny r r'
        (some (if place + 1 < r'.trail.length then Arg.trace r (place + 1) else .null))
        (some (if place + 1 < r'.trail.length then Arg.trace r' (place + 1) else .null))
      split
      · exact .some (.trace _)
      · exact .some (.same _)
    · -- only numbers are left, and they are the same
      have hframe : name ≠ "tb_frame" := hname
      exact rel_of_eq (by grind)

/-- What is taken from a value leads back to it. -/
theorem ofBound? (hr : r.SameCourse r') (m : Member) (h : Alike r r' a a') (name : String) :
    AlikeIfAny r r' (Arg.ofBound? m a name) (Arg.ofBound? m a' name) := by
  have hkind := h.kindName hr
  -- apart from the value itself, what is held depends on its kind alone
  by_cases hself : name = "__self__"
  · subst hself
    unfold Arg.ofBound?
    cases m.role
    case free => exact .some (.same _)
    all_goals exact .some h
  · refine rel_of_eq ?_
    cases h with
    | same => rfl
    | _ => unfold Arg.ofBound?; grind

theorem ofDoing? (work : Routine) (h : Alike r r' a a') (name : String) :
    AlikeIfAny r r' (Arg.ofDoing? S work a name) (Arg.ofDoing? S work a' name) := by
  unfold Arg.ofDoing?
  split
  · exact .some h
  all_goals exact rel_of_eq rfl

/-- What `Alike` values hold under a name is alike, but for frames. -/
theorem held? (hr : r.SameCourse r') (h : Alike r r' a a') {name : String}
    (hname : name ≠ frameName) :
    AlikeIfAny r r' (a.held? S name) (a'.held? S name) := by
  unfold Arg.held?
  rw [h.kindName hr]
  split
  · exact rel_of_eq rfl
  · -- both have a field of this name; `frameName` is the one that tells of the frames
    cases h with
    | same => exact rel_of_eq rfl
    | fault => exact ofFault? hr name
    | trace place => exact ofTrace? hr place hname
    | bound m h => exact h.ofBound? hr m name
    | doing work h => exact h.ofDoing? work name

/-! ### Properties and entries -/

/-- What is taken from `Alike` values is alike, but for frames. -/
theorem take? (hr : r.SameCourse r') (h : Alike r r' a a') {m : Member}
    (hname : m.name ≠ frameName) : AlikeIfAny r r' (a.take? S m) (a'.take? S m) := by
  unfold Arg.take?
  rw [h.kindName hr]
  -- it is the value itself that is held, or a member bound to it, or work on it
  split
  case h_3 | h_4 => exact .some (.bound m h)
  case h_1 | h_2 => exact h.held? hr hname
  case h_11 =>
    cases workOf? S m with
    | none => exact .none
    | some work => exact .some (.doing work h)
  all_goals exact rel_of_eq rfl

theorem doingProperty? (hr : r.SameCourse r') (work : Routine) (h : Alike r r' a a') {name : String}
    (hname : name ≠ frameName) :
    AlikeIfAny r r' (Arg.doingProperty? S work a name) (Arg.doingProperty? S work a' name) := by
  unfold Arg.doingProperty?
  rw [h.kindName hr]
  split
  · rename_i m hm
    exact h.take? hr (Surroundings.name_of_member? hm ▸ hname)
  · exact rel_of_eq rfl

private theorem memberProperty? (hr : r.SameCourse r') (h : Alike r r' a a') {name : String}
    (hname : name ≠ frameName) :
    AlikeIfAny r r' ((S.member? a.kindName name).bind (a.take? S))
      ((S.member? a'.kindName name).bind (a'.take? S)) := by
  rw [h.kindName hr]
  cases hm : S.member? a'.kindName name with
  | none => exact .none
  | some m => exact h.take? hr (Surroundings.name_of_member? hm ▸ hname)

/-- A property of `Alike` values is alike, if the access does not pry. -/
theorem property? (hr : r.SameCourse r') (h : Alike r r' a a') {name : Wording}
    (hname : (Access.property name).pries = false) :
    AlikeIfAny r r' (a.property? S name) (a'.property? S name) := by
  unfold Arg.property?
  cases hcs : Wording.chars? name with
  | none => exact .none
  | some cs =>
    -- only `frameName` pries, and the name is another one
    have hname : String.ofList cs ≠ frameName := by
      rintro heq
      simp [Access.pries, hcs, ← heq] at hname
    cases h with
    | same => exact rel_of_eq rfl
    | fault => exact fault.memberProperty? hr hname
    | trace place => exact (trace place).memberProperty? hr hname
    | bound m h => exact (bound m h).memberProperty? hr hname
    | doing work h => exact (doing work h).doingProperty? hr work hname

/-- Of values that belong to a report, none has entries. -/
theorem entry? (h : Alike r r' a a') (key : Wording) :
    AlikeIfAny r r' (a.entry? S key) (a'.entry? S key) := by
  cases h with
  | same => exact rel_of_eq rfl
  | _ =>
    unfold Arg.entry?
    split <;> exact .none

/-- Accesses that do not pry lead from `Alike` values to alike values. -/
theorem follow? (hr : r.SameCourse r') (h : Alike r r' a a') {accesses : List Access}
    (hpries : accesses.any Access.pries = false) :
    AlikeIfAny r r' (a.follow? S accesses) (a'.follow? S accesses) := by
  induction accesses generalizing a a' with
  | nil => exact .some h
  | cons access rest ih =>
    obtain ⟨hfirst, hrest⟩ : access.pries = false ∧ rest.any Access.pries = false := by
      simpa using hpries
    cases access with
    | property name => exact rel_bind (h.property? hr hfirst) fun b b' hb => ih hb hrest
    | entry key => exact rel_bind (h.entry? key) fun b b' hb => ih hb hrest

/-! ### How values are shown -/

/-- `Alike` values have the same literal. -/
theorem literal? (hr : r.SameCourse r') (h : Alike r r' a a') :
    a.literal? S = a'.literal? S := by
  induction h with
  | same => rfl
  | fault => simp only [Arg.literal?, hr.fault]
  | trace => rfl
  | bound m h => simp only [Arg.literal?, h.kindName hr]
  | doing work _ ih => simp only [Arg.literal?, ih]

/-- `Alike` values are displayed the same. -/
theorem display? (hr : r.SameCourse r') (h : Alike r r' a a') :
    a.display? S = a'.display? S := by
  have hliteral := h.literal? (S := S) hr
  cases h with
  | same => rfl
  | fault => simp only [Arg.display?, hr.fault]
  | _ => simp only [Arg.display?, hliteral]

theorem marked? (hr : r.SameCourse r') (h : Alike r r' a a') (mark : Option Symbol) :
    AlikeIfAny r r' (a.marked? S mark) (a'.marked? S mark) := by
  unfold Arg.marked?
  rw [h.literal? hr, h.display? hr]
  split
  case h_1 | h_2 => exact .some h
  all_goals exact rel_of_eq rfl

/-- `Alike` values are formatted the same. -/
theorem format? (hr : r.SameCourse r') (h : Alike r r' a a') (spec : Wording) :
    a.format? S spec = a'.format? S spec := by
  unfold Arg.format?
  rw [h.display? hr]
  cases h <;> rfl

end Alike

end Template.Arg

/-! ## Filling in -/

namespace Template

variable {S : Surroundings} {r r' : Report}
  {expand expand' : Wording → Numbering → Option (Wording × Numbering)}

/-- What is made of `Alike` values is the same. -/
private theorem bind_eq_of_rel {β : Type} {a a' : Option Arg} {f f' : Arg → Option β}
    (h : Arg.AlikeIfAny r r' a a') (hf : ∀ b b', Arg.Alike r r' b b' → f b = f' b') :
    a.bind f = a'.bind f' := by
  cases h with
  | none => rfl
  | some h => exact hf _ _ h

private theorem rel_argument (place : Nat) :
    Arg.AlikeIfAny r r' [Arg.fault r][place]? [Arg.fault r'][place]? := by
  cases place with
  | zero => exact .some .fault
  | succ place => exact .none

/-- A field that does not pry, and whose specification is filled in the same. -/
private theorem fillField_eq (hr : r.SameCourse r') {f : Field} (hpries : f.pries = false)
    (hexpand : expand f.spec = expand' f.spec) (numbering : Numbering) :
    fillField S expand [.fault r] f numbering = fillField S expand' [.fault r'] f numbering := by
  refine Option.bind_congr fun split hsplit => ?_
  obtain ⟨first, accesses⟩ := split
  refine Option.bind_congr fun placed _ => ?_
  obtain ⟨place, numbering⟩ := placed
  have haccesses : accesses.any Access.pries = false := by
    simpa [Field.pries, hsplit] using hpries
  -- the argument, then what its accesses lead to, then what its mark makes of that
  refine bind_eq_of_rel (rel_argument place) fun a a' ha => ?_
  refine bind_eq_of_rel (ha.follow? hr haccesses) fun b b' hb => ?_
  refine bind_eq_of_rel (hb.marked? hr f.mark) fun c c' hc => ?_
  have hformat : c.format? S = c'.format? S := funext (hc.format? hr)
  simp only [hexpand, hformat]

private theorem fillPieces_eq (hr : r.SameCourse r') {found : List Piece}
    (hfields : ∀ f, .field f ∈ found → f.pries = false ∧ expand f.spec = expand' f.spec)
    (numbering : Numbering) :
    fillPieces S expand [.fault r] found numbering =
      fillPieces S expand' [.fault r'] found numbering := by
  induction found generalizing numbering with
  | nil => rfl
  | cons piece rest ih =>
    have hrest := ih fun f hf => hfields f (List.mem_cons_of_mem _ hf)
    cases piece with
    | plain s => simp only [fillPieces, hrest]
    | field f =>
      -- the field itself does not pry, and its format is expanded alike
      obtain ⟨hpries, hexpand⟩ := hfields f List.mem_cons_self
      simp only [fillPieces, fillField_eq hr hpries hexpand, hrest]

/-- A text that does not pry down to a depth is filled in the same. -/
private theorem fillTo_eq (hr : r.SameCourse r') {depth : Nat} {w : Wording}
    (hpries : priesTo depth w = false) (numbering : Numbering) :
    fillTo S [.fault r] depth w numbering = fillTo S [.fault r'] depth w numbering := by
  induction depth generalizing w numbering with
  | zero => rfl
  | succ depth ih =>
    -- the fields in specifications are one level further down
    refine Option.bind_congr fun found hfound => fillPieces_eq hr (fun f hf => ?_) numbering
    rw [priesTo, hfound] at hpries
    have hfield := List.any_eq_false.1 hpries (.field f) hf
    obtain ⟨hname, hspec⟩ : f.pries = false ∧ priesTo depth f.spec = false := by
      simpa using hfield
    exact ⟨hname, funext (ih hspec)⟩

/-- A template that does not pry shows nothing of a report but the fault and its course. -/
theorem fill_eq_of_discreet (hr : r.SameCourse r') {template : Wording}
    (hpries : pries template = false) :
    fill S template [.fault r] = fill S template [.fault r'] := by
  unfold fill
  rw [fillTo_eq hr hpries]

end Template

end Gamebook
