import Gamebook.Template.Arg
import Gamebook.Template.Field

/-!
# Reaching into values

A field may reach into its value by the name of a property after a point, or by a place or a name in
brackets.

The properties of a value are the members of its kind: an attribute or a slot gives what it holds,
and any other member is given as taken from the value. A kind has the properties of kinds, and shows
the members of its values as they are. A kind with a remark answers for itself to a few names, and
leaves the others to the kind.
-/

namespace Gamebook.Template.Arg

variable (S : Surroundings)

/-! ## What values hold -/

/-- What a kind holds in an attribute or slot. -/
def ofKind? (kindName name : String) : Option Arg :=
  match S.kind? kindName, name with
  | none, _ => none
  | some k, "__name__" => some (.text (shortName k.name))
  | some k, "__qualname__" => some (.text (shortName k.name))
  | some k, "__module__" => some (.text (homeName k.name))
  | some k, "__base__" => some ((k.ancestors.head?.map Arg.kind).getD .null)
  | some k, "__bases__" => some (.tuple (k.ancestors.head?.toList.map .kind))
  | some k, "__mro__" => some (.tuple ((k.name :: k.ancestors).map .kind))
  | some k, "__dict__" => some (.roster k.name)
  | some k, "__text_signature__" => some (.text? k.signature)
  | some k, "__basicsize__" => some (.int k.measures.size)
  | some k, "__itemsize__" => some (.int k.measures.itemSize)
  | some k, "__dictoffset__" => some (.int k.measures.tablePlace)
  | some k, "__weakrefoffset__" => some (.int k.measures.referencePlace)
  | some k, "__flags__" => some (.int k.measures.traits)
  | some k, "__doc__" =>
    match k.note, k.own? name with
    | some note, _ => some (.text note)
    | none, some m => if m.role = .attribute then some (.member m) else some .null
    | none, none => some .null
  | some _, _ => none

/-- What a fault holds in an attribute or slot. A fault told by a session is never the outcome of
    another one. -/
def ofFault? (r : Report) (name : String) : Option Arg :=
  match r.fault, name with
  | f, "args" => some (.tuple (f.details.map ofDetail))
  | _, "__cause__" => some .null
  | _, "__context__" => some .null
  | _, "__suppress_context__" => some (.bool false)
  | _, "__dict__" => some .emptyObject
  | _, "__traceback__" => some (if r.trail.isEmpty then .null else .trace r 0)
  | .disk failure _, "errno" => some (.int failure.code)
  | .disk failure _, "strerror" => some (.text failure.text)
  | .disk _ path, "filename" => some (.text path)
  | .disk _ _, "filename2" => some .null
  | .notText _ _, "encoding" => some (.text "utf-8")
  | .notText content _, "object" => some (.bytes content)
  | .notText _ piece, "start" => some (.int piece.first)
  | .notText _ piece, "end" => some (.int piece.stop)
  | .notText _ piece, "reason" => some (.text (Fault.reasonText piece.reason))
  | .notWords _, "name" => some (.text "replace")
  | .notWords v, "obj" => some (.value v)
  | _, _ => none

/-- What a whole number holds in an attribute. -/
def ofWhole? (n : Int) (name : String) : Option Arg :=
  match name with
  | "real" => some (.int n)
  | "numerator" => some (.int n)
  | "imag" => some (.int 0)
  | "denominator" => some (.int 1)
  | _ => none

/-- What a free member holds in an attribute or slot. -/
def ofMember? (m : Member) (name : String) : Option Arg :=
  match name with
  | "__name__" => some (.text m.name)
  | "__qualname__" => some (.text m.fullName)
  | "__objclass__" => some (.kind m.owner)
  | "__doc__" => some (.text? m.note)
  | "__text_signature__" => some (.text? m.signature)
  | _ => none

/-- What a member of no value holds as its kind keeps it: the member itself. -/
def ofFree? (m : Member) (name : String) : Option Arg :=
  match name with
  | "__func__" => some (.bound m (.kind m.owner))
  | "__wrapped__" => some (.bound m (.kind m.owner))
  | "__isabstractmethod__" => some (.bool false)
  | "__dict__" => some .emptyObject
  | _ => none

/-- What a member taken from a value holds in an attribute or slot. A wrapper has the full name it
    has in its kind, and any other member the one that fits the value. -/
def ofBound? (m : Member) (self : Arg) (name : String) : Option Arg :=
  match name, m.role, self with
  | "__self__", .free, _ => some .null
  | "__self__", _, self => some self
  | "__module__", _, _ => some .null
  | "__qualname__", .wrapper, _ => some (.text m.fullName)
  | "__qualname__", _, .kind k => some (.text (shortName k ++ "." ++ m.name))
  | "__qualname__", _, self => some (.text (shortName self.kindName ++ "." ++ m.name))
  | name, _, _ => ofMember? m name

/-- What a kind with a remark holds in an attribute or slot. -/
def ofRemarked? (kindName : String) (remark : Arg) (name : String) : Option Arg :=
  match name with
  | "__origin__" => some (.kind kindName)
  | "__args__" => some (.tuple [remark])
  | "__parameters__" => some (.tuple [])
  | "__unpacked__" => some (.bool false)
  | "__typing_unpacked_tuple_args__" => some .null
  | _ => none

/-- What the trail of a report holds from a place on. -/
def ofTrace? (r : Report) (place : Nat) (name : String) : Option Arg :=
  match r.trail[place]?, name with
  | some _, "tb_frame" => some (.frame r (place + 1))
  | some step, "tb_lineno" => some (.int step.line)
  | some step, "tb_lasti" => step.place.map fun n => .int n
  | some _, "tb_next" => some (if place + 1 < r.trail.length then .trace r (place + 1) else .null)
  | _, _ => none

/-- What is known of the routine at a place of a report's steps. The outermost routine of the trail
    is telling the fault, and the others stand where they failed. -/
def ofFrame? (r : Report) (place : Nat) (name : String) : Option Arg :=
  match r.steps[place]?, name with
  | some step, "f_code" => (S.routine? step.routine).map (.code (some r))
  | some step, "f_lineno" => some (.int (if place = 1 then Step.tellingLine else step.line))
  | some step, "f_lasti" =>
    (if place = 1 then some Step.tellingPlace else step.place).map fun n => .int n
  | some step, "f_locals" => some (.table (some r) (S.heldAt r place step))
  | some step, "f_globals" =>
    (S.routine? step.routine).map fun work => .table (some r) (S.sharedWith r work)
  | some _, "f_builtins" => some (.table none S.known)
  | some _, "f_back" => if place = 0 then none else some (.frame r (place - 1))
  | some _, "f_trace" => some .null
  | some _, "f_trace_lines" => some (.bool true)
  | some _, "f_trace_opcodes" => some (.bool false)
  | _, _ => none

/-- What a routine shares with others, as far as it is known. -/
def sharedBy? (r : Option Report) (work : Routine) : Option Arg :=
  match r, work.part with
  | _, some part => some (.table none (S.contents part))
  | some r, none => some (.table (some r) (S.globals r))
  | none, none => none

/-- What a routine holds in an attribute or slot. -/
def ofRoutine? (r : Option Report) (work : Routine) (name : String) : Option Arg :=
  match name with
  | "__name__" => some (.text work.name)
  | "__qualname__" => some (.text work.fullName)
  | "__doc__" => some (ofHeld S none work.note)
  | "__module__" => (work.part.or (r.map (·.name))).map .text
  | "__code__" => some (.code r work)
  | "__globals__" => sharedBy? S r work
  | "__builtins__" => some (.table none S.known)
  | "__defaults__" =>
    some (if work.defaults.isEmpty then .null else .tuple (ofHelds S none work.defaults))
  | "__kwdefaults__" =>
    some (if work.namedDefaults.isEmpty then .null else .table none work.namedDefaults)
  | "__closure__" => if work.outer.isEmpty then some .null else none
  | "__annotations__" => some .emptyObject
  | "__dict__" => some .emptyObject
  | _ => none

/-- What a routine that is taken from a value holds in an attribute or slot. -/
def ofDoing? (work : Routine) (self : Arg) (name : String) : Option Arg :=
  match name with
  | "__self__" => some self
  | "__func__" => some (.routine none work)
  | "__doc__" => some (ofHeld S none work.note)
  | _ => none

/-- What a routine without a listing holds in an attribute or slot. -/
def ofTool? (t : Tool) (name : String) : Option Arg :=
  match name with
  | "__name__" => some (.text t.name)
  | "__qualname__" => some (.text t.name)
  | "__doc__" => some (.text? t.note)
  | "__text_signature__" => some (.text? t.signature)
  | "__module__" => some (.text? t.home)
  | "__self__" => some ((t.part.map (ofPart S)).getD .null)
  | _ => none

/-- What the code of a routine holds in an attribute or slot. -/
def ofCode? (work : Routine) (name : String) : Option Arg :=
  match name with
  | "co_name" => some (.text work.name)
  | "co_qualname" => some (.text work.fullName)
  | "co_firstlineno" => some (.int work.firstLine)
  | "co_argcount" => some (.int work.parameters.length)
  | "co_posonlyargcount" => some (.int work.placeOnly)
  | "co_kwonlyargcount" => some (.int work.named.length)
  | "co_nlocals" => some (.int work.names.length)
  | "co_varnames" => some (.tuple (work.names.map .text))
  | "co_names" => some (.tuple (work.mentioned.map .text))
  | "co_consts" => some (.tuple (ofHelds S none work.constants))
  | "co_stacksize" => some (.int work.depth)
  | "co_cellvars" => some (.tuple (work.cells.map .text))
  | "co_freevars" => some (.tuple (work.outer.map .text))
  | "co_flags" => some (.int work.allTraits)
  | "co_filename" => ((work.part.bind S.part?).bind (·.listing?)).map .text
  | _ => none

/-- What a value holds in an attribute or slot. -/
def held? (a : Arg) (name : String) : Option Arg :=
  if name = "__class__" then some (.kind a.kindName)
  else
    match a, name with
    | .value (.int n), name => ofWhole? n name
    | .value (.bool b), name => ofWhole? (if b then 1 else 0) name
    | .value (.float x), "real" => some (.value (.float x))
    | .value (.float _), "imag" => some (.value (.float (.zero false)))
    | .kind k, name => ofKind? S k name
    | .member m, name => if m.role = .free then ofFree? m name else ofMember? m name
    | .bound m self, name => ofBound? m self name
    | .remarked k remark, name => ofRemarked? k remark name
    | .fault r, name => ofFault? r name
    | .trace r place, name => ofTrace? r place name
    | .frame r place, name => ofFrame? S r place name
    | .routine r work, name => ofRoutine? S r work name
    | .code _ work, name => ofCode? S work name
    | .doing work self, name => ofDoing? S work self name
    | .tool t, name => ofTool? S t name
    | .thing r _ _ fields _, name => (Table.get? fields name).map (ofHeld S r)
    | _, _ => none

/-! ## Properties -/

/-- Whether a member gives what a value holds. -/
def isHeld (m : Member) : Bool := m.role == .attribute || m.role == .slot

/-- A member as taken from a value. -/
def take? (a : Arg) (m : Member) : Option Arg :=
  match m.role with
  | .attribute | .slot => a.held? S m.name
  | .method | .wrapper => some (.bound m a)
  | .shared => some (.bound m (.kind a.kindName))
  | .builder | .free => some (.bound m (.kind m.owner))
  | .absent => some .null
  | .note | .home => some (.text? m.note)
  | .work => (workOf? S m).map fun work => .doing work a
  | .constant => m.value.map (ofHeld S none)

/-- A member as a kind shows it. -/
def showMember (kindName : String) (m : Member) : Arg :=
  match m.role with
  | .work => ((workOf? S m).map (Arg.routine none)).getD .null
  | .constant => (m.value.map (ofHeld S none)).getD .null
  | .attribute | .slot | .method | .wrapper => .member m
  | .shared => .bound m (.kind kindName)
  | .builder | .free => .bound m (.kind m.owner)
  | .absent => .null
  | .note | .home => .text? m.note

/-- A property of a kind. What kinds hold goes first, then the members of its values, and then what
    kinds can do. -/
def kindProperty? (kindName name : String) : Option Arg :=
  match S.member? "type" name, S.member? kindName name with
  | some m, own =>
    if isHeld m then (Arg.kind kindName).held? S name
    else
      match own with
      | some own => some (showMember S kindName own)
      | none => (Arg.kind kindName).take? S m
  | none, own => own.map (showMember S kindName)

/-- The names to which a kind with a remark answers for itself. -/
def remarkedNames : List String :=
  ["__class__", "__origin__", "__args__", "__unpacked__", "__parameters__",
   "__typing_unpacked_tuple_args__", "__mro_entries__", "__reduce_ex__", "__reduce__", "__copy__",
   "__deepcopy__"]

/-- A property of a thing. What its kind holds goes first, then what the thing has by itself, and
    then what its kind can do. -/
def thingProperty? (a : Arg) (name : String) : Option Arg :=
  match S.member? a.kindName name with
  | some m => if isHeld m then a.take? S m else (a.held? S name).or (a.take? S m)
  | none => a.held? S name

/-- A property of a routine that is taken from a value: its own, or else that of the routine. -/
def doingProperty? (work : Routine) (a : Arg) (name : String) : Option Arg :=
  match S.member? a.kindName name with
  | some m => a.take? S m
  | none => do (Arg.routine none work).take? S (← S.member? "function" name)

/-- A property of a value. -/
def property? (a : Arg) (name : Wording) : Option Arg := do
  let name := String.ofList (← Wording.chars? name)
  match a with
  | .kind k => kindProperty? S k name
  | .remarked k _ =>
    if remarkedNames.contains name then a.take? S (← S.member? a.kindName name)
    else kindProperty? S k name
  | .thing .. => a.thingProperty? S name
  | .doing work _ => doingProperty? S work a name
  | a => a.take? S (← S.member? a.kindName name)

/-! ## Entries -/

/-- An own member of a kind as the kind lists it. -/
def ownMember? (kindName name : String) : Option Arg := do
  let m ← (← S.kind? kindName).own? name
  match m.role with
  | .shared | .free => some (.member m)
  | _ => some (showMember S kindName m)

/-- Whether a kind takes a remark on its items. -/
def takesRemark (kindName : String) : Bool :=
  kindName == "type" || (S.member? kindName "__class_getitem__").isSome

/-- An entry of a value by its place. -/
def entryAt? (a : Arg) (i : Nat) : Option Arg :=
  match a with
  | .value (.str w) => w[i]?.map fun s => .value (.str [s])
  | .value (.arr items) => items[i]?.map .value
  | .tuple items => items[i]?
  | .bytes content => content[i]?.map fun b => .int b.toNat
  | .thing r _ _ _ items => items[i]?.map (ofHeld S r)
  | .kind k => if takesRemark S k then some (.remarked k (.int i)) else none
  | _ => none

/-- An entry of a value by its name. -/
def entryOf? (a : Arg) (key : Wording) : Option Arg :=
  match a, (Wording.chars? key).map String.ofList with
  | .value (.obj fields), _ => (Table.get? fields key).map .value
  | .kind k, _ => if takesRemark S k then some (.remarked k (.value (.str key))) else none
  | .roster k, some name => ownMember? S k name
  | .table r entries, some name => (Table.get? entries name).map (ofHeld S r)
  | _, _ => none

/-- An entry of a value: a number in brackets is a place, anything else a name. -/
def entry? (a : Arg) (key : Wording) : Option Arg :=
  match index? key with
  | some i => a.entryAt? S i
  | none => a.entryOf? S key

/-- Follows accesses from a value. -/
def follow? : Arg → List Access → Option Arg
  | a, [] => some a
  | a, .property name :: rest => do follow? (← a.property? S name) rest
  | a, .entry key :: rest => do follow? (← a.entry? S key) rest

end Gamebook.Template.Arg
