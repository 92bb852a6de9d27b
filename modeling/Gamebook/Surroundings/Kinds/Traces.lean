import Gamebook.Surroundings.Kinds.Operations

/-!
# Kinds of traces

Kinds of what the trail of a fault is made of.
-/

namespace Gamebook.Template

/-- The trail of a fault from one of its steps on. -/
def traceKind : Kind where
  name := "traceback"
  ancestors := ["object"]
  note := some (
    "TracebackType(tb_next, tb_frame, tb_lasti, tb_lineno)\n" ++
    "--\n\n" ++
    "Create a new traceback object.")
  measures := ⟨40, 0, 0, 0, 0x85100⟩
  members :=
    [.maker] ++
    operations ["__getattribute__"] ++
    [.method "__dir__" none none,
     .slot "tb_frame" none,
     .slot "tb_lasti" none,
     .slot "tb_lineno" none,
     .property "tb_next" none,
     .described]

/-- What a routine holds in a step. -/
def frameKind : Kind where
  name := "frame"
  ancestors := ["object"]
  measures := ⟨120, 8, 0, 0, 0x85180⟩
  members :=
    operations ["__repr__", "__getattribute__", "__setattr__", "__delattr__"] ++
    [.method "clear" none (some "F.clear(): clear most references held by the frame"),
     .method "__sizeof__" none (some "F.__sizeof__() -> size of F in memory, in bytes"),
     .slot "f_trace_lines" none,
     .slot "f_trace_opcodes" none,
     .property "f_back" none,
     .property "f_locals" none,
     .property "f_lineno" none,
     .property "f_trace" none,
     .property "f_lasti" none,
     .property "f_globals" none,
     .property "f_builtins" none,
     .property "f_code" none,
     .described]

/-- The code of a routine. -/
def codeKind : Kind where
  name := "code"
  ancestors := ["object"]
  note := some "Create a code object.  Not for the faint of heart."
  signature := some (
    "(argcount, posonlyargcount, kwonlyargcount, nlocals, stacksize,\n" ++
    "     flags, codestring, constants, names, varnames, filename, name,\n" ++
    "     qualname, firstlineno, linetable, exceptiontable, freevars=(),\n" ++
    "     cellvars=(), /)")
  measures := ⟨184, 2, 0, 144, 0x81100⟩
  members :=
    [.maker] ++
    operations ["__repr__", "__hash__", "__getattribute__", "__lt__", "__le__", "__eq__",
                "__ne__", "__gt__", "__ge__"] ++
    [.method "__sizeof__" none none,
     .method "co_lines" none none,
     .method "co_positions" none none,
     .method "replace" (some "($self, /, **changes)")
       (some "Return a copy of the code object with new values for the specified fields."),
     .method "_varname_from_oparg" (some "($self, /, oparg)") (some (
        "(internal-only) Return the local variable name for the given oparg.\n\n" ++
        "WARNING: this method is for internal use only and may change or go away.")),
     .slot "co_argcount" none,
     .slot "co_posonlyargcount" none,
     .slot "co_kwonlyargcount" none,
     .slot "co_stacksize" none,
     .slot "co_flags" none,
     .slot "co_nlocals" none,
     .slot "co_consts" none,
     .slot "co_names" none,
     .slot "co_filename" none,
     .slot "co_name" none,
     .slot "co_qualname" none,
     .slot "co_firstlineno" none,
     .slot "co_linetable" none,
     .slot "co_exceptiontable" none,
     .property "co_lnotab" none,
     .property "_co_code_adaptive" none,
     .property "co_varnames" none,
     .property "co_cellvars" none,
     .property "co_freevars" none,
     .property "co_code" none,
     .described]

/-- Routines. -/
def routineKind : Kind where
  name := "function"
  ancestors := ["object"]
  note := some (
    "Create a function object.\n\n" ++
    "  code\n" ++
    "    a code object\n" ++
    "  globals\n" ++
    "    the globals dictionary\n" ++
    "  name\n" ++
    "    a string that overrides the name from the code object\n" ++
    "  argdefs\n" ++
    "    a tuple that specifies the default argument values\n" ++
    "  closure\n" ++
    "    a tuple that supplies the bindings for free variables")
  signature := some "(code, globals, name=None, argdefs=None, closure=None)"
  measures := ⟨136, 0, 88, 96, 0xa5900⟩
  members :=
    [.maker] ++
    operations ["__repr__", "__call__", "__get__"] ++
    [.slot "__closure__" none,
     .slot "__doc__" none,
     .slot "__globals__" none,
     .slot "__module__" none,
     .slot "__builtins__" none,
     .property "__code__" none,
     .property "__defaults__" none,
     .property "__kwdefaults__" none,
     .property "__annotations__" none,
     .property "__dict__" none,
     .property "__name__" none,
     .property "__qualname__" none]

end Gamebook.Template
