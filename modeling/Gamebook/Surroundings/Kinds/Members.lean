import Gamebook.Surroundings.Kinds.Operations

/-!
# Kinds of members

Kinds of members, free or taken from a value, and of kinds with a remark.
-/

namespace Gamebook.Template

/-- Methods. -/
def methodKind : Kind where
  name := "method_descriptor"
  ancestors := ["object"]
  measures := ⟨56, 0, 0, 0, 0xa5980⟩
  members :=
    operations ["__repr__", "__call__", "__getattribute__", "__get__"] ++
    [.method "__reduce__" none none,
     .slot "__objclass__" none,
     .slot "__name__" none,
     .property "__doc__" none,
     .property "__qualname__" none,
     .property "__text_signature__" none]

/-- Operations. -/
def wrapperKind : Kind where
  name := "wrapper_descriptor"
  ancestors := ["object"]
  measures := ⟨56, 0, 0, 0, 0xa5180⟩
  members :=
    operations ["__repr__", "__call__", "__getattribute__", "__get__"] ++
    [.method "__reduce__" none none,
     .slot "__objclass__" none,
     .slot "__name__" none,
     .property "__doc__" none,
     .property "__qualname__" none,
     .property "__text_signature__" none]

/-- Attributes. -/
def attributeKind : Kind where
  name := "getset_descriptor"
  ancestors := ["object"]
  measures := ⟨48, 0, 0, 0, 0x85180⟩
  members :=
    operations ["__repr__", "__getattribute__", "__get__", "__set__", "__delete__"] ++
    [.slot "__objclass__" none,
     .slot "__name__" none,
     .property "__doc__" none,
     .property "__qualname__" none]

/-- Slots. -/
def slotKind : Kind where
  name := "member_descriptor"
  ancestors := ["object"]
  measures := ⟨48, 0, 0, 0, 0x85180⟩
  members :=
    operations ["__repr__", "__getattribute__", "__get__", "__set__", "__delete__"] ++
    [.method "__reduce__" none none,
     .slot "__objclass__" none,
     .slot "__name__" none,
     .property "__doc__" none,
     .property "__qualname__" none]

/-- Methods of a kind. -/
def sharedKind : Kind where
  name := "classmethod_descriptor"
  ancestors := ["object"]
  measures := ⟨56, 0, 0, 0, 0x85180⟩
  members :=
    operations ["__repr__", "__call__", "__getattribute__", "__get__"] ++
    [.slot "__objclass__" none,
     .slot "__name__" none,
     .property "__doc__" none,
     .property "__qualname__" none,
     .property "__text_signature__" none]

/-- Methods of one value. -/
def boundMethodKind : Kind where
  name := "builtin_function_or_method"
  ancestors := ["object"]
  measures := ⟨56, 0, 0, 40, 0x85980⟩
  members :=
    operations ["__repr__", "__hash__", "__call__", "__getattribute__", "__lt__", "__le__",
                "__eq__", "__ne__", "__gt__", "__ge__"] ++
    [.method "__reduce__" none none,
     .slot "__module__" none,
     .property "__doc__" none,
     .property "__name__" none,
     .property "__qualname__" none,
     .property "__self__" none,
     .property "__text_signature__" none]

/-- Operations of one value. -/
def boundWrapperKind : Kind where
  name := "method-wrapper"
  ancestors := ["object"]
  measures := ⟨32, 0, 0, 0, 0x85180⟩
  members :=
    operations ["__repr__", "__hash__", "__call__", "__getattribute__", "__lt__", "__le__",
                "__eq__", "__ne__", "__gt__", "__ge__"] ++
    [.method "__reduce__" none none,
     .slot "__self__" none,
     .property "__objclass__" none,
     .property "__name__" none,
     .property "__qualname__" none,
     .property "__doc__" none,
     .property "__text_signature__" none]

/-- Methods of no value, as their kind keeps them. -/
def freeKind : Kind where
  name := "staticmethod"
  ancestors := ["object"]
  note := some (
    "staticmethod(function) -> method\n\n" ++
    "Convert a function to be a static method.\n\n" ++
    "A static method does not receive an implicit first argument.\n" ++
    "To declare a static method, use this idiom:\n\n" ++
    "     class C:\n" ++
    "         @staticmethod\n" ++
    "         def f(arg1, arg2, argN):\n" ++
    "             ...\n\n" ++
    "It can be called either on the class (e.g. C.f()) or on an instance\n" ++
    "(e.g. C().f()). Both the class and the instance are ignored, and\n" ++
    "neither is passed implicitly as the first argument to the method.\n\n" ++
    "Static methods in Python are similar to those found in Java or C++.\n" ++
    "For a more advanced concept, see the classmethod builtin.")
  measures := ⟨32, 0, 24, 0, 0x85500⟩
  members :=
    [.maker] ++
    operations ["__repr__", "__call__", "__get__", "__init__"] ++
    [.slot "__func__" none,
     .slot "__wrapped__" none,
     .property "__isabstractmethod__" none,
     .property "__dict__" none,
     .described]

/-- The members of a kind by their names. -/
def rosterKind : Kind where
  name := "mappingproxy"
  ancestors := ["object"]
  measures := ⟨24, 0, 0, 0, 0x85140⟩
  members :=
    [.maker] ++
    operations ["__repr__", "__str__", "__getattribute__", "__lt__", "__le__", "__eq__", "__ne__",
                "__gt__", "__ge__", "__iter__", "__or__", "__ror__", "__ior__", "__len__",
                "__getitem__", "__contains__"] ++
    [.method "get" none (some "D.get(k[,d]) -> D[k] if k in D, else d.  d defaults to None."),
     .method "keys" none (some "D.keys() -> a set-like object providing a view on D's keys"),
     .method "values" none (some "D.values() -> an object providing a view on D's values"),
     .method "items" none (some "D.items() -> a set-like object providing a view on D's items"),
     .method "copy" none (some "D.copy() -> a shallow copy of D"),
     .shared "__class_getitem__" none (some "See PEP 585"),
     .method "__reversed__" none (some "D.__reversed__() -> reverse iterator"),
     .described,
     .absent "__hash__"]

/-- Kinds with a remark on their items. -/
def remarkedKind : Kind where
  name := "types.GenericAlias"
  ancestors := ["object"]
  note := some (
    "Represent a PEP 585 generic type\n\n" ++
    "E.g. for t = list[int], t.__origin__ is list and t.__args__ is (int,).")
  measures := ⟨64, 0, 0, 40, 0x85d00⟩
  members :=
    [.maker] ++
    operations ["__repr__", "__hash__", "__call__", "__getattribute__", "__lt__", "__le__",
                "__eq__", "__ne__", "__gt__", "__ge__", "__iter__", "__or__", "__ror__",
                "__getitem__"] ++
    [.method "__mro_entries__" none none,
     .method "__instancecheck__" none none,
     .method "__subclasscheck__" none none,
     .method "__reduce__" none none,
     .method "__dir__" none none,
     .slot "__origin__" none,
     .slot "__args__" none,
     .slot "__unpacked__" none,
     .property "__parameters__" (some "Type variables in the GenericAlias."),
     .property "__typing_unpacked_tuple_args__" none,
     .described]

end Gamebook.Template
