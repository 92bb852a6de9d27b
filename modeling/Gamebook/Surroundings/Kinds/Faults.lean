import Gamebook.Surroundings.Kinds.Operations

/-!
# Kinds of faults

Kinds of the faults that a session tells about.
-/

namespace Gamebook.Template

/-- All faults. -/
def anyFaultKind : Kind where
  name := "BaseException"
  ancestors := ["object"]
  note := some "Common base class for all exceptions"
  measures := ⟨72, 0, 16, 0, 0x40085500⟩
  members :=
    [.maker] ++
    operations ["__repr__", "__str__", "__getattribute__", "__setattr__", "__delattr__",
                "__init__"] ++
    [.method "__reduce__" none none,
     .method "__setstate__" none none,
     .method "with_traceback" none (some (
        "Exception.with_traceback(tb) --\n" ++
        "    set self.__traceback__ to tb and return self.")),
     .method "add_note" none (some (
        "Exception.add_note(note) --\n" ++
        "    add a note to the exception")),
     .slot "__suppress_context__" none,
     .property "__dict__" none,
     .property "args" none,
     .property "__traceback__" none,
     .property "__context__" (some "exception context"),
     .property "__cause__" (some "exception cause"),
     .described]

/-- Faults that a session survives. -/
def faultKind : Kind where
  name := "Exception"
  ancestors := ["BaseException", "object"]
  note := some "Common base class for all non-exit exceptions."
  measures := ⟨72, 0, 16, 0, 0x40085500⟩
  members :=
    [.maker] ++
    operations ["__init__"] ++
    [.described]

/-- Values that do not fit. -/
def valueFaultKind : Kind where
  name := "ValueError"
  ancestors := ["Exception", "BaseException", "object"]
  note := some "Inappropriate argument value (of correct type)."
  measures := ⟨72, 0, 16, 0, 0x40085500⟩
  members :=
    [.maker] ++
    operations ["__init__"] ++
    [.described]

/-- Texts that cannot be read or written. -/
def codingFaultKind : Kind where
  name := "UnicodeError"
  ancestors := ["ValueError", "Exception", "BaseException", "object"]
  note := some "Unicode related error."
  measures := ⟨72, 0, 16, 0, 0x40085500⟩
  members :=
    [.maker] ++
    operations ["__init__"] ++
    [.described]

/-- Files that are no text. -/
def decodingFaultKind : Kind where
  name := "UnicodeDecodeError"
  ancestors := ["UnicodeError", "ValueError", "Exception", "BaseException", "object"]
  note := some "Unicode decoding error."
  measures := ⟨112, 0, 16, 0, 0x40085500⟩
  members :=
    [.maker] ++
    operations ["__str__", "__init__"] ++
    [.slot "encoding" (some "exception encoding"),
     .slot "object" (some "exception object"),
     .slot "start" (some "exception start"),
     .slot "end" (some "exception end"),
     .slot "reason" (some "exception reason"),
     .described]

/-- Values of the wrong kind. -/
def typeFaultKind : Kind where
  name := "TypeError"
  ancestors := ["Exception", "BaseException", "object"]
  note := some "Inappropriate argument type."
  measures := ⟨72, 0, 16, 0, 0x40085500⟩
  members :=
    [.maker] ++
    operations ["__init__"] ++
    [.described]

/-- Properties that are missing. -/
def propertyFaultKind : Kind where
  name := "AttributeError"
  ancestors := ["Exception", "BaseException", "object"]
  note := some "Attribute not found."
  measures := ⟨88, 0, 16, 0, 0x40085500⟩
  members :=
    operations ["__str__", "__init__"] ++
    [.slot "name" (some "attribute name"),
     .slot "obj" (some "object"),
     .described]

/-- Failures of the disk. -/
def diskFaultKind : Kind where
  name := "OSError"
  ancestors := ["Exception", "BaseException", "object"]
  note := some "Base class for I/O related errors."
  measures := ⟨112, 0, 16, 0, 0x40085500⟩
  members :=
    [.maker] ++
    operations ["__str__", "__init__"] ++
    [.method "__reduce__" none none,
     .slot "errno" (some "POSIX exception code"),
     .slot "strerror" (some "exception strerror"),
     .slot "filename" (some "exception filename"),
     .slot "filename2" (some "second exception filename"),
     .property "characters_written" none,
     .described]

/-- Paths to nothing. -/
def missingFaultKind : Kind where
  name := "FileNotFoundError"
  ancestors := ["OSError", "Exception", "BaseException", "object"]
  note := some "File not found."
  measures := ⟨112, 0, 16, 0, 0x40085500⟩
  members :=
    operations ["__init__"] ++
    [.described]

/-- Folders in the place of a file. -/
def isFolderFaultKind : Kind where
  name := "IsADirectoryError"
  ancestors := ["OSError", "Exception", "BaseException", "object"]
  note := some "Operation doesn't work on directories."
  measures := ⟨112, 0, 16, 0, 0x40085500⟩
  members :=
    operations ["__init__"] ++
    [.described]

/-- Files in the place of a folder. -/
def notFolderFaultKind : Kind where
  name := "NotADirectoryError"
  ancestors := ["OSError", "Exception", "BaseException", "object"]
  note := some "Operation only works on directories."
  measures := ⟨112, 0, 16, 0, 0x40085500⟩
  members :=
    operations ["__init__"] ++
    [.described]

end Gamebook.Template
