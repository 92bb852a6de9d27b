import Gamebook.Surroundings.Kinds.Operations

/-!
# Kinds of things

Kinds of the things that routines hold: files, findings, readers of bytes, and the parts of the
library. Of most members only the names and the roles are listed.
-/

namespace Gamebook.Template

/-- Methods by their names. -/
def methods (names : List String) : List Entry := names.map fun name => .method name none none

/-- Properties that are stored or worked out, by their names. -/
def properties (stored worked : List String) : List Entry :=
  stored.map (fun name => .slot name none) ++ worked.map fun name => .property name none

/-! ## Files -/

/-- Everything that can be read or written. -/
def anyFileKind : Kind where
  name := "_io._IOBase"
  ancestors := ["object"]
  measures := ⟨32, 0, 16, 24, 0x85500⟩
  members :=
    [.maker] ++
    operations ["__iter__", "__next__", "__del__"] ++
    methods
      ["seek", "tell", "truncate", "flush", "close", "seekable", "readable", "writable",
       "_checkClosed", "_checkSeekable", "_checkReadable", "_checkWritable", "fileno", "isatty",
       "__enter__", "__exit__", "readline", "readlines", "writelines"] ++
    properties [] ["__dict__", "closed"]

/-- Everything that can be read as a text. -/
def anyTextFileKind : Kind where
  name := "_io._TextIOBase"
  ancestors := ["_io._IOBase", "object"]
  measures := ⟨32, 0, 16, 24, 0x85500⟩
  members :=
    methods ["detach", "read", "readline", "write"] ++
    properties [] ["encoding", "newlines", "errors"]

/-- Files that are read as texts. -/
def textFileKind : Kind where
  name := "_io.TextIOWrapper"
  ancestors := ["_io._TextIOBase", "_io._IOBase", "object"]
  measures := ⟨192, 0, 184, 176, 0x85500⟩
  members :=
    [.maker] ++
    operations ["__repr__", "__next__", "__init__"] ++
    methods
      ["detach", "reconfigure", "write", "read", "readline", "flush", "close", "fileno",
       "seekable", "readable", "writable", "isatty", "seek", "tell", "truncate"] ++
    properties ["encoding", "buffer", "line_buffering", "write_through", "_finalizing"]
      ["name", "closed", "newlines", "errors", "_CHUNK_SIZE"]

/-- Everything that can be read as bytes. -/
def anyByteFileKind : Kind where
  name := "_io._BufferedIOBase"
  ancestors := ["_io._IOBase", "object"]
  measures := ⟨32, 0, 16, 24, 0x85500⟩
  members := methods ["detach", "read", "read1", "readinto", "readinto1", "write"]

/-- Files that are read as bytes. -/
def byteFileKind : Kind where
  name := "_io.BufferedReader"
  ancestors := ["_io._BufferedIOBase", "_io._IOBase", "object"]
  measures := ⟨152, 0, 136, 144, 0x85500⟩
  members :=
    [.maker] ++
    operations ["__repr__", "__next__", "__init__"] ++
    methods
      ["detach", "flush", "close", "seekable", "readable", "fileno", "isatty", "_dealloc_warn",
       "read", "peek", "read1", "readinto", "readinto1", "readline", "seek", "tell", "truncate",
       "__sizeof__"] ++
    properties ["raw", "_finalizing"] ["closed", "name", "mode"]

/-- Everything that can be read from the disk. -/
def anyRawFileKind : Kind where
  name := "_io._RawIOBase"
  ancestors := ["_io._IOBase", "object"]
  measures := ⟨32, 0, 16, 24, 0x85500⟩
  members := methods ["read", "readall", "readinto", "write"]

/-- Files of the disk. -/
def rawFileKind : Kind where
  name := "_io.FileIO"
  ancestors := ["_io._RawIOBase", "_io._IOBase", "object"]
  measures := ⟨48, 0, 40, 32, 0x85500⟩
  members :=
    [.maker] ++
    operations ["__repr__", "__getattribute__", "__init__"] ++
    [.method "readall" (some "($self, /)") (some (
        "Read all data from the file, returned as bytes.\n\n" ++
        "In non-blocking mode, returns as much as is immediately available,\n" ++
        "or None if no data is available.  Return an empty bytes object at EOF."))] ++
    methods
      ["read", "readinto", "write", "seek", "tell", "truncate", "close", "seekable", "readable",
       "writable", "fileno", "isatty", "_dealloc_warn"] ++
    properties ["_blksize", "_finalizing"] ["closed", "closefd", "mode"]

/-! ## Findings -/

/-- What a pattern has found. -/
def findingKind : Kind where
  name := "re.Match"
  ancestors := ["object"]
  measures := ⟨88, 8, 0, 0, 0x85380⟩
  members :=
    operations ["__repr__", "__getitem__"] ++
    methods
      ["group", "start", "end", "span", "groups", "groupdict", "expand", "__copy__",
       "__deepcopy__"] ++
    [.shared "__class_getitem__" none none] ++
    properties ["string", "re", "pos", "endpos"] ["lastindex", "lastgroup", "regs"] ++
    [.homely]

/-- Patterns. -/
def patternKind : Kind where
  name := "re.Pattern"
  ancestors := ["object"]
  measures := ⟨96, 4, 0, 64, 0x85380⟩
  members :=
    operations
      ["__repr__", "__hash__", "__lt__", "__le__", "__eq__", "__ne__", "__gt__", "__ge__"] ++
    methods
      ["match", "fullmatch", "search", "sub", "subn", "findall", "split", "finditer", "scanner",
       "__copy__", "__deepcopy__"] ++
    [.shared "__class_getitem__" none none] ++
    properties ["pattern", "flags", "groups"] ["groupindex"] ++
    [.homely]

/-! ## Readers of bytes -/

/-- Readers of bytes, from any to the one that reads the texts of the program. -/
def decoderKinds : List Kind :=
  [{ name := "codecs.IncrementalDecoder"
     ancestors := ["object"]
     measures := ⟨24, 0, -48, 16, 0x85610⟩
     members := [.homely] ++ properties [] ["__dict__", "__weakref__"] },
   { name := "codecs.BufferedIncrementalDecoder"
     ancestors := ["codecs.IncrementalDecoder", "object"]
     measures := ⟨24, 0, -48, 16, 0x85610⟩
     members := [.homely, .work "decode"] },
   { name := "encodings.utf_8.IncrementalDecoder"
     ancestors := ["codecs.BufferedIncrementalDecoder", "codecs.IncrementalDecoder", "object"]
     measures := ⟨24, 0, -48, 16, 0x85610⟩
     members := [.homely, .constant "_buffer_decode" (.tool (.plain "_codecs" "utf_8_decode"))] }]

/-! ## Parts of the library -/

/-- Parts of the library. -/
def libraryKind : Kind where
  name := "module"
  ancestors := ["object"]
  measures := ⟨56, 0, 16, 40, 0x85500⟩
  members :=
    [.maker] ++
    operations ["__repr__", "__getattribute__", "__setattr__", "__delattr__", "__init__"] ++
    methods ["__dir__"] ++ properties ["__dict__"] ["__annotations__"]

/-- A kind of the library of which only the name and the ancestors are listed. -/
def plainKind (name : String) (ancestors : List String) : Kind where
  name
  ancestors := ancestors ++ ["object"]
  measures := ⟨24, 0, -48, 16, 0x85610⟩
  members := [.homely]

/-- A kind of faults that the program does not meet, by its name and its ancestors among faults. -/
def plainFault (name : String) (ancestors : List String) : Kind where
  name
  ancestors := ancestors ++ ["BaseException", "object"]
  measures := ⟨72, 0, 16, 0, 0x40085500⟩
  members := []

/-- Kinds that are listed by their names and ancestors. -/
def plainKinds : List Kind :=
  [plainKind "_random.Random" [], plainKind "random.Random" ["_random.Random"],
   plainKind "random.SystemRandom" ["random.Random", "_random.Random"],
   plainFault "KeyboardInterrupt" [], plainFault "SystemExit" [],
   plainFault "ArithmeticError" ["Exception"],
   plainFault "ZeroDivisionError" ["ArithmeticError", "Exception"],
   plainFault "EOFError" ["Exception"], plainFault "LookupError" ["Exception"],
   plainFault "IndexError" ["LookupError", "Exception"],
   plainFault "KeyError" ["LookupError", "Exception"], plainFault "NameError" ["Exception"],
   plainFault "RuntimeError" ["Exception"],
   plainFault "RecursionError" ["RuntimeError", "Exception"],
   plainFault "FileExistsError" ["OSError", "Exception"],
   plainFault "PermissionError" ["OSError", "Exception"],
   plainFault "UnicodeEncodeError" ["UnicodeError", "ValueError", "Exception"]]

end Gamebook.Template
