import Gamebook.Surroundings.Part

/-!
# The library

The parts of the library that the program takes up, the parts that these refer to, and what every
routine knows. Of each part a few names are listed, and of most tools only the names.
-/

namespace Gamebook.Library

/-! ## What every routine knows -/

/-- The names of the kinds that every routine knows. -/
def knownKinds : List String :=
  ["bool", "memoryview", "bytearray", "bytes", "classmethod", "complex", "dict", "enumerate",
   "filter", "float", "frozenset", "property", "int", "list", "map", "object", "range", "reversed",
   "set", "slice", "staticmethod", "str", "super", "tuple", "type", "zip", "BaseException",
   "BaseExceptionGroup", "Exception", "GeneratorExit", "KeyboardInterrupt", "SystemExit",
   "ArithmeticError", "AssertionError", "AttributeError", "BufferError", "EOFError", "ImportError",
   "LookupError", "MemoryError", "NameError", "OSError", "ReferenceError", "RuntimeError",
   "StopAsyncIteration", "StopIteration", "SyntaxError", "SystemError", "TypeError", "ValueError",
   "Warning", "FloatingPointError", "OverflowError", "ZeroDivisionError", "BytesWarning",
   "DeprecationWarning", "EncodingWarning", "FutureWarning", "ImportWarning",
   "PendingDeprecationWarning", "ResourceWarning", "RuntimeWarning", "SyntaxWarning",
   "UnicodeWarning", "UserWarning", "BlockingIOError", "ChildProcessError", "ConnectionError",
   "FileExistsError", "FileNotFoundError", "InterruptedError", "IsADirectoryError",
   "NotADirectoryError", "PermissionError", "ProcessLookupError", "TimeoutError",
   "IndentationError", "IndexError", "KeyError", "ModuleNotFoundError", "NotImplementedError",
   "RecursionError", "UnboundLocalError", "UnicodeError", "BrokenPipeError",
   "ConnectionAbortedError", "ConnectionRefusedError", "ConnectionResetError", "TabError",
   "UnicodeDecodeError", "UnicodeEncodeError", "UnicodeTranslateError", "ExceptionGroup"]

/-- The tools that every routine knows. -/
def knownTools : List String :=
  ["__build_class__", "__import__", "abs", "all", "any", "ascii", "bin", "breakpoint", "callable",
   "chr", "compile", "delattr", "dir", "divmod", "eval", "exec", "format", "getattr", "globals",
   "hasattr", "hash", "hex", "id", "input", "issubclass", "iter", "aiter", "locals", "max", "min",
   "next", "anext", "oct", "ord", "pow", "print", "repr", "round", "setattr", "sorted", "sum",
   "vars"]

/-- What every routine knows: kinds, and routines without a listing. -/
def known : Part where
  name := "builtins"
  note := some (
    "Built-in functions, types, exceptions, and other objects.\n\n" ++
    "This module provides direct access to all 'built-in'\n" ++
    "identifiers of Python; for example, builtins.len is\n" ++
    "the full name for the built-in function len().\n\n" ++
    "This module is not normally accessed explicitly by most\n" ++
    "applications, but can be useful in modules that provide\n" ++
    "objects with the same name as a built-in value, but in\n" ++
    "which the built-in of that name is also needed.")
  kinds := knownKinds
  entries :=
    [("None", .null), ("Ellipsis", .ellipsis), ("False", .bool false), ("True", .bool true),
     ("__debug__", .bool true), ("EnvironmentError", .kind "OSError"), ("IOError", .kind "OSError"),
     ("len", .tool ⟨"len", some "builtins", some "builtins", some "($module, obj, /)",
       some "Return the number of items in a container."⟩),
     ("isinstance", .tool ⟨"isinstance", some "builtins", some "builtins",
       some "($module, obj, class_or_tuple, /)", none⟩),
     tool "io" "open"] ++
    knownTools.map (tool "builtins")

/-! ## Parts that the program takes up -/

/-- What chance gives. -/
def chance : Part where
  name := "random"
  place := ""
  note := some (
    "Random variable generators.\n\n" ++
    "    bytes\n" ++
    "    -----\n" ++
    "           uniform bytes (values between 0 and 255)\n\n" ++
    "    integers\n" ++
    "    --------\n" ++
    "           uniform within range\n\n" ++
    "    sequences\n" ++
    "    ---------\n" ++
    "           pick random element\n" ++
    "           pick random sample\n" ++
    "           pick weighted random sample\n" ++
    "           generate random permutation\n\n" ++
    "    distributions on the real line:\n" ++
    "    ------------------------------\n" ++
    "           uniform\n" ++
    "           triangular\n" ++
    "           normal (Gaussian)\n" ++
    "           lognormal\n" ++
    "           negative exponential\n" ++
    "           gamma\n" ++
    "           beta\n" ++
    "           pareto\n" ++
    "           Weibull\n\n" ++
    "    distributions on the circle (angles 0 to 2pi)\n" ++
    "    ---------------------------------------------\n" ++
    "           circular uniform\n" ++
    "           von Mises\n\n" ++
    "General notes on the underlying Mersenne Twister core generator:\n\n" ++
    "* The period is 2**19937-1.\n" ++
    "* It is one of the most extensively tested generators in existence.\n" ++
    "* The random() method is implemented in C, executes in a single Python step,\n" ++
    "  and is, therefore, threadsafe.\n\n")
  kinds := ["random.Random", "random.SystemRandom"]
  entries :=
    [("__all__", .list
      ["Random", "SystemRandom", "betavariate", "choice", "choices", "expovariate", "gammavariate",
       "gauss", "getrandbits", "getstate", "lognormvariate", "normalvariate", "paretovariate",
       "randbytes", "randint", "random", "randrange", "sample", "seed", "setstate", "shuffle",
       "triangular", "uniform", "vonmisesvariate", "weibullvariate"])]

/-- What can be found by patterns. -/
def patterns : Part where
  name := "re"
  package := "re"
  place := ""
  kinds := ["re.error", "re.Pattern", "re.Match"]
  entries :=
    [("ASCII", .flag "ASCII" 256), ("A", .flag "ASCII" 256), ("IGNORECASE", .flag "IGNORECASE" 2),
     ("I", .flag "IGNORECASE" 2), ("MULTILINE", .flag "MULTILINE" 8), ("M", .flag "MULTILINE" 8),
     ("DOTALL", .flag "DOTALL" 16), ("S", .flag "DOTALL" 16)]
  routines := inPart "re"
    [{ name := "match", firstLine := 163, parameters := ["pattern", "string", "flags"],
       defaults := [.int 0], mentioned := ["_compile", "match"], depth := 4 },
     { name := "split", firstLine := 198, parameters := ["pattern", "string", "maxsplit", "flags"],
       defaults := [.int 0, .int 0], mentioned := ["_compile", "split"], depth := 4 }]

/-- What paths are made of. -/
def paths : Part where
  name := "posixpath"
  place := " (frozen)"
  entries :=
    [("sep", .text "/"), ("curdir", .text "."), ("pardir", .text ".."),
     ("__all__", .list
      ["normcase", "isabs", "join", "splitdrive", "split", "splitext", "basename", "dirname",
       "commonprefix", "getsize", "getmtime", "getatime", "getctime", "islink", "exists", "lexists",
       "isdir", "isfile", "ismount", "expanduser", "expandvars", "normpath", "abspath", "samefile",
       "sameopenfile", "samestat", "curdir", "pardir", "sep", "pathsep", "defpath", "altsep",
       "extsep", "devnull", "realpath", "supports_unicode_filenames", "relpath", "commonpath"])]

/-- What the system tells, and what it can do with files. -/
def system : Part where
  name := "os"
  place := " (frozen)"
  kinds := ["os.PathLike"]
  entries :=
    [("name", .text "posix"), ("sep", .text "/"), ("curdir", .text "."), ("pardir", .text ".."),
     ("linesep", .text "\n"), ("path", .part "posixpath"), ("error", .kind "OSError")] ++
    ["getcwd", "listdir", "mkdir", "remove", "stat"].map (tool "posix")
  routines := inPart "os"
    [{ name := "makedirs", firstLine := 200, parameters := ["name", "mode", "exist_ok"],
       kept := ["head", "tail", "cdir"], defaults := [.int 511, .bool false], depth := 4 }]

/-- What the clock tells. -/
def clock : Part where
  name := "time"
  note := some (
    "This module provides various functions to manipulate time values.\n\n" ++
    "There are two standard representations of time.  One is the number\n" ++
    "of seconds since the Epoch, in UTC (a.k.a. GMT).  It may be an integer\n" ++
    "or a floating point number (to represent fractions of seconds).\n" ++
    "The Epoch is system-defined; on Unix, it is generally January 1st, 1970.\n" ++
    "The actual value can be retrieved by calling gmtime(0).\n\n" ++
    "The other representation is a tuple of 9 integers giving local time.\n" ++
    "The tuple items are:\n" ++
    "  year (including century, e.g. 1998)\n" ++
    "  month (1-12)\n" ++
    "  day (1-31)\n" ++
    "  hours (0-23)\n" ++
    "  minutes (0-59)\n" ++
    "  seconds (0-59)\n" ++
    "  weekday (0-6, Monday is 0)\n" ++
    "  Julian day (day in the year, 1-366)\n" ++
    "  DST (Daylight Savings Time) flag (-1, 0 or 1)\n" ++
    "If the DST flag is 0, the time is given in the regular time zone;\n" ++
    "if it is 1, the time is given in the DST time zone;\n" ++
    "if it is -1, mktime() should guess based on the date and time.\n")
  kinds := ["time.struct_time"]
  entries := ["time", "sleep", "strftime", "monotonic"].map (tool "time")

/-- How values of JSON are read. -/
def jsonReader : Part where
  name := "json.decoder"
  package := "json"
  place := ""
  kinds := ["json.decoder.JSONDecoder", "json.decoder.JSONDecodeError"]
  entries :=
    [("NaN", .value (.float .nan)), ("PosInf", .value (.float (.infinite false))),
     ("NegInf", .value (.float (.infinite true)))]

/-- How values of JSON are read and written. -/
def jsonText : Part where
  name := "json"
  package := "json"
  place := ""
  kinds := ["json.decoder.JSONDecoder", "json.decoder.JSONDecodeError", "json.encoder.JSONEncoder"]
  entries :=
    [("__all__", .list
      ["dump", "dumps", "load", "loads", "JSONDecoder", "JSONDecodeError", "JSONEncoder"]),
     ("decoder", .part "json.decoder")]
  routines := inPart "json"
    [{ name := "dump", firstLine := 120, parameters := ["obj", "fp"],
       named := ["skipkeys", "ensure_ascii", "check_circular", "allow_nan", "cls", "indent",
         "separators", "default", "sort_keys"],
       rest := some "kw", kept := ["iterable", "chunk"], depth := 12 },
     { name := "load", firstLine := 274, parameters := ["fp"],
       named := ["cls", "object_hook", "parse_float", "parse_int", "parse_constant",
         "object_pairs_hook"],
       rest := some "kw", mentioned := ["loads", "read"], depth := 11 }]

/-! ## Codings -/

/-- How bytes are read as texts. A story that is not a text fails in here. -/
def codings : Part where
  name := "codecs"
  place := " (frozen)"
  kinds := ["codecs.IncrementalDecoder", "codecs.BufferedIncrementalDecoder"]
  entries :=
    [("BOM_UTF8", .bytes [0xef, 0xbb, 0xbf]),
     ("__all__", .list
      ["register", "lookup", "open", "EncodedFile", "BOM", "BOM_BE", "BOM_LE", "BOM32_BE",
       "BOM32_LE", "BOM64_BE", "BOM64_LE", "BOM_UTF8", "BOM_UTF16", "BOM_UTF16_LE", "BOM_UTF16_BE",
       "BOM_UTF32", "BOM_UTF32_LE", "BOM_UTF32_BE", "CodecInfo", "Codec", "IncrementalEncoder",
       "IncrementalDecoder", "StreamReader", "StreamWriter", "StreamReaderWriter", "StreamRecoder",
       "getencoder", "getdecoder", "getincrementalencoder", "getincrementaldecoder", "getreader",
       "getwriter", "encode", "decode", "iterencode", "iterdecode", "strict_errors",
       "ignore_errors", "replace_errors", "xmlcharrefreplace_errors", "backslashreplace_errors",
       "namereplace_errors", "register_error", "lookup_error"])] ++
    ["lookup", "utf_8_decode", "utf_8_encode"].map (tool "_codecs")
  routines := inPart "codecs"
    [{ name := "decode", within := some "BufferedIncrementalDecoder", firstLine := 319,
       parameters := ["self", "input", "final"], kept := ["data", "result", "consumed"],
       defaults := [.bool false], mentioned := ["buffer", "_buffer_decode", "errors"],
       constants := [.null], depth := 5 }]

/-! ## All parts -/

/-- All parts of the library. -/
def parts : List Part :=
  [known, chance, patterns, paths, system, clock, jsonReader, jsonText, codings]

/-- The names of the parts that the program takes up, in their order. -/
def taken : List String := ["random", "re", "os", "time", "json"]

end Gamebook.Library
