import Gamebook.Surroundings.Kinds.Operations

/-!
# Kinds of values

Kinds of the values that a phrase can be given, of kinds, and the kind that all others belong to.
-/

namespace Gamebook.Template

/-- Everything is of this kind. -/
def anyKind : Kind where
  name := "object"
  ancestors := []
  note := some (
    "The base class of the class hierarchy.\n\n" ++
    "When called, it accepts no arguments and returns a new featureless\n" ++
    "instance that has no instance attributes and cannot be given any.\n")
  signature := some "()"
  measures := ⟨16, 0, 0, 0, 0x81500⟩
  members :=
    [.maker] ++
    operations ["__repr__", "__hash__", "__str__", "__getattribute__", "__setattr__",
                "__delattr__", "__lt__", "__le__", "__eq__", "__ne__", "__gt__", "__ge__",
                "__init__"] ++
    [.method "__reduce_ex__" (some "($self, protocol, /)") (some "Helper for pickle."),
     .method "__reduce__" (some "($self, /)") (some "Helper for pickle."),
     .method "__getstate__" (some "($self, /)") (some "Helper for pickle."),
     .shared "__subclasshook__" none (some (
        "Abstract classes can override this to customize issubclass().\n\n" ++
        "This is invoked early on by abc.ABCMeta.__subclasscheck__().\n" ++
        "It should return True, False or NotImplemented.  If it returns\n" ++
        "NotImplemented, the normal algorithm is used.  Otherwise, it\n" ++
        "overrides the normal algorithm (and the outcome is cached).\n")),
     .shared "__init_subclass__" none (some (
        "This method is called when a class is subclassed.\n\n" ++
        "The default implementation does nothing. It may be\n" ++
        "overridden to extend subclasses.\n")),
     .method "__format__" (some "($self, format_spec, /)") (some "Default object formatter."),
     .method "__sizeof__" (some "($self, /)") (some "Size of object in memory, in bytes."),
     .method "__dir__" (some "($self, /)") (some "Default dir() implementation."),
     .property "__class__" (some "the object's class"),
     .described]

/-- Kinds themselves. -/
def kindKind : Kind where
  name := "type"
  ancestors := ["object"]
  note := some (
    "type(object) -> the object's type\n" ++
    "type(name, bases, dict, **kwds) -> a new type")
  measures := ⟨904, 40, 264, 368, 0x80085d00⟩
  members :=
    [.maker] ++
    operations ["__repr__", "__call__", "__getattribute__", "__setattr__", "__delattr__",
                "__init__", "__or__", "__ror__"] ++
    [.method "mro" (some "($self, /)") (some "Return a type's method resolution order."),
     .method "__subclasses__" (some "($self, /)")
       (some "Return a list of immediate subclasses."),
     .shared "__prepare__" none (some (
        "__prepare__() -> dict\n" ++
        "used to create the namespace for the class statement")),
     .method "__instancecheck__" (some "($self, instance, /)")
       (some "Check if an object is an instance."),
     .method "__subclasscheck__" (some "($self, subclass, /)")
       (some "Check if a class is a subclass."),
     .method "__dir__" (some "($self, /)")
       (some "Specialized __dir__ implementation for types."),
     .method "__sizeof__" (some "($self, /)")
       (some "Return memory consumption of the type object."),
     .slot "__basicsize__" none,
     .slot "__itemsize__" none,
     .slot "__flags__" none,
     .slot "__weakrefoffset__" none,
     .slot "__base__" none,
     .slot "__dictoffset__" none,
     .slot "__mro__" none,
     .property "__name__" none,
     .property "__qualname__" none,
     .property "__bases__" none,
     .property "__module__" none,
     .property "__abstractmethods__" none,
     .property "__dict__" none,
     .property "__doc__" none,
     .property "__text_signature__" none,
     .property "__annotations__" none]

/-- The empty value. -/
def nothingKind : Kind where
  name := "NoneType"
  ancestors := ["object"]
  measures := ⟨16, 0, 0, 0, 0x81100⟩
  members :=
    [.maker] ++
    operations ["__repr__", "__bool__"] ++
    [.described]

/-- Truth values. -/
def truthKind : Kind where
  name := "bool"
  ancestors := ["int", "object"]
  note := some (
    "bool(x) -> bool\n\n" ++
    "Returns True when the argument x is true, False otherwise.\n" ++
    "The builtins True and False are the only two instances of the class bool.\n" ++
    "The class bool is a subclass of the class int, and cannot be subclassed.")
  measures := ⟨32, 4, 0, 0, 0x1481100⟩
  members :=
    [.maker] ++
    operations ["__repr__", "__and__", "__rand__", "__xor__", "__rxor__", "__or__", "__ror__"] ++
    [.described]

/-- Whole numbers. -/
def wholeKind : Kind where
  name := "int"
  ancestors := ["object"]
  note := some (
    "int([x]) -> integer\n" ++
    "int(x, base=10) -> integer\n\n" ++
    "Convert a number or string to an integer, or return 0 if no arguments\n" ++
    "are given.  If x is a number, return x.__int__().  For floating point\n" ++
    "numbers, this truncates towards zero.\n\n" ++
    "If x is not a number or if base is given, then x must be a string,\n" ++
    "bytes, or bytearray instance representing an integer literal in the\n" ++
    "given base.  The literal can be preceded by '+' or '-' and be surrounded\n" ++
    "by whitespace.  The base defaults to 10.  Valid bases are 0 and 2-36.\n" ++
    "Base 0 means to interpret the base from the string as an integer literal.\n" ++
    ">>> int('0b100', base=0)\n" ++
    "4")
  measures := ⟨24, 4, 0, 0, 0x1481500⟩
  members :=
    [.maker] ++
    operations ["__repr__", "__hash__", "__getattribute__", "__lt__", "__le__", "__eq__",
                "__ne__", "__gt__", "__ge__", "__add__", "__radd__", "__sub__", "__rsub__",
                "__mul__", "__rmul__", "__mod__", "__rmod__", "__divmod__", "__rdivmod__",
                "__pow__", "__rpow__", "__neg__", "__pos__", "__abs__", "__bool__", "__invert__",
                "__lshift__", "__rlshift__", "__rshift__", "__rrshift__", "__and__", "__rand__",
                "__xor__", "__rxor__", "__or__", "__ror__", "__int__", "__float__", "__floordiv__",
                "__rfloordiv__", "__truediv__", "__rtruediv__", "__index__"] ++
    [.method "conjugate" none (some "Returns self, the complex conjugate of any int."),
     .method "bit_length" (some "($self, /)") (some (
        "Number of bits necessary to represent self in binary.\n\n" ++
        ">>> bin(37)\n" ++
        "'0b100101'\n" ++
        ">>> (37).bit_length()\n" ++
        "6")),
     .method "bit_count" (some "($self, /)") (some (
        "Number of ones in the binary representation of the absolute value of self.\n\n" ++
        "Also known as the population count.\n\n" ++
        ">>> bin(13)\n" ++
        "'0b1101'\n" ++
        ">>> (13).bit_count()\n" ++
        "3")),
     .method "to_bytes" (some "($self, /, length=1, byteorder='big', *, signed=False)") (some (
        "Return an array of bytes representing an integer.\n\n" ++
        "  length\n" ++
        "    Length of bytes object to use.  An OverflowError is raised if the\n" ++
        "    integer is not representable with the given number of bytes.  Default\n" ++
        "    is length 1.\n" ++
        "  byteorder\n" ++
        "    The byte order used to represent the integer.  If byteorder is 'big',\n" ++
        "    the most significant byte is at the beginning of the byte array.  If\n" ++
        "    byteorder is 'little', the most significant byte is at the end of the\n" ++
        "    byte array.  To request the native byte order of the host system, use\n" ++
        "    `sys.byteorder' as the byte order value.  Default is to use 'big'.\n" ++
        "  signed\n" ++
        "    Determines whether two's complement is used to represent the integer.\n" ++
        "    If signed is False and a negative integer is given, an OverflowError\n" ++
        "    is raised.")),
     .shared "from_bytes" (some "($type, /, bytes, byteorder='big', *, signed=False)") (some (
        "Return the integer represented by the given array of bytes.\n\n" ++
        "  bytes\n" ++
        "    Holds the array of bytes to convert.  The argument must either\n" ++
        "    support the buffer protocol or be an iterable object producing bytes.\n" ++
        "    Bytes and bytearray are examples of built-in objects that support the\n" ++
        "    buffer protocol.\n" ++
        "  byteorder\n" ++
        "    The byte order used to represent the integer.  If byteorder is 'big',\n" ++
        "    the most significant byte is at the beginning of the byte array.  If\n" ++
        "    byteorder is 'little', the most significant byte is at the end of the\n" ++
        "    byte array.  To request the native byte order of the host system, use\n" ++
        "    `sys.byteorder' as the byte order value.  Default is to use 'big'.\n" ++
        "  signed\n" ++
        "    Indicates whether two's complement is used to represent the integer.")),
     .method "as_integer_ratio" (some "($self, /)") (some (
        "Return integer ratio.\n\n" ++
        "Return a pair of integers, whose ratio is exactly equal to the original int\n" ++
        "and with a positive denominator.\n\n" ++
        ">>> (10).as_integer_ratio()\n" ++
        "(10, 1)\n" ++
        ">>> (-10).as_integer_ratio()\n" ++
        "(-10, 1)\n" ++
        ">>> (0).as_integer_ratio()\n" ++
        "(0, 1)")),
     .method "__trunc__" none (some "Truncating an Integral returns itself."),
     .method "__floor__" none (some "Flooring an Integral returns itself."),
     .method "__ceil__" none (some "Ceiling of an Integral returns itself."),
     .method "__round__" (some "($self, ndigits=<unrepresentable>, /)") (some (
        "Rounding an Integral returns itself.\n\n" ++
        "Rounding with an ndigits argument also returns an integer.")),
     .method "__getnewargs__" (some "($self, /)") none,
     .method "__format__" (some "($self, format_spec, /)") none,
     .method "__sizeof__" (some "($self, /)") (some "Returns size in memory, in bytes."),
     .property "real" (some "the real part of a complex number"),
     .property "imag" (some "the imaginary part of a complex number"),
     .property "numerator" (some "the numerator of a rational number in lowest terms"),
     .property "denominator" (some "the denominator of a rational number in lowest terms"),
     .described]

/-- Numbers with a fraction. -/
def fractionKind : Kind where
  name := "float"
  ancestors := ["object"]
  note := some "Convert a string or number to a floating point number, if possible."
  signature := some "(x=0, /)"
  measures := ⟨24, 0, 0, 0, 0x481500⟩
  members :=
    [.maker] ++
    operations ["__repr__", "__hash__", "__getattribute__", "__lt__", "__le__", "__eq__",
                "__ne__", "__gt__", "__ge__", "__add__", "__radd__", "__sub__", "__rsub__",
                "__mul__", "__rmul__", "__mod__", "__rmod__", "__divmod__", "__rdivmod__",
                "__pow__", "__rpow__", "__neg__", "__pos__", "__abs__", "__bool__", "__int__",
                "__float__", "__floordiv__", "__rfloordiv__", "__truediv__", "__rtruediv__"] ++
    [.method "conjugate" (some "($self, /)")
       (some "Return self, the complex conjugate of any float."),
     .method "__trunc__" (some "($self, /)")
       (some "Return the Integral closest to x between 0 and x."),
     .method "__floor__" (some "($self, /)") (some "Return the floor as an Integral."),
     .method "__ceil__" (some "($self, /)") (some "Return the ceiling as an Integral."),
     .method "__round__" (some "($self, ndigits=None, /)") (some (
        "Return the Integral closest to x, rounding half toward even.\n\n" ++
        "When an argument is passed, work like built-in round(x, ndigits).")),
     .method "as_integer_ratio" (some "($self, /)") (some (
        "Return integer ratio.\n\n" ++
        "Return a pair of integers, whose ratio is exactly equal to the original float\n" ++
        "and with a positive denominator.\n\n" ++
        "Raise OverflowError on infinities and a ValueError on NaNs.\n\n" ++
        ">>> (10.0).as_integer_ratio()\n" ++
        "(10, 1)\n" ++
        ">>> (0.0).as_integer_ratio()\n" ++
        "(0, 1)\n" ++
        ">>> (-.25).as_integer_ratio()\n" ++
        "(-1, 4)")),
     .shared "fromhex" (some "($type, string, /)") (some (
        "Create a floating-point number from a hexadecimal string.\n\n" ++
        ">>> float.fromhex('0x1.ffffp10')\n" ++
        "2047.984375\n" ++
        ">>> float.fromhex('-0x1p-1074')\n" ++
        "-5e-324")),
     .method "hex" (some "($self, /)") (some (
        "Return a hexadecimal representation of a floating-point number.\n\n" ++
        ">>> (-0.1).hex()\n" ++
        "'-0x1.999999999999ap-4'\n" ++
        ">>> 3.14159.hex()\n" ++
        "'0x1.921f9f01b866ep+1'")),
     .method "is_integer" (some "($self, /)") (some "Return True if the float is an integer."),
     .method "__getnewargs__" (some "($self, /)") none,
     .shared "__getformat__" (some "($type, typestr, /)") (some (
        "You probably don't want to use this function.\n\n" ++
        "  typestr\n" ++
        "    Must be 'double' or 'float'.\n\n" ++
        "It exists mainly to be used in Python's test suite.\n\n" ++
        "This function returns whichever of 'unknown', 'IEEE, big-endian' or 'IEEE,\n" ++
        "little-endian' best describes the format of floating point numbers used by the\n" ++
        "C type named by typestr.")),
     .method "__format__" (some "($self, format_spec, /)")
       (some "Formats the float according to format_spec."),
     .property "real" (some "the real part of a complex number"),
     .property "imag" (some "the imaginary part of a complex number"),
     .described]

/-- Texts. -/
def textKind : Kind where
  name := "str"
  ancestors := ["object"]
  note := some (
    "str(object='') -> str\n" ++
    "str(bytes_or_buffer[, encoding[, errors]]) -> str\n\n" ++
    "Create a new string object from the given object. If encoding or\n" ++
    "errors is specified, then the object must expose a data buffer\n" ++
    "that will be decoded using the given encoding and error handler.\n" ++
    "Otherwise, returns the result of object.__str__() (if defined)\n" ++
    "or repr(object).\n" ++
    "encoding defaults to sys.getdefaultencoding().\n" ++
    "errors defaults to 'strict'.")
  measures := ⟨80, 0, 0, 0, 0x10481500⟩
  members :=
    [.maker] ++
    operations ["__repr__", "__hash__", "__str__", "__getattribute__", "__lt__", "__le__",
                "__eq__", "__ne__", "__gt__", "__ge__", "__iter__", "__mod__", "__rmod__",
                "__len__", "__getitem__", "__add__", "__mul__", "__rmul__", "__contains__"] ++
    [.method "encode" (some "($self, /, encoding='utf-8', errors='strict')") (some (
        "Encode the string using the codec registered for encoding.\n\n" ++
        "  encoding\n" ++
        "    The encoding in which to encode the string.\n" ++
        "  errors\n" ++
        "    The error handling scheme to use for encoding errors.\n" ++
        "    The default is 'strict' meaning that encoding errors raise a\n" ++
        "    UnicodeEncodeError.  Other possible values are 'ignore', 'replace' and\n" ++
        "    'xmlcharrefreplace' as well as any other name registered with\n" ++
        "    codecs.register_error that can handle UnicodeEncodeErrors.")),
     .method "replace" (some "($self, old, new, count=-1, /)") (some (
        "Return a copy with all occurrences of substring old replaced by new.\n\n" ++
        "  count\n" ++
        "    Maximum number of occurrences to replace.\n" ++
        "    -1 (the default value) means replace all occurrences.\n\n" ++
        "If the optional argument count is given, only the first count occurrences are\n" ++
        "replaced.")),
     .method "split" (some "($self, /, sep=None, maxsplit=-1)") (some (
        "Return a list of the substrings in the string, using sep as the separator " ++
        "string.\n" ++
        "\n" ++
        "  sep\n" ++
        "    The separator used to split the string.\n\n" ++
        "    When set to None (the default value), will split on any whitespace\n" ++
        "    character (including \\n \\r \\t \\f and spaces) and will discard\n" ++
        "    empty strings from the result.\n" ++
        "  maxsplit\n" ++
        "    Maximum number of splits (starting from the left).\n" ++
        "    -1 (the default value) means no limit.\n\n" ++
        "Note, str.split() is mainly useful for data that has been intentionally\n" ++
        "delimited.  With natural text that includes punctuation, consider using\n" ++
        "the regular expression module.")),
     .method "rsplit" (some "($self, /, sep=None, maxsplit=-1)") (some (
        "Return a list of the substrings in the string, using sep as the separator " ++
        "string.\n" ++
        "\n" ++
        "  sep\n" ++
        "    The separator used to split the string.\n\n" ++
        "    When set to None (the default value), will split on any whitespace\n" ++
        "    character (including \\n \\r \\t \\f and spaces) and will discard\n" ++
        "    empty strings from the result.\n" ++
        "  maxsplit\n" ++
        "    Maximum number of splits (starting from the left).\n" ++
        "    -1 (the default value) means no limit.\n\n" ++
        "Splitting starts at the end of the string and works to the front.")),
     .method "join" (some "($self, iterable, /)") (some (
        "Concatenate any number of strings.\n\n" ++
        "The string whose method is called is inserted in between each given string.\n" ++
        "The result is returned as a new string.\n\n" ++
        "Example: '.'.join(['ab', 'pq', 'rs']) -> 'ab.pq.rs'")),
     .method "capitalize" (some "($self, /)") (some (
        "Return a capitalized version of the string.\n\n" ++
        "More specifically, make the first character have upper case and the rest lower\n" ++
        "case.")),
     .method "casefold" (some "($self, /)")
       (some "Return a version of the string suitable for caseless comparisons."),
     .method "title" (some "($self, /)") (some (
        "Return a version of the string where each word is titlecased.\n\n" ++
        "More specifically, words start with uppercased characters and all remaining\n" ++
        "cased characters have lower case.")),
     .method "center" (some "($self, width, fillchar=' ', /)") (some (
        "Return a centered string of length width.\n\n" ++
        "Padding is done using the specified fill character (default is a space).")),
     .method "count" none (some (
        "S.count(sub[, start[, end]]) -> int\n\n" ++
        "Return the number of non-overlapping occurrences of substring sub in\n" ++
        "string S[start:end].  Optional arguments start and end are\n" ++
        "interpreted as in slice notation.")),
     .method "expandtabs" (some "($self, /, tabsize=8)") (some (
        "Return a copy where all tab characters are expanded using spaces.\n\n" ++
        "If tabsize is not given, a tab size of 8 characters is assumed.")),
     .method "find" none (some (
        "S.find(sub[, start[, end]]) -> int\n\n" ++
        "Return the lowest index in S where substring sub is found,\n" ++
        "such that sub is contained within S[start:end].  Optional\n" ++
        "arguments start and end are interpreted as in slice notation.\n\n" ++
        "Return -1 on failure.")),
     .method "partition" (some "($self, sep, /)") (some (
        "Partition the string into three parts using the given separator.\n\n" ++
        "This will search for the separator in the string.  If the separator is found,\n" ++
        "returns a 3-tuple containing the part before the separator, the separator\n" ++
        "itself, and the part after it.\n\n" ++
        "If the separator is not found, returns a 3-tuple containing the original string\n" ++
        "and two empty strings.")),
     .method "index" none (some (
        "S.index(sub[, start[, end]]) -> int\n\n" ++
        "Return the lowest index in S where substring sub is found,\n" ++
        "such that sub is contained within S[start:end].  Optional\n" ++
        "arguments start and end are interpreted as in slice notation.\n\n" ++
        "Raises ValueError when the substring is not found.")),
     .method "ljust" (some "($self, width, fillchar=' ', /)") (some (
        "Return a left-justified string of length width.\n\n" ++
        "Padding is done using the specified fill character (default is a space).")),
     .method "lower" (some "($self, /)")
       (some "Return a copy of the string converted to lowercase."),
     .method "lstrip" (some "($self, chars=None, /)") (some (
        "Return a copy of the string with leading whitespace removed.\n\n" ++
        "If chars is given and not None, remove characters in chars instead.")),
     .method "rfind" none (some (
        "S.rfind(sub[, start[, end]]) -> int\n\n" ++
        "Return the highest index in S where substring sub is found,\n" ++
        "such that sub is contained within S[start:end].  Optional\n" ++
        "arguments start and end are interpreted as in slice notation.\n\n" ++
        "Return -1 on failure.")),
     .method "rindex" none (some (
        "S.rindex(sub[, start[, end]]) -> int\n\n" ++
        "Return the highest index in S where substring sub is found,\n" ++
        "such that sub is contained within S[start:end].  Optional\n" ++
        "arguments start and end are interpreted as in slice notation.\n\n" ++
        "Raises ValueError when the substring is not found.")),
     .method "rjust" (some "($self, width, fillchar=' ', /)") (some (
        "Return a right-justified string of length width.\n\n" ++
        "Padding is done using the specified fill character (default is a space).")),
     .method "rstrip" (some "($self, chars=None, /)") (some (
        "Return a copy of the string with trailing whitespace removed.\n\n" ++
        "If chars is given and not None, remove characters in chars instead.")),
     .method "rpartition" (some "($self, sep, /)") (some (
        "Partition the string into three parts using the given separator.\n\n" ++
        "This will search for the separator in the string, starting at the end. If\n" ++
        "the separator is found, returns a 3-tuple containing the part before the\n" ++
        "separator, the separator itself, and the part after it.\n\n" ++
        "If the separator is not found, returns a 3-tuple containing two empty strings\n" ++
        "and the original string.")),
     .method "splitlines" (some "($self, /, keepends=False)") (some (
        "Return a list of the lines in the string, breaking at line boundaries.\n\n" ++
        "Line breaks are not included in the resulting list unless keepends is given and\n" ++
        "true.")),
     .method "strip" (some "($self, chars=None, /)") (some (
        "Return a copy of the string with leading and trailing whitespace removed.\n\n" ++
        "If chars is given and not None, remove characters in chars instead.")),
     .method "swapcase" (some "($self, /)")
       (some "Convert uppercase characters to lowercase and lowercase characters to uppercase."),
     .method "translate" (some "($self, table, /)") (some (
        "Replace each character in the string using the given translation table.\n\n" ++
        "  table\n" ++
        "    Translation table, which must be a mapping of Unicode ordinals to\n" ++
        "    Unicode ordinals, strings, or None.\n\n" ++
        "The table must implement lookup/indexing via __getitem__, for instance a\n" ++
        "dictionary or list.  If this operation raises LookupError, the character is\n" ++
        "left untouched.  Characters mapped to None are deleted.")),
     .method "upper" (some "($self, /)")
       (some "Return a copy of the string converted to uppercase."),
     .method "startswith" none (some (
        "S.startswith(prefix[, start[, end]]) -> bool\n\n" ++
        "Return True if S starts with the specified prefix, False otherwise.\n" ++
        "With optional start, test S beginning at that position.\n" ++
        "With optional end, stop comparing S at that position.\n" ++
        "prefix can also be a tuple of strings to try.")),
     .method "endswith" none (some (
        "S.endswith(suffix[, start[, end]]) -> bool\n\n" ++
        "Return True if S ends with the specified suffix, False otherwise.\n" ++
        "With optional start, test S beginning at that position.\n" ++
        "With optional end, stop comparing S at that position.\n" ++
        "suffix can also be a tuple of strings to try.")),
     .method "removeprefix" (some "($self, prefix, /)") (some (
        "Return a str with the given prefix string removed if present.\n\n" ++
        "If the string starts with the prefix string, return string[len(prefix):].\n" ++
        "Otherwise, return a copy of the original string.")),
     .method "removesuffix" (some "($self, suffix, /)") (some (
        "Return a str with the given suffix string removed if present.\n\n" ++
        "If the string ends with the suffix string and that suffix is not empty,\n" ++
        "return string[:-len(suffix)]. Otherwise, return a copy of the original\n" ++
        "string.")),
     .method "isascii" (some "($self, /)") (some (
        "Return True if all characters in the string are ASCII, False otherwise.\n\n" ++
        "ASCII characters have code points in the range U+0000-U+007F.\n" ++
        "Empty string is ASCII too.")),
     .method "islower" (some "($self, /)") (some (
        "Return True if the string is a lowercase string, False otherwise.\n\n" ++
        "A string is lowercase if all cased characters in the string are lowercase and\n" ++
        "there is at least one cased character in the string.")),
     .method "isupper" (some "($self, /)") (some (
        "Return True if the string is an uppercase string, False otherwise.\n\n" ++
        "A string is uppercase if all cased characters in the string are uppercase and\n" ++
        "there is at least one cased character in the string.")),
     .method "istitle" (some "($self, /)") (some (
        "Return True if the string is a title-cased string, False otherwise.\n\n" ++
        "In a title-cased string, upper- and title-case characters may only\n" ++
        "follow uncased characters and lowercase characters only cased ones.")),
     .method "isspace" (some "($self, /)") (some (
        "Return True if the string is a whitespace string, False otherwise.\n\n" ++
        "A string is whitespace if all characters in the string are whitespace and there\n" ++
        "is at least one character in the string.")),
     .method "isdecimal" (some "($self, /)") (some (
        "Return True if the string is a decimal string, False otherwise.\n\n" ++
        "A string is a decimal string if all characters in the string are decimal and\n" ++
        "there is at least one character in the string.")),
     .method "isdigit" (some "($self, /)") (some (
        "Return True if the string is a digit string, False otherwise.\n\n" ++
        "A string is a digit string if all characters in the string are digits and there\n" ++
        "is at least one character in the string.")),
     .method "isnumeric" (some "($self, /)") (some (
        "Return True if the string is a numeric string, False otherwise.\n\n" ++
        "A string is numeric if all characters in the string are numeric and there is at\n" ++
        "least one character in the string.")),
     .method "isalpha" (some "($self, /)") (some (
        "Return True if the string is an alphabetic string, False otherwise.\n\n" ++
        "A string is alphabetic if all characters in the string are alphabetic and there\n" ++
        "is at least one character in the string.")),
     .method "isalnum" (some "($self, /)") (some (
        "Return True if the string is an alpha-numeric string, False otherwise.\n\n" ++
        "A string is alpha-numeric if all characters in the string are alpha-numeric and\n" ++
        "there is at least one character in the string.")),
     .method "isidentifier" (some "($self, /)") (some (
        "Return True if the string is a valid Python identifier, False otherwise.\n\n" ++
        "Call keyword.iskeyword(s) to test whether string s is a reserved identifier,\n" ++
        "such as \"def\" or \"class\".")),
     .method "isprintable" (some "($self, /)") (some (
        "Return True if the string is printable, False otherwise.\n\n" ++
        "A string is printable if all of its characters are considered printable in\n" ++
        "repr() or if it is empty.")),
     .method "zfill" (some "($self, width, /)") (some (
        "Pad a numeric string with zeros on the left, to fill a field of the given width.\n" ++
        "\n" ++
        "The string is never truncated.")),
     .method "format" none (some (
        "S.format(*args, **kwargs) -> str\n\n" ++
        "Return a formatted version of S, using substitutions from args and kwargs.\n" ++
        "The substitutions are identified by braces ('\x7b' and '\x7d').")),
     .method "format_map" none (some (
        "S.format_map(mapping) -> str\n\n" ++
        "Return a formatted version of S, using substitutions from mapping.\n" ++
        "The substitutions are identified by braces ('\x7b' and '\x7d').")),
     .method "__format__" (some "($self, format_spec, /)")
       (some "Return a formatted version of the string as described by format_spec."),
     .free "maketrans" (some "(x, y=<unrepresentable>, z=<unrepresentable>, /)") (some (
        "Return a translation table usable for str.translate().\n\n" ++
        "If there is only one argument, it must be a dictionary mapping Unicode\n" ++
        "ordinals (integers) or characters to Unicode ordinals, strings or None.\n" ++
        "Character keys will be then converted to ordinals.\n" ++
        "If there are two arguments, they must be strings of equal length, and\n" ++
        "in the resulting dictionary, each character in x will be mapped to the\n" ++
        "character at the same position in y. If there is a third argument, it\n" ++
        "must be a string, whose characters will be mapped to None in the result.")),
     .method "__sizeof__" (some "($self, /)")
       (some "Return the size of the string in memory, in bytes."),
     .method "__getnewargs__" none none,
     .described]

/-- Rows of bytes. -/
def bytesKind : Kind where
  name := "bytes"
  ancestors := ["object"]
  note := some (
    "bytes(iterable_of_ints) -> bytes\n" ++
    "bytes(string, encoding[, errors]) -> bytes\n" ++
    "bytes(bytes_or_buffer) -> immutable copy of bytes_or_buffer\n" ++
    "bytes(int) -> bytes object of size given by the parameter initialized with null " ++
    "bytes\n" ++
    "bytes() -> empty bytes object\n\n" ++
    "Construct an immutable array of bytes from:\n" ++
    "  - an iterable yielding integers in range(256)\n" ++
    "  - a text string encoded using the specified encoding\n" ++
    "  - any object implementing the buffer API.\n" ++
    "  - an integer")
  measures := ⟨33, 1, 0, 0, 0x8481500⟩
  members :=
    [.maker] ++
    operations ["__repr__", "__hash__", "__str__", "__getattribute__", "__lt__", "__le__",
                "__eq__", "__ne__", "__gt__", "__ge__", "__iter__", "__mod__", "__rmod__",
                "__len__", "__getitem__", "__add__", "__mul__", "__rmul__", "__contains__"] ++
    [.method "__getnewargs__" none none,
     .method "__bytes__" (some "($self, /)") (some "Convert this value to exact type bytes."),
     .method "capitalize" none (some (
        "B.capitalize() -> copy of B\n\n" ++
        "Return a copy of B with only its first character capitalized (ASCII)\n" ++
        "and the rest lower-cased.")),
     .method "center" (some "($self, width, fillchar=b' ', /)") (some (
        "Return a centered string of length width.\n\n" ++
        "Padding is done using the specified fill character.")),
     .method "count" none (some (
        "B.count(sub[, start[, end]]) -> int\n\n" ++
        "Return the number of non-overlapping occurrences of subsection sub in\n" ++
        "bytes B[start:end].  Optional arguments start and end are interpreted\n" ++
        "as in slice notation.")),
     .method "decode" (some "($self, /, encoding='utf-8', errors='strict')") (some (
        "Decode the bytes using the codec registered for encoding.\n\n" ++
        "  encoding\n" ++
        "    The encoding with which to decode the bytes.\n" ++
        "  errors\n" ++
        "    The error handling scheme to use for the handling of decoding errors.\n" ++
        "    The default is 'strict' meaning that decoding errors raise a\n" ++
        "    UnicodeDecodeError. Other possible values are 'ignore' and 'replace'\n" ++
        "    as well as any other name registered with codecs.register_error that\n" ++
        "    can handle UnicodeDecodeErrors.")),
     .method "endswith" none (some (
        "B.endswith(suffix[, start[, end]]) -> bool\n\n" ++
        "Return True if B ends with the specified suffix, False otherwise.\n" ++
        "With optional start, test B beginning at that position.\n" ++
        "With optional end, stop comparing B at that position.\n" ++
        "suffix can also be a tuple of bytes to try.")),
     .method "expandtabs" (some "($self, /, tabsize=8)") (some (
        "Return a copy where all tab characters are expanded using spaces.\n\n" ++
        "If tabsize is not given, a tab size of 8 characters is assumed.")),
     .method "find" none (some (
        "B.find(sub[, start[, end]]) -> int\n\n" ++
        "Return the lowest index in B where subsection sub is found,\n" ++
        "such that sub is contained within B[start,end].  Optional\n" ++
        "arguments start and end are interpreted as in slice notation.\n\n" ++
        "Return -1 on failure.")),
     .shared "fromhex" (some "($type, string, /)") (some (
        "Create a bytes object from a string of hexadecimal numbers.\n\n" ++
        "Spaces between two numbers are accepted.\n" ++
        "Example: bytes.fromhex('B9 01EF') -> b'\\\\xb9\\\\x01\\\\xef'.")),
     .method "hex" (some "($self, /, sep=<unrepresentable>, bytes_per_sep=1)") (some (
        "Create a string of hexadecimal numbers from a bytes object.\n\n" ++
        "  sep\n" ++
        "    An optional single character or byte to separate hex bytes.\n" ++
        "  bytes_per_sep\n" ++
        "    How many bytes between separators.  Positive values count from the\n" ++
        "    right, negative values count from the left.\n\n" ++
        "Example:\n" ++
        ">>> value = b'\\xb9\\x01\\xef'\n" ++
        ">>> value.hex()\n" ++
        "'b901ef'\n" ++
        ">>> value.hex(':')\n" ++
        "'b9:01:ef'\n" ++
        ">>> value.hex(':', 2)\n" ++
        "'b9:01ef'\n" ++
        ">>> value.hex(':', -2)\n" ++
        "'b901:ef'")),
     .method "index" none (some (
        "B.index(sub[, start[, end]]) -> int\n\n" ++
        "Return the lowest index in B where subsection sub is found,\n" ++
        "such that sub is contained within B[start,end].  Optional\n" ++
        "arguments start and end are interpreted as in slice notation.\n\n" ++
        "Raises ValueError when the subsection is not found.")),
     .method "isalnum" none (some (
        "B.isalnum() -> bool\n\n" ++
        "Return True if all characters in B are alphanumeric\n" ++
        "and there is at least one character in B, False otherwise.")),
     .method "isalpha" none (some (
        "B.isalpha() -> bool\n\n" ++
        "Return True if all characters in B are alphabetic\n" ++
        "and there is at least one character in B, False otherwise.")),
     .method "isascii" none (some (
        "B.isascii() -> bool\n\n" ++
        "Return True if B is empty or all characters in B are ASCII,\n" ++
        "False otherwise.")),
     .method "isdigit" none (some (
        "B.isdigit() -> bool\n\n" ++
        "Return True if all characters in B are digits\n" ++
        "and there is at least one character in B, False otherwise.")),
     .method "islower" none (some (
        "B.islower() -> bool\n\n" ++
        "Return True if all cased characters in B are lowercase and there is\n" ++
        "at least one cased character in B, False otherwise.")),
     .method "isspace" none (some (
        "B.isspace() -> bool\n\n" ++
        "Return True if all characters in B are whitespace\n" ++
        "and there is at least one character in B, False otherwise.")),
     .method "istitle" none (some (
        "B.istitle() -> bool\n\n" ++
        "Return True if B is a titlecased string and there is at least one\n" ++
        "character in B, i.e. uppercase characters may only follow uncased\n" ++
        "characters and lowercase characters only cased ones. Return False\n" ++
        "otherwise.")),
     .method "isupper" none (some (
        "B.isupper() -> bool\n\n" ++
        "Return True if all cased characters in B are uppercase and there is\n" ++
        "at least one cased character in B, False otherwise.")),
     .method "join" (some "($self, iterable_of_bytes, /)") (some (
        "Concatenate any number of bytes objects.\n\n" ++
        "The bytes whose method is called is inserted in between each pair.\n\n" ++
        "The result is returned as a new bytes object.\n\n" ++
        "Example: b'.'.join([b'ab', b'pq', b'rs']) -> b'ab.pq.rs'.")),
     .method "ljust" (some "($self, width, fillchar=b' ', /)") (some (
        "Return a left-justified string of length width.\n\n" ++
        "Padding is done using the specified fill character.")),
     .method "lower" none (some (
        "B.lower() -> copy of B\n\n" ++
        "Return a copy of B with all ASCII characters converted to lowercase.")),
     .method "lstrip" (some "($self, bytes=None, /)") (some (
        "Strip leading bytes contained in the argument.\n\n" ++
        "If the argument is omitted or None, strip leading  ASCII whitespace.")),
     .free "maketrans" (some "(frm, to, /)") (some (
        "Return a translation table useable for the bytes or bytearray translate method.\n" ++
        "\n" ++
        "The returned table will be one where each byte in frm is mapped to the byte at\n" ++
        "the same position in to.\n\n" ++
        "The bytes objects frm and to must be of the same length.")),
     .method "partition" (some "($self, sep, /)") (some (
        "Partition the bytes into three parts using the given separator.\n\n" ++
        "This will search for the separator sep in the bytes. If the separator is found,\n" ++
        "returns a 3-tuple containing the part before the separator, the separator\n" ++
        "itself, and the part after it.\n\n" ++
        "If the separator is not found, returns a 3-tuple containing the original bytes\n" ++
        "object and two empty bytes objects.")),
     .method "replace" (some "($self, old, new, count=-1, /)") (some (
        "Return a copy with all occurrences of substring old replaced by new.\n\n" ++
        "  count\n" ++
        "    Maximum number of occurrences to replace.\n" ++
        "    -1 (the default value) means replace all occurrences.\n\n" ++
        "If the optional argument count is given, only the first count occurrences are\n" ++
        "replaced.")),
     .method "removeprefix" (some "($self, prefix, /)") (some (
        "Return a bytes object with the given prefix string removed if present.\n\n" ++
        "If the bytes starts with the prefix string, return bytes[len(prefix):].\n" ++
        "Otherwise, return a copy of the original bytes.")),
     .method "removesuffix" (some "($self, suffix, /)") (some (
        "Return a bytes object with the given suffix string removed if present.\n\n" ++
        "If the bytes ends with the suffix string and that suffix is not empty,\n" ++
        "return bytes[:-len(prefix)].  Otherwise, return a copy of the original\n" ++
        "bytes.")),
     .method "rfind" none (some (
        "B.rfind(sub[, start[, end]]) -> int\n\n" ++
        "Return the highest index in B where subsection sub is found,\n" ++
        "such that sub is contained within B[start,end].  Optional\n" ++
        "arguments start and end are interpreted as in slice notation.\n\n" ++
        "Return -1 on failure.")),
     .method "rindex" none (some (
        "B.rindex(sub[, start[, end]]) -> int\n\n" ++
        "Return the highest index in B where subsection sub is found,\n" ++
        "such that sub is contained within B[start,end].  Optional\n" ++
        "arguments start and end are interpreted as in slice notation.\n\n" ++
        "Raise ValueError when the subsection is not found.")),
     .method "rjust" (some "($self, width, fillchar=b' ', /)") (some (
        "Return a right-justified string of length width.\n\n" ++
        "Padding is done using the specified fill character.")),
     .method "rpartition" (some "($self, sep, /)") (some (
        "Partition the bytes into three parts using the given separator.\n\n" ++
        "This will search for the separator sep in the bytes, starting at the end. If\n" ++
        "the separator is found, returns a 3-tuple containing the part before the\n" ++
        "separator, the separator itself, and the part after it.\n\n" ++
        "If the separator is not found, returns a 3-tuple containing two empty bytes\n" ++
        "objects and the original bytes object.")),
     .method "rsplit" (some "($self, /, sep=None, maxsplit=-1)") (some (
        "Return a list of the sections in the bytes, using sep as the delimiter.\n\n" ++
        "  sep\n" ++
        "    The delimiter according which to split the bytes.\n" ++
        "    None (the default value) means split on ASCII whitespace characters\n" ++
        "    (space, tab, return, newline, formfeed, vertical tab).\n" ++
        "  maxsplit\n" ++
        "    Maximum number of splits to do.\n" ++
        "    -1 (the default value) means no limit.\n\n" ++
        "Splitting is done starting at the end of the bytes and working to the front.")),
     .method "rstrip" (some "($self, bytes=None, /)") (some (
        "Strip trailing bytes contained in the argument.\n\n" ++
        "If the argument is omitted or None, strip trailing ASCII whitespace.")),
     .method "split" (some "($self, /, sep=None, maxsplit=-1)") (some (
        "Return a list of the sections in the bytes, using sep as the delimiter.\n\n" ++
        "  sep\n" ++
        "    The delimiter according which to split the bytes.\n" ++
        "    None (the default value) means split on ASCII whitespace characters\n" ++
        "    (space, tab, return, newline, formfeed, vertical tab).\n" ++
        "  maxsplit\n" ++
        "    Maximum number of splits to do.\n" ++
        "    -1 (the default value) means no limit.")),
     .method "splitlines" (some "($self, /, keepends=False)") (some (
        "Return a list of the lines in the bytes, breaking at line boundaries.\n\n" ++
        "Line breaks are not included in the resulting list unless keepends is given and\n" ++
        "true.")),
     .method "startswith" none (some (
        "B.startswith(prefix[, start[, end]]) -> bool\n\n" ++
        "Return True if B starts with the specified prefix, False otherwise.\n" ++
        "With optional start, test B beginning at that position.\n" ++
        "With optional end, stop comparing B at that position.\n" ++
        "prefix can also be a tuple of bytes to try.")),
     .method "strip" (some "($self, bytes=None, /)") (some (
        "Strip leading and trailing bytes contained in the argument.\n\n" ++
        "If the argument is omitted or None, strip leading and trailing ASCII whitespace.")),
     .method "swapcase" none (some (
        "B.swapcase() -> copy of B\n\n" ++
        "Return a copy of B with uppercase ASCII characters converted\n" ++
        "to lowercase ASCII and vice versa.")),
     .method "title" none (some (
        "B.title() -> copy of B\n\n" ++
        "Return a titlecased version of B, i.e. ASCII words start with uppercase\n" ++
        "characters, all remaining cased characters have lowercase.")),
     .method "translate" (some "($self, table, /, delete=b'')") (some (
        "Return a copy with each character mapped by the given translation table.\n\n" ++
        "  table\n" ++
        "    Translation table, which must be a bytes object of length 256.\n\n" ++
        "All characters occurring in the optional argument delete are removed.\n" ++
        "The remaining characters are mapped through the given translation table.")),
     .method "upper" none (some (
        "B.upper() -> copy of B\n\n" ++
        "Return a copy of B with all ASCII characters converted to uppercase.")),
     .method "zfill" (some "($self, width, /)") (some (
        "Pad a numeric string with zeros on the left, to fill a field of the given width.\n" ++
        "\n" ++
        "The original string is never truncated.")),
     .described]

/-- Rows of a fixed length. -/
def tupleKind : Kind where
  name := "tuple"
  ancestors := ["object"]
  note := some (
    "Built-in immutable sequence.\n\n" ++
    "If no argument is given, the constructor returns an empty tuple.\n" ++
    "If iterable is specified the tuple is initialized from iterable's items.\n\n" ++
    "If the argument is a tuple, the return value is the same object.")
  signature := some "(iterable=(), /)"
  measures := ⟨24, 8, 0, 0, 0x4485520⟩
  members :=
    [.maker] ++
    operations ["__repr__", "__hash__", "__getattribute__", "__lt__", "__le__", "__eq__",
                "__ne__", "__gt__", "__ge__", "__iter__", "__len__", "__getitem__", "__add__",
                "__mul__", "__rmul__", "__contains__"] ++
    [.method "__getnewargs__" (some "($self, /)") none,
     .method "index" (some "($self, value, start=0, stop=sys.maxsize, /)") (some (
        "Return first index of value.\n\n" ++
        "Raises ValueError if the value is not present.")),
     .method "count" (some "($self, value, /)") (some "Return number of occurrences of value."),
     .shared "__class_getitem__" none (some "See PEP 585"),
     .described]

/-- Lists. -/
def listKind : Kind where
  name := "list"
  ancestors := ["object"]
  note := some (
    "Built-in mutable sequence.\n\n" ++
    "If no argument is given, the constructor creates a new empty list.\n" ++
    "The argument must be an iterable if specified.")
  signature := some "(iterable=(), /)"
  measures := ⟨40, 0, 0, 0, 0x2485520⟩
  members :=
    [.maker] ++
    operations ["__repr__"] ++
    [.absent "__hash__"] ++
    operations ["__getattribute__", "__lt__", "__le__", "__eq__", "__ne__", "__gt__", "__ge__",
                "__iter__", "__init__", "__len__"] ++
    [.method "__getitem__" none (some "x.__getitem__(y) <==> x[y]")] ++
    operations ["__setitem__", "__delitem__", "__add__", "__mul__", "__rmul__", "__contains__",
                "__iadd__", "__imul__"] ++
    [.method "__reversed__" (some "($self, /)")
       (some "Return a reverse iterator over the list."),
     .method "__sizeof__" (some "($self, /)")
       (some "Return the size of the list in memory, in bytes."),
     .method "clear" (some "($self, /)") (some "Remove all items from list."),
     .method "copy" (some "($self, /)") (some "Return a shallow copy of the list."),
     .method "append" (some "($self, object, /)") (some "Append object to the end of the list."),
     .method "insert" (some "($self, index, object, /)") (some "Insert object before index."),
     .method "extend" (some "($self, iterable, /)")
       (some "Extend list by appending elements from the iterable."),
     .method "pop" (some "($self, index=-1, /)") (some (
        "Remove and return item at index (default last).\n\n" ++
        "Raises IndexError if list is empty or index is out of range.")),
     .method "remove" (some "($self, value, /)") (some (
        "Remove first occurrence of value.\n\n" ++
        "Raises ValueError if the value is not present.")),
     .method "index" (some "($self, value, start=0, stop=sys.maxsize, /)") (some (
        "Return first index of value.\n\n" ++
        "Raises ValueError if the value is not present.")),
     .method "count" (some "($self, value, /)") (some "Return number of occurrences of value."),
     .method "reverse" (some "($self, /)") (some "Reverse *IN PLACE*."),
     .method "sort" (some "($self, /, *, key=None, reverse=False)") (some (
        "Sort the list in ascending order and return None.\n\n" ++
        "The sort is in-place (i.e. the list itself is modified) and stable (i.e. the\n" ++
        "order of two equal elements is maintained).\n\n" ++
        "If a key function is given, apply it once to each list item and sort them,\n" ++
        "ascending or descending, according to their function values.\n\n" ++
        "The reverse flag can be set to sort in descending order.")),
     .shared "__class_getitem__" none (some "See PEP 585"),
     .described]

/-- Objects. -/
def objectKind : Kind where
  name := "dict"
  ancestors := ["object"]
  note := some (
    "dict() -> new empty dictionary\n" ++
    "dict(mapping) -> new dictionary initialized from a mapping object's\n" ++
    "    (key, value) pairs\n" ++
    "dict(iterable) -> new dictionary initialized as if via:\n" ++
    "    d = \x7b\x7d\n" ++
    "    for k, v in iterable:\n" ++
    "        d[k] = v\n" ++
    "dict(**kwargs) -> new dictionary initialized with the name=value pairs\n" ++
    "    in the keyword argument list.  For example:  dict(one=1, two=2)")
  measures := ⟨48, 0, 0, 0, 0x20485540⟩
  members :=
    [.maker] ++
    operations ["__repr__"] ++
    [.absent "__hash__"] ++
    operations ["__getattribute__", "__lt__", "__le__", "__eq__", "__ne__", "__gt__", "__ge__",
                "__iter__", "__init__", "__or__", "__ror__", "__ior__", "__len__"] ++
    [.method "__getitem__" none (some "x.__getitem__(y) <==> x[y]")] ++
    operations ["__setitem__", "__delitem__"] ++
    [.method "__contains__" (some "($self, key, /)")
       (some "True if the dictionary has the specified key, else False."),
     .method "__sizeof__" none (some "D.__sizeof__() -> size of D in memory, in bytes"),
     .method "get" (some "($self, key, default=None, /)")
       (some "Return the value for key if key is in the dictionary, else default."),
     .method "setdefault" (some "($self, key, default=None, /)") (some (
        "Insert key with a value of default if key is not in the dictionary.\n\n" ++
        "Return the value for key if key is in the dictionary, else default.")),
     .method "pop" (some "($self, key, default=<unrepresentable>, /)") (some (
        "D.pop(k[,d]) -> v, remove specified key and return the corresponding value.\n\n" ++
        "If the key is not found, return the default if given; otherwise,\n" ++
        "raise a KeyError.")),
     .method "popitem" (some "($self, /)") (some (
        "Remove and return a (key, value) pair as a 2-tuple.\n\n" ++
        "Pairs are returned in LIFO (last-in, first-out) order.\n" ++
        "Raises KeyError if the dict is empty.")),
     .method "keys" none (some "D.keys() -> a set-like object providing a view on D's keys"),
     .method "items" none (some "D.items() -> a set-like object providing a view on D's items"),
     .method "values" none (some "D.values() -> an object providing a view on D's values"),
     .method "update" none (some (
        "D.update([E, ]**F) -> None.  Update D from dict/iterable E and F.\n" ++
        "If E is present and has a .keys() method, then does:  for k in E: D[k] = E[k]\n" ++
        "If E is present and lacks a .keys() method, then does:  for k, v in E: D[k] = v\n" ++
        "In either case, this is followed by: for k in F:  D[k] = F[k]")),
     .shared "fromkeys" (some "($type, iterable, value=None, /)")
       (some "Create a new dictionary with keys from iterable and values set to value."),
     .method "clear" none (some "D.clear() -> None.  Remove all items from D."),
     .method "copy" none (some "D.copy() -> a shallow copy of D"),
     .method "__reversed__" (some "($self, /)")
       (some "Return a reverse iterator over the dict keys."),
     .shared "__class_getitem__" none (some "See PEP 585"),
     .described]

end Gamebook.Template
