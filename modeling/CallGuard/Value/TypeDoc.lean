import CallGuard.Value.Basic

/-!
The documentation that values show because their types have it. The types of the empty value, of
views and of objects have none.
-/

namespace CallGuard.Value

def truthDoc : String :=
  "bool(x) -> bool\n\nReturns True when the argument x is true, False otherwise.\n" ++
    "The builtins True and False are the only two instances of the class bool.\n" ++
    "The class bool is a subclass of the class int, and cannot be subclassed."

def wholeDoc : String :=
  "int([x]) -> integer\nint(x, base=10) -> integer\n\n" ++
    "Convert a number or string to an integer, or return 0 if no arguments\n" ++
    "are given.  If x is a number, return x.__int__().  For floating point\n" ++
    "numbers, this truncates towards zero.\n\n" ++
    "If x is not a number or if base is given, then x must be a string,\n" ++
    "bytes, or bytearray instance representing an integer literal in the\n" ++
    "given base.  The literal can be preceded by '+' or '-' and be surrounded\n" ++
    "by whitespace.  The base defaults to 10.  Valid bases are 0 and 2-36.\n" ++
    "Base 0 means to interpret the base from the string as an integer literal.\n" ++
    ">>> int('0b100', base=0)\n4"

def decimalDoc : String :=
  "Construct a new Decimal object. 'value' can be an integer, string, tuple,\n" ++
    "or another Decimal object. If no value is given, return Decimal('0'). The\n" ++
    "context does not affect the conversion and is only passed to determine if\n" ++
    "the InvalidOperation trap is active.\n\n"

def fractionDoc : String :=
  "This class implements rational numbers.\n\n" ++
    "    In the two-argument form of the constructor, Fraction(8, 6) will\n" ++
    "    produce a rational number equivalent to 4/3. Both arguments must\n" ++
    "    be Rational. The numerator defaults to 0 and the denominator\n" ++
    "    defaults to 1 so that Fraction(3) == 3 and Fraction() == 0.\n\n" ++
    "    Fractions can also be constructed from:\n\n" ++
    "      - numeric strings similar to those accepted by the\n" ++
    "        float constructor (for example, '-2.3' or '1e10')\n\n" ++
    "      - strings of the form '123/456'\n\n" ++
    "      - float and Decimal instances\n\n" ++
    "      - other Rational instances (including integers)\n\n    "

def complexDoc : String :=
  "Create a complex number from a real part and an optional imaginary part.\n\n" ++
    "This is equivalent to (real + imag*1j) where imag defaults to 0."

def textDoc : String :=
  "str(object='') -> str\nstr(bytes_or_buffer[, encoding[, errors]]) -> str\n\n" ++
    "Create a new string object from the given object. If encoding or\n" ++
    "errors is specified, then the object must expose a data buffer\n" ++
    "that will be decoded using the given encoding and error handler.\n" ++
    "Otherwise, returns the result of object.__str__() (if defined)\n" ++
    "or repr(object).\nencoding defaults to sys.getdefaultencoding().\n" ++
    "errors defaults to 'strict'."

def bytesDoc : String :=
  "bytes(iterable_of_ints) -> bytes\nbytes(string, encoding[, errors]) -> bytes\n" ++
    "bytes(bytes_or_buffer) -> immutable copy of bytes_or_buffer\n" ++
    "bytes(int) -> bytes object of size given by the parameter initialized with null bytes\n" ++
    "bytes() -> empty bytes object\n\n" ++
    "Construct an immutable array of bytes from:\n" ++
    "  - an iterable yielding integers in range(256)\n" ++
    "  - a text string encoded using the specified encoding\n" ++
    "  - any object implementing the buffer API.\n  - an integer"

/-- The documentation of the type of byte strings that can change. -/
def byteArrayDoc : String :=
  "bytearray(iterable_of_ints) -> bytearray\n" ++
    "bytearray(string, encoding[, errors]) -> bytearray\n" ++
    "bytearray(bytes_or_buffer) -> mutable copy of bytes_or_buffer\n" ++
    "bytearray(int) -> bytes array of size given by the parameter initialized with null bytes\n" ++
    "bytearray() -> empty bytes array\n\n" ++
    "Construct a mutable bytearray object from:\n" ++
    "  - an iterable yielding integers in range(256)\n" ++
    "  - a text string encoded using the specified encoding\n" ++
    "  - a bytes or a buffer object\n" ++
    "  - any object implementing the buffer API.\n  - an integer"

def listDoc : String :=
  "Built-in mutable sequence.\n\n" ++
    "If no argument is given, the constructor creates a new empty list.\n" ++
    "The argument must be an iterable if specified."

def tupleDoc : String :=
  "Built-in immutable sequence.\n\n" ++
    "If no argument is given, the constructor returns an empty tuple.\n" ++
    "If iterable is specified the tuple is initialized from iterable's items.\n\n" ++
    "If the argument is a tuple, the return value is the same object."

def queueDoc : String :=
  "deque([iterable[, maxlen]]) --> deque object\n\n" ++
    "A list-like sequence optimized for data accesses near its endpoints."

def setDoc : String :=
  "set() -> new empty set object\nset(iterable) -> new set object\n\n" ++
    "Build an unordered collection of unique elements."

def rangeDoc : String :=
  "range(stop) -> range object\nrange(start, stop[, step]) -> range object\n\n" ++
    "Return an object that produces a sequence of integers from start (inclusive)\n" ++
    "to stop (exclusive) by step.  range(i, j) produces i, i+1, i+2, ..., j-1.\n" ++
    "start defaults to 0, and stop is omitted!  range(4) produces 0, 1, 2, 3.\n" ++
    "These are exactly the valid indices for a list of 4 elements.\n" ++
    "When step is given, it specifies the increment (or decrement)."

def mappingDoc : String :=
  "dict() -> new empty dictionary\n" ++
    "dict(mapping) -> new dictionary initialized from a mapping object's\n" ++
    "    (key, value) pairs\ndict(iterable) -> new dictionary initialized as if via:\n" ++
    "    d = \x7b\x7d\n    for k, v in iterable:\n        d[k] = v\n" ++
    "dict(**kwargs) -> new dictionary initialized with the name=value pairs\n" ++
    "    in the keyword argument list.  For example:  dict(one=1, two=2)"

/-- The documentation of the type of a record: its name and those of its fields. -/
def recordDoc (type : String) (fields : List String) : String :=
  type ++ "(" ++ ", ".intercalate fields ++ ")"

def typeDoc : Value → Option String
  | .bool _ => some truthDoc
  | .int _ => some wholeDoc
  | .float _ => some "Convert a string or number to a floating point number, if possible."
  | .decimal _ => some decimalDoc
  | .fraction .. => some fractionDoc
  | .complex .. => some complexDoc
  | .text _ => some textDoc
  | .bytes _ => some bytesDoc
  | .byteArray _ => some byteArrayDoc
  | .list _ => some listDoc
  | .tuple _ => some tupleDoc
  | .deque _ => some queueDoc
  | .set _ => some setDoc
  | .range .. => some rangeDoc
  | .mapping _ => some mappingDoc
  | .record type fields => some (recordDoc type (fields.map (·.1)))
  | _ => none

end CallGuard.Value
