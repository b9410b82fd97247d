/-!
The classes that annotations can speak of: their homes, their ancestors and the names of their
attributes.
-/

namespace Longhand

namespace Annotation

/-- A class: its name, the module that it is at home in, the names of its ancestors, itself
first, and its own attributes. An attribute is a method unless a mark follows:
g for data of the members, c for a method of the class, s for a free function, v for a value. -/
structure ClassRow where
  name : String
  home : String
  ancestors : String
  attributes : List String

def classRows : List ClassRow := [
  ⟨"object", "builtins",
    "object",
    [
      "__new__=s __repr__ __hash__ __str__ __getattribute__ __setattr__ __delattr__ __lt__",
      "__le__ __eq__ __ne__ __gt__ __ge__ __init__ __reduce_ex__ __reduce__ __getstate__",
      "__subclasshook__=c __init_subclass__=c __format__ __sizeof__ __dir__ __class__=g",
      "__doc__=v"]⟩,
  ⟨"int", "builtins",
    "int object",
    [
      "__new__=s __repr__ __hash__ __getattribute__ __lt__ __le__ __eq__ __ne__ __gt__ __ge__",
      "__add__ __radd__ __sub__ __rsub__ __mul__ __rmul__ __mod__ __rmod__ __divmod__",
      "__rdivmod__ __pow__ __rpow__ __neg__ __pos__ __abs__ __bool__ __invert__ __lshift__",
      "__rlshift__ __rshift__ __rrshift__ __and__ __rand__ __xor__ __rxor__ __or__ __ror__",
      "__int__ __float__ __floordiv__ __rfloordiv__ __truediv__ __rtruediv__ __index__",
      "conjugate bit_length bit_count to_bytes from_bytes=c as_integer_ratio __trunc__",
      "__floor__ __ceil__ __round__ __getnewargs__ __format__ __sizeof__ real=g imag=g",
      "numerator=g denominator=g __doc__=v"]⟩,
  ⟨"bool", "builtins",
    "bool int object",
    ["__new__=s __repr__ __and__ __rand__ __xor__ __rxor__ __or__ __ror__ __doc__=v"]⟩,
  ⟨"memoryview", "builtins",
    "memoryview object",
    [
      "__new__=s __repr__ __hash__ __getattribute__ __lt__ __le__ __eq__ __ne__ __gt__ __ge__",
      "__iter__ __len__ __getitem__ __setitem__ __delitem__ release tobytes hex tolist cast",
      "toreadonly __enter__ __exit__ obj=g nbytes=g readonly=g itemsize=g format=g ndim=g",
      "shape=g strides=g suboffsets=g c_contiguous=g f_contiguous=g contiguous=g __doc__=v"]⟩,
  ⟨"bytearray", "builtins",
    "bytearray object",
    [
      "__new__=s __repr__ __str__ __getattribute__ __lt__ __le__ __eq__ __ne__ __gt__ __ge__",
      "__iter__ __init__ __mod__ __rmod__ __len__ __getitem__ __setitem__ __delitem__ __add__",
      "__mul__ __rmul__ __contains__ __iadd__ __imul__ __alloc__ __reduce__ __reduce_ex__",
      "__sizeof__ append capitalize center clear copy count decode endswith expandtabs extend",
      "find fromhex=c hex index insert isalnum isalpha isascii isdigit islower isspace istitle",
      "isupper join ljust lower lstrip maketrans=s partition pop remove replace removeprefix",
      "removesuffix reverse rfind rindex rjust rpartition rsplit rstrip split splitlines",
      "startswith strip swapcase title translate upper zfill __doc__=v __hash__=v"]⟩,
  ⟨"bytes", "builtins",
    "bytes object",
    [
      "__new__=s __repr__ __hash__ __str__ __getattribute__ __lt__ __le__ __eq__ __ne__ __gt__",
      "__ge__ __iter__ __mod__ __rmod__ __len__ __getitem__ __add__ __mul__ __rmul__",
      "__contains__ __getnewargs__ __bytes__ capitalize center count decode endswith expandtabs",
      "find fromhex=c hex index isalnum isalpha isascii isdigit islower isspace istitle isupper",
      "join ljust lower lstrip maketrans=s partition replace removeprefix removesuffix rfind",
      "rindex rjust rpartition rsplit rstrip split splitlines startswith strip swapcase title",
      "translate upper zfill __doc__=v"]⟩,
  ⟨"classmethod", "builtins",
    "classmethod object",
    [
      "__new__=s __repr__ __get__ __init__ __func__=g __wrapped__=g __isabstractmethod__=g",
      "__dict__=g __doc__=v"]⟩,
  ⟨"complex", "builtins",
    "complex object",
    [
      "__new__=s __repr__ __hash__ __getattribute__ __lt__ __le__ __eq__ __ne__ __gt__ __ge__",
      "__add__ __radd__ __sub__ __rsub__ __mul__ __rmul__ __pow__ __rpow__ __neg__ __pos__",
      "__abs__ __bool__ __truediv__ __rtruediv__ conjugate __complex__ __getnewargs__",
      "__format__ real=g imag=g __doc__=v"]⟩,
  ⟨"dict", "builtins",
    "dict object",
    [
      "__new__=s __repr__ __hash__=v __getattribute__ __lt__ __le__ __eq__ __ne__ __gt__ __ge__",
      "__iter__ __init__ __or__ __ror__ __ior__ __len__ __getitem__ __setitem__ __delitem__",
      "__contains__ __sizeof__ get setdefault pop popitem keys items values update fromkeys=c",
      "clear copy __reversed__ __class_getitem__=c __doc__=v"]⟩,
  ⟨"enumerate", "builtins",
    "enumerate object",
    [
      "__new__=s __getattribute__ __iter__ __next__ __reduce__ __class_getitem__=c __doc__=v"]⟩,
  ⟨"filter", "builtins",
    "filter object",
    ["__new__=s __getattribute__ __iter__ __next__ __reduce__ __doc__=v"]⟩,
  ⟨"float", "builtins",
    "float object",
    [
      "__new__=s __repr__ __hash__ __getattribute__ __lt__ __le__ __eq__ __ne__ __gt__ __ge__",
      "__add__ __radd__ __sub__ __rsub__ __mul__ __rmul__ __mod__ __rmod__ __divmod__",
      "__rdivmod__ __pow__ __rpow__ __neg__ __pos__ __abs__ __bool__ __int__ __float__",
      "__floordiv__ __rfloordiv__ __truediv__ __rtruediv__ conjugate __trunc__ __floor__",
      "__ceil__ __round__ as_integer_ratio fromhex=c hex is_integer __getnewargs__",
      "__getformat__=c __format__ real=g imag=g __doc__=v"]⟩,
  ⟨"frozenset", "builtins",
    "frozenset object",
    [
      "__new__=s __repr__ __hash__ __getattribute__ __lt__ __le__ __eq__ __ne__ __gt__ __ge__",
      "__iter__ __sub__ __rsub__ __and__ __rand__ __xor__ __rxor__ __or__ __ror__ __len__",
      "__contains__ copy difference intersection isdisjoint issubset issuperset __reduce__",
      "__sizeof__ symmetric_difference union __class_getitem__=c __doc__=v"]⟩,
  ⟨"property", "builtins",
    "property object",
    [
      "__new__=s __getattribute__ __get__ __set__ __delete__ __init__ getter setter deleter",
      "__set_name__ fget=g fset=g fdel=g __doc__=g __isabstractmethod__=g"]⟩,
  ⟨"list", "builtins",
    "list object",
    [
      "__new__=s __repr__ __hash__=v __getattribute__ __lt__ __le__ __eq__ __ne__ __gt__ __ge__",
      "__iter__ __init__ __len__ __getitem__ __setitem__ __delitem__ __add__ __mul__ __rmul__",
      "__contains__ __iadd__ __imul__ __reversed__ __sizeof__ clear copy append insert extend",
      "pop remove index count reverse sort __class_getitem__=c __doc__=v"]⟩,
  ⟨"map", "builtins",
    "map object",
    ["__new__=s __getattribute__ __iter__ __next__ __reduce__ __doc__=v"]⟩,
  ⟨"range", "builtins",
    "range object",
    [
      "__new__=s __repr__ __hash__ __getattribute__ __lt__ __le__ __eq__ __ne__ __gt__ __ge__",
      "__iter__ __bool__ __len__ __getitem__ __contains__ __reversed__ __reduce__ count index",
      "start=g stop=g step=g __doc__=v"]⟩,
  ⟨"reversed", "builtins",
    "reversed object",
    [
      "__new__=s __getattribute__ __iter__ __next__ __length_hint__ __reduce__ __setstate__",
      "__doc__=v"]⟩,
  ⟨"set", "builtins",
    "set object",
    [
      "__new__=s __repr__ __hash__=v __getattribute__ __lt__ __le__ __eq__ __ne__ __gt__ __ge__",
      "__iter__ __init__ __sub__ __rsub__ __and__ __rand__ __xor__ __rxor__ __or__ __ror__",
      "__isub__ __iand__ __ixor__ __ior__ __len__ __contains__ add clear copy discard",
      "difference difference_update intersection intersection_update isdisjoint issubset",
      "issuperset pop __reduce__ remove __sizeof__ symmetric_difference",
      "symmetric_difference_update union update __class_getitem__=c __doc__=v"]⟩,
  ⟨"slice", "builtins",
    "slice object",
    [
      "__new__=s __repr__ __hash__=v __getattribute__ __lt__ __le__ __eq__ __ne__ __gt__ __ge__",
      "indices __reduce__ start=g stop=g step=g __doc__=v"]⟩,
  ⟨"staticmethod", "builtins",
    "staticmethod object",
    [
      "__new__=s __repr__ __call__ __get__ __init__ __func__=g __wrapped__=g",
      "__isabstractmethod__=g __dict__=g __doc__=v"]⟩,
  ⟨"str", "builtins",
    "str object",
    [
      "__new__=s __repr__ __hash__ __str__ __getattribute__ __lt__ __le__ __eq__ __ne__ __gt__",
      "__ge__ __iter__ __mod__ __rmod__ __len__ __getitem__ __add__ __mul__ __rmul__",
      "__contains__ encode replace split rsplit join capitalize casefold title center count",
      "expandtabs find partition index ljust lower lstrip rfind rindex rjust rstrip rpartition",
      "splitlines strip swapcase translate upper startswith endswith removeprefix removesuffix",
      "isascii islower isupper istitle isspace isdecimal isdigit isnumeric isalpha isalnum",
      "isidentifier isprintable zfill format format_map __format__ maketrans=s __sizeof__",
      "__getnewargs__ __doc__=v"]⟩,
  ⟨"super", "builtins",
    "super object",
    [
      "__new__=s __repr__ __getattribute__ __get__ __init__ __thisclass__=g __self__=g",
      "__self_class__=g __doc__=v"]⟩,
  ⟨"tuple", "builtins",
    "tuple object",
    [
      "__new__=s __repr__ __hash__ __getattribute__ __lt__ __le__ __eq__ __ne__ __gt__ __ge__",
      "__iter__ __len__ __getitem__ __add__ __mul__ __rmul__ __contains__ __getnewargs__ index",
      "count __class_getitem__=c __doc__=v"]⟩,
  ⟨"type", "builtins",
    "type object",
    [
      "__new__=s __repr__ __call__ __getattribute__ __setattr__ __delattr__ __init__ __or__",
      "__ror__ mro __subclasses__ __prepare__=c __instancecheck__ __subclasscheck__ __dir__",
      "__sizeof__ __basicsize__=g __itemsize__=g __flags__=g __weakrefoffset__=g __base__=g",
      "__dictoffset__=g __mro__=g __name__=g __qualname__=g __bases__=g __module__=g",
      "__abstractmethods__=g __dict__=g __doc__=g __text_signature__=g __annotations__=g"]⟩,
  ⟨"zip", "builtins",
    "zip object",
    ["__new__=s __getattribute__ __iter__ __next__ __reduce__ __setstate__ __doc__=v"]⟩,
  ⟨"BaseException", "builtins",
    "BaseException object",
    [
      "__new__=s __repr__ __str__ __getattribute__ __setattr__ __delattr__ __init__ __reduce__",
      "__setstate__ with_traceback add_note __suppress_context__=g __dict__=g args=g",
      "__traceback__=g __context__=g __cause__=g __doc__=v"]⟩,
  ⟨"BaseExceptionGroup", "builtins",
    "BaseExceptionGroup BaseException object",
    [
      "__new__=s __str__ __init__ __class_getitem__=c derive split subgroup message=g",
      "exceptions=g __doc__=v"]⟩,
  ⟨"Exception", "builtins",
    "Exception BaseException object",
    ["__new__=s __init__ __doc__=v"]⟩,
  ⟨"GeneratorExit", "builtins",
    "GeneratorExit BaseException object",
    ["__new__=s __init__ __doc__=v"]⟩,
  ⟨"KeyboardInterrupt", "builtins",
    "KeyboardInterrupt BaseException object",
    ["__new__=s __init__ __doc__=v"]⟩,
  ⟨"SystemExit", "builtins",
    "SystemExit BaseException object",
    ["__init__ code=g __doc__=v"]⟩,
  ⟨"ArithmeticError", "builtins",
    "ArithmeticError Exception BaseException object",
    ["__new__=s __init__ __doc__=v"]⟩,
  ⟨"AssertionError", "builtins",
    "AssertionError Exception BaseException object",
    ["__new__=s __init__ __doc__=v"]⟩,
  ⟨"AttributeError", "builtins",
    "AttributeError Exception BaseException object",
    ["__str__ __init__ name=g obj=g __doc__=v"]⟩,
  ⟨"BufferError", "builtins",
    "BufferError Exception BaseException object",
    ["__new__=s __init__ __doc__=v"]⟩,
  ⟨"EOFError", "builtins",
    "EOFError Exception BaseException object",
    ["__new__=s __init__ __doc__=v"]⟩,
  ⟨"ImportError", "builtins",
    "ImportError Exception BaseException object",
    ["__str__ __init__ __reduce__ msg=g name=g path=g __doc__=v"]⟩,
  ⟨"LookupError", "builtins",
    "LookupError Exception BaseException object",
    ["__new__=s __init__ __doc__=v"]⟩,
  ⟨"MemoryError", "builtins",
    "MemoryError Exception BaseException object",
    ["__new__=s __init__ __doc__=v"]⟩,
  ⟨"NameError", "builtins",
    "NameError Exception BaseException object",
    ["__str__ __init__ name=g __doc__=v"]⟩,
  ⟨"OSError", "builtins",
    "OSError Exception BaseException object",
    [
      "__new__=s __str__ __init__ __reduce__ errno=g strerror=g filename=g filename2=g",
      "characters_written=g __doc__=v"]⟩,
  ⟨"ReferenceError", "builtins",
    "ReferenceError Exception BaseException object",
    ["__new__=s __init__ __doc__=v"]⟩,
  ⟨"RuntimeError", "builtins",
    "RuntimeError Exception BaseException object",
    ["__new__=s __init__ __doc__=v"]⟩,
  ⟨"StopAsyncIteration", "builtins",
    "StopAsyncIteration Exception BaseException object",
    ["__new__=s __init__ __doc__=v"]⟩,
  ⟨"StopIteration", "builtins",
    "StopIteration Exception BaseException object",
    ["__init__ value=g __doc__=v"]⟩,
  ⟨"SyntaxError", "builtins",
    "SyntaxError Exception BaseException object",
    [
      "__str__ __init__ msg=g filename=g lineno=g offset=g text=g end_lineno=g end_offset=g",
      "print_file_and_line=g __doc__=v"]⟩,
  ⟨"SystemError", "builtins",
    "SystemError Exception BaseException object",
    ["__new__=s __init__ __doc__=v"]⟩,
  ⟨"TypeError", "builtins",
    "TypeError Exception BaseException object",
    ["__new__=s __init__ __doc__=v"]⟩,
  ⟨"ValueError", "builtins",
    "ValueError Exception BaseException object",
    ["__new__=s __init__ __doc__=v"]⟩,
  ⟨"Warning", "builtins",
    "Warning Exception BaseException object",
    ["__new__=s __init__ __doc__=v"]⟩,
  ⟨"FloatingPointError", "builtins",
    "FloatingPointError ArithmeticError Exception BaseException object",
    ["__new__=s __init__ __doc__=v"]⟩,
  ⟨"OverflowError", "builtins",
    "OverflowError ArithmeticError Exception BaseException object",
    ["__new__=s __init__ __doc__=v"]⟩,
  ⟨"ZeroDivisionError", "builtins",
    "ZeroDivisionError ArithmeticError Exception BaseException object",
    ["__new__=s __init__ __doc__=v"]⟩,
  ⟨"BytesWarning", "builtins",
    "BytesWarning Warning Exception BaseException object",
    ["__new__=s __init__ __doc__=v"]⟩,
  ⟨"DeprecationWarning", "builtins",
    "DeprecationWarning Warning Exception BaseException object",
    ["__new__=s __init__ __doc__=v"]⟩,
  ⟨"EncodingWarning", "builtins",
    "EncodingWarning Warning Exception BaseException object",
    ["__new__=s __init__ __doc__=v"]⟩,
  ⟨"FutureWarning", "builtins",
    "FutureWarning Warning Exception BaseException object",
    ["__new__=s __init__ __doc__=v"]⟩,
  ⟨"ImportWarning", "builtins",
    "ImportWarning Warning Exception BaseException object",
    ["__new__=s __init__ __doc__=v"]⟩,
  ⟨"PendingDeprecationWarning", "builtins",
    "PendingDeprecationWarning Warning Exception BaseException object",
    ["__new__=s __init__ __doc__=v"]⟩,
  ⟨"ResourceWarning", "builtins",
    "ResourceWarning Warning Exception BaseException object",
    ["__new__=s __init__ __doc__=v"]⟩,
  ⟨"RuntimeWarning", "builtins",
    "RuntimeWarning Warning Exception BaseException object",
    ["__new__=s __init__ __doc__=v"]⟩,
  ⟨"SyntaxWarning", "builtins",
    "SyntaxWarning Warning Exception BaseException object",
    ["__new__=s __init__ __doc__=v"]⟩,
  ⟨"UnicodeWarning", "builtins",
    "UnicodeWarning Warning Exception BaseException object",
    ["__new__=s __init__ __doc__=v"]⟩,
  ⟨"UserWarning", "builtins",
    "UserWarning Warning Exception BaseException object",
    ["__new__=s __init__ __doc__=v"]⟩,
  ⟨"BlockingIOError", "builtins",
    "BlockingIOError OSError Exception BaseException object",
    ["__init__ __doc__=v"]⟩,
  ⟨"ChildProcessError", "builtins",
    "ChildProcessError OSError Exception BaseException object",
    ["__init__ __doc__=v"]⟩,
  ⟨"ConnectionError", "builtins",
    "ConnectionError OSError Exception BaseException object",
    ["__init__ __doc__=v"]⟩,
  ⟨"FileExistsError", "builtins",
    "FileExistsError OSError Exception BaseException object",
    ["__init__ __doc__=v"]⟩,
  ⟨"FileNotFoundError", "builtins",
    "FileNotFoundError OSError Exception BaseException object",
    ["__init__ __doc__=v"]⟩,
  ⟨"InterruptedError", "builtins",
    "InterruptedError OSError Exception BaseException object",
    ["__init__ __doc__=v"]⟩,
  ⟨"IsADirectoryError", "builtins",
    "IsADirectoryError OSError Exception BaseException object",
    ["__init__ __doc__=v"]⟩,
  ⟨"NotADirectoryError", "builtins",
    "NotADirectoryError OSError Exception BaseException object",
    ["__init__ __doc__=v"]⟩,
  ⟨"PermissionError", "builtins",
    "PermissionError OSError Exception BaseException object",
    ["__init__ __doc__=v"]⟩,
  ⟨"ProcessLookupError", "builtins",
    "ProcessLookupError OSError Exception BaseException object",
    ["__init__ __doc__=v"]⟩,
  ⟨"TimeoutError", "builtins",
    "TimeoutError OSError Exception BaseException object",
    ["__init__ __doc__=v"]⟩,
  ⟨"IndentationError", "builtins",
    "IndentationError SyntaxError Exception BaseException object",
    ["__init__ __doc__=v"]⟩,
  ⟨"IndexError", "builtins",
    "IndexError LookupError Exception BaseException object",
    ["__new__=s __init__ __doc__=v"]⟩,
  ⟨"KeyError", "builtins",
    "KeyError LookupError Exception BaseException object",
    ["__str__ __init__ __doc__=v"]⟩,
  ⟨"ModuleNotFoundError", "builtins",
    "ModuleNotFoundError ImportError Exception BaseException object",
    ["__init__ __doc__=v"]⟩,
  ⟨"NotImplementedError", "builtins",
    "NotImplementedError RuntimeError Exception BaseException object",
    ["__new__=s __init__ __doc__=v"]⟩,
  ⟨"RecursionError", "builtins",
    "RecursionError RuntimeError Exception BaseException object",
    ["__new__=s __init__ __doc__=v"]⟩,
  ⟨"UnboundLocalError", "builtins",
    "UnboundLocalError NameError Exception BaseException object",
    ["__init__ __doc__=v"]⟩,
  ⟨"UnicodeError", "builtins",
    "UnicodeError ValueError Exception BaseException object",
    ["__new__=s __init__ __doc__=v"]⟩,
  ⟨"BrokenPipeError", "builtins",
    "BrokenPipeError ConnectionError OSError Exception BaseException object",
    ["__init__ __doc__=v"]⟩,
  ⟨"ConnectionAbortedError", "builtins",
    "ConnectionAbortedError ConnectionError OSError Exception BaseException object",
    ["__init__ __doc__=v"]⟩,
  ⟨"ConnectionRefusedError", "builtins",
    "ConnectionRefusedError ConnectionError OSError Exception BaseException object",
    ["__init__ __doc__=v"]⟩,
  ⟨"ConnectionResetError", "builtins",
    "ConnectionResetError ConnectionError OSError Exception BaseException object",
    ["__init__ __doc__=v"]⟩,
  ⟨"TabError", "builtins",
    "TabError IndentationError SyntaxError Exception BaseException object",
    ["__init__ __doc__=v"]⟩,
  ⟨"UnicodeDecodeError", "builtins",
    "UnicodeDecodeError UnicodeError ValueError Exception BaseException object",
    ["__new__=s __str__ __init__ encoding=g object=g start=g end=g reason=g __doc__=v"]⟩,
  ⟨"UnicodeEncodeError", "builtins",
    "UnicodeEncodeError UnicodeError ValueError Exception BaseException object",
    ["__new__=s __str__ __init__ encoding=g object=g start=g end=g reason=g __doc__=v"]⟩,
  ⟨"UnicodeTranslateError", "builtins",
    "UnicodeTranslateError UnicodeError ValueError Exception BaseException object",
    ["__new__=s __str__ __init__ encoding=g object=g start=g end=g reason=g __doc__=v"]⟩,
  ⟨"ExceptionGroup", "builtins",
    "ExceptionGroup BaseExceptionGroup Exception BaseException object",
    ["__module__=v __weakref__=g __doc__=v"]⟩,
  ⟨"NoneType", "builtins",
    "NoneType object",
    ["__new__=s __repr__ __bool__ __doc__=v"]⟩,
  ⟨"ellipsis", "builtins",
    "ellipsis object",
    ["__new__=s __repr__ __getattribute__ __reduce__ __doc__=v"]⟩,
  ⟨"NotImplementedType", "builtins",
    "NotImplementedType object",
    ["__new__=s __repr__ __bool__ __reduce__ __doc__=v"]⟩,
  ⟨"UnionType", "types",
    "UnionType object",
    [
      "__repr__ __hash__ __getattribute__ __lt__ __le__ __eq__ __ne__ __gt__ __ge__ __or__",
      "__ror__ __getitem__ __args__=g __parameters__=g __doc__=v"]⟩,
  ⟨"GenericAlias", "types",
    "GenericAlias object",
    [
      "__new__=s __repr__ __hash__ __call__ __getattribute__ __lt__ __le__ __eq__ __ne__ __gt__",
      "__ge__ __iter__ __or__ __ror__ __getitem__ __mro_entries__ __instancecheck__",
      "__subclasscheck__ __reduce__ __dir__ __origin__=g __args__=g __unpacked__=g",
      "__parameters__=g __typing_unpacked_tuple_args__=g __doc__=v"]⟩,
  ⟨"function", "builtins",
    "function object",
    [
      "__new__=s __repr__ __call__ __get__ __closure__=g __doc__=g __globals__=g __module__=g",
      "__builtins__=g __code__=g __defaults__=g __kwdefaults__=g __annotations__=g __dict__=g",
      "__name__=g __qualname__=g"]⟩,
  ⟨"builtin_function_or_method", "builtins",
    "builtin_function_or_method object",
    [
      "__repr__ __hash__ __call__ __getattribute__ __lt__ __le__ __eq__ __ne__ __gt__ __ge__",
      "__reduce__ __module__=g __doc__=g __name__=g __qualname__=g __self__=g",
      "__text_signature__=g"]⟩,
  ⟨"module", "builtins",
    "module object",
    [
      "__new__=s __repr__ __getattribute__ __setattr__ __delattr__ __init__ __dir__ __dict__=g",
      "__annotations__=g __doc__=v"]⟩,
  ⟨"method_descriptor", "builtins",
    "method_descriptor object",
    [
      "__repr__ __call__ __getattribute__ __get__ __reduce__ __objclass__=g __name__=g",
      "__doc__=g __qualname__=g __text_signature__=g"]⟩,
  ⟨"getset_descriptor", "builtins",
    "getset_descriptor object",
    [
      "__repr__ __getattribute__ __get__ __set__ __delete__ __objclass__=g __name__=g __doc__=g",
      "__qualname__=g"]⟩,
  ⟨"wrapper_descriptor", "builtins",
    "wrapper_descriptor object",
    [
      "__repr__ __call__ __getattribute__ __get__ __reduce__ __objclass__=g __name__=g",
      "__doc__=g __qualname__=g __text_signature__=g"]⟩,
  ⟨"method-wrapper", "builtins",
    "method-wrapper object",
    [
      "__repr__ __hash__ __call__ __getattribute__ __lt__ __le__ __eq__ __ne__ __gt__ __ge__",
      "__reduce__ __self__=g __objclass__=g __name__=g __qualname__=g __doc__=g",
      "__text_signature__=g"]⟩,
  ⟨"classmethod_descriptor", "builtins",
    "classmethod_descriptor object",
    [
      "__repr__ __call__ __getattribute__ __get__ __objclass__=g __name__=g __doc__=g",
      "__qualname__=g __text_signature__=g"]⟩,
  ⟨"generator", "builtins",
    "generator object",
    [
      "__repr__ __getattribute__ __iter__ __next__ __del__ send throw close __sizeof__",
      "gi_code=g __name__=g __qualname__=g gi_yieldfrom=g gi_running=g gi_frame=g",
      "gi_suspended=g __doc__=v"]⟩,
  ⟨"list_iterator", "builtins",
    "list_iterator object",
    [
      "__getattribute__ __iter__ __next__ __length_hint__ __reduce__ __setstate__ __doc__=v"]⟩,
  ⟨"tuple_iterator", "builtins",
    "tuple_iterator object",
    [
      "__getattribute__ __iter__ __next__ __length_hint__ __reduce__ __setstate__ __doc__=v"]⟩,
  ⟨"str_ascii_iterator", "builtins",
    "str_ascii_iterator object",
    [
      "__getattribute__ __iter__ __next__ __length_hint__ __reduce__ __setstate__ __doc__=v"]⟩,
  ⟨"str_iterator", "builtins",
    "str_iterator object",
    [
      "__getattribute__ __iter__ __next__ __length_hint__ __reduce__ __setstate__ __doc__=v"]⟩,
  ⟨"dict_keyiterator", "builtins",
    "dict_keyiterator object",
    ["__getattribute__ __iter__ __next__ __length_hint__ __reduce__ __doc__=v"]⟩,
  ⟨"dict_keys", "builtins",
    "dict_keys object",
    [
      "__repr__ __getattribute__ __lt__ __le__ __eq__ __ne__ __gt__ __ge__ __iter__ __sub__",
      "__rsub__ __and__ __rand__ __xor__ __rxor__ __or__ __ror__ __len__ __contains__",
      "isdisjoint __reversed__ mapping=g __doc__=v __hash__=v"]⟩,
  ⟨"dict_values", "builtins",
    "dict_values object",
    ["__repr__ __getattribute__ __iter__ __len__ __reversed__ mapping=g __doc__=v"]⟩,
  ⟨"dict_items", "builtins",
    "dict_items object",
    [
      "__repr__ __getattribute__ __lt__ __le__ __eq__ __ne__ __gt__ __ge__ __iter__ __sub__",
      "__rsub__ __and__ __rand__ __xor__ __rxor__ __or__ __ror__ __len__ __contains__",
      "isdisjoint __reversed__ mapping=g __doc__=v __hash__=v"]⟩,
  ⟨"range_iterator", "builtins",
    "range_iterator object",
    [
      "__getattribute__ __iter__ __next__ __length_hint__ __reduce__ __setstate__ __doc__=v"]⟩,
  ⟨"set_iterator", "builtins",
    "set_iterator object",
    ["__getattribute__ __iter__ __next__ __length_hint__ __reduce__ __doc__=v"]⟩,
  ⟨"bytes_iterator", "builtins",
    "bytes_iterator object",
    [
      "__getattribute__ __iter__ __next__ __length_hint__ __reduce__ __setstate__ __doc__=v"]⟩,
  ⟨"mappingproxy", "builtins",
    "mappingproxy object",
    [
      "__new__=s __repr__ __str__ __getattribute__ __lt__ __le__ __eq__ __ne__ __gt__ __ge__",
      "__iter__ __or__ __ror__ __ior__ __len__ __getitem__ __contains__ get keys values items",
      "copy __class_getitem__=c __reversed__ __doc__=v __hash__=v"]⟩,
  ⟨"method", "builtins",
    "method object",
    [
      "__new__=s __repr__ __hash__ __call__ __getattribute__ __setattr__ __delattr__ __lt__",
      "__le__ __eq__ __ne__ __gt__ __ge__ __reduce__ __func__=g __self__=g __doc__=g"]⟩,
  ⟨"dict_valueiterator", "builtins",
    "dict_valueiterator object",
    ["__getattribute__ __iter__ __next__ __length_hint__ __reduce__ __doc__=v"]⟩,
  ⟨"dict_itemiterator", "builtins",
    "dict_itemiterator object",
    ["__getattribute__ __iter__ __next__ __length_hint__ __reduce__ __doc__=v"]⟩,
  ⟨"list_reverseiterator", "builtins",
    "list_reverseiterator object",
    [
      "__getattribute__ __iter__ __next__ __length_hint__ __reduce__ __setstate__ __doc__=v"]⟩,
  ⟨"member_descriptor", "builtins",
    "member_descriptor object",
    [
      "__repr__ __getattribute__ __get__ __set__ __delete__ __reduce__ __objclass__=g",
      "__name__=g __doc__=g __qualname__=g"]⟩,
  ⟨"Container", "collections.abc",
    "Container object",
    [
      "__module__=v __slots__=v __contains__ __subclasshook__=c __class_getitem__=c __doc__=v",
      "__abstractmethods__=v _abc_impl=v"]⟩,
  ⟨"Iterable", "collections.abc",
    "Iterable object",
    [
      "__module__=v __slots__=v __iter__ __subclasshook__=c __class_getitem__=c __doc__=v",
      "__abstractmethods__=v _abc_impl=v"]⟩,
  ⟨"Sized", "collections.abc",
    "Sized object",
    [
      "__module__=v __slots__=v __len__ __subclasshook__=c __doc__=v __abstractmethods__=v",
      "_abc_impl=v"]⟩,
  ⟨"Collection", "collections.abc",
    "Collection Sized Iterable Container object",
    [
      "__module__=v __slots__=v __subclasshook__=c __doc__=v __abstractmethods__=v _abc_impl=v"]⟩,
  ⟨"Set", "collections.abc",
    "Set Collection Sized Iterable Container object",
    [
      "__module__=v __doc__=v __slots__=v __le__ __lt__ __gt__ __ge__ __eq__ _from_iterable=c",
      "__and__ __rand__ isdisjoint __or__ __ror__ __sub__ __rsub__ __xor__ __rxor__ _hash",
      "__hash__=v __abstractmethods__=v _abc_impl=v"]⟩,
  ⟨"ABC", "abc",
    "ABC object",
    ["__module__=v __doc__=v __slots__=v __abstractmethods__=v _abc_impl=v"]⟩,
  ⟨"AbstractAsyncContextManager", "contextlib",
    "AbstractAsyncContextManager ABC object",
    [
      "__module__=v __doc__=v __class_getitem__=c __aenter__ __aexit__ __subclasshook__=c",
      "__dict__=g __weakref__=g __abstractmethods__=v _abc_impl=v"]⟩,
  ⟨"AsyncIterable", "collections.abc",
    "AsyncIterable object",
    [
      "__module__=v __slots__=v __aiter__ __subclasshook__=c __class_getitem__=c __doc__=v",
      "__abstractmethods__=v _abc_impl=v"]⟩,
  ⟨"AsyncIterator", "collections.abc",
    "AsyncIterator AsyncIterable object",
    [
      "__module__=v __slots__=v __anext__ __aiter__ __subclasshook__=c __doc__=v",
      "__abstractmethods__=v _abc_impl=v"]⟩,
  ⟨"AsyncGenerator", "collections.abc",
    "AsyncGenerator AsyncIterator AsyncIterable object",
    [
      "__module__=v __slots__=v __anext__ asend athrow aclose __subclasshook__=c __doc__=v",
      "__abstractmethods__=v _abc_impl=v"]⟩,
  ⟨"Awaitable", "collections.abc",
    "Awaitable object",
    [
      "__module__=v __slots__=v __await__ __subclasshook__=c __class_getitem__=c __doc__=v",
      "__abstractmethods__=v _abc_impl=v"]⟩,
  ⟨"Reversible", "collections.abc",
    "Reversible Iterable object",
    [
      "__module__=v __slots__=v __reversed__ __subclasshook__=c __doc__=v __abstractmethods__=v",
      "_abc_impl=v"]⟩,
  ⟨"Sequence", "collections.abc",
    "Sequence Reversible Collection Sized Iterable Container object",
    [
      "__module__=v __doc__=v __slots__=v __getitem__ __iter__ __contains__ __reversed__ index",
      "count __abstractmethods__=v _abc_impl=v"]⟩,
  ⟨"ByteString", "collections.abc",
    "ByteString Sequence Reversible Collection Sized Iterable Container object",
    ["__module__=v __doc__=v __slots__=v __abstractmethods__=v _abc_impl=v"]⟩,
  ⟨"Callable", "collections.abc",
    "Callable object",
    [
      "__module__=v __slots__=v __call__ __subclasshook__=c __class_getitem__=c __doc__=v",
      "__abstractmethods__=v _abc_impl=v"]⟩,
  ⟨"Mapping", "collections.abc",
    "Mapping Collection Sized Iterable Container object",
    [
      "__module__=v __doc__=v __slots__=v __getitem__ get __contains__ keys items values __eq__",
      "__reversed__=v __hash__=v __abstractmethods__=v _abc_impl=v"]⟩,
  ⟨"MutableMapping", "collections.abc",
    "MutableMapping Mapping Collection Sized Iterable Container object",
    [
      "__module__=v __doc__=v __slots__=v __setitem__ __delitem__ _MutableMapping__marker=v pop",
      "popitem clear update setdefault __abstractmethods__=v _abc_impl=v"]⟩,
  ⟨"ChainMap", "collections",
    "ChainMap MutableMapping Mapping Collection Sized Iterable Container object",
    [
      "__module__=v __doc__=v __init__ __missing__ __getitem__ get __len__ __iter__",
      "__contains__ __bool__ __repr__ fromkeys=c copy __copy__ new_child parents=g __setitem__",
      "__delitem__ popitem pop clear __ior__ __or__ __ror__ __dict__=g __weakref__=g",
      "__abstractmethods__=v _abc_impl=v"]⟩,
  ⟨"AbstractContextManager", "contextlib",
    "AbstractContextManager ABC object",
    [
      "__module__=v __doc__=v __class_getitem__=c __enter__ __exit__ __subclasshook__=c",
      "__dict__=g __weakref__=g __abstractmethods__=v _abc_impl=v"]⟩,
  ⟨"Coroutine", "collections.abc",
    "Coroutine Awaitable object",
    [
      "__module__=v __slots__=v send throw close __subclasshook__=c __doc__=v",
      "__abstractmethods__=v _abc_impl=v"]⟩,
  ⟨"Counter", "collections",
    "Counter dict object",
    [
      "__module__=v __doc__=v __init__ __missing__ total most_common elements fromkeys=c update",
      "subtract copy __reduce__ __delitem__ __repr__ __eq__ __ne__ __le__ __lt__ __ge__ __gt__",
      "__add__ __sub__ __or__ __and__ __pos__ __neg__ _keep_positive __iadd__ __isub__ __ior__",
      "__iand__ __dict__=g __weakref__=g __hash__=v"]⟩,
  ⟨"defaultdict", "collections",
    "defaultdict dict object",
    [
      "__repr__ __getattribute__ __init__ __or__ __ror__ __missing__ copy __copy__ __reduce__",
      "__class_getitem__=c default_factory=g __doc__=v"]⟩,
  ⟨"deque", "collections",
    "deque object",
    [
      "__new__=s __repr__ __hash__=v __getattribute__ __lt__ __le__ __eq__ __ne__ __gt__ __ge__",
      "__iter__ __init__ __len__ __add__ __mul__ __rmul__ __getitem__ __setitem__ __delitem__",
      "__contains__ __iadd__ __imul__ append appendleft clear __copy__ copy count extend",
      "extendleft index insert pop popleft __reduce__ remove __reversed__ reverse rotate",
      "__sizeof__ __class_getitem__=c maxlen=g __doc__=v"]⟩,
  ⟨"Iterator", "collections.abc",
    "Iterator Iterable object",
    [
      "__module__=v __slots__=v __next__ __iter__ __subclasshook__=c __doc__=v",
      "__abstractmethods__=v _abc_impl=v"]⟩,
  ⟨"Generator", "collections.abc",
    "Generator Iterator Iterable object",
    [
      "__module__=v __slots__=v __next__ send throw close __subclasshook__=c __doc__=v",
      "__abstractmethods__=v _abc_impl=v"]⟩,
  ⟨"Hashable", "collections.abc",
    "Hashable object",
    [
      "__module__=v __slots__=v __hash__ __subclasshook__=c __doc__=v __abstractmethods__=v",
      "_abc_impl=v"]⟩,
  ⟨"MappingView", "collections.abc",
    "MappingView Sized object",
    [
      "__module__=v __slots__=v __init__ __len__ __repr__ __class_getitem__=c _mapping=g",
      "__doc__=v __abstractmethods__=v _abc_impl=v"]⟩,
  ⟨"ItemsView", "collections.abc",
    "ItemsView MappingView Set Collection Sized Iterable Container object",
    [
      "__module__=v __slots__=v _from_iterable=c __contains__ __iter__ __doc__=v",
      "__abstractmethods__=v _abc_impl=v"]⟩,
  ⟨"KeysView", "collections.abc",
    "KeysView MappingView Set Collection Sized Iterable Container object",
    [
      "__module__=v __slots__=v _from_iterable=c __contains__ __iter__ __doc__=v",
      "__abstractmethods__=v _abc_impl=v"]⟩,
  ⟨"Match", "re",
    "Match object",
    [
      "__repr__ __getitem__ group start end span groups groupdict expand __copy__ __deepcopy__",
      "__class_getitem__=c string=g re=g pos=g endpos=g lastindex=g lastgroup=g regs=g",
      "__doc__=v __module__=v"]⟩,
  ⟨"MutableSequence", "collections.abc",
    "MutableSequence Sequence Reversible Collection Sized Iterable Container object",
    [
      "__module__=v __doc__=v __slots__=v __setitem__ __delitem__ insert append clear reverse",
      "extend pop remove __iadd__ __abstractmethods__=v _abc_impl=v"]⟩,
  ⟨"MutableSet", "collections.abc",
    "MutableSet Set Collection Sized Iterable Container object",
    [
      "__module__=v __doc__=v __slots__=v add discard remove pop clear __ior__ __iand__",
      "__ixor__ __isub__ __abstractmethods__=v _abc_impl=v"]⟩,
  ⟨"OrderedDict", "collections",
    "OrderedDict dict object",
    [
      "__repr__ __lt__ __le__ __eq__ __ne__ __gt__ __ge__ __iter__ __init__ __or__ __ror__",
      "__ior__ __setitem__ __delitem__ fromkeys=c __sizeof__ __reduce__ setdefault pop popitem",
      "keys values items update clear copy __reversed__ move_to_end __dict__=g __doc__=v",
      "__hash__=v"]⟩,
  ⟨"Pattern", "re",
    "Pattern object",
    [
      "__repr__ __hash__ __lt__ __le__ __eq__ __ne__ __gt__ __ge__ match fullmatch search sub",
      "subn findall split finditer scanner __copy__ __deepcopy__ __class_getitem__=c pattern=g",
      "flags=g groups=g groupindex=g __doc__=v __module__=v"]⟩,
  ⟨"ValuesView", "collections.abc",
    "ValuesView MappingView Collection Sized Iterable Container object",
    [
      "__module__=v __slots__=v __contains__ __iter__ __doc__=v __abstractmethods__=v",
      "_abc_impl=v"]⟩,
  ⟨"Any", "typing",
    "Any object",
    ["__module__=v __doc__=v __new__=s __dict__=g __weakref__=g"]⟩,
  ⟨"Annotated", "typing",
    "Annotated object",
    [
      "__module__=v __doc__=v __slots__=v __new__=s __class_getitem__=c _class_getitem_inner",
      "__init_subclass__=c"]⟩,
  ⟨"_Final", "typing",
    "_Final object",
    ["__module__=v __doc__=v __slots__=v __init_subclass__=c __weakref__=g"]⟩,
  ⟨"ForwardRef", "typing",
    "ForwardRef _Final object",
    [
      "__module__=v __doc__=v __slots__=v __init__ _evaluate __eq__ __hash__ __or__ __ror__",
      "__repr__ __forward_arg__=g __forward_code__=g __forward_evaluated__=g",
      "__forward_is_argument__=g __forward_is_class__=g __forward_module__=g",
      "__forward_value__=g"]⟩,
  ⟨"Generic", "typing",
    "Generic object",
    [
      "__module__=v __doc__=v __slots__=v _is_protocol=v __class_getitem__=c",
      "__init_subclass__=c"]⟩,
  ⟨"IO", "typing",
    "IO Generic object",
    [
      "__module__=v __doc__=v __slots__=v mode=g name=g close closed=g fileno flush isatty read",
      "readable readline readlines seek seekable tell truncate writable write writelines",
      "__enter__ __exit__ __orig_bases__=v __parameters__=v"]⟩,
  ⟨"TextIO", "typing",
    "TextIO IO Generic object",
    [
      "__module__=v __doc__=v __slots__=v buffer=g encoding=g errors=g line_buffering=g",
      "newlines=g __enter__ __orig_bases__=v __parameters__=v"]⟩,
  ⟨"BinaryIO", "typing",
    "BinaryIO IO Generic object",
    [
      "__module__=v __doc__=v __slots__=v write __enter__ __orig_bases__=v __parameters__=v"]⟩,
  ⟨"NewType", "typing",
    "NewType object",
    [
      "__module__=v __doc__=v __call__=s __init__ __mro_entries__ __repr__ __reduce__ __or__",
      "__ror__ __dict__=g __weakref__=g"]⟩,
  ⟨"_PickleUsingNameMixin", "typing",
    "_PickleUsingNameMixin object",
    ["__module__=v __doc__=v __reduce__ __dict__=g __weakref__=g"]⟩,
  ⟨"_BoundVarianceMixin", "typing",
    "_BoundVarianceMixin object",
    [
      "__module__=v __doc__=v __init__ __or__ __ror__ __repr__ __dict__=g __weakref__=g"]⟩,
  ⟨"_Immutable", "typing",
    "_Immutable object",
    ["__module__=v __doc__=v __slots__=v __copy__ __deepcopy__"]⟩,
  ⟨"ParamSpec", "typing",
    "ParamSpec _Final _Immutable _BoundVarianceMixin _PickleUsingNameMixin object",
    [
      "__module__=v __doc__=v args=g kwargs=g __init__ __typing_subst__",
      "__typing_prepare_subst__ __dict__=g"]⟩,
  ⟨"Protocol", "typing",
    "Protocol Generic object",
    [
      "__module__=v __doc__=v __slots__=v _is_protocol=v _is_runtime_protocol=v",
      "__init_subclass__=c __parameters__=v __abstractmethods__=v _abc_impl=v"]⟩,
  ⟨"TypeVar", "typing",
    "TypeVar _Final _Immutable _BoundVarianceMixin _PickleUsingNameMixin object",
    ["__module__=v __doc__=v __init__ __typing_subst__ __dict__=g"]⟩,
  ⟨"TypeVarTuple", "typing",
    "TypeVarTuple _Final _Immutable _PickleUsingNameMixin object",
    [
      "__module__=v __doc__=v __init__ __iter__ __repr__ __typing_subst__",
      "__typing_prepare_subst__ __dict__=g"]⟩,
  ⟨"SupportsAbs", "typing",
    "SupportsAbs Protocol Generic object",
    [
      "__module__=v __doc__=v __slots__=v __abs__ __orig_bases__=v __parameters__=v",
      "_is_protocol=v __subclasshook__ __init__ __abstractmethods__=v _abc_impl=v",
      "_is_runtime_protocol=v"]⟩,
  ⟨"SupportsBytes", "typing",
    "SupportsBytes Protocol Generic object",
    [
      "__module__=v __doc__=v __slots__=v __bytes__ __parameters__=v _is_protocol=v",
      "__subclasshook__ __init__ __abstractmethods__=v _abc_impl=v _is_runtime_protocol=v"]⟩,
  ⟨"SupportsComplex", "typing",
    "SupportsComplex Protocol Generic object",
    [
      "__module__=v __doc__=v __slots__=v __complex__ __parameters__=v _is_protocol=v",
      "__subclasshook__ __init__ __abstractmethods__=v _abc_impl=v _is_runtime_protocol=v"]⟩,
  ⟨"SupportsFloat", "typing",
    "SupportsFloat Protocol Generic object",
    [
      "__module__=v __doc__=v __slots__=v __float__ __parameters__=v _is_protocol=v",
      "__subclasshook__ __init__ __abstractmethods__=v _abc_impl=v _is_runtime_protocol=v"]⟩,
  ⟨"SupportsIndex", "typing",
    "SupportsIndex Protocol Generic object",
    [
      "__module__=v __doc__=v __slots__=v __index__ __parameters__=v _is_protocol=v",
      "__subclasshook__ __init__ __abstractmethods__=v _abc_impl=v _is_runtime_protocol=v"]⟩,
  ⟨"SupportsInt", "typing",
    "SupportsInt Protocol Generic object",
    [
      "__module__=v __doc__=v __slots__=v __int__ __parameters__=v _is_protocol=v",
      "__subclasshook__ __init__ __abstractmethods__=v _abc_impl=v _is_runtime_protocol=v"]⟩,
  ⟨"SupportsRound", "typing",
    "SupportsRound Protocol Generic object",
    [
      "__module__=v __doc__=v __slots__=v __round__ __orig_bases__=v __parameters__=v",
      "_is_protocol=v __subclasshook__ __init__ __abstractmethods__=v _abc_impl=v",
      "_is_runtime_protocol=v"]⟩,
  ⟨"_NotIterable", "typing",
    "_NotIterable object",
    ["__module__=v __doc__=v __slots__=v __iter__=v"]⟩,
  ⟨"_BaseGenericAlias", "typing",
    "_BaseGenericAlias _Final object",
    [
      "__module__=v __doc__=v __init__ __call__ __mro_entries__ __getattr__ __setattr__",
      "__instancecheck__ __subclasscheck__ __dir__ __dict__=g"]⟩,
  ⟨"_SpecialForm", "typing",
    "_SpecialForm _Final _NotIterable object",
    [
      "__module__=v __slots__=v __init__ __getattr__ __mro_entries__ __repr__ __reduce__",
      "__call__ __or__ __ror__ __instancecheck__ __subclasscheck__ __getitem__ __doc__=g",
      "_getitem=g _name=g"]⟩,
  ⟨"_LiteralSpecialForm", "typing",
    "_LiteralSpecialForm _SpecialForm _Final _NotIterable object",
    ["__module__=v __getitem__ __dict__=g __doc__=v"]⟩,
  ⟨"_GenericAlias", "typing",
    "_GenericAlias _BaseGenericAlias _Final object",
    [
      "__module__=v __init__ __eq__ __hash__ __or__ __ror__ __getitem__ _determine_new_args",
      "_make_substitution copy_with __repr__ __reduce__ __mro_entries__ __iter__ __doc__=v"]⟩,
  ⟨"_SpecialGenericAlias", "typing",
    "_SpecialGenericAlias _NotIterable _BaseGenericAlias _Final object",
    [
      "__module__=v __init__ __getitem__ copy_with __repr__ __subclasscheck__ __reduce__ __or__",
      "__ror__ __dict__=g __weakref__=g __doc__=v"]⟩,
  ⟨"_UnionGenericAlias", "typing",
    "_UnionGenericAlias _NotIterable _GenericAlias _BaseGenericAlias _Final object",
    [
      "__module__=v copy_with __eq__ __hash__ __repr__ __instancecheck__ __subclasscheck__",
      "__reduce__ __dict__=g __weakref__=g __doc__=v"]⟩,
  ⟨"_LiteralGenericAlias", "typing",
    "_LiteralGenericAlias _GenericAlias _BaseGenericAlias _Final object",
    ["__module__=v __eq__ __hash__ __doc__=v"]⟩,
  ⟨"_CallableGenericAlias", "typing",
    "_CallableGenericAlias _NotIterable _GenericAlias _BaseGenericAlias _Final object",
    ["__module__=v __repr__ __reduce__ __dict__=g __weakref__=g __doc__=v"]⟩,
  ⟨"_ConcatenateGenericAlias", "typing",
    "_ConcatenateGenericAlias _GenericAlias _BaseGenericAlias _Final object",
    ["__module__=v copy_with __doc__=v"]⟩,
  ⟨"_UnpackGenericAlias", "typing",
    "_UnpackGenericAlias _GenericAlias _BaseGenericAlias _Final object",
    [
      "__module__=v __repr__ __getitem__ __typing_unpacked_tuple_args__=g",
      "__typing_is_unpacked_typevartuple__=g __doc__=v"]⟩,
  ⟨"_AnnotatedAlias", "typing",
    "_AnnotatedAlias _NotIterable _GenericAlias _BaseGenericAlias _Final object",
    [
      "__module__=v __doc__=v __init__ copy_with __repr__ __reduce__ __eq__ __hash__",
      "__getattr__ __dict__=g __weakref__=g"]⟩,
  ⟨"_AnyMeta", "typing",
    "_AnyMeta type object",
    ["__module__=v __instancecheck__ __repr__ __doc__=v"]⟩,
  ⟨"_CallableType", "typing",
    "_CallableType _SpecialGenericAlias _NotIterable _BaseGenericAlias _Final object",
    ["__module__=v copy_with __getitem__ __getitem_inner__ __doc__=v"]⟩,
  ⟨"_TupleType", "typing",
    "_TupleType _SpecialGenericAlias _NotIterable _BaseGenericAlias _Final object",
    ["__module__=v __getitem__ __doc__=v"]⟩,
  ⟨"ABCMeta", "abc",
    "ABCMeta type object",
    [
      "__module__=v __doc__=v __new__=s register __instancecheck__ __subclasscheck__",
      "_dump_registry _abc_registry_clear _abc_caches_clear"]⟩,
  ⟨"_ProtocolMeta", "typing",
    "_ProtocolMeta ABCMeta type object",
    ["__module__=v __instancecheck__ __doc__=v"]⟩]

end Annotation

end Longhand
