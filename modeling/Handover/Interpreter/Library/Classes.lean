/-
  Modules that make classes, and those that name kinds of values.

  The source of a module that comes with the interpreter is a list of lines.
-/

namespace Handover.Interpreter.Library

/-- The text of lines. -/
def lines (ls : List String) : String := String.join (ls.map fun l => l ++ "\n")

/-- Classes with methods that are still missing. -/
def abstractSource : String := lines
  ["class ABCMeta(type):",
   "    def __new__(mcls, name, bases, namespace, /, **kwargs):",
   "        cls = type.__new__(mcls, name, bases, namespace)",
   "        names = set(n for n, v in namespace.items() if getattr(v, '__isabstractmethod__', False))",
   "        for b in bases:",
   "            for n in getattr(b, '__abstractmethods__', ()):",
   "                if getattr(getattr(cls, n, None), '__isabstractmethod__', False):",
   "                    names.add(n)",
   "        cls.__abstractmethods__ = frozenset(names)",
   "        cls._registry = ()",
   "        return cls",
   "    def __call__(cls, *args, **kwargs):",
   "        names = sorted(cls.__abstractmethods__)",
   "        if names:",
   "            raise TypeError(\"Can't instantiate abstract class %s without an implementation for \"",
   "                            'abstract method%s %s' % (cls.__name__, 's' if len(names) > 1 else '',",
   "                            ', '.join(map(repr, names))))",
   "        return type.__call__(cls, *args, **kwargs)",
   "    def register(cls, subclass):",
   "        cls._registry = cls._registry + (subclass,)",
   "        return subclass",
   "    def __instancecheck__(cls, instance):",
   "        return cls.__subclasscheck__(type(instance))",
   "    def __subclasscheck__(cls, subclass):",
   "        if cls in subclass.__mro__:",
   "            return True",
   "        return any(issubclass(subclass, c) for c in cls._registry)",
   "class ABC(metaclass=ABCMeta):",
   "    pass",
   "def abstractmethod(funcobj):",
   "    funcobj.__isabstractmethod__ = True",
   "    return funcobj",
   "abstractproperty = property",
   "abstractclassmethod = classmethod",
   "abstractstaticmethod = staticmethod",
   "def get_cache_token():",
   "    return 0"]

/-- Classes with a fixed set of instances. -/
def enumerationsSource : String := lines
  ["class auto:",
   "    def __init__(self, value=None):",
   "        self.value = value",
   "class member:",
   "    def __init__(self, value):",
   "        self.value = value",
   "class nonmember:",
   "    def __init__(self, value):",
   "        self.value = value",
   "class EnumType(type):",
   "    def __new__(metacls, cls, bases, names, **kwds):",
   "        members = \x7b\x7d",
   "        for key in list(names):",
   "            value = names[key]",
   "            if isinstance(value, nonmember):",
   "                names[key] = value.value",
   "            elif isinstance(value, member):",
   "                members[key] = value.value",
   "                del names[key]",
   "            elif key.startswith('_') or hasattr(value, '__get__') or isinstance(value, type):",
   "                continue",
   "            else:",
   "                members[key] = value",
   "                del names[key]",
   "        new = type.__new__(metacls, cls, bases, names)",
   "        inherited = [b for b in new.__mro__[1:] if '_member_map_' in b.__dict__]",
   "        if inherited and inherited[0]._member_map_ and members:",
   "            raise TypeError('%r cannot extend %r' % (cls, inherited[0]))",
   "        new._member_map_ = \x7b\x7d",
   "        new._value2member_map_ = \x7b\x7d",
   "        new._member_names_ = []",
   "        last = []",
   "        for key, value in members.items():",
   "            if isinstance(value, auto):",
   "                value = new._generate_next_value_(key, 1, len(last), last)",
   "            args = value if isinstance(value, tuple) else (value,)",
   "            obj = None",
   "            for known in new._member_map_.values():",
   "                if known._value_ == value:",
   "                    obj = known",
   "            if obj is None:",
   "                obj = new.__new_member__(*args)",
   "                if '_value_' not in obj.__dict__:",
   "                    obj._value_ = value",
   "                obj._name_ = key",
   "                obj.__init__(*args)",
   "                new._member_names_.append(key)",
   "            last.append(value)",
   "            new._member_map_[key] = obj",
   "            type.__setattr__(new, key, obj)",
   "        return new",
   "    def __new_member__(cls, *args):",
   "        for b in cls.__mro__:",
   "            if '__new__' in b.__dict__ and b is not Enum and '_member_map_' in b.__dict__:",
   "                return b.__dict__['__new__'](cls, *args)",
   "        for b in cls.__mro__:",
   "            if b in (int, str, float, bytes, tuple):",
   "                return b.__new__(cls, *args)",
   "        return object.__new__(cls)",
   "    def __call__(cls, value, names=None, **kwds):",
   "        if names is not None:",
   "            if isinstance(names, str):",
   "                names = names.replace(',', ' ').split()",
   "            body = \x7b\x7d",
   "            for i, item in enumerate(names):",
   "                if isinstance(item, tuple):",
   "                    body[item[0]] = item[1]",
   "                else:",
   "                    body[item] = i + 1",
   "            return EnumType(value, (cls,), body)",
   "        if type(value) is cls:",
   "            return value",
   "        for m in cls._member_map_.values():",
   "            if m._value_ == value:",
   "                return m",
   "        made = cls._missing_(value)",
   "        if made is not None:",
   "            return made",
   "        raise ValueError('%r is not a valid %s' % (value, cls.__qualname__))",
   "    def __iter__(cls):",
   "        return (cls._member_map_[n] for n in cls._member_names_)",
   "    def __reversed__(cls):",
   "        return (cls._member_map_[n] for n in reversed(cls._member_names_))",
   "    def __len__(cls):",
   "        return len(cls._member_names_)",
   "    def __bool__(cls):",
   "        return True",
   "    def __contains__(cls, value):",
   "        if isinstance(value, cls):",
   "            return True",
   "        return any(m._value_ == value for m in cls._member_map_.values())",
   "    def __getitem__(cls, name):",
   "        return cls._member_map_[name]",
   "    @property",
   "    def __members__(cls):",
   "        return dict(cls._member_map_)",
   "    def __repr__(cls):",
   "        return '<enum %r>' % cls.__name__",
   "EnumMeta = EnumType",
   "class Enum(metaclass=EnumType):",
   "    def __init__(self, *args, **kwds):",
   "        pass",
   "    @staticmethod",
   "    def _generate_next_value_(name, start, count, last_values):",
   "        known = [v for v in last_values if isinstance(v, int)]",
   "        return max(known) + 1 if known else start",
   "    @classmethod",
   "    def _missing_(cls, value):",
   "        return None",
   "    @property",
   "    def name(self):",
   "        return self._name_",
   "    @property",
   "    def value(self):",
   "        return self._value_",
   "    def __repr__(self):",
   "        return '<%s.%s: %r>' % (type(self).__name__, self._name_, self._value_)",
   "    def __str__(self):",
   "        return '%s.%s' % (type(self).__name__, self._name_)",
   "    def __format__(self, spec):",
   "        return format(str(self), spec)",
   "    def __hash__(self):",
   "        return hash(self._name_)",
   "    def __eq__(self, other):",
   "        return self is other",
   "    def __reduce_ex__(self, proto):",
   "        return type(self), (self._value_,)",
   "class IntEnum(int, Enum):",
   "    def __str__(self):",
   "        return str(self._value_)",
   "    def __format__(self, spec):",
   "        return format(self._value_, spec)",
   "    def __eq__(self, other):",
   "        return self._value_ == other",
   "    def __hash__(self):",
   "        return hash(self._value_)",
   "class StrEnum(str, Enum):",
   "    @staticmethod",
   "    def _generate_next_value_(name, start, count, last_values):",
   "        return name.lower()",
   "    def __str__(self):",
   "        return self._value_",
   "    def __format__(self, spec):",
   "        return format(self._value_, spec)",
   "    def __eq__(self, other):",
   "        return self._value_ == other",
   "    def __hash__(self):",
   "        return hash(self._value_)",
   "class Flag(Enum):",
   "    @staticmethod",
   "    def _generate_next_value_(name, start, count, last_values):",
   "        known = [v for v in last_values if isinstance(v, int)]",
   "        return 1 << max(known).bit_length() if known else start",
   "    @classmethod",
   "    def _missing_(cls, value):",
   "        if not isinstance(value, int):",
   "            return None",
   "        made = cls.__new_member__(value)",
   "        made._value_ = value",
   "        names = [n for n in cls._member_names_",
   "                 if cls._member_map_[n]._value_ & value == cls._member_map_[n]._value_ != 0]",
   "        made._name_ = '|'.join(names) if names else None",
   "        return made",
   "    def __contains__(self, other):",
   "        return other._value_ & self._value_ == other._value_",
   "    def __or__(self, other):",
   "        return type(self)(self._value_ | getattr(other, '_value_', other))",
   "    def __and__(self, other):",
   "        return type(self)(self._value_ & getattr(other, '_value_', other))",
   "    def __xor__(self, other):",
   "        return type(self)(self._value_ ^ getattr(other, '_value_', other))",
   "    def __invert__(self):",
   "        every = 0",
   "        for m in type(self):",
   "            every |= m._value_",
   "        return type(self)(every & ~self._value_)",
   "    def __bool__(self):",
   "        return bool(self._value_)",
   "    def __eq__(self, other):",
   "        return type(self) is type(other) and self._value_ == other._value_",
   "    def __hash__(self):",
   "        return hash(self._value_)",
   "    def __repr__(self):",
   "        name = type(self).__name__",
   "        if self._name_ is None:",
   "            return '<%s: %r>' % (name, self._value_)",
   "        return '<%s.%s: %r>' % (name, self._name_, self._value_)",
   "class IntFlag(int, Flag):",
   "    def __eq__(self, other):",
   "        return self._value_ == getattr(other, '_value_', other)",
   "    def __hash__(self):",
   "        return hash(self._value_)",
   "def unique(enumeration):",
   "    twice = [n for n, m in enumeration.__members__.items() if m.name != n]",
   "    if twice:",
   "        raise ValueError('duplicate values found in %r' % enumeration)",
   "    return enumeration"]

/-- Classes made of their fields. -/
def recordsSource : String := lines
  ["class _MISSING_TYPE:",
   "    pass",
   "MISSING = _MISSING_TYPE()",
   "class _KW_ONLY_TYPE:",
   "    pass",
   "KW_ONLY = _KW_ONLY_TYPE()",
   "class FrozenInstanceError(AttributeError):",
   "    pass",
   "class Field:",
   "    def __init__(self, default, default_factory, init, repr, hash, compare, metadata, kw_only):",
   "        self.name = None",
   "        self.type = None",
   "        self.default = default",
   "        self.default_factory = default_factory",
   "        self.init = init",
   "        self.repr = repr",
   "        self.hash = hash",
   "        self.compare = compare",
   "        self.metadata = metadata or \x7b\x7d",
   "        self.kw_only = kw_only",
   "def field(*, default=MISSING, default_factory=MISSING, init=True, repr=True, hash=None,",
   "          compare=True, metadata=None, kw_only=False):",
   "    return Field(default, default_factory, init, repr, hash, compare, metadata, kw_only)",
   "def fields(class_or_instance):",
   "    return tuple(class_or_instance.__dataclass_fields__.values())",
   "def is_dataclass(obj):",
   "    return hasattr(obj, '__dataclass_fields__')",
   "def _process(cls, init, repr_, eq, order, frozen, kw_only):",
   "    all_fields = \x7b\x7d",
   "    for b in reversed(cls.__mro__[1:]):",
   "        all_fields.update(getattr(b, '__dict__', \x7b\x7d).get('__dataclass_fields__', \x7b\x7d))",
   "    only = kw_only",
   "    for name, kind in cls.__dict__.get('__annotations__', \x7b\x7d).items():",
   "        if kind is KW_ONLY:",
   "            only = True",
   "            continue",
   "        if str(kind).startswith('typing.ClassVar'):",
   "            continue",
   "        value = cls.__dict__.get(name, MISSING)",
   "        if isinstance(value, Field):",
   "            f = value",
   "            if f.default is MISSING:",
   "                if name in cls.__dict__:",
   "                    delattr(cls, name)",
   "            else:",
   "                setattr(cls, name, f.default)",
   "        else:",
   "            if isinstance(value, (list, dict, set)):",
   "                raise ValueError('mutable default %s for field %s is not allowed: use default_factory'",
   "                                 % (type(value), name))",
   "            f = field(default=value)",
   "        f.name = name",
   "        f.type = kind",
   "        f.kw_only = f.kw_only or only",
   "        all_fields[name] = f",
   "    cls.__dataclass_fields__ = all_fields",
   "    every = list(all_fields.values())",
   "    def __init__(self, *args, **kwargs):",
   "        byplace = [f for f in every if f.init and not f.kw_only]",
   "        if len(args) > len(byplace):",
   "            raise TypeError('%s.__init__() takes %d positional arguments but %d were given'",
   "                            % (cls.__name__, len(byplace) + 1, len(args) + 1))",
   "        given = \x7bf.name: a for f, a in zip(byplace, args)\x7d",
   "        for k, v in kwargs.items():",
   "            if k in given:",
   "                raise TypeError('%s.__init__() got multiple values for argument %r' % (cls.__name__, k))",
   "            if k not in all_fields or not all_fields[k].init:",
   "                raise TypeError('%s.__init__() got an unexpected keyword argument %r'",
   "                                % (cls.__name__, k))",
   "            given[k] = v",
   "        missing = [repr(f.name) for f in every if f.init and f.name not in given",
   "                   and f.default is MISSING and f.default_factory is MISSING]",
   "        if missing:",
   "            names = ' and '.join(missing) if len(missing) < 3 else ', '.join(missing[:-1]) + ', and ' + missing[-1]",
   "            raise TypeError('%s.__init__() missing %d required positional argument%s: %s'",
   "                            % (cls.__name__, len(missing), 's' if len(missing) > 1 else '', names))",
   "        for f in every:",
   "            if f.name in given:",
   "                object.__setattr__(self, f.name, given[f.name])",
   "            elif f.default_factory is not MISSING:",
   "                object.__setattr__(self, f.name, f.default_factory())",
   "            elif f.default is not MISSING:",
   "                object.__setattr__(self, f.name, f.default)",
   "        if hasattr(self, '__post_init__'):",
   "            self.__post_init__()",
   "    def __repr__(self):",
   "        parts = [f.name + '=' + repr(getattr(self, f.name)) for f in every if f.repr]",
   "        return type(self).__qualname__ + '(' + ', '.join(parts) + ')'",
   "    def _key(self):",
   "        return tuple(getattr(self, f.name) for f in every if f.compare)",
   "    def _comparison(op):",
   "        def compare(self, other):",
   "            if type(other) is not type(self):",
   "                return NotImplemented",
   "            return op(_key(self), _key(other))",
   "        return compare",
   "    own = cls.__dict__",
   "    if init and '__init__' not in own:",
   "        cls.__init__ = __init__",
   "    if repr_ and '__repr__' not in own:",
   "        cls.__repr__ = __repr__",
   "    if eq and '__eq__' not in own:",
   "        cls.__eq__ = _comparison(lambda a, b: a == b)",
   "    if order:",
   "        cls.__lt__ = _comparison(lambda a, b: a < b)",
   "        cls.__le__ = _comparison(lambda a, b: a <= b)",
   "        cls.__gt__ = _comparison(lambda a, b: a > b)",
   "        cls.__ge__ = _comparison(lambda a, b: a >= b)",
   "    if frozen:",
   "        def __setattr__(self, name, value):",
   "            raise FrozenInstanceError('cannot assign to field ' + repr(name))",
   "        def __delattr__(self, name):",
   "            raise FrozenInstanceError('cannot delete field ' + repr(name))",
   "        cls.__setattr__ = __setattr__",
   "        cls.__delattr__ = __delattr__",
   "        if eq:",
   "            cls.__hash__ = lambda self: hash(_key(self))",
   "    cls.__match_args__ = tuple(f.name for f in every if f.init and not f.kw_only)",
   "    return cls",
   "def dataclass(cls=None, /, *, init=True, repr=True, eq=True, order=False, unsafe_hash=False,",
   "              frozen=False, match_args=True, kw_only=False, slots=False, weakref_slot=False):",
   "    def wrap(cls):",
   "        return _process(cls, init, repr, eq, order, frozen, kw_only)",
   "    return wrap if cls is None else wrap(cls)",
   "def asdict(obj, *, dict_factory=dict):",
   "    if is_dataclass(obj):",
   "        return dict_factory([(f.name, asdict(getattr(obj, f.name))) for f in fields(obj)])",
   "    if isinstance(obj, (list, tuple)):",
   "        return type(obj)([asdict(v) for v in obj])",
   "    if isinstance(obj, dict):",
   "        return \x7basdict(k): asdict(v) for k, v in obj.items()\x7d",
   "    return obj",
   "def astuple(obj):",
   "    return tuple(getattr(obj, f.name) for f in fields(obj))",
   "def replace(obj, /, **changes):",
   "    for f in fields(obj):",
   "        if f.init and f.name not in changes:",
   "            changes[f.name] = getattr(obj, f.name)",
   "    return type(obj)(**changes)"]

/-- The classes of what the language itself makes. -/
def kindsSource : String := lines
  ["import sys",
   "class SimpleNamespace:",
   "    def __init__(self, mapping=(), /, **kwargs):",
   "        self.__dict__.update(mapping)",
   "        self.__dict__.update(kwargs)",
   "    def __repr__(self):",
   "        return 'namespace(' + ', '.join('%s=%r' % kv for kv in self.__dict__.items()) + ')'",
   "    def __eq__(self, other):",
   "        if isinstance(other, SimpleNamespace):",
   "            return self.__dict__ == other.__dict__",
   "        return NotImplemented",
   "def _f():",
   "    yield 1",
   "class _C:",
   "    def _m(self):",
   "        pass",
   "FunctionType = LambdaType = type(_f)",
   "ModuleType = type(sys)",
   "GeneratorType = type(_f())",
   "MethodType = type(_C()._m)",
   "BuiltinFunctionType = BuiltinMethodType = type(len)",
   "NoneType = type(None)",
   "EllipsisType = type(...)",
   "NotImplementedType = type(NotImplemented)",
   "MappingProxyType = dict",
   "DynamicClassAttribute = property",
   "class GenericAlias:",
   "    pass",
   "class UnionType:",
   "    pass",
   "class TracebackType:",
   "    pass",
   "class FrameType:",
   "    pass",
   "class CodeType:",
   "    pass",
   "def new_class(name, bases=(), kwds=None, exec_body=None):",
   "    ns = \x7b\x7d",
   "    if exec_body is not None:",
   "        exec_body(ns)",
   "    return type(name, tuple(bases), ns)",
   "def coroutine(func):",
   "    return func"]

/-- What annotations are made of. -/
def annotationsSource : String := lines
  ["from _collections_abc import *",
   "import collections",
   "class _Form:",
   "    def __init__(self, name, args=()):",
   "        self._name = name",
   "        self.__args__ = args",
   "    def __getitem__(self, item):",
   "        return _Form(self._name, item if isinstance(item, tuple) else (item,))",
   "    def __call__(self, *args, **kwargs):",
   "        return None",
   "    def __or__(self, other):",
   "        return _Form('Union', (self, other))",
   "    def __ror__(self, other):",
   "        return _Form('Union', (other, self))",
   "    def __repr__(self):",
   "        if not self.__args__:",
   "            return 'typing.' + self._name",
   "        shown = ', '.join(a.__name__ if isinstance(a, type) else repr(a) for a in self.__args__)",
   "        return 'typing.' + self._name + '[' + shown + ']'",
   "    def __hash__(self):",
   "        return hash(self._name)",
   "    def __eq__(self, other):",
   "        return isinstance(other, _Form) and repr(self) == repr(other)",
   "Any = _Form('Any')",
   "Optional = _Form('Optional')",
   "Union = _Form('Union')",
   "ClassVar = _Form('ClassVar')",
   "Final = _Form('Final')",
   "Literal = _Form('Literal')",
   "Annotated = _Form('Annotated')",
   "NoReturn = _Form('NoReturn')",
   "Never = _Form('Never')",
   "Self = _Form('Self')",
   "LiteralString = _Form('LiteralString')",
   "TypeAlias = _Form('TypeAlias')",
   "Concatenate = _Form('Concatenate')",
   "TypeGuard = _Form('TypeGuard')",
   "Required = _Form('Required')",
   "NotRequired = _Form('NotRequired')",
   "Unpack = _Form('Unpack')",
   "Callable = _Form('Callable')",
   "Type = _Form('Type')",
   "List = _Form('List')",
   "Dict = _Form('Dict')",
   "Set = _Form('Set')",
   "FrozenSet = _Form('FrozenSet')",
   "Tuple = _Form('Tuple')",
   "DefaultDict = _Form('DefaultDict')",
   "OrderedDict = _Form('OrderedDict')",
   "Deque = _Form('Deque')",
   "Counter = _Form('Counter')",
   "ChainMap = _Form('ChainMap')",
   "IO = _Form('IO')",
   "TextIO = _Form('TextIO')",
   "BinaryIO = _Form('BinaryIO')",
   "Pattern = _Form('Pattern')",
   "Match = _Form('Match')",
   "AnyStr = _Form('AnyStr')",
   "Text = str",
   "TYPE_CHECKING = False",
   "class TypeVar:",
   "    def __init__(self, name, *constraints, bound=None, covariant=False, contravariant=False,",
   "                 infer_variance=False):",
   "        self.__name__ = name",
   "    def __repr__(self):",
   "        return '~' + self.__name__",
   "class ParamSpec(TypeVar):",
   "    args = kwargs = None",
   "class TypeVarTuple(TypeVar):",
   "    pass",
   "class Generic:",
   "    def __class_getitem__(cls, item):",
   "        return cls",
   "class Protocol(Generic):",
   "    pass",
   "class SupportsInt(Protocol):",
   "    pass",
   "class SupportsFloat(Protocol):",
   "    pass",
   "class NamedTupleMeta(type):",
   "    def __new__(cls, typename, bases, ns):",
   "        kinds = ns.get('__annotations__', \x7b\x7d)",
   "        defaults = [ns.pop(n) for n in list(kinds) if n in ns]",
   "        made = collections.namedtuple(typename, list(kinds), defaults=defaults)",
   "        for key, value in ns.items():",
   "            if key not in ('__module__', '__qualname__', '__annotations__'):",
   "                setattr(made, key, value)",
   "        made.__annotations__ = kinds",
   "        return made",
   "class _NamedTuple(type):",
   "    def __call__(cls, typename, fields=(), /, **kwargs):",
   "        return collections.namedtuple(typename, [n for n, _ in fields] + list(kwargs))",
   "    def __new__(cls, name, bases, ns):",
   "        if not bases:",
   "            return type.__new__(cls, name, bases, ns)",
   "        return NamedTupleMeta.__new__(NamedTupleMeta, name, bases, ns)",
   "class NamedTuple(metaclass=_NamedTuple):",
   "    pass",
   "class _TypedDict(type):",
   "    def __new__(cls, name, bases, ns, total=True):",
   "        if not bases:",
   "            return type.__new__(cls, name, bases, ns)",
   "        return type(name, (dict,), dict(ns))",
   "    def __call__(cls, *args, **kwargs):",
   "        return dict(*args, **kwargs)",
   "class TypedDict(metaclass=_TypedDict):",
   "    pass",
   "def NewType(name, tp):",
   "    return lambda x: x",
   "def cast(typ, val):",
   "    return val",
   "def overload(func):",
   "    return func",
   "def final(f):",
   "    return f",
   "def override(f):",
   "    return f",
   "def no_type_check(arg):",
   "    return arg",
   "def runtime_checkable(cls):",
   "    return cls",
   "def get_type_hints(obj, *args, **kwargs):",
   "    return dict(getattr(obj, '__annotations__', \x7b\x7d))",
   "def get_origin(tp):",
   "    return getattr(tp, '__origin__', None)",
   "def get_args(tp):",
   "    return getattr(tp, '__args__', ())",
   "def assert_never(arg):",
   "    raise AssertionError('Expected code to be unreachable')",
   "def reveal_type(obj):",
   "    return obj"]

end Handover.Interpreter.Library
