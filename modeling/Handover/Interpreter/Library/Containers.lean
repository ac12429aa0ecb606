/-
  Modules on containers, and the classes that tell what a container can do.
-/
import Handover.Interpreter.Library.Classes

namespace Handover.Interpreter.Library

/-- What a container can do. -/
def abilitiesSource : String := lines
  ["__all__ = ['Awaitable', 'Hashable', 'Iterable', 'Iterator', 'Generator', 'Reversible', 'Sized',",
   "           'Container', 'Callable', 'Collection', 'Set', 'MutableSet', 'Mapping', 'MutableMapping',",
   "           'MappingView', 'KeysView', 'ItemsView', 'ValuesView', 'Sequence', 'MutableSequence',",
   "           'ByteString', 'Buffer']",
   "class _Meta(type):",
   "    def __instancecheck__(cls, instance):",
   "        return cls.__subclasscheck__(type(instance))",
   "    def __subclasscheck__(cls, sub):",
   "        if cls in sub.__mro__:",
   "            return True",
   "        for known in cls.__dict__.get('_registry', ()):",
   "            if issubclass(sub, known):",
   "                return True",
   "        wanted = cls.__dict__.get('_needs')",
   "        if wanted:",
   "            return all(any(name in dir(c) for c in sub.__mro__) for name in wanted)",
   "        return False",
   "    def register(cls, sub):",
   "        cls._registry = cls.__dict__.get('_registry', ()) + (sub,)",
   "        return sub",
   "class Awaitable(metaclass=_Meta):",
   "    _needs = ('__await__',)",
   "class Hashable(metaclass=_Meta):",
   "    _needs = ('__hash__',)",
   "class Iterable(metaclass=_Meta):",
   "    _needs = ('__iter__',)",
   "class Iterator(Iterable):",
   "    _needs = ('__iter__', '__next__')",
   "    def __iter__(self):",
   "        return self",
   "class Generator(Iterator):",
   "    _needs = ('__iter__', '__next__', 'send', 'throw', 'close')",
   "class Reversible(Iterable):",
   "    _needs = ('__reversed__', '__iter__')",
   "class Sized(metaclass=_Meta):",
   "    _needs = ('__len__',)",
   "class Container(metaclass=_Meta):",
   "    _needs = ('__contains__',)",
   "class Callable(metaclass=_Meta):",
   "    _needs = ('__call__',)",
   "class Buffer(metaclass=_Meta):",
   "    _registry = (bytes, bytearray)",
   "class Collection(Sized, Iterable, Container):",
   "    _needs = ('__len__', '__iter__', '__contains__')",
   "class Set(Collection):",
   "    _needs = None",
   "    _registry = (set, frozenset)",
   "class MutableSet(Set):",
   "    _needs = None",
   "    _registry = (set,)",
   "class Mapping(Collection):",
   "    _needs = None",
   "    _registry = (dict,)",
   "    def get(self, key, default=None):",
   "        try:",
   "            return self[key]",
   "        except KeyError:",
   "            return default",
   "    def __contains__(self, key):",
   "        try:",
   "            self[key]",
   "        except KeyError:",
   "            return False",
   "        return True",
   "    def keys(self):",
   "        return list(iter(self))",
   "    def items(self):",
   "        return [(k, self[k]) for k in self]",
   "    def values(self):",
   "        return [self[k] for k in self]",
   "    def __eq__(self, other):",
   "        if not isinstance(other, Mapping):",
   "            return NotImplemented",
   "        return dict(self.items()) == dict(other.items())",
   "_marker = object()",
   "class MutableMapping(Mapping):",
   "    _needs = None",
   "    _registry = (dict,)",
   "    def pop(self, key, default=_marker):",
   "        try:",
   "            value = self[key]",
   "        except KeyError:",
   "            if default is _marker:",
   "                raise",
   "            return default",
   "        del self[key]",
   "        return value",
   "    def popitem(self):",
   "        for key in self:",
   "            value = self[key]",
   "            del self[key]",
   "            return key, value",
   "        raise KeyError",
   "    def clear(self):",
   "        for key in list(self):",
   "            del self[key]",
   "    def update(self, other=(), /, **kwds):",
   "        if hasattr(other, 'keys'):",
   "            for key in other.keys():",
   "                self[key] = other[key]",
   "        else:",
   "            for key, value in other:",
   "                self[key] = value",
   "        for key, value in kwds.items():",
   "            self[key] = value",
   "    def setdefault(self, key, default=None):",
   "        try:",
   "            return self[key]",
   "        except KeyError:",
   "            self[key] = default",
   "        return default",
   "class MappingView(Sized):",
   "    _needs = None",
   "class KeysView(MappingView, Set):",
   "    _needs = None",
   "    _registry = (type(\x7b\x7d.keys()),)",
   "class ItemsView(MappingView, Set):",
   "    _needs = None",
   "    _registry = (type(\x7b\x7d.items()),)",
   "class ValuesView(MappingView, Collection):",
   "    _needs = None",
   "    _registry = (type(\x7b\x7d.values()),)",
   "class Sequence(Reversible, Collection):",
   "    _needs = None",
   "    _registry = (tuple, str, range, bytes, list, bytearray)",
   "    def __iter__(self):",
   "        i = 0",
   "        try:",
   "            while True:",
   "                yield self[i]",
   "                i += 1",
   "        except IndexError:",
   "            return",
   "    def __contains__(self, value):",
   "        for v in self:",
   "            if v is value or v == value:",
   "                return True",
   "        return False",
   "    def __reversed__(self):",
   "        for i in reversed(range(len(self))):",
   "            yield self[i]",
   "    def index(self, value):",
   "        for i, v in enumerate(self):",
   "            if v is value or v == value:",
   "                return i",
   "        raise ValueError",
   "    def count(self, value):",
   "        return sum(1 for v in self if v is value or v == value)",
   "class MutableSequence(Sequence):",
   "    _needs = None",
   "    _registry = (list, bytearray)",
   "    def append(self, value):",
   "        self.insert(len(self), value)",
   "    def clear(self):",
   "        while len(self):",
   "            self.pop()",
   "    def extend(self, values):",
   "        for v in list(values):",
   "            self.append(v)",
   "    def pop(self, index=-1):",
   "        v = self[index]",
   "        del self[index]",
   "        return v",
   "    def remove(self, value):",
   "        del self[self.index(value)]",
   "    def reverse(self):",
   "        items = list(self)",
   "        items.reverse()",
   "        for i, v in enumerate(items):",
   "            self[i] = v",
   "    def __iadd__(self, values):",
   "        self.extend(values)",
   "        return self",
   "class ByteString(Sequence):",
   "    _needs = None",
   "    _registry = (bytes, bytearray)"]

/-- Containers of several kinds. -/
def containersSource : String := lines
  ["from _collections_abc import *",
   "import _collections_abc as abc",
   "import sys",
   "sys.modules['collections.abc'] = abc",
   "class OrderedDict(dict):",
   "    def move_to_end(self, key, last=True):",
   "        value = self.pop(key)",
   "        if last:",
   "            self[key] = value",
   "        else:",
   "            rest = list(self.items())",
   "            self.clear()",
   "            self[key] = value",
   "            self.update(rest)",
   "    def popitem(self, last=True):",
   "        if not self:",
   "            raise KeyError('dictionary is empty')",
   "        key = list(self)[-1 if last else 0]",
   "        return key, self.pop(key)",
   "    def copy(self):",
   "        return type(self)(self)",
   "    def __repr__(self):",
   "        name = type(self).__name__",
   "        return name + '(' + (dict.__repr__(dict(self)) if self else '') + ')'",
   "class defaultdict(dict):",
   "    def __init__(self, default_factory=None, /, *args, **kwargs):",
   "        self.default_factory = default_factory",
   "        super().__init__(*args, **kwargs)",
   "    def __missing__(self, key):",
   "        if self.default_factory is None:",
   "            raise KeyError(key)",
   "        self[key] = value = self.default_factory()",
   "        return value",
   "    def copy(self):",
   "        return type(self)(self.default_factory, self)",
   "    def __repr__(self):",
   "        return 'defaultdict(%r, %s)' % (self.default_factory, dict.__repr__(dict(self)))",
   "class Counter(dict):",
   "    def __init__(self, iterable=None, /, **kwds):",
   "        super().__init__()",
   "        self.update(iterable, **kwds)",
   "    def __missing__(self, key):",
   "        return 0",
   "    def most_common(self, n=None):",
   "        items = sorted(self.items(), key=lambda kv: kv[1], reverse=True)",
   "        return items if n is None else items[:n]",
   "    def elements(self):",
   "        return (k for k, n in self.items() for _ in range(n))",
   "    def total(self):",
   "        return sum(self.values())",
   "    def update(self, iterable=None, /, **kwds):",
   "        if iterable is not None:",
   "            if hasattr(iterable, 'items'):",
   "                for k, n in iterable.items():",
   "                    self[k] = self.get(k, 0) + n",
   "            else:",
   "                for k in iterable:",
   "                    self[k] = self.get(k, 0) + 1",
   "        for k, n in kwds.items():",
   "            self[k] = self.get(k, 0) + n",
   "    def subtract(self, iterable=None, /, **kwds):",
   "        for k, n in Counter(iterable, **kwds).items():",
   "            self[k] = self.get(k, 0) - n",
   "    def copy(self):",
   "        return type(self)(self)",
   "    def __add__(self, other):",
   "        result = Counter(self)",
   "        result.update(other)",
   "        return Counter(\x7bk: n for k, n in result.items() if n > 0\x7d)",
   "    def __sub__(self, other):",
   "        keys = list(self) + [k for k in other if k not in self]",
   "        return Counter(\x7bk: self[k] - other[k] for k in keys if self[k] > other[k]\x7d)",
   "    def __and__(self, other):",
   "        return Counter(\x7bk: min(n, other[k]) for k, n in self.items() if min(n, other[k]) > 0\x7d)",
   "    def __or__(self, other):",
   "        keys = list(self) + [k for k in other if k not in self]",
   "        return Counter(\x7bk: max(self[k], other[k]) for k in keys if max(self[k], other[k]) > 0\x7d)",
   "    def __repr__(self):",
   "        if not self:",
   "            return 'Counter()'",
   "        return 'Counter(\x7b' + ', '.join('%r: %r' % kn for kn in self.most_common()) + '\x7d)'",
   "class deque:",
   "    def __init__(self, iterable=(), maxlen=None):",
   "        self._items = list(iterable)",
   "        self.maxlen = maxlen",
   "        self._trim(True)",
   "    def _trim(self, left):",
   "        if self.maxlen is not None:",
   "            while len(self._items) > self.maxlen:",
   "                self._items.pop(0 if left else -1)",
   "    def append(self, x):",
   "        self._items.append(x)",
   "        self._trim(True)",
   "    def appendleft(self, x):",
   "        self._items.insert(0, x)",
   "        self._trim(False)",
   "    def extend(self, iterable):",
   "        for x in iterable:",
   "            self.append(x)",
   "    def extendleft(self, iterable):",
   "        for x in iterable:",
   "            self.appendleft(x)",
   "    def pop(self):",
   "        if not self._items:",
   "            raise IndexError('pop from an empty deque')",
   "        return self._items.pop()",
   "    def popleft(self):",
   "        if not self._items:",
   "            raise IndexError('pop from an empty deque')",
   "        return self._items.pop(0)",
   "    def clear(self):",
   "        self._items.clear()",
   "    def copy(self):",
   "        return deque(self._items, self.maxlen)",
   "    def count(self, x):",
   "        return self._items.count(x)",
   "    def index(self, x, *args):",
   "        return self._items.index(x, *args)",
   "    def insert(self, i, x):",
   "        self._items.insert(i, x)",
   "    def remove(self, x):",
   "        self._items.remove(x)",
   "    def reverse(self):",
   "        self._items.reverse()",
   "    def rotate(self, n=1):",
   "        if self._items:",
   "            n %= len(self._items)",
   "            self._items = self._items[len(self._items) - n:] + self._items[:len(self._items) - n]",
   "    def __len__(self):",
   "        return len(self._items)",
   "    def __iter__(self):",
   "        return iter(self._items)",
   "    def __reversed__(self):",
   "        return reversed(self._items)",
   "    def __contains__(self, x):",
   "        return x in self._items",
   "    def __getitem__(self, i):",
   "        return self._items[i]",
   "    def __setitem__(self, i, x):",
   "        self._items[i] = x",
   "    def __delitem__(self, i):",
   "        del self._items[i]",
   "    def __eq__(self, other):",
   "        return isinstance(other, deque) and self._items == other._items",
   "    def __add__(self, other):",
   "        return deque(self._items + list(other), self.maxlen)",
   "    def __repr__(self):",
   "        if self.maxlen is None:",
   "            return 'deque(%r)' % self._items",
   "        return 'deque(%r, maxlen=%r)' % (self._items, self.maxlen)",
   "def _field(i):",
   "    return property(lambda self: self[i])",
   "def namedtuple(typename, field_names, *, rename=False, defaults=None, module=None):",
   "    if isinstance(field_names, str):",
   "        field_names = field_names.replace(',', ' ').split()",
   "    fields = tuple(map(str, field_names))",
   "    if rename:",
   "        fields = tuple('_%d' % i if not f.isidentifier() or f.startswith('_') else f",
   "                       for i, f in enumerate(fields))",
   "    for f in fields:",
   "        if not f.isidentifier():",
   "            raise ValueError('Type names and field names must be valid identifiers: %r' % f)",
   "    given = \x7b\x7d if defaults is None else dict(zip(fields[len(fields) - len(tuple(defaults)):], defaults))",
   "    def __new__(cls, *args, **kwargs):",
   "        values = list(args)",
   "        if len(values) > len(fields):",
   "            raise TypeError('__new__() takes %d positional arguments but %d were given'",
   "                            % (len(fields) + 1, len(values) + 1))",
   "        missing = []",
   "        for f in fields[len(values):]:",
   "            if f in kwargs:",
   "                values.append(kwargs.pop(f))",
   "            elif f in given:",
   "                values.append(given[f])",
   "            else:",
   "                missing.append(repr(f))",
   "        if missing:",
   "            names = ' and '.join(missing) if len(missing) < 3 else ', '.join(missing[:-1]) + ', and ' + missing[-1]",
   "            raise TypeError('%s.__new__() missing %d required positional argument%s: %s'",
   "                            % (typename, len(missing), 's' if len(missing) > 1 else '', names))",
   "        if kwargs:",
   "            raise TypeError('%s.__new__() got an unexpected keyword argument %r'",
   "                            % (typename, list(kwargs)[0]))",
   "        return tuple.__new__(cls, values)",
   "    def __repr__(self):",
   "        parts = ['%s=%r' % pair for pair in zip(fields, tuple(self))]",
   "        return type(self).__name__ + '(' + ', '.join(parts) + ')'",
   "    def _replace(self, **kwds):",
   "        values = [kwds.pop(f, v) for f, v in zip(fields, tuple(self))]",
   "        if kwds:",
   "            raise ValueError('Got unexpected field names: %r' % list(kwds))",
   "        return type(self)(*values)",
   "    body = \x7b'__new__': __new__, '__repr__': __repr__, '_replace': _replace, '_fields': fields,",
   "            '_field_defaults': given, '__match_args__': fields, '__slots__': (),",
   "            '_make': classmethod(lambda cls, iterable: cls(*iterable)),",
   "            '_asdict': lambda self: dict(zip(fields, tuple(self)))\x7d",
   "    for i, f in enumerate(fields):",
   "        body[f] = _field(i)",
   "    return type(typename, (tuple,), body)",
   "class ChainMap(MutableMapping):",
   "    def __init__(self, *maps):",
   "        self.maps = list(maps) or [\x7b\x7d]",
   "    def __getitem__(self, key):",
   "        for m in self.maps:",
   "            if key in m:",
   "                return m[key]",
   "        raise KeyError(key)",
   "    def __setitem__(self, key, value):",
   "        self.maps[0][key] = value",
   "    def __delitem__(self, key):",
   "        del self.maps[0][key]",
   "    def __iter__(self):",
   "        d = \x7b\x7d",
   "        for m in reversed(self.maps):",
   "            d.update(m)",
   "        return iter(d)",
   "    def __len__(self):",
   "        return len(list(iter(self)))",
   "    def new_child(self, m=None):",
   "        return type(self)(\x7b\x7d if m is None else m, *self.maps)",
   "    @property",
   "    def parents(self):",
   "        return type(self)(*self.maps[1:])",
   "    def __repr__(self):",
   "        return 'ChainMap(' + ', '.join(map(repr, self.maps)) + ')'",
   "class UserDict(MutableMapping):",
   "    def __init__(self, dict=None, /, **kwargs):",
   "        self.data = \x7b\x7d",
   "        if dict is not None:",
   "            self.update(dict)",
   "        self.update(kwargs)",
   "    def __len__(self):",
   "        return len(self.data)",
   "    def __getitem__(self, key):",
   "        if key in self.data:",
   "            return self.data[key]",
   "        if hasattr(type(self), '__missing__'):",
   "            return type(self).__missing__(self, key)",
   "        raise KeyError(key)",
   "    def __setitem__(self, key, item):",
   "        self.data[key] = item",
   "    def __delitem__(self, key):",
   "        del self.data[key]",
   "    def __iter__(self):",
   "        return iter(self.data)",
   "    def __contains__(self, key):",
   "        return key in self.data",
   "    def __repr__(self):",
   "        return repr(self.data)",
   "class UserList(MutableSequence):",
   "    def __init__(self, initlist=None):",
   "        self.data = list(initlist) if initlist is not None else []",
   "    def __len__(self):",
   "        return len(self.data)",
   "    def __getitem__(self, i):",
   "        return self.data[i]",
   "    def __setitem__(self, i, item):",
   "        self.data[i] = item",
   "    def __delitem__(self, i):",
   "        del self.data[i]",
   "    def insert(self, i, item):",
   "        self.data.insert(i, item)",
   "    def __repr__(self):",
   "        return repr(self.data)",
   "class UserString:",
   "    def __init__(self, seq):",
   "        self.data = str(seq)",
   "    def __str__(self):",
   "        return self.data",
   "    def __repr__(self):",
   "        return repr(self.data)",
   "    def __len__(self):",
   "        return len(self.data)",
   "    def __getattr__(self, name):",
   "        return getattr(self.data, name)"]

end Handover.Interpreter.Library
