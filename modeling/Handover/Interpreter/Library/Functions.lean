/-
  Modules on functions, iterators and managers.
-/
import Handover.Interpreter.Library.Classes

namespace Handover.Interpreter.Library

/-- Functions made of functions. -/
def functionsSource : String := lines
  ["WRAPPER_ASSIGNMENTS = ('__module__', '__name__', '__qualname__', '__doc__')",
   "WRAPPER_UPDATES = ('__dict__',)",
   "def update_wrapper(wrapper, wrapped, assigned=WRAPPER_ASSIGNMENTS, updated=WRAPPER_UPDATES):",
   "    for attr in assigned:",
   "        try:",
   "            value = getattr(wrapped, attr)",
   "        except AttributeError:",
   "            continue",
   "        setattr(wrapper, attr, value)",
   "    for attr in updated:",
   "        getattr(wrapper, attr).update(getattr(wrapped, attr, \x7b\x7d))",
   "    wrapper.__wrapped__ = wrapped",
   "    return wrapper",
   "def wraps(wrapped, assigned=WRAPPER_ASSIGNMENTS, updated=WRAPPER_UPDATES):",
   "    return lambda wrapper: update_wrapper(wrapper, wrapped, assigned, updated)",
   "_missing = object()",
   "def reduce(function, sequence, initial=_missing):",
   "    it = iter(sequence)",
   "    if initial is _missing:",
   "        try:",
   "            value = next(it)",
   "        except StopIteration:",
   "            raise TypeError('reduce() of empty iterable with no initial value') from None",
   "    else:",
   "        value = initial",
   "    for element in it:",
   "        value = function(value, element)",
   "    return value",
   "class partial:",
   "    def __init__(self, func, /, *args, **keywords):",
   "        if not callable(func):",
   "            raise TypeError('the first argument must be callable')",
   "        if isinstance(func, partial):",
   "            args = func.args + args",
   "            keywords = \x7b**func.keywords, **keywords\x7d",
   "            func = func.func",
   "        self.func = func",
   "        self.args = args",
   "        self.keywords = keywords",
   "    def __call__(self, /, *args, **keywords):",
   "        return self.func(*self.args, *args, **\x7b**self.keywords, **keywords\x7d)",
   "class partialmethod:",
   "    def __init__(self, func, /, *args, **keywords):",
   "        self.func = func",
   "        self.args = args",
   "        self.keywords = keywords",
   "    def __get__(self, obj, cls=None):",
   "        return partial(self.func, obj, *self.args, **self.keywords)",
   "class _CacheInfo(tuple):",
   "    hits = property(lambda self: self[0])",
   "    misses = property(lambda self: self[1])",
   "    maxsize = property(lambda self: self[2])",
   "    currsize = property(lambda self: self[3])",
   "    def __repr__(self):",
   "        return 'CacheInfo(hits=%r, misses=%r, maxsize=%r, currsize=%r)' % tuple(self)",
   "class _cached:",
   "    def __init__(self, func, maxsize):",
   "        self._func = func",
   "        self._maxsize = maxsize",
   "        self._known = \x7b\x7d",
   "        self._hits = 0",
   "        self._misses = 0",
   "        update_wrapper(self, func)",
   "    def __call__(self, *args, **kwargs):",
   "        key = (args, tuple(kwargs.items()))",
   "        if key in self._known:",
   "            self._hits += 1",
   "            return self._known[key]",
   "        self._misses += 1",
   "        value = self._func(*args, **kwargs)",
   "        if self._maxsize is None or len(self._known) < self._maxsize:",
   "            self._known[key] = value",
   "        return value",
   "    def __get__(self, obj, cls=None):",
   "        return self if obj is None else partial(self, obj)",
   "    def cache_info(self):",
   "        return _CacheInfo((self._hits, self._misses, self._maxsize, len(self._known)))",
   "    def cache_clear(self):",
   "        self._known.clear()",
   "        self._hits = self._misses = 0",
   "def lru_cache(maxsize=128, typed=False):",
   "    if callable(maxsize):",
   "        return _cached(maxsize, 128)",
   "    return lambda func: _cached(func, maxsize)",
   "def cache(func):",
   "    return _cached(func, None)",
   "class cached_property:",
   "    def __init__(self, func):",
   "        self.func = func",
   "        self.attrname = None",
   "    def __set_name__(self, owner, name):",
   "        self.attrname = name",
   "    def __get__(self, instance, owner=None):",
   "        if instance is None:",
   "            return self",
   "        value = self.func(instance)",
   "        instance.__dict__[self.attrname] = value",
   "        return value",
   "def cmp_to_key(mycmp):",
   "    class K:",
   "        def __init__(self, obj):",
   "            self.obj = obj",
   "        def __lt__(self, other):",
   "            return mycmp(self.obj, other.obj) < 0",
   "        def __gt__(self, other):",
   "            return mycmp(self.obj, other.obj) > 0",
   "        def __eq__(self, other):",
   "            return mycmp(self.obj, other.obj) == 0",
   "        def __le__(self, other):",
   "            return mycmp(self.obj, other.obj) <= 0",
   "        def __ge__(self, other):",
   "            return mycmp(self.obj, other.obj) >= 0",
   "    return K",
   "def total_ordering(cls):",
   "    own = cls.__dict__",
   "    if '__lt__' in own:",
   "        if '__gt__' not in own:",
   "            cls.__gt__ = lambda self, other: not (self < other or self == other)",
   "        if '__le__' not in own:",
   "            cls.__le__ = lambda self, other: self < other or self == other",
   "        if '__ge__' not in own:",
   "            cls.__ge__ = lambda self, other: not self < other",
   "    elif '__gt__' in own:",
   "        cls.__lt__ = lambda self, other: not (self > other or self == other)",
   "        cls.__ge__ = lambda self, other: self > other or self == other",
   "        cls.__le__ = lambda self, other: not self > other",
   "    elif '__le__' in own:",
   "        cls.__ge__ = lambda self, other: not self <= other or self == other",
   "        cls.__lt__ = lambda self, other: self <= other and not self == other",
   "        cls.__gt__ = lambda self, other: not self <= other",
   "    elif '__ge__' in own:",
   "        cls.__le__ = lambda self, other: not self >= other or self == other",
   "        cls.__gt__ = lambda self, other: self >= other and not self == other",
   "        cls.__lt__ = lambda self, other: not self >= other",
   "    else:",
   "        raise ValueError('must define at least one ordering operation: < > <= >=')",
   "    return cls",
   "def singledispatch(func):",
   "    registry = \x7bobject: func\x7d",
   "    def dispatch(cls):",
   "        for c in cls.__mro__:",
   "            if c in registry:",
   "                return registry[c]",
   "        return func",
   "    def register(cls, func=None):",
   "        if func is None:",
   "            return lambda f: register(cls, f)",
   "        registry[cls] = func",
   "        return func",
   "    def wrapper(*args, **kwargs):",
   "        return dispatch(type(args[0]))(*args, **kwargs)",
   "    wrapper.register = register",
   "    wrapper.dispatch = dispatch",
   "    wrapper.registry = registry",
   "    update_wrapper(wrapper, func)",
   "    return wrapper"]

/-- Iterators made of iterators. -/
def iteratorsSource : String := lines
  ["class chain:",
   "    def __init__(self, *iterables):",
   "        self._it = (x for it in iterables for x in it)",
   "    def __iter__(self):",
   "        return self",
   "    def __next__(self):",
   "        return next(self._it)",
   "    @classmethod",
   "    def from_iterable(cls, iterables):",
   "        new = cls()",
   "        new._it = (x for it in iterables for x in it)",
   "        return new",
   "def count(start=0, step=1):",
   "    while True:",
   "        yield start",
   "        start += step",
   "def cycle(iterable):",
   "    saved = []",
   "    for x in iterable:",
   "        yield x",
   "        saved.append(x)",
   "    while saved:",
   "        for x in saved:",
   "            yield x",
   "def repeat(object, times=None):",
   "    if times is None:",
   "        while True:",
   "            yield object",
   "    for _ in range(times):",
   "        yield object",
   "def accumulate(iterable, func=None, *, initial=None):",
   "    it = iter(iterable)",
   "    total = initial",
   "    if initial is None:",
   "        try:",
   "            total = next(it)",
   "        except StopIteration:",
   "            return",
   "    yield total",
   "    for x in it:",
   "        total = total + x if func is None else func(total, x)",
   "        yield total",
   "def batched(iterable, n):",
   "    if n < 1:",
   "        raise ValueError('n must be at least one')",
   "    it = iter(iterable)",
   "    while batch := tuple(islice(it, n)):",
   "        yield batch",
   "def compress(data, selectors):",
   "    return (d for d, s in zip(data, selectors) if s)",
   "def dropwhile(predicate, iterable):",
   "    it = iter(iterable)",
   "    for x in it:",
   "        if not predicate(x):",
   "            yield x",
   "            break",
   "    for x in it:",
   "        yield x",
   "def takewhile(predicate, iterable):",
   "    for x in iterable:",
   "        if not predicate(x):",
   "            break",
   "        yield x",
   "def filterfalse(predicate, iterable):",
   "    return (x for x in iterable if not (x if predicate is None else predicate(x)))",
   "def groupby(iterable, key=None):",
   "    items = list(iterable)",
   "    i = 0",
   "    while i < len(items):",
   "        k = items[i] if key is None else key(items[i])",
   "        group = []",
   "        while i < len(items) and (items[i] if key is None else key(items[i])) == k:",
   "            group.append(items[i])",
   "            i += 1",
   "        yield k, iter(group)",
   "def islice(iterable, *args):",
   "    s = slice(*args)",
   "    start, stop, step = s.start or 0, s.stop, 1 if s.step is None else s.step",
   "    it = iter(iterable)",
   "    i = 0",
   "    wanted = start",
   "    while stop is None or i < stop:",
   "        try:",
   "            x = next(it)",
   "        except StopIteration:",
   "            return",
   "        if i == wanted:",
   "            yield x",
   "            wanted += step",
   "        i += 1",
   "        if stop is not None and wanted >= stop:",
   "            while i < stop and i < wanted:",
   "                try:",
   "                    next(it)",
   "                except StopIteration:",
   "                    return",
   "                i += 1",
   "            return",
   "def pairwise(iterable):",
   "    it = iter(iterable)",
   "    try:",
   "        a = next(it)",
   "    except StopIteration:",
   "        return",
   "    for b in it:",
   "        yield a, b",
   "        a = b",
   "def starmap(function, iterable):",
   "    return (function(*args) for args in iterable)",
   "def tee(iterable, n=2):",
   "    items = list(iterable)",
   "    return tuple(iter(items) for _ in range(n))",
   "def zip_longest(*iterables, fillvalue=None):",
   "    lists = [list(it) for it in iterables]",
   "    for i in range(max(map(len, lists), default=0)):",
   "        yield tuple(l[i] if i < len(l) else fillvalue for l in lists)",
   "def product(*iterables, repeat=1):",
   "    pools = [tuple(pool) for pool in iterables] * repeat",
   "    result = [[]]",
   "    for pool in pools:",
   "        result = [x + [y] for x in result for y in pool]",
   "    for prod in result:",
   "        yield tuple(prod)",
   "def permutations(iterable, r=None):",
   "    pool = tuple(iterable)",
   "    r = len(pool) if r is None else r",
   "    for indices in product(range(len(pool)), repeat=r):",
   "        if len(set(indices)) == r:",
   "            yield tuple(pool[i] for i in indices)",
   "def combinations(iterable, r):",
   "    pool = tuple(iterable)",
   "    for indices in permutations(range(len(pool)), r):",
   "        if sorted(indices) == list(indices):",
   "            yield tuple(pool[i] for i in indices)",
   "def combinations_with_replacement(iterable, r):",
   "    pool = tuple(iterable)",
   "    for indices in product(range(len(pool)), repeat=r):",
   "        if sorted(indices) == list(indices):",
   "            yield tuple(pool[i] for i in indices)"]

/-- Operators as functions. -/
def operatorsSource : String := lines
  ["class attrgetter:",
   "    def __init__(self, attr, *attrs):",
   "        self._attrs = (attr,) + attrs",
   "    def _get(self, obj, attr):",
   "        for name in attr.split('.'):",
   "            obj = getattr(obj, name)",
   "        return obj",
   "    def __call__(self, obj):",
   "        if len(self._attrs) == 1:",
   "            return self._get(obj, self._attrs[0])",
   "        return tuple(self._get(obj, a) for a in self._attrs)",
   "class itemgetter:",
   "    def __init__(self, item, *items):",
   "        self._items = (item,) + items",
   "    def __call__(self, obj):",
   "        if len(self._items) == 1:",
   "            return obj[self._items[0]]",
   "        return tuple(obj[i] for i in self._items)",
   "class methodcaller:",
   "    def __init__(self, name, /, *args, **kwargs):",
   "        self._name = name",
   "        self._args = args",
   "        self._kwargs = kwargs",
   "    def __call__(self, obj):",
   "        return getattr(obj, self._name)(*self._args, **self._kwargs)",
   "def call(obj, /, *args, **kwargs):",
   "    return obj(*args, **kwargs)"]

/-- Managers made of functions. -/
def managersSource : String := lines
  ["from functools import wraps",
   "import sys",
   "class AbstractContextManager:",
   "    def __enter__(self):",
   "        return self",
   "    def __exit__(self, exc_type, exc_value, traceback):",
   "        return None",
   "class ContextDecorator:",
   "    def __call__(self, func):",
   "        @wraps(func)",
   "        def inner(*args, **kwds):",
   "            with self:",
   "                return func(*args, **kwds)",
   "        return inner",
   "class _GeneratorContextManager(ContextDecorator, AbstractContextManager):",
   "    def __init__(self, func, args, kwds):",
   "        self.gen = func(*args, **kwds)",
   "        self.func, self.args, self.kwds = func, args, kwds",
   "    def __call__(self, func):",
   "        @wraps(func)",
   "        def inner(*args, **kwds):",
   "            with _GeneratorContextManager(self.func, self.args, self.kwds):",
   "                return func(*args, **kwds)",
   "        return inner",
   "    def __enter__(self):",
   "        try:",
   "            return next(self.gen)",
   "        except StopIteration:",
   "            raise RuntimeError(\"generator didn't yield\") from None",
   "    def __exit__(self, typ, value, traceback):",
   "        if typ is None:",
   "            try:",
   "                next(self.gen)",
   "            except StopIteration:",
   "                return False",
   "            raise RuntimeError(\"generator didn't stop\")",
   "        try:",
   "            self.gen.throw(value)",
   "        except StopIteration as exc:",
   "            return exc is not value",
   "        except BaseException as exc:",
   "            if exc is not value:",
   "                raise",
   "            return False",
   "        raise RuntimeError(\"generator didn't stop after throw()\")",
   "def contextmanager(func):",
   "    @wraps(func)",
   "    def helper(*args, **kwds):",
   "        return _GeneratorContextManager(func, args, kwds)",
   "    return helper",
   "class closing(AbstractContextManager):",
   "    def __init__(self, thing):",
   "        self.thing = thing",
   "    def __enter__(self):",
   "        return self.thing",
   "    def __exit__(self, *exc_info):",
   "        self.thing.close()",
   "class suppress(AbstractContextManager):",
   "    def __init__(self, *exceptions):",
   "        self._exceptions = exceptions",
   "    def __enter__(self):",
   "        pass",
   "    def __exit__(self, exctype, excinst, exctb):",
   "        return exctype is not None and issubclass(exctype, self._exceptions)",
   "class nullcontext(AbstractContextManager):",
   "    def __init__(self, enter_result=None):",
   "        self.enter_result = enter_result",
   "    def __enter__(self):",
   "        return self.enter_result",
   "class _Redirect(AbstractContextManager):",
   "    def __init__(self, new_target):",
   "        self._new_target = new_target",
   "        self._old_targets = []",
   "    def __enter__(self):",
   "        self._old_targets.append(getattr(sys, self._stream))",
   "        setattr(sys, self._stream, self._new_target)",
   "        return self._new_target",
   "    def __exit__(self, exctype, excinst, exctb):",
   "        setattr(sys, self._stream, self._old_targets.pop())",
   "class redirect_stdout(_Redirect):",
   "    _stream = 'stdout'",
   "class redirect_stderr(_Redirect):",
   "    _stream = 'stderr'",
   "class ExitStack(AbstractContextManager):",
   "    def __init__(self):",
   "        self._callbacks = []",
   "    def push(self, exit):",
   "        self._callbacks.append(exit.__exit__ if hasattr(exit, '__exit__') else exit)",
   "        return exit",
   "    def enter_context(self, cm):",
   "        result = cm.__enter__()",
   "        self._callbacks.append(cm.__exit__)",
   "        return result",
   "    def callback(self, callback, /, *args, **kwds):",
   "        def run(typ, value, tb):",
   "            callback(*args, **kwds)",
   "        self._callbacks.append(run)",
   "        return callback",
   "    def pop_all(self):",
   "        new = type(self)()",
   "        new._callbacks = self._callbacks",
   "        self._callbacks = []",
   "        return new",
   "    def close(self):",
   "        self.__exit__(None, None, None)",
   "    def __exit__(self, typ, value, tb):",
   "        done = False",
   "        while self._callbacks:",
   "            if self._callbacks.pop()(typ, value, tb):",
   "                done = True",
   "                typ = value = tb = None",
   "        return done"]

/-- Copies of objects. -/
def copiesSource : String := lines
  ["class Error(Exception):",
   "    pass",
   "def copy(x):",
   "    if isinstance(x, (int, float, str, bytes, tuple, type(None), type)):",
   "        return x",
   "    if hasattr(x, '__copy__'):",
   "        return x.__copy__()",
   "    if isinstance(x, (list, dict, set, frozenset, bytearray)):",
   "        return x.copy()",
   "    if callable(x) or not hasattr(x, '__dict__'):",
   "        return x",
   "    y = object.__new__(type(x))",
   "    y.__dict__.update(x.__dict__)",
   "    return y",
   "def deepcopy(x, memo=None):",
   "    memo = \x7b\x7d if memo is None else memo",
   "    if id(x) in memo:",
   "        return memo[id(x)]",
   "    if hasattr(x, '__deepcopy__'):",
   "        return x.__deepcopy__(memo)",
   "    if type(x) is tuple:",
   "        return tuple(deepcopy(v, memo) for v in x)",
   "    if isinstance(x, list):",
   "        y = memo[id(x)] = []",
   "        y.extend(deepcopy(v, memo) for v in x)",
   "        return y",
   "    if isinstance(x, dict):",
   "        y = memo[id(x)] = type(x)()",
   "        for k, v in x.items():",
   "            y[deepcopy(k, memo)] = deepcopy(v, memo)",
   "        return y",
   "    if isinstance(x, set):",
   "        return set(deepcopy(v, memo) for v in x)",
   "    if isinstance(x, (int, float, str, bytes, tuple, frozenset, type(None), type)) or callable(x):",
   "        return x",
   "    if not hasattr(x, '__dict__'):",
   "        return x",
   "    y = memo[id(x)] = object.__new__(type(x))",
   "    y.__dict__.update(deepcopy(x.__dict__, memo))",
   "    return y",
   "def replace(obj, /, **changes):",
   "    return obj.__replace__(**changes)"]

end Handover.Interpreter.Library
