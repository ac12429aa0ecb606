/-
  Modules that work on whole paths: paths as objects, patterns of names, and copies of files.
-/
import Handover.Interpreter.Library.Classes

namespace Handover.Interpreter.Library

/-- Paths as objects. -/
def pathObjectsSource : String := lines
  ["import os",
   "import posixpath",
   "class PurePath:",
   "    def __new__(cls, *args, **kwargs):",
   "        if cls is PurePath:",
   "            cls = PurePosixPath",
   "        elif cls is Path:",
   "            cls = PosixPath",
   "        return object.__new__(cls)",
   "    def __init__(self, *args):",
   "        parts = []",
   "        for a in args:",
   "            if isinstance(a, PurePath):",
   "                parts.append(str(a))",
   "            else:",
   "                a = os.fspath(a)",
   "                if not isinstance(a, str):",
   "                    kind = type(a).__name__",
   "                    raise TypeError('argument should be a str or an os.PathLike object where '",
   "                                    \"__fspath__ returns a str, not '\" + kind + \"'\")",
   "                parts.append(a)",
   "        text = posixpath.join(*parts) if parts else ''",
   "        drive, root, rest = posixpath.splitroot(text)",
   "        self._root = root",
   "        self._tail = [p for p in rest.split('/') if p and p != '.']",
   "    def _from(self, root, tail):",
   "        new = object.__new__(type(self))",
   "        new._root = root",
   "        new._tail = list(tail)",
   "        return new",
   "    def __str__(self):",
   "        return self._root + '/'.join(self._tail) or '.'",
   "    def __fspath__(self):",
   "        return str(self)",
   "    def __bytes__(self):",
   "        return os.fsencode(str(self))",
   "    def __repr__(self):",
   "        return type(self).__name__ + '(' + repr(str(self)) + ')'",
   "    def __hash__(self):",
   "        return hash(str(self))",
   "    def __eq__(self, other):",
   "        if not isinstance(other, PurePath):",
   "            return NotImplemented",
   "        return str(self) == str(other)",
   "    def __lt__(self, other):",
   "        if not isinstance(other, PurePath):",
   "            return NotImplemented",
   "        return self.parts < other.parts",
   "    def __le__(self, other):",
   "        return self == other or self < other",
   "    def __gt__(self, other):",
   "        return other < self",
   "    def __ge__(self, other):",
   "        return self == other or other < self",
   "    def __truediv__(self, other):",
   "        try:",
   "            return type(self)(self, other)",
   "        except TypeError:",
   "            return NotImplemented",
   "    def __rtruediv__(self, other):",
   "        try:",
   "            return type(self)(other, self)",
   "        except TypeError:",
   "            return NotImplemented",
   "    def with_segments(self, *args):",
   "        return type(self)(*args)",
   "    def joinpath(self, *args):",
   "        return type(self)(self, *args)",
   "    @property",
   "    def parts(self):",
   "        return tuple(([self._root] if self._root else []) + self._tail)",
   "    @property",
   "    def drive(self):",
   "        return ''",
   "    @property",
   "    def root(self):",
   "        return self._root",
   "    @property",
   "    def anchor(self):",
   "        return self._root",
   "    @property",
   "    def name(self):",
   "        return self._tail[-1] if self._tail else ''",
   "    @property",
   "    def suffix(self):",
   "        name = self.name",
   "        i = name.rfind('.')",
   "        return name[i:] if 0 < i < len(name) - 1 else ''",
   "    @property",
   "    def suffixes(self):",
   "        name = self.name",
   "        if name.endswith('.'):",
   "            return []",
   "        return ['.' + s for s in name.lstrip('.').split('.')[1:]]",
   "    @property",
   "    def stem(self):",
   "        name = self.name",
   "        i = name.rfind('.')",
   "        return name[:i] if 0 < i < len(name) - 1 else name",
   "    @property",
   "    def parent(self):",
   "        return self._from(self._root, self._tail[:-1])",
   "    @property",
   "    def parents(self):",
   "        n = len(self._tail)",
   "        return tuple(self._from(self._root, self._tail[:n - 1 - i]) for i in range(n))",
   "    def as_posix(self):",
   "        return str(self)",
   "    def as_uri(self):",
   "        if not self._root:",
   "            raise ValueError(\"relative path can't be expressed as a file URI\")",
   "        return 'file://' + str(self)",
   "    def is_absolute(self):",
   "        return bool(self._root)",
   "    def is_relative_to(self, other, *more):",
   "        other = type(self)(other, *more)",
   "        return other == self or other in self.parents",
   "    def relative_to(self, other, *more, walk_up=False):",
   "        other = type(self)(other, *more)",
   "        n = len(other._tail)",
   "        if other._root != self._root or self._tail[:n] != other._tail:",
   "            raise ValueError(repr(str(self)) + ' is not in the subpath of ' + repr(str(other)))",
   "        return self._from('', self._tail[n:])",
   "    def with_name(self, name):",
   "        if not self.name:",
   "            raise ValueError(repr(self) + ' has an empty name')",
   "        if not name or '/' in name or name == '.':",
   "            raise ValueError('Invalid name ' + repr(name))",
   "        return self._from(self._root, self._tail[:-1] + [name])",
   "    def with_stem(self, stem):",
   "        return self.with_name(stem + self.suffix)",
   "    def with_suffix(self, suffix):",
   "        if '/' in suffix or suffix and not suffix.startswith('.') or suffix == '.':",
   "            raise ValueError('Invalid suffix ' + repr(suffix))",
   "        if not self.name:",
   "            raise ValueError(repr(self) + ' has an empty name')",
   "        return self.with_name(self.stem + suffix)",
   "    def match(self, pattern, *, case_sensitive=None):",
   "        import fnmatch",
   "        pats = type(self)(pattern)",
   "        if pats._root and (pats._root != self._root or len(pats._tail) != len(self._tail)):",
   "            return False",
   "        if len(pats._tail) > len(self._tail):",
   "            return False",
   "        pairs = zip(reversed(self._tail), reversed(pats._tail))",
   "        return all(fnmatch.fnmatchcase(a, b) for a, b in pairs)",
   "class PurePosixPath(PurePath):",
   "    pass",
   "class PureWindowsPath(PurePath):",
   "    pass",
   "class Path(PurePath):",
   "    @classmethod",
   "    def cwd(cls):",
   "        return cls(os.getcwd())",
   "    @classmethod",
   "    def home(cls):",
   "        return cls(os.path.expanduser('~'))",
   "    def absolute(self):",
   "        return self if self.is_absolute() else type(self)(os.getcwd(), self)",
   "    def resolve(self, strict=False):",
   "        return type(self)(os.path.realpath(self, strict=strict))",
   "    def expanduser(self):",
   "        return type(self)(os.path.expanduser(str(self)))",
   "    def stat(self, *, follow_symlinks=True):",
   "        return os.stat(self, follow_symlinks=follow_symlinks)",
   "    def lstat(self):",
   "        return os.lstat(self)",
   "    def exists(self, *, follow_symlinks=True):",
   "        return os.path.exists(self) if follow_symlinks else os.path.lexists(self)",
   "    def is_file(self):",
   "        return os.path.isfile(self)",
   "    def is_dir(self):",
   "        return os.path.isdir(self)",
   "    def is_symlink(self):",
   "        return os.path.islink(self)",
   "    def samefile(self, other):",
   "        return os.path.samefile(self, other)",
   "    def open(self, mode='r', buffering=-1, encoding=None, errors=None, newline=None):",
   "        return open(self, mode, buffering, encoding, errors, newline)",
   "    def read_text(self, encoding=None, errors=None):",
   "        with open(self, 'r', -1, encoding, errors) as f:",
   "            return f.read()",
   "    def read_bytes(self):",
   "        with open(self, 'rb') as f:",
   "            return f.read()",
   "    def write_text(self, data, encoding=None, errors=None, newline=None):",
   "        with open(self, 'w', -1, encoding, errors, newline) as f:",
   "            return f.write(data)",
   "    def write_bytes(self, data):",
   "        with open(self, 'wb') as f:",
   "            return f.write(data)",
   "    def touch(self, mode=0o666, exist_ok=True):",
   "        if self.exists() and not exist_ok:",
   "            raise FileExistsError(17, 'File exists', str(self))",
   "        with open(self, 'a'):",
   "            pass",
   "    def mkdir(self, mode=0o777, parents=False, exist_ok=False):",
   "        try:",
   "            os.mkdir(self, mode)",
   "        except FileNotFoundError:",
   "            if not parents or self.parent == self:",
   "                raise",
   "            self.parent.mkdir(parents=True, exist_ok=True)",
   "            self.mkdir(mode, parents=False, exist_ok=exist_ok)",
   "        except OSError:",
   "            if not exist_ok or not self.is_dir():",
   "                raise",
   "    def unlink(self, missing_ok=False):",
   "        try:",
   "            os.unlink(self)",
   "        except FileNotFoundError:",
   "            if not missing_ok:",
   "                raise",
   "    def rmdir(self):",
   "        os.rmdir(self)",
   "    def rename(self, target):",
   "        os.rename(self, target)",
   "        return type(self)(target)",
   "    def replace(self, target):",
   "        os.replace(self, target)",
   "        return type(self)(target)",
   "    def symlink_to(self, target, target_is_directory=False):",
   "        os.symlink(target, self)",
   "    def readlink(self):",
   "        return type(self)(os.readlink(self))",
   "    def chmod(self, mode, *, follow_symlinks=True):",
   "        os.chmod(self, mode)",
   "    def iterdir(self):",
   "        for name in os.listdir(self):",
   "            yield self / name",
   "    def walk(self, top_down=True, on_error=None, follow_symlinks=False):",
   "        for top, dirs, files in os.walk(self, top_down, on_error, follow_symlinks):",
   "            yield type(self)(top), dirs, files",
   "    def glob(self, pattern):",
   "        import glob",
   "        for found in glob.glob(str(pattern), root_dir=str(self), recursive=True):",
   "            yield self / found",
   "    def rglob(self, pattern):",
   "        return self.glob('**/' + str(pattern))",
   "    def owner(self):",
   "        return 'root'",
   "    def __enter__(self):",
   "        return self",
   "    def __exit__(self, *args):",
   "        return None",
   "class PosixPath(Path, PurePosixPath):",
   "    pass"]

/-- Patterns of names. -/
def namePatternsSource : String := lines
  ["def _matches(name, pat):",
   "    if not pat:",
   "        return not name",
   "    c = pat[0]",
   "    if c == '*':",
   "        return any(_matches(name[i:], pat[1:]) for i in range(len(name) + 1))",
   "    if not name:",
   "        return False",
   "    if c == '?':",
   "        return _matches(name[1:], pat[1:])",
   "    if c == '[':",
   "        j = pat.find(']', 2 if pat[1:2] != '!' else 3)",
   "        if j > 0:",
   "            stuff = pat[1:j]",
   "            inverted = stuff.startswith('!')",
   "            stuff = stuff[1:] if inverted else stuff",
   "            hit = False",
   "            i = 0",
   "            while i < len(stuff):",
   "                if stuff[i + 1:i + 2] == '-' and i + 2 < len(stuff):",
   "                    hit = hit or stuff[i] <= name[0] <= stuff[i + 2]",
   "                    i += 3",
   "                else:",
   "                    hit = hit or stuff[i] == name[0]",
   "                    i += 1",
   "            return hit != inverted and _matches(name[1:], pat[j + 1:])",
   "    return name[0] == c and _matches(name[1:], pat[1:])",
   "def fnmatchcase(name, pat):",
   "    return _matches(name, pat)",
   "fnmatch = fnmatchcase",
   "def filter(names, pat):",
   "    return [n for n in names if _matches(n, pat)]"]

/-- The files that a pattern names. -/
def filePatternsSource : String := lines
  ["import os",
   "import fnmatch",
   "def has_magic(s):",
   "    return any(c in s for c in '*?[')",
   "def _below(top, recursive):",
   "    yield ''",
   "    for name in _names(top):",
   "        if name.startswith('.'):",
   "            continue",
   "        inner = os.path.join(top, name) if top else name",
   "        if os.path.isdir(inner):",
   "            for rest in _below(inner, recursive):",
   "                yield os.path.join(name, rest) if rest else name",
   "def _names(top):",
   "    try:",
   "        return os.listdir(top or '.')",
   "    except OSError:",
   "        return []",
   "def _expand(top, done, parts, recursive):",
   "    if not parts:",
   "        yield done",
   "        return",
   "    first, rest = parts[0], parts[1:]",
   "    here = os.path.join(top, done) if done else top",
   "    if first == '**' and recursive:",
   "        for inner in _below(here, recursive):",
   "            joined = os.path.join(done, inner) if inner else done",
   "            yield from _expand(top, joined, rest, recursive)",
   "    elif has_magic(first):",
   "        for name in _names(here):",
   "            if name.startswith('.') and not first.startswith('.'):",
   "                continue",
   "            if fnmatch.fnmatchcase(name, first):",
   "                joined = os.path.join(done, name)",
   "                if not rest or os.path.isdir(os.path.join(top, joined)):",
   "                    yield from _expand(top, joined, rest, recursive)",
   "    else:",
   "        joined = os.path.join(done, first)",
   "        if os.path.lexists(os.path.join(top, joined)):",
   "            yield from _expand(top, joined, rest, recursive)",
   "def iglob(pathname, *, root_dir=None, dir_fd=None, recursive=False, include_hidden=False):",
   "    parts = [p for p in pathname.split('/') if p]",
   "    start = '/' if pathname.startswith('/') else ''",
   "    seen = []",
   "    for found in _expand(root_dir or '', start, parts, recursive):",
   "        if found and found not in seen:",
   "            seen.append(found)",
   "            yield found",
   "def glob(pathname, **kwargs):",
   "    return list(iglob(pathname, **kwargs))",
   "def escape(pathname):",
   "    return ''.join('[' + c + ']' if c in '*?[' else c for c in pathname)"]

/-- Copies of files, and programs by their names. -/
def fileCopiesSource : String := lines
  ["import os",
   "class Error(OSError):",
   "    pass",
   "class SameFileError(Error):",
   "    pass",
   "def which(cmd, mode=1, path=None):",
   "    if os.path.dirname(cmd):",
   "        found = os.path.isfile(cmd) and os.access(cmd, mode)",
   "        return cmd if found else None",
   "    if path is None:",
   "        path = os.environ.get('PATH', os.defpath)",
   "    if not path:",
   "        return None",
   "    for top in path.split(os.pathsep):",
   "        name = os.path.join(top, cmd)",
   "        if os.path.isfile(name) and os.access(name, mode):",
   "            return name",
   "    return None",
   "def copyfile(src, dst, *, follow_symlinks=True):",
   "    with open(src, 'rb') as f:",
   "        data = f.read()",
   "    with open(dst, 'wb') as f:",
   "        f.write(data)",
   "    return dst",
   "def copymode(src, dst, *, follow_symlinks=True):",
   "    os.chmod(dst, os.stat(src).st_mode & 0o7777)",
   "def copy(src, dst, *, follow_symlinks=True):",
   "    if os.path.isdir(dst):",
   "        dst = os.path.join(dst, os.path.basename(src))",
   "    copyfile(src, dst)",
   "    copymode(src, dst)",
   "    return dst",
   "copy2 = copy",
   "def copyfileobj(fsrc, fdst, length=0):",
   "    fdst.write(fsrc.read())",
   "def copytree(src, dst, symlinks=False, ignore=None, dirs_exist_ok=False):",
   "    os.makedirs(dst, exist_ok=dirs_exist_ok)",
   "    for name in os.listdir(src):",
   "        a, b = os.path.join(src, name), os.path.join(dst, name)",
   "        if os.path.isdir(a):",
   "            copytree(a, b, dirs_exist_ok=dirs_exist_ok)",
   "        else:",
   "            copy(a, b)",
   "    return dst",
   "def rmtree(path, ignore_errors=False, onerror=None, *, onexc=None):",
   "    try:",
   "        for name in os.listdir(path):",
   "            inner = os.path.join(path, name)",
   "            if os.path.isdir(inner) and not os.path.islink(inner):",
   "                rmtree(inner, ignore_errors)",
   "            else:",
   "                os.unlink(inner)",
   "        os.rmdir(path)",
   "    except OSError:",
   "        if not ignore_errors:",
   "            raise",
   "def move(src, dst):",
   "    if os.path.isdir(dst):",
   "        dst = os.path.join(dst, os.path.basename(src))",
   "    os.rename(src, dst)",
   "    return dst",
   "def get_terminal_size(fallback=(80, 24)):",
   "    return os._size(fallback)"]

end Handover.Interpreter.Library
