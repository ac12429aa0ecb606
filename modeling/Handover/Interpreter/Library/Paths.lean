/-
  Modules on paths and on the system: those parts of them that are written in the interpreter's own
  language.
-/
import Handover.Interpreter.Library.Classes

namespace Handover.Interpreter.Library

/-- Paths as texts. -/
def pathsSource : String := lines
  ["curdir = '.'",
   "pardir = '..'",
   "extsep = '.'",
   "sep = '/'",
   "pathsep = ':'",
   "defpath = '/bin:/usr/bin'",
   "altsep = None",
   "devnull = '/dev/null'",
   "supports_unicode_filenames = False",
   "def _same(p, text):",
   "    return text.encode('ascii') if isinstance(p, bytes) else text",
   "def normcase(s):",
   "    return fspath(s)",
   "def isabs(s):",
   "    s = fspath(s)",
   "    return s.startswith(_same(s, '/'))",
   "def join(a, *p):",
   "    a = fspath(a)",
   "    slash = _same(a, '/')",
   "    path = a",
   "    for b in map(fspath, p):",
   "        if type(b) is not type(a) and isinstance(b, bytes) != isinstance(a, bytes):",
   "            raise TypeError(\"Can't mix strings and bytes in path components\")",
   "        if b.startswith(slash):",
   "            path = b",
   "        elif not path or path.endswith(slash):",
   "            path += b",
   "        else:",
   "            path += slash + b",
   "    return path",
   "def split(p):",
   "    p = fspath(p)",
   "    slash = _same(p, '/')",
   "    i = p.rfind(slash) + 1",
   "    head, tail = p[:i], p[i:]",
   "    if head and head != slash * len(head):",
   "        head = head.rstrip(slash)",
   "    return head, tail",
   "def splitext(p):",
   "    p = fspath(p)",
   "    dot = _same(p, '.')",
   "    start = p.rfind(_same(p, '/')) + 1",
   "    i = p.rfind(dot)",
   "    if i >= start:",
   "        while start < i:",
   "            if p[start:start + 1] != dot:",
   "                return p[:i], p[i:]",
   "            start += 1",
   "    return p, p[:0]",
   "def splitdrive(p):",
   "    p = fspath(p)",
   "    return p[:0], p",
   "def splitroot(p):",
   "    p = fspath(p)",
   "    slash = _same(p, '/')",
   "    if p[:1] != slash:",
   "        return p[:0], p[:0], p",
   "    if p[1:2] != slash or p[2:3] == slash:",
   "        return p[:0], slash, p[1:]",
   "    return p[:0], p[:2], p[2:]",
   "def basename(p):",
   "    p = fspath(p)",
   "    return p[p.rfind(_same(p, '/')) + 1:]",
   "def dirname(p):",
   "    return split(p)[0]",
   "def realpath(filename, *, strict=False):",
   "    filename = fspath(filename)",
   "    path = abspath(filename)",
   "    done = _same(path, '/')",
   "    for piece in path.split(_same(path, '/')):",
   "        if not piece:",
   "            continue",
   "        step = join(done, piece)",
   "        found = _resolved(step)",
   "        if found is None and strict:",
   "            _status(step)",
   "        done = step if found is None else found",
   "    return normpath(done)",
   "def expanduser(path):",
   "    path = fspath(path)",
   "    tilde = _same(path, '~')",
   "    slash = _same(path, '/')",
   "    if not path.startswith(tilde):",
   "        return path",
   "    i = path.find(slash, 1)",
   "    if i < 0:",
   "        i = len(path)",
   "    if i != 1:",
   "        if path[1:i] != _same(path, 'root'):",
   "            return path",
   "        home = '/root'",
   "    else:",
   "        home = environ.get('HOME', '/root')",
   "    home = fsencode(home) if isinstance(path, bytes) else home",
   "    home = home.rstrip(slash)",
   "    return (home + path[i:]) or slash",
   "def expandvars(path):",
   "    path = fspath(path)",
   "    if isinstance(path, bytes):",
   "        return fsencode(expandvars(fsdecode(path)))",
   "    done = ''",
   "    i = 0",
   "    while i < len(path):",
   "        c = path[i]",
   "        if c == '$' and path[i + 1:i + 2] == '\x7b':",
   "            j = path.find('\x7d', i)",
   "            name = path[i + 2:j] if j > 0 else None",
   "            after = j + 1",
   "        elif c == '$':",
   "            j = i + 1",
   "            while j < len(path) and (path[j].isalnum() or path[j] == '_'):",
   "                j += 1",
   "            name = path[i + 1:j]",
   "            after = j",
   "        else:",
   "            name = None",
   "        if name and name in environ:",
   "            done += environ[name]",
   "            i = after",
   "        else:",
   "            done += c",
   "            i += 1",
   "    return done",
   "def commonprefix(m):",
   "    if not m:",
   "        return ''",
   "    m = [fspath(p) for p in m]",
   "    a, b = min(m), max(m)",
   "    for i, c in enumerate(a):",
   "        if c != b[i]:",
   "            return a[:i]",
   "    return a",
   "def commonpath(paths):",
   "    paths = [fspath(p) for p in paths]",
   "    if not paths:",
   "        raise ValueError('commonpath() arg is an empty sequence')",
   "    slash = _same(paths[0], '/')",
   "    rooted = set(p.startswith(slash) for p in paths)",
   "    if len(rooted) != 1:",
   "        raise ValueError(\"Can't mix absolute and relative paths\")",
   "    parts = [[c for c in p.split(slash) if c and c != _same(p, '.')] for p in paths]",
   "    a, b = min(parts), max(parts)",
   "    common = a",
   "    for i, c in enumerate(a):",
   "        if c != b[i]:",
   "            common = a[:i]",
   "            break",
   "    return (slash if True in rooted else slash[:0]) + slash.join(common)",
   "def relpath(path, start=None):",
   "    path = fspath(path)",
   "    if not path:",
   "        raise ValueError('no path specified')",
   "    slash = _same(path, '/')",
   "    start = _same(path, '.') if start is None else fspath(start)",
   "    there = [x for x in abspath(path).split(slash) if x]",
   "    here = [x for x in abspath(start).split(slash) if x]",
   "    i = len(commonprefix_list(here, there))",
   "    parts = [_same(path, '..')] * (len(here) - i) + there[i:]",
   "    return slash.join(parts) if parts else _same(path, '.')",
   "def commonprefix_list(a, b):",
   "    n = 0",
   "    while n < len(a) and n < len(b) and a[n] == b[n]:",
   "        n += 1",
   "    return a[:n]",
   "def getsize(p):",
   "    return _status(p)[6]",
   "def getmtime(p):",
   "    return float(_status(p)[8])",
   "getatime = getctime = getmtime",
   "def samefile(a, b):",
   "    return realpath(a) == realpath(b)",
   "def ismount(p):",
   "    return realpath(p) == '/'"]

/-- The system. -/
def systemSource : String := lines
  ["import posixpath as path",
   "import sys",
   "sys.modules['os.path'] = path",
   "name = 'posix'",
   "linesep = '\\n'",
   "curdir = '.'",
   "pardir = '..'",
   "extsep = '.'",
   "sep = '/'",
   "pathsep = ':'",
   "defpath = '/bin:/usr/bin'",
   "altsep = None",
   "devnull = '/dev/null'",
   "F_OK, R_OK, W_OK, X_OK = 0, 4, 2, 1",
   "O_RDONLY, O_WRONLY, O_RDWR, O_CREAT, O_EXCL, O_TRUNC, O_APPEND = 0, 1, 2, 64, 128, 512, 1024",
   "EX_OK, EX_USAGE, EX_UNAVAILABLE, EX_SOFTWARE, EX_CONFIG = 0, 64, 69, 70, 78",
   "SEEK_SET, SEEK_CUR, SEEK_END = 0, 1, 2",
   "WNOHANG = 1",
   "supports_bytes_environ = True",
   "error = OSError",
   "class PathLike:",
   "    pass",
   "class stat_result(tuple):",
   "    n_fields = 10",
   "    st_mode = property(lambda self: self[0])",
   "    st_ino = property(lambda self: self[1])",
   "    st_dev = property(lambda self: self[2])",
   "    st_nlink = property(lambda self: self[3])",
   "    st_uid = property(lambda self: self[4])",
   "    st_gid = property(lambda self: self[5])",
   "    st_size = property(lambda self: self[6])",
   "    st_atime = property(lambda self: float(self[7]))",
   "    st_mtime = property(lambda self: float(self[8]))",
   "    st_ctime = property(lambda self: float(self[9]))",
   "    st_mtime_ns = property(lambda self: self[8] * 1000000000)",
   "def stat(path, *, dir_fd=None, follow_symlinks=True):",
   "    return stat_result(_status(path) if follow_symlinks else _lstatus(path))",
   "def lstat(path, *, dir_fd=None):",
   "    return stat_result(_lstatus(path))",
   "def fstat(fd):",
   "    return stat_result(_status(fd))",
   "def getenv(key, default=None):",
   "    return environ.get(key, default)",
   "def getenvb(key, default=None):",
   "    value = environ.get(fsdecode(key))",
   "    return default if value is None else fsencode(value)",
   "def makedirs(name, mode=0o777, exist_ok=False):",
   "    head, tail = path.split(name)",
   "    if not tail:",
   "        head, tail = path.split(head)",
   "    if head and tail and not path.exists(head):",
   "        try:",
   "            makedirs(head, exist_ok=exist_ok)",
   "        except FileExistsError:",
   "            pass",
   "    try:",
   "        mkdir(name, mode)",
   "    except OSError:",
   "        if not exist_ok or not path.isdir(name):",
   "            raise",
   "def removedirs(name):",
   "    rmdir(name)",
   "    head, tail = path.split(name)",
   "    while head and tail:",
   "        try:",
   "            rmdir(head)",
   "        except OSError:",
   "            break",
   "        head, tail = path.split(head)",
   "class DirEntry:",
   "    def __init__(self, top, name):",
   "        self.name = name",
   "        self.path = path.join(top, name)",
   "    def is_dir(self, *, follow_symlinks=True):",
   "        return path.isdir(self.path) and (follow_symlinks or not path.islink(self.path))",
   "    def is_file(self, *, follow_symlinks=True):",
   "        return path.isfile(self.path) and (follow_symlinks or not path.islink(self.path))",
   "    def is_symlink(self):",
   "        return path.islink(self.path)",
   "    def stat(self, *, follow_symlinks=True):",
   "        return stat(self.path, follow_symlinks=follow_symlinks)",
   "    def __fspath__(self):",
   "        return self.path",
   "    def __repr__(self):",
   "        return '<DirEntry %r>' % self.name",
   "class _Scan:",
   "    def __init__(self, entries):",
   "        self._entries = iter(entries)",
   "    def __iter__(self):",
   "        return self",
   "    def __next__(self):",
   "        return next(self._entries)",
   "    def __enter__(self):",
   "        return self",
   "    def __exit__(self, *args):",
   "        return None",
   "    def close(self):",
   "        return None",
   "def scandir(top='.'):",
   "    return _Scan([DirEntry(top, n) for n in listdir(top)])",
   "def walk(top, topdown=True, onerror=None, followlinks=False):",
   "    top = fspath(top)",
   "    try:",
   "        names = listdir(top)",
   "    except OSError as e:",
   "        if onerror is not None:",
   "            onerror(e)",
   "        return",
   "    dirs = [n for n in names if path.isdir(path.join(top, n))]",
   "    files = [n for n in names if not path.isdir(path.join(top, n))]",
   "    if topdown:",
   "        yield top, dirs, files",
   "    for n in dirs:",
   "        inner = path.join(top, n)",
   "        if followlinks or not path.islink(inner):",
   "            yield from walk(inner, topdown, onerror, followlinks)",
   "    if not topdown:",
   "        yield top, dirs, files",
   "def _search(file):",
   "    return file if '/' in fspath(file) else None",
   "def execv(path, argv):",
   "    _exec([path] + list(argv)[1:])",
   "def execve(path, argv, env):",
   "    saved = dict(environ)",
   "    environ.clear()",
   "    environ.update(env)",
   "    try:",
   "        _exec([path] + list(argv)[1:])",
   "    finally:",
   "        environ.clear()",
   "        environ.update(saved)",
   "def execvp(file, argv):",
   "    _exec([file] + list(argv)[1:])",
   "def execvpe(file, argv, env):",
   "    execve(file, argv, env)",
   "def execl(file, *args):",
   "    execv(file, args)",
   "def execlp(file, *args):",
   "    execvp(file, args)",
   "def popen(cmd, mode='r', buffering=-1):",
   "    import io",
   "    code, out, err = _spawn(['/bin/sh', '-c', cmd], None, None, None)",
   "    write(2, err)",
   "    stream = io.StringIO(out.decode())",
   "    return stream",
   "def WIFEXITED(status):",
   "    return status & 127 == 0",
   "def WEXITSTATUS(status):",
   "    return status >> 8 & 255",
   "def WIFSIGNALED(status):",
   "    return status & 127 != 0",
   "def WTERMSIG(status):",
   "    return status & 127",
   "def waitstatus_to_exitcode(status):",
   "    return -(status & 127) if status & 127 else status >> 8",
   "def get_exec_path(env=None):",
   "    return (environ if env is None else env).get('PATH', defpath).split(pathsep)",
   "class _uname(tuple):",
   "    sysname = property(lambda self: self[0])",
   "    nodename = property(lambda self: self[1])",
   "    release = property(lambda self: self[2])",
   "    version = property(lambda self: self[3])",
   "    machine = property(lambda self: self[4])",
   "def uname():",
   "    return _uname(('Linux', 'localhost', '6.1.0', '#1 SMP', 'x86_64'))",
   "class _size(tuple):",
   "    columns = property(lambda self: self[0])",
   "    lines = property(lambda self: self[1])",
   "def get_terminal_size(fd=1):",
   "    raise OSError(25, 'Inappropriate ioctl for device')",
   "def sched_getaffinity(pid):",
   "    return \x7b0\x7d",
   "_builtin_open = open",
   "def open(path, flags, mode=0o777, *, dir_fd=None):",
   "    raise OSError(38, 'Function not implemented')",
   "def fdopen(fd, mode='r', *args, **kwargs):",
   "    return _builtin_open(fd, mode, *args, **kwargs)"]

/-- The bits that tell what a file is. -/
def modesSource : String := lines
  ["S_IFMT_BITS = 0o170000",
   "S_IFDIR, S_IFCHR, S_IFBLK, S_IFREG = 0o040000, 0o020000, 0o060000, 0o100000",
   "S_IFIFO, S_IFLNK, S_IFSOCK = 0o010000, 0o120000, 0o140000",
   "S_ISUID, S_ISGID, S_ISVTX = 0o4000, 0o2000, 0o1000",
   "S_IRWXU, S_IRUSR, S_IWUSR, S_IXUSR = 0o700, 0o400, 0o200, 0o100",
   "S_IRWXG, S_IRGRP, S_IWGRP, S_IXGRP = 0o070, 0o040, 0o020, 0o010",
   "S_IRWXO, S_IROTH, S_IWOTH, S_IXOTH = 0o007, 0o004, 0o002, 0o001",
   "S_IREAD, S_IWRITE, S_IEXEC = 0o400, 0o200, 0o100",
   "ST_MODE, ST_INO, ST_DEV, ST_NLINK, ST_UID, ST_GID, ST_SIZE = 0, 1, 2, 3, 4, 5, 6",
   "ST_ATIME, ST_MTIME, ST_CTIME = 7, 8, 9",
   "def S_IFMT(mode):",
   "    return mode & 0o170000",
   "def S_IMODE(mode):",
   "    return mode & 0o7777",
   "def S_ISDIR(mode):",
   "    return S_IFMT(mode) == S_IFDIR",
   "def S_ISREG(mode):",
   "    return S_IFMT(mode) == S_IFREG",
   "def S_ISLNK(mode):",
   "    return S_IFMT(mode) == S_IFLNK",
   "def S_ISFIFO(mode):",
   "    return S_IFMT(mode) == S_IFIFO",
   "def S_ISCHR(mode):",
   "    return S_IFMT(mode) == S_IFCHR",
   "def filemode(mode):",
   "    kinds = \x7bS_IFDIR: 'd', S_IFLNK: 'l', S_IFIFO: 'p', S_IFCHR: 'c'\x7d",
   "    text = kinds.get(S_IFMT(mode), '-')",
   "    for i, c in enumerate('rwxrwxrwx'):",
   "        text += c if mode >> (8 - i) & 1 else '-'",
   "    return text"]

end Handover.Interpreter.Library
