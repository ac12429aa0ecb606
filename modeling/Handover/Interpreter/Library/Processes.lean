/-
  Modules on processes, on the machine, on warnings, and on the interpreter and its modules.
-/
import Handover.Interpreter.Library.Classes

namespace Handover.Interpreter.Library

/-- Other programs. -/
def processesSource : String := lines
  ["import os",
   "import sys",
   "import io",
   "PIPE, STDOUT, DEVNULL = -1, -2, -3",
   "class SubprocessError(Exception):",
   "    pass",
   "class CalledProcessError(SubprocessError):",
   "    def __init__(self, returncode, cmd, output=None, stderr=None):",
   "        self.returncode = returncode",
   "        self.cmd = cmd",
   "        self.output = output",
   "        self.stderr = stderr",
   "    def __str__(self):",
   "        if self.returncode and self.returncode < 0:",
   "            return \"Command '%s' died with %r.\" % (self.cmd, _signal(-self.returncode))",
   "        return \"Command '%s' returned non-zero exit status %d.\" % (self.cmd, self.returncode)",
   "    @property",
   "    def stdout(self):",
   "        return self.output",
   "class TimeoutExpired(SubprocessError):",
   "    def __init__(self, cmd, timeout, output=None, stderr=None):",
   "        self.cmd = cmd",
   "        self.timeout = timeout",
   "        self.output = output",
   "        self.stderr = stderr",
   "class _signal:",
   "    def __init__(self, number):",
   "        self.number = number",
   "    def __repr__(self):",
   "        import signal",
   "        for name in dir(signal):",
   "            if name.startswith('SIG') and getattr(signal, name) == self.number:",
   "                return '<Signals.%s: %d>' % (name, self.number)",
   "        return str(self.number)",
   "class CompletedProcess:",
   "    def __init__(self, args, returncode, stdout=None, stderr=None):",
   "        self.args = args",
   "        self.returncode = returncode",
   "        self.stdout = stdout",
   "        self.stderr = stderr",
   "    def __repr__(self):",
   "        parts = ['args=%r' % (self.args,), 'returncode=%r' % (self.returncode,)]",
   "        if self.stdout is not None:",
   "            parts.append('stdout=%r' % (self.stdout,))",
   "        if self.stderr is not None:",
   "            parts.append('stderr=%r' % (self.stderr,))",
   "        return 'CompletedProcess(' + ', '.join(parts) + ')'",
   "    def check_returncode(self):",
   "        if self.returncode:",
   "            raise CalledProcessError(self.returncode, self.args, self.stdout, self.stderr)",
   "class _Input:",
   "    def __init__(self, process):",
   "        self._process = process",
   "        self.data = b''",
   "    def write(self, data):",
   "        self.data += data.encode() if isinstance(data, str) else data",
   "        return len(data)",
   "    def flush(self):",
   "        pass",
   "    def close(self):",
   "        self._process._start()",
   "class Popen:",
   "    def __init__(self, args, bufsize=-1, executable=None, stdin=None, stdout=None, stderr=None,",
   "                 preexec_fn=None, close_fds=True, shell=False, cwd=None, env=None,",
   "                 universal_newlines=None, startupinfo=None, creationflags=0, restore_signals=True,",
   "                 start_new_session=False, pass_fds=(), *, user=None, group=None,",
   "                 extra_groups=None, encoding=None, errors=None, text=None, umask=-1,",
   "                 pipesize=-1, process_group=None):",
   "        self.args = args",
   "        self.pid = 4300",
   "        self.returncode = None",
   "        self._text = bool(text or universal_newlines or encoding or errors)",
   "        if isinstance(args, (str, bytes)) or hasattr(args, '__fspath__'):",
   "            argv = [args]",
   "        else:",
   "            argv = list(args)",
   "        if shell:",
   "            argv = ['/bin/sh', '-c'] + argv",
   "        self._argv = argv",
   "        self._cwd = cwd",
   "        self._env = env",
   "        self._in, self._out, self._err = stdin, stdout, stderr",
   "        self._started = False",
   "        self.stdin = _Input(self) if stdin == PIPE else None",
   "        self.stdout = self.stderr = None",
   "        if stdin != PIPE:",
   "            self._start()",
   "    def _give(self, target, fd, data):",
   "        if target is None:",
   "            os.write(fd, data)",
   "        elif target == DEVNULL or target == PIPE:",
   "            return",
   "        elif isinstance(target, int):",
   "            os.write(target, data)",
   "        else:",
   "            n = target.fileno()",
   "            if n in (1, 2):",
   "                os.write(n, data)",
   "            elif hasattr(target, 'encoding'):",
   "                target.write(data.decode())",
   "            else:",
   "                target.write(data)",
   "    def _stream(self, data):",
   "        return io.StringIO(data.decode()) if self._text else io.BytesIO(data)",
   "    def _start(self):",
   "        if self._started:",
   "            return",
   "        self._started = True",
   "        given = None",
   "        if self._in == PIPE:",
   "            given = self.stdin.data",
   "        elif self._in == DEVNULL:",
   "            given = b''",
   "        elif self._in is not None and not isinstance(self._in, int):",
   "            data = self._in.read()",
   "            given = data.encode() if isinstance(data, str) else data",
   "        code, out, err = os._spawn(self._argv, self._env, self._cwd, given)",
   "        self._code = code",
   "        if self._err == STDOUT:",
   "            out, err = out + err, b''",
   "        self._outdata, self._errdata = out, err",
   "        self._give(self._out, 1, out)",
   "        if self._err != STDOUT:",
   "            self._give(self._err, 2, err)",
   "        if self._out == PIPE:",
   "            self.stdout = self._stream(out)",
   "        if self._err == PIPE:",
   "            self.stderr = self._stream(err)",
   "    def communicate(self, input=None, timeout=None):",
   "        if self.stdin is not None and input is not None:",
   "            self.stdin.write(input)",
   "        self._start()",
   "        self.returncode = self._code",
   "        out = self.stdout.read() if self.stdout is not None else None",
   "        err = self.stderr.read() if self.stderr is not None else None",
   "        return out, err",
   "    def wait(self, timeout=None):",
   "        self._start()",
   "        self.returncode = self._code",
   "        return self.returncode",
   "    def poll(self):",
   "        return self.wait()",
   "    def kill(self):",
   "        pass",
   "    terminate = kill",
   "    def send_signal(self, sig):",
   "        pass",
   "    def __enter__(self):",
   "        return self",
   "    def __exit__(self, *args):",
   "        self.wait()",
   "def run(*popenargs, input=None, capture_output=False, timeout=None, check=False, **kwargs):",
   "    if input is not None:",
   "        if kwargs.get('stdin') is not None:",
   "            raise ValueError('stdin and input arguments may not both be used.')",
   "        kwargs['stdin'] = PIPE",
   "    if capture_output:",
   "        if kwargs.get('stdout') is not None or kwargs.get('stderr') is not None:",
   "            raise ValueError('stdout and stderr arguments may not be used with capture_output.')",
   "        kwargs['stdout'] = PIPE",
   "        kwargs['stderr'] = PIPE",
   "    process = Popen(*popenargs, **kwargs)",
   "    stdout, stderr = process.communicate(input)",
   "    code = process.poll()",
   "    if check and code:",
   "        raise CalledProcessError(code, process.args, stdout, stderr)",
   "    return CompletedProcess(process.args, code, stdout, stderr)",
   "def call(*popenargs, timeout=None, **kwargs):",
   "    return Popen(*popenargs, **kwargs).wait()",
   "def check_call(*popenargs, **kwargs):",
   "    code = call(*popenargs, **kwargs)",
   "    if code:",
   "        cmd = kwargs.get('args')",
   "        raise CalledProcessError(code, popenargs[0] if cmd is None else cmd)",
   "    return 0",
   "def check_output(*popenargs, timeout=None, **kwargs):",
   "    return run(*popenargs, stdout=PIPE, check=True, **kwargs).stdout",
   "def getstatusoutput(cmd, *, encoding=None, errors=None):",
   "    process = run(cmd, shell=True, stdout=PIPE, stderr=STDOUT, text=True)",
   "    data = process.stdout",
   "    return process.returncode, data[:-1] if data[-1:] == '\\n' else data",
   "def getoutput(cmd, *, encoding=None, errors=None):",
   "    return getstatusoutput(cmd)[1]",
   "def list2cmdline(seq):",
   "    return ' '.join(seq)"]

/-- The machine. -/
def machineSource : String := lines
  ["def system():",
   "    return 'Linux'",
   "def node():",
   "    return 'localhost'",
   "def release():",
   "    return '6.1.0'",
   "def version():",
   "    return '#1 SMP'",
   "def machine():",
   "    return 'x86_64'",
   "def processor():",
   "    return 'x86_64'",
   "def architecture(executable='', bits='', linkage=''):",
   "    return ('64bit', 'ELF')",
   "def python_version():",
   "    return '3.12.3'",
   "def python_version_tuple():",
   "    return ('3', '12', '3')",
   "def python_implementation():",
   "    return 'CPython'",
   "def platform(aliased=False, terse=False):",
   "    return 'Linux-6.1.0-x86_64-with-glibc2.39'"]

/-- Warnings. -/
def warningsSource : String := lines
  ["import sys",
   "filters = []",
   "def warn(message, category=None, stacklevel=1, source=None, *, skip_file_prefixes=()):",
   "    if isinstance(message, Warning):",
   "        category = type(message)",
   "    category = category or UserWarning",
   "    if _ignored(category):",
   "        return",
   "    if filters and filters[0] == 'error':",
   "        raise message if isinstance(message, Warning) else category(message)",
   "    sys.stderr.write('<string>:1: ' + category.__name__ + ': ' + str(message) + '\\n')",
   "def _ignored(category):",
   "    if filters and filters[0] == 'ignore':",
   "        return True",
   "    return issubclass(category, (DeprecationWarning, PendingDeprecationWarning, ImportWarning, ResourceWarning))",
   "def warn_explicit(message, category, filename, lineno, *args, **kwargs):",
   "    warn(message, category)",
   "def simplefilter(action, category=Warning, lineno=0, append=False):",
   "    filters.insert(0, action)",
   "def filterwarnings(action, message='', category=Warning, module='', lineno=0, append=False):",
   "    filters.insert(0, action)",
   "def resetwarnings():",
   "    filters.clear()",
   "class catch_warnings:",
   "    def __init__(self, *, record=False, module=None, action=None, **kwargs):",
   "        self._record = record",
   "        self._action = action",
   "    def __enter__(self):",
   "        self._saved = list(filters)",
   "        if self._action is not None:",
   "            filters.insert(0, self._action)",
   "        return [] if self._record else None",
   "    def __exit__(self, *args):",
   "        filters[:] = self._saved"]

/-- The directories of the installation. -/
def installationSource : String := lines
  ["import os",
   "import sys",
   "_KEYS = ('stdlib', 'platstdlib', 'purelib', 'platlib', 'include', 'platinclude', 'scripts', 'data')",
   "_HERE = '/usr/lib/python3.12'",
   "_HEADERS = '/usr/include/python3.12'",
   "def _scheme(lib, packages, include, scripts, data):",
   "    return dict(zip(_KEYS, (lib, lib, packages, packages, include, include, scripts, data)))",
   "def _userbase():",
   "    base = os.environ.get('PYTHONUSERBASE', None)",
   "    return base if base else os.path.expanduser(os.path.join('~', '.local'))",
   "def _schemes():",
   "    user = _userbase()",
   "    lib = user + '/lib/python3.12'",
   "    return \x7b",
   "        'posix_prefix': _scheme(_HERE, _HERE + '/site-packages', _HEADERS, '/usr/bin', '/usr'),",
   "        'deb_system': _scheme(_HERE, '/usr/lib/python3/dist-packages', _HEADERS, '/usr/bin', '/usr'),",
   "        'posix_local': _scheme(_HERE, '/usr/local/lib/python3.12/dist-packages', _HEADERS,",
   "                               '/usr/local/bin', '/usr/local'),",
   "        'posix_home': _scheme('/usr/lib/python', '/usr/lib/python', '/usr/include/python',",
   "                              '/usr/bin', '/usr'),",
   "        'nt': _scheme('/usr/Lib', '/usr/Lib/site-packages', '/usr/Include', '/usr/Scripts', '/usr'),",
   "        'posix_venv': _scheme(_HERE, _HERE + '/site-packages', _HEADERS, '/usr/bin', '/usr'),",
   "        'nt_venv': _scheme('/usr/Lib', '/usr/Lib/site-packages', '/usr/Include', '/usr/Scripts', '/usr'),",
   "        'venv': _scheme(_HERE, _HERE + '/site-packages', _HEADERS, '/usr/bin', '/usr'),",
   "        'nt_user': _scheme(user + '/Python', user + '/Python/site-packages',",
   "                           user + '/Python/Include', user + '/Python/Scripts', user),",
   "        'posix_user': _scheme(lib, lib + '/site-packages', user + '/include/python3.12',",
   "                              user + '/bin', user),",
   "        'osx_framework_user': _scheme(user + '/lib/python', user + '/lib/python/site-packages',",
   "                                      user + '/include/python3.12', user + '/bin', user),",
   "    \x7d",
   "def get_scheme_names():",
   "    return tuple(sorted(_schemes()))",
   "def get_path_names():",
   "    return _KEYS[:2] + ('purelib', 'platlib', 'include', 'scripts', 'data')",
   "def get_preferred_scheme(key):",
   "    if os.name == 'nt':",
   "        return \x7b'prefix': 'nt', 'home': 'posix_home', 'user': 'nt_user'\x7d[key]",
   "    if sys.platform == 'darwin' and sys._framework:",
   "        return \x7b'prefix': 'posix_prefix', 'home': 'posix_home', 'user': 'osx_framework_user'\x7d[key]",
   "    layout = os.environ.get('DEB_PYTHON_INSTALL_LAYOUT', 'posix_local')",
   "    prefix = 'deb_system' if layout in ('deb', 'deb_system') else 'posix_local'",
   "    return \x7b'prefix': prefix, 'home': 'posix_home', 'user': 'posix_user'\x7d[key]",
   "def get_default_scheme():",
   "    return get_preferred_scheme('prefix')",
   "def get_paths(scheme=get_default_scheme(), vars=None, expand=True):",
   "    return \x7bk: os.path.normpath(v) for k, v in _schemes()[scheme].items()\x7d",
   "def get_path(name, scheme=get_default_scheme(), vars=None, expand=True):",
   "    return get_paths(scheme, vars, expand)[name]",
   "def get_config_vars(*args):",
   "    vars = \x7b'prefix': '/usr', 'exec_prefix': '/usr', 'py_version': '3.12.3', 'py_version_short': '3.12',",
   "            'py_version_nodot': '312', 'installed_base': '/usr', 'base': '/usr',",
   "            'installed_platbase': '/usr', 'platbase': '/usr', 'projectbase': '/usr/bin',",
   "            'platlibdir': 'lib', 'abiflags': '', 'py_version_nodot_plat': '', 'implementation': 'Python',",
   "            'EXE': '', 'EXT_SUFFIX': '.cpython-312-x86_64-linux-gnu.so', 'SOABI': 'cpython-312-x86_64-linux-gnu',",
   "            'BINDIR': '/usr/bin', 'LIBDIR': '/usr/lib', 'VERSION': '3.12', 'userbase': _userbase()\x7d",
   "    return [vars.get(a) for a in args] if args else vars",
   "def get_config_var(name):",
   "    return get_config_vars().get(name)",
   "def get_platform():",
   "    return 'linux-x86_64'",
   "def get_python_version():",
   "    return '3.12'",
   "def is_python_build(check_home=None):",
   "    return False"]

/-- Modules by their names. -/
def loadingSource : String := lines
  ["from importlib import import_module",
   "def resolve_name(name, package):",
   "    if not name.startswith('.'):",
   "        return name",
   "    if not package:",
   "        raise ImportError('no package specified for ' + repr(name) + ' (required for relative module names)')",
   "    level = len(name) - len(name.lstrip('.'))",
   "    bits = package.rsplit('.', level - 1)",
   "    if len(bits) < level:",
   "        raise ImportError('attempted relative import beyond top-level package')",
   "    rest = name[level:]",
   "    return bits[0] + '.' + rest if rest else bits[0]",
   "def module_from_spec(spec):",
   "    import types",
   "    module = types.ModuleType(spec.name)",
   "    module.__spec__ = spec",
   "    module.__file__ = spec.origin",
   "    return module",
   "def spec_from_file_location(name, location=None, *, loader=None, submodule_search_locations=None):",
   "    spec = spec_from_loader(name, _Source(location), origin=location)",
   "    return spec",
   "def spec_from_loader(name, loader, *, origin=None, is_package=None):",
   "    return ModuleSpec(name, loader, origin=origin, is_package=is_package)",
   "class _Source:",
   "    def __init__(self, path):",
   "        self.path = path",
   "    def create_module(self, spec):",
   "        return None",
   "    def exec_module(self, module):",
   "        with open(self.path) as f:",
   "            exec(f.read(), module.__dict__)"]

/-- The names of files that hold modules. -/
def suffixesSource : String := lines
  ["SOURCE_SUFFIXES = ['.py']",
   "BYTECODE_SUFFIXES = ['.pyc']",
   "EXTENSION_SUFFIXES = ['.cpython-312-x86_64-linux-gnu.so', '.abi3.so', '.so']",
   "def all_suffixes():",
   "    return SOURCE_SUFFIXES + BYTECODE_SUFFIXES + EXTENSION_SUFFIXES",
   "class BuiltinImporter:",
   "    pass",
   "class FrozenImporter:",
   "    pass",
   "class PathFinder:",
   "    pass",
   "class SourceFileLoader:",
   "    def __init__(self, name, path):",
   "        self.name = name",
   "        self.path = path"]

end Handover.Interpreter.Library
