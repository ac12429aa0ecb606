/-
  Modules on texts, codings and documents.
-/
import Handover.Interpreter.Library.Classes

namespace Handover.Interpreter.Library

/-- Constants and templates. -/
def textsSource : String := lines
  ["whitespace = ' \\t\\n\\r\\v\\f'",
   "ascii_lowercase = 'abcdefghijklmnopqrstuvwxyz'",
   "ascii_uppercase = 'ABCDEFGHIJKLMNOPQRSTUVWXYZ'",
   "ascii_letters = ascii_lowercase + ascii_uppercase",
   "digits = '0123456789'",
   "hexdigits = digits + 'abcdef' + 'ABCDEF'",
   "octdigits = '01234567'",
   "punctuation = '!\"#$%&' + \"'\" + '()*+,-./:;<=>?@[\\\\]^_`\x7b|\x7d~'",
   "printable = digits + ascii_letters + punctuation + whitespace",
   "def capwords(s, sep=None):",
   "    return (sep or ' ').join(map(str.capitalize, s.split(sep)))",
   "class Template:",
   "    delimiter = '$'",
   "    def __init__(self, template):",
   "        self.template = template",
   "    def _fill(self, table, safe):",
   "        done = ''",
   "        text = self.template",
   "        i = 0",
   "        while i < len(text):",
   "            c = text[i]",
   "            if c != '$':",
   "                done += c",
   "                i += 1",
   "                continue",
   "            if text[i + 1:i + 2] == '$':",
   "                done += '$'",
   "                i += 2",
   "                continue",
   "            if text[i + 1:i + 2] == '\x7b':",
   "                j = text.find('\x7d', i)",
   "                name = text[i + 2:j]",
   "                after = j + 1",
   "            else:",
   "                j = i + 1",
   "                while j < len(text) and (text[j].isalnum() or text[j] == '_'):",
   "                    j += 1",
   "                name = text[i + 1:j]",
   "                after = j",
   "            if not name.isidentifier():",
   "                if not safe:",
   "                    raise ValueError('Invalid placeholder in string: line 1, col %d' % (i + 1))",
   "                done += c",
   "                i += 1",
   "            elif name in table or not safe:",
   "                done += str(table[name])",
   "                i = after",
   "            else:",
   "                done += text[i:after]",
   "                i = after",
   "        return done",
   "    def substitute(self, mapping=\x7b\x7d, /, **kws):",
   "        return self._fill(\x7b**mapping, **kws\x7d, False)",
   "    def safe_substitute(self, mapping=\x7b\x7d, /, **kws):",
   "        return self._fill(\x7b**mapping, **kws\x7d, True)",
   "class Formatter:",
   "    def format(self, format_string, /, *args, **kwargs):",
   "        return format_string.format(*args, **kwargs)"]

/-- Lines of texts. -/
def linesSource : String := lines
  ["def dedent(text):",
   "    lines = text.split('\\n')",
   "    margin = None",
   "    for line in lines:",
   "        stripped = line.lstrip(' \\t')",
   "        if not stripped:",
   "            continue",
   "        indent = line[:len(line) - len(stripped)]",
   "        if margin is None:",
   "            margin = indent",
   "        else:",
   "            n = 0",
   "            while n < len(margin) and n < len(indent) and margin[n] == indent[n]:",
   "                n += 1",
   "            margin = margin[:n]",
   "    margin = margin or ''",
   "    return '\\n'.join(line[len(margin):] if line.strip(' \\t') else '' for line in lines)",
   "def indent(text, prefix, predicate=None):",
   "    keep = predicate or (lambda line: line.strip())",
   "    return ''.join(prefix + l if keep(l) else l for l in text.splitlines(True))",
   "def wrap(text, width=70, *, initial_indent='', subsequent_indent='', **kwargs):",
   "    lines = []",
   "    here = ''",
   "    for word in text.split():",
   "        start = subsequent_indent if lines else initial_indent",
   "        if here and len(start) + len(here) + 1 + len(word) > width:",
   "            lines.append(start + here)",
   "            here = word",
   "        else:",
   "            here = here + ' ' + word if here else word",
   "    if here:",
   "        lines.append((subsequent_indent if lines else initial_indent) + here)",
   "    return lines",
   "def fill(text, width=70, **kwargs):",
   "    return '\\n'.join(wrap(text, width, **kwargs))",
   "def shorten(text, width, *, placeholder=' [...]'):",
   "    words = text.split()",
   "    whole = ' '.join(words)",
   "    if len(whole) <= width:",
   "        return whole",
   "    while words and len(' '.join(words)) + len(placeholder) > width:",
   "        words.pop()",
   "    return ' '.join(words) + placeholder if words else placeholder.strip()"]

/-- Words as the shell reads them. -/
def wordsSource : String := lines
  ["def quote(s):",
   "    if not s:",
   "        return \"''\"",
   "    safe = 'abcdefghijklmnopqrstuvwxyzABCDEFGHIJKLMNOPQRSTUVWXYZ0123456789_@%+=:,./-'",
   "    if all(c in safe for c in s):",
   "        return s",
   "    return \"'\" + s.replace(\"'\", \"'\\\"'\\\"'\") + \"'\"",
   "def join(split_command):",
   "    return ' '.join(quote(arg) for arg in split_command)",
   "def split(s, comments=False, posix=True):",
   "    words = []",
   "    here = None",
   "    i = 0",
   "    while i < len(s):",
   "        c = s[i]",
   "        if c in ' \\t\\r\\n':",
   "            if here is not None:",
   "                words.append(here)",
   "                here = None",
   "        elif c == '#' and comments and here is None:",
   "            while i < len(s) and s[i] != '\\n':",
   "                i += 1",
   "        elif c == \"'\":",
   "            j = s.find(\"'\", i + 1)",
   "            if j < 0:",
   "                raise ValueError('No closing quotation')",
   "            here = (here or '') + s[i + 1:j]",
   "            i = j",
   "        elif c == '\"':",
   "            here = here or ''",
   "            i += 1",
   "            while i < len(s) and s[i] != '\"':",
   "                if s[i] == '\\\\' and s[i + 1:i + 2] in ('\"', '\\\\'):",
   "                    i += 1",
   "                here += s[i]",
   "                i += 1",
   "            if i >= len(s):",
   "                raise ValueError('No closing quotation')",
   "        elif c == '\\\\':",
   "            i += 1",
   "            if i >= len(s):",
   "                raise ValueError('No escaped character')",
   "            here = (here or '') + s[i]",
   "        else:",
   "            here = (here or '') + c",
   "        i += 1",
   "    if here is not None:",
   "        words.append(here)",
   "    return words"]

/-- Codings by their names. -/
def codingsSource : String := lines
  ["BOM_UTF8 = b'\\xef\\xbb\\xbf'",
   "BOM_UTF16_LE = b'\\xff\\xfe'",
   "BOM_UTF16_BE = b'\\xfe\\xff'",
   "def encode(obj, encoding='utf-8', errors='strict'):",
   "    return obj.encode(encoding, errors)",
   "def decode(obj, encoding='utf-8', errors='strict'):",
   "    return obj.decode(encoding, errors)",
   "def lookup(encoding):",
   "    ''.encode(encoding)",
   "    return encoding",
   "def register_error(name, handler):",
   "    return None",
   "def open(filename, mode='r', encoding=None, errors='strict', buffering=-1):",
   "    return _open(filename, mode, -1, encoding, errors)",
   "def getreader(encoding):",
   "    return lambda stream: stream",
   "getwriter = getreader"]

/-- Bytes as texts of a small alphabet. -/
def base64Source : String := lines
  ["import binascii",
   "def _bytes(s):",
   "    if isinstance(s, str):",
   "        try:",
   "            return s.encode('ascii')",
   "        except UnicodeEncodeError:",
   "            raise ValueError('string argument should contain only ASCII characters')",
   "    if isinstance(s, (bytes, bytearray)):",
   "        return bytes(s)",
   "    raise TypeError('argument should be a bytes-like object or ASCII string, not %r' % type(s).__name__)",
   "def b64encode(s, altchars=None):",
   "    encoded = binascii.b2a_base64(s, newline=False)",
   "    if altchars is not None:",
   "        return encoded.replace(b'+', altchars[:1]).replace(b'/', altchars[1:])",
   "    return encoded",
   "def b64decode(s, altchars=None, validate=False):",
   "    s = _bytes(s)",
   "    if altchars is not None:",
   "        altchars = _bytes(altchars)",
   "        s = s.replace(altchars[:1], b'+').replace(altchars[1:], b'/')",
   "    return binascii.a2b_base64(s, strict_mode=validate)",
   "def standard_b64encode(s):",
   "    return b64encode(s)",
   "def standard_b64decode(s):",
   "    return b64decode(s)",
   "def urlsafe_b64encode(s):",
   "    return b64encode(s, b'-_')",
   "def urlsafe_b64decode(s):",
   "    return b64decode(s, b'-_')",
   "def encodebytes(s):",
   "    pieces = []",
   "    for i in range(0, len(s), 57):",
   "        pieces.append(binascii.b2a_base64(s[i:i + 57]))",
   "    return b''.join(pieces)",
   "def decodebytes(s):",
   "    return binascii.a2b_base64(s)",
   "def b16encode(s):",
   "    return binascii.hexlify(s).upper()",
   "def b16decode(s, casefold=False):",
   "    return binascii.unhexlify(_bytes(s))"]

/-- Writers and readers of documents. -/
def documentsSource : String := lines
  ["class JSONEncoder:",
   "    def __init__(self, **kwargs):",
   "        self._kwargs = kwargs",
   "        self.__dict__.update(kwargs)",
   "    def default(self, o):",
   "        raise TypeError('Object of type ' + type(o).__name__ + ' is not JSON serializable')",
   "    def encode(self, o):",
   "        return dumps(o, default=self.default, **self._kwargs)",
   "    def iterencode(self, o, _one_shot=False):",
   "        yield self.encode(o)",
   "class JSONDecoder:",
   "    def __init__(self, **kwargs):",
   "        self._kwargs = kwargs",
   "    def decode(self, s):",
   "        return loads(s, **self._kwargs)"]

end Handover.Interpreter.Library
