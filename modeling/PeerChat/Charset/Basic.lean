import PeerChat.Charset.Big5
import PeerChat.Charset.EucJp
import PeerChat.Charset.EucKr
import PeerChat.Charset.Gb18030
import PeerChat.Charset.Iso2022Jp
import PeerChat.Charset.ShiftJis
import PeerChat.Charset.Utf16
import PeerChat.Charset.Utf8
import PeerChat.Text.Blank

/-!
Encodings of texts, known by their labels. A mark of the order of bytes at the start of a text wins over the label that
was given for it.
-/

namespace PeerChat

/-- An encoding of texts as bytes. -/
inductive Charset
  | utf8
  | utf16 (bigEndian : Bool)
  | oneByte (upper : Charset.UpperHalf)
  | twoByte (pairs : Charset.TwoByte)
  | eucJp
  | gb18030
  | iso2022Jp
  /-- An encoding that is known, but not safe to read. -/
  | unreadable

namespace Charset

/-- The encodings with their labels. -/
def labels : List (Charset × List String) := [
  (utf8, ["unicode-1-1-utf-8", "unicode11utf8", "unicode20utf8", "utf-8", "utf8", "x-unicode20utf8"]),
  (utf16 false, ["csunicode", "iso-10646-ucs-2", "ucs-2", "unicode", "unicodefeff", "utf-16", "utf-16le"]),
  (utf16 true, ["unicodefffe", "utf-16be"]),
  (oneByte ibm866, ["866", "cp866", "csibm866", "ibm866"]),
  (oneByte iso8859x2, ["csisolatin2", "iso-8859-2", "iso-ir-101", "iso8859-2", "iso88592", "iso_8859-2",
    "iso_8859-2:1987", "l2", "latin2"]),
  (oneByte iso8859x3, ["csisolatin3", "iso-8859-3", "iso-ir-109", "iso8859-3", "iso88593", "iso_8859-3",
    "iso_8859-3:1988", "l3", "latin3"]),
  (oneByte iso8859x4, ["csisolatin4", "iso-8859-4", "iso-ir-110", "iso8859-4", "iso88594", "iso_8859-4",
    "iso_8859-4:1988", "l4", "latin4"]),
  (oneByte iso8859x5, ["csisolatincyrillic", "cyrillic", "iso-8859-5", "iso-ir-144", "iso8859-5", "iso88595",
    "iso_8859-5", "iso_8859-5:1988"]),
  (oneByte iso8859x6, ["arabic", "asmo-708", "csiso88596e", "csiso88596i", "csisolatinarabic", "ecma-114",
    "iso-8859-6", "iso-8859-6-e", "iso-8859-6-i", "iso-ir-127", "iso8859-6", "iso88596", "iso_8859-6",
    "iso_8859-6:1987"]),
  (oneByte iso8859x7, ["csisolatingreek", "ecma-118", "elot_928", "greek", "greek8", "iso-8859-7", "iso-ir-126",
    "iso8859-7", "iso88597", "iso_8859-7", "iso_8859-7:1987", "sun_eu_greek"]),
  (oneByte iso8859x8, ["csiso88598e", "csiso88598i", "csisolatinhebrew", "hebrew", "iso-8859-8", "iso-8859-8-e",
    "iso-8859-8-i", "iso-ir-138", "iso8859-8", "iso88598", "iso_8859-8", "iso_8859-8:1988", "logical", "visual"]),
  (oneByte iso8859x10, ["csisolatin6", "iso-8859-10", "iso-ir-157", "iso8859-10", "iso885910", "l6", "latin6"]),
  (oneByte iso8859x13, ["iso-8859-13", "iso8859-13", "iso885913"]),
  (oneByte iso8859x14, ["iso-8859-14", "iso8859-14", "iso885914"]),
  (oneByte iso8859x15, ["csisolatin9", "iso-8859-15", "iso8859-15", "iso885915", "iso_8859-15", "l9"]),
  (oneByte iso8859x16, ["iso-8859-16"]),
  (oneByte koi8r, ["cskoi8r", "koi", "koi8", "koi8-r", "koi8_r"]),
  (oneByte koi8u, ["koi8-ru", "koi8-u"]),
  (oneByte macintosh, ["csmacintosh", "mac", "macintosh", "x-mac-roman"]),
  (oneByte windows874, ["dos-874", "iso-8859-11", "iso8859-11", "iso885911", "tis-620", "windows-874"]),
  (oneByte windows1250, ["cp1250", "windows-1250", "x-cp1250"]),
  (oneByte windows1251, ["cp1251", "windows-1251", "x-cp1251"]),
  (oneByte windows1252, ["ansi_x3.4-1968", "ascii", "cp1252", "cp819", "csisolatin1", "ibm819", "iso-8859-1",
    "iso-ir-100", "iso8859-1", "iso88591", "iso_8859-1", "iso_8859-1:1987", "l1", "latin1", "us-ascii",
    "windows-1252", "x-cp1252"]),
  (oneByte windows1253, ["cp1253", "windows-1253", "x-cp1253"]),
  (oneByte windows1254, ["cp1254", "csisolatin5", "iso-8859-9", "iso-ir-148", "iso8859-9", "iso88599", "iso_8859-9",
    "iso_8859-9:1989", "l5", "latin5", "windows-1254", "x-cp1254"]),
  (oneByte windows1255, ["cp1255", "windows-1255", "x-cp1255"]),
  (oneByte windows1256, ["cp1256", "windows-1256", "x-cp1256"]),
  (oneByte windows1257, ["cp1257", "windows-1257", "x-cp1257"]),
  (oneByte windows1258, ["cp1258", "windows-1258", "x-cp1258"]),
  (oneByte macCyrillic, ["x-mac-cyrillic", "x-mac-ukrainian"]),
  (oneByte userDefined, ["x-user-defined"]),
  (gb18030, ["chinese", "csgb2312", "csiso58gb231280", "gb18030", "gb2312", "gb_2312", "gb_2312-80", "gbk",
    "iso-ir-58", "x-gbk"]),
  (twoByte big5, ["big5", "big5-hkscs", "cn-big5", "csbig5", "x-x-big5"]),
  (eucJp, ["cseucpkdfmtjapanese", "euc-jp", "x-euc-jp"]),
  (iso2022Jp, ["csiso2022jp", "iso-2022-jp"]),
  (twoByte shiftJis, ["csshiftjis", "ms932", "ms_kanji", "shift-jis", "shift_jis", "sjis", "windows-31j", "x-sjis"]),
  (twoByte eucKr, ["cseuckr", "csksc56011987", "euc-kr", "iso-ir-149", "korean", "ks_c_5601-1987", "ks_c_5601-1989",
    "ksc5601", "ksc_5601", "windows-949"]),
  (unreadable, ["csiso2022kr", "hz-gb-2312", "iso-2022-cn", "iso-2022-cn-ext", "iso-2022-kr", "replacement"])]

/-- The encoding of a label; blanks around it do not count, nor does the case of its letters. -/
def ofLabel? (label : List Char) : Option Charset :=
  let isBlank (c : Char) : Bool := c == ' ' || c == '\t' || c == '\n' || c == '\r' || c == '\x0c'
  let name := String.ofList ((Text.dropTrailing isBlank (label.dropWhile isBlank)).map Char.toLower)
  (labels.find? fun (_, labels) => labels.contains name).map (·.1)

def read : Charset → ByteArray → String
  | utf8, bs => Utf8.read bs
  | utf16 bigEndian, bs => Utf16.read bigEndian bs
  | oneByte upper, bs => String.ofList (bs.toList.map upper.char)
  | twoByte pairs, bs => pairs.read bs
  | eucJp, bs => EucJp.read bs
  | gb18030, bs => Gb18030.read bs
  | iso2022Jp, bs => Iso2022Jp.read bs
  | unreadable, bs => if bs.isEmpty then "" else String.singleton unknown

/-- The encoding that a mark of the order of bytes shows, and the bytes after the mark. -/
def ofMark? (bs : ByteArray) : Option (Charset × ByteArray) :=
  match (bs.extract 0 3).toList with
  | [0xEF, 0xBB, 0xBF] => some (utf8, bs.extract 3 bs.size)
  | 0xFF :: 0xFE :: _ => some (utf16 false, bs.extract 2 bs.size)
  | 0xFE :: 0xFF :: _ => some (utf16 true, bs.extract 2 bs.size)
  | _ => none

/-- The text of bytes, in the encoding that their mark shows, or else in this one. -/
def decode (charset : Charset) (bs : ByteArray) : String :=
  match ofMark? bs with
  | some (marked, bs) => marked.read bs
  | none => charset.read bs

end Charset

end PeerChat
