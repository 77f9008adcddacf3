import TypeComments.Text.Case
import TypeComments.Text.Lines
import TypeComments.Text.Quoted

/-!
Encodings of source files. A file may start with a byte order mark, and a comment on its first or second
line may name its encoding; without either it is in UTF-8. Files are held as the UTF-8 texts of their
bytes.
-/

namespace TypeComments.Command

/-- How a source file is encoded. -/
inductive Encoding where
  /-- UTF-8, with or without a byte order mark. -/
  | utf8 (mark : Bool)
  | latin
  | ascii
  /-- Another encoding that agrees with ASCII. -/
  | other
  deriving DecidableEq

/-- Why the encoding of a file cannot be found, or its text not be read. -/
inductive EncodingFault where
  | unknown (name : List Char)
  /-- A file with a byte order mark names another encoding. -/
  | contradiction
  /-- A byte is not in the encoding. -/
  | badByte (byte place : Nat)

def EncodingFault.message : EncodingFault → List Char
  | .unknown name => "unknown encoding: ".toList ++ name
  | .contradiction => "encoding problem: utf-8".toList
  | .badByte byte place =>
    "'ascii' codec can't decode byte 0x".toList ++ hexDigits 2 byte ++ " in position ".toList ++
      (toString place).toList ++ ": ordinal not in range(128)".toList

def asciiNames : List (List Char) :=
  ["646", "ansi_x3.4_1968", "ansi_x3.4_1986", "ansi_x3_4_1968", "ascii", "cp367", "csascii",
   "ibm367", "iso646_us", "iso_646.irv_1991", "iso_ir_6", "us", "us_ascii"].map String.toList

def latinNames : List (List Char) :=
  ["8859", "cp819", "csisolatin1", "ibm819", "iso8859", "iso8859_1", "iso_8859_1",
   "iso_8859_1_1987", "iso_ir_100", "l1", "latin", "latin1", "latin_1"].map String.toList

def utf8Names : List (List Char) :=
  ["cp65001", "u8", "utf", "utf8", "utf8_ucs2", "utf8_ucs4", "utf_8"].map String.toList

def otherNames : List (List Char) :=
  ["1125", "1250", "1251", "1252", "1253", "1254", "1255", "1256", "1257", "1258", "437", "775",
   "850", "852", "855", "857", "858", "860", "861", "862", "863", "864", "865", "866", "869",
   "932", "936", "949", "950", "arabic", "asmo_708", "big5", "big5_hkscs", "big5_tw", "big5hkscs",
   "chinese", "cp1006", "cp1125", "cp1250", "cp1251", "cp1252", "cp1253", "cp1254", "cp1255",
   "cp1256", "cp1257", "cp1258", "cp1361", "cp154", "cp437", "cp720", "cp737", "cp775", "cp850",
   "cp852", "cp855", "cp856", "cp857", "cp858", "cp860", "cp861", "cp862", "cp863", "cp864",
   "cp865", "cp866", "cp866u", "cp869", "cp874", "cp932", "cp936", "cp949", "cp950", "cp_gr",
   "cp_is", "csbig5", "csibm855", "csibm857", "csibm858", "csibm860", "csibm861", "csibm863",
   "csibm864", "csibm865", "csibm866", "csibm869", "csiso2022jp", "csiso2022kr", "csiso58gb231280",
   "csisolatin2", "csisolatin3", "csisolatin4", "csisolatin5", "csisolatin6", "csisolatinarabic",
   "csisolatincyrillic", "csisolatingreek", "csisolatinhebrew", "cskoi8r", "cspc775baltic",
   "cspc850multilingual", "cspc862latinhebrew", "cspc8codepage437", "cspcp852", "csptcp154",
   "csshiftjis", "cyrillic", "cyrillic_asian", "ecma_114", "ecma_118", "elot_928", "euc_cn",
   "euc_jis2004", "euc_jis_2004", "euc_jisx0213", "euc_jp", "euc_kr", "euccn", "eucgb2312_cn",
   "eucjis2004", "eucjisx0213", "eucjp", "euckr", "gb18030", "gb18030_2000", "gb2312",
   "gb2312_1980", "gb2312_80", "gbk", "greek", "greek8", "hebrew", "hkscs", "hz", "hz_gb",
   "hz_gb_2312", "hzgb", "ibm1125", "ibm437", "ibm775", "ibm850", "ibm852", "ibm855", "ibm857",
   "ibm858", "ibm860", "ibm861", "ibm862", "ibm863", "ibm864", "ibm865", "ibm866", "ibm869",
   "iso2022_jp", "iso2022_jp_1", "iso2022_jp_2", "iso2022_jp_2004", "iso2022_jp_3",
   "iso2022_jp_ext", "iso2022_kr", "iso2022jp", "iso2022jp_1", "iso2022jp_2", "iso2022jp_2004",
   "iso2022jp_3", "iso2022jp_ext", "iso2022kr", "iso8859_1", "iso8859_10", "iso8859_11",
   "iso8859_13", "iso8859_14", "iso8859_15", "iso8859_16", "iso8859_2", "iso8859_3", "iso8859_4",
   "iso8859_5", "iso8859_6", "iso8859_7", "iso8859_8", "iso8859_9", "iso_2022_jp", "iso_2022_jp_1",
   "iso_2022_jp_2", "iso_2022_jp_2004", "iso_2022_jp_3", "iso_2022_jp_ext", "iso_2022_kr",
   "iso_8859_10", "iso_8859_10_1992", "iso_8859_11", "iso_8859_11_2001", "iso_8859_13",
   "iso_8859_14", "iso_8859_14_1998", "iso_8859_15", "iso_8859_16", "iso_8859_16_2001",
   "iso_8859_2", "iso_8859_2_1987", "iso_8859_3", "iso_8859_3_1988", "iso_8859_4",
   "iso_8859_4_1988", "iso_8859_5", "iso_8859_5_1988", "iso_8859_6", "iso_8859_6_1987",
   "iso_8859_7", "iso_8859_7_1987", "iso_8859_8", "iso_8859_8_1988", "iso_8859_9",
   "iso_8859_9_1989", "iso_celtic", "iso_ir_101", "iso_ir_109", "iso_ir_110", "iso_ir_126",
   "iso_ir_127", "iso_ir_138", "iso_ir_144", "iso_ir_148", "iso_ir_157", "iso_ir_166",
   "iso_ir_199", "iso_ir_226", "iso_ir_58", "jisx0213", "johab", "koi8_r", "koi8_t", "koi8_u",
   "korean", "ks_c_5601", "ks_c_5601_1987", "ks_x_1001", "ksc5601", "ksx1001", "kz1048", "kz_1048",
   "l10", "l2", "l3", "l4", "l5", "l6", "l7", "l8", "l9", "latin10", "latin2", "latin3", "latin4",
   "latin5", "latin6", "latin7", "latin8", "latin9", "mac_arabic", "mac_centeuro", "mac_croatian",
   "mac_cyrillic", "mac_farsi", "mac_greek", "mac_iceland", "mac_latin2", "mac_roman",
   "mac_romanian", "mac_turkish", "maccentraleurope", "maccyrillic", "macgreek", "maciceland",
   "macintosh", "maclatin2", "macroman", "macturkish", "ms1361", "ms932", "ms936", "ms949",
   "ms950", "ms_kanji", "mskanji", "pt154", "ptcp154", "rk1048", "ruscii", "s_jis", "s_jis_2004",
   "s_jisx0213", "shift_jis", "shift_jis_2004", "shift_jisx0213", "shiftjis", "shiftjis2004",
   "shiftjisx0213", "sjis", "sjis_2004", "sjisx0213", "strk1048_2002", "thai", "tis620", "tis_620",
   "tis_620_0", "tis_620_2529_0", "tis_620_2529_1", "u_jis", "uhc", "ujis", "windows_1250",
   "windows_1251", "windows_1252", "windows_1253", "windows_1254", "windows_1255", "windows_1256",
   "windows_1257", "windows_1258", "x_mac_japanese", "x_mac_korean", "x_mac_simp_chinese",
   "x_mac_trad_chinese"].map String.toList

/-- A name of an encoding in lower case, with one underscore for each run of other signs. -/
def plainName (name : List Char) : List Char :=
  List.intercalate ['_'] ((List.splitOn '_' ((lower name).map fun c =>
    if c.isAlphanum || c == '.' then c else '_')).filter (!·.isEmpty))

/-- Does a name stand for this encoding, perhaps with an addition? Only its start counts. -/
def namesEncoding (names : List String) (name : List Char) : Bool :=
  let start := (lower (name.take 12)).map fun c => if c == '_' then '-' else c
  names.any fun n => start == n.toList || (n.toList ++ ['-']).isPrefixOf start

def encodingOfName (name : List Char) : Except EncodingFault Encoding :=
  let plain := plainName name
  if namesEncoding ["utf-8"] name || utf8Names.contains plain then .ok (.utf8 false)
  else if namesEncoding ["latin-1", "iso-8859-1", "iso-latin-1"] name || latinNames.contains plain then
    .ok .latin
  else if asciiNames.contains plain then .ok .ascii
  else if otherNames.contains plain then .ok .other
  else .error (.unknown name)

/-- May `c` stand before a comment on its line? -/
def isMargin (c : Char) : Bool :=
  c == ' ' || c == '\t' || c == '\x0c'

/-- The name of an encoding after the word `coding` and a colon or equals sign. -/
def namedEncoding? : List Char → Option (List Char)
  | [] => none
  | c :: rest =>
    let here : Option (List Char) :=
      if "coding".toList.isPrefixOf (c :: rest) then
        match (c :: rest).drop 6 with
        | d :: after =>
          let name := (after.dropWhile fun c => c == ' ' || c == '\t').takeWhile fun c =>
            c.isAlphanum || c == '_' || c == '-' || c == '.'
          if (d == ':' || d == '=') && !name.isEmpty then some name else none
        | [] => none
      else none
    here <|> namedEncoding? rest

/-- The encoding that a line names in a comment. -/
def declaredEncoding? (line : List Char) : Option (List Char) :=
  if line.all (fun c => c.toNat < 128) then
    match line.dropWhile isMargin with
    | '#' :: rest => namedEncoding? (rest.takeWhile (· != '\n'))
    | _ => none
  else none

/-- Is there nothing but a comment on a line? -/
def isBareLine (line : List Char) : Bool :=
  match line.dropWhile isMargin with
  | [] => true
  | c :: _ => c == '#' || c == '\r' || c == '\n'

def encodingOf (text : List Char) : Except EncodingFault Encoding :=
  let mark := text.head? == some '\ufeff'
  let text := if mark then text.drop 1 else text
  let declared := match physicalLines text with
    | [] => none
    | first :: rest =>
      match declaredEncoding? first, rest with
      | some name, _ => some name
      | none, second :: _ => if isBareLine first then declaredEncoding? second else none
      | none, [] => none
  match declared with
  | none => .ok (.utf8 mark)
  | some name =>
    match encodingOfName name with
    | .error fault => .error fault
    | .ok found =>
      if !mark then .ok found
      else if found = .utf8 false then .ok (.utf8 true)
      else .error .contradiction

def utf8Bytes (text : List Char) : List Nat :=
  (String.ofList text).toUTF8.toList.map (·.toNat)

def decode (text : List Char) : Encoding → Except EncodingFault (List Char)
  | .utf8 mark => .ok (if mark then text.drop 1 else text)
  | .latin => .ok ((utf8Bytes text).map Char.ofNat)
  | .ascii =>
    match (utf8Bytes text).zipIdx.find? (fun (byte, _) => 128 ≤ byte) with
    | some (byte, place) => .error (.badByte byte place)
    | none => .ok text
  | .other => .ok text

def encode (text : List Char) : Encoding → List Char
  | .utf8 mark => if mark then '\ufeff' :: text else text
  | .latin =>
    let bytes : ByteArray := ⟨(text.map fun c => c.toNat.toUInt8).toArray⟩
    ((String.fromUTF8? bytes).map String.toList).getD text
  | .ascii => text
  | .other => text

end TypeComments.Command
