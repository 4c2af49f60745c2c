import OnAir.Charset

/-!
# Names of character sets

Every set has a name of its own and may have aliases. Case does not count, and any stretch of other
characters than letters, digits and dots counts as one underscore. A dot may stand for an
underscore too, but only in an alias.
-/

namespace OnAir.Charset

def names : List (Charset × String × List String) := [
  (.utf8 false, "utf_8", ["cp65001", "u8", "utf", "utf8", "utf8_ucs2", "utf8_ucs4"]),
  (.utf8 true, "utf_8_sig", []),
  (.utf7, "utf_7", ["u7", "unicode_1_1_utf_7", "utf7"]),
  (.utf16 none, "utf_16", ["u16", "utf16"]),
  (.utf16 (some .little), "utf_16_le", ["unicodelittleunmarked", "utf_16le"]),
  (.utf16 (some .big), "utf_16_be", ["unicodebigunmarked", "utf_16be"]),
  (.utf32 none, "utf_32", ["u32", "utf32"]),
  (.utf32 (some .little), "utf_32_le", ["utf_32le"]),
  (.utf32 (some .big), "utf_32_be", ["utf_32be"]),
  (.page .ascii, "ascii", ["646", "ansi_x3.4_1968", "ansi_x3.4_1986", "ansi_x3_4_1968", "cp367",
    "csascii", "ibm367", "iso646_us", "iso_646.irv_1991", "iso_ir_6", "us", "us_ascii"]),
  (.page .latin1, "latin_1", ["8859", "cp819", "csisolatin1", "ibm819", "iso8859", "iso8859_1",
    "iso_8859_1", "iso_8859_1_1987", "iso_ir_100", "l1", "latin", "latin1"]),
  (.page .latin1, "iso8859_1", []),
  (.page .latin1, "charmap", []),
  (.page .iso2, "iso8859_2", ["csisolatin2", "iso_8859_2", "iso_8859_2_1987", "iso_ir_101",
    "l2", "latin2"]),
  (.page .iso3, "iso8859_3", ["csisolatin3", "iso_8859_3", "iso_8859_3_1988", "iso_ir_109",
    "l3", "latin3"]),
  (.page .iso4, "iso8859_4", ["csisolatin4", "iso_8859_4", "iso_8859_4_1988", "iso_ir_110",
    "l4", "latin4"]),
  (.page .iso5, "iso8859_5", ["csisolatincyrillic", "cyrillic", "iso_8859_5", "iso_8859_5_1988",
    "iso_ir_144"]),
  (.page .iso6, "iso8859_6", ["arabic", "asmo_708", "csisolatinarabic", "ecma_114",
    "iso_8859_6", "iso_8859_6_1987", "iso_ir_127"]),
  (.page .iso7, "iso8859_7", ["csisolatingreek", "ecma_118", "elot_928", "greek", "greek8",
    "iso_8859_7", "iso_8859_7_1987", "iso_ir_126"]),
  (.page .iso8, "iso8859_8", ["csisolatinhebrew", "hebrew", "iso_8859_8", "iso_8859_8_1988",
    "iso_ir_138"]),
  (.page .iso9, "iso8859_9", ["csisolatin5", "iso_8859_9", "iso_8859_9_1989", "iso_ir_148",
    "l5", "latin5"]),
  (.page .iso10, "iso8859_10", ["csisolatin6", "iso_8859_10", "iso_8859_10_1992", "iso_ir_157",
    "l6", "latin6"]),
  (.page .iso11, "iso8859_11", ["iso_8859_11", "iso_8859_11_2001", "thai"]),
  (.page .iso13, "iso8859_13", ["iso_8859_13", "l7", "latin7"]),
  (.page .iso14, "iso8859_14", ["iso_8859_14", "iso_8859_14_1998", "iso_celtic", "iso_ir_199",
    "l8", "latin8"]),
  (.page .iso15, "iso8859_15", ["iso_8859_15", "l9", "latin9"]),
  (.page .iso16, "iso8859_16", ["iso_8859_16", "iso_8859_16_2001", "iso_ir_226", "l10",
    "latin10"]),
  (.page .thai, "tis_620", ["iso_ir_166", "tis620", "tis_620_0", "tis_620_2529_0",
    "tis_620_2529_1"]),
  (.page .russian, "koi8_r", ["cskoi8r"]),
  (.page .ukrainian, "koi8_u", []),
  (.page .tajik, "koi8_t", []),
  (.page .kazakh, "kz1048", ["kz_1048", "rk1048", "strk1048_2002"]),
  (.page .asianCyrillic, "ptcp154", ["cp154", "csptcp154", "cyrillic_asian", "pt154"]),
  (.page .windows1250, "cp1250", ["1250", "windows_1250"]),
  (.page .windows1251, "cp1251", ["1251", "windows_1251"]),
  (.page .windows1252, "cp1252", ["1252", "windows_1252"]),
  (.page .windows1253, "cp1253", ["1253", "windows_1253"]),
  (.page .windows1254, "cp1254", ["1254", "windows_1254"]),
  (.page .windows1255, "cp1255", ["1255", "windows_1255"]),
  (.page .windows1256, "cp1256", ["1256", "windows_1256"]),
  (.page .windows1257, "cp1257", ["1257", "windows_1257"]),
  (.page .windows1258, "cp1258", ["1258", "windows_1258"]),
  (.page .windows874, "cp874", []),
  (.page .macRoman, "mac_roman", ["macintosh", "macroman"]),
  (.page .macIceland, "mac_iceland", ["maciceland"]),
  (.page .macTurkish, "mac_turkish", ["macturkish"]),
  (.page .macRomanian, "mac_romanian", []),
  (.page .macCroatian, "mac_croatian", []),
  (.page .macCentral, "mac_latin2", ["mac_centeuro", "maccentraleurope", "maclatin2"]),
  (.page .macCyrillic, "mac_cyrillic", ["maccyrillic"]),
  (.page .macGreek, "mac_greek", ["macgreek"]),
  (.page .macArabic, "mac_arabic", []),
  (.page .macFarsi, "mac_farsi", []),
  (.page .palm, "palmos", []),
  (.page .roman8, "hp_roman8", ["cp1051", "ibm1051", "r8", "roman8"]),
  (.page .page437, "cp437", ["437", "cspc8codepage437", "ibm437"]),
  (.page .page720, "cp720", []),
  (.page .page737, "cp737", []),
  (.page .page775, "cp775", ["775", "cspc775baltic", "ibm775"]),
  (.page .page850, "cp850", ["850", "cspc850multilingual", "ibm850"]),
  (.page .page852, "cp852", ["852", "cspcp852", "ibm852"]),
  (.page .page855, "cp855", ["855", "csibm855", "ibm855"]),
  (.page .page856, "cp856", []),
  (.page .page857, "cp857", ["857", "csibm857", "ibm857"]),
  (.page .page858, "cp858", ["858", "csibm858", "ibm858"]),
  (.page .page860, "cp860", ["860", "csibm860", "ibm860"]),
  (.page .page861, "cp861", ["861", "cp_is", "csibm861", "ibm861"]),
  (.page .page862, "cp862", ["862", "cspc862latinhebrew", "ibm862"]),
  (.page .page863, "cp863", ["863", "csibm863", "ibm863"]),
  (.page .page864, "cp864", ["864", "csibm864", "ibm864"]),
  (.page .page865, "cp865", ["865", "csibm865", "ibm865"]),
  (.page .page866, "cp866", ["866", "csibm866", "ibm866"]),
  (.page .page869, "cp869", ["869", "cp_gr", "csibm869", "ibm869"]),
  (.page .page1006, "cp1006", []),
  (.page .page1125, "cp1125", ["1125", "cp866u", "ibm1125", "ruscii"]),
  (.page .page37, "cp037", ["037", "csibm037", "ebcdic_cp_ca", "ebcdic_cp_nl", "ebcdic_cp_us",
    "ebcdic_cp_wt", "ibm037", "ibm039"]),
  (.page .page273, "cp273", ["273", "csibm273", "ibm273"]),
  (.page .page424, "cp424", ["424", "csibm424", "ebcdic_cp_he", "ibm424"]),
  (.page .page500, "cp500", ["500", "csibm500", "ebcdic_cp_be", "ebcdic_cp_ch", "ibm500"]),
  (.page .page875, "cp875", []),
  (.page .page1026, "cp1026", ["1026", "csibm1026", "ibm1026"]),
  (.page .page1140, "cp1140", ["1140", "ibm1140"]),
  (.escaped false, "unicode_escape", []),
  (.escaped true, "raw_unicode_escape", []),
  (.punycode, "punycode", []),
  (.shiftJis false, "shift_jis", ["csshiftjis", "s_jis", "shiftjis", "sjis", "x_mac_japanese"]),
  (.shiftJis true, "cp932", ["932", "ms932", "ms_kanji", "mskanji"]),
  (.eucJp, "euc_jp", ["eucjp", "u_jis", "ujis"]),
  (.iso2022 Iso2022.japanese, "iso2022_jp", ["csiso2022jp", "iso2022jp", "iso_2022_jp"]),
  (.iso2022 Iso2022.japanese1, "iso2022_jp_1", ["iso2022jp_1", "iso_2022_jp_1"]),
  (.iso2022 Iso2022.japanese2, "iso2022_jp_2", ["iso2022jp_2", "iso_2022_jp_2"]),
  (.iso2022 Iso2022.japaneseKana, "iso2022_jp_ext", ["iso2022jp_ext", "iso_2022_jp_ext"]),
  (.iso2022 Iso2022.korean, "iso2022_kr", ["csiso2022kr", "iso2022kr", "iso_2022_kr"]),
  (.korean false, "euc_kr", ["euckr", "korean", "ks_c_5601", "ks_c_5601_1987", "ks_x_1001",
    "ksc5601", "ksx1001", "x_mac_korean"]),
  (.korean true, "cp949", ["949", "ms949", "uhc"]),
  (.chinese, "gb2312", ["chinese", "csiso58gb231280", "euc_cn", "euccn", "eucgb2312_cn",
    "gb2312_1980", "gb2312_80", "iso_ir_58", "x_mac_simp_chinese"]),
  (.chineseMarked, "hz", ["hz_gb", "hz_gb_2312", "hzgb"]),
  (.chineseExtended, "gbk", ["936", "cp936", "ms936"]),
  (.chineseFull, "gb18030", ["gb18030_2000"]),
  (.big5 false, "big5", ["big5_tw", "csbig5", "x_mac_trad_chinese"]),
  (.big5 true, "cp950", ["950", "ms950"]),
  (.hongKong, "big5hkscs", ["big5_hkscs", "hkscs"]),
  (.koreanCombining, "johab", ["cp1361", "ms1361"]),
  (.newJis .second, "euc_jis_2004", ["euc_jis2004", "eucjis2004", "jisx0213"]),
  (.newJis .first, "euc_jisx0213", ["eucjisx0213"]),
  (.newShiftJis .second, "shift_jis_2004", ["s_jis_2004", "shiftjis2004", "sjis_2004"]),
  (.newShiftJis .first, "shift_jisx0213", ["s_jisx0213", "shiftjisx0213", "sjisx0213"]),
  (.iso2022 (Iso2022.japaneseNew .second), "iso2022_jp_2004", ["iso2022jp_2004",
    "iso_2022_jp_2004"]),
  (.iso2022 (Iso2022.japaneseNew .first), "iso2022_jp_3", ["iso2022jp_3", "iso_2022_jp_3"]),
  (.noCharset .ofTexts, "rot_13", ["rot13"]),
  (.noCharset .ofBytes, "base64_codec", ["base64", "base_64"]),
  (.noCharset .ofBytes, "bz2_codec", ["bz2"]),
  (.noCharset .ofBytes, "hex_codec", ["hex"]),
  (.noCharset .ofBytes, "quopri_codec", ["quopri", "quoted_printable", "quotedprintable"]),
  (.noCharset .ofBytes, "uu_codec", ["uu"]),
  (.noCharset .ofBytes, "zlib_codec", ["zip", "zlib"]),
  (.noCharset .undefined, "undefined", []),
  (.noCharset .hostNames, "idna", [])]

def spelling : List Char → List Char
  | [] => []
  | c :: rest =>
    if c.isAlphanum ∨ c = '.' then c.toLower :: spelling rest
    else match spelling rest with
      | [] => []
      | '_' :: more => '_' :: more
      | more => '_' :: more

def ofAlias? (name : String) : Option Charset :=
  (names.find? fun (_, _, aliases) => aliases.contains name).map (·.1)

def ofName? (name : List Char) : Option Charset :=
  let name := (spelling name).dropWhile (· = '_')
  (ofAlias? (String.ofList name)).orElse fun _ =>
    (ofAlias? (String.ofList (name.map fun c => if c = '.' then '_' else c))).orElse fun _ =>
      (names.find? fun (_, own, _) => own = String.ofList name).map (·.1)

end OnAir.Charset
