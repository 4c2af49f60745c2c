import OnAir.Charset.Page.Basic

/-!
# Pages of desktops

The pages that the makers of desktop systems use.
-/

namespace OnAir.Charset.Page

def windows1250 : Page := .upper [
  "€�‚�„…†‡�‰Š‹ŚŤŽŹ",
  "�‘’“”•–—�™š›śťžź",
  "\xa0ˇ˘Ł¤Ą¦§¨©Ş«¬\xad®Ż",
  "°±˛ł´µ¶·¸ąş»Ľ˝ľż",
  "ŔÁÂĂÄĹĆÇČÉĘËĚÍÎĎ",
  "ĐŃŇÓÔŐÖ×ŘŮÚŰÜÝŢß",
  "ŕáâăäĺćçčéęëěíîď",
  "đńňóôőö÷řůúűüýţ˙"]

def windows1251 : Page := .upper [
  "ЂЃ‚ѓ„…†‡€‰Љ‹ЊЌЋЏ",
  "ђ‘’“”•–—�™љ›њќћџ",
  "\xa0ЎўЈ¤Ґ¦§Ё©Є«¬\xad®Ї",
  "°±Ііґµ¶·ё№є»јЅѕї",
  "АБВГДЕЖЗИЙКЛМНОП",
  "РСТУФХЦЧШЩЪЫЬЭЮЯ",
  "абвгдежзийклмноп",
  "рстуфхцчшщъыьэюя"]

def windows1252 : Page := .upper [
  "€�‚ƒ„…†‡ˆ‰Š‹Œ�Ž",
  "�‘’“”•–—˜™š›œ�žŸ",
  "\xa0¡¢£¤¥¦§¨©ª«¬\xad®¯",
  "°±²³´µ¶·¸¹º»¼½¾¿",
  "ÀÁÂÃÄÅÆÇÈÉÊËÌÍÎÏ",
  "ÐÑÒÓÔÕÖ×ØÙÚÛÜÝÞß",
  "àáâãäåæçèéêëìíîï",
  "ðñòóôõö÷øùúûüýþÿ"]

def windows1253 : Page := .upper [
  "€�‚ƒ„…†‡�‰�‹",
  "�‘’“”•–—�™�›",
  "\xa0΅Ά£¤¥¦§¨©�«¬\xad®―",
  "°±²³΄µ¶·ΈΉΊ»Ό½ΎΏ",
  "ΐΑΒΓΔΕΖΗΘΙΚΛΜΝΞΟ",
  "ΠΡ�ΣΤΥΦΧΨΩΪΫάέήί",
  "ΰαβγδεζηθικλμνξο",
  "πρςστυφχψωϊϋόύώ"]

def windows1254 : Page := .upper [
  "€�‚ƒ„…†‡ˆ‰Š‹Œ",
  "�‘’“”•–—˜™š›œ��Ÿ",
  "\xa0¡¢£¤¥¦§¨©ª«¬\xad®¯",
  "°±²³´µ¶·¸¹º»¼½¾¿",
  "ÀÁÂÃÄÅÆÇÈÉÊËÌÍÎÏ",
  "ĞÑÒÓÔÕÖ×ØÙÚÛÜİŞß",
  "àáâãäåæçèéêëìíîï",
  "ğñòóôõö÷øùúûüışÿ"]

def windows1255 : Page := .upper [
  "€�‚ƒ„…†‡ˆ‰�‹",
  "�‘’“”•–—˜™�›",
  "\xa0¡¢£₪¥¦§¨©×«¬\xad®¯",
  "°±²³´µ¶·¸¹÷»¼½¾¿",
  "\u05b0\u05b1\u05b2\u05b3\u05b4\u05b5\u05b6\u05b7\u05b8\u05b9�\u05bb\u05bc\u05bd־\u05bf",
  "׀\u05c1\u05c2׃װױײ׳״",
  "אבגדהוזחטיךכלםמן",
  "נסעףפץצקרשת��\u200e\u200f"]

def windows1256 : Page := .upper [
  "€پ‚ƒ„…†‡ˆ‰ٹ‹Œچژڈ",
  "گ‘’“”•–—ک™ڑ›œ\u200c\u200dں",
  "\xa0،¢£¤¥¦§¨©ھ«¬\xad®¯",
  "°±²³´µ¶·¸¹؛»¼½¾؟",
  "ہءآأؤإئابةتثجحخد",
  "ذرزسشصض×طظعغـفقك",
  "àلâمنهوçèéêëىيîï",
  "\u064b\u064c\u064d\u064eô\u064f\u0650÷\u0651ù\u0652ûü\u200e\u200fے"]

def windows1257 : Page := .upper [
  "€�‚�„…†‡�‰�‹�¨ˇ¸",
  "�‘’“”•–—�™�›�¯˛",
  "\xa0�¢£¤�¦§Ø©Ŗ«¬\xad®Æ",
  "°±²³´µ¶·ø¹ŗ»¼½¾æ",
  "ĄĮĀĆÄÅĘĒČÉŹĖĢĶĪĻ",
  "ŠŃŅÓŌÕÖ×ŲŁŚŪÜŻŽß",
  "ąįāćäåęēčéźėģķīļ",
  "šńņóōõö÷ųłśūüżž˙"]

def windows1258 : Page := .upper [
  "€�‚ƒ„…†‡ˆ‰�‹Œ",
  "�‘’“”•–—˜™�›œ��Ÿ",
  "\xa0¡¢£¤¥¦§¨©ª«¬\xad®¯",
  "°±²³´µ¶·¸¹º»¼½¾¿",
  "ÀÁÂĂÄÅÆÇÈÉÊË\u0300ÍÎÏ",
  "ĐÑ\u0309ÓÔƠÖ×ØÙÚÛÜƯ\u0303ß",
  "àáâăäåæçèéêë\u0301íîï",
  "đñ\u0323óôơö÷øùúûüư₫ÿ"]

def windows874 : Page := .upper [
  "€����…",
  "�‘’“”•–—",
  "\xa0กขฃคฅฆงจฉชซฌญฎฏ",
  "ฐฑฒณดตถทธนบปผฝพฟ",
  "ภมยรฤลฦวศษสหฬอฮฯ",
  "ะ\u0e31าำ\u0e34\u0e35\u0e36\u0e37\u0e38\u0e39\u0e3a����฿",
  "เแโใไๅๆ\u0e47\u0e48\u0e49\u0e4a\u0e4b\u0e4c\u0e4d\u0e4e๏",
  "๐๑๒๓๔๕๖๗๘๙๚๛"]

def macRoman : Page := .upper [
  "ÄÅÇÉÑÖÜáàâäãåçéè",
  "êëíìîïñóòôöõúùûü",
  "†°¢£§•¶ß®©™´¨≠ÆØ",
  "∞±≤≥¥µ∂∑∏π∫ªºΩæø",
  "¿¡¬√ƒ≈∆«»…\xa0ÀÃÕŒœ",
  "–—“”‘’÷◊ÿŸ⁄€‹›ﬁﬂ",
  "‡·‚„‰ÂÊÁËÈÍÎÏÌÓÔ",
  "\uf8ffÒÚÛÙıˆ˜¯˘˙˚¸˝˛ˇ"]

def macIceland : Page := .upper [
  "ÄÅÇÉÑÖÜáàâäãåçéè",
  "êëíìîïñóòôöõúùûü",
  "Ý°¢£§•¶ß®©™´¨≠ÆØ",
  "∞±≤≥¥µ∂∑∏π∫ªºΩæø",
  "¿¡¬√ƒ≈∆«»…\xa0ÀÃÕŒœ",
  "–—“”‘’÷◊ÿŸ⁄€ÐðÞþ",
  "ý·‚„‰ÂÊÁËÈÍÎÏÌÓÔ",
  "\uf8ffÒÚÛÙıˆ˜¯˘˙˚¸˝˛ˇ"]

def macTurkish : Page := .upper [
  "ÄÅÇÉÑÖÜáàâäãåçéè",
  "êëíìîïñóòôöõúùûü",
  "†°¢£§•¶ß®©™´¨≠ÆØ",
  "∞±≤≥¥µ∂∑∏π∫ªºΩæø",
  "¿¡¬√ƒ≈∆«»…\xa0ÀÃÕŒœ",
  "–—“”‘’÷◊ÿŸĞğİıŞş",
  "‡·‚„‰ÂÊÁËÈÍÎÏÌÓÔ",
  "\uf8ffÒÚÛÙ\uf8a0ˆ˜¯˘˙˚¸˝˛ˇ"]

def macRomanian : Page := .upper [
  "ÄÅÇÉÑÖÜáàâäãåçéè",
  "êëíìîïñóòôöõúùûü",
  "†°¢£§•¶ß®©™´¨≠ĂȘ",
  "∞±≤≥¥µ∂∑∏π∫ªºΩăș",
  "¿¡¬√ƒ≈∆«»…\xa0ÀÃÕŒœ",
  "–—“”‘’÷◊ÿŸ⁄€‹›Țț",
  "‡·‚„‰ÂÊÁËÈÍÎÏÌÓÔ",
  "\uf8ffÒÚÛÙıˆ˜¯˘˙˚¸˝˛ˇ"]

def macCroatian : Page := .upper [
  "ÄÅÇÉÑÖÜáàâäãåçéè",
  "êëíìîïñóòôöõúùûü",
  "†°¢£§•¶ß®Š™´¨≠ŽØ",
  "∞±≤≥∆µ∂∑∏š∫ªºΩžø",
  "¿¡¬√ƒ≈Ć«Č…\xa0ÀÃÕŒœ",
  "Đ—“”‘’÷◊\uf8ff©⁄€‹›Æ»",
  "–·‚„‰ÂćÁčÈÍÎÏÌÓÔ",
  "đÒÚÛÙıˆ˜¯πË˚¸Êæˇ"]

def macCentral : Page := .upper [
  "ÄĀāÉĄÖÜáąČäčĆćéŹ",
  "źĎíďĒēĖóėôöõúĚěü",
  "†°Ę£§•¶ß®©™ę¨≠ģĮ",
  "įĪ≤≥īĶ∂∑łĻļĽľĹĺŅ",
  "ņŃ¬√ńŇ∆«»…\xa0ňŐÕőŌ",
  "–—“”‘’÷◊ōŔŕŘ‹›řŖ",
  "ŗŠ‚„šŚśÁŤťÍŽžŪÓÔ",
  "ūŮÚůŰűŲųÝýķŻŁżĢˇ"]

def macCyrillic : Page := .upper [
  "АБВГДЕЖЗИЙКЛМНОП",
  "РСТУФХЦЧШЩЪЫЬЭЮЯ",
  "†°Ґ£§•¶І®©™Ђђ≠Ѓѓ",
  "∞±≤≥іµґЈЄєЇїЉљЊњ",
  "јЅ¬√ƒ≈∆«»…\xa0ЋћЌќѕ",
  "–—“”‘’÷„ЎўЏџ№Ёёя",
  "абвгдежзийклмноп",
  "рстуфхцчшщъыьэю€"]

def macGreek : Page := .upper [
  "Ä¹²É³ÖÜ΅àâä΄¨çéè",
  "êë£™îï•½‰ôö¦€ùûü",
  "†ΓΔΘΛΞΠß®©ΣΪ§≠°·",
  "Α±≤≥¥ΒΕΖΗΙΚΜΦΫΨΩ",
  "άΝ¬ΟΡ≈Τ«»…\xa0ΥΧΆΈœ",
  "–―“”‘’÷ΉΊΌΎέήίόΏ",
  "ύαβψδεφγηιξκλμνο",
  "πώρστθωςχυζϊϋΐΰ\xad"]

def macArabic : Page := .upper [
  "Ä\xa0ÇÉÑÖÜáàâäں«çéè",
  "êëí…îïñó»ôö÷úùûü",
  " !\"#$٪&'()*+،-./",
  "٠١٢٣٤٥٦٧٨٩:؛<=>؟",
  "❊ءآأؤإئابةتثجحخد",
  "ذرزسشصضطظعغ[\\]^_",
  "ـفقكلمنهوىي\u064b\u064c\u064d\u064e\u064f",
  "\u0650\u0651\u0652پٹچەڤگڈڑ\x7b|\x7dژے"]

def macFarsi : Page := .upper [
  "Ä\xa0ÇÉÑÖÜáàâäں«çéè",
  "êëí…îïñó»ôö÷úùûü",
  " !\"#$٪&'()*+،-./",
  "۰۱۲۳۴۵۶۷۸۹:؛<=>؟",
  "❊ءآأؤإئابةتثجحخد",
  "ذرزسشصضطظعغ[\\]^_",
  "ـفقكلمنهوىي\u064b\u064c\u064d\u064e\u064f",
  "\u0650\u0651\u0652پٹچەڤگڈڑ\x7b|\x7dژے"]

def palm : Page := .upper [
  "€\x81‚ƒ„…†‡ˆ‰Š‹Œ♦♣♥",
  "♠‘’“”•–—˜™š\x9bœ\x9d\x9eŸ",
  "\xa0¡¢£¤¥¦§¨©ª«¬\xad®¯",
  "°±²³´µ¶·¸¹º»¼½¾¿",
  "ÀÁÂÃÄÅÆÇÈÉÊËÌÍÎÏ",
  "ÐÑÒÓÔÕÖ×ØÙÚÛÜÝÞß",
  "àáâãäåæçèéêëìíîï",
  "ðñòóôõö÷øùúûüýþÿ"]

def roman8 : Page := .controls [
  "\xa0ÀÂÈÊËÎÏ´ˋˆ¨˜ÙÛ₤",
  "¯Ýý°ÇçÑñ¡¿¤£¥§ƒ¢",
  "âêôûáéóúàèòùäëöü",
  "ÅîØÆåíøæÄìÖÜÉïßÔ",
  "ÁÃãÐðÍÌÓÒÕõŠšÚŸÿ",
  "Þþ·µ¶¾—¼½ªº«■»±"]

end OnAir.Charset.Page
