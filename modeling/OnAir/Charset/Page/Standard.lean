import OnAir.Charset.Page.Basic

/-!
# Pages of standards

The pages that national and international standards lay down, and some close relatives. Most of them
keep the first 32 places beyond ASCII for control characters.
-/

namespace OnAir.Charset.Page

def ascii : Page := .upper []

/-- The page of West European languages; its characters are the first 256. -/
def latin1 : Page := .controls [
  "\xa0¡¢£¤¥¦§¨©ª«¬\xad®¯",
  "°±²³´µ¶·¸¹º»¼½¾¿",
  "ÀÁÂÃÄÅÆÇÈÉÊËÌÍÎÏ",
  "ÐÑÒÓÔÕÖ×ØÙÚÛÜÝÞß",
  "àáâãäåæçèéêëìíîï",
  "ðñòóôõö÷øùúûüýþÿ"]

def iso2 : Page := .controls [
  "\xa0Ą˘Ł¤ĽŚ§¨ŠŞŤŹ\xadŽŻ",
  "°ą˛ł´ľśˇ¸šşťź˝žż",
  "ŔÁÂĂÄĹĆÇČÉĘËĚÍÎĎ",
  "ĐŃŇÓÔŐÖ×ŘŮÚŰÜÝŢß",
  "ŕáâăäĺćçčéęëěíîď",
  "đńňóôőö÷řůúűüýţ˙"]

def iso3 : Page := .controls [
  "\xa0Ħ˘£¤�Ĥ§¨İŞĞĴ\xad�Ż",
  "°ħ²³´µĥ·¸ışğĵ½�ż",
  "ÀÁÂ�ÄĊĈÇÈÉÊËÌÍÎÏ",
  "�ÑÒÓÔĠÖ×ĜÙÚÛÜŬŜß",
  "àáâ�äċĉçèéêëìíîï",
  "�ñòóôġö÷ĝùúûüŭŝ˙"]

def iso4 : Page := .controls [
  "\xa0ĄĸŖ¤ĨĻ§¨ŠĒĢŦ\xadŽ¯",
  "°ą˛ŗ´ĩļˇ¸šēģŧŊžŋ",
  "ĀÁÂÃÄÅÆĮČÉĘËĖÍÎĪ",
  "ĐŅŌĶÔÕÖ×ØŲÚÛÜŨŪß",
  "āáâãäåæįčéęëėíîī",
  "đņōķôõö÷øųúûüũū˙"]

def iso5 : Page := .controls [
  "\xa0ЁЂЃЄЅІЇЈЉЊЋЌ\xadЎЏ",
  "АБВГДЕЖЗИЙКЛМНОП",
  "РСТУФХЦЧШЩЪЫЬЭЮЯ",
  "абвгдежзийклмноп",
  "рстуфхцчшщъыьэюя",
  "№ёђѓєѕіїјљњћќ§ўџ"]

def iso6 : Page := .controls [
  "\xa0���¤�������،\xad",
  "�����������؛���؟",
  "�ءآأؤإئابةتثجحخد",
  "ذرزسشصضطظعغ",
  "ـفقكلمنهوىي\u064b\u064c\u064d\u064e\u064f",
  "\u0650\u0651\u0652"]

def iso7 : Page := .controls [
  "\xa0‘’£€₯¦§¨©ͺ«¬\xad�―",
  "°±²³΄΅Ά·ΈΉΊ»Ό½ΎΏ",
  "ΐΑΒΓΔΕΖΗΘΙΚΛΜΝΞΟ",
  "ΠΡ�ΣΤΥΦΧΨΩΪΫάέήί",
  "ΰαβγδεζηθικλμνξο",
  "πρςστυφχψωϊϋόύώ"]

def iso8 : Page := .controls [
  "\xa0�¢£¤¥¦§¨©×«¬\xad®¯",
  "°±²³´µ¶·¸¹÷»¼½¾",
  "",
  "���������������‗",
  "אבגדהוזחטיךכלםמן",
  "נסעףפץצקרשת��\u200e\u200f"]

def iso9 : Page := .controls [
  "\xa0¡¢£¤¥¦§¨©ª«¬\xad®¯",
  "°±²³´µ¶·¸¹º»¼½¾¿",
  "ÀÁÂÃÄÅÆÇÈÉÊËÌÍÎÏ",
  "ĞÑÒÓÔÕÖ×ØÙÚÛÜİŞß",
  "àáâãäåæçèéêëìíîï",
  "ğñòóôõö÷øùúûüışÿ"]

def iso10 : Page := .controls [
  "\xa0ĄĒĢĪĨĶ§ĻĐŠŦŽ\xadŪŊ",
  "°ąēģīĩķ·ļđšŧž―ūŋ",
  "ĀÁÂÃÄÅÆĮČÉĘËĖÍÎÏ",
  "ÐŅŌÓÔÕÖŨØŲÚÛÜÝÞß",
  "āáâãäåæįčéęëėíîï",
  "ðņōóôõöũøųúûüýþĸ"]

def iso11 : Page := .controls [
  "\xa0กขฃคฅฆงจฉชซฌญฎฏ",
  "ฐฑฒณดตถทธนบปผฝพฟ",
  "ภมยรฤลฦวศษสหฬอฮฯ",
  "ะ\u0e31าำ\u0e34\u0e35\u0e36\u0e37\u0e38\u0e39\u0e3a����฿",
  "เแโใไๅๆ\u0e47\u0e48\u0e49\u0e4a\u0e4b\u0e4c\u0e4d\u0e4e๏",
  "๐๑๒๓๔๕๖๗๘๙๚๛"]

def iso13 : Page := .controls [
  "\xa0”¢£¤„¦§Ø©Ŗ«¬\xad®Æ",
  "°±²³“µ¶·ø¹ŗ»¼½¾æ",
  "ĄĮĀĆÄÅĘĒČÉŹĖĢĶĪĻ",
  "ŠŃŅÓŌÕÖ×ŲŁŚŪÜŻŽß",
  "ąįāćäåęēčéźėģķīļ",
  "šńņóōõö÷ųłśūüżž’"]

def iso14 : Page := .controls [
  "\xa0Ḃḃ£ĊċḊ§Ẁ©ẂḋỲ\xad®Ÿ",
  "ḞḟĠġṀṁ¶ṖẁṗẃṠỳẄẅṡ",
  "ÀÁÂÃÄÅÆÇÈÉÊËÌÍÎÏ",
  "ŴÑÒÓÔÕÖṪØÙÚÛÜÝŶß",
  "àáâãäåæçèéêëìíîï",
  "ŵñòóôõöṫøùúûüýŷÿ"]

def iso15 : Page := .controls [
  "\xa0¡¢£€¥Š§š©ª«¬\xad®¯",
  "°±²³Žµ¶·ž¹º»ŒœŸ¿",
  "ÀÁÂÃÄÅÆÇÈÉÊËÌÍÎÏ",
  "ÐÑÒÓÔÕÖ×ØÙÚÛÜÝÞß",
  "àáâãäåæçèéêëìíîï",
  "ðñòóôõö÷øùúûüýþÿ"]

def iso16 : Page := .controls [
  "\xa0ĄąŁ€„Š§š©Ș«Ź\xadźŻ",
  "°±ČłŽ”¶·žčș»ŒœŸż",
  "ÀÁÂĂÄĆÆÇÈÉÊËÌÍÎÏ",
  "ĐŃÒÓÔŐÖŚŰÙÚÛÜĘȚß",
  "àáâăäćæçèéêëìíîï",
  "đńòóôőöśűùúûüęțÿ"]

def thai : Page := .controls [
  "�กขฃคฅฆงจฉชซฌญฎฏ",
  "ฐฑฒณดตถทธนบปผฝพฟ",
  "ภมยรฤลฦวศษสหฬอฮฯ",
  "ะ\u0e31าำ\u0e34\u0e35\u0e36\u0e37\u0e38\u0e39\u0e3a����฿",
  "เแโใไๅๆ\u0e47\u0e48\u0e49\u0e4a\u0e4b\u0e4c\u0e4d\u0e4e๏",
  "๐๑๒๓๔๕๖๗๘๙๚๛"]

def russian : Page := .upper [
  "─│┌┐└┘├┤┬┴┼▀▄█▌▐",
  "░▒▓⌠■∙√≈≤≥\xa0⌡°²·÷",
  "═║╒ё╓╔╕╖╗╘╙╚╛╜╝╞",
  "╟╠╡Ё╢╣╤╥╦╧╨╩╪╫╬©",
  "юабцдефгхийклмно",
  "пярстужвьызшэщчъ",
  "ЮАБЦДЕФГХИЙКЛМНО",
  "ПЯРСТУЖВЬЫЗШЭЩЧЪ"]

def ukrainian : Page := .upper [
  "─│┌┐└┘├┤┬┴┼▀▄█▌▐",
  "░▒▓⌠■∙√≈≤≥\xa0⌡°²·÷",
  "═║╒ёє╔ії╗╘╙╚╛ґ╝╞",
  "╟╠╡ЁЄ╣ІЇ╦╧╨╩╪Ґ╬©",
  "юабцдефгхийклмно",
  "пярстужвьызшэщчъ",
  "ЮАБЦДЕФГХИЙКЛМНО",
  "ПЯРСТУЖВЬЫЗШЭЩЧЪ"]

def tajik : Page := .upper [
  "қғ‚Ғ„…†‡�‰ҳ‹ҲҷҶ",
  "Қ‘’“”•–—�™�›",
  "�ӯӮё¤ӣ¦§���«¬\xad®",
  "°±²Ё�Ӣ¶·�№�»���©",
  "юабцдефгхийклмно",
  "пярстужвьызшэщчъ",
  "ЮАБЦДЕФГХИЙКЛМНО",
  "ПЯРСТУЖВЬЫЗШЭЩЧЪ"]

def kazakh : Page := .upper [
  "ЂЃ‚ѓ„…†‡€‰Љ‹ЊҚҺЏ",
  "ђ‘’“”•–—�™љ›њқһџ",
  "\xa0ҰұӘ¤Ө¦§Ё©Ғ«¬\xad®Ү",
  "°±Ііөµ¶·ё№ғ»әҢңү",
  "АБВГДЕЖЗИЙКЛМНОП",
  "РСТУФХЦЧШЩЪЫЬЭЮЯ",
  "абвгдежзийклмноп",
  "рстуфхцчшщъыьэюя"]

def asianCyrillic : Page := .upper [
  "ҖҒӮғ„…ҶҮҲүҠӢҢҚҺҸ",
  "җ‘’“”•–—ҳҷҡӣңқһҹ",
  "\xa0ЎўЈӨҘҰ§Ё©Ә«¬ӯ®Ҝ",
  "°ұІіҙө¶·ё№ә»јҪҫҝ",
  "АБВГДЕЖЗИЙКЛМНОП",
  "РСТУФХЦЧШЩЪЫЬЭЮЯ",
  "абвгдежзийклмноп",
  "рстуфхцчшщъыьэюя"]

end OnAir.Charset.Page
