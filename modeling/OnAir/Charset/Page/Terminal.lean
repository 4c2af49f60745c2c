import OnAir.Charset.Page.Basic

/-!
# Pages of terminals

The pages of text terminals; most of them have lines to draw boxes with.
-/

namespace OnAir.Charset.Page

def page437 : Page := .upper [
  "ÇüéâäàåçêëèïîìÄÅ",
  "ÉæÆôöòûùÿÖÜ¢£¥₧ƒ",
  "áíóúñÑªº¿⌐¬½¼¡«»",
  "░▒▓│┤╡╢╖╕╣║╗╝╜╛┐",
  "└┴┬├─┼╞╟╚╔╩╦╠═╬╧",
  "╨╤╥╙╘╒╓╫╪┘┌█▄▌▐▀",
  "αßΓπΣσµτΦΘΩδ∞φε∩",
  "≡±≥≤⌠⌡÷≈°∙·√ⁿ²■\xa0"]

def page720 : Page := .upper [
  "\x80\x81éâ\x84à\x86çêëèïî\x8d\x8e\x8f",
  "\x90\u0651\u0652ô¤ـûùءآأؤ£إئا",
  "بةتثجحخدذرزسشص«»",
  "░▒▓│┤╡╢╖╕╣║╗╝╜╛┐",
  "└┴┬├─┼╞╟╚╔╩╦╠═╬╧",
  "╨╤╥╙╘╒╓╫╪┘┌█▄▌▐▀",
  "ضطظعغفµقكلمنهوىي",
  "≡\u064b\u064c\u064d\u064e\u064f\u0650≈°∙·√ⁿ²■\xa0"]

def page737 : Page := .upper [
  "ΑΒΓΔΕΖΗΘΙΚΛΜΝΞΟΠ",
  "ΡΣΤΥΦΧΨΩαβγδεζηθ",
  "ικλμνξοπρσςτυφχψ",
  "░▒▓│┤╡╢╖╕╣║╗╝╜╛┐",
  "└┴┬├─┼╞╟╚╔╩╦╠═╬╧",
  "╨╤╥╙╘╒╓╫╪┘┌█▄▌▐▀",
  "ωάέήϊίόύϋώΆΈΉΊΌΎ",
  "Ώ±≥≤ΪΫ÷≈°∙·√ⁿ²■\xa0"]

def page775 : Page := .upper [
  "ĆüéāäģåćłēŖŗīŹÄÅ",
  "ÉæÆōöĢ¢ŚśÖÜø£Ø×¤",
  "ĀĪóŻżź”¦©®¬½¼Ł«»",
  "░▒▓│┤ĄČĘĖ╣║╗╝ĮŠ┐",
  "└┴┬├─┼ŲŪ╚╔╩╦╠═╬Ž",
  "ąčęėįšųūž┘┌█▄▌▐▀",
  "ÓßŌŃõÕµńĶķĻļņĒŅ’",
  "\xad±“¾¶§÷„°∙·¹³²■\xa0"]

def page850 : Page := .upper [
  "ÇüéâäàåçêëèïîìÄÅ",
  "ÉæÆôöòûùÿÖÜø£Ø×ƒ",
  "áíóúñÑªº¿®¬½¼¡«»",
  "░▒▓│┤ÁÂÀ©╣║╗╝¢¥┐",
  "└┴┬├─┼ãÃ╚╔╩╦╠═╬¤",
  "ðÐÊËÈıÍÎÏ┘┌█▄¦Ì▀",
  "ÓßÔÒõÕµþÞÚÛÙýÝ¯´",
  "\xad±‗¾¶§÷¸°¨·¹³²■\xa0"]

def page852 : Page := .upper [
  "ÇüéâäůćçłëŐőîŹÄĆ",
  "ÉĹĺôöĽľŚśÖÜŤťŁ×č",
  "áíóúĄąŽžĘę¬źČş«»",
  "░▒▓│┤ÁÂĚŞ╣║╗╝Żż┐",
  "└┴┬├─┼Ăă╚╔╩╦╠═╬¤",
  "đĐĎËďŇÍÎě┘┌█▄ŢŮ▀",
  "ÓßÔŃńňŠšŔÚŕŰýÝţ´",
  "\xad˝˛ˇ˘§÷¸°¨˙űŘř■\xa0"]

def page855 : Page := .upper [
  "ђЂѓЃёЁєЄѕЅіІїЇјЈ",
  "љЉњЊћЋќЌўЎџЏюЮъЪ",
  "аАбБцЦдДеЕфФгГ«»",
  "░▒▓│┤хХиИ╣║╗╝йЙ┐",
  "└┴┬├─┼кК╚╔╩╦╠═╬¤",
  "лЛмМнНоОп┘┌█▄Пя▀",
  "ЯрРсСтТуУжЖвВьЬ№",
  "\xadыЫзЗшШэЭщЩчЧ§■\xa0"]

def page856 : Page := .upper [
  "אבגדהוזחטיךכלםמן",
  "נסעףפץצקרשת�£�×",
  "���������®¬½¼�«»",
  "░▒▓│┤���©╣║╗╝¢¥┐",
  "└┴┬├─┼��╚╔╩╦╠═╬¤",
  "���������┘┌█▄¦�▀",
  "������µ�������¯´",
  "\xad±‗¾¶§÷¸°¨·¹³²■\xa0"]

def page857 : Page := .upper [
  "ÇüéâäàåçêëèïîıÄÅ",
  "ÉæÆôöòûùİÖÜø£ØŞş",
  "áíóúñÑĞğ¿®¬½¼¡«»",
  "░▒▓│┤ÁÂÀ©╣║╗╝¢¥┐",
  "└┴┬├─┼ãÃ╚╔╩╦╠═╬¤",
  "ºªÊËÈ�ÍÎÏ┘┌█▄¦Ì▀",
  "ÓßÔÒõÕµ�×ÚÛÙìÿ¯´",
  "\xad±�¾¶§÷¸°¨·¹³²■\xa0"]

def page858 : Page := .upper [
  "ÇüéâäàåçêëèïîìÄÅ",
  "ÉæÆôöòûùÿÖÜø£Ø×ƒ",
  "áíóúñÑªº¿®¬½¼¡«»",
  "░▒▓│┤ÁÂÀ©╣║╗╝¢¥┐",
  "└┴┬├─┼ãÃ╚╔╩╦╠═╬¤",
  "ðÐÊËÈ€ÍÎÏ┘┌█▄¦Ì▀",
  "ÓßÔÒõÕµþÞÚÛÙýÝ¯´",
  "\xad±‗¾¶§÷¸°¨·¹³²■\xa0"]

def page860 : Page := .upper [
  "ÇüéâãàÁçêÊèÍÔìÃÂ",
  "ÉÀÈôõòÚùÌÕÜ¢£Ù₧Ó",
  "áíóúñÑªº¿Ò¬½¼¡«»",
  "░▒▓│┤╡╢╖╕╣║╗╝╜╛┐",
  "└┴┬├─┼╞╟╚╔╩╦╠═╬╧",
  "╨╤╥╙╘╒╓╫╪┘┌█▄▌▐▀",
  "αßΓπΣσµτΦΘΩδ∞φε∩",
  "≡±≥≤⌠⌡÷≈°∙·√ⁿ²■\xa0"]

def page861 : Page := .upper [
  "ÇüéâäàåçêëèÐðÞÄÅ",
  "ÉæÆôöþûÝýÖÜø£Ø₧ƒ",
  "áíóúÁÍÓÚ¿⌐¬½¼¡«»",
  "░▒▓│┤╡╢╖╕╣║╗╝╜╛┐",
  "└┴┬├─┼╞╟╚╔╩╦╠═╬╧",
  "╨╤╥╙╘╒╓╫╪┘┌█▄▌▐▀",
  "αßΓπΣσµτΦΘΩδ∞φε∩",
  "≡±≥≤⌠⌡÷≈°∙·√ⁿ²■\xa0"]

def page862 : Page := .upper [
  "אבגדהוזחטיךכלםמן",
  "נסעףפץצקרשת¢£¥₧ƒ",
  "áíóúñÑªº¿⌐¬½¼¡«»",
  "░▒▓│┤╡╢╖╕╣║╗╝╜╛┐",
  "└┴┬├─┼╞╟╚╔╩╦╠═╬╧",
  "╨╤╥╙╘╒╓╫╪┘┌█▄▌▐▀",
  "αßΓπΣσµτΦΘΩδ∞φε∩",
  "≡±≥≤⌠⌡÷≈°∙·√ⁿ²■\xa0"]

def page863 : Page := .upper [
  "ÇüéâÂà¶çêëèïî‗À§",
  "ÉÈÊôËÏûù¤ÔÜ¢£ÙÛƒ",
  "¦´óú¨¸³¯Î⌐¬½¼¾«»",
  "░▒▓│┤╡╢╖╕╣║╗╝╜╛┐",
  "└┴┬├─┼╞╟╚╔╩╦╠═╬╧",
  "╨╤╥╙╘╒╓╫╪┘┌█▄▌▐▀",
  "αßΓπΣσµτΦΘΩδ∞φε∩",
  "≡±≥≤⌠⌡÷≈°∙·√ⁿ²■\xa0"]

/-- The shapes of Arabic letters. Its percent sign is the Arabic one. -/
def page864 : Page := .full [
  "\x00\x01\x02\x03\x04\x05\x06\x07\x08\x09\x0a\x0b\x0c\x0d\x0e\x0f",
  "\x10\x11\x12\x13\x14\x15\x16\x17\x18\x19\x1a\x1b\x1c\x1d\x1e\x1f",
  " !\"#$٪&'()*+,-./",
  "0123456789:;<=>?",
  "@ABCDEFGHIJKLMNO",
  "PQRSTUVWXYZ[\\]^_",
  "\x60abcdefghijklmno",
  "pqrstuvwxyz\x7b|\x7d~\x7f",
  "°·∙√▒─│┼┤┬├┴┐┌└┘",
  "β∞φ±½¼≈«»ﻷﻸ��ﻻﻼ",
  "\xa0\xadﺂ£¤ﺄ��ﺎﺏﺕﺙ،ﺝﺡﺥ",
  "٠١٢٣٤٥٦٧٨٩ﻑ؛ﺱﺵﺹ؟",
  "¢ﺀﺁﺃﺅﻊﺋﺍﺑﺓﺗﺛﺟﺣﺧﺩ",
  "ﺫﺭﺯﺳﺷﺻﺿﻁﻅﻋﻏ¦¬÷×ﻉ",
  "ـﻓﻗﻛﻟﻣﻧﻫﻭﻯﻳﺽﻌﻎﻍﻡ",
  "ﹽ\u0651ﻥﻩﻬﻰﻲﻐﻕﻵﻶﻝﻙﻱ■"]

def page865 : Page := .upper [
  "ÇüéâäàåçêëèïîìÄÅ",
  "ÉæÆôöòûùÿÖÜø£Ø₧ƒ",
  "áíóúñÑªº¿⌐¬½¼¡«¤",
  "░▒▓│┤╡╢╖╕╣║╗╝╜╛┐",
  "└┴┬├─┼╞╟╚╔╩╦╠═╬╧",
  "╨╤╥╙╘╒╓╫╪┘┌█▄▌▐▀",
  "αßΓπΣσµτΦΘΩδ∞φε∩",
  "≡±≥≤⌠⌡÷≈°∙·√ⁿ²■\xa0"]

def page866 : Page := .upper [
  "АБВГДЕЖЗИЙКЛМНОП",
  "РСТУФХЦЧШЩЪЫЬЭЮЯ",
  "абвгдежзийклмноп",
  "░▒▓│┤╡╢╖╕╣║╗╝╜╛┐",
  "└┴┬├─┼╞╟╚╔╩╦╠═╬╧",
  "╨╤╥╙╘╒╓╫╪┘┌█▄▌▐▀",
  "рстуфхцчшщъыьэюя",
  "ЁёЄєЇїЎў°∙·√№¤■\xa0"]

def page869 : Page := .upper [
  "������Ά�·¬¦‘’Έ―Ή",
  "ΊΪΌ��ΎΫ©Ώ²³ά£έήί",
  "ϊΐόύΑΒΓΔΕΖΗ½ΘΙ«»",
  "░▒▓│┤ΚΛΜΝ╣║╗╝ΞΟ┐",
  "└┴┬├─┼ΠΡ╚╔╩╦╠═╬Σ",
  "ΤΥΦΧΨΩαβγ┘┌█▄δε▀",
  "ζηθικλμνξοπρσςτ΄",
  "\xad±υφχ§ψ΅°¨ωϋΰώ■\xa0"]

def page1006 : Page := .controls [
  "\xa0۰۱۲۳۴۵۶۷۸۹،؛\xad؟ﺁ",
  "ﺍﺎﺎﺏﺑﭖﭘﺓﺕﺗﭦﭨﺙﺛﺝﺟ",
  "ﭺﭼﺡﺣﺥﺧﺩﮄﺫﺭﮌﺯﮊﺱﺳﺵ",
  "ﺷﺹﺻﺽﺿﻁﻅﻉﻊﻋﻌﻍﻎﻏﻐﻑ",
  "ﻓﻕﻗﻙﻛﮒﮔﻝﻟﻠﻡﻣﮞﻥﻧﺅ",
  "ﻭﮦﮨﮩﮪﺀﺉﺊﺋﻱﻲﻳﮰﮮﹼﹽ"]

def page1125 : Page := .upper [
  "АБВГДЕЖЗИЙКЛМНОП",
  "РСТУФХЦЧШЩЪЫЬЭЮЯ",
  "абвгдежзийклмноп",
  "░▒▓│┤╡╢╖╕╣║╗╝╜╛┐",
  "└┴┬├─┼╞╟╚╔╩╦╠═╬╧",
  "╨╤╥╙╘╒╓╫╪┘┌█▄▌▐▀",
  "рстуфхцчшщъыьэюя",
  "ЁёҐґЄєІіЇї·√№¤■\xa0"]

end OnAir.Charset.Page
