import OnAir.Charset.Page.Basic

/-!
# Pages of mainframes

The pages of mainframes, on which not even the Latin letters stand where ASCII has them.
-/

namespace OnAir.Charset.Page

def page37 : Page := .full [
  "\x00\x01\x02\x03\x9c\x09\x86\x7f\x97\x8d\x8e\x0b\x0c\x0d\x0e\x0f",
  "\x10\x11\x12\x13\x9d\x85\x08\x87\x18\x19\x92\x8f\x1c\x1d\x1e\x1f",
  "\x80\x81\x82\x83\x84\x0a\x17\x1b\x88\x89\x8a\x8b\x8c\x05\x06\x07",
  "\x90\x91\x16\x93\x94\x95\x96\x04\x98\x99\x9a\x9b\x14\x15\x9e\x1a",
  " \xa0âäàáãåçñ¢.<(+|",
  "&éêëèíîïìß!$*);¬",
  "-/ÂÄÀÁÃÅÇÑ¦,%_>?",
  "øÉÊËÈÍÎÏÌ\x60:#@'=\"",
  "Øabcdefghi«»ðýþ±",
  "°jklmnopqrªºæ¸Æ¤",
  "µ~stuvwxyz¡¿ÐÝÞ®",
  "^£¥·©§¶¼½¾[]¯¨´×",
  "\x7bABCDEFGHI\xadôöòóõ",
  "\x7dJKLMNOPQR¹ûüùúÿ",
  "\\÷STUVWXYZ²ÔÖÒÓÕ",
  "0123456789³ÛÜÙÚ\x9f"]

def page273 : Page := .full [
  "\x00\x01\x02\x03\x9c\x09\x86\x7f\x97\x8d\x8e\x0b\x0c\x0d\x0e\x0f",
  "\x10\x11\x12\x13\x9d\x85\x08\x87\x18\x19\x92\x8f\x1c\x1d\x1e\x1f",
  "\x80\x81\x82\x83\x84\x0a\x17\x1b\x88\x89\x8a\x8b\x8c\x05\x06\x07",
  "\x90\x91\x16\x93\x94\x95\x96\x04\x98\x99\x9a\x9b\x14\x15\x9e\x1a",
  " \xa0â\x7bàáãåçñÄ.<(+!",
  "&éêëèíîïì~Ü$*);^",
  "-/Â[ÀÁÃÅÇÑö,%_>?",
  "øÉÊËÈÍÎÏÌ\x60:#§'=\"",
  "Øabcdefghi«»ðýþ±",
  "°jklmnopqrªºæ¸Æ¤",
  "µßstuvwxyz¡¿ÐÝÞ®",
  "¢£¥·©@¶¼½¾¬|‾¨´×",
  "äABCDEFGHI\xadô¦òóõ",
  "üJKLMNOPQR¹û\x7dùúÿ",
  "Ö÷STUVWXYZ²Ô\\ÒÓÕ",
  "0123456789³Û]ÙÚ\x9f"]

def page424 : Page := .full [
  "\x00\x01\x02\x03\x9c\x09\x86\x7f\x97\x8d\x8e\x0b\x0c\x0d\x0e\x0f",
  "\x10\x11\x12\x13\x9d\x85\x08\x87\x18\x19\x92\x8f\x1c\x1d\x1e\x1f",
  "\x80\x81\x82\x83\x84\x0a\x17\x1b\x88\x89\x8a\x8b\x8c\x05\x06\x07",
  "\x90\x91\x16\x93\x94\x95\x96\x04\x98\x99\x9a\x9b\x14\x15\x9e\x1a",
  " אבגדהוזחט¢.<(+|",
  "&יךכלםמןנס!$*);¬",
  "-/עףפץצקרש¦,%_>?",
  "�ת��\xa0���‗\x60:#@'=\"",
  "�abcdefghi«»���±",
  "°jklmnopqr���¸�¤",
  "µ~stuvwxyz�����®",
  "^£¥·©§¶¼½¾[]¯¨´×",
  "\x7bABCDEFGHI\xad",
  "\x7dJKLMNOPQR¹",
  "\\÷STUVWXYZ²",
  "0123456789³����\x9f"]

def page500 : Page := .full [
  "\x00\x01\x02\x03\x9c\x09\x86\x7f\x97\x8d\x8e\x0b\x0c\x0d\x0e\x0f",
  "\x10\x11\x12\x13\x9d\x85\x08\x87\x18\x19\x92\x8f\x1c\x1d\x1e\x1f",
  "\x80\x81\x82\x83\x84\x0a\x17\x1b\x88\x89\x8a\x8b\x8c\x05\x06\x07",
  "\x90\x91\x16\x93\x94\x95\x96\x04\x98\x99\x9a\x9b\x14\x15\x9e\x1a",
  " \xa0âäàáãåçñ[.<(+!",
  "&éêëèíîïìß]$*);^",
  "-/ÂÄÀÁÃÅÇÑ¦,%_>?",
  "øÉÊËÈÍÎÏÌ\x60:#@'=\"",
  "Øabcdefghi«»ðýþ±",
  "°jklmnopqrªºæ¸Æ¤",
  "µ~stuvwxyz¡¿ÐÝÞ®",
  "¢£¥·©§¶¼½¾¬|¯¨´×",
  "\x7bABCDEFGHI\xadôöòóõ",
  "\x7dJKLMNOPQR¹ûüùúÿ",
  "\\÷STUVWXYZ²ÔÖÒÓÕ",
  "0123456789³ÛÜÙÚ\x9f"]

def page875 : Page := .full [
  "\x00\x01\x02\x03\x9c\x09\x86\x7f\x97\x8d\x8e\x0b\x0c\x0d\x0e\x0f",
  "\x10\x11\x12\x13\x9d\x85\x08\x87\x18\x19\x92\x8f\x1c\x1d\x1e\x1f",
  "\x80\x81\x82\x83\x84\x0a\x17\x1b\x88\x89\x8a\x8b\x8c\x05\x06\x07",
  "\x90\x91\x16\x93\x94\x95\x96\x04\x98\x99\x9a\x9b\x14\x15\x9e\x1a",
  " ΑΒΓΔΕΖΗΘΙ[.<(+!",
  "&ΚΛΜΝΞΟΠΡΣ]$*);^",
  "-/ΤΥΦΧΨΩΪΫ|,%_>?",
  "¨ΆΈΉ\xa0ΊΌΎΏ\x60:#@'=\"",
  "΅abcdefghiαβγδεζ",
  "°jklmnopqrηθικλμ",
  "´~stuvwxyzνξοπρσ",
  "£άέήϊίόύϋώςτυφχψ",
  "\x7bABCDEFGHI\xadωΐΰ‘―",
  "\x7dJKLMNOPQR±½\x1a·’¦",
  "\\\x1aSTUVWXYZ²§\x1a\x1a«¬",
  "0123456789³©\x1a\x1a»\x9f"]

def page1026 : Page := .full [
  "\x00\x01\x02\x03\x9c\x09\x86\x7f\x97\x8d\x8e\x0b\x0c\x0d\x0e\x0f",
  "\x10\x11\x12\x13\x9d\x85\x08\x87\x18\x19\x92\x8f\x1c\x1d\x1e\x1f",
  "\x80\x81\x82\x83\x84\x0a\x17\x1b\x88\x89\x8a\x8b\x8c\x05\x06\x07",
  "\x90\x91\x16\x93\x94\x95\x96\x04\x98\x99\x9a\x9b\x14\x15\x9e\x1a",
  " \xa0âäàáãå\x7bñÇ.<(+!",
  "&éêëèíîïìßĞİ*);^",
  "-/ÂÄÀÁÃÅ[Ñş,%_>?",
  "øÉÊËÈÍÎÏÌı:ÖŞ'=Ü",
  "Øabcdefghi«»\x7d\x60¦±",
  "°jklmnopqrªºæ¸Æ¤",
  "µöstuvwxyz¡¿]$@®",
  "¢£¥·©§¶¼½¾¬|¯¨´×",
  "çABCDEFGHI\xadô~òóõ",
  "ğJKLMNOPQR¹û\\ùúÿ",
  "ü÷STUVWXYZ²Ô#ÒÓÕ",
  "0123456789³Û\"ÙÚ\x9f"]

def page1140 : Page := .full [
  "\x00\x01\x02\x03\x9c\x09\x86\x7f\x97\x8d\x8e\x0b\x0c\x0d\x0e\x0f",
  "\x10\x11\x12\x13\x9d\x85\x08\x87\x18\x19\x92\x8f\x1c\x1d\x1e\x1f",
  "\x80\x81\x82\x83\x84\x0a\x17\x1b\x88\x89\x8a\x8b\x8c\x05\x06\x07",
  "\x90\x91\x16\x93\x94\x95\x96\x04\x98\x99\x9a\x9b\x14\x15\x9e\x1a",
  " \xa0âäàáãåçñ¢.<(+|",
  "&éêëèíîïìß!$*);¬",
  "-/ÂÄÀÁÃÅÇÑ¦,%_>?",
  "øÉÊËÈÍÎÏÌ\x60:#@'=\"",
  "Øabcdefghi«»ðýþ±",
  "°jklmnopqrªºæ¸Æ€",
  "µ~stuvwxyz¡¿ÐÝÞ®",
  "^£¥·©§¶¼½¾[]¯¨´×",
  "\x7bABCDEFGHI\xadôöòóõ",
  "\x7dJKLMNOPQR¹ûüùúÿ",
  "\\÷STUVWXYZ²ÔÖÒÓÕ",
  "0123456789³ÛÜÙÚ\x9f"]

end OnAir.Charset.Page
