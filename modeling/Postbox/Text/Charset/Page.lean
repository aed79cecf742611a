import Postbox.Text.Charset.Table

namespace Postbox.Text.Charset

/-!
# Pages of one byte

Charsets in which every byte is a character.  The bytes below 128 are those of ASCII in all of them.

* `Page` — the charsets.
* `Page.upper` — the characters of the bytes from 128 on.
* `Page.char?` — the character of a byte.
-/

/-- The charsets in which every byte is a character. -/
inductive Page where
  | ibm866 | iso8859_2 | iso8859_3 | iso8859_4 | iso8859_5 | iso8859_6 | iso8859_7 | iso8859_8
  | iso8859_10 | iso8859_13 | iso8859_14 | iso8859_15 | iso8859_16 | koi8r | koi8u | macintosh
  | windows874 | windows1250 | windows1251 | windows1252 | windows1253 | windows1254 | windows1255
  | windows1256 | windows1257 | windows1258 | macCyrillic
  deriving Repr, DecidableEq

namespace Page

/-- The control characters that the bytes from 128 to 159 are on most pages. -/
def controls : String := String.ofList ((List.range' 128 32).map Char.ofNat)

/-- The characters of the bytes from 128 on, in rows of 32, with U+FFFD for a byte that is none. -/
def upper : Page → List String
  | ibm866 =>
    ["АБВГДЕЖЗИЙКЛМНОПРСТУФХЦЧШЩЪЫЬЭЮЯ",
     "абвгдежзийклмноп░▒▓│┤╡╢╖╕╣║╗╝╜╛┐",
     "└┴┬├─┼╞╟╚╔╩╦╠═╬╧╨╤╥╙╘╒╓╫╪┘┌█▄▌▐▀",
     "рстуфхцчшщъыьэюяЁёЄєЇїЎў°∙·√№¤■\xa0"]
  | iso8859_2 =>
    [controls,
     "\xa0Ą˘Ł¤ĽŚ§¨ŠŞŤŹ\xadŽŻ°ą˛ł´ľśˇ¸šşťź˝žż",
     "ŔÁÂĂÄĹĆÇČÉĘËĚÍÎĎĐŃŇÓÔŐÖ×ŘŮÚŰÜÝŢß",
     "ŕáâăäĺćçčéęëěíîďđńňóôőö÷řůúűüýţ˙"]
  | iso8859_3 =>
    [controls,
     "\xa0Ħ˘£¤�Ĥ§¨İŞĞĴ\xad�Ż°ħ²³´µĥ·¸ışğĵ½�ż",
     "ÀÁÂ�ÄĊĈÇÈÉÊËÌÍÎÏ�ÑÒÓÔĠÖ×ĜÙÚÛÜŬŜß",
     "àáâ�äċĉçèéêëìíîï�ñòóôġö÷ĝùúûüŭŝ˙"]
  | iso8859_4 =>
    [controls,
     "\xa0ĄĸŖ¤ĨĻ§¨ŠĒĢŦ\xadŽ¯°ą˛ŗ´ĩļˇ¸šēģŧŊžŋ",
     "ĀÁÂÃÄÅÆĮČÉĘËĖÍÎĪĐŅŌĶÔÕÖ×ØŲÚÛÜŨŪß",
     "āáâãäåæįčéęëėíîīđņōķôõö÷øųúûüũū˙"]
  | iso8859_5 =>
    [controls,
     "\xa0ЁЂЃЄЅІЇЈЉЊЋЌ\xadЎЏАБВГДЕЖЗИЙКЛМНОП",
     "РСТУФХЦЧШЩЪЫЬЭЮЯабвгдежзийклмноп",
     "рстуфхцчшщъыьэюя№ёђѓєѕіїјљњћќ§ўџ"]
  | iso8859_6 =>
    [controls,
     "\xa0���¤�������،\xad�������������؛���؟",
     "�ءآأؤإئابةتثجحخدذرزسشصضطظعغ�����",
     "ـفقكلمنهوىيًٌٍَُِّْ�������������"]
  | iso8859_7 =>
    [controls,
     "\xa0‘’£€₯¦§¨©ͺ«¬\xad�―°±²³΄΅Ά·ΈΉΊ»Ό½ΎΏ",
     "ΐΑΒΓΔΕΖΗΘΙΚΛΜΝΞΟΠΡ�ΣΤΥΦΧΨΩΪΫάέήί",
     "ΰαβγδεζηθικλμνξοπρςστυφχψωϊϋόύώ�"]
  | iso8859_8 =>
    [controls,
     "\xa0�¢£¤¥¦§¨©×«¬\xad®¯°±²³´µ¶·¸¹÷»¼½¾�",
     "�������������������������������‗",
     "אבגדהוזחטיךכלםמןנסעףפץצקרשת��\u200e\u200f�"]
  | iso8859_10 =>
    [controls,
     "\xa0ĄĒĢĪĨĶ§ĻĐŠŦŽ\xadŪŊ°ąēģīĩķ·ļđšŧž―ūŋ",
     "ĀÁÂÃÄÅÆĮČÉĘËĖÍÎÏÐŅŌÓÔÕÖŨØŲÚÛÜÝÞß",
     "āáâãäåæįčéęëėíîïðņōóôõöũøųúûüýþĸ"]
  | iso8859_13 =>
    [controls,
     "\xa0”¢£¤„¦§Ø©Ŗ«¬\xad®Æ°±²³“µ¶·ø¹ŗ»¼½¾æ",
     "ĄĮĀĆÄÅĘĒČÉŹĖĢĶĪĻŠŃŅÓŌÕÖ×ŲŁŚŪÜŻŽß",
     "ąįāćäåęēčéźėģķīļšńņóōõö÷ųłśūüżž’"]
  | iso8859_14 =>
    [controls,
     "\xa0Ḃḃ£ĊċḊ§Ẁ©ẂḋỲ\xad®ŸḞḟĠġṀṁ¶ṖẁṗẃṠỳẄẅṡ",
     "ÀÁÂÃÄÅÆÇÈÉÊËÌÍÎÏŴÑÒÓÔÕÖṪØÙÚÛÜÝŶß",
     "àáâãäåæçèéêëìíîïŵñòóôõöṫøùúûüýŷÿ"]
  | iso8859_15 =>
    [controls,
     "\xa0¡¢£€¥Š§š©ª«¬\xad®¯°±²³Žµ¶·ž¹º»ŒœŸ¿",
     "ÀÁÂÃÄÅÆÇÈÉÊËÌÍÎÏÐÑÒÓÔÕÖ×ØÙÚÛÜÝÞß",
     "àáâãäåæçèéêëìíîïðñòóôõö÷øùúûüýþÿ"]
  | iso8859_16 =>
    [controls,
     "\xa0ĄąŁ€„Š§š©Ș«Ź\xadźŻ°±ČłŽ”¶·žčș»ŒœŸż",
     "ÀÁÂĂÄĆÆÇÈÉÊËÌÍÎÏĐŃÒÓÔŐÖŚŰÙÚÛÜĘȚß",
     "àáâăäćæçèéêëìíîïđńòóôőöśűùúûüęțÿ"]
  | koi8r =>
    ["─│┌┐└┘├┤┬┴┼▀▄█▌▐░▒▓⌠■∙√≈≤≥\xa0⌡°²·÷",
     "═║╒ё╓╔╕╖╗╘╙╚╛╜╝╞╟╠╡Ё╢╣╤╥╦╧╨╩╪╫╬©",
     "юабцдефгхийклмнопярстужвьызшэщчъ",
     "ЮАБЦДЕФГХИЙКЛМНОПЯРСТУЖВЬЫЗШЭЩЧЪ"]
  | koi8u =>
    ["─│┌┐└┘├┤┬┴┼▀▄█▌▐░▒▓⌠■∙√≈≤≥\xa0⌡°²·÷",
     "═║╒ёє╔ії╗╘╙╚╛ґў╞╟╠╡ЁЄ╣ІЇ╦╧╨╩╪ҐЎ©",
     "юабцдефгхийклмнопярстужвьызшэщчъ",
     "ЮАБЦДЕФГХИЙКЛМНОПЯРСТУЖВЬЫЗШЭЩЧЪ"]
  | macintosh =>
    ["ÄÅÇÉÑÖÜáàâäãåçéèêëíìîïñóòôöõúùûü",
     "†°¢£§•¶ß®©™´¨≠ÆØ∞±≤≥¥µ∂∑∏π∫ªºΩæø",
     "¿¡¬√ƒ≈∆«»…\xa0ÀÃÕŒœ–—“”‘’÷◊ÿŸ⁄€‹›ﬁﬂ",
     "‡·‚„‰ÂÊÁËÈÍÎÏÌÓÔ\uf8ffÒÚÛÙıˆ˜¯˘˙˚¸˝˛ˇ"]
  | windows874 =>
    ["€\x81\x82\x83\x84…\x86\x87\x88\x89\x8a\x8b\x8c\x8d\x8e\x8f\x90‘’“”•–—\x98\x99\x9a\x9b\x9c\x9d\x9e\x9f",
     "\xa0กขฃคฅฆงจฉชซฌญฎฏฐฑฒณดตถทธนบปผฝพฟ",
     "ภมยรฤลฦวศษสหฬอฮฯะัาำิีึืฺุู����฿",
     "เแโใไๅๆ็่้๊๋์ํ๎๏๐๑๒๓๔๕๖๗๘๙๚๛����"]
  | windows1250 =>
    ["€\x81‚\x83„…†‡\x88‰Š‹ŚŤŽŹ\x90‘’“”•–—\x98™š›śťžź",
     "\xa0ˇ˘Ł¤Ą¦§¨©Ş«¬\xad®Ż°±˛ł´µ¶·¸ąş»Ľ˝ľż",
     "ŔÁÂĂÄĹĆÇČÉĘËĚÍÎĎĐŃŇÓÔŐÖ×ŘŮÚŰÜÝŢß",
     "ŕáâăäĺćçčéęëěíîďđńňóôőö÷řůúűüýţ˙"]
  | windows1251 =>
    ["ЂЃ‚ѓ„…†‡€‰Љ‹ЊЌЋЏђ‘’“”•–—\x98™љ›њќћџ",
     "\xa0ЎўЈ¤Ґ¦§Ё©Є«¬\xad®Ї°±Ііґµ¶·ё№є»јЅѕї",
     "АБВГДЕЖЗИЙКЛМНОПРСТУФХЦЧШЩЪЫЬЭЮЯ",
     "абвгдежзийклмнопрстуфхцчшщъыьэюя"]
  | windows1252 =>
    ["€\x81‚ƒ„…†‡ˆ‰Š‹Œ\x8dŽ\x8f\x90‘’“”•–—˜™š›œ\x9džŸ",
     "\xa0¡¢£¤¥¦§¨©ª«¬\xad®¯°±²³´µ¶·¸¹º»¼½¾¿",
     "ÀÁÂÃÄÅÆÇÈÉÊËÌÍÎÏÐÑÒÓÔÕÖ×ØÙÚÛÜÝÞß",
     "àáâãäåæçèéêëìíîïðñòóôõö÷øùúûüýþÿ"]
  | windows1253 =>
    ["€\x81‚ƒ„…†‡\x88‰\x8a‹\x8c\x8d\x8e\x8f\x90‘’“”•–—\x98™\x9a›\x9c\x9d\x9e\x9f",
     "\xa0΅Ά£¤¥¦§¨©�«¬\xad®―°±²³΄µ¶·ΈΉΊ»Ό½ΎΏ",
     "ΐΑΒΓΔΕΖΗΘΙΚΛΜΝΞΟΠΡ�ΣΤΥΦΧΨΩΪΫάέήί",
     "ΰαβγδεζηθικλμνξοπρςστυφχψωϊϋόύώ�"]
  | windows1254 =>
    ["€\x81‚ƒ„…†‡ˆ‰Š‹Œ\x8d\x8e\x8f\x90‘’“”•–—˜™š›œ\x9d\x9eŸ",
     "\xa0¡¢£¤¥¦§¨©ª«¬\xad®¯°±²³´µ¶·¸¹º»¼½¾¿",
     "ÀÁÂÃÄÅÆÇÈÉÊËÌÍÎÏĞÑÒÓÔÕÖ×ØÙÚÛÜİŞß",
     "àáâãäåæçèéêëìíîïğñòóôõö÷øùúûüışÿ"]
  | windows1255 =>
    ["€\x81‚ƒ„…†‡ˆ‰\x8a‹\x8c\x8d\x8e\x8f\x90‘’“”•–—˜™\x9a›\x9c\x9d\x9e\x9f",
     "\xa0¡¢£₪¥¦§¨©×«¬\xad®¯°±²³´µ¶·¸¹÷»¼½¾¿",
     "ְֱֲֳִֵֶַָֹֺֻּֽ־ֿ׀ׁׂ׃װױײ׳״�������",
     "אבגדהוזחטיךכלםמןנסעףפץצקרשת��\u200e\u200f�"]
  | windows1256 =>
    ["€پ‚ƒ„…†‡ˆ‰ٹ‹Œچژڈگ‘’“”•–—ک™ڑ›œ\u200c\u200dں",
     "\xa0،¢£¤¥¦§¨©ھ«¬\xad®¯°±²³´µ¶·¸¹؛»¼½¾؟",
     "ہءآأؤإئابةتثجحخدذرزسشصض×طظعغـفقك",
     "àلâمنهوçèéêëىيîïًٌٍَôُِ÷ّùْûü\u200e\u200fے"]
  | windows1257 =>
    ["€\x81‚\x83„…†‡\x88‰\x8a‹\x8c¨ˇ¸\x90‘’“”•–—\x98™\x9a›\x9c¯˛\x9f",
     "\xa0�¢£¤�¦§Ø©Ŗ«¬\xad®Æ°±²³´µ¶·ø¹ŗ»¼½¾æ",
     "ĄĮĀĆÄÅĘĒČÉŹĖĢĶĪĻŠŃŅÓŌÕÖ×ŲŁŚŪÜŻŽß",
     "ąįāćäåęēčéźėģķīļšńņóōõö÷ųłśūüżž˙"]
  | windows1258 =>
    ["€\x81‚ƒ„…†‡ˆ‰\x8a‹Œ\x8d\x8e\x8f\x90‘’“”•–—˜™\x9a›œ\x9d\x9eŸ",
     "\xa0¡¢£¤¥¦§¨©ª«¬\xad®¯°±²³´µ¶·¸¹º»¼½¾¿",
     "ÀÁÂĂÄÅÆÇÈÉÊË̀ÍÎÏĐÑ̉ÓÔƠÖ×ØÙÚÛÜỮß",
     "àáâăäåæçèéêë́íîïđṇ̃óôơö÷øùúûüư₫ÿ"]
  | macCyrillic =>
    ["АБВГДЕЖЗИЙКЛМНОПРСТУФХЦЧШЩЪЫЬЭЮЯ",
     "†°Ґ£§•¶І®©™Ђђ≠Ѓѓ∞±≤≥іµґЈЄєЇїЉљЊњ",
     "јЅ¬√ƒ≈∆«»…\xa0ЋћЌќѕ–—“”‘’÷„ЎўЏџ№Ёёя",
     "абвгдежзийклмнопрстуфхцчшщъыьэю€"]

/-- The character of a byte. -/
def char? (page : Page) (b : UInt8) : Option Char :=
  if b < 0x80 then some (Char.ofNat b.toNat)
  else Table.char? [(4, page.upper)] (b.toNat / 32) (b.toNat % 32)

end Page

end Postbox.Text.Charset
