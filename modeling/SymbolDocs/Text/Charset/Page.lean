/-
Pages of characters: encodings in which every byte stands for one character.

A page lists the characters of the bytes from some first byte on; the bytes before it
stand for themselves, as in ASCII. A byte for which the list has no character is in no
text of that encoding.
-/
import SymbolDocs.Text.Charset.Grid

set_option autoImplicit false

namespace SymbolDocs.Text

/-- A table of the characters that single bytes stand for. -/
structure Page where
  /-- Its names, in lowercase. -/
  names : List String
  /-- The least byte that has a cell. -/
  first : Nat
  cells : String
  deriving DecidableEq, Repr

/-- The character of a byte. A byte below the first cell stands for itself. -/
def Page.charOf? (page : Page) (byte : Nat) : Option Char :=
  if byte < page.first then some (Char.ofNat byte)
  else Grid.charAt? page.cells (byte - page.first)

/-- The characters of a run of bytes, unless one has none. -/
def Page.decode (page : Page) (bytes : List Nat) : Option (List Char) :=
  bytes.mapM page.charOf?

/-- The page that gives each byte itself. -/
def Page.latin1 : Page :=
  { names := ["iso-8859-1", "iso_8859-1", "iso8859-1", "iso-latin-1", "latin1", "l1",
      "iso-ir-100", "cp819", "ibm819", "csisolatin1"]
    first := 0x100
    cells := "" }

/-- The page without characters beyond ASCII. -/
def Page.ascii : Page :=
  { names := ["us-ascii", "ascii", "us", "iso646-us", "ansi_x3.4-1968", "ansi_x3.4-1986",
      "iso-ir-6", "cp367", "ibm367", "csascii"]
    first := 0x80
    cells := "" }

/-- The parts of ISO 8859, which leave the bytes up to `0xa0` to the control characters. -/
def Page.iso8859 : List Page :=
  [ { names := ["iso-8859-2", "iso_8859-2", "iso8859-2", "iso-ir-101", "latin2", "l2",
          "csisolatin2", "iso-latin-2"]
      first := 0xa1
      cells := "Ą˘Ł¤ĽŚ§¨ŠŞŤŹ\u00adŽŻ°ą˛ł´ľśˇ¸šşťź˝žżŔÁÂĂÄĹĆÇČÉĘËĚÍÎĎĐŃŇÓÔŐÖ×ŘŮÚŰÜÝŢßŕáâăäĺćçčéęë" ++
        "ěíîďđńňóôőö÷řůúűüýţ˙" },
    { names := ["iso-8859-3", "iso_8859-3", "iso8859-3", "iso-ir-109", "latin3", "l3",
          "csisolatin3"]
      first := 0xa1
      cells := "Ħ˘£¤�Ĥ§¨İŞĞĴ\u00ad�Ż°ħ²³´µĥ·¸ışğĵ½�żÀÁÂ�ÄĊĈÇÈÉÊËÌÍÎÏ�ÑÒÓÔĠÖ×ĜÙÚÛÜŬŜßàáâ�äċĉçèéêë" ++
        "ìíîï�ñòóôġö÷ĝùúûüŭŝ˙" },
    { names := ["iso-8859-4", "iso_8859-4", "iso8859-4", "iso-ir-110", "latin4", "l4",
          "csisolatin4"]
      first := 0xa1
      cells := "ĄĸŖ¤ĨĻ§¨ŠĒĢŦ\u00adŽ¯°ą˛ŗ´ĩļˇ¸šēģŧŊžŋĀÁÂÃÄÅÆĮČÉĘËĖÍÎĪĐŅŌĶÔÕÖ×ØŲÚÛÜŨŪßāáâãäåæįčéęë" ++
        "ėíîīđņōķôõö÷øųúûüũū˙" },
    { names := ["iso-8859-5", "iso_8859-5", "iso8859-5", "iso-ir-144", "cyrillic",
          "csisolatincyrillic"]
      first := 0xa1
      cells := "ЁЂЃЄЅІЇЈЉЊЋЌ\u00adЎЏАБВГДЕЖЗИЙКЛМНОПРСТУФХЦЧШЩЪЫЬЭЮЯабвгдежзийклмнопрстуфхцчшщъы" ++
        "ьэюя№ёђѓєѕіїјљњћќ§ўџ" },
    { names := ["iso-8859-6", "iso_8859-6", "iso8859-6", "iso-ir-127", "ecma-114", "asmo-708",
          "arabic", "csisolatinarabic"]
      first := 0xa1
      cells := "���¤�������،\u00ad�������������؛���؟�ءآأؤإئابةتثجحخدذرزسشصضطظعغ�����ـفقكلمنهوىي" ++
        "\u064b\u064c\u064d\u064e\u064f\u0650\u0651\u0652" },
    { names := ["iso-8859-7", "iso_8859-7", "iso8859-7", "iso-ir-126", "ecma-118", "elot_928",
          "greek8", "greek", "csisolatingreek"]
      first := 0xa1
      cells := "‘’£€₯¦§¨©ͺ«¬\u00ad�―°±²³΄΅Ά·ΈΉΊ»Ό½ΎΏΐΑΒΓΔΕΖΗΘΙΚΛΜΝΞΟΠΡ�ΣΤΥΦΧΨΩΪΫάέήίΰαβγδεζηθικλ" ++
        "μνξοπρςστυφχψωϊϋόύώ" },
    { names := ["iso-8859-8", "iso_8859-8", "iso8859-8", "iso-ir-138", "hebrew", "csisolatinhebrew"]
      first := 0xa1
      cells := "�¢£¤¥¦§¨©×«¬\u00ad®¯°±²³´µ¶·¸¹÷»¼½¾��������������������������������‗אבגדהוזחטיךכ" ++
        "לםמןנסעףפץצקרשת��\u200e\u200f" },
    { names := ["iso-8859-9", "iso_8859-9", "iso8859-9", "iso-ir-148", "latin5", "l5",
          "csisolatin5"]
      first := 0xd0
      cells := "ĞÑÒÓÔÕÖ×ØÙÚÛÜİŞßàáâãäåæçèéêëìíîïğñòóôõö÷øùúûüışÿ" },
    { names := ["iso-8859-10", "iso_8859-10", "iso8859-10", "iso-ir-157", "latin6", "l6",
          "csisolatin6"]
      first := 0xa1
      cells := "ĄĒĢĪĨĶ§ĻĐŠŦŽ\u00adŪŊ°ąēģīĩķ·ļđšŧž―ūŋĀÁÂÃÄÅÆĮČÉĘËĖÍÎÏÐŅŌÓÔÕÖŨØŲÚÛÜÝÞßāáâãäåæįčéęë" ++
        "ėíîïðņōóôõöũøųúûüýþĸ" },
    { names := ["iso-8859-11", "iso_8859-11", "iso8859-11"]
      first := 0xa1
      cells := "กขฃคฅฆงจฉชซฌญฎฏฐฑฒณดตถทธนบปผฝพฟภมยรฤลฦวศษสหฬอฮฯะ\u0e31าำ\u0e34\u0e35\u0e36\u0e37" ++
        "\u0e38\u0e39\u0e3a����฿เแโใไๅๆ\u0e47\u0e48\u0e49\u0e4a\u0e4b\u0e4c\u0e4d\u0e4e๏๐๑๒๓๔๕๖๗" ++
        "๘๙๚๛" },
    { names := ["iso-8859-13", "iso_8859-13", "iso8859-13", "iso-ir-179", "latin7", "l7"]
      first := 0xa1
      cells := "”¢£¤„¦§Ø©Ŗ«¬\u00ad®Æ°±²³“µ¶·ø¹ŗ»¼½¾æĄĮĀĆÄÅĘĒČÉŹĖĢĶĪĻŠŃŅÓŌÕÖ×ŲŁŚŪÜŻŽßąįāćäåęēčéźė" ++
        "ģķīļšńņóōõö÷ųłśūüżž’" },
    { names := ["iso-8859-14", "iso_8859-14", "iso8859-14", "iso-ir-199", "latin8", "l8",
          "iso-celtic"]
      first := 0xa1
      cells := "Ḃḃ£ĊċḊ§Ẁ©ẂḋỲ\u00ad®ŸḞḟĠġṀṁ¶ṖẁṗẃṠỳẄẅṡÀÁÂÃÄÅÆÇÈÉÊËÌÍÎÏŴÑÒÓÔÕÖṪØÙÚÛÜÝŶßàáâãäåæçèéêë" ++
        "ìíîïŵñòóôõöṫøùúûüýŷÿ" },
    { names := ["iso-8859-15", "iso_8859-15", "iso8859-15", "iso-ir-203", "latin-9"]
      first := 0xa4
      cells := "€¥Š§š©ª«¬\u00ad®¯°±²³Žµ¶·ž¹º»ŒœŸ¿ÀÁÂÃÄÅÆÇÈÉÊËÌÍÎÏÐÑÒÓÔÕÖ×ØÙÚÛÜÝÞßàáâãäåæçèéêëìíî" ++
        "ïðñòóôõö÷øùúûüýþÿ" },
    { names := ["iso-8859-16", "iso_8859-16", "iso8859-16", "iso-ir-226", "latin10", "l10"]
      first := 0xa1
      cells := "ĄąŁ€„Š§š©Ș«Ź\u00adźŻ°±ČłŽ”¶·žčș»ŒœŸżÀÁÂĂÄĆÆÇÈÉÊËÌÍÎÏĐŃÒÓÔŐÖŚŰÙÚÛÜĘȚßàáâăäćæçèéêë" ++
        "ìíîïđńòóôőöśűùúûüęțÿ" } ]

/-- The Western page of Windows, which exists twice: under its full name the places without
a character hold control characters. -/
def Page.western : List Page :=
  [ { names := ["windows-1252"]
      first := 0x80
      cells := "€\u0081‚ƒ„…†‡ˆ‰Š‹Œ\u008dŽ\u008f\u0090‘’“”•–—˜™š›œ\u009džŸ\u00a0¡¢£¤¥¦§¨©ª«¬" ++
        "\u00ad®¯°±²³´µ¶·¸¹º»¼½¾¿ÀÁÂÃÄÅÆÇÈÉÊËÌÍÎÏÐÑÒÓÔÕÖ×ØÙÚÛÜÝÞßàáâãäåæçèéêëìíîïðñòóôõö÷øùúûüýþÿ" },
    { names := ["cp1252", "ms-ansi"]
      first := 0x80
      cells := "€�‚ƒ„…†‡ˆ‰Š‹Œ�Ž��‘’“”•–—˜™š›œ�žŸ\u00a0¡¢£¤¥¦§¨©ª«¬\u00ad®¯°±²³´µ¶·¸¹º»¼½¾¿ÀÁÂÃÄÅ" ++
        "ÆÇÈÉÊËÌÍÎÏÐÑÒÓÔÕÖ×ØÙÚÛÜÝÞßàáâãäåæçèéêëìíîïðñòóôõö÷øùúûüýþÿ" } ]

/-- The other pages of Windows. -/
def Page.windows : List Page :=
  [ { names := ["windows-1250", "cp1250", "ms-ee"]
      first := 0x80
      cells := "€�‚�„…†‡�‰Š‹ŚŤŽŹ�‘’“”•–—�™š›śťžź\u00a0ˇ˘Ł¤Ą¦§¨©Ş«¬\u00ad®Ż°±˛ł´µ¶·¸ąş»Ľ˝ľżŔÁÂĂÄĹ" ++
        "ĆÇČÉĘËĚÍÎĎĐŃŇÓÔŐÖ×ŘŮÚŰÜÝŢßŕáâăäĺćçčéęëěíîďđńňóôőö÷řůúűüýţ˙" },
    { names := ["windows-1251", "cp1251", "ms-cyrl"]
      first := 0x80
      cells := "ЂЃ‚ѓ„…†‡€‰Љ‹ЊЌЋЏђ‘’“”•–—�™љ›њќћџ\u00a0ЎўЈ¤Ґ¦§Ё©Є«¬\u00ad®Ї°±Ііґµ¶·ё№є»јЅѕїАБВГДЕ" ++
        "ЖЗИЙКЛМНОПРСТУФХЦЧШЩЪЫЬЭЮЯабвгдежзийклмнопрстуфхцчшщъыьэюя" },
    { names := ["windows-1253", "cp1253", "ms-greek"]
      first := 0x80
      cells := "€�‚ƒ„…†‡�‰�‹�����‘’“”•–—�™�›����\u00a0΅Ά£¤¥¦§¨©�«¬\u00ad®―°±²³΄µ¶·ΈΉΊ»Ό½ΎΏΐΑΒΓΔΕ" ++
        "ΖΗΘΙΚΛΜΝΞΟΠΡ�ΣΤΥΦΧΨΩΪΫάέήίΰαβγδεζηθικλμνξοπρςστυφχψωϊϋόύώ" },
    { names := ["windows-1254", "cp1254", "ms-turk"]
      first := 0x80
      cells := "€�‚ƒ„…†‡ˆ‰Š‹Œ����‘’“”•–—˜™š›œ��Ÿ\u00a0¡¢£¤¥¦§¨©ª«¬\u00ad®¯°±²³´µ¶·¸¹º»¼½¾¿ÀÁÂÃÄÅ" ++
        "ÆÇÈÉÊËÌÍÎÏĞÑÒÓÔÕÖ×ØÙÚÛÜİŞßàáâãäåæçèéêëìíîïğñòóôõö÷øùúûüışÿ" },
    { names := ["windows-1255", "cp1255", "ms-hebr"]
      first := 0x80
      cells := "€�‚ƒ„…†‡ˆ‰�‹�����‘’“”•–—˜™�›����\u00a0¡¢£₪¥¦§¨©×«¬\u00ad®¯°±²³´µ¶·¸¹÷»¼½¾¿\u05b0" ++
        "\u05b1\u05b2\u05b3\u05b4\u05b5\u05b6\u05b7\u05b8\u05b9�\u05bb\u05bc\u05bd־\u05bf׀\u05c1" ++
        "\u05c2׃װױײ׳״�������אבגדהוזחטיךכלםמןנסעףפץצקרשת��\u200e\u200f" },
    { names := ["windows-1256", "cp1256", "ms-arab"]
      first := 0x80
      cells := "€پ‚ƒ„…†‡ˆ‰ٹ‹Œچژڈگ‘’“”•–—ک™ڑ›œ\u200c\u200dں\u00a0،¢£¤¥¦§¨©ھ«¬\u00ad®¯°±²³´µ¶·¸¹؛»" ++
        "¼½¾؟ہءآأؤإئابةتثجحخدذرزسشصض×طظعغـفقكàلâمنهوçèéêëىيîï\u064b\u064c\u064d\u064eô\u064f" ++
        "\u0650÷\u0651ù\u0652ûü\u200e\u200fے" },
    { names := ["windows-1257", "cp1257", "winbaltrim"]
      first := 0x80
      cells := "€�‚�„…†‡�‰�‹�¨ˇ¸�‘’“”•–—�™�›�¯˛�\u00a0�¢£¤�¦§Ø©Ŗ«¬\u00ad®Æ°±²³´µ¶·ø¹ŗ»¼½¾æĄĮĀĆÄÅ" ++
        "ĘĒČÉŹĖĢĶĪĻŠŃŅÓŌÕÖ×ŲŁŚŪÜŻŽßąįāćäåęēčéźėģķīļšńņóōõö÷ųłśūüżž˙" },
    { names := ["windows-874", "cp874"]
      first := 0x80
      cells := "€����…�����������‘’“”•–—��������\u00a0กขฃคฅฆงจฉชซฌญฎฏฐฑฒณดตถทธนบปผฝพฟภมยรฤลฦวศษส" ++
        "หฬอฮฯะ\u0e31าำ\u0e34\u0e35\u0e36\u0e37\u0e38\u0e39\u0e3a����฿เแโใไๅๆ\u0e47\u0e48\u0e49" ++
        "\u0e4a\u0e4b\u0e4c\u0e4d\u0e4e๏๐๑๒๓๔๕๖๗๘๙๚๛" } ]

/-- The pages of other desktop systems. -/
def Page.desktop : List Page :=
  [ { names := ["cp850", "ibm850", "850", "cspc850multilingual"]
      first := 0x80
      cells := "ÇüéâäàåçêëèïîìÄÅÉæÆôöòûùÿÖÜø£Ø×ƒáíóúñÑªº¿®¬½¼¡«»░▒▓│┤ÁÂÀ©╣║╗╝¢¥┐└┴┬├─┼ãÃ╚╔╩╦╠═╬¤" ++
        "ðÐÊËÈıÍÎÏ┘┌█▄¦Ì▀ÓßÔÒõÕµþÞÚÛÙýÝ¯´\u00ad±‗¾¶§÷¸°¨·¹³²■\u00a0" },
    { names := ["cp862", "ibm862", "862", "cspc862latinhebrew"]
      first := 0x80
      cells := "אבגדהוזחטיךכלםמןנסעףפץצקרשת¢£¥₧ƒáíóúñÑªº¿⌐¬½¼¡«»░▒▓│┤╡╢╖╕╣║╗╝╜╛┐└┴┬├─┼╞╟╚╔╩╦╠═╬╧" ++
        "╨╤╥╙╘╒╓╫╪┘┌█▄▌▐▀αßΓπΣσµτΦΘΩδ∞φε∩≡±≥≤⌠⌡÷≈°∙·√ⁿ²■\u00a0" },
    { names := ["cp866", "ibm866", "866", "csibm866"]
      first := 0x80
      cells := "АБВГДЕЖЗИЙКЛМНОПРСТУФХЦЧШЩЪЫЬЭЮЯабвгдежзийклмноп░▒▓│┤╡╢╖╕╣║╗╝╜╛┐└┴┬├─┼╞╟╚╔╩╦╠═╬╧" ++
        "╨╤╥╙╘╒╓╫╪┘┌█▄▌▐▀рстуфхцчшщъыьэюяЁёЄєЇїЎў°∙·√№¤■\u00a0" },
    { names := ["macroman", "macintosh", "mac", "csmacintosh"]
      first := 0x80
      cells := "ÄÅÇÉÑÖÜáàâäãåçéèêëíìîïñóòôöõúùûü†°¢£§•¶ß®©™´¨≠ÆØ∞±≤≥¥µ∂∑∏π∫ªºΩæø¿¡¬√ƒ≈∆«»…\u00a0" ++
        "ÀÃÕŒœ–—“”‘’÷◊ÿŸ⁄€‹›ﬁﬂ‡·‚„‰ÂÊÁËÈÍÎÏÌÓÔ\uf8ffÒÚÛÙıˆ˜¯˘˙˚¸˝˛ˇ" },
    { names := ["maccentraleurope"]
      first := 0x80
      cells := "ÄĀāÉĄÖÜáąČäčĆćéŹźĎíďĒēĖóėôöõúĚěü†°Ę£§•¶ß®©™ę¨≠ģĮįĪ≤≥īĶ∂∑łĻļĽľĹĺŅņŃ¬√ńŇ∆«»…\u00a0" ++
        "ňŐÕőŌ–—“”‘’÷◊ōŔŕŘ‹›řŖŗŠ‚„šŚśÁŤťÍŽžŪÓÔūŮÚůŰűŲųÝýķŻŁżĢˇ" },
    { names := ["maciceland"]
      first := 0x80
      cells := "ÄÅÇÉÑÖÜáàâäãåçéèêëíìîïñóòôöõúùûüÝ°¢£§•¶ß®©™´¨≠ÆØ∞±≤≥¥µ∂∑∏π∫ªºΩæø¿¡¬√ƒ≈∆«»…\u00a0" ++
        "ÀÃÕŒœ–—“”‘’÷◊ÿŸ⁄€ÐðÞþý·‚„‰ÂÊÁËÈÍÎÏÌÓÔ\uf8ffÒÚÛÙıˆ˜¯˘˙˚¸˝˛ˇ" },
    { names := ["maccroatian"]
      first := 0x80
      cells := "ÄÅÇÉÑÖÜáàâäãåçéèêëíìîïñóòôöõúùûü†°¢£§•¶ß®Š™´¨≠ŽØ∞±≤≥∆µ∂∑∏š∫ªºΩžø¿¡¬√ƒ≈Ć«Č…\u00a0" ++
        "ÀÃÕŒœĐ—“”‘’÷◊\uf8ff©⁄€‹›Æ»–·‚„‰ÂćÁčÈÍÎÏÌÓÔđÒÚÛÙıˆ˜¯πË˚¸Êæˇ" },
    { names := ["macromania"]
      first := 0x80
      cells := "ÄÅÇÉÑÖÜáàâäãåçéèêëíìîïñóòôöõúùûü†°¢£§•¶ß®©™´¨≠ĂȘ∞±≤≥¥µ∂∑∏π∫ªºΩăș¿¡¬√ƒ≈∆«»…\u00a0" ++
        "ÀÃÕŒœ–—“”‘’÷◊ÿŸ⁄€‹›Țț‡·‚„‰ÂÊÁËÈÍÎÏÌÓÔ\uf8ffÒÚÛÙıˆ˜¯˘˙˚¸˝˛ˇ" },
    { names := ["maccyrillic"]
      first := 0x80
      cells := "АБВГДЕЖЗИЙКЛМНОПРСТУФХЦЧШЩЪЫЬЭЮЯ†°Ґ£§•¶І®©™Ђђ≠Ѓѓ∞±≤≥іµґЈЄєЇїЉљЊњјЅ¬√ƒ≈∆«»…\u00a0" ++
        "ЋћЌќѕ–—“”‘’÷„ЎўЏџ№Ёёяабвгдежзийклмнопрстуфхцчшщъыьэю€" },
    { names := ["macgreek"]
      first := 0x80
      cells := "Ä¹²É³ÖÜ΅àâä΄¨çéèêë£™îï•½‰ôö¦€ùûü†ΓΔΘΛΞΠß®©ΣΪ§≠°·Α±≤≥¥ΒΕΖΗΙΚΜΦΫΨΩάΝ¬ΟΡ≈Τ«»…\u00a0" ++
        "ΥΧΆΈœ–―“”‘’÷ΉΊΌΎέήίόΏύαβψδεφγηιξκλμνοπώρστθωςχυζϊϋΐΰ\u00ad" },
    { names := ["macturkish"]
      first := 0x80
      cells := "ÄÅÇÉÑÖÜáàâäãåçéèêëíìîïñóòôöõúùûü†°¢£§•¶ß®©™´¨≠ÆØ∞±≤≥¥µ∂∑∏π∫ªºΩæø¿¡¬√ƒ≈∆«»…\u00a0" ++
        "ÀÃÕŒœ–—“”‘’÷◊ÿŸĞğİıŞş‡·‚„‰ÂÊÁËÈÍÎÏÌÓÔ\uf8ffÒÚÛÙ\uf8a0ˆ˜¯˘˙˚¸˝˛ˇ" },
    { names := ["hp-roman8", "roman8", "r8", "cshproman8"]
      first := 0xa1
      cells := "ÀÂÈÊËÎÏ´ˋˆ¨˜ÙÛ₤¯Ýý°ÇçÑñ¡¿¤£¥§ƒ¢âêôûáéóúàèòùäëöüÅîØÆåíøæÄìÖÜÉïßÔÁÃãÐðÍÌÓÒÕõŠšÚŸÿÞ" ++
        "þ·µ¶¾—¼½ªº«■»±" } ]

/-- The pages named for a language or for its standard. -/
def Page.national : List Page :=
  [ { names := ["tis-620", "tis620", "tis620-0", "tis620.2529-1", "tis620.2533-0", "tis620.2533-1",
          "iso-ir-166"]
      first := 0x80
      cells := "���������������������������������กขฃคฅฆงจฉชซฌญฎฏฐฑฒณดตถทธนบปผฝพฟภมยรฤลฦวศษสหฬอฮฯ" ++
        "ะ\u0e31าำ\u0e34\u0e35\u0e36\u0e37\u0e38\u0e39\u0e3a����฿เแโใไๅๆ\u0e47\u0e48\u0e49\u0e4a" ++
        "\u0e4b\u0e4c\u0e4d\u0e4e๏๐๑๒๓๔๕๖๗๘๙๚๛" },
    { names := ["koi8-r", "cskoi8r"]
      first := 0x80
      cells := "─│┌┐└┘├┤┬┴┼▀▄█▌▐░▒▓⌠■∙√≈≤≥\u00a0⌡°²·÷═║╒ё╓╔╕╖╗╘╙╚╛╜╝╞╟╠╡Ё╢╣╤╥╦╧╨╩╪╫╬©юабцдефгхий" ++
        "клмнопярстужвьызшэщчъЮАБЦДЕФГХИЙКЛМНОПЯРСТУЖВЬЫЗШЭЩЧЪ" },
    { names := ["koi8-u"]
      first := 0x80
      cells := "─│┌┐└┘├┤┬┴┼▀▄█▌▐░▒▓⌠■∙√≈≤≥\u00a0⌡°²·÷═║╒ёє╔ії╗╘╙╚╛ґ╝╞╟╠╡ЁЄ╣ІЇ╦╧╨╩╪Ґ╬©юабцдефгхий" ++
        "клмнопярстужвьызшэщчъЮАБЦДЕФГХИЙКЛМНОПЯРСТУЖВЬЫЗШЭЩЧЪ" },
    { names := ["koi8-ru"]
      first := 0x80
      cells := "─│┌┐└┘├┤┬┴┼▀▄█▌▐░▒▓“■∙”—№™\u00a0»®«·¤═║╒ёє╔ії╗╘╙╚╛ґў╞╟╠╡ЁЄ╣ІЇ╦╧╨╩╪ҐЎ©юабцдефгхий" ++
        "клмнопярстужвьызшэщчъЮАБЦДЕФГХИЙКЛМНОПЯРСТУЖВЬЫЗШЭЩЧЪ" },
    { names := ["koi8-t"]
      first := 0x80
      cells := "қғ‚Ғ„…†‡�‰ҳ‹ҲҷҶ�Қ‘’“”•–—�™�›�����ӯӮё¤ӣ¦§���«¬\u00ad®�°±²Ё�Ӣ¶·�№�»���©юабцдефгхий" ++
        "клмнопярстужвьызшэщчъЮАБЦДЕФГХИЙКЛМНОПЯРСТУЖВЬЫЗШЭЩЧЪ" },
    { names := ["cp1133", "ibm-cp1133"]
      first := 0xa0
      cells := "�ກຂຄງຈສຊຍດຕຖທນບປຜຝພຟມຢຣລວຫອຮ���ຯະາຳ\u0eb4\u0eb5\u0eb6\u0eb7\u0eb8\u0eb9\u0ebc" ++
        "\u0eb1\u0ebbຽ���ເແໂໃໄ\u0ec8\u0ec9\u0eca\u0ecb\u0ecc\u0ecdໆ�ໜໝk����������������໐໑໒໓໔໕໖໗໘" ++
        "໙��¢¬¦\u00a0" },
    { names := ["armscii-8"]
      first := 0xa1
      cells := "�և։)(»«—.՝,-֊…՜՛՞ԱաԲբԳգԴդԵեԶզԷէԸըԹթԺժԻիԼլԽխԾծԿկՀհՁձՂղՃճՄմՅյՆնՇշՈոՉչՊպՋջՌռՍսՎվՏտՐ" ++
        "րՑցՒւՓփՔքՕօՖֆ՚" },
    { names := ["georgian-academy"]
      first := 0x82
      cells := "‚ƒ„…†‡ˆ‰Š‹Œ\u008d\u008e\u008f\u0090‘’“”•–—˜™š›œ\u009d\u009eŸ\u00a0¡¢£¤¥¦§¨©ª«¬" ++
        "\u00ad®¯°±²³´µ¶·¸¹º»¼½¾¿აბგდევზთიკლმნოპჟრსტუფქღყშჩცძწჭხჯჰჱჲჳჴჵჶçèéêëìíîïðñòóôõö÷øùúûüýþÿ" },
    { names := ["georgian-ps"]
      first := 0x82
      cells := "‚ƒ„…†‡ˆ‰Š‹Œ\u008d\u008e\u008f\u0090‘’“”•–—˜™š›œ\u009d\u009eŸ\u00a0¡¢£¤¥¦§¨©ª«¬" ++
        "\u00ad®¯°±²³´µ¶·¸¹º»¼½¾¿აბგდევზჱთიკლმნჲოპჟრსტჳუფქღყშჩცძწჭხჴჯჰჵæçèéêëìíîïðñòóôõö÷øùúûüýþÿ" },
    { names := ["pt154", "ptcp154", "cp154", "cyrillic-asian", "csptcp154"]
      first := 0x80
      cells := "ҖҒӮғ„…ҶҮҲүҠӢҢҚҺҸҗ‘’“”•–—ҳҷҡӣңқһҹ\u00a0ЎўЈӨҘҰ§Ё©Ә«¬ӯ®Ҝ°ұІіҙө¶·ё№ә»јҪҫҝАБВГДЕЖЗИЙК" ++
        "ЛМНОПРСТУФХЦЧШЩЪЫЬЭЮЯабвгдежзийклмнопрстуфхцчшщъыьэюя" },
    { names := ["rk1048", "strk1048-2002", "kz-1048", "cskz1048"]
      first := 0x80
      cells := "ЂЃ‚ѓ„…†‡€‰Љ‹ЊҚҺЏђ‘’“”•–—�™љ›њқһџ\u00a0ҰұӘ¤Ө¦§Ё©Ғ«¬\u00ad®Ү°±Ііөµ¶·ё№ғ»әҢңүАБВГДЕ" ++
        "ЖЗИЙКЛМНОПРСТУФХЦЧШЩЪЫЬЭЮЯабвгдежзийклмнопрстуфхцчшщъыьэюя" } ]

/-- The Japanese page of single bytes: a yen sign and an overline in places that ASCII
gives otherwise, and the narrow letters. -/
def Page.japanese : Page :=
  { names := ["jis_x0201", "jisx0201-1976", "x0201", "cshalfwidthkatakana"]
    first := 0x5c
    cells := "¥]^_`abcdefghijklmnopqrstuvwxyz\x7b|\x7d‾\u007f���������������������������������｡｢" ++
      "｣､･ｦｧｨｩｪｫｬｭｮｯｰｱｲｳｴｵｶｷｸｹｺｻｼｽｾｿﾀﾁﾂﾃﾄﾅﾆﾇﾈﾉﾊﾋﾌﾍﾎﾏﾐﾑﾒﾓﾔﾕﾖﾗﾘﾙﾚﾛﾜﾝﾞﾟ" }

/-- The Japanese page without the narrow letters. -/
def Page.japaneseRoman : Page :=
  { names := ["jis_c6220-1969-ro", "iso646-jp", "iso-ir-14", "jp", "csiso14jisc6220ro"]
    first := 0x5c
    cells := "¥]^_`abcdefghijklmnopqrstuvwxyz\x7b|\x7d‾\u007f" }

/-- The pages that all who read them read alike. -/
def Page.settled : List Page :=
  Page.latin1 :: Page.ascii :: (Page.iso8859 ++ Page.windows)

/-- The other pages that have ASCII before their cells. -/
def Page.unsettled : List Page :=
  Page.western ++ Page.desktop ++ Page.national

/-- All pages. -/
def Page.all : List Page :=
  Page.japanese :: Page.japaneseRoman :: (Page.settled ++ Page.unsettled)

end SymbolDocs.Text
