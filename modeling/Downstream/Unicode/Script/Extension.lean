import Downstream.Unicode.Ranges

/-!
# Script extensions

Characters that are used with more than their own script, Unicode 16.0.
-/

namespace Downstream.Unicode.ScriptExtension

/-- Common and inherited characters that are used with a few scripts only. -/
def shared : Ranges :=
  [(0xB7, 0xB7), (0x2BC, 0x2BC), (0x2C7, 0x2C7), (0x2C9, 0x2CB), (0x2CD, 0x2CD), (0x2D7, 0x2D7),
   (0x2D9, 0x2D9), (0x300, 0x30E), (0x310, 0x311), (0x313, 0x313), (0x323, 0x325), (0x32D, 0x32E),
   (0x330, 0x331), (0x342, 0x342), (0x345, 0x345), (0x358, 0x358), (0x35E, 0x35E), (0x363, 0x36F),
   (0x374, 0x374), (0x485, 0x486), (0x60C, 0x60C), (0x61B, 0x61B), (0x61F, 0x61F), (0x640, 0x640),
   (0x64B, 0x655), (0x670, 0x670), (0x951, 0x952), (0x964, 0x965), (0x10FB, 0x10FB),
   (0x16EB, 0x16ED), (0x1735, 0x1736), (0x1802, 0x1803), (0x1805, 0x1805), (0x1CD0, 0x1CFA),
   (0x1DC0, 0x1DC1), (0x1DF8, 0x1DF8), (0x1DFA, 0x1DFA), (0x202F, 0x202F), (0x204F, 0x204F),
   (0x205A, 0x205A), (0x205D, 0x205D), (0x20F0, 0x20F0), (0x2E17, 0x2E17), (0x2E30, 0x2E31),
   (0x2E3C, 0x2E3C), (0x2E41, 0x2E41), (0x2E43, 0x2E43), (0x2FF0, 0x2FFF), (0x3001, 0x3003),
   (0x3006, 0x3006), (0x3008, 0x3011), (0x3013, 0x301F), (0x302A, 0x302D), (0x3030, 0x3035),
   (0x3037, 0x3037), (0x303C, 0x303F), (0x3099, 0x309C), (0x30A0, 0x30A0), (0x30FB, 0x30FC),
   (0x3190, 0x319F), (0x31C0, 0x31E5), (0x31EF, 0x31EF), (0x3220, 0x3247), (0x3280, 0x32B0),
   (0x32C0, 0x32CB), (0x32FF, 0x32FF), (0x3358, 0x3370), (0x337B, 0x337F), (0x33E0, 0x33FE),
   (0xA700, 0xA707), (0xA830, 0xA839), (0xA92E, 0xA92E), (0xA9CF, 0xA9CF), (0xFD3E, 0xFD3F),
   (0xFE45, 0xFE46), (0xFF61, 0xFF65), (0xFF70, 0xFF70), (0xFF9E, 0xFF9F), (0x10100, 0x10102),
   (0x10107, 0x10133), (0x10137, 0x1013F), (0x102E0, 0x102FB), (0x1133B, 0x1133B),
   (0x1BCA0, 0x1BCA3), (0x1D360, 0x1D371), (0x1F250, 0x1F251)]

/-- Characters of other scripts that are also used with Adlam. -/
def adlam : Ranges :=
  [(0x61F, 0x61F), (0x640, 0x640), (0x204F, 0x204F), (0x2E41, 0x2E41)]

/-- Characters of other scripts that are also used with Arabic. -/
def arabic : Ranges :=
  [(0x60C, 0x60C), (0x61B, 0x61B), (0x61F, 0x61F), (0x640, 0x640), (0x64B, 0x655), (0x670, 0x670),
   (0x204F, 0x204F), (0x2E41, 0x2E41), (0xFD3E, 0xFD3F), (0x102E0, 0x102FB)]

/-- Characters of other scripts that are also used with Armenian. -/
def armenian : Ranges :=
  [(0x308, 0x308)]

/-- Characters of other scripts that are also used with Avestan. -/
def avestan : Ranges :=
  [(0xB7, 0xB7), (0x2E30, 0x2E31)]

/-- Characters of other scripts that are also used with Bengali. -/
def bengali : Ranges :=
  [(0x2BC, 0x2BC), (0x951, 0x952), (0x964, 0x965), (0x1CD0, 0x1CD0), (0x1CD2, 0x1CD2),
   (0x1CD5, 0x1CD6), (0x1CD8, 0x1CD8), (0x1CE1, 0x1CE1), (0x1CEA, 0x1CEA), (0x1CED, 0x1CED),
   (0x1CF2, 0x1CF2), (0x1CF5, 0x1CF7), (0xA8F1, 0xA8F1)]

/-- Characters of other scripts that are also used with Bopomofo. -/
def bopomofo : Ranges :=
  [(0x2C7, 0x2C7), (0x2C9, 0x2CB), (0x2D9, 0x2D9), (0x3001, 0x3003), (0x3008, 0x3011),
   (0x3013, 0x301F), (0x302A, 0x302D), (0x3030, 0x3030), (0x3037, 0x3037), (0x30FB, 0x30FB),
   (0xFE45, 0xFE46), (0xFF61, 0xFF65)]

/-- Characters of other scripts that are also used with Buginese. -/
def buginese : Ranges :=
  [(0xA9CF, 0xA9CF)]

/-- Characters of other scripts that are also used with Buhid. -/
def buhid : Ranges :=
  [(0x1735, 0x1736)]

/-- Characters of other scripts that are also used with Carian. -/
def carian : Ranges :=
  [(0xB7, 0xB7), (0x205A, 0x205A), (0x205D, 0x205D), (0x2E31, 0x2E31)]

/-- Characters of other scripts that are also used with Caucasian Albanian. -/
def caucasianAlbanian : Ranges :=
  [(0x304, 0x304), (0x331, 0x331), (0x35E, 0x35E)]

/-- Characters of other scripts that are also used with Chakma. -/
def chakma : Ranges :=
  [(0x9E6, 0x9EF), (0x1040, 0x1049)]

/-- Characters of other scripts that are also used with Cherokee. -/
def cherokee : Ranges :=
  [(0x300, 0x302), (0x304, 0x304), (0x30B, 0x30C), (0x323, 0x324), (0x330, 0x331)]

/-- Characters of other scripts that are also used with Coptic. -/
def coptic : Ranges :=
  [(0xB7, 0xB7), (0x300, 0x300), (0x304, 0x305), (0x307, 0x307), (0x374, 0x375), (0x2E17, 0x2E17),
   (0x102E0, 0x102FB)]

/-- Characters of other scripts that are also used with Cypriot. -/
def cypriot : Ranges :=
  [(0x10100, 0x10102), (0x10107, 0x10133), (0x10137, 0x1013F)]

/-- Characters of other scripts that are also used with Cypro Minoan. -/
def cyproMinoan : Ranges :=
  [(0x10100, 0x10101)]

/-- Characters of other scripts that are also used with Cyrillic. -/
def cyrillic : Ranges :=
  [(0x2BC, 0x2BC), (0x300, 0x302), (0x304, 0x304), (0x306, 0x306), (0x308, 0x308), (0x30B, 0x30B),
   (0x311, 0x311), (0x485, 0x486), (0x1DF8, 0x1DF8), (0x2E43, 0x2E43)]

/-- Characters of other scripts that are also used with Devanagari. -/
def devanagari : Ranges :=
  [(0x2BC, 0x2BC), (0x951, 0x952), (0x964, 0x965), (0x1CD0, 0x1CF6), (0x1CF8, 0x1CF9),
   (0x20F0, 0x20F0), (0xA830, 0xA839)]

/-- Characters of other scripts that are also used with Dogra. -/
def dogra : Ranges :=
  [(0x964, 0x96F), (0xA830, 0xA839)]

/-- Characters of other scripts that are also used with Duployan. -/
def duployan : Ranges :=
  [(0xB7, 0xB7), (0x307, 0x308), (0x30A, 0x30A), (0x323, 0x324), (0x2E3C, 0x2E3C),
   (0x1BCA0, 0x1BCA3)]

/-- Characters of other scripts that are also used with Elbasan. -/
def elbasan : Ranges :=
  [(0xB7, 0xB7), (0x305, 0x305)]

/-- Characters of other scripts that are also used with Ethiopic. -/
def ethiopic : Ranges :=
  [(0x30E, 0x30E)]

/-- Characters of other scripts that are also used with Garay. -/
def garay : Ranges :=
  [(0x60C, 0x60C), (0x61B, 0x61B), (0x61F, 0x61F)]

/-- Characters of other scripts that are also used with Georgian. -/
def georgian : Ranges :=
  [(0xB7, 0xB7), (0x589, 0x589), (0x10FB, 0x10FB), (0x205A, 0x205A), (0x2E31, 0x2E31)]

/-- Characters of other scripts that are also used with Glagolitic. -/
def glagolitic : Ranges :=
  [(0xB7, 0xB7), (0x303, 0x303), (0x305, 0x305), (0x484, 0x484), (0x487, 0x487), (0x589, 0x589),
   (0x10FB, 0x10FB), (0x205A, 0x205A), (0x2E43, 0x2E43), (0xA66F, 0xA66F)]

/-- Characters of other scripts that are also used with Gothic. -/
def gothic : Ranges :=
  [(0xB7, 0xB7), (0x304, 0x305), (0x308, 0x308), (0x331, 0x331)]

/-- Characters of other scripts that are also used with Grantha. -/
def grantha : Ranges :=
  [(0x951, 0x952), (0x964, 0x965), (0xBE6, 0xBF3), (0x1CD0, 0x1CD0), (0x1CD2, 0x1CD3),
   (0x1CF2, 0x1CF4), (0x1CF8, 0x1CF9), (0x20F0, 0x20F0), (0x1133B, 0x1133B), (0x11FD0, 0x11FD1),
   (0x11FD3, 0x11FD3)]

/-- Characters of other scripts that are also used with Greek. -/
def greek : Ranges :=
  [(0xB7, 0xB7), (0x300, 0x301), (0x304, 0x304), (0x306, 0x306), (0x308, 0x308), (0x313, 0x313),
   (0x342, 0x342), (0x345, 0x345), (0x374, 0x374), (0x1DC0, 0x1DC1), (0x205D, 0x205D)]

/-- Characters of other scripts that are also used with Gujarati. -/
def gujarati : Ranges :=
  [(0x951, 0x952), (0x964, 0x965), (0xA830, 0xA839)]

/-- Characters of other scripts that are also used with Gunjala Gondi. -/
def gunjalaGondi : Ranges :=
  [(0xB7, 0xB7), (0x964, 0x965)]

/-- Characters of other scripts that are also used with Gurmukhi. -/
def gurmukhi : Ranges :=
  [(0x951, 0x952), (0x964, 0x965), (0xA830, 0xA839)]

/-- Characters of other scripts that are also used with Gurung Khema. -/
def gurungKhema : Ranges :=
  [(0x965, 0x965)]

/-- Characters of other scripts that are also used with Han. -/
def han : Ranges :=
  [(0xB7, 0xB7), (0x2FF0, 0x2FFF), (0x3001, 0x3003), (0x3006, 0x3006), (0x3008, 0x3011),
   (0x3013, 0x301F), (0x302A, 0x302D), (0x3030, 0x3030), (0x3037, 0x3037), (0x303C, 0x303F),
   (0x30FB, 0x30FB), (0x3190, 0x319F), (0x31C0, 0x31E5), (0x31EF, 0x31EF), (0x3220, 0x3247),
   (0x3280, 0x32B0), (0x32C0, 0x32CB), (0x32FF, 0x32FF), (0x3358, 0x3370), (0x337B, 0x337F),
   (0x33E0, 0x33FE), (0xA700, 0xA707), (0xFE45, 0xFE46), (0xFF61, 0xFF65), (0x1D360, 0x1D371),
   (0x1F250, 0x1F251)]

/-- Characters of other scripts that are also used with Hangul. -/
def hangul : Ranges :=
  [(0x3001, 0x3003), (0x3008, 0x3011), (0x3013, 0x301F), (0x3030, 0x3030), (0x3037, 0x3037),
   (0x30FB, 0x30FB), (0xFE45, 0xFE46), (0xFF61, 0xFF65)]

/-- Characters of other scripts that are also used with Hanifi Rohingya. -/
def hanifiRohingya : Ranges :=
  [(0x60C, 0x60C), (0x61B, 0x61B), (0x61F, 0x61F), (0x640, 0x640), (0x6D4, 0x6D4)]

/-- Characters of other scripts that are also used with Hanunoo. -/
def hanunoo : Ranges :=
  [(0x1735, 0x1736)]

/-- Characters of other scripts that are also used with Hebrew. -/
def hebrew : Ranges :=
  [(0x307, 0x308)]

/-- Characters of other scripts that are also used with Hiragana. -/
def hiragana : Ranges :=
  [(0x3001, 0x3003), (0x3008, 0x3011), (0x3013, 0x301F), (0x3030, 0x3035), (0x3037, 0x3037),
   (0x303C, 0x303D), (0x3099, 0x309C), (0x30A0, 0x30A0), (0x30FB, 0x30FC), (0xFE45, 0xFE46),
   (0xFF61, 0xFF65), (0xFF70, 0xFF70), (0xFF9E, 0xFF9F)]

/-- Characters of other scripts that are also used with Javanese. -/
def javanese : Ranges :=
  [(0xA9CF, 0xA9CF)]

/-- Characters of other scripts that are also used with Kaithi. -/
def kaithi : Ranges :=
  [(0x966, 0x96F), (0x2E31, 0x2E31), (0xA830, 0xA839)]

/-- Characters of other scripts that are also used with Kannada. -/
def kannada : Ranges :=
  [(0x951, 0x952), (0x964, 0x965), (0x1CD0, 0x1CD0), (0x1CD2, 0x1CD3), (0x1CDA, 0x1CDA),
   (0x1CF2, 0x1CF2), (0x1CF4, 0x1CF4), (0xA830, 0xA835)]

/-- Characters of other scripts that are also used with Katakana. -/
def katakana : Ranges :=
  [(0x305, 0x305), (0x323, 0x323), (0x3001, 0x3003), (0x3008, 0x3011), (0x3013, 0x301F),
   (0x3030, 0x3035), (0x3037, 0x3037), (0x303C, 0x303D), (0x3099, 0x309C), (0x30A0, 0x30A0),
   (0x30FB, 0x30FC), (0xFE45, 0xFE46), (0xFF61, 0xFF65), (0xFF70, 0xFF70), (0xFF9E, 0xFF9F)]

/-- Characters of other scripts that are also used with Kayah Li. -/
def kayahLi : Ranges :=
  [(0xA92E, 0xA92E)]

/-- Characters of other scripts that are also used with Khojki. -/
def khojki : Ranges :=
  [(0xAE6, 0xAEF), (0xA830, 0xA839)]

/-- Characters of other scripts that are also used with Khudawadi. -/
def khudawadi : Ranges :=
  [(0x964, 0x965), (0xA830, 0xA839)]

/-- Characters of other scripts that are also used with Latin. -/
def latin : Ranges :=
  [(0xB7, 0xB7), (0x2BC, 0x2BC), (0x2C7, 0x2C7), (0x2C9, 0x2CB), (0x2CD, 0x2CD), (0x2D7, 0x2D7),
   (0x2D9, 0x2D9), (0x300, 0x30E), (0x310, 0x311), (0x313, 0x313), (0x323, 0x325), (0x32D, 0x32E),
   (0x330, 0x331), (0x358, 0x358), (0x35E, 0x35E), (0x363, 0x36F), (0x485, 0x486), (0x951, 0x952),
   (0x10FB, 0x10FB), (0x1DF8, 0x1DF8), (0x202F, 0x202F), (0x20F0, 0x20F0), (0x2E17, 0x2E17),
   (0xA700, 0xA707), (0xA92E, 0xA92E)]

/-- Characters of other scripts that are also used with Limbu. -/
def limbu : Ranges :=
  [(0x965, 0x965)]

/-- Characters of other scripts that are also used with Linear A. -/
def linearA : Ranges :=
  [(0x10107, 0x10133)]

/-- Characters of other scripts that are also used with Linear B. -/
def linearB : Ranges :=
  [(0x10100, 0x10102), (0x10107, 0x10133), (0x10137, 0x1013F)]

/-- Characters of other scripts that are also used with Lisu. -/
def lisu : Ranges :=
  [(0x2BC, 0x2BC), (0x2CD, 0x2CD), (0x300A, 0x300B)]

/-- Characters of other scripts that are also used with Lycian. -/
def lycian : Ranges :=
  [(0x205A, 0x205A)]

/-- Characters of other scripts that are also used with Lydian. -/
def lydian : Ranges :=
  [(0xB7, 0xB7), (0x2E31, 0x2E31)]

/-- Characters of other scripts that are also used with Mahajani. -/
def mahajani : Ranges :=
  [(0xB7, 0xB7), (0x964, 0x96F), (0xA830, 0xA839)]

/-- Characters of other scripts that are also used with Malayalam. -/
def malayalam : Ranges :=
  [(0x951, 0x952), (0x964, 0x965), (0x1CDA, 0x1CDA), (0x1CF2, 0x1CF2), (0xA830, 0xA832)]

/-- Characters of other scripts that are also used with Mandaic. -/
def mandaic : Ranges :=
  [(0x640, 0x640)]

/-- Characters of other scripts that are also used with Manichaean. -/
def manichaean : Ranges :=
  [(0x640, 0x640)]

/-- Characters of other scripts that are also used with Masaram Gondi. -/
def masaramGondi : Ranges :=
  [(0x964, 0x965)]

/-- Characters of other scripts that are also used with Meroitic Hieroglyphs. -/
def meroiticHieroglyphs : Ranges :=
  [(0x205D, 0x205D)]

/-- Characters of other scripts that are also used with Modi. -/
def modi : Ranges :=
  [(0xA830, 0xA839)]

/-- Characters of other scripts that are also used with Mongolian. -/
def mongolian : Ranges :=
  [(0x1802, 0x1803), (0x1805, 0x1805), (0x202F, 0x202F), (0x3001, 0x3002), (0x3008, 0x300B)]

/-- Characters of other scripts that are also used with Multani. -/
def multani : Ranges :=
  [(0xA66, 0xA6F)]

/-- Characters of other scripts that are also used with Myanmar. -/
def myanmar : Ranges :=
  [(0xA92E, 0xA92E)]

/-- Characters of other scripts that are also used with Nandinagari. -/
def nandinagari : Ranges :=
  [(0x951, 0x951), (0x964, 0x965), (0xCE6, 0xCEF), (0x1CE9, 0x1CE9), (0x1CF2, 0x1CF2),
   (0x1CFA, 0x1CFA), (0xA830, 0xA835)]

/-- Characters of other scripts that are also used with Newa. -/
def newa : Ranges :=
  [(0x951, 0x952), (0x1CD5, 0x1CD5), (0x1CD7, 0x1CD8), (0x1CE2, 0x1CE2), (0x1CE9, 0x1CE9),
   (0x1CEB, 0x1CEB), (0x1CED, 0x1CED)]

/-- Characters of other scripts that are also used with Nko. -/
def nko : Ranges :=
  [(0x60C, 0x60C), (0x61B, 0x61B), (0x61F, 0x61F), (0xFD3E, 0xFD3F)]

/-- Characters of other scripts that are also used with Ol Onal. -/
def olOnal : Ranges :=
  [(0x964, 0x965)]

/-- Characters of other scripts that are also used with Old Hungarian. -/
def oldHungarian : Ranges :=
  [(0x205A, 0x205A), (0x205D, 0x205D), (0x2E31, 0x2E31), (0x2E41, 0x2E41)]

/-- Characters of other scripts that are also used with Old Permic. -/
def oldPermic : Ranges :=
  [(0xB7, 0xB7), (0x300, 0x300), (0x306, 0x308), (0x313, 0x313), (0x483, 0x483)]

/-- Characters of other scripts that are also used with Old Turkic. -/
def oldTurkic : Ranges :=
  [(0x205A, 0x205A), (0x2E30, 0x2E30)]

/-- Characters of other scripts that are also used with Old Uyghur. -/
def oldUyghur : Ranges :=
  [(0x640, 0x640), (0x10AF2, 0x10AF2)]

/-- Characters of other scripts that are also used with Oriya. -/
def oriya : Ranges :=
  [(0x951, 0x952), (0x964, 0x965), (0x1CDA, 0x1CDA), (0x1CF2, 0x1CF2)]

/-- Characters of other scripts that are also used with Osage. -/
def osage : Ranges :=
  [(0x301, 0x301), (0x304, 0x304), (0x30B, 0x30B), (0x358, 0x358)]

/-- Characters of other scripts that are also used with Phags Pa. -/
def phagsPa : Ranges :=
  [(0x1802, 0x1803), (0x1805, 0x1805), (0x202F, 0x202F), (0x3002, 0x3002)]

/-- Characters of other scripts that are also used with Psalter Pahlavi. -/
def psalterPahlavi : Ranges :=
  [(0x640, 0x640)]

/-- Characters of other scripts that are also used with Runic. -/
def runic : Ranges :=
  [(0x16EB, 0x16ED)]

/-- Characters of other scripts that are also used with Samaritan. -/
def samaritan : Ranges :=
  [(0x2E31, 0x2E31)]

/-- Characters of other scripts that are also used with Sharada. -/
def sharada : Ranges :=
  [(0x951, 0x951), (0x1CD7, 0x1CD7), (0x1CD9, 0x1CD9), (0x1CDC, 0x1CDD), (0x1CE0, 0x1CE0),
   (0x1CEA, 0x1CEA), (0x1CED, 0x1CED), (0xA830, 0xA835), (0xA838, 0xA838)]

/-- Characters of other scripts that are also used with Shavian. -/
def shavian : Ranges :=
  [(0xB7, 0xB7)]

/-- Characters of other scripts that are also used with Sinhala. -/
def sinhala : Ranges :=
  [(0x964, 0x965), (0x1CF2, 0x1CF2)]

/-- Characters of other scripts that are also used with Sogdian. -/
def sogdian : Ranges :=
  [(0x640, 0x640)]

/-- Characters of other scripts that are also used with Sunuwar. -/
def sunuwar : Ranges :=
  [(0x300, 0x301), (0x303, 0x303), (0x30D, 0x30D), (0x310, 0x310), (0x32D, 0x32D), (0x331, 0x331)]

/-- Characters of other scripts that are also used with Syloti Nagri. -/
def sylotiNagri : Ranges :=
  [(0x964, 0x965), (0x9E6, 0x9EF)]

/-- Characters of other scripts that are also used with Syriac. -/
def syriac : Ranges :=
  [(0x303, 0x304), (0x307, 0x308), (0x30A, 0x30A), (0x323, 0x325), (0x32D, 0x32E), (0x330, 0x331),
   (0x60C, 0x60C), (0x61B, 0x61C), (0x61F, 0x61F), (0x640, 0x640), (0x64B, 0x655), (0x670, 0x670),
   (0x1DF8, 0x1DF8), (0x1DFA, 0x1DFA)]

/-- Characters of other scripts that are also used with Tagalog. -/
def tagalog : Ranges :=
  [(0x1735, 0x1736)]

/-- Characters of other scripts that are also used with Tagbanwa. -/
def tagbanwa : Ranges :=
  [(0x1735, 0x1736)]

/-- Characters of other scripts that are also used with Tai Le. -/
def taiLe : Ranges :=
  [(0x300, 0x301), (0x307, 0x308), (0x30C, 0x30C), (0x1040, 0x1049)]

/-- Characters of other scripts that are also used with Takri. -/
def takri : Ranges :=
  [(0x964, 0x965), (0xA830, 0xA839)]

/-- Characters of other scripts that are also used with Tamil. -/
def tamil : Ranges :=
  [(0x951, 0x952), (0x964, 0x965), (0x1CDA, 0x1CDA), (0xA8F3, 0xA8F3), (0x11301, 0x11301),
   (0x11303, 0x11303), (0x1133B, 0x1133C)]

/-- Characters of other scripts that are also used with Tangut. -/
def tangut : Ranges :=
  [(0x2FF0, 0x2FFF), (0x31EF, 0x31EF)]

/-- Characters of other scripts that are also used with Telugu. -/
def telugu : Ranges :=
  [(0x951, 0x952), (0x964, 0x965), (0x1CD5, 0x1CD6), (0x1CD8, 0x1CD8), (0x1CDA, 0x1CDA),
   (0x1CF2, 0x1CF2)]

/-- Characters of other scripts that are also used with Thaana. -/
def thaana : Ranges :=
  [(0x60C, 0x60C), (0x61B, 0x61C), (0x61F, 0x61F), (0x660, 0x669), (0xFDF2, 0xFDF2),
   (0xFDFD, 0xFDFD)]

/-- Characters of other scripts that are also used with Thai. -/
def thai : Ranges :=
  [(0x2BC, 0x2BC), (0x2D7, 0x2D7), (0x303, 0x303), (0x331, 0x331)]

/-- Characters of other scripts that are also used with Tibetan. -/
def tibetan : Ranges :=
  [(0x3008, 0x300B)]

/-- Characters of other scripts that are also used with Tifinagh. -/
def tifinagh : Ranges :=
  [(0x302, 0x302), (0x304, 0x304), (0x306, 0x309), (0x323, 0x323)]

/-- Characters of other scripts that are also used with Tirhuta. -/
def tirhuta : Ranges :=
  [(0x951, 0x952), (0x964, 0x965), (0x1CD5, 0x1CD5), (0x1CE2, 0x1CE2), (0x1CF2, 0x1CF2),
   (0xA830, 0xA839)]

/-- Characters of other scripts that are also used with Todhri. -/
def todhri : Ranges :=
  [(0x301, 0x301), (0x304, 0x304), (0x307, 0x307), (0x311, 0x311), (0x313, 0x313), (0x35E, 0x35E)]

/-- Characters of other scripts that are also used with Toto. -/
def toto : Ranges :=
  [(0x2BC, 0x2BC)]

/-- Characters of other scripts that are also used with Tulu Tigalari. -/
def tuluTigalari : Ranges :=
  [(0xCE6, 0xCEF), (0x1CF2, 0x1CF2), (0x1CF4, 0x1CF4), (0xA830, 0xA835), (0xA8F1, 0xA8F1)]

/-- Characters of other scripts that are also used with Yezidi. -/
def yezidi : Ranges :=
  [(0x60C, 0x60C), (0x61B, 0x61B), (0x61F, 0x61F), (0x660, 0x669)]

/-- Characters of other scripts that are also used with Yi. -/
def yi : Ranges :=
  [(0x3001, 0x3002), (0x3008, 0x3011), (0x3014, 0x301B), (0x30FB, 0x30FB), (0xFF61, 0xFF65)]

end Downstream.Unicode.ScriptExtension
