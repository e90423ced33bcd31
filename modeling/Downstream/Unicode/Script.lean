import Downstream.Unicode.Script.FromAToI
import Downstream.Unicode.Script.FromIToO
import Downstream.Unicode.Script.FromOToZ
import Downstream.Unicode.Script.Extension

/-!
# Scripts

The names of the scripts and their characters. Names are in the form in which they are compared:
lower case, without blanks, hyphens and underscores.
-/

namespace Downstream.Unicode.Script

/-- Every script: its short name, its long name and further names, and its characters. -/
def all : List (List String × Ranges) :=
  [(["adlm", "adlam"], adlam),
   (["ahom"], ahom),
   (["hluw", "anatolianhieroglyphs"], anatolianHieroglyphs),
   (["arab", "arabic"], arabic),
   (["armn", "armenian"], armenian),
   (["avst", "avestan"], avestan),
   (["bali", "balinese"], balinese),
   (["bamu", "bamum"], bamum),
   (["bass", "bassavah"], bassaVah),
   (["batk", "batak"], batak),
   (["beng", "bengali"], bengali),
   (["bhks", "bhaiksuki"], bhaiksuki),
   (["bopo", "bopomofo"], bopomofo),
   (["brah", "brahmi"], brahmi),
   (["brai", "braille"], braille),
   (["bugi", "buginese"], buginese),
   (["buhd", "buhid"], buhid),
   (["cans", "canadianaboriginal"], canadianAboriginal),
   (["cari", "carian"], carian),
   (["aghb", "caucasianalbanian"], caucasianAlbanian),
   (["cakm", "chakma"], chakma),
   (["cham"], cham),
   (["cher", "cherokee"], cherokee),
   (["chrs", "chorasmian"], chorasmian),
   (["zyyy", "common"], common),
   (["copt", "coptic", "qaac"], coptic),
   (["xsux", "cuneiform"], cuneiform),
   (["cprt", "cypriot"], cypriot),
   (["cpmn", "cyprominoan"], cyproMinoan),
   (["cyrl", "cyrillic"], cyrillic),
   (["dsrt", "deseret"], deseret),
   (["deva", "devanagari"], devanagari),
   (["diak", "divesakuru"], divesAkuru),
   (["dogr", "dogra"], dogra),
   (["dupl", "duployan"], duployan),
   (["egyp", "egyptianhieroglyphs"], egyptianHieroglyphs),
   (["elba", "elbasan"], elbasan),
   (["elym", "elymaic"], elymaic),
   (["ethi", "ethiopic"], ethiopic),
   (["gara", "garay"], garay),
   (["geor", "georgian"], georgian),
   (["glag", "glagolitic"], glagolitic),
   (["goth", "gothic"], gothic),
   (["gran", "grantha"], grantha),
   (["grek", "greek"], greek),
   (["gujr", "gujarati"], gujarati),
   (["gong", "gunjalagondi"], gunjalaGondi),
   (["guru", "gurmukhi"], gurmukhi),
   (["gukh", "gurungkhema"], gurungKhema),
   (["hani", "han"], han),
   (["hang", "hangul"], hangul),
   (["rohg", "hanifirohingya"], hanifiRohingya),
   (["hano", "hanunoo"], hanunoo),
   (["hatr", "hatran"], hatran),
   (["hebr", "hebrew"], hebrew),
   (["hira", "hiragana"], hiragana),
   (["armi", "imperialaramaic"], imperialAramaic),
   (["zinh", "inherited", "qaai"], inherited),
   (["phli", "inscriptionalpahlavi"], inscriptionalPahlavi),
   (["prti", "inscriptionalparthian"], inscriptionalParthian),
   (["java", "javanese"], javanese),
   (["kthi", "kaithi"], kaithi),
   (["knda", "kannada"], kannada),
   (["kana", "katakana"], katakana),
   (["kawi"], kawi),
   (["kali", "kayahli"], kayahLi),
   (["khar", "kharoshthi"], kharoshthi),
   (["kits", "khitansmallscript"], khitanSmallScript),
   (["khmr", "khmer"], khmer),
   (["khoj", "khojki"], khojki),
   (["sind", "khudawadi"], khudawadi),
   (["krai", "kiratrai"], kiratRai),
   (["laoo", "lao"], lao),
   (["latn", "latin"], latin),
   (["lepc", "lepcha"], lepcha),
   (["limb", "limbu"], limbu),
   (["lina", "lineara"], linearA),
   (["linb", "linearb"], linearB),
   (["lisu"], lisu),
   (["lyci", "lycian"], lycian),
   (["lydi", "lydian"], lydian),
   (["mahj", "mahajani"], mahajani),
   (["maka", "makasar"], makasar),
   (["mlym", "malayalam"], malayalam),
   (["mand", "mandaic"], mandaic),
   (["mani", "manichaean"], manichaean),
   (["marc", "marchen"], marchen),
   (["gonm", "masaramgondi"], masaramGondi),
   (["medf", "medefaidrin"], medefaidrin),
   (["mtei", "meeteimayek"], meeteiMayek),
   (["mend", "mendekikakui"], mendeKikakui),
   (["merc", "meroiticcursive"], meroiticCursive),
   (["mero", "meroitichieroglyphs"], meroiticHieroglyphs),
   (["plrd", "miao"], miao),
   (["modi"], modi),
   (["mong", "mongolian"], mongolian),
   (["mroo", "mro"], mro),
   (["mult", "multani"], multani),
   (["mymr", "myanmar"], myanmar),
   (["nbat", "nabataean"], nabataean),
   (["nagm", "nagmundari"], nagMundari),
   (["nand", "nandinagari"], nandinagari),
   (["talu", "newtailue"], newTaiLue),
   (["newa"], newa),
   (["nkoo", "nko"], nko),
   (["nshu", "nushu"], nushu),
   (["hmnp", "nyiakengpuachuehmong"], nyiakengPuachueHmong),
   (["ogam", "ogham"], ogham),
   (["olck", "olchiki"], olChiki),
   (["onao", "olonal"], olOnal),
   (["hung", "oldhungarian"], oldHungarian),
   (["ital", "olditalic"], oldItalic),
   (["narb", "oldnortharabian"], oldNorthArabian),
   (["perm", "oldpermic"], oldPermic),
   (["xpeo", "oldpersian"], oldPersian),
   (["sogo", "oldsogdian"], oldSogdian),
   (["sarb", "oldsoutharabian"], oldSouthArabian),
   (["orkh", "oldturkic"], oldTurkic),
   (["ougr", "olduyghur"], oldUyghur),
   (["orya", "oriya"], oriya),
   (["osge", "osage"], osage),
   (["osma", "osmanya"], osmanya),
   (["hmng", "pahawhhmong"], pahawhHmong),
   (["palm", "palmyrene"], palmyrene),
   (["pauc", "paucinhau"], pauCinHau),
   (["phag", "phagspa"], phagsPa),
   (["phnx", "phoenician"], phoenician),
   (["phlp", "psalterpahlavi"], psalterPahlavi),
   (["rjng", "rejang"], rejang),
   (["runr", "runic"], runic),
   (["samr", "samaritan"], samaritan),
   (["saur", "saurashtra"], saurashtra),
   (["shrd", "sharada"], sharada),
   (["shaw", "shavian"], shavian),
   (["sidd", "siddham"], siddham),
   (["sgnw", "signwriting"], signWriting),
   (["sinh", "sinhala"], sinhala),
   (["sogd", "sogdian"], sogdian),
   (["sora", "sorasompeng"], soraSompeng),
   (["soyo", "soyombo"], soyombo),
   (["sund", "sundanese"], sundanese),
   (["sunu", "sunuwar"], sunuwar),
   (["sylo", "sylotinagri"], sylotiNagri),
   (["syrc", "syriac"], syriac),
   (["tglg", "tagalog"], tagalog),
   (["tagb", "tagbanwa"], tagbanwa),
   (["tale", "taile"], taiLe),
   (["lana", "taitham"], taiTham),
   (["tavt", "taiviet"], taiViet),
   (["takr", "takri"], takri),
   (["taml", "tamil"], tamil),
   (["tnsa", "tangsa"], tangsa),
   (["tang", "tangut"], tangut),
   (["telu", "telugu"], telugu),
   (["thaa", "thaana"], thaana),
   (["thai"], thai),
   (["tibt", "tibetan"], tibetan),
   (["tfng", "tifinagh"], tifinagh),
   (["tirh", "tirhuta"], tirhuta),
   (["todr", "todhri"], todhri),
   (["toto"], toto),
   (["tutg", "tulutigalari"], tuluTigalari),
   (["ugar", "ugaritic"], ugaritic),
   (["vaii", "vai"], vai),
   (["vith", "vithkuqi"], vithkuqi),
   (["wcho", "wancho"], wancho),
   (["wara", "warangciti"], warangCiti),
   (["yezi", "yezidi"], yezidi),
   (["yiii", "yi"], yi),
   (["zanb", "zanabazarsquare"], zanabazarSquare)]

/-- The scripts with characters that belong to other scripts too, by long name. -/
def extensions : List (String × Ranges) :=
  [("adlam", ScriptExtension.adlam),
   ("arabic", ScriptExtension.arabic),
   ("armenian", ScriptExtension.armenian),
   ("avestan", ScriptExtension.avestan),
   ("bengali", ScriptExtension.bengali),
   ("bopomofo", ScriptExtension.bopomofo),
   ("buginese", ScriptExtension.buginese),
   ("buhid", ScriptExtension.buhid),
   ("carian", ScriptExtension.carian),
   ("caucasianalbanian", ScriptExtension.caucasianAlbanian),
   ("chakma", ScriptExtension.chakma),
   ("cherokee", ScriptExtension.cherokee),
   ("coptic", ScriptExtension.coptic),
   ("cypriot", ScriptExtension.cypriot),
   ("cyprominoan", ScriptExtension.cyproMinoan),
   ("cyrillic", ScriptExtension.cyrillic),
   ("devanagari", ScriptExtension.devanagari),
   ("dogra", ScriptExtension.dogra),
   ("duployan", ScriptExtension.duployan),
   ("elbasan", ScriptExtension.elbasan),
   ("ethiopic", ScriptExtension.ethiopic),
   ("garay", ScriptExtension.garay),
   ("georgian", ScriptExtension.georgian),
   ("glagolitic", ScriptExtension.glagolitic),
   ("gothic", ScriptExtension.gothic),
   ("grantha", ScriptExtension.grantha),
   ("greek", ScriptExtension.greek),
   ("gujarati", ScriptExtension.gujarati),
   ("gunjalagondi", ScriptExtension.gunjalaGondi),
   ("gurmukhi", ScriptExtension.gurmukhi),
   ("gurungkhema", ScriptExtension.gurungKhema),
   ("han", ScriptExtension.han),
   ("hangul", ScriptExtension.hangul),
   ("hanifirohingya", ScriptExtension.hanifiRohingya),
   ("hanunoo", ScriptExtension.hanunoo),
   ("hebrew", ScriptExtension.hebrew),
   ("hiragana", ScriptExtension.hiragana),
   ("javanese", ScriptExtension.javanese),
   ("kaithi", ScriptExtension.kaithi),
   ("kannada", ScriptExtension.kannada),
   ("katakana", ScriptExtension.katakana),
   ("kayahli", ScriptExtension.kayahLi),
   ("khojki", ScriptExtension.khojki),
   ("khudawadi", ScriptExtension.khudawadi),
   ("latin", ScriptExtension.latin),
   ("limbu", ScriptExtension.limbu),
   ("lineara", ScriptExtension.linearA),
   ("linearb", ScriptExtension.linearB),
   ("lisu", ScriptExtension.lisu),
   ("lycian", ScriptExtension.lycian),
   ("lydian", ScriptExtension.lydian),
   ("mahajani", ScriptExtension.mahajani),
   ("malayalam", ScriptExtension.malayalam),
   ("mandaic", ScriptExtension.mandaic),
   ("manichaean", ScriptExtension.manichaean),
   ("masaramgondi", ScriptExtension.masaramGondi),
   ("meroitichieroglyphs", ScriptExtension.meroiticHieroglyphs),
   ("modi", ScriptExtension.modi),
   ("mongolian", ScriptExtension.mongolian),
   ("multani", ScriptExtension.multani),
   ("myanmar", ScriptExtension.myanmar),
   ("nandinagari", ScriptExtension.nandinagari),
   ("newa", ScriptExtension.newa),
   ("nko", ScriptExtension.nko),
   ("olonal", ScriptExtension.olOnal),
   ("oldhungarian", ScriptExtension.oldHungarian),
   ("oldpermic", ScriptExtension.oldPermic),
   ("oldturkic", ScriptExtension.oldTurkic),
   ("olduyghur", ScriptExtension.oldUyghur),
   ("oriya", ScriptExtension.oriya),
   ("osage", ScriptExtension.osage),
   ("phagspa", ScriptExtension.phagsPa),
   ("psalterpahlavi", ScriptExtension.psalterPahlavi),
   ("runic", ScriptExtension.runic),
   ("samaritan", ScriptExtension.samaritan),
   ("sharada", ScriptExtension.sharada),
   ("shavian", ScriptExtension.shavian),
   ("sinhala", ScriptExtension.sinhala),
   ("sogdian", ScriptExtension.sogdian),
   ("sunuwar", ScriptExtension.sunuwar),
   ("sylotinagri", ScriptExtension.sylotiNagri),
   ("syriac", ScriptExtension.syriac),
   ("tagalog", ScriptExtension.tagalog),
   ("tagbanwa", ScriptExtension.tagbanwa),
   ("taile", ScriptExtension.taiLe),
   ("takri", ScriptExtension.takri),
   ("tamil", ScriptExtension.tamil),
   ("tangut", ScriptExtension.tangut),
   ("telugu", ScriptExtension.telugu),
   ("thaana", ScriptExtension.thaana),
   ("thai", ScriptExtension.thai),
   ("tibetan", ScriptExtension.tibetan),
   ("tifinagh", ScriptExtension.tifinagh),
   ("tirhuta", ScriptExtension.tirhuta),
   ("todhri", ScriptExtension.todhri),
   ("toto", ScriptExtension.toto),
   ("tulutigalari", ScriptExtension.tuluTigalari),
   ("yezidi", ScriptExtension.yezidi),
   ("yi", ScriptExtension.yi)]

end Downstream.Unicode.Script
