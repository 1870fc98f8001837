import Specimen.Unicode.TableText
import Specimen.Unicode.Name
import Specimen.Unicode.Script.Runs
/-!
Scripts, by their ISO 15924 codes. A code that no character has still names a script.
-/

namespace Specimen.Unicode

structure Script where
  code : String
  deriving DecidableEq, Repr

namespace Script

def table : RunTable Script := .ofText (fun code => some ⟨code⟩) runsText

def unknown : Script := ⟨"Zzzz"⟩

def of (c : Char) : Script := (table.covering? c.toNat).getD unknown

def names : List (List String) := [
  ["Adlm", "Adlam"], ["Afak"], ["Aghb", "Caucasian_Albanian"], ["Ahom"], ["Arab", "Arabic"],
  ["Aran"], ["Armi", "Imperial_Aramaic"], ["Armn", "Armenian"], ["Avst", "Avestan"],
  ["Bali", "Balinese"], ["Bamu", "Bamum"], ["Bass", "Bassa_Vah"], ["Batk", "Batak"],
  ["Beng", "Bengali"], ["Bhks", "Bhaiksuki"], ["Blis"], ["Bopo", "Bopomofo"], ["Brah", "Brahmi"],
  ["Brai", "Braille"], ["Bugi", "Buginese"], ["Buhd", "Buhid"], ["Cakm", "Chakma"],
  ["Cans", "Canadian_Aboriginal"], ["Cari", "Carian"], ["Cham"], ["Cher", "Cherokee"],
  ["Chrs", "Chorasmian"], ["Cirt"], ["Copt", "Coptic", "Qaac"], ["Cpmn", "Cypro_Minoan"],
  ["Cprt", "Cypriot"], ["Cyrl", "Cyrillic"], ["Cyrs"], ["Deva", "Devanagari"],
  ["Diak", "Dives_Akuru"], ["Dogr", "Dogra"], ["Dsrt", "Deseret"], ["Dupl", "Duployan"], ["Egyd"],
  ["Egyh"], ["Egyp", "Egyptian_Hieroglyphs"], ["Elba", "Elbasan"], ["Elym", "Elymaic"],
  ["Ethi", "Ethiopic"], ["Geok"], ["Geor", "Georgian"], ["Glag", "Glagolitic"],
  ["Gong", "Gunjala_Gondi"], ["Gonm", "Masaram_Gondi"], ["Goth", "Gothic"], ["Gran", "Grantha"],
  ["Grek", "Greek"], ["Gujr", "Gujarati"], ["Guru", "Gurmukhi"], ["Hanb"], ["Hang", "Hangul"],
  ["Hani", "Han"], ["Hano", "Hanunoo"], ["Hans"], ["Hant"], ["Hatr", "Hatran"], ["Hebr", "Hebrew"],
  ["Hira", "Hiragana"], ["Hluw", "Anatolian_Hieroglyphs"], ["Hmng", "Pahawh_Hmong"],
  ["Hmnp", "Nyiakeng_Puachue_Hmong"], ["Hrkt", "Katakana_Or_Hiragana"], ["Hung", "Old_Hungarian"],
  ["Inds"], ["Ital", "Old_Italic"], ["Jamo"], ["Java", "Javanese"], ["Jpan"], ["Jurc"],
  ["Kali", "Kayah_Li"], ["Kana", "Katakana"], ["Kawi"], ["Khar", "Kharoshthi"], ["Khmr", "Khmer"],
  ["Khoj", "Khojki"], ["Kits", "Khitan_Small_Script"], ["Knda", "Kannada"], ["Kore"], ["Kpel"],
  ["Kthi", "Kaithi"], ["Lana", "Tai_Tham"], ["Laoo", "Lao"], ["Latf"], ["Latg"], ["Latn", "Latin"],
  ["Lepc", "Lepcha"], ["Limb", "Limbu"], ["Lina", "Linear_A"], ["Linb", "Linear_B"], ["Lisu"],
  ["Loma"], ["Lyci", "Lycian"], ["Lydi", "Lydian"], ["Mahj", "Mahajani"], ["Maka", "Makasar"],
  ["Mand", "Mandaic"], ["Mani", "Manichaean"], ["Marc", "Marchen"], ["Maya"],
  ["Medf", "Medefaidrin"], ["Mend", "Mende_Kikakui"], ["Merc", "Meroitic_Cursive"],
  ["Mero", "Meroitic_Hieroglyphs"], ["Mlym", "Malayalam"], ["Modi"], ["Mong", "Mongolian"],
  ["Moon"], ["Mroo", "Mro"], ["Mtei", "Meetei_Mayek"], ["Mult", "Multani"], ["Mymr", "Myanmar"],
  ["Nagm", "Nag_Mundari"], ["Nand", "Nandinagari"], ["Narb", "Old_North_Arabian"],
  ["Nbat", "Nabataean"], ["Newa"], ["Nkgb"], ["Nkoo", "Nko"], ["Nshu", "Nushu"], ["Ogam", "Ogham"],
  ["Olck", "Ol_Chiki"], ["Orkh", "Old_Turkic"], ["Orya", "Oriya"], ["Osge", "Osage"],
  ["Osma", "Osmanya"], ["Ougr", "Old_Uyghur"], ["Palm", "Palmyrene"], ["Pauc", "Pau_Cin_Hau"],
  ["Perm", "Old_Permic"], ["Phag", "Phags_Pa"], ["Phli", "Inscriptional_Pahlavi"],
  ["Phlp", "Psalter_Pahlavi"], ["Phlv"], ["Phnx", "Phoenician"], ["Plrd", "Miao"],
  ["Prti", "Inscriptional_Parthian"], ["Rjng", "Rejang"], ["Rohg", "Hanifi_Rohingya"], ["Roro"],
  ["Runr", "Runic"], ["Samr", "Samaritan"], ["Sara"], ["Sarb", "Old_South_Arabian"],
  ["Saur", "Saurashtra"], ["Sgnw", "SignWriting"], ["Shaw", "Shavian"], ["Shrd", "Sharada"],
  ["Sidd", "Siddham"], ["Sind", "Khudawadi"], ["Sinh", "Sinhala"], ["Sogd", "Sogdian"],
  ["Sogo", "Old_Sogdian"], ["Sora", "Sora_Sompeng"], ["Soyo", "Soyombo"], ["Sund", "Sundanese"],
  ["Sylo", "Syloti_Nagri"], ["Syrc", "Syriac"], ["Syre"], ["Syrj"], ["Syrn"], ["Tagb", "Tagbanwa"],
  ["Takr", "Takri"], ["Tale", "Tai_Le"], ["Talu", "New_Tai_Lue"], ["Taml", "Tamil"],
  ["Tang", "Tangut"], ["Tavt", "Tai_Viet"], ["Telu", "Telugu"], ["Teng"], ["Tfng", "Tifinagh"],
  ["Tglg", "Tagalog"], ["Thaa", "Thaana"], ["Thai"], ["Tibt", "Tibetan"], ["Tirh", "Tirhuta"],
  ["Tnsa", "Tangsa"], ["Toto"], ["Ugar", "Ugaritic"], ["Vaii", "Vai"], ["Visp"],
  ["Vith", "Vithkuqi"], ["Wara", "Warang_Citi"], ["Wcho", "Wancho"], ["Wole"],
  ["Xpeo", "Old_Persian"], ["Xsux", "Cuneiform"], ["Yezi", "Yezidi"], ["Yiii", "Yi"],
  ["Zanb", "Zanabazar_Square"], ["Zinh", "Inherited", "Qaai"], ["Zmth"], ["Zsye"], ["Zsym"],
  ["Zxxx"], ["Zyyy", "Common"], ["Zzzz", "Unknown"]]

def ofName? (name : String) : Option Script :=
  (names.find? fun known => known.any fun spelling => looseName spelling == looseName name).bind
    fun known => known.head?.map Script.mk

end Script

end Specimen.Unicode
