import Classwright.Pattern.CharSet
import Classwright.Property.Category
import Classwright.Text.Table
/-!
# Scripts

Each character belongs to one script, or to none that is known. Some characters are used in several
scripts. The tables are those of the sixteenth edition of the character standard.
-/
namespace Classwright.Script

/-- The scripts with their names, in the order of their numbers. Number 0 is no script. -/
def names : String :=
  "Unknown Zzzz, Adlam Adlm, Ahom, Anatolian_Hieroglyphs Hluw, Arabic Arab, Armenian Armn,
  Avestan Avst, Balinese Bali, Bamum Bamu, Bassa_Vah Bass, Batak Batk, Bengali Beng, Bhaiksuki
  Bhks, Bopomofo Bopo, Brahmi Brah, Braille Brai, Buginese Bugi, Buhid Buhd, Canadian_Aboriginal
  Cans, Carian Cari, Caucasian_Albanian Aghb, Chakma Cakm, Cham, Cherokee Cher, Chorasmian Chrs,
  Common Zyyy, Coptic Copt Qaac, Cuneiform Xsux, Cypriot Cprt, Cypro_Minoan Cpmn, Cyrillic Cyrl,
  Deseret Dsrt, Devanagari Deva, Dives_Akuru Diak, Dogra Dogr, Duployan Dupl,
  Egyptian_Hieroglyphs Egyp, Elbasan Elba, Elymaic Elym, Ethiopic Ethi, Garay Gara, Georgian
  Geor, Glagolitic Glag, Gothic Goth, Grantha Gran, Greek Grek, Gujarati Gujr, Gunjala_Gondi
  Gong, Gurmukhi Guru, Gurung_Khema Gukh, Han Hani, Hangul Hang, Hanifi_Rohingya Rohg, Hanunoo
  Hano, Hatran Hatr, Hebrew Hebr, Hiragana Hira, Imperial_Aramaic Armi, Inherited Zinh Qaai,
  Inscriptional_Pahlavi Phli, Inscriptional_Parthian Prti, Javanese Java, Kaithi Kthi, Kannada
  Knda, Katakana Kana, Kawi, Kayah_Li Kali, Kharoshthi Khar, Khitan_Small_Script Kits, Khmer
  Khmr, Khojki Khoj, Khudawadi Sind, Kirat_Rai Krai, Lao Laoo, Latin Latn, Lepcha Lepc, Limbu
  Limb, Linear_A Lina, Linear_B Linb, Lisu, Lycian Lyci, Lydian Lydi, Mahajani Mahj, Makasar
  Maka, Malayalam Mlym, Mandaic Mand, Manichaean Mani, Marchen Marc, Masaram_Gondi Gonm,
  Medefaidrin Medf, Meetei_Mayek Mtei, Mende_Kikakui Mend, Meroitic_Cursive Merc,
  Meroitic_Hieroglyphs Mero, Miao Plrd, Modi, Mongolian Mong, Mro Mroo, Multani Mult, Myanmar
  Mymr, Nabataean Nbat, Nag_Mundari Nagm, Nandinagari Nand, New_Tai_Lue Talu, Newa, Nko Nkoo,
  Nushu Nshu, Nyiakeng_Puachue_Hmong Hmnp, Ogham Ogam, Ol_Chiki Olck, Ol_Onal Onao,
  Old_Hungarian Hung, Old_Italic Ital, Old_North_Arabian Narb, Old_Permic Perm, Old_Persian
  Xpeo, Old_Sogdian Sogo, Old_South_Arabian Sarb, Old_Turkic Orkh, Old_Uyghur Ougr, Oriya Orya,
  Osage Osge, Osmanya Osma, Pahawh_Hmong Hmng, Palmyrene Palm, Pau_Cin_Hau Pauc, Phags_Pa Phag,
  Phoenician Phnx, Psalter_Pahlavi Phlp, Rejang Rjng, Runic Runr, Samaritan Samr, Saurashtra
  Saur, Sharada Shrd, Shavian Shaw, Siddham Sidd, SignWriting Sgnw, Sinhala Sinh, Sogdian Sogd,
  Sora_Sompeng Sora, Soyombo Soyo, Sundanese Sund, Sunuwar Sunu, Syloti_Nagri Sylo, Syriac Syrc,
  Tagalog Tglg, Tagbanwa Tagb, Tai_Le Tale, Tai_Tham Lana, Tai_Viet Tavt, Takri Takr, Tamil
  Taml, Tangsa Tnsa, Tangut Tang, Telugu Telu, Thaana Thaa, Thai, Tibetan Tibt, Tifinagh Tfng,
  Tirhuta Tirh, Todhri Todr, Toto, Tulu_Tigalari Tutg, Ugaritic Ugar, Vai Vaii, Vithkuqi Vith,
  Wancho Wcho, Warang_Citi Wara, Yezidi Yezi, Yi Yiii, Zanabazar_Square Zanb"

/-- Where the script of characters changes, with the number of the new one. -/
def rows : String :=
  "0 19, 41 4A, 1A 19, 6 4A, 1A 19, 2F 4A, 1 19, F 4A, 1 19, 5 4A, 17 19, 1 4A, 1F 19, 1 4A, 1C1
  19, 27 4A, 5 19, 5 D, 2 19, 14 3A, 70 2D, 4 19, 1 2D, 3 0, 2 2D, 4 19, 1 2D, 1 0, 4 2D, 1 19,
  1 2D, 1 19, 1 2D, 3 0, 1 2D, 1 0, 1 2D, 14 0, 1 2D, 3F 1A, E 2D, 10 1E, 85 3A, 2 1E, A9 0, 1
  5, 26 0, 2 5, 32 0, 2 5, 3 0, 1 37, 37 0, 8 37, 1B 0, 4 37, 6 0, B 4, 5 19, 1 4, 6 19, 1 4, E
  19, 1 4, 3 19, 1 4, 20 19, 1 4, A 3A, B 4, 1A 3A, 1 4, 6C 19, 1 4, 22 90, E 0, 1 90, 3C 0, 2
  90, 3 4, 30 9B, 32 0, E 69, 3B 0, 2 69, 3 83, 2E 0, 2 83, F 0, 1 55, 1C 0, 2 55, 1 0, 1 90, B
  0, 5 4, 1F 0, 1 4, 2 0, 5 4, 4B 19, 1 4, 1D 20, 51 3A, 4 20, F 19, 2 20, 1A B, 4 0, 1 B, 8 0,
  2 B, 2 0, 2 B, 16 0, 1 B, 7 0, 1 B, 1 0, 3 B, 4 0, 2 B, 9 0, 2 B, 2 0, 2 B, 4 0, 8 B, 1 0, 4
  B, 2 0, 1 B, 5 0, 2 B, 19 0, 2 30, 3 0, 1 30, 6 0, 4 30, 2 0, 2 30, 16 0, 1 30, 7 0, 1 30, 2
  0, 1 30, 2 0, 1 30, 2 0, 2 30, 1 0, 1 30, 5 0, 4 30, 2 0, 2 30, 3 0, 3 30, 1 0, 7 30, 4 0, 1
  30, 1 0, 7 30, 11 0, A 2E, 3 0, 1 2E, 9 0, 1 2E, 3 0, 1 2E, 16 0, 1 2E, 7 0, 1 2E, 2 0, 1 2E,
  5 0, 2 2E, A 0, 1 2E, 3 0, 1 2E, 3 0, 2 2E, 1 0, F 2E, 4 0, 2 2E, C 0, 7 2E, 7 0, 1 78, 3 0, 1
  78, 8 0, 2 78, 2 0, 2 78, 16 0, 1 78, 7 0, 1 78, 2 0, 1 78, 5 0, 2 78, 9 0, 2 78, 2 0, 2 78, 3
  0, 7 78, 3 0, 4 78, 2 0, 1 78, 5 0, 2 78, 12 0, A 97, 2 0, 1 97, 6 0, 3 97, 3 0, 1 97, 4 0, 3
  97, 2 0, 1 97, 1 0, 1 97, 2 0, 3 97, 2 0, 3 97, 3 0, 3 97, C 0, 4 97, 5 0, 3 97, 3 0, 1 97, 4
  0, 2 97, 1 0, 6 97, 1 0, E 97, 15 0, 5 9A, D 0, 1 9A, 3 0, 1 9A, 17 0, 1 9A, 10 0, 2 9A, 9 0,
  1 9A, 3 0, 1 9A, 4 0, 7 9A, 2 0, 1 9A, 3 0, 2 9A, 1 0, 2 9A, 4 0, 2 9A, A 0, 7 9A, 9 3F, D 0,
  1 3F, 3 0, 1 3F, 17 0, 1 3F, A 0, 1 3F, 5 0, 2 3F, 9 0, 1 3F, 3 0, 1 3F, 4 0, 7 3F, 2 0, 6 3F,
  2 0, 1 3F, 4 0, 2 3F, A 0, 1 3F, 3 0, C 54, D 0, 1 54, 3 0, 1 54, 33 0, 1 54, 3 0, 1 54, 6 0,
  4 54, 10 0, 2 54, 1A 0, 1 89, 3 0, 1 89, 12 0, 3 89, 18 0, 1 89, 9 0, 1 89, 1 0, 2 89, 7 0, 3
  89, 1 0, 4 89, 6 0, 1 89, 1 0, 1 89, 8 0, 6 89, A 0, 2 89, 3 0, C 9C, 3A 0, 4 19, 1 9C, 1C 0,
  25 49, 2 0, 1 49, 1 0, 1 49, 5 0, 1 49, 18 0, 1 49, 1 0, 1 49, 17 0, 2 49, 5 0, 1 49, 1 0, 1
  49, 7 0, 1 49, A 0, 2 49, 4 0, 20 9D, 48 0, 1 9D, 24 0, 4 9D, 27 0, 1 9D, 24 0, 1 9D, F 0, 1
  9D, 7 19, 4 9D, 2 0, 25 63, A0 29, 26 0, 1 29, 1 0, 5 29, 1 0, 2 29, 2B 19, 1 29, 4 33, 100
  27, 49 0, 1 27, 4 0, 2 27, 7 0, 1 27, 1 0, 1 27, 4 0, 2 27, 29 0, 1 27, 4 0, 2 27, 21 0, 1 27,
  4 0, 2 27, 7 0, 1 27, 1 0, 1 27, 4 0, 2 27, F 0, 1 27, 39 0, 1 27, 4 0, 2 27, 43 0, 2 27, 20
  0, 3 27, 1A 0, 6 17, 56 0, 2 17, 6 0, 2 12, 280 6C, 1D 0, 3 82, 4B 19, 3 82, B 0, 7 91, 16 0,
  9 91, 1 35, 15 19, 2 0, 9 11, 14 0, C 92, D 0, 1 92, 3 0, 1 92, 2 0, C 45, 5E 0, 2 45, A 0, 6
  45, A 0, 6 60, 2 19, 2 60, 1 19, 1 60, 14 0, 6 60, 59 0, 7 60, 2B 0, 5 12, 46 0, A 4C, 1F 0, 1
  4C, C 0, 4 4C, C 0, 4 4C, 1 0, 3 4C, C 93, 1E 0, 2 93, 5 0, B 67, 2C 0, 4 67, 1A 0, 6 67, B 0,
  3 67, 2 45, 20 10, 1C 0, 2 10, 2 94, 3F 0, 1 94, 1D 0, 2 94, B 0, 6 94, A 0, 6 94, E 0, 2 3A,
  1F 0, 31 7, 4D 0, 1 7, 32 8D, 40 A, 34 0, 8 A, 4 4B, 38 0, 3 4B, F 0, 3 4B, 3 6D, 30 1E, B 0,
  5 29, 2B 0, 2 29, 3 8D, 8 0, 8 3A, 3 19, 1 3A, D 19, 1 3A, 7 19, 4 3A, 1 19, 6 3A, 1 19, 3 3A,
  2 19, 1 0, 5 4A, 26 2D, 5 1E, 1 4A, 31 2D, 5 4A, 4 2D, 5 4A, D 1E, 1 4A, 46 2D, 1 3A, 40 4A,
  100 2D, 16 0, 2 2D, 6 0, 2 2D, 26 0, 2 2D, 6 0, 2 2D, 8 0, 1 2D, 1 0, 1 2D, 1 0, 1 2D, 1 0, 1
  2D, 1F 0, 2 2D, 35 0, 1 2D, F 0, 1 2D, E 0, 2 2D, 6 0, 1 2D, 13 0, 2 2D, 3 0, 1 2D, 9 0, 1 19,
  C 3A, 2 19, 57 0, 1 19, B 4A, 1 0, 2 19, B 4A, 1 19, F 0, 1 4A, D 0, 3 19, 21 0, F 3A, 21 0, F
  19, 26 2D, 1 19, 3 4A, 2 19, 6 4A, 1 19, 1B 4A, 1 19, 11 4A, 29 19, 3 0, 4 19, 29A 0, 16 19, B
  0, 15 19, 3A0 F, 100 19, 274 0, 2 19, 20 0, 1 19, 69 2A, 60 4A, 20 1A, 74 0, 5 1A, 7 29, 26 0,
  1 29, 1 0, 5 29, 1 0, 2 9E, 38 0, 7 9E, 2 0, E 9E, 1 27, 17 0, 9 27, 7 0, 1 27, 7 0, 1 27, 7
  0, 1 27, 7 0, 1 27, 7 0, 1 27, 7 0, 1 27, 7 0, 1 27, 7 0, 1 1E, 20 19, 5E 0, 22 32, 1A 0, 1
  32, 59 0, C 32, D6 0, 1A 19, 15 32, 1 19, 1 32, 1 19, 19 32, 9 3A, 4 33, 2 19, 8 32, 4 19, 4
  0, 1 38, 56 0, 2 3A, 2 19, 2 38, 3 19, 1 40, 5A 19, 2 40, 3 0, 5 D, 2B 0, 1 33, 5E 0, 1 19, 10
  D, 20 19, 26 0, 9 19, 1 40, 10 33, 1F 0, 1 19, 40 33, 1F 19, 51 40, 2F 19, 1 40, 58 19, A8 32,
  19C0 19, 40 32, 5200 A9, 48D 0, 3 A9, 37 0, 9 4F, 30 A4, 12C 0, 14 1E, 60 8, 58 0, 8 19, 22
  4A, 66 19, 3 4A, 43 0, 2 4A, 2 0, 1 4A, 1 0, 1 4A, 8 0, 15 4A, E 8F, 2D 0, 3 19, A 0, 6 7E, 38
  0, 8 84, 46 0, 8 84, C 0, 6 20, 20 42, 2E 19, 1 42, 1 81, 24 0, B 81, 1 33, 1D 0, 3 3D, 4E 0,
  1 19, 1 3D, A 0, 4 3D, 2 63, 1F 0, 1 16, 37 0, 9 16, E 0, 2 16, A 0, 2 16, 4 63, 20 95, 43 0,
  18 95, 5 5A, 17 0, A 27, 6 0, 2 27, 6 0, 2 27, 6 0, 9 27, 7 0, 1 27, 7 0, 1 4A, 2B 19, 1 4A, 9
  2D, 1 4A, 4 19, 2 0, 4 17, 50 5A, 2E 0, 2 5A, A 0, 6 33, 2BA4 0, C 33, 17 0, 4 33, 31 0, 2104
  32, 16E 0, 2 32, 6A 0, 26 4A, 7 0, C 5, 5 0, 5 37, 1A 0, 1 37, 5 0, 1 37, 1 0, 1 37, 2 0, 1
  37, 2 0, 1 37, A 4, 73 0, 10 4, 16B 19, 2 4, 50 0, 2 4, 36 0, 7 4, 1 0, 20 4, 10 3A, 10 19, A
  0, 6 3A, E 1E, 2 19, 23 0, 1 19, 13 0, 1 19, 4 0, 4 4, 5 0, 1 4, 87 0, 2 19, 1 0, 1 19, 20 4A,
  1A 19, 6 4A, 1A 19, B 40, A 19, 1 40, 2D 19, 2 33, 1F 0, 3 33, 6 0, 2 33, 6 0, 2 33, 6 0, 2
  33, 3 0, 3 19, 7 0, 1 19, 7 0, A 19, 5 0, 2 4E, C 0, 1 4E, 1A 0, 1 4E, 13 0, 1 4E, 2 0, 1 4E,
  F 0, 2 4E, E 0, 22 4E, 7B 0, 5 19, 3 0, 4 19, 2D 0, 3 19, 9 2D, 4F 0, 1 19, D 0, 3 2D, 1 0, 2F
  19, 2D 3A, 1 0, 82 50, 1D 0, 3 13, 31 0, F 3A, 1 19, 1B 0, 4 70, 24 0, 9 70, 3 2B, 1B 0, 5 72,
  2B 0, 5 A3, 1E 0, 1 A3, 1 73, 24 0, 4 73, E 0, 2A 1F, 50 86, 30 7A, 1E 0, 2 7A, A 0, 6 79, 24
  0, 4 79, 24 0, 4 25, 28 0, 8 14, 34 0, B 14, 1 A5, B 0, 1 A5, F 0, 1 A5, 7 0, 1 A5, 2 0, 1 A5,
  B 0, 1 A5, F 0, 1 A5, 7 0, 1 A5, 2 0, 3 A0, 34 0, C 4D, 137 0, 9 4D, 16 0, A 4D, 8 0, 18 4A, 6
  0, 1 4A, 2A 0, 1 4A, 9 0, 45 1C, 6 0, 2 1C, 1 0, 1 1C, 2C 0, 1 1C, 2 0, 3 1C, 1 0, 2 1C, 1 39,
  16 0, 1 39, 9 7C, 20 64, 1F 0, 8 64, 9 0, 30 36, 13 0, 1 36, 2 0, 5 36, 5 7F, 1C 0, 3 7F, 1
  51, 1A 0, 5 51, 1 0, 40 5D, 20 5C, 18 0, 4 5C, 14 0, 2 5C, 2E 43, 4 0, 1 43, 2 0, 5 43, 8 0, 1
  43, 3 0, 1 43, 1D 0, 2 43, 3 0, 4 43, A 0, 7 43, 9 0, 7 75, 20 71, 20 0, 20 56, 27 0, 4 56, C
  0, 9 6, 36 0, 3 6, 7 3C, 16 0, 2 3C, 8 3B, 13 0, 5 3B, 8 80, 12 0, 7 80, 4 0, C 80, 7 0, 50
  76, 49 0, 37 6F, 33 0, D 6F, 33 0, 7 6F, 6 34, 28 0, 8 34, A 0, 6 28, 26 0, 3 28, 1D 0, 8 28,
  2 0, D0 4, 1F 0, 1 A8, 2A 0, 1 A8, 3 0, 2 A8, 2 0, 10 4, 3 0, 37 4, 4 74, 28 0, 8 8A, 2A 0, 16
  77, 1A 0, 26 18, 1C 0, 14 26, 17 0, 9 E, 4E 0, 4 E, 24 0, 9 E, 1 3E, 43 0, A 3E, 1 0, 2 8B, 19
  0, 7 8B, A 0, 6 15, 35 0, 1 15, 12 0, 8 52, 27 0, 9 85, 60 0, 1 89, 14 0, B 46, 12 0, 1 46, 2F
  0, 3E 62, 7 0, 1 62, 1 0, 1 62, 4 0, 1 62, F 0, 1 62, B 0, 6 47, 3B 0, 5 47, A 0, 6 2C, 4 0, 1
  2C, 8 0, 2 2C, 2 0, 2 2C, 16 0, 1 2C, 7 0, 1 2C, 2 0, 1 2C, 5 0, 1 3A, 1 2C, 9 0, 2 2C, 2 0, 2
  2C, 3 0, 2 2C, 1 0, 6 2C, 1 0, 5 2C, 7 0, 2 2C, 7 0, 3 2C, 5 0, B A2, A 0, 1 A2, 1 0, 2 A2, 1
  0, 1 A2, 26 0, 1 A2, A 0, 1 A2, 1 0, 2 A2, 1 0, 1 A2, 4 0, 1 A2, A 0, 1 A2, 2 0, 8 A2, 2 0, 1D
  68, 5C 0, 1 68, 5 0, 1E 9F, 48 0, 8 9F, A 0, A6 87, 36 0, 2 87, 26 0, 22 5F, 45 0, B 5F, A 0,
  6 60, D 0, 13 96, 3A 0, 6 96, A 0, 6 63, 14 0, 1C 2, 1B 0, 2 2, F 0, 4 2, 17 0, B9 22, 3C 0,
  64 A7, 53 0, C A7, 1 21, 7 0, 2 21, 1 0, 2 21, 8 0, 1 21, 2 0, 1 21, 1E 0, 1 21, 2 0, 2 21, C
  0, 9 21, A 0, 46 66, 8 0, 2 66, 2E 0, 2 66, B 0, 1B AA, 48 0, 8 8C, 53 0, D 12, 10 7D, 39 0, 7
  20, A 0, B6 8E, 22 0, E 8E, A 0, 6 C, 9 0, 1 C, 2D 0, 1 C, E 0, A C, 1D 0, 3 57, 20 0, 2 57,
  16 0, 1 57, E 0, 49 58, 7 0, 1 58, 2 0, 1 58, 2C 0, 3 58, 1 0, 1 58, 2 0, 1 58, 9 0, 8 58, A
  0, 6 2F, 6 0, 1 2F, 2 0, 1 2F, 25 0, 1 2F, 2 0, 1 2F, 6 0, 7 2F, A 0, 136 53, 19 0, 7 41, 11
  0, 1 41, 29 0, 3 41, 1D 0, 55 4F, 1 0, F 97, 32 0, D 97, 1 1B, 39A 0, 66 1B, 6F 0, 1 1B, 5 0,
  B 1B, C4 0, A4C 1D, 63 0, D 24, 456 0, A 24, F9B 0, 5 3, 247 0, 1AB9 31, 3A 0, 6C6 8, 239 0, 7
  61, 1F 0, 1 61, A 0, 4 61, 2 98, 4F 0, 1 98, A 0, 6 9, 1E 0, 2 9, 6 0, A 7B, 46 0, A 7B, A 0,
  1 7B, 7 0, 1 7B, 15 0, 5 7B, 13 0, 1B0 48, 3A 0, C6 59, 5B 0, 65 5E, 4B 0, 4 5E, 39 0, 7 5E,
  11 0, 40 99, 1 6A, 1 32, 2 44, 1 0, B 32, 2 0, E 99, 17F8 0, 8 99, 300 44, 1D6 0, 29 44, 1 99,
  9 0, 22E7 40, 4 0, 1 40, 7 0, 1 40, 2 0, 1 40, 1 38, 11F 40, 3 0, F 38, 1 0, 1D 38, 3 0, 2 40,
  1 0, E 40, 4 0, 8 6A, 18C 0, 904 23, 6B 0, 5 23, D 0, 3 23, 9 0, 7 23, A 0, 2 23, 4 19, 4 0,
  F5C 19, FA 0, 6 19, 1B4 0, 4C 3A, 2E 0, 2 3A, 17 0, 9 19, 74 0, 3C 19, F6 0, A 19, 27 0, 2 19,
  3E 3A, 3 19, 11 3A, 8 19, 2 3A, 7 19, 1E 3A, 4 19, 3D 0, 15 2D, 46 0, 7A 19, 14 0, C 19, 14 0,
  C 19, 57 0, 9 19, 19 0, 87 19, 55 0, 1 19, 47 0, 1 19, 2 0, 2 19, 1 0, 2 19, 2 0, 2 19, 4 0, 1
  19, C 0, 1 19, 1 0, 1 19, 7 0, 1 19, 41 0, 1 19, 4 0, 2 19, 8 0, 1 19, 7 0, 1 19, 1C 0, 1 19,
  4 0, 1 19, 5 0, 1 19, 1 0, 3 19, 7 0, 1 19, 154 0, 2 19, 124 0, 2 19, 32 88, 28C 0, F 88, 5 0,
  1 88, F 0, 450 4A, 1F 0, 6 4A, 6 0, D5 2A, 7 0, 1 2A, 11 0, 2 2A, 7 0, 1 2A, 2 0, 1 2A, 5 0, 5
  1E, 3E 0, 21 1E, 1 0, 70 6B, 2D 0, 3 6B, E 0, 2 6B, A 0, 4 6B, 2 0, 140 A1, 1F 0, 11 A6, 3A 0,
  5 A6, 1 0, 1D0 65, 2A 0, D6 6E, 2B 0, 4 6E, 1 0, 1E0 27, 7 0, 1 27, 4 0, 1 27, 2 0, 1 27, F 0,
  1 5B, C5 0, 2 5B, 10 0, 29 1, 4C 0, 4 1, A 0, 4 1, 2 0, 311 19, 44 0, 4C 19, 3D 0, C2 4, 4 0,
  1 4, 1B 0, 1 4, 2 0, 1 4, 1 0, 2 4, 1 0, 1 4, A 0, 1 4, 4 0, 1 4, 1 0, 1 4, 1 0, 6 4, 1 0, 4
  4, 1 0, 1 4, 1 0, 1 4, 1 0, 1 4, 3 0, 1 4, 2 0, 1 4, 1 0, 2 4, 1 0, 1 4, 1 0, 1 4, 1 0, 1 4, 1
  0, 1 4, 1 0, 1 4, 2 0, 1 4, 1 0, 2 4, 4 0, 1 4, 7 0, 1 4, 4 0, 1 4, 4 0, 1 4, 1 0, 1 4, A 0, 1
  4, 11 0, 5 4, 3 0, 1 4, 5 0, 1 4, 11 0, 34 4, 2 0, 10E 19, 2C 0, 4 19, 64 0, C 19, F 0, 2 19,
  F 0, 1 19, F 0, 1 19, 25 0, A 19, AE 0, 38 19, 1A 38, 1 19, 2 0, D 19, 2C 0, 4 19, 9 0, 7 19,
  2 0, E 19, 6 0, 9A 19, 3D8 0, 4 19, 11 0, 3 19, D 0, 3 19, 77 0, 4 19, 5F 0, 6 19, C 0, 4 19,
  1 0, F 19, C 0, 4 19, 38 0, 8 19, A 0, 6 19, 28 0, 8 19, 1E 0, 2 19, C 0, 4 19, 2 0, 3E 19,
  154 0, C 19, E 0, 2 19, D 0, 3 19, A 0, 5 19, 38 0, 7 19, F 0, 2 19, B 0, 6 19, 9 0, 7 19, 93
  0, 1 19, 66 0, 406 32, A6E0 0, 20 32, 103A 0, 6 32, DE 0, 2 32, 1682 0, E 32, 1D31 0, F 32,
  26E 0, 9A2 32, 21E 0, 5E2 32, 134B 0, 5 32, 1060 0, ADC51 19, 1 0, 1E 19, 60 0, 80 3A, F0 0"

/-- Runs of characters that are used in other scripts than their own one: where each begins, how
many follow, and the numbers of all scripts in which they are used. -/
def sharedRows : String :=
  "B7 0 6 13 1A 23 25 29 2A 2B 2D 2F 32 4A 51 52 72 86, 205 0 B 1E 20 4A 4F 9C A1, B 0 D 4A, 2 2
  D 4A, 4 0 4A 4F, A 0 4A 9C, 2 0 D 4A, 27 0 17 1A 1E 2D 4A 72 8E 93, 1 0 17 1E 2D 4A 79 8E 93
  A0, 1 0 17 1E 4A 9E, 1 0 2A 4A 8E 90 9C, 1 0 14 17 1A 1E 2B 2D 4A 79 90 9E A0, 1 0 1A 25 2A 2B
  40 4A, 1 0 1E 2D 4A 72 9E, 1 0 1A 23 37 4A 72 90 93 9E A0, 1 0 5 1E 23 2B 2D 37 4A 72 90 93
  9E, 1 0 4A 9E, 1 0 23 4A 90, 1 0 17 1E 4A 79, 1 0 17 4A 93, 1 0 4A 8E, 1 0 27 4A, 2 0 4A 8E, 1
  0 1E 4A A0, 2 0 2D 4A 72 A0, 10 0 17 23 40 4A 90 9E, 1 0 17 23 4A 90, 1 0 4A 90, 8 0 4A 8E 90,
  1 0 4A 90, 2 0 17 4A 90, 1 0 14 17 2B 4A 8E 90 9C, 11 0 2D, 3 0 2D, 13 0 4A 79, 6 0 14 4A A0,
  5 C 4A, 11 1 1A 2D, 10F 0 1E 72, 1 0 1E 2A, 1 1 1E 4A, 2 0 1E 2A, 102 0 5 29 2A, 83 0 4 28 34
  69 90 9B A8, F 0 4 28 34 69 90 9B A8, 1 0 4 90 9B, 3 0 1 4 28 34 69 90 9B A8, 21 0 1 4 34 55
  56 77 80 8A 90, B A 4 90, 15 9 4 9B A8, 10 0 4 90, 64 0 4 34, 27D 0 B 20 2C 2E 30 3F 4A 54 66
  68 78 85 97 9A 9F, 1 0 B 20 2C 2E 30 3F 4A 54 68 78 97 9A 9F, 12 0 B 20 22 2C 2E 2F 30 3F 47
  52 54 58 66 6E 78 89 8F 96 97 9A 9F, 1 0 B 20 22 2C 2E 2F 30 31 3F 47 4C 52 54 58 66 6E 78 89
  8F 96 97 9A 9F, 1 9 20 22 3E 52, 80 9 B 15 8F, 80 9 30 62, 80 9 2E 46, 100 D 2C 97, 100 9 3F
  66 A2, 35A 9 15 63 93, BB 0 29 2A 4A, 5F0 2 82, 4A 1 11 35 91 92, CD 1 60 7E, 3 0 60 7E, 4CB 0
  B 20 2C 3F, 1 0 20, 1 0 B 20 2C 3F, 1 0 20 2C 3F, 1 0 20, 1 0 B 20 68 9A 9F, 1 0 B 20 9A, 1 0
  20 68 85, 1 0 B 20 68 9A, 1 0 20 85, 1 0 20 3F 54 78 97 9A, 1 0 20, 1 1 20 85, 2 1 20, 2 0 20
  85, 1 0 B 20, 1 0 20 68 9F, 1 5 20, 6 0 20 66 68, 1 0 B 20 85, 1 0 20 68, 1 0 20, 1 0 B 20 68
  85, 1 3 20, 4 0 B 20 2C 3F 54 66 78 89 9A 9F A2, 1 0 20 2C, 1 0 20 2C 3F A2, 1 1 B 20, 2 0 B,
  1 1 20 2C, 2 0 66, C6 1 2D, 38 0 1E 4A 90, 2 0 90, 235 0 4A 60 7E, 20 0 1 4, B 0 13 29 2A 50
  6F 76, 3 0 13 2D 5D 6F, 93 0 20 2C 4A, D27 0 1A 4A, 19 0 6 76, 1 0 6 13 29 3E 51 6F 83, B 0
  23, 5 0 1 4 6F, 2 0 1E 2A, 1AD F 32 99, 11 0 D 32 33 38 40 60 A9, 1 0 D 32 33 38 40 60 7E A9,
  1 0 D 32 33 38 40, 3 0 32, 2 1 D 32 33 38 40 60 9D A9, 2 1 D 32 33 38 40 4F 60 9D A9, 2 5 D 32
  33 38 40 A9, 7 0 D 32 33 38 40, 1 7 D 32 33 38 40 A9, 8 3 D 32 33 38 40, E 3 D 32, 6 0 D 32 33
  38 40, 1 4 38 40, 6 0 D 32 33 38 40, 5 1 32 38 40, 2 1 32, 5B 3 38 40, 7 0 38 40, 5B 0 D 32 33
  38 40 A9, 1 0 38 40, 94 F 32, 30 25 32, 2F 0 32 99, 31 27 32, 60 30 32, 40 B 32, 3F 0 32, 59
  18 32, 23 4 32, 65 1E 32, 728F 0 1E 2A, 91 7 32 4A, 130 2 20 22 2E 30 3E 3F 46 47 52 54 5F 66
  85 96 9F A2, 3 2 20 22 2E 30 3E 3F 46 47 52 5F 66 85 96 9F A2, 3 1 20 22 2E 30 3E 46 47 52 5F
  96 9F, 2 0 20 22 2E 30 3E 46 47 52 5F 85 96 9F, 1 0 20 22 2E 30 3E 46 47 52 5F 96 9F, B8 0 B
  20 A2, 2 0 20 97, 3B 0 42 4A 63, A1 0 10 3D, 536F 1 4 69, B4 0 4 9B, B 0 4 9B, 48 1 D 32 33 38
  40, 11C 4 D 32 33 38 40 A9, F 0 38 40, 2E 1 38 40, 162 1 1C 1D 4E, 2 0 1C 4E, 5 2C 1C 4D 4E,
  30 8 1C 4E, 1A9 1B 4 1A, 812 0 56 77, 80F 0 2C 97, 2 0 2C 97, 38 1 2C 97, C95 1 2C 97, 3 0 2C
  97, 9CCD 3 23, 16C0 11 32, 1EF0 1 32"

def set (number : Nat) : CharSet :=
  .ofTurns (Table.turnsWhere (· == number) false (Table.placedRows rows))

/-- The shared characters, with the numbers of the scripts in which they are used. -/
def shared : List (CharSet × List Nat) :=
  (Table.placedRows sharedRows).filterMap fun
    | (first, more :: scripts) => some (.ofTurns [first, first + more + 1], scripts)
    | _ => none

def usedSet (number : Nat) : CharSet :=
  shared.foldl (fun s (cs, scripts) => if scripts.contains number then s.union cs else s.diff cs)
    (set number)

def ofName? (name : Text) : Option Nat := (Name.place? names name).filter (· ≠ 0)

def named (name : String) : CharSet :=
  ((ofName? (Name.kept name.toList)).map set).getD .empty

end Classwright.Script
