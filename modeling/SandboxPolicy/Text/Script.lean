import SandboxPolicy.Text.CharSet

/-!
The script of a character, and the characters that a script's extensions reach, as in edition 16 of
the character database.
-/

namespace SandboxPolicy.Script

def names : List (List String) :=
  [["adlam", "adlm"], ["ahom"], ["anatolianhieroglyphs", "hluw"], ["arabic", "arab"],
   ["armenian", "armn"], ["avestan", "avst"], ["balinese", "bali"], ["bamum", "bamu"],
   ["bassavah", "bass"], ["batak", "batk"], ["bengali", "beng"], ["bhaiksuki", "bhks"],
   ["bopomofo", "bopo"], ["brahmi", "brah"], ["braille", "brai"], ["buginese", "bugi"],
   ["buhid", "buhd"], ["canadianaboriginal", "cans"], ["carian", "cari"],
   ["caucasianalbanian", "aghb"], ["chakma", "cakm"], ["cham"], ["cherokee", "cher"],
   ["chorasmian", "chrs"], ["common", "zyyy"], ["coptic", "copt", "qaac"], ["cuneiform", "xsux"],
   ["cypriot", "cprt"], ["cyprominoan", "cpmn"], ["cyrillic", "cyrl"], ["deseret", "dsrt"],
   ["devanagari", "deva"], ["divesakuru", "diak"], ["dogra", "dogr"], ["duployan", "dupl"],
   ["egyptianhieroglyphs", "egyp"], ["elbasan", "elba"], ["elymaic", "elym"],
   ["ethiopic", "ethi"], ["garay", "gara"], ["georgian", "geor"], ["glagolitic", "glag"],
   ["gothic", "goth"], ["grantha", "gran"], ["greek", "grek"], ["gujarati", "gujr"],
   ["gunjalagondi", "gong"], ["gurmukhi", "guru"], ["gurungkhema", "gukh"], ["han", "hani"],
   ["hangul", "hang"], ["hanifirohingya", "rohg"], ["hanunoo", "hano"], ["hatran", "hatr"],
   ["hebrew", "hebr"], ["hiragana", "hira"], ["imperialaramaic", "armi"],
   ["inherited", "qaai", "zinh"], ["inscriptionalpahlavi", "phli"],
   ["inscriptionalparthian", "prti"], ["javanese", "java"], ["kaithi", "kthi"],
   ["kannada", "knda"], ["katakana", "kana"], ["kawi"], ["kayahli", "kali"],
   ["kharoshthi", "khar"], ["khitansmallscript", "kits"], ["khmer", "khmr"], ["khojki", "khoj"],
   ["khudawadi", "sind"], ["kiratrai", "krai"], ["lao", "laoo"], ["latin", "latn"],
   ["lepcha", "lepc"], ["limbu", "limb"], ["lineara", "lina"], ["linearb", "linb"], ["lisu"],
   ["lycian", "lyci"], ["lydian", "lydi"], ["mahajani", "mahj"], ["makasar", "maka"],
   ["malayalam", "mlym"], ["mandaic", "mand"], ["manichaean", "mani"], ["marchen", "marc"],
   ["masaramgondi", "gonm"], ["medefaidrin", "medf"], ["meeteimayek", "mtei"],
   ["mendekikakui", "mend"], ["meroiticcursive", "merc"], ["meroitichieroglyphs", "mero"],
   ["miao", "plrd"], ["modi"], ["mongolian", "mong"], ["mro", "mroo"], ["multani", "mult"],
   ["myanmar", "mymr"], ["nabataean", "nbat"], ["nagmundari", "nagm"], ["nandinagari", "nand"],
   ["newtailue", "talu"], ["newa"], ["nko", "nkoo"], ["nushu", "nshu"],
   ["nyiakengpuachuehmong", "hmnp"], ["ogham", "ogam"], ["olchiki", "olck"], ["olonal", "onao"],
   ["oldhungarian", "hung"], ["olditalic", "ital"], ["oldnortharabian", "narb"],
   ["oldpermic", "perm"], ["oldpersian", "xpeo"], ["oldsogdian", "sogo"],
   ["oldsoutharabian", "sarb"], ["oldturkic", "orkh"], ["olduyghur", "ougr"], ["oriya", "orya"],
   ["osage", "osge"], ["osmanya", "osma"], ["pahawhhmong", "hmng"], ["palmyrene", "palm"],
   ["paucinhau", "pauc"], ["phagspa", "phag"], ["phoenician", "phnx"], ["psalterpahlavi", "phlp"],
   ["rejang", "rjng"], ["runic", "runr"], ["samaritan", "samr"], ["saurashtra", "saur"],
   ["sharada", "shrd"], ["shavian", "shaw"], ["siddham", "sidd"], ["signwriting", "sgnw"],
   ["sinhala", "sinh"], ["sogdian", "sogd"], ["sorasompeng", "sora"], ["soyombo", "soyo"],
   ["sundanese", "sund"], ["sunuwar", "sunu"], ["sylotinagri", "sylo"], ["syriac", "syrc"],
   ["tagalog", "tglg"], ["tagbanwa", "tagb"], ["taile", "tale"], ["taitham", "lana"],
   ["taiviet", "tavt"], ["takri", "takr"], ["tamil", "taml"], ["tangsa", "tnsa"],
   ["tangut", "tang"], ["telugu", "telu"], ["thaana", "thaa"], ["thai"], ["tibetan", "tibt"],
   ["tifinagh", "tfng"], ["tirhuta", "tirh"], ["todhri", "todr"], ["toto"],
   ["tulutigalari", "tutg"], ["ugaritic", "ugar"], ["vai", "vaii"], ["vithkuqi", "vith"],
   ["wancho", "wcho"], ["warangciti", "wara"], ["yezidi", "yezi"], ["yi", "yiii"],
   ["zanabazarsquare", "zanb"]]

def emptyNames : List String :=
  ["hrkt", "katakanaorhiragana", "unknown", "zzzz"]

def partition : Partition := .ofTable
  "o 1t 21 q o 6 21 q o 1b 21 1 o f 21 1 o 5 21 n o 1 21 v o 1 21 ch o 13 21 5 o 5 c 2 o k 1l 34
   18 4 o 1 18 3 4q 2 18 4 o 1 18 1 4q 4 18 1 o 1 18 1 o 1 18 3 4q 1 18 1 4q 1 18 k 4q 1 18 1r p
   e 18 g t 3p 1l 2 t 4p 4q 1 4 12 4q 2 4 1e 4q 2 4 3 4q 1 1i 1j 4q 8 1i r 4q 4 1i 6 4q b 3 5 o
   1 3 6 o 1 3 e o 1 3 3 o 1 3 w o 1 3 a 1l b 3 q 1l 1 3 30 o 1 3 y 3z e 4q 1 3z 1o 4q 2 3z 3 3
   1c 4a 1e 4q e 2w 1n 4q 2 2w 3 3m 1a 4q 2 3m f 4q 1 2c s 4q 2 2c 1 4q 1 3z b 4q 5 3 v 4q 1 3 2
   4q 5 3 23 o 1 3 t v 29 1l 4 v f o 2 v q a 4 4q 1 a 8 4q 2 a 2 4q 2 a m 4q 1 a 7 4q 1 a 1 4q 3
   a 4 4q 2 a 9 4q 2 a 2 4q 2 a 4 4q 8 a 1 4q 4 a 2 4q 1 a 5 4q 2 a p 4q 2 1b 3 4q 1 1b 6 4q 4
   1b 2 4q 2 1b m 4q 1 1b 7 4q 1 1b 2 4q 1 1b 2 4q 1 1b 2 4q 2 1b 1 4q 1 1b 5 4q 4 1b 2 4q 2 1b
   3 4q 3 1b 1 4q 7 1b 4 4q 1 1b 1 4q 7 1b h 4q a 19 3 4q 1 19 9 4q 1 19 3 4q 1 19 m 4q 1 19 7
   4q 1 19 2 4q 1 19 5 4q 2 19 a 4q 1 19 3 4q 1 19 3 4q 2 19 1 4q f 19 4 4q 2 19 c 4q 7 19 7 4q
   1 3b 3 4q 1 3b 8 4q 2 3b 2 4q 2 3b m 4q 1 3b 7 4q 1 3b 2 4q 1 3b 5 4q 2 3b 9 4q 2 3b 2 4q 2
   3b 3 4q 7 3b 3 4q 4 3b 2 4q 1 3b 5 4q 2 3b i 4q a 46 2 4q 1 46 6 4q 3 46 3 4q 1 46 4 4q 3 46
   2 4q 1 46 1 4q 1 46 2 4q 3 46 2 4q 3 46 3 4q 3 46 c 4q 4 46 5 4q 3 46 3 4q 1 46 4 4q 2 46 1
   4q 6 46 1 4q e 46 l 4q 5 49 d 4q 1 49 3 4q 1 49 n 4q 1 49 g 4q 2 49 9 4q 1 49 3 4q 1 49 4 4q
   7 49 2 4q 1 49 3 4q 2 49 1 4q 2 49 4 4q 2 49 a 4q 7 49 9 1q d 4q 1 1q 3 4q 1 1q n 4q 1 1q a
   4q 1 1q 5 4q 2 1q 9 4q 1 1q 3 4q 1 1q 4 4q 7 1q 2 4q 6 1q 2 4q 1 1q 4 4q 2 1q a 4q 1 1q 3 4q
   c 2b d 4q 1 2b 3 4q 1 2b 1f 4q 1 2b 3 4q 1 2b 6 4q 4 2b g 4q 2 2b q 4q 1 3s 3 4q 1 3s i 4q 3
   3s o 4q 1 3s 9 4q 1 3s 1 4q 2 3s 7 4q 3 3s 1 4q 4 3s 6 4q 1 3s 1 4q 1 3s 8 4q 6 3s a 4q 2 3s
   3 4q c 4b 1m 4q 4 o 1 4b s 4q 11 20 2 4q 1 20 1 4q 1 20 5 4q 1 20 o 4q 1 20 1 4q 1 20 n 4q 2
   20 5 4q 1 20 1 4q 1 20 7 4q 1 20 a 4q 2 20 4 4q w 4c 20 4q 1 4c 10 4q 4 4c 13 4q 1 4c 10 4q 1
   4c f 4q 1 4c 7 o 4 4c 2 4q 11 2q 4g 14 12 4q 1 14 1 4q 5 14 1 4q 2 14 17 o 1 14 4 1e 74 12 21
   4q 1 12 4 4q 2 12 7 4q 1 12 1 4q 1 12 4 4q 2 12 15 4q 1 12 4 4q 2 12 x 4q 1 12 4 4q 2 12 7 4q
   1 12 1 4q 1 12 4 4q 2 12 f 4q 1 12 1l 4q 1 12 4 4q 2 12 1v 4q 2 12 w 4q 3 12 q 4q 6 m 2e 4q 2
   m 6 4q 2 h hs 2z t 4q 3 3l 23 o 3 3l b 4q 7 40 m 4q 9 40 1 1g l o 2 4q 9 g k 4q c 41 d 4q 1
   41 3 4q 1 41 2 4q c 1w 2m 4q 2 1w a 4q 6 1w a 4q 6 2n 2 o 2 2n 1 o 1 2n k 4q 6 2n 2h 4q 7 2n
   17 4q 5 h 1y 4q a 23 v 4q 1 23 c 4q 4 23 c 4q 4 23 1 4q 3 23 c 42 u 4q 2 42 5 4q b 2u 18 4q 4
   2u q 4q 6 2u b 4q 3 2u 2 1w w f s 4q 2 f 2 43 1r 4q 1 43 t 4q 2 43 b 4q 6 43 a 4q 6 43 e 4q 2
   1l v 4q 1d 6 25 4q 1 6 1e 3w 1s 9 1g 4q 8 9 4 22 1k 4q 3 22 f 4q 3 22 3 30 1c t b 4q 5 14 17
   4q 2 14 3 3w 8 4q 8 1l 3 o 1 1l d o 1 1l 7 o 4 1l 1 o 6 1l 1 o 3 1l 2 o 1 4q 5 21 12 18 5 t 1
   21 1d 18 5 21 4 18 5 21 d t 1 21 1y 18 1 1l 1s 21 74 18 m 4q 2 18 6 4q 2 18 12 4q 2 18 6 4q 2
   18 8 4q 1 18 1 4q 1 18 1 4q 1 18 1 4q 1 18 v 4q 2 18 1h 4q 1 18 f 4q 1 18 e 4q 2 18 6 4q 1 18
   j 4q 2 18 3 4q 1 18 9 4q 1 o c 1l 2 o 2f 4q 1 o b 21 1 4q 2 o b 21 1 o f 4q 1 21 d 4q 3 o x
   4q f 1l x 4q f o 12 18 1 o 3 21 2 o 6 21 1 o r 21 1 o h 21 15 o 3 4q 4 o ii 4q m o b 4q l o
   ps e 74 o hg 4q 2 o w 4q 1 o 2x 15 2o 21 w p 38 4q 5 p 7 14 12 4q 1 14 1 4q 5 14 1 4q 2 4d 1k
   4q 7 4d 2 4q e 4d 1 12 n 4q 9 12 7 4q 1 12 7 4q 1 12 7 4q 1 12 7 4q 1 12 7 4q 1 12 7 4q 1 12
   7 4q 1 12 7 4q 1 t w o 2m 4q y 1d q 4q 1 1d 2h 4q c 1d 5y 4q q o l 1d 1 o 1 1d 1 o p 1d 9 1l
   4 1e 2 o 8 1d 4 o 4 4q 1 1j 2e 4q 2 1l 2 o 2 1j 3 o 1 1r 2i o 2 1r 3 4q 5 c 17 4q 1 1e 2m 4q
   1 o g c w o 12 4q 9 o 1 1r g 1e v 4q 1 o 1s 1e v o 29 1r 1b o 1 1r 2g o 4o 1d 534 o 1s 1d g74
   4o wd 4q 3 4o 1j 4q 9 26 1c 4j 8c 4q k t 2o 7 2g 4q 8 o y 21 2u o 3 21 1v 4q 2 21 2 4q 1 21 1
   4q 1 21 8 4q l 21 e 3y 19 4q 3 o a 4q 6 3h 1k 4q 8 3n 1y 4q 8 3n c 4q 6 v w 1t 1a o 1 1t 1 3k
   10 4q b 3k 1 1e t 4q 3 1o 26 4q 1 o 1 1o a 4q 4 1o 2 2q v 4q 1 l 1j 4q 9 l e 4q 2 l a 4q 2 l
   4 2q w 44 1v 4q o 44 5 2h n 4q a 12 6 4q 2 12 6 4q 2 12 6 4q 9 12 7 4q 1 12 7 4q 1 21 17 o 1
   21 9 18 1 21 4 o 2 4q 4 m 28 2h 1a 4q 2 2h a 4q 6 1e 8mc 4q c 1e n 4q 4 1e 1d 4q 6is 1d a6 4q
   2 1d 2y 4q 12 21 7 4q c 4 5 4q 5 1i q 4q 1 1i 5 4q 1 1i 1 4q 1 1i 2 4q 1 1i 2 4q 1 1i a 3 37
   4q g 3 a3 o 2 3 28 4q 2 3 1i 4q 7 3 1 4q w 3 g 1l g o a 4q 6 1l e t 2 o z 4q 1 o j 4q 1 o 4
   4q 4 3 5 4q 1 3 3r 4q 2 o 1 4q 1 o w 21 q o 6 21 q o b 1r a o 1 1r 19 o 2 1e v 4q 3 1e 6 4q 2
   1e 6 4q 2 1e 6 4q 2 1e 3 4q 3 o 7 4q 1 o 7 4q a o 5 4q 2 25 c 4q 1 25 q 4q 1 25 j 4q 1 25 2
   4q 1 25 f 4q 2 25 e 4q y 25 3f 4q 5 o 3 4q 4 o 19 4q 3 o 9 18 27 4q 1 o d 4q 3 18 1 4q 1b o
   19 1l 1 4q 3m 27 t 4q 3 i 1d 4q f 1l 1 o r 4q 4 33 10 4q 9 33 3 16 r 4q 5 35 17 4q 5 4i u 4q
   1 4i 1 36 10 4q 4 36 e 4q 16 u 28 3p 1c 3d u 4q 2 3d a 4q 6 3c 10 4q 4 3c 10 4q 4 10 14 4q 8
   j 1g 4q b j 1 4k b 4q 1 4k f 4q 1 4k 7 4q 1 4k 2 4q 1 4k b 4q 1 4k f 4q 1 4k 7 4q 1 4k 2 4q 3
   4f 1g 4q c 24 8n 4q 9 24 m 4q a 24 8 4q o 21 6 4q 1 21 16 4q 1 21 9 4q 1x r 6 4q 2 r 1 4q 1 r
   18 4q 1 r 2 4q 3 r 1 4q 2 r 1 1k m 4q 1 1k 9 3f w 2r v 4q 8 2r 9 4q 1c 1h j 4q 1 1h 2 4q 5 1h
   5 3i s 4q 3 3i 1 28 q 4q 5 28 1 4q 1s 2k w 2j o 4q 4 2j k 4q 2 2j 1a 1u 4 4q 1 1u 2 4q 5 1u 8
   4q 1 1u 3 4q 1 1u t 4q 2 1u 3 4q 4 1u a 4q 7 1u 9 4q 7 38 w 34 w 4q w 2d 13 4q 4 2d c 4q 9 5
   1i 4q 3 5 7 1n m 4q 2 1n 8 1m j 4q 5 1m 8 3j i 4q 7 3j 4 4q c 3j 7 4q 28 39 21 4q 1j 32 1f 4q
   d 32 1f 4q 7 32 6 1f 14 4q 8 1f a 4q 6 13 12 4q 3 13 t 4q 8 13 2 4q 5s 3 v 4q 1 4n 16 4q 1 4n
   3 4q 2 4n 2 4q g 3 3 4q 1j 3 4 37 14 4q 8 3t 16 4q m 3a q 4q 12 n s 4q k 11 n 4q 9 d 26 4q 4
   d 10 4q 9 d 1 1p 1v 4q a 1p 1 4q 2 3u p 4q 7 3u a 4q 6 k 1h 4q 1 k i 4q 8 29 13 4q 9 3o 2o 4q
   1 3s k 4q b 1x i 4q 1 1x 1b 4q 1q 2p 7 4q 1 2p 1 4q 1 2p 4 4q 1 2p f 4q 1 2p b 4q 6 1y 1n 4q
   5 1y a 4q 6 17 4 4q 1 17 8 4q 2 17 2 4q 2 17 m 4q 1 17 7 4q 1 17 2 4q 1 17 5 4q 1 1l 1 17 9
   4q 2 17 2 4q 2 17 3 4q 2 17 1 4q 6 17 1 4q 5 17 7 4q 2 17 7 4q 3 17 5 4q b 4h a 4q 1 4h 1 4q
   2 4h 1 4q 1 4h 12 4q 1 4h a 4q 1 4h 1 4q 2 4h 1 4q 1 4h 4 4q 1 4h a 4q 1 4h 2 4q 8 4h 2 4q t
   2v 2k 4q 1 2v 5 4q u 4e 20 4q 8 4e a 4q 4m 3q 1i 4q 2 3q 12 4q y 2m 1x 4q b 2m a 4q 6 2n d 4q
   j 45 1m 4q 6 45 a 4q 6 2q k 4q s 1 r 4q 2 1 f 4q 4 1 n 4q 55 x 1o 4q 2s 4m 2b 4q c 4m 1 w 7
   4q 2 w 1 4q 2 w 8 4q 1 w 2 4q 1 w u 4q 1 w 2 4q 2 w c 4q 9 w a 4q 1y 2t 8 4q 2 2t 1a 4q 2 2t
   b 4q r 4p 20 4q 8 3v 2b 4q d h g 3g 1l 4q 7 v a 4q 52 3x y 4q e 3x a 4q 6 b 9 4q 1 b 19 4q 1
   b e 4q a b t 4q 3 2e w 4q 2 2e m 4q 1 2e e 4q 21 2f 7 4q 1 2f 2 4q 1 2f 18 4q 3 2f 1 4q 1 2f
   2 4q 1 2f 9 4q 8 2f a 4q 6 1a 6 4q 1 1a 2 4q 1 1a 11 4q 1 1a 2 4q 1 1a 6 4q 7 1a a 4q 8m 2a p
   4q 7 1s h 4q 1 1s 15 4q 3 1s t 4q 2d 26 1 4q f 46 1e 4q d 46 1 q pm 4q 2u q 33 4q 1 q 5 4q b
   q 5g 4q 218 s 2r 4q d z uu 4q a z 32z 4q 5 2 g7 4q 5a1 1c 1m 4q 1c6 7 ft 4q 7 2o v 4q 1 2o a
   4q 4 2o 2 47 27 4q 1 47 a 4q 6 8 u 4q 2 8 6 4q a 3e 1y 4q a 3e a 4q 1 3e 7 4q 1 3e l 4q 5 3e
   j 4q c0 1z 1m 4q 5i 2g 2j 4q 2t 2l 23 4q 4 2l 1l 4q 7 2l h 4q 1s 48 1 2x 1 1d 2 1v 1 4q b 1d
   2 4q e 48 4qg 4q 8 48 lc 1v d2 4q 15 1v 1 48 9 4q 6w7 1r 4 4q 1 1r 7 4q 1 1r 2 4q 1 1r 1 1j
   7z 1r 3 4q f 1j 1 4q t 1j 3 4q 2 1r 1 4q e 1r 4 4q 8 2x b0 4q 1s4 y 2z 4q 5 y d 4q 3 y 9 4q 7
   y a 4q 2 y 4 o 4 4q 318 o 6y 4q 6 o c4 4q 24 1l 1a 4q 2 1l n 4q 9 o 38 4q 1o o 6u 4q a o 13
   4q 2 o 1q 1l 3 o h 1l 8 o 2 1l 7 o u 1l 4 o 1p 4q l 18 1y 4q 3e o k 4q c o k 4q c o 2f 4q 9 o
   p 4q 3r o 2d 4q 1 o 1z 4q 1 o 2 4q 2 o 1 4q 2 o 2 4q 2 o 4 4q 1 o c 4q 1 o 1 4q 1 o 7 4q 1 o
   1t 4q 1 o 4 4q 2 o 8 4q 1 o 7 4q 1 o s 4q 1 o 4 4q 1 o 5 4q 1 o 1 4q 3 o 7 4q 1 o 9g 4q 2 o
   84 4q 2 o 1e 3r i4 4q f 3r 5 4q 1 3r f 4q uo 21 v 4q 6 21 6 4q 5x 15 7 4q 1 15 h 4q 2 15 7 4q
   1 15 2 4q 1 15 5 4q 5 t 1q 4q x t 1 4q 34 2y 19 4q 3 2y e 4q 2 2y a 4q 4 2y 2 4q 8w 4g v 4q h
   4l 1m 4q 5 4l 1 4q cw 2s 16 4q 5y 31 17 4q 4 31 1 4q dc 12 7 4q 1 12 4 4q 1 12 2 4q 1 12 f 4q
   1 2i 5h 4q 2 2i g 4q 15 0 24 4q 4 0 a 4q 4 0 2 4q lt o 1w 4q 24 o 1p 4q 5e 3 4 4q 1 3 r 4q 1
   3 2 4q 1 3 1 4q 2 3 1 4q 1 3 a 4q 1 3 4 4q 1 3 1 4q 1 3 1 4q 6 3 1 4q 4 3 1 4q 1 3 1 4q 1 3 1
   4q 1 3 3 4q 1 3 2 4q 1 3 1 4q 2 3 1 4q 1 3 1 4q 1 3 1 4q 1 3 1 4q 1 3 1 4q 1 3 2 4q 1 3 1 4q
   2 3 4 4q 1 3 7 4q 1 3 4 4q 1 3 4 4q 1 3 1 4q 1 3 a 4q 1 3 h 4q 5 3 3 4q 1 3 5 4q 1 3 h 4q 1g
   3 2 4q 7i o 18 4q 4 o 2s 4q c o f 4q 2 o f 4q 1 o f 4q 1 o 11 4q a o 4u 4q 1k o q 1j 1 o 2 4q
   d o 18 4q 4 o 9 4q 7 o 2 4q e o 6 4q 4a o rc 4q 4 o h 4q 3 o d 4q 3 o 3b 4q 4 o 2n 4q 6 o c
   4q 4 o 1 4q f o c 4q 4 o 1k 4q 8 o a 4q 6 o 14 4q 8 o u 4q 2 o c 4q 4 o 2 4q 1q o 9g 4q c o e
   4q 2 o d 4q 3 o a 4q 5 o 1k 4q 7 o f 4q 2 o b 4q 6 o 9 4q 7 o 43 4q 1 o 2u 4q sm 1d wyo 4q w
   1d 37e 4q 6 1d 66 4q 2 1d 4g2 4q e 1d 5rl 4q f 1d ha 4q 1wi 1d f2 4q 15u 1d 3t7 4q 5 1d 38g
   4q f975 o 1 4q u o 2o 4q 3k 1l 6o 4q 47bk"

def label (name : String) : Option Nat :=
  names.findIdx? fun aliases => aliases.contains name

def charSet (name : String) : Option CharSet :=
  (label name).map fun wanted => partition.select (· == wanted)

def extensions : List (String × String) :=
  [("adlam",
   "17j 0 w 0 55a 0 2r5 0 2fge 23 4 9 4 1"),
   ("arabic",
   "16o 4 1 5y 1 x 28 1b 6o u 1 1 5 22 1 s 4lr 0 2r5 0 14i6 36 g cc 2 1h 7 0 w f 34 4 1 3q rn r
   290 u 1v 2 1j 3 181s 3 1 q 1 1 1 0 2 0 1 9 1 3 1 0 1 0 6 0 4 0 1 0 1 0 1 2 1 1 1 0 2 0 1 0 1
   0 1 0 1 0 1 1 1 0 2 3 1 6 1 3 1 3 1 0 1 9 1 g 5 2 1 4 1 g 1g 1"),
   ("armenian",
   "lk 0 fc 11 2 1d 2 2 1chv 4"),
   ("avestan",
   "53 0 8zc 1 17m6 1h 3 6"),
   ("bengali",
   "jg 0 1as 1 h 1 q 3 1 7 2 1 2 l 1 6 1 0 3 3 2 8 2 1 2 3 8 0 4 1 1 4 2 o 3pt 0 1 0 2 1 1 0 8 0
   8 0 2 0 4 0 2 2 rnd 0"),
   ("bopomofo",
   "jr 0 1 2 d 0 g 1 8wl 2 4 9 1 c a 3 2 0 6 0 5f 0 9 16 34 v 14ed 1 7u 4"),
   ("buginese",
   "54w r 2 1 sdr 0"),
   ("buhid",
   "4l1 1 9 j"),
   ("carian",
   "53 0 68y 0 2 0 2qb 0 15ym 1c"),
   ("caucasianalbanian",
   "lg 0 18 0 18 0 1exd 1f b 0"),
   ("chakma",
   "1ye 9 18w 9 1epi 1g 1 h"),
   ("cherokee",
   "lc 2 1 0 6 1 m 1 b 1 38u 2d 2 5 twy 27"),
   ("common",
   "0 1s q 5 q 1a 1 b 1 1 1 4 n 0 v 0 ch 2 1 9 1 0 3 0 1 8 1 0 1 5 5 4 2 j 3i 0 6 0 1 0 hp 0 5z 0
   ec 0 124 0 b9 3 36v b 2 w 1 u 1 9 1 1 1 6 1 a 3 a 1 e h w 1r 11 1 2 2 5 1 q 1 g 15 2 4 ih m a
   l pr 74 hf 2 v 1 2w e8 m 1 n 2 9 1 3 1 0 1 p bm 0 3 0 d 0 d 0 l 0 ep n v 0 1d e c 3 4h 9 5 2n
   v 0 534 1r hl4 p 2u 2 r4 0 e 1 gbo 9 m k 2 b 1 i 1 3 43 0 1 v q 5 q 5 3j 6 1 6 a 4 b6 c 1f 18
   13wj 6x 6 c3 4c 37 1o 6t a 12 2 1p 3 g 8 1 7 t 4 1o 5x j c j c 2e r 6 3r 2c 1 1y 1 1 2 0 2 1
   2 3 1 b 1 0 1 6 1 1s 1 3 2 7 1 6 1 r 1 3 1 4 1 0 3 6 1 9f 2 83 2 1d 41d 1v 24 1o jm 17 4 2r c
   e 2 e 1 e 1 10 a 4t 1k p 1 1 d 17 4 8 n 5 4a rb 4 g 3 c 3 3a 4 2m 6 b 4 0 f b 4 1j 8 9 6 13 8
   t 2 b 4 1 1q 9f c d 2 c 3 9 5 1j 7 e 2 a 6 8 7 42 1 2t gvlz 0 u 2n"),
   ("coptic",
   "53 0 g8 0 3 1 1 0 30 1 30 d 80g 37 5 6 7r 0 1614 r"),
   ("cypriot",
   "1erk 2 4 18 3 8 1c0 5 2 0 1 17 1 1 3 0 2 0"),
   ("cyprominoan",
   "1erk 1 972 2q"),
   ("cyrillic",
   "jg 0 1v 2 1 0 1 0 1 0 2 0 5 0 6m 8f 4ls a 4g 0 24 0 3j 0 353 v 1v 0 np8 2n ham 1 18n4 1p x 0"),
   ("devanagari",
   "jg 0 18j 2a 2 16 3tc 12 1 1 s6 0 qpr 9 4m v mio 9"),
   ("dogra",
   "1us b vcw 9 m2u 1n"),
   ("duployan",
   "53 0 gf 1 1 0 o 1 8if 0 26kj 2y 5 c 3 8 7 9 2 7"),
   ("elbasan",
   "53 0 gd 0 1eyi 13"),
   ("ethiopic",
   "lq 0 2y9 20 1 3 2 6 1 0 1 3 2 14 1 3 2 w 1 3 2 6 1 0 1 3 2 e 1 1k 1 3 2 1u 2 v 3 p 546 m 9 6
   1 6 1 6 1 6 1 6 1 6 1 6 1 6 opu 5 2 5 2 5 9 6 1 6 1qk1 6 1 3 1 1 1 e"),
   ("garay",
   "170 0 e 0 3 0 1fz4 11 3 s 8 1"),
   ("georgian",
   "53 0 y9 0 26u 11 1 0 5 0 2 1b 2a8 16 2 2 pm 0 2hx 11 1 0 5 0 77 0"),
   ("glagolitic",
   "53 0 gb 0 1 0 am 0 2 0 75 0 29d 0 31a 0 2at 2n df 0 nqj 0 1pxs 6 1 g 2 6 1 1 1 4"),
   ("gothic",
   "53 0 gc 1 2 0 14 0 1eke q"),
   ("grantha",
   "1u9 1 h 1 hs d 3bw 0 1 1 u 2 3 1 s6 0 1btb 3 1 7 2 1 2 l 1 6 1 1 1 4 1 9 2 1 2 2 2 0 6 0 5 6
   2 6 3 4 2fv 1 1 0"),
   ("greek",
   "53 0 g8 1 2 0 1 0 1 0 a 0 1a 0 2 0 16 7 2 3 1 0 4 0 1 0 1 2 1 0 1 j 1 1q e f 4yu 4 1e 4 4 4
   2c 2 8u l 2 5 2 11 2 5 2 7 1 0 1 0 1 0 1 u 2 1g 1 e 1 d 2 5 1 i 2 2 1 8 2m 0 5k 0 rb2 0 gyi
   26 h 0 155r 1x"),
   ("gujarati",
   "1u9 1 h 1 7v 2 1 8 1 2 1 l 1 6 1 1 1 4 2 9 1 2 1 2 2 0 f 3 2 b 7 6 v1s 9"),
   ("gunjalagondi",
   "53 0 1po 1 1iii 5 1 1 1 10 1 1 1 5 7 9"),
   ("gurmukhi",
   "1u9 1 h 1 4b 2 1 5 4 1 2 l 1 6 1 1 1 1 1 1 2 0 1 4 4 1 2 2 3 0 7 3 1 0 7 g v5l 9"),
   ("gurungkhema",
   "1ut 0 1vve 1l"),
   ("han",
   "53 0 91k p 1 2g c 5x q f 1 2 1 c 1 c 1 c 2 0 6 8 57 0 44 f w 11 9 0 1c 13 1k 1c f b 1f 0 2g o
   a 4 2o u 1 533 1s g73 1ds 7 g6w a5 2 2x ob 1 7u 4 m7w 1 c 1 jn2 h 63i 1 2pa wyn w 37d 6 65 2
   4g1 e 5rk f h9 1wi f1 15u 3t6 5 38f"),
   ("hangul",
   "3cw 73 5xd 2 4 9 1 c e 2 6 0 5f 0 1h 2l 35 u 1t u nhd s hv 8mb c m 4 1c 7k9 1 7u 4 1m u 3 5 2
   5 2 5 2 2"),
   ("hanifirohingya",
   "170 0 e 0 3 0 w 0 43 0 1fsb 13 8 9"),
   ("hanunoo",
   "4kg m"),
   ("hebrew",
   "lj 1 i0 1i 8 q 4 5 1cfc p 1 4 1 0 1 1 1 1 1 9"),
   ("hiragana",
   "9hd 2 4 9 1 c g 5 1 0 4 1 3 2d 2 7 2i 1 14js 1 7u 4 a 0 19 1 yu9 7y i 0 t 2 crx 0"),
   ("inherited",
   "lr 0 2 0 1 b 1 1 3 6 2 0 2 f 1 1 1 h 1 4 1 3 168 1 3ff u kz 1h 1 0 1 4 ek 1 5e v 17o0 f g d
   r3 0 14hu 19 2 m f4 2 h 7 2 6 u 3 h45u 6n"),
   ("javanese",
   "xhc 25 1 a 4 1"),
   ("kaithi",
   "1uu 9 79d 0 o3i 9 kli 1u a 0"),
   ("kannada",
   "1u9 1 h 1 m2 c 1 2 1 m 1 9 1 4 2 8 1 2 1 3 7 1 6 1 1 3 2 9 1 2 34s 0 1 1 6 0 n 0 1 0 ri3 5"),
   ("katakana",
   "lh 0 t 0 8v1 2 4 9 1 c g 5 1 0 4 1 2j 3 3 2n 6o f 5s 1a 1 2f 1431 1 7u 1q yts 3 1 6 1 1 1 0
   7z 2 1e 0 e 3"),
   ("kayahli",
   "xds 1b"),
   ("khojki",
   "25i 9 v28 9 kw6 h 1 1a"),
   ("khudawadi",
   "1us 1 vd6 9 l12 1m 5 9"),
   ("latin",
   "1t p 6 p 1b 0 c 0 2 0 5 m 1 u 1 cg 3 0 a 0 1 2 1 0 9 0 1 0 6 4 r e 1 1 1 0 c 0 2 2 7 1 1 1 12
   0 5 0 4 c 7p 1 y2 1 1ig 0 2dg 11 6 1c 5 3 5 c 1 1x 1l 0 7 73 8f 0 1t 0 d 0 g c 2b 0 1l 1 6 0
   r 0 h 14 253 v bb 0 nvs 7 q 2t 3 1u 2 1 1 0 1 7 l d 8e 0 e9 16 1 8 1 3 fpy 6 t6 p 6 p 1lx 5 1
   15 1 8 16it u 6 5"),
   ("limbu",
   "1ut 0 32y u 1 b 4 b 4 0 3 b"),
   ("lineara",
   "1err 18 y4 8m 9 l a 7"),
   ("linearb",
   "1ekg b 1 p 1 i 1 1 1 e 2 d y 3e 5 2 4 18 3 8"),
   ("lisu",
   "jg 0 g 0 8xo 1 n2c 1b o8g 0"),
   ("lycian",
   "6e2 0 18o5 s"),
   ("lydian",
   "53 0 8zd 0 178u p 5 0"),
   ("mahajani",
   "53 0 1po b vcw 9 kra 12"),
   ("malayalam",
   "1u9 1 h 1 pm c 1 2 1 1e 1 2 1 5 4 f 2 p 316 0 n 0 ri5 2"),
   ("mandaic",
   "18g 0 e7 r 2 0"),
   ("manichaean",
   "18g 0 1fgf 12 4 b"),
   ("masaramgondi",
   "1us 1 1ifu 6 1 1 1 17 3 0 1 1 1 8 8 9"),
   ("meroitichieroglyphs",
   "6e5 0 1a1u v"),
   ("modi",
   "x80 9 lom 1w b 9"),
   ("mongolian",
   "4qo p 6 2g 7 16 1hg 0 34h 1 5 3 19hw c"),
   ("multani",
   "21y 9 1g5s 6 1 0 1 3 1 e 1 a"),
   ("myanmar",
   "35s 4f u4u 0 4x u 2p v le8 j"),
   ("nandinagari",
   "1us 1 ow 9 35l 0 8 0 7 0 rhx 5 mei 7 2 19 2 a"),
   ("nko",
   "170 0 e 0 3 0 bk 1m 2 2 1cfy 1"),
   ("olonal",
   "1us 1 2m3u 16 4 0"),
   ("oldhungarian",
   "6e2 0 2 0 2qb 0 f 0 17we 1e d 1e 7 5"),
   ("oldpermic",
   "53 0 g8 0 5 2 a 0 a7 0 1ebw 16"),
   ("oldturkic",
   "6e2 0 2qd 0 17tb 20"),
   ("olduyghur",
   "18g 0 1fht 0 vx p"),
   ("oriya",
   "1u9 1 h 1 bf 2 1 7 2 1 2 l 1 6 1 1 1 4 2 8 2 1 2 2 7 2 4 1 1 4 2 h 3fm 0 n 0"),
   ("osage",
   "ld 0 2 0 6 0 24 0 1etz z 4 z"),
   ("phagspa",
   "4qq 1 1 0 1m1 0 34i 0 nr1 1j"),
   ("psalterpahlavi",
   "18g 0 1flr h 7 3 c 6"),
   ("runic",
   "4gw 2g"),
   ("samaritan",
   "1kw 19 2 e 7hu 0"),
   ("sharada",
   "1u9 0 3ut 0 1 0 2 1 2 0 rin 5 2 0 ksn 2n"),
   ("shavian",
   "53 0 1fa0 1b"),
   ("sinhala",
   "1us 1 t7 2 1 h 3 n 1 8 1 0 2 6 3 0 4 5 1 0 1 7 6 9 2 2 2yl 0 1cdq j"),
   ("sogdian",
   "18g 0 1gbz 15"),
   ("sunuwar",
   "lc 1 1 0 9 0 2 0 s 0 3 0 1jf2 x e 9"),
   ("sylotinagri",
   "1us 1 3k 9 v80 18"),
   ("syriac",
   "lf 1 2 1 1 0 l 0 2 2 7 1 1 0 kb 0 e 1 2 0 w 0 a a q 0 3z d 1 1n 2 2 7k a 499 0 1 0"),
   ("tagalog",
   "4jk l 9 0 l 1"),
   ("tagbanwa",
   "4l1 1 15 c 1 2 1 1"),
   ("taile",
   "lc 1 5 1 3 0 2lv 9 1s6 t 2 4"),
   ("takri",
   "1us 1 vd6 9 ls6 1l 6 9"),
   ("tamil",
   "1u9 1 h 1 f0 1 1 5 3 2 1 3 3 1 1 0 1 1 3 1 3 2 3 b 4 4 3 2 1 3 2 0 6 0 e k 3bz 0 ro8 0 ky5 0
   1 0 1j 1 2gz 1d d 0"),
   ("tangut",
   "9gw f dr 0 1qsw 0 v 4qf 8 lb e8 8"),
   ("telugu",
   "1u9 1 h 1 ii c 1 2 1 m 1 f 2 8 1 2 1 3 7 1 1 2 2 0 2 3 2 9 7 8 38a 0 n 0"),
   ("thaana",
   "170 0 e 1 2 0 1s 9 7q 1d 1cn4 0 a 0"),
   ("thai",
   "jg 0 q 0 17 0 19 0 24v 1l 5 r"),
   ("tibetan",
   "2yo 1z 1 z 4 12 1 z 1 e 1 6 4 1 6ct 3"),
   ("tifinagh",
   "le 0 1 0 2 0 1 0 8bq 1j 7 1 e 0"),
   ("tirhuta",
   "1u9 1 h 1 3v0 0 ri5 9 ldy 1z 8 9"),
   ("todhri",
   "ld 0 2 0 2 0 9 0 1 0 22 0 1f1d 1f"),
   ("toto",
   "jg 0 2ms3 u"),
   ("tulutigalari",
   "2jq 9 35u 0 1 0 ri3 5 57 0 l1q 9 1 0 2 0 1 11 1 9 1 0 2 0 1 3 1 9 1 1 8 1"),
   ("yezidi",
   "170 0 e 0 3 0 1s 9 1g5y 15 1 2 2 1"),
   ("yi",
   "9hd 1 5 9 2 7 67 0 lxg wc 3 1i hwa 4")]

def extendedSet (name : String) : Option CharSet :=
  (label name).bind fun wanted =>
    match extensions.find? fun entry => label entry.1 == some wanted with
    | some entry => some (.ofTable entry.2)
    | none => charSet name

end SandboxPolicy.Script
