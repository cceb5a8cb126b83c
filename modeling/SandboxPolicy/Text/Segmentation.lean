import SandboxPolicy.Text.CharSet

/-!
How a character takes part in dividing a text into characters as readers see them, into words and
into sentences.
-/

namespace SandboxPolicy.Segmentation

/-- The parts that characters have in the division into characters as readers see them. -/
def graphemeNames : List (List String) :=
  [["cr"], ["control", "cn"], ["extend", "ex"], ["l"], ["lf"], ["lv"], ["lvt"], ["prepend", "pp"],
   ["regionalindicator", "ri"], ["spacingmark", "sm"], ["t"], ["v"], ["zwj"]]

def graphemePartition : Partition := .ofTable
  "1 a 4 1 1 2 0 1 1 i d 2n 1 x d d 1 1 d gi 2 34 d 7n 2 7 d 7b 2 19 d 1 2 1 d 1 2 2 d 1 2 2 d 1
   2 1 d 1k 7 6 d a 2 b d 1 1 1 d 1a 2 l d g 2 1 d 2t 2 7 7 1 d 1 2 6 d 2 2 2 d 1 2 4 d x 7 1 d
   1 2 1 d u 2 r d 2j 2 b d 1m 2 9 d 9 2 1 d o 2 4 d 1 2 9 d 1 2 3 d 1 2 5 d 17 2 3 d 1g 7 2 d 5
   2 9 d 16 2 o 7 1 2 w 9 1 d 1i 2 1 9 1 2 1 d 1 9 3 2 8 9 4 2 1 9 2 d 1 2 7 d a 2 2 d t 2 1 9 2
   d 1k 2 1 d 1 2 1 9 2 2 4 d 2 9 2 d 2 9 2 2 1 d 9 2 1 d a 2 2 d q 2 1 d 2 2 2 9 1 d 1k 2 1 d 1
   9 3 2 2 d 4 2 2 d 2 2 3 d 3 2 1 d u 2 2 d 3 2 1 d b 2 2 9 1 d 1k 2 1 d 1 9 3 2 5 d 1 2 2 9 1
   d 1 9 2 2 1 d k 2 2 d m 2 6 d 1 2 1 9 2 d 1k 2 1 d 1 2 2 9 1 2 4 d 2 9 2 d 2 9 2 2 1 d 7 2 3
   d a 2 2 d u 2 1 d 1n 2 1 9 1 2 1 9 2 d 3 9 3 d 1 9 3 2 1 d 9 2 1 d 14 2 1 9 3 2 1 d 1j 2 1 d
   1 2 3 9 4 d 1 2 3 d 1 2 4 d 7 2 2 d b 2 2 d t 2 1 9 2 d 1k 2 1 d 1 9 1 2 2 9 1 2 1 9 2 d 1 2
   3 d 1 2 4 d 7 2 2 d b 2 2 d f 9 1 d c 2 2 9 2 d 1j 2 2 d 1 2 1 9 2 2 4 d 1 9 3 d 1 9 3 2 1 7
   1 d 8 2 1 d a 2 2 d t 2 1 9 2 d 1y 2 1 d 4 2 1 9 2 2 3 d 1 2 1 d 1 9 7 2 1 d i 9 2 d 1p 2 1 d
   1 9 1 2 7 d c 2 8 d 2q 2 1 d 1 9 1 2 9 d b 2 7 d 21 2 2 d r 2 1 d 1 2 1 d 1 2 1 d 4 9 2 d 1d
   2 e 9 1 2 5 d 1 2 2 d 5 2 b d 1 2 10 d 9 2 1 d 2u 2 4 9 1 2 6 d 1 2 2 9 2 2 2 d n 9 2 2 2 d 4
   2 3 d g 2 4 d d 2 1 d 1 9 1 2 2 d 6 2 1 d f 2 1 d 2q 3 2o b 20 a 2g d 9p 2 3 d qa 2 4 d s 2 3
   d t 2 2 d u 2 2 d 1s 2 2 9 1 2 7 9 8 2 1 9 2 2 b d 9 2 1 d 19 2 3 1 1 2 1 d 39 2 2 d y 2 1 d
   3a 2 3 9 4 2 2 9 3 d 4 9 2 2 1 9 6 2 3 d 63 2 2 9 2 2 1 d 1l 9 1 2 1 9 1 2 7 d 1 2 1 d 1 2 1
   d 2 2 8 9 6 2 a d 2 2 1 d 1c 2 v d 1d 2 4 9 1 d 1b 2 a 9 4 2 3 d 12 2 9 d c 2 2 9 1 d u 9 1 2
   4 9 2 2 6 d 1k 2 1 9 1 2 2 9 3 2 1 9 1 2 5 d 1c 9 8 2 8 9 2 2 2 d 48 2 3 d 1 2 d 9 1 2 7 d 4
   2 1 d 6 2 1 d 2 9 1 2 2 d 5i 2 1s d ej 1 1 2 1 c 1 1 2 d o 1 7 d 1d 1 g d 2o 2 x d 2da 2 3 d
   3x 2 1 d 2o 2 w d fe 2 6 d 2x 2 2 d n9w 2 4 d 1 2 a d w 2 2 d 28 2 2 d 7k 2 1 d 3 2 1 d 4 2 1
   d n 9 2 2 2 9 1 d 4 2 1 d 2b 9 2 d 1e 9 g 2 2 d q 2 i d d 2 1 d 12 2 8 d p 2 b 9 1 2 1 d c 3
   t d 3 2 3 9 1 d 1b 2 1 9 2 2 4 9 2 2 2 9 2 2 1 d 10 2 1 d 1v 2 6 9 2 2 2 9 2 2 2 d c 2 1 d 8
   2 1 9 1 d 1a 2 1 d 1f 2 1 d 1 2 3 d 2 2 2 d 5 2 2 d 1 2 1 d 15 9 1 2 2 9 2 d 5 9 1 2 1 d 6k 9
   2 2 1 9 2 2 1 9 2 d 1 9 1 2 1 d i 5 1 6 r 5 1 6 r 5 1 6 r 5 1 6 r 5 1 6 r 5 1 6 r 5 1 6 r 5 1
   6 r 5 1 6 r 5 1 6 r 5 1 6 r 5 1 6 r 5 1 6 r 5 1 6 r 5 1 6 r 5 1 6 r 5 1 6 r 5 1 6 r 5 1 6 r 5
   1 6 r 5 1 6 r 5 1 6 r 5 1 6 r 5 1 6 r 5 1 6 r 5 1 6 r 5 1 6 r 5 1 6 r 5 1 6 r 5 1 6 r 5 1 6 r
   5 1 6 r 5 1 6 r 5 1 6 r 5 1 6 r 5 1 6 r 5 1 6 r 5 1 6 r 5 1 6 r 5 1 6 r 5 1 6 r 5 1 6 r 5 1 6
   r 5 1 6 r 5 1 6 r 5 1 6 r 5 1 6 r 5 1 6 r 5 1 6 r 5 1 6 r 5 1 6 r 5 1 6 r 5 1 6 r 5 1 6 r 5 1
   6 r 5 1 6 r 5 1 6 r 5 1 6 r 5 1 6 r 5 1 6 r 5 1 6 r 5 1 6 r 5 1 6 r 5 1 6 r 5 1 6 r 5 1 6 r 5
   1 6 r 5 1 6 r 5 1 6 r 5 1 6 r 5 1 6 r 5 1 6 r 5 1 6 r 5 1 6 r 5 1 6 r 5 1 6 r 5 1 6 r 5 1 6 r
   5 1 6 r 5 1 6 r 5 1 6 r 5 1 6 r 5 1 6 r 5 1 6 r 5 1 6 r 5 1 6 r 5 1 6 r 5 1 6 r 5 1 6 r 5 1 6
   r 5 1 6 r 5 1 6 r 5 1 6 r 5 1 6 r 5 1 6 r 5 1 6 r 5 1 6 r 5 1 6 r 5 1 6 r 5 1 6 r 5 1 6 r 5 1
   6 r 5 1 6 r 5 1 6 r 5 1 6 r 5 1 6 r 5 1 6 r 5 1 6 r 5 1 6 r 5 1 6 r 5 1 6 r 5 1 6 r 5 1 6 r 5
   1 6 r 5 1 6 r 5 1 6 r 5 1 6 r 5 1 6 r 5 1 6 r 5 1 6 r 5 1 6 r 5 1 6 r 5 1 6 r 5 1 6 r 5 1 6 r
   5 1 6 r 5 1 6 r 5 1 6 r 5 1 6 r 5 1 6 r 5 1 6 r 5 1 6 r 5 1 6 r 5 1 6 r 5 1 6 r 5 1 6 r 5 1 6
   r 5 1 6 r 5 1 6 r 5 1 6 r 5 1 6 r 5 1 6 r 5 1 6 r 5 1 6 r 5 1 6 r 5 1 6 r 5 1 6 r 5 1 6 r 5 1
   6 r 5 1 6 r 5 1 6 r 5 1 6 r 5 1 6 r 5 1 6 r 5 1 6 r 5 1 6 r 5 1 6 r 5 1 6 r 5 1 6 r 5 1 6 r 5
   1 6 r 5 1 6 r 5 1 6 r 5 1 6 r 5 1 6 r 5 1 6 r 5 1 6 r 5 1 6 r 5 1 6 r 5 1 6 r 5 1 6 r 5 1 6 r
   5 1 6 r 5 1 6 r 5 1 6 r 5 1 6 r 5 1 6 r 5 1 6 r 5 1 6 r 5 1 6 r 5 1 6 r 5 1 6 r 5 1 6 r 5 1 6
   r 5 1 6 r 5 1 6 r 5 1 6 r 5 1 6 r 5 1 6 r 5 1 6 r 5 1 6 r 5 1 6 r 5 1 6 r 5 1 6 r 5 1 6 r 5 1
   6 r 5 1 6 r 5 1 6 r 5 1 6 r 5 1 6 r 5 1 6 r 5 1 6 r 5 1 6 r 5 1 6 r 5 1 6 r 5 1 6 r 5 1 6 r 5
   1 6 r 5 1 6 r 5 1 6 r 5 1 6 r 5 1 6 r 5 1 6 r 5 1 6 r 5 1 6 r 5 1 6 r 5 1 6 r 5 1 6 r 5 1 6 r
   5 1 6 r 5 1 6 r 5 1 6 r 5 1 6 r 5 1 6 r 5 1 6 r 5 1 6 r 5 1 6 r 5 1 6 r 5 1 6 r 5 1 6 r 5 1 6
   r 5 1 6 r 5 1 6 r 5 1 6 r 5 1 6 r 5 1 6 r 5 1 6 r 5 1 6 r 5 1 6 r 5 1 6 r 5 1 6 r 5 1 6 r 5 1
   6 r 5 1 6 r 5 1 6 r 5 1 6 r 5 1 6 r 5 1 6 r 5 1 6 r 5 1 6 r 5 1 6 r 5 1 6 r 5 1 6 r 5 1 6 r 5
   1 6 r 5 1 6 r 5 1 6 r 5 1 6 r 5 1 6 r 5 1 6 r 5 1 6 r 5 1 6 r 5 1 6 r 5 1 6 r 5 1 6 r 5 1 6 r
   5 1 6 r 5 1 6 r 5 1 6 r 5 1 6 r 5 1 6 r 5 1 6 r 5 1 6 r 5 1 6 r 5 1 6 r 5 1 6 r 5 1 6 r 5 1 6
   r 5 1 6 r 5 1 6 r 5 1 6 r 5 1 6 r 5 1 6 r 5 1 6 r 5 1 6 r 5 1 6 r 5 1 6 r 5 1 6 r 5 1 6 r 5 1
   6 r 5 1 6 r 5 1 6 r 5 1 6 r 5 1 6 r 5 1 6 r 5 1 6 r 5 1 6 r 5 1 6 r 5 1 6 r 5 1 6 r 5 1 6 r 5
   1 6 r 5 1 6 r 5 1 6 r 5 1 6 r 5 1 6 r 5 1 6 r 5 1 6 r 5 1 6 r 5 1 6 r 5 1 6 r 5 1 6 r 5 1 6 r
   5 1 6 r 5 1 6 r 5 1 6 r 5 1 6 r 5 1 6 r 5 1 6 r 5 1 6 r 5 1 6 r 5 1 6 r 5 1 6 r 5 1 6 r 5 1 6
   r 5 1 6 r 5 1 6 r 5 1 6 r 5 1 6 r 5 1 6 r 5 1 6 r 5 1 6 r 5 1 6 r 5 1 6 r 5 1 6 r 5 1 6 r 5 1
   6 r 5 1 6 r 5 1 6 r 5 1 6 r 5 1 6 r 5 1 6 r 5 1 6 r 5 1 6 r 5 1 6 r 5 1 6 r 5 1 6 r 5 1 6 r 5
   1 6 r 5 1 6 r 5 1 6 r 5 1 6 r 5 1 6 r 5 1 6 r 5 1 6 r 5 1 6 r 5 1 6 r 5 1 6 r 5 1 6 r 5 1 6 r
   5 1 6 r 5 1 6 r 5 1 6 r 5 1 6 r 5 1 6 r 5 1 6 r 5 1 6 r 5 1 6 r 5 1 6 r 5 1 6 r 5 1 6 r 5 1 6
   r 5 1 6 r 5 1 6 r 5 1 6 r 5 1 6 r 5 1 6 r 5 1 6 r 5 1 6 r 5 1 6 r 5 1 6 r 5 1 6 r 5 1 6 r 5 1
   6 r 5 1 6 r 5 1 6 r 5 1 6 r 5 1 6 r 5 1 6 r 5 1 6 r 5 1 6 r 5 1 6 r 5 1 6 r 5 1 6 r 5 1 6 r 5
   1 6 r 5 1 6 r 5 1 6 r 5 1 6 r d c b n d 4 a 1d d 6xu 2 1 d kh 2 g d g 2 g d 5r 1 1 d 4e 2 2 d
   28 1 c d e9 2 1 d 6a 2 1 d 45 2 5 d 1ae 2 3 d 1 2 2 d 5 2 4 d 14 2 3 d 4 2 1 d 4l 2 2 d fx 2
   4 d 1t 2 5 d 8t 2 2 d 27 2 4 d 1y 2 b d 1d 2 4 d 3e 9 1 2 1 9 1 d 1h 2 f d 15 2 1 d 2 2 2 d a
   2 3 9 1 d 19 9 3 2 4 9 2 2 2 d 2 7 1 d 4 2 1 d a 7 1 d 1e 2 3 d 10 2 5 9 1 2 8 d g 9 2 d 18 2
   1 d c 2 2 9 1 d 1c 9 3 2 9 9 1 2 1 d 1 7 2 d 5 2 4 d 1 9 1 2 1 d 2k 9 3 2 3 9 2 2 4 d 6 2 1 d
   2 2 1 d 4d 2 1 9 3 2 8 d l 2 2 9 2 d 1j 2 2 d 1 2 1 9 1 2 1 9 4 d 2 9 2 d 2 9 2 2 1 d 9 2 1 d
   a 9 2 d 2 2 7 d 3 2 5 d 1v 2 1 9 2 2 6 d 1 2 1 d 2 2 1 d 1 2 3 9 1 d 1 9 2 2 3 7 1 2 1 d e 2
   2 d 2a 9 3 2 8 9 2 2 3 9 1 2 1 d n 2 1 d 29 2 1 9 2 2 6 9 1 2 1 9 2 2 1 9 1 2 2 9 1 2 2 d 6j
   2 1 9 2 2 4 d 2 9 4 2 2 9 1 2 2 d r 2 2 d 2a 9 3 2 8 9 2 2 1 9 1 2 2 d 2y 2 1 9 1 2 1 9 2 2 8
   d 2t 2 1 9 1 2 1 d 2 2 4 9 1 2 5 d 74 9 3 2 9 9 1 2 2 d 6t 2 1 9 5 d 1 9 2 d 2 2 4 7 1 9 1 7
   1 9 1 2 1 d 3x 9 3 2 4 d 2 2 2 9 4 2 1 d 3 9 1 d s 2 a d 14 2 6 9 1 7 1 2 4 d 8 2 1 d 9 2 6 9
   2 2 3 d 14 7 6 2 d 9 1 2 2 d b9 9 1 2 7 d 1 2 6 9 1 2 1 d 2a 2 m d 1 9 1 2 7 9 1 2 2 9 1 2 2
   d 3e 2 6 d 3 2 1 d 1 2 2 d 1 2 7 7 1 2 1 d 1u 9 5 d 1 2 2 d 1 9 2 2 1 9 1 2 1 d 9n 2 2 9 2 d
   9 2 2 7 1 9 1 d 1c 9 2 2 5 d 3 9 2 2 3 d n 2 1 d 445 1 g 2 1 d 6 2 f d 8ug 2 c 9 3 2 3 d 1xc
   2 5 d 1n 2 7 d fg b 1 d 3 b 4 d dg 2 1 d 1 9 1j d 7 2 4 d 29 2 1 d b 2 2 d f57 2 2 d 1 1 4 d
   3mk 2 1a d 2 2 n d f2 2 5 d 3 2 6 1 8 2 8 d 2 2 7 d u 2 4 d 44 2 3 d 1iz 2 1j d 4 2 1e d 8 2
   1 d e 2 1 d m 2 5 d 1 2 f d 11s 2 7 d 1 2 h d 2 2 7 d 1 2 2 d 1 2 5 d 2s 2 1 d 4g 2 7 d af 2
   1 d 1p 2 4 d e4 2 4 d 72 2 2 d kg 2 7 d 31 2 7 d 1p7 8 q d e3 2 5 d gx6o 1 w 2 2o 1 3k 2 6o 1
   2s0 d 44jk"

def wordNames : List (List String) :=
  [["aletter", "le"], ["cr"], ["doublequote", "dq"], ["extend"], ["extendnumlet", "ex"],
   ["format", "fo"], ["hebrewletter", "hl"], ["katakana", "ka"], ["lf"], ["midletter", "ml"],
   ["midnum", "mn"], ["midnumlet", "mb"], ["newline", "nl"], ["numeric", "nu"],
   ["regionalindicator", "ri"], ["singlequote", "sq"], ["wsegspace"], ["zwj"]]

def wordPartition : Partition := .ofTable
  "i a 8 1 c 2 1 1 i i g 1 i 1 2 1 i 4 f 1 i 4 a 1 i 1 b 1 i 1 d a 9 1 a 1 i 5 0 q i 4 4 1 i 1 0
   q i a c 1 i 10 0 1 i 2 5 1 i 7 0 1 i 1 9 1 i 2 0 1 i 5 0 n i 1 0 v i 1 0 dc i 6 0 y 3 34 0 5
   i 1 0 2 i 2 0 4 a 1 0 1 i 6 0 1 9 1 0 3 i 1 0 1 i 1 0 k i 1 0 2b i 1 0 3v i 1 3 7 0 4m i 1 0
   12 i 2 0 4 i 1 0 1 9 1 0 15 a 1 0 1 i 6 3 19 i 1 3 1 i 1 3 2 i 1 3 2 i 1 3 1 i 8 6 r i 4 6 4
   0 1 9 1 i b d 6 i 6 a 2 i 2 3 b i 1 5 1 i 3 0 17 3 l d a i 1 d 1 a 1 i 1 0 2 3 1 0 2r i 1 0 1
   3 7 d 1 i 1 3 6 0 2 3 2 i 1 3 4 0 2 d a 0 3 i 2 0 1 i f 0 2 3 1 0 u 3 r i 2 0 2h 3 b 0 1 i e
   d a 0 x 3 9 0 2 i 2 a 1 i 1 0 1 i 2 3 1 i 2 0 m 3 4 0 1 3 9 0 1 3 3 0 1 3 5 i i 0 p 3 3 i 4 0
   b i 5 0 o i 1 0 6 i 1 d 2 i 5 3 9 0 16 3 o d 1 3 x 0 1i 3 3 0 1 3 i 0 1 3 7 0 a 3 2 i 2 d a i
   1 0 g 3 3 i 1 0 8 i 2 0 2 i 2 0 m i 1 0 7 i 1 0 1 i 3 0 4 i 2 3 1 0 1 3 7 i 2 3 2 i 2 3 3 0 1
   i 8 3 1 i 4 0 2 i 1 0 3 3 2 i 2 d a 0 2 i a 0 1 i 1 3 1 i 2 3 3 i 1 0 6 i 4 0 2 i 2 0 m i 1 0
   7 i 1 0 2 i 1 0 2 i 1 0 2 i 2 3 1 i 1 3 5 i 4 3 2 i 2 3 3 i 3 3 1 i 7 0 4 i 1 0 1 i 7 d a 3 2
   0 3 3 1 i b 3 3 i 1 0 9 i 1 0 3 i 1 0 m i 1 0 7 i 1 0 2 i 1 0 5 i 2 3 1 0 1 3 8 i 1 3 3 i 1 3
   3 i 2 0 1 i f 0 2 3 2 i 2 d a i 9 0 1 3 6 i 1 3 3 i 1 0 8 i 2 0 2 i 2 0 m i 1 0 7 i 1 0 2 i 1
   0 5 i 2 3 1 0 1 3 7 i 2 3 2 i 2 3 3 i 7 3 3 i 4 0 2 i 1 0 3 3 2 i 2 d a i 1 0 1 i g 3 1 0 1 i
   1 0 6 i 3 0 3 i 1 0 4 i 3 0 2 i 1 0 1 i 1 0 2 i 3 0 2 i 3 0 3 i 3 0 c i 4 3 5 i 3 3 3 i 1 3 4
   i 2 0 1 i 6 3 1 i e d a i g 3 5 0 8 i 1 0 3 i 1 0 n i 1 0 g i 2 3 1 0 1 3 7 i 1 3 3 i 1 3 4 i
   7 3 2 i 1 0 3 i 2 0 1 i 2 0 2 3 2 i 2 d a i g 0 1 3 3 i 1 0 8 i 1 0 3 i 1 0 n i 1 0 a i 1 0 5
   i 2 3 1 0 1 3 7 i 1 3 3 i 1 3 4 i 7 3 2 i 6 0 2 i 1 0 2 3 2 i 2 d a i 1 0 2 3 1 i c 3 4 0 9 i
   1 0 3 i 1 0 15 3 2 0 1 3 7 i 1 3 3 i 1 3 4 0 1 i 5 0 3 3 1 i 7 0 3 3 2 i 2 d a i a 0 6 i 1 3
   3 i 1 0 i i 3 0 o i 1 0 9 i 1 0 1 i 2 0 7 i 3 3 1 i 4 3 6 i 1 3 1 i 1 3 8 i 6 d a i 2 3 2 i
   1p 3 1 i 2 3 7 i c 3 8 i 1 d a i 2f 3 1 i 2 3 9 i b 3 7 i 1 d a i 12 0 1 i n 3 2 i 6 d a i b
   3 1 i 1 3 1 i 1 3 1 i 4 3 2 0 8 i 1 0 10 i 4 3 k i 1 3 2 0 5 3 b i 1 3 10 i 9 3 1 i 2s 3 k i
   1 d a i c 3 4 i 4 3 3 i 1 3 3 i 2 3 7 i 3 3 4 i d 3 c i 1 3 1 d a 3 4 i 2 0 12 i 1 0 1 i 5 0
   1 i 2 0 17 i 1 0 99 i 1 0 4 i 2 0 7 i 1 0 1 i 1 0 4 i 2 0 15 i 1 0 4 i 2 0 x i 1 0 4 i 2 0 7
   i 1 0 1 i 1 0 4 i 2 0 f i 1 0 1l i 1 0 4 i 2 0 1v i 2 3 3 i w 0 g i g 0 2e i 2 0 6 i 3 0 h8 i
   2 0 h g 1 0 q i 5 0 23 i 3 0 b i 7 0 i 3 4 i 9 0 j 3 3 i b 0 i 3 2 i c 0 d i 1 0 3 i 1 3 2 i
   1s 3 w i 9 3 1 i 2 d a i x 3 3 5 1 3 1 d a i 6 0 2h i 7 0 5 3 2 0 y 3 1 0 1 i 5 0 1y i a 0 v
   i 1 3 c i 4 3 c i a d a i 3k d b i 11 0 n 3 5 i 1l 3 a i 1 3 t i 2 3 1 d a i 6 d a i m 3 v i
   1d 3 5 0 1b 3 h 0 8 i 3 d a i h 3 9 i c 3 3 0 u 3 d 0 2 d a 0 18 3 e i c 0 10 3 k i 8 d a i 3
   0 3 d a 0 10 i 2 0 b i 5 0 17 i 2 0 3 i g 3 3 i 1 3 l 0 4 3 1 0 6 3 1 0 2 3 3 0 1 i 5 0 5c 3
   1s 0 7q i 2 0 6 i 2 0 12 i 2 0 6 i 2 0 8 i 1 0 1 i 1 0 1 i 1 0 1 i 1 0 v i 2 0 1h i 1 0 7 i 1
   0 1 i 3 0 3 i 1 0 7 i 3 0 4 i 2 0 6 i 4 0 d i 5 0 3 i 1 0 7 i 3 g 7 i 1 g 3 i 1 3 1 h 1 5 2 i
   8 b 2 i a b 1 i 2 9 1 c 2 5 5 4 1 i f 4 2 i 3 a 1 i f 4 1 i a g 1 5 5 i 1 5 a i 1 0 1 i d 0 1
   i g 0 d i 1f 3 x i h 0 1 i 4 0 1 i 2 0 a i 1 0 1 i 3 0 5 i 6 0 1 i 1 0 1 i 1 0 1 i 1 0 4 i 1
   0 b i 2 0 4 i 5 0 5 i 4 0 1 i h 0 15 i ml 0 1g i 1ee 0 6d i 6 0 4 3 3 0 2 i c 0 12 i 1 0 1 i
   5 0 1 i 2 0 1k i 7 0 1 i f 3 1 0 n i 9 0 7 i 1 0 7 i 1 0 7 i 1 0 7 i 1 0 7 i 1 0 7 i 1 0 7 i
   1 0 7 i 1 3 w i 1b 0 1 i cw g 1 i 4 0 1 i 10 3 6 i 1 7 5 i 5 0 2 i 2k 3 2 7 2 i 3 7 2j i 1 7
   4 i 5 0 17 i 1 0 2m i h 0 w i 1c 7 g i 5s 7 1b i 1 7 2g i lgo 0 wd i 1v 0 1a i 2 0 7h i 3 0 g
   d a 0 2 i k 0 1b 3 4 i 1 3 a i 1 0 v 3 2 0 28 3 2 i m 0 5i i 2 0 2 i 1 0 1 i 1 0 8 i l 0 g 3
   1 0 3 3 1 0 4 3 1 0 n 3 5 i 4 3 1 i j 0 1g i c 3 2 0 1e 3 i i a d a i 6 3 i 0 6 i 3 0 1 i 1 0
   2 3 1 d a 0 s 3 8 i 2 0 n 3 d i c 0 t i 3 3 4 0 1b 3 e i e 0 1 d a i b 3 1 i a d a i 6 0 15 3
   e i 9 0 3 3 1 0 8 3 2 i 2 d a i x 3 3 i 1e 3 1 i 1 3 3 i 2 3 2 i 5 3 2 i 1 3 1 i u 0 b 3 5 i
   2 0 3 3 2 i a 0 6 i 2 0 6 i 2 0 6 i 9 0 7 i 1 0 7 i 1 0 1m i 6 0 37 3 8 i 1 3 2 i 2 d a i 6 0
   8mc i c 0 n i 4 0 1d i 6x0 0 7 i c 0 5 i 5 6 1 3 1 6 a i 1 6 d i 1 6 5 i 1 6 1 i 1 6 2 i 1 6
   2 i 1 6 a 0 2q i x 0 a3 i i 0 1s i 2 0 1i i 14 0 c i 4 3 g i 3 9 1 i c 3 g i 3 4 2 i o 4 3 a
   1 i 1 b 1 i 1 a 1 9 1 i q 0 5 i 1 0 3r i 2 5 1 i 7 b 1 i 4 a 1 i 1 b 1 i 1 d a 9 1 a 1 i 5 0
   q i 4 4 1 i 1 0 q i b 7 1k 3 2 0 v i 3 0 6 i 2 0 6 i 2 0 6 i 2 0 3 i s 5 3 i 4 0 c i 1 0 q i
   1 0 j i 1 0 2 i 1 0 f i 2 0 e i y 0 3f i 1x 0 1h i 3s 3 1 i 3m 0 t i 3 0 1d i f 3 1 i v 0 w i
   d 0 u i 5 0 12 3 5 i 5 0 u i 2 0 10 i 4 0 8 i 1 0 5 i 16 0 4e i 2 d a i 6 0 10 i 4 0 10 i 4 0
   14 i 8 0 1g i c 0 b i 1 0 f i 1 0 7 i 1 0 2 i 1 0 b i 1 0 f i 1 0 7 i 1 0 2 i 3 0 1g i c 0 8n
   i 9 0 m i a 0 8 i o 0 6 i 1 0 16 i 1 0 9 i 1x 0 6 i 2 0 1 i 1 0 18 i 1 0 2 i 3 0 1 i 2 0 n i
   a 0 n i 9 0 v i 1t 0 j i 1 0 2 i a 0 m i a 0 q i 1y 0 1k i 6 0 2 i 1s 0 1 3 3 i 1 3 2 i 5 3 4
   0 4 i 1 0 3 i 1 0 t i 2 3 3 i 4 3 1 i w 0 t i 3 0 t i z 0 8 i 1 0 s 3 2 i p 0 1i i a 0 m i a
   0 j i d 0 i i 32 0 21 i 1j 0 1f i d 0 1f i d 0 10 3 4 i 8 d a i 6 d a 0 s i 3 3 5 i 1 0 n i
   6y 0 16 i 1 3 2 i 3 0 2 i g 0 3 i 1j 3 4 0 t i a 0 1 i 8 0 m 3 b i v 0 i 3 4 i 16 0 l i r 0 n
   i 9 3 3 0 1h 3 f i v d a 3 1 0 2 3 2 0 1 i 9 3 4 0 19 3 b i 2 d 1 i 4 3 1 i a d 1 i 2 0 p i 7
   d a i 6 3 3 0 10 3 e i 1 d a i 4 0 1 3 2 0 1 i 8 0 z 3 1 i 2 0 1 i 9 3 3 0 1c 3 e 0 4 i 4 3 4
   i 1 3 2 d a 0 1 i 1 0 1 i z 0 i i 1 0 p 3 c i 6 3 1 0 2 3 1 i 1q 0 7 i 1 0 1 i 1 0 4 i 1 0 f
   i 1 0 a i 7 0 1b 3 c i 5 d a i 6 3 4 i 1 0 8 i 2 0 2 i 2 0 m i 1 0 7 i 1 0 2 i 1 0 5 i 1 3 2
   0 1 3 7 i 2 3 2 i 2 3 3 i 2 0 1 i 6 3 1 i 5 0 5 3 2 i 2 3 7 i 3 3 5 i b 0 a i 1 0 1 i 2 0 1 i
   1 0 12 i 1 0 1 3 9 i 1 3 1 i 2 3 1 i 1 3 4 i 1 3 5 0 1 3 1 0 1 i d 3 2 i t 0 1h 3 i 0 4 i 5 d
   a i 4 3 1 0 3 i u 0 1c 3 k 0 2 i 1 0 1 i 8 d a i 4m 0 1b 3 7 i 2 3 9 i n 0 4 3 2 i y 0 1c 3 h
   i 3 0 1 i b d a i 12 0 17 3 d 0 1 i 7 d a i 6 d k i 1l 3 f i 4 d a i 5i 0 18 3 f i 2t 0 1s d
   a i l 0 8 i 2 0 1 i 2 0 8 i 1 0 2 i 1 0 o 3 6 i 1 3 2 i 2 3 4 0 1 3 1 0 1 3 2 i c d a i 1y 0
   8 i 2 0 13 3 7 i 2 3 7 0 1 i 1 0 1 3 1 i r 0 1 3 a 0 14 3 7 0 1 3 4 i 8 3 1 i 8 0 1 3 b 0 1a
   3 g i 3 0 1 i i 0 21 i 5j 0 x i f d a i 6 0 9 i 1 0 11 3 8 i 1 3 8 0 1 i f d a i o 0 u i 2 3
   m i 1 3 e i 21 0 7 i 1 0 2 i 1 0 12 3 6 i 3 3 1 i 1 3 2 i 1 3 7 0 1 3 1 i 8 d a i 6 0 6 i 1 0
   2 i 1 0 w 3 5 i 1 3 2 i 1 3 5 0 1 i 7 d a i 8m 0 j 3 4 i 9 3 2 0 1 3 1 0 d i 1 0 y 3 7 i 3 3
   5 i d d a 3 1 i 2d 0 1 i 27 0 pm i 2u 0 33 i h 0 5g i 218 0 2p i f 0 ts 5 g 3 1 0 6 3 f i a 0
   32z i 5 0 g7 i 5a1 0 u 3 i d a i 1c6 0 ft i 7 0 v i 1 d a i 6 0 27 i 1 d a i 6 0 u i 2 3 5 i
   b 0 1c 3 7 i 9 0 4 i c d a i 9 0 l i 5 0 j i c0 0 19 i 3 d a i 5i 0 1s i 3k 0 23 i 4 3 1 0 1
   3 1j i 7 3 4 0 d i 1s 0 2 i 1 0 1 3 1 i b 3 2 i cn2 7 4 i 1 7 7 i 1 7 2 i 1 7 1 i 7z 7 3 i 1e
   7 1 i e 7 4 i 23c 0 2z i 5 0 d i 3 0 9 i 7 0 a i 3 3 2 i 1 5 4 i 37w d a i ee 3 1a i 2 3 n i
   f2 3 5 i 3 3 6 5 8 3 8 i 2 3 7 i u 3 4 i 44 3 3 i cb 0 2d i 1 0 1z i 1 0 2 i 2 0 1 i 2 0 2 i
   2 0 4 i 1 0 c i 1 0 1 i 1 0 7 i 1 0 1t i 1 0 4 i 2 0 8 i 1 0 7 i 1 0 s i 1 0 4 i 1 0 5 i 1 0
   1 i 3 0 7 i 1 0 9g i 2 0 p i 1 0 p i 1 0 v i 1 0 p i 1 0 v i 1 0 p i 1 0 v i 1 0 p i 1 0 v i
   1 0 p i 1 0 8 i 2 d 1e i e8 3 1j i 4 3 1e i 8 3 1 i e 3 1 i m 3 5 i 1 3 f i uo 0 v i 6 0 6 i
   5x 3 7 i 1 3 h i 2 3 7 i 1 3 2 i 1 3 5 i 5 0 1q i x 3 1 i 34 0 19 i 3 3 7 0 7 i 2 d a i 4 0 1
   i 8x 0 u 3 1 i h 0 18 3 4 d a i d2 0 s 3 4 d a i 5y 0 u 3 2 0 1 d a i dh 0 7 i 1 0 4 i 1 0 2
   i 1 0 f i 1 0 5h i b 3 7 i 15 0 1w 3 7 0 1 i 4 d a i x2 0 4 i 1 0 r i 1 0 2 i 1 0 1 i 2 0 1 i
   1 0 a i 1 0 4 i 1 0 1 i 1 0 1 i 6 0 1 i 4 0 1 i 1 0 1 i 1 0 1 i 1 0 3 i 1 0 2 i 1 0 1 i 2 0 1
   i 1 0 1 i 1 0 1 i 1 0 1 i 1 0 1 i 1 0 2 i 1 0 1 i 2 0 4 i 1 0 7 i 1 0 4 i 1 0 4 i 1 0 1 i 1 0
   a i 1 0 h i 5 0 3 i 1 0 5 i 1 0 h i hg 0 q i 6 0 q i 6 0 q i 2k e q i e3 3 5 i 1kg d a i gvlz
   5 1 i u 3 2o i 3k 3 6o i 47bk"

def sentenceNames : List (List String) :=
  [["aterm", "at"], ["cr"], ["close", "cl"], ["extend", "ex"], ["format", "fo"], ["lf"],
   ["lower", "lo"], ["numeric", "nu"], ["oletter", "le"], ["scontinue", "sc"], ["sterm", "st"],
   ["sep", "se"], ["sp"], ["upper", "up"]]

def sentencePartition : Partition := .ofTable
  "e 9 c 1 5 1 c 2 1 1 e i c 1 a 1 2 1 e 4 2 3 e 2 9 2 0 1 e 1 7 a 9 2 e 3 a 1 e 1 d q 2 1 e 1 2
   1 e 3 6 q 2 1 e 1 2 1 e 7 b 1 e q c 1 e 9 6 1 2 1 e 1 4 1 e 7 6 1 e 4 6 1 2 1 e 4 d n e 1 d 7
   6 o e 1 6 8 d 1 6 1 d 1 6 1 d 1 6 1 d 1 6 1 d 1 6 1 d 1 6 1 d 1 6 1 d 1 6 1 d 1 6 1 d 1 6 1 d
   1 6 1 d 1 6 1 d 1 6 1 d 1 6 1 d 1 6 1 d 1 6 1 d 1 6 1 d 1 6 1 d 1 6 1 d 1 6 1 d 1 6 1 d 1 6 1
   d 1 6 1 d 1 6 1 d 1 6 1 d 1 6 1 d 1 6 1 d 1 6 2 d 1 6 1 d 1 6 1 d 1 6 1 d 1 6 1 d 1 6 1 d 1 6
   1 d 1 6 1 d 1 6 2 d 1 6 1 d 1 6 1 d 1 6 1 d 1 6 1 d 1 6 1 d 1 6 1 d 1 6 1 d 1 6 1 d 1 6 1 d 1
   6 1 d 1 6 1 d 1 6 1 d 1 6 1 d 1 6 1 d 1 6 1 d 1 6 1 d 1 6 1 d 1 6 1 d 1 6 1 d 1 6 1 d 1 6 1 d
   1 6 1 d 1 6 1 d 2 6 1 d 1 6 1 d 1 6 3 d 2 6 1 d 1 6 1 d 2 6 1 d 3 6 2 d 4 6 1 d 2 6 1 d 3 6 3
   d 2 6 1 d 2 6 1 d 1 6 1 d 1 6 1 d 2 6 1 d 1 6 2 d 1 6 1 d 2 6 1 d 3 6 1 d 1 6 1 d 2 6 2 8 1 d
   1 6 3 8 4 d 2 6 1 d 2 6 1 d 2 6 1 d 1 6 1 d 1 6 1 d 1 6 1 d 1 6 1 d 1 6 1 d 1 6 1 d 1 6 1 d 1
   6 2 d 1 6 1 d 1 6 1 d 1 6 1 d 1 6 1 d 1 6 1 d 1 6 1 d 1 6 1 d 1 6 1 d 1 6 2 d 2 6 1 d 1 6 1 d
   3 6 1 d 1 6 1 d 1 6 1 d 1 6 1 d 1 6 1 d 1 6 1 d 1 6 1 d 1 6 1 d 1 6 1 d 1 6 1 d 1 6 1 d 1 6 1
   d 1 6 1 d 1 6 1 d 1 6 1 d 1 6 1 d 1 6 1 d 1 6 1 d 1 6 1 d 1 6 1 d 1 6 1 d 1 6 1 d 1 6 1 d 1 6
   1 d 1 6 1 d 1 6 1 d 1 6 1 d 1 6 1 d 1 6 1 d 1 6 7 d 2 6 1 d 2 6 2 d 1 6 1 d 4 6 1 d 1 6 1 d 1
   6 1 d 1 6 1 d 1 6 1x 8 1 6 10 8 7 6 2 e 4 8 c e e 6 5 e 7 8 1 e 1 8 1 e h 3 34 d 1 6 1 d 1 6
   1 8 1 e 1 d 1 6 1 e 2 6 4 9 1 d 1 e 6 d 1 e 1 d 3 e 1 d 1 e 1 d 2 6 1 d h e 1 d 9 6 z d 1 6 2
   d 3 6 3 d 1 6 1 d 1 6 1 d 1 6 1 d 1 6 1 d 1 6 1 d 1 6 1 d 1 6 1 d 1 6 1 d 1 6 1 d 1 6 1 d 1 6
   1 d 1 6 5 d 1 6 1 e 1 d 1 6 1 d 2 6 2 d 1f 6 1c d 1 6 1 d 1 6 1 d 1 6 1 d 1 6 1 d 1 6 1 d 1 6
   1 d 1 6 1 d 1 6 1 d 1 6 1 d 1 6 1 d 1 6 1 d 1 6 1 d 1 6 1 d 1 6 1 d 1 6 1 d 1 6 1 d 1 6 1 e 1
   3 7 d 1 6 1 d 1 6 1 d 1 6 1 d 1 6 1 d 1 6 1 d 1 6 1 d 1 6 1 d 1 6 1 d 1 6 1 d 1 6 1 d 1 6 1 d
   1 6 1 d 1 6 1 d 1 6 1 d 1 6 1 d 1 6 1 d 1 6 1 d 1 6 1 d 1 6 1 d 1 6 1 d 1 6 1 d 1 6 1 d 1 6 1
   d 1 6 1 d 1 6 1 d 1 6 1 d 1 6 1 d 2 6 1 d 1 6 1 d 1 6 1 d 1 6 1 d 1 6 1 d 1 6 1 d 1 6 2 d 1 6
   1 d 1 6 1 d 1 6 1 d 1 6 1 d 1 6 1 d 1 6 1 d 1 6 1 d 1 6 1 d 1 6 1 d 1 6 1 d 1 6 1 d 1 6 1 d 1
   6 1 d 1 6 1 d 1 6 1 d 1 6 1 d 1 6 1 d 1 6 1 d 1 6 1 d 1 6 1 d 1 6 1 d 1 6 1 d 1 6 1 d 1 6 1 d
   1 6 1 d 1 6 1 d 1 6 1 d 1 6 1 d 1 6 1 d 1 6 1 d 1 6 1 d 1 6 1 d 1 6 1 d 1 6 1 d 1 6 1 d 1 6 1
   d 1 6 1 d 1 6 1 d 1 6 1 d 1 6 1 d 1 6 1 d 1 6 1 d 1 6 1 d 1 6 1 d 1 6 1 d 1 6 1 d 1 6 1 d 1 6
   1 e 1 d 12 e 2 8 1 e 3 9 1 e 2 6 15 a 1 e 7 3 19 e 1 3 1 e 1 3 2 e 1 3 2 e 1 3 1 e 8 8 r e 4
   8 5 e c 7 6 e 6 9 2 e 2 3 b e 1 4 1 a 3 8 17 3 l 7 a e 1 7 2 e 1 8 2 3 1 8 2r a 1 8 1 3 7 7 1
   e 1 3 6 8 2 3 2 e 1 3 4 8 2 7 a 8 3 e 2 8 1 a 3 e c 4 1 8 1 3 1 8 u 3 r e 2 8 2h 3 b 8 1 e e
   7 a 8 x 3 9 8 2 e 2 9 1 a 1 8 1 e 2 3 1 e 2 8 m 3 4 8 1 3 9 8 1 3 3 8 1 3 5 e 9 a 1 e 1 a 1 e
   3 a 2 e 1 8 p 3 3 e 4 8 b e 5 8 o e 1 8 6 e 1 7 2 e 5 3 9 8 16 3 o 7 1 3 x 8 1i 3 3 8 1 3 i 8
   1 3 7 8 a 3 2 a 2 7 a e 1 8 g 3 3 e 1 8 8 e 2 8 2 e 2 8 m e 1 8 7 e 1 8 1 e 3 8 4 e 2 3 1 8 1
   3 7 e 2 3 2 e 2 3 3 8 1 e 8 3 1 e 4 8 2 e 1 8 3 3 2 e 2 7 a 8 2 e a 8 1 e 1 3 1 e 2 3 3 e 1 8
   6 e 4 8 2 e 2 8 m e 1 8 7 e 1 8 2 e 1 8 2 e 1 8 2 e 2 3 1 e 1 3 5 e 4 3 2 e 2 3 3 e 3 3 1 e 7
   8 4 e 1 8 1 e 7 7 a 3 2 8 3 3 1 e b 3 3 e 1 8 9 e 1 8 3 e 1 8 m e 1 8 7 e 1 8 2 e 1 8 5 e 2 3
   1 8 1 3 8 e 1 3 3 e 1 3 3 e 2 8 1 e f 8 2 3 2 e 2 7 a e 9 8 1 3 6 e 1 3 3 e 1 8 8 e 2 8 2 e 2
   8 m e 1 8 7 e 1 8 2 e 1 8 5 e 2 3 1 8 1 3 7 e 2 3 2 e 2 3 3 e 7 3 3 e 4 8 2 e 1 8 3 3 2 e 2 7
   a e 1 8 1 e g 3 1 8 1 e 1 8 6 e 3 8 3 e 1 8 4 e 3 8 2 e 1 8 1 e 1 8 2 e 3 8 2 e 3 8 3 e 3 8 c
   e 4 3 5 e 3 3 3 e 1 3 4 e 2 8 1 e 6 3 1 e e 7 a e g 3 5 8 8 e 1 8 3 e 1 8 n e 1 8 g e 2 3 1 8
   1 3 7 e 1 3 3 e 1 3 4 e 7 3 2 e 1 8 3 e 2 8 1 e 2 8 2 3 2 e 2 7 a e g 8 1 3 3 e 1 8 8 e 1 8 3
   e 1 8 n e 1 8 a e 1 8 5 e 2 3 1 8 1 3 7 e 1 3 3 e 1 3 4 e 7 3 2 e 6 8 2 e 1 8 2 3 2 e 2 7 a e
   1 8 2 3 1 e c 3 4 8 9 e 1 8 3 e 1 8 15 3 2 8 1 3 7 e 1 3 3 e 1 3 4 8 1 e 5 8 3 3 1 e 7 8 3 3
   2 e 2 7 a e a 8 6 e 1 3 3 e 1 8 i e 3 8 o e 1 8 9 e 1 8 1 e 2 8 7 e 3 3 1 e 4 3 6 e 1 3 1 e 1
   3 8 e 6 7 a e 2 3 2 e d 8 1c 3 1 8 2 3 7 e 5 8 7 3 8 e 1 7 a e 13 8 2 e 1 8 1 e 1 8 5 e 1 8 o
   e 1 8 1 e 1 8 a 3 1 8 2 3 9 8 1 e 2 8 5 e 1 8 1 e 1 3 7 e 1 7 a e 2 8 4 e w 8 1 e n 3 2 e 6 7
   a e b 3 1 e 1 3 1 e 1 3 1 2 4 3 2 8 8 e 1 8 10 e 4 3 k e 1 3 2 8 5 3 b e 1 3 10 e 9 3 1 e 1l
   8 17 3 k 8 1 7 a a 2 e 4 8 6 3 4 8 4 3 3 8 1 3 3 8 2 3 7 8 3 3 4 8 d 3 c 8 1 3 1 7 a 3 4 e 2
   d 12 e 1 d 1 e 5 d 1 e 2 8 17 e 1 6 1 8 98 e 1 8 4 e 2 8 7 e 1 8 1 e 1 8 4 e 2 8 15 e 1 8 4 e
   2 8 x e 1 8 4 e 2 8 7 e 1 8 1 e 1 8 4 e 2 8 f e 1 8 1l e 1 8 4 e 2 8 1v e 2 3 3 e 2 a 1 e 4 a
   2 e n 8 g e g d 2e e 2 6 6 e 3 8 h8 e 1 a 1 8 h c 1 8 q 2 2 e 3 8 23 e 3 8 b e 7 8 i 3 4 e 9
   8 j 3 3 a 2 e 9 8 i 3 2 e c 8 d e 1 8 3 e 1 3 2 e c 8 1g 3 w a 2 e 1 8 1 e 4 8 1 3 1 e 2 7 a
   e o 9 1 a 1 e 4 9 1 a 1 e 1 3 3 4 1 3 1 7 a e 6 8 2h e 7 8 5 3 2 8 y 3 1 8 1 e 5 8 1y e a 8 v
   e 1 3 c e 4 3 c e 8 a 2 7 a 8 u e 2 8 5 e b 8 18 e 4 8 q e 6 7 b e 11 8 n 3 5 e 4 8 1h 3 a e
   1 3 t e 2 3 1 7 a e 6 7 a e d 8 1 a 4 e 4 3 v e 1d 3 5 8 1b 3 h 8 8 e 1 a 2 7 a a 2 e 2 a 2 e
   b 3 9 e 9 a 3 3 3 8 u 3 d 8 2 7 a 8 18 3 e e c 8 10 3 k e 3 a 2 e 3 7 a e 3 8 3 7 a 8 10 a 2
   6 9 d 1 6 1 e 5 8 17 e 2 8 3 e g 3 3 e 1 3 l 8 4 3 1 8 6 3 1 8 2 3 3 8 1 e 5 6 5c 3 1s d 1 6
   1 d 1 6 1 d 1 6 1 d 1 6 1 d 1 6 1 d 1 6 1 d 1 6 1 d 1 6 1 d 1 6 1 d 1 6 1 d 1 6 1 d 1 6 1 d 1
   6 1 d 1 6 1 d 1 6 1 d 1 6 1 d 1 6 1 d 1 6 1 d 1 6 1 d 1 6 1 d 1 6 1 d 1 6 1 d 1 6 1 d 1 6 1 d
   1 6 1 d 1 6 1 d 1 6 1 d 1 6 1 d 1 6 1 d 1 6 1 d 1 6 1 d 1 6 1 d 1 6 1 d 1 6 1 d 1 6 1 d 1 6 1
   d 1 6 1 d 1 6 1 d 1 6 1 d 1 6 1 d 1 6 1 d 1 6 1 d 1 6 1 d 1 6 1 d 1 6 1 d 1 6 1 d 1 6 1 d 1 6
   1 d 1 6 1 d 1 6 1 d 1 6 1 d 1 6 1 d 1 6 1 d 1 6 1 d 1 6 1 d 1 6 1 d 1 6 1 d 1 6 1 d 1 6 1 d 1
   6 1 d 1 6 1 d 1 6 1 d 1 6 1 d 1 6 1 d 1 6 1 d 1 6 1 d 1 6 1 d 1 6 1 d 1 6 1 d 1 6 1 d 1 6 1 d
   1 6 1 d 1 6 1 d 1 6 1 d 1 6 9 d 1 6 1 d 1 6 1 d 1 6 1 d 1 6 1 d 1 6 1 d 1 6 1 d 1 6 1 d 1 6 1
   d 1 6 1 d 1 6 1 d 1 6 1 d 1 6 1 d 1 6 1 d 1 6 1 d 1 6 1 d 1 6 1 d 1 6 1 d 1 6 1 d 1 6 1 d 1 6
   1 d 1 6 1 d 1 6 1 d 1 6 1 d 1 6 1 d 1 6 1 d 1 6 1 d 1 6 1 d 1 6 1 d 1 6 1 d 1 6 1 d 1 6 1 d 1
   6 1 d 1 6 1 d 1 6 1 d 1 6 1 d 1 6 1 d 1 6 1 d 1 6 1 d 1 6 1 d 1 6 1 d 1 6 1 d 1 6 1 d 1 6 1 d
   1 6 1 d 1 6 1 d 1 6 1 d 1 6 1 d 1 6 1 d 1 6 9 d 8 6 6 e 2 d 6 e 2 6 8 d 8 6 8 d 8 6 6 e 2 d 6
   e 2 6 8 e 1 d 1 e 1 d 1 e 1 d 1 e 1 d 1 6 8 d 8 6 e e 2 6 8 d 8 6 8 d 8 6 8 d 8 6 5 e 1 6 2 d
   5 e 1 6 1 e 3 6 3 e 1 6 2 d 5 e 3 6 4 e 2 6 2 d 4 e 4 6 8 d 5 e 5 6 3 e 1 6 2 d 5 e 3 c b 4 1
   3 2 4 2 e 3 9 2 e 3 2 8 e 4 0 1 e 3 b 2 4 5 c 1 e 9 2 2 e 1 a 2 e 7 2 2 a 3 e l c 1 4 5 e 1 4
   a e 1 6 1 e b 2 2 6 1 e d 2 2 e 1 6 d e 1f 3 x e h d 1 e 4 d 1 e 2 6 1 d 3 6 2 d 3 6 1 e 1 d
   1 e 3 d 5 e 6 d 1 e 1 d 1 e 1 d 1 e 1 d 4 e 1 6 1 d 4 6 1 8 4 6 1 e 2 6 2 d 2 e 5 d 1 6 4 e 4
   6 1 e h d g 6 g 8 3 d 1 6 1 8 4 e an 2 4 e t 2 2 e az d q 6 q e hd 2 6 e 7 2 e e 27 2 2 e v 2
   a e b7 2 m e 1r 2 4 e w 2 2 e ea d 1c 6 1c d 1 6 1 d 3 6 2 d 1 6 1 d 1 6 1 d 1 6 1 d 4 6 1 d
   1 6 2 d 1 6 8 d 3 6 1 d 1 6 1 d 1 6 1 d 1 6 1 d 1 6 1 d 1 6 1 d 1 6 1 d 1 6 1 d 1 6 1 d 1 6 1
   d 1 6 1 d 1 6 1 d 1 6 1 d 1 6 1 d 1 6 1 d 1 6 1 d 1 6 1 d 1 6 1 d 1 6 1 d 1 6 1 d 1 6 1 d 1 6
   1 d 1 6 1 d 1 6 1 d 1 6 1 d 1 6 1 d 1 6 1 d 1 6 1 d 1 6 1 d 1 6 1 d 1 6 1 d 1 6 1 d 1 6 1 d 1
   6 1 d 1 6 1 d 1 6 1 d 1 6 1 d 1 6 1 d 1 6 1 d 1 6 1 d 1 6 1 d 1 6 1 d 1 6 1 d 1 6 1 d 1 6 1 d
   1 6 1 d 1 6 1 d 1 6 1 d 1 6 1 d 1 6 2 e 6 d 1 6 1 d 1 6 1 3 3 d 1 6 1 e 5 a 3 e 4 6 12 e 1 6
   1 e 5 6 1 e 2 8 1k e 7 8 1 e f 3 1 8 n e 9 8 7 e 1 8 7 e 1 8 7 e 1 8 7 e 1 8 7 e 1 8 7 e 1 8
   7 e 1 8 7 e 1 3 w 2 e e e 2 2 e 2 2 a e 4 a 1 8 1 e c a 1 e 5 2 1 e g a 2 2 8 e bn c 1 9 1 a
   1 e 2 8 3 2 a e 2 2 8 e 1 2 3 e 1 8 9 3 6 e 1 8 5 e 2 8 5 e 4 8 2e e 2 3 2 e 2 8 3 e 1 8 2i e
   1 8 4 e 5 8 17 e 1 8 2m e h 8 w e 1c 8 g e e8 8 534 e 1s 8 h3h e 1v 8 1a e 1 a 1 8 7h e 1 a 2
   8 g 7 a 8 2 e k d 1 6 1 d 1 6 1 d 1 6 1 d 1 6 1 d 1 6 1 d 1 6 1 d 1 6 1 d 1 6 1 d 1 6 1 d 1 6
   1 d 1 6 1 d 1 6 1 d 1 6 1 d 1 6 1 d 1 6 1 d 1 6 1 d 1 6 1 d 1 6 1 d 1 6 1 d 1 6 1 d 1 6 1 d 1
   6 1 d 1 6 1 8 1 3 4 e 1 3 a e 1 8 1 d 1 6 1 d 1 6 1 d 1 6 1 d 1 6 1 d 1 6 1 d 1 6 1 d 1 6 1 d
   1 6 1 d 1 6 1 d 1 6 1 d 1 6 1 d 1 6 1 d 1 6 1 d 1 6 3 3 2 8 28 3 2 e 1 a 1 e 3 a 1 e v 8 9 e
   2 d 1 6 1 d 1 6 1 d 1 6 1 d 1 6 1 d 1 6 1 d 1 6 1 d 1 6 3 d 1 6 1 d 1 6 1 d 1 6 1 d 1 6 1 d 1
   6 1 d 1 6 1 d 1 6 1 d 1 6 1 d 1 6 1 d 1 6 1 d 1 6 1 d 1 6 1 d 1 6 1 d 1 6 1 d 1 6 1 d 1 6 1 d
   1 6 1 d 1 6 1 d 1 6 1 d 1 6 1 d 1 6 1 d 1 6 1 d 1 6 1 d 1 6 1 d 1 6 1 d 1 6 1 d 1 6 1 d 1 6 1
   d 1 6 1 d 1 6 1 d 1 6 a d 1 6 1 d 1 6 1 d 2 6 1 d 1 6 1 d 1 6 1 d 1 6 1 d 1 6 1 8 1 e 2 d 1 6
   1 d 1 6 1 8 1 d 1 6 1 d 1 6 3 d 1 6 1 d 1 6 1 d 1 6 1 d 1 6 1 d 1 6 1 d 1 6 1 d 1 6 1 d 1 6 1
   d 1 6 1 d 1 6 1 d 5 6 1 d 5 6 1 d 1 6 1 d 1 6 1 d 1 6 1 d 1 6 1 d 1 6 1 d 1 6 1 d 1 6 1 d 4 6
   1 d 1 6 1 d 2 6 1 e 2 d 1 6 1 e 1 6 1 e 1 6 1 d 1 6 1 d 1 6 1 d 1 6 1 d 1 e l 6 3 d 1 6 1 8 1
   6 3 8 7 3 1 8 3 3 1 8 4 3 1 8 n 3 5 e 4 3 1 e j 8 1g e 2 a 2 e 8 3 2 8 1e 3 i e 8 a 2 7 a e 6
   3 i 8 6 e 3 8 1 e 1 8 2 3 1 7 a 8 s 3 8 e 1 a 1 8 n 3 d e c 8 t e 3 3 4 8 1b 3 e e 7 a 2 e 5
   8 1 7 a e 6 8 5 3 1 8 a 7 a 8 5 e 1 8 15 3 e e 9 8 3 3 1 8 8 3 2 e 2 7 a e 3 a 3 8 n e 3 8 1
   3 3 8 1e 3 1 8 1 3 3 8 2 3 2 8 5 3 2 8 1 3 1 8 1 e o 8 3 e 2 8 b 3 5 a 2 8 3 3 2 e a 8 6 e 2
   8 6 e 2 8 6 e 9 8 7 e 1 8 7 e 1 6 17 e 1 6 e e 6 6 28 8 z 3 8 a 1 3 2 e 2 7 a e 6 8 8mc e c 8
   n e 4 8 1d e 6is 8 a6 e 2 8 2y e 12 6 7 e c 6 5 e 5 8 1 3 1 8 a e 1 8 d e 1 8 5 e 1 8 1 e 1 8
   2 e 1 8 2 e 1 8 30 e x 8 a3 2 2 e g 8 1s e 2 8 1i e 14 8 c e 4 3 g 9 2 a 1 9 2 a 2 2 2 e 7 3
   g e 1 9 2 e 2 2 g e 2 2 2 e 7 9 2 0 1 e 1 9 2 a 2 9 1 2 6 e 4 9 1 e c 8 5 e 1 8 3r e 2 4 1 e
   1 a 1 e 6 2 2 e 2 9 2 0 1 e 1 7 a 9 2 e 3 a 1 e 1 d q 2 1 e 1 2 1 e 3 6 q 2 1 e 1 2 1 e 1 2 2
   a 1 2 2 9 1 e 1 8 1k 3 2 8 v e 3 8 6 e 2 8 6 e 2 8 6 e 2 8 3 e s 4 3 e 4 8 c e 1 8 q e 1 8 j
   e 1 8 2 e 1 8 f e 2 8 e e y 8 3f e 1x 8 1h e 3s 3 1 e 3m 8 t e 3 8 1d e f 3 1 e v 8 w e d 8 u
   e 5 8 12 3 5 e 5 8 u e 2 8 10 e 4 8 8 e 1 8 5 e 16 d 14 6 14 8 26 e 2 7 a e 6 d 10 e 4 6 10 e
   4 8 14 e 8 8 1g e c d b e 1 d f e 1 d 7 e 1 d 2 e 1 6 b e 1 6 f e 1 6 7 e 1 6 2 e 3 8 1g e c
   8 8n e 9 8 m e a 8 8 e o 6 1 8 2 6 3 e 1 6 16 e 1 6 9 e 1x 8 6 e 2 8 1 e 1 8 18 e 1 8 2 e 3 8
   1 e 2 8 n e a 8 n e 9 8 v e 1t 8 j e 1 8 2 e a 8 m e a 8 q e 1y 8 1k e 6 8 2 e 1s 8 1 3 3 e 1
   3 2 e 5 3 4 8 4 e 1 8 3 e 1 8 t e 2 3 3 e 4 3 1 e m a 2 e 8 8 t e 3 8 t e z 8 8 e 1 8 s 3 2 e
   p 8 1i e a 8 m e a 8 j e d 8 i e 32 8 21 e 1j d 1f e d 6 1f e d 8 10 3 4 e 8 7 a e 6 7 a 8 6
   d m e 3 3 5 e 1 8 1 6 m e 6y 8 16 e 1 3 2 e 3 8 2 e g 8 3 e 1j 3 4 8 t e a 8 1 e 8 8 m 3 b e
   4 a 5 e m 8 i 3 4 a 4 e 12 8 l e r 8 n e 9 3 3 8 1h 3 f a 2 e t 7 a 3 1 8 2 3 2 8 1 e 9 3 4 8
   19 3 b e 2 7 1 a 4 3 1 e a 7 1 e 2 8 p e 7 7 a e 6 3 3 8 10 3 e e 1 7 a e 1 a 3 8 1 3 2 8 1 e
   8 8 z 3 1 e 2 8 1 e 9 3 3 8 1c 3 e 8 4 a 2 e 2 3 4 a 1 3 2 7 a 8 1 e 1 8 1 e 1 a 2 e w 8 i e
   1 8 p 3 c a 2 e 1 a 2 e 1 3 1 8 2 3 1 e 1q 8 7 e 1 8 1 e 1 8 4 e 1 8 f e 1 8 a a 1 e 6 8 1b 3
   c e 5 7 a e 6 3 4 e 1 8 8 e 2 8 2 e 2 8 m e 1 8 7 e 1 8 2 e 1 8 5 e 1 3 2 8 1 3 7 e 2 3 2 e 2
   3 3 e 2 8 1 e 6 3 1 e 5 8 5 3 2 e 2 3 7 e 3 3 5 e b 8 a e 1 8 1 e 2 8 1 e 1 8 12 e 1 8 1 3 9
   e 1 3 1 e 2 3 1 e 1 3 4 e 1 3 5 8 1 3 1 8 1 a 2 e b 3 2 e t 8 1h 3 i 8 4 a 2 e 3 7 a e 4 3 1
   8 3 e u 8 1c 3 k 8 2 e 1 8 1 e 8 7 a e 4m 8 1b 3 7 e 2 3 9 e 1 a 2 e 5 a f 8 4 3 2 e y 8 1c 3
   h a 2 e 1 8 1 e b 7 a e 12 8 17 3 d 8 1 e 7 7 a e 6 7 k e s 8 r e 2 3 f e 4 7 a e 2 a 3 e 1 8
   7 e 55 8 18 3 f e 2t d w 6 w 7 a e l 8 8 e 2 8 1 e 2 8 8 e 1 8 2 e 1 8 o 3 6 e 1 3 2 e 2 3 4
   8 1 3 1 8 1 3 2 a 1 e 1 a 1 e 9 7 a e 1y 8 8 e 2 8 13 3 7 e 2 3 7 8 1 e 1 8 1 3 1 e r 8 1 3 a
   8 14 3 7 8 1 3 4 e 3 a 2 e 3 3 1 e 8 8 1 3 b 8 1a 3 g e 1 a 2 8 1 e i 8 21 e 5j 8 x e f 7 a e
   6 8 9 e 1 8 11 3 8 e 1 3 8 8 1 a 2 e d 7 a e o 8 u e 2 3 m e 1 3 e e 21 8 7 e 1 8 2 e 1 8 12
   3 6 e 3 3 1 e 1 3 2 e 1 3 7 8 1 3 1 e 8 7 a e 6 8 6 e 1 8 2 e 1 8 w 3 5 e 1 3 2 e 1 3 5 8 1 e
   7 7 a e 8m 8 j 3 4 a 2 e 7 3 2 8 1 3 1 8 d e 1 8 y 3 7 e 3 3 5 a 2 e b 7 a 3 1 e 2d 8 1 e 27
   8 pm e 2u 8 33 e h 8 5g e 218 8 2p e f 8 ts 4 g 3 1 8 6 3 f e a 8 32z e 5 8 g7 e 5a1 8 u 3 i
   7 a e 1c6 8 ft e 7 8 v e 1 7 a e 4 a 2 8 27 e 1 7 a e 6 8 u e 2 3 5 a 1 e a 8 1c 3 7 a 2 e 7
   8 4 a 1 e b 7 a e 9 8 l e 5 8 j e c0 8 19 e 1 a 2 7 a e 5i d w 6 w e o a 1 e 2v 8 23 e 4 3 1
   8 1 3 1j e 7 3 4 8 d e 1s 8 2 e 1 8 1 3 1 e b 3 2 e e 8 4qg e 8 8 ye e 15 8 a e 6w7 8 4 e 1 8
   7 e 1 8 2 e 1 8 83 e f 8 1 e t 8 3 e 2 8 1 e e 8 4 e 8 8 b0 e 1s4 8 2z e 5 8 d e 3 8 9 e 7 8
   a e 3 3 2 a 1 4 4 e 37w 7 a e ee 3 1a e 2 3 n e f2 3 5 e 3 3 6 4 8 3 8 e 2 3 7 e u 3 4 e 44 3
   3 e cb d q 6 q d q 6 7 e 1 6 i d q 6 q d 1 e 1 d 2 e 2 d 1 e 2 d 2 e 2 d 4 e 1 d 8 6 4 e 1 6
   1 e 1 6 7 e 1 6 b d q 6 q d 2 e 1 d 4 e 2 d 8 e 1 d 7 e 1 6 q d 2 e 1 d 4 e 1 d 5 e 1 d 1 e 3
   d 7 e 1 6 q d q 6 q d q 6 q d q 6 q d q 6 q d q 6 q d q 6 s e 2 d p e 1 6 p e 1 6 6 d p e 1 6
   p e 1 6 6 d p e 1 6 p e 1 6 6 d p e 1 6 p e 1 6 6 d p e 1 6 p e 1 6 6 d 1 6 1 e 2 7 1e e e8 3
   1j e 4 3 1e e 8 3 1 e e 3 1 e 3 a 1 e i 3 5 e 1 3 f e uo 6 a 8 1 6 k e 6 6 6 e 5x 3 7 e 1 3 h
   e 2 3 7 e 1 3 2 e 1 3 5 e 5 6 1q e x 3 1 e 34 8 19 e 3 3 7 8 7 e 2 7 a e 4 8 1 e 8x 8 u 3 1 e
   h 8 18 3 4 7 a e d2 8 s 3 4 7 a e 5y 8 u 3 2 8 1 7 a e dh 8 7 e 1 8 4 e 1 8 2 e 1 8 f e 1 8
   5h e b 3 7 e 15 d y 6 y 3 7 8 1 e 4 7 a e x2 8 4 e 1 8 r e 1 8 2 e 1 8 1 e 2 8 1 e 1 8 a e 1
   8 4 e 1 8 1 e 1 8 1 e 6 8 1 e 4 8 1 e 1 8 1 e 1 8 1 e 1 8 3 e 1 8 2 e 1 8 1 e 2 8 1 e 1 8 1 e
   1 8 1 e 1 8 1 e 1 8 1 e 1 8 2 e 1 8 1 e 2 8 4 e 1 8 7 e 1 8 4 e 1 8 4 e 1 8 1 e 1 8 a e 1 8 h
   e 5 8 3 e 1 8 5 e 1 8 h e hg d q e 6 d q e 6 d q e z0 2 3 e 12v 7 a e sm 8 wyo e w 8 37e e 6
   8 66 e 2 8 4g2 e e 8 5rl e f 8 ha e 1wi 8 f2 e 15u 8 3t7 e 5 8 38g e f975 4 1 e u 3 2o e 3k 3
   6o e 47bk"

def charSet (names : List (List String)) (partition : Partition) (name : String) :
    Option CharSet :=
  (names.findIdx? fun aliases => aliases.contains name).map fun wanted =>
    partition.select (· == wanted)

end SandboxPolicy.Segmentation
