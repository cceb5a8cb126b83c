import SandboxPolicy.Text.CharSet

/-!
The general category of a character: letters, marks, numbers, punctuation, symbols, separators
and the rest, as in edition 16 of the character database.
-/

namespace SandboxPolicy

inductive Category where
  | uppercaseLetter
  | lowercaseLetter
  | titlecaseLetter
  | modifierLetter
  | otherLetter
  | nonspacingMark
  | spacingMark
  | enclosingMark
  | decimalNumber
  | letterNumber
  | otherNumber
  | connectorPunctuation
  | dashPunctuation
  | openPunctuation
  | closePunctuation
  | initialPunctuation
  | finalPunctuation
  | otherPunctuation
  | mathSymbol
  | currencySymbol
  | modifierSymbol
  | otherSymbol
  | spaceSeparator
  | lineSeparator
  | paragraphSeparator
  | control
  | format
  | surrogate
  | privateUse
  | unassigned
deriving Repr, DecidableEq, Inhabited

namespace Category

def all : List Category :=
  [.uppercaseLetter, .lowercaseLetter, .titlecaseLetter, .modifierLetter, .otherLetter,
   .nonspacingMark, .spacingMark, .enclosingMark, .decimalNumber, .letterNumber, .otherNumber,
   .connectorPunctuation, .dashPunctuation, .openPunctuation, .closePunctuation,
   .initialPunctuation, .finalPunctuation, .otherPunctuation, .mathSymbol, .currencySymbol,
   .modifierSymbol, .otherSymbol, .spaceSeparator, .lineSeparator, .paragraphSeparator, .control,
   .format, .surrogate, .privateUse, .unassigned]

def partition : Partition := .ofTable
  "p w m 1 h 3 j 1 h 3 d 1 e 1 h 1 i 1 h 1 c 1 h 2 8 a h 2 i 3 h 2 0 q d 1 h 1 e 1 k 1 b 1 k 1 1
   q d 1 i 1 e 1 i 1 p x m 1 h 1 j 4 l 1 h 1 k 1 l 1 4 1 f 1 i 1 q 1 l 1 k 1 l 1 i 1 a 2 k 1 1 1
   h 2 k 1 a 1 4 1 g 1 a 3 h 1 0 n i 1 0 7 1 o i 1 1 8 0 1 1 1 0 1 1 1 0 1 1 1 0 1 1 1 0 1 1 1 0
   1 1 1 0 1 1 1 0 1 1 1 0 1 1 1 0 1 1 1 0 1 1 1 0 1 1 1 0 1 1 1 0 1 1 1 0 1 1 1 0 1 1 1 0 1 1 1
   0 1 1 1 0 1 1 1 0 1 1 1 0 1 1 1 0 1 1 1 0 1 1 1 0 1 1 1 0 1 1 1 0 1 1 1 0 1 1 1 0 1 1 2 0 1 1
   1 0 1 1 1 0 1 1 1 0 1 1 1 0 1 1 1 0 1 1 1 0 1 1 1 0 1 1 2 0 1 1 1 0 1 1 1 0 1 1 1 0 1 1 1 0 1
   1 1 0 1 1 1 0 1 1 1 0 1 1 1 0 1 1 1 0 1 1 1 0 1 1 1 0 1 1 1 0 1 1 1 0 1 1 1 0 1 1 1 0 1 1 1 0
   1 1 1 0 1 1 1 0 1 1 1 0 1 1 1 0 1 1 1 0 1 1 1 0 1 1 1 0 2 1 1 0 1 1 1 0 1 1 3 0 2 1 1 0 1 1 1
   0 2 1 1 0 3 1 2 0 4 1 1 0 2 1 1 0 3 1 3 0 2 1 1 0 2 1 1 0 1 1 1 0 1 1 1 0 2 1 1 0 1 1 2 0 1 1
   1 0 2 1 1 0 3 1 1 0 1 1 1 0 2 1 2 4 1 0 1 1 3 4 4 0 1 2 1 1 1 0 1 2 1 1 1 0 1 2 1 1 1 0 1 1 1
   0 1 1 1 0 1 1 1 0 1 1 1 0 1 1 1 0 1 1 1 0 1 1 1 0 1 1 2 0 1 1 1 0 1 1 1 0 1 1 1 0 1 1 1 0 1 1
   1 0 1 1 1 0 1 1 1 0 1 1 1 0 1 1 2 0 1 2 1 1 1 0 1 1 1 0 3 1 1 0 1 1 1 0 1 1 1 0 1 1 1 0 1 1 1
   0 1 1 1 0 1 1 1 0 1 1 1 0 1 1 1 0 1 1 1 0 1 1 1 0 1 1 1 0 1 1 1 0 1 1 1 0 1 1 1 0 1 1 1 0 1 1
   1 0 1 1 1 0 1 1 1 0 1 1 1 0 1 1 1 0 1 1 1 0 1 1 1 0 1 1 1 0 1 1 1 0 1 1 1 0 1 1 1 0 1 1 1 0 1
   1 1 0 1 1 7 0 2 1 1 0 2 1 2 0 1 1 1 0 4 1 1 0 1 1 1 0 1 1 1 0 1 1 1 0 1 1 1x 4 1 1 r 3 i k 4
   3 c k e 3 5 k 7 3 1 k 1 3 1 k h 5 34 0 1 1 1 0 1 1 1 3 1 k 1 0 1 1 1 t 2 3 1 1 3 h 1 0 1 t 4
   k 2 0 1 h 1 0 3 t 1 0 1 t 1 0 2 1 1 0 h t 1 0 9 1 z 0 1 1 2 0 3 1 3 0 1 1 1 0 1 1 1 0 1 1 1 0
   1 1 1 0 1 1 1 0 1 1 1 0 1 1 1 0 1 1 1 0 1 1 1 0 1 1 1 0 1 1 1 0 1 1 5 0 1 1 1 i 1 0 1 1 1 0 2
   1 2 0 1f 1 1c 0 1 1 1 0 1 1 1 0 1 1 1 0 1 1 1 0 1 1 1 0 1 1 1 0 1 1 1 0 1 1 1 0 1 1 1 0 1 1 1
   0 1 1 1 0 1 1 1 0 1 1 1 0 1 1 1 0 1 1 1 0 1 1 1 0 1 1 1 l 1 5 5 7 2 0 1 1 1 0 1 1 1 0 1 1 1 0
   1 1 1 0 1 1 1 0 1 1 1 0 1 1 1 0 1 1 1 0 1 1 1 0 1 1 1 0 1 1 1 0 1 1 1 0 1 1 1 0 1 1 1 0 1 1 1
   0 1 1 1 0 1 1 1 0 1 1 1 0 1 1 1 0 1 1 1 0 1 1 1 0 1 1 1 0 1 1 1 0 1 1 1 0 1 1 1 0 1 1 1 0 1 1
   1 0 2 1 1 0 1 1 1 0 1 1 1 0 1 1 1 0 1 1 1 0 1 1 1 0 1 1 2 0 1 1 1 0 1 1 1 0 1 1 1 0 1 1 1 0 1
   1 1 0 1 1 1 0 1 1 1 0 1 1 1 0 1 1 1 0 1 1 1 0 1 1 1 0 1 1 1 0 1 1 1 0 1 1 1 0 1 1 1 0 1 1 1 0
   1 1 1 0 1 1 1 0 1 1 1 0 1 1 1 0 1 1 1 0 1 1 1 0 1 1 1 0 1 1 1 0 1 1 1 0 1 1 1 0 1 1 1 0 1 1 1
   0 1 1 1 0 1 1 1 0 1 1 1 0 1 1 1 0 1 1 1 0 1 1 1 0 1 1 1 0 1 1 1 0 1 1 1 0 1 1 1 0 1 1 1 0 1 1
   1 0 1 1 1 0 1 1 1 0 1 1 1 0 1 1 1 0 1 1 1 0 1 1 1 0 1 1 1 0 1 1 1 t 1 0 12 t 2 3 1 h 6 1 15 h
   1 c 1 t 2 l 2 j 1 t 1 5 19 c 1 5 1 h 1 5 2 h 1 5 2 h 1 5 1 t 8 4 r t 4 4 4 h 2 t b q 6 i 3 h
   2 j 1 h 2 l 2 5 b h 1 q 1 h 3 4 w 3 1 4 a 5 l 8 a h 4 4 2 5 1 4 2r h 1 4 1 5 7 q 1 l 1 5 6 3
   2 5 2 l 1 5 4 4 2 8 a 4 3 l 2 4 1 h e t 1 q 1 4 1 5 1 4 u 5 r t 2 4 2h 5 b 4 1 t e 8 a 4 x 5
   9 3 2 l 1 h 3 3 1 t 2 5 1 j 2 4 m 5 4 3 1 5 9 3 1 5 3 3 1 5 5 t 2 h f t 1 4 p 5 3 t 2 h 1 t 1
   4 b t 5 4 o k 1 4 6 t 1 q 2 t 5 5 9 4 15 3 1 5 o q 1 5 w 6 1 4 1i 5 1 6 1 5 1 4 1 6 3 5 8 6 4
   5 1 6 2 4 1 5 7 4 a 5 2 h 2 8 a h 1 3 1 4 f 5 1 6 2 t 1 4 8 t 2 4 2 t 2 4 m t 1 4 7 t 1 4 1 t
   3 4 4 t 2 5 1 4 1 6 3 5 4 t 2 6 2 t 2 6 2 5 1 4 1 t 8 6 1 t 4 4 2 t 1 4 3 5 2 t 2 8 a 4 2 j 2
   a 6 l 1 j 1 4 1 h 1 5 1 t 2 5 2 6 1 t 1 4 6 t 4 4 2 t 2 4 m t 1 4 7 t 1 4 2 t 1 4 2 t 1 4 2 t
   2 5 1 t 1 6 3 5 2 t 4 5 2 t 2 5 3 t 3 5 1 t 7 4 4 t 1 4 1 t 7 8 a 5 2 4 3 5 1 h 1 t a 5 2 6 1
   t 1 4 9 t 1 4 3 t 1 4 m t 1 4 7 t 1 4 2 t 1 4 5 t 2 5 1 4 1 6 3 5 5 t 1 5 2 6 1 t 1 6 2 5 1 t
   2 4 1 t f 4 2 5 2 t 2 8 a h 1 j 1 t 7 4 1 5 6 t 1 5 1 6 2 t 1 4 8 t 2 4 2 t 2 4 m t 1 4 7 t 1
   4 2 t 1 4 5 t 2 5 1 4 1 6 1 5 1 6 1 5 4 t 2 6 2 t 2 6 2 5 1 t 7 5 2 6 1 t 4 4 2 t 1 4 3 5 2 t
   2 8 a l 1 4 1 a 6 t a 5 1 4 1 t 1 4 6 t 3 4 3 t 1 4 4 t 3 4 2 t 1 4 1 t 1 4 2 t 3 4 2 t 3 4 3
   t 3 4 c t 4 6 2 5 1 6 2 t 3 6 3 t 1 6 3 5 1 t 2 4 1 t 6 6 1 t e 8 a a 3 l 6 j 1 l 1 t 5 5 1 6
   3 5 1 4 8 t 1 4 3 t 1 4 n t 1 4 g t 2 5 1 4 1 5 3 6 4 t 1 5 3 t 1 5 4 t 7 5 2 t 1 4 3 t 2 4 1
   t 2 4 2 5 2 t 2 8 a t 7 h 1 a 7 l 1 4 1 5 1 6 2 h 1 4 8 t 1 4 3 t 1 4 n t 1 4 a t 1 4 5 t 2 5
   1 4 1 6 1 5 1 6 5 t 1 5 1 6 2 t 1 6 2 5 2 t 7 6 2 t 6 4 2 t 1 4 2 5 2 t 2 8 a t 1 4 2 6 1 t c
   5 2 6 2 4 9 t 1 4 3 t 1 4 15 5 2 4 1 6 3 5 4 t 1 6 3 t 1 6 3 5 1 4 1 l 1 t 4 4 3 6 1 a 7 4 3
   5 2 t 2 8 a a 9 l 1 4 6 t 1 5 1 6 2 t 1 4 i t 3 4 o t 1 4 9 t 1 4 1 t 2 4 7 t 3 5 1 t 4 6 3 5
   3 t 1 5 1 t 1 6 8 t 6 8 a t 2 6 2 h 1 t c 4 1c 5 1 4 2 5 7 t 4 j 1 4 6 3 1 5 8 h 1 8 a h 2 t
   11 4 2 t 1 4 1 t 1 4 5 t 1 4 o t 1 4 1 t 1 4 a 5 1 4 2 5 9 4 1 t 2 4 5 t 1 3 1 t 1 5 7 t 1 8
   a t 2 4 4 t w 4 1 l 3 h f l 1 h 1 l 3 5 2 l 6 8 a a a l 1 5 1 l 1 5 1 l 1 5 1 d 1 e 1 d 1 e 1
   6 2 4 8 t 1 4 10 t 4 5 e 6 1 5 5 h 1 5 2 4 5 5 b t 1 5 10 t 1 l 8 5 1 l 6 t 1 l 2 h 5 l 4 h 2
   t 11 4 17 6 2 5 4 6 1 5 6 6 1 5 2 6 2 5 2 4 1 8 a h 6 4 6 6 2 5 2 4 4 5 3 4 1 6 3 4 2 6 7 4 3
   5 4 4 d 5 1 6 2 5 2 6 6 5 1 4 1 6 1 8 a 6 3 5 1 l 2 0 12 t 1 0 1 t 5 0 1 t 2 1 17 h 1 3 1 1 3
   4 95 t 1 4 4 t 2 4 7 t 1 4 1 t 1 4 4 t 2 4 15 t 1 4 4 t 2 4 x t 1 4 4 t 2 4 7 t 1 4 1 t 1 4 4
   t 2 4 f t 1 4 1l t 1 4 4 t 2 4 1v t 2 5 3 h 9 a k t 3 4 g l a t 6 0 2e t 2 1 6 t 2 c 1 4 h8 l
   1 h 1 4 h m 1 4 q d 1 e 1 t 3 4 23 h 3 9 3 4 8 t 7 4 i 5 3 6 1 t 9 4 j 5 2 6 1 h 2 t 9 4 i 5
   2 t c 4 d t 1 4 3 t 1 5 2 t c 4 1g 5 2 6 1 5 7 6 8 5 1 6 2 5 b h 3 3 1 h 3 j 1 4 1 5 1 t 2 8
   a t 6 a a t 6 h 6 c 1 h 4 5 3 q 1 5 1 8 a t 6 4 z 3 1 4 1h t 7 4 5 5 2 4 y 5 1 4 1 t 5 4 1y t
   a 4 v t 1 5 3 6 4 5 2 6 3 t 4 6 2 5 1 6 6 5 3 t 4 l 1 t 3 h 2 8 a 4 u t 2 4 5 t b 4 18 t 4 4
   q t 6 8 a a 1 t 3 l y 4 n 5 2 6 2 5 1 t 2 h 2 4 1h 6 1 5 1 6 1 5 7 t 1 5 1 6 1 5 1 6 2 5 8 6
   6 5 a t 2 5 1 8 a t 6 8 a t 6 h 7 3 1 h 6 t 2 5 e 7 1 5 g t 1d 5 4 6 1 4 1b 5 1 6 1 5 5 6 1 5
   1 6 5 5 1 6 2 4 8 t 1 h 2 8 a h 7 l a 5 9 l 9 h 3 5 2 6 1 4 u 6 1 5 4 6 2 5 2 6 1 5 3 4 2 8 a
   4 18 5 1 6 1 5 2 6 3 5 1 6 1 5 3 6 2 t 8 h 4 4 10 6 8 5 8 6 2 5 2 t 3 h 5 8 a t 3 4 3 8 a 4 u
   3 6 h 2 1 9 0 1 1 1 t 5 0 17 t 2 0 3 h 8 t 8 5 3 h 1 5 d 6 1 5 7 4 4 5 1 4 6 5 1 4 2 6 1 5 2
   4 1 t 5 1 18 3 1r 1 d 3 1 1 y 3 11 5 1s 0 1 1 1 0 1 1 1 0 1 1 1 0 1 1 1 0 1 1 1 0 1 1 1 0 1 1
   1 0 1 1 1 0 1 1 1 0 1 1 1 0 1 1 1 0 1 1 1 0 1 1 1 0 1 1 1 0 1 1 1 0 1 1 1 0 1 1 1 0 1 1 1 0 1
   1 1 0 1 1 1 0 1 1 1 0 1 1 1 0 1 1 1 0 1 1 1 0 1 1 1 0 1 1 1 0 1 1 1 0 1 1 1 0 1 1 1 0 1 1 1 0
   1 1 1 0 1 1 1 0 1 1 1 0 1 1 1 0 1 1 1 0 1 1 1 0 1 1 1 0 1 1 1 0 1 1 1 0 1 1 1 0 1 1 1 0 1 1 1
   0 1 1 1 0 1 1 1 0 1 1 1 0 1 1 1 0 1 1 1 0 1 1 1 0 1 1 1 0 1 1 1 0 1 1 1 0 1 1 1 0 1 1 1 0 1 1
   1 0 1 1 1 0 1 1 1 0 1 1 1 0 1 1 1 0 1 1 1 0 1 1 1 0 1 1 1 0 1 1 1 0 1 1 1 0 1 1 1 0 1 1 1 0 1
   1 1 0 1 1 1 0 1 1 1 0 1 1 1 0 1 1 1 0 1 1 1 0 1 1 1 0 1 1 1 0 1 1 1 0 1 1 9 0 1 1 1 0 1 1 1 0
   1 1 1 0 1 1 1 0 1 1 1 0 1 1 1 0 1 1 1 0 1 1 1 0 1 1 1 0 1 1 1 0 1 1 1 0 1 1 1 0 1 1 1 0 1 1 1
   0 1 1 1 0 1 1 1 0 1 1 1 0 1 1 1 0 1 1 1 0 1 1 1 0 1 1 1 0 1 1 1 0 1 1 1 0 1 1 1 0 1 1 1 0 1 1
   1 0 1 1 1 0 1 1 1 0 1 1 1 0 1 1 1 0 1 1 1 0 1 1 1 0 1 1 1 0 1 1 1 0 1 1 1 0 1 1 1 0 1 1 1 0 1
   1 1 0 1 1 1 0 1 1 1 0 1 1 1 0 1 1 1 0 1 1 1 0 1 1 1 0 1 1 1 0 1 1 1 0 1 1 1 0 1 1 1 0 1 1 9 0
   8 1 6 t 2 0 6 t 2 1 8 0 8 1 8 0 8 1 6 t 2 0 6 t 2 1 8 t 1 0 1 t 1 0 1 t 1 0 1 t 1 0 1 1 8 0 8
   1 e t 2 1 8 2 8 1 8 2 8 1 8 2 8 1 5 t 1 1 2 0 4 2 1 k 1 1 1 k 3 1 3 t 1 1 2 0 4 2 1 k 3 1 4 t
   2 1 2 0 4 t 1 k 3 1 8 0 5 k 3 t 2 1 3 t 1 1 2 0 4 2 1 k 2 t 1 m b q 5 c 6 h 2 f 1 g 1 d 1 f 2
   g 1 d 1 f 1 h 8 n 1 o 1 q 5 m 1 h 9 f 1 g 1 h 4 b 2 h 3 i 1 d 1 e 1 h b i 1 h 1 b 1 h a m 1 q
   5 t 1 q a a 1 3 1 t 2 a 6 i 3 d 1 e 1 3 1 a a i 3 d 1 e 1 t 1 3 d t 3 j x t f 5 d 7 4 5 1 7 3
   5 c t f l 2 0 1 l 4 0 1 l 2 1 1 0 3 1 2 0 3 1 1 l 1 0 1 l 2 i 1 0 5 l 6 0 1 l 1 0 1 l 1 0 1 l
   1 0 4 l 1 1 1 0 4 1 1 4 4 1 1 l 2 1 2 0 2 i 5 0 1 1 4 l 1 i 1 l 2 1 1 l 1 a g 9 z 0 1 1 1 9 4
   a 1 l 2 t 4 i 5 l 5 i 2 l 4 i 1 l 2 i 1 l 2 i 1 l 7 i 1 l v i 2 l 2 i 1 l 1 i 1 l v i 7g l 8
   d 1 e 1 d 1 e 1 l k i 2 l 7 d 1 e 1 l 29 i 1 l u i p l 14 i 6 l 20 t m l b t l a 1o l 26 a m
   l 53 i 1 l 9 i 1 l 1i i 8 l 33 i 1 l 6w d 1 e 1 d 1 e 1 d 1 e 1 d 1 e 1 d 1 e 1 d 1 e 1 d 1 e
   1 a u l 18 i 5 d 1 e 1 i v d 1 e 1 d 1 e 1 d 1 e 1 d 1 e 1 d 1 e 1 i g l 74 i 3n d 1 e 1 d 1
   e 1 d 1 e 1 d 1 e 1 d 1 e 1 d 1 e 1 d 1 e 1 d 1 e 1 d 1 e 1 d 1 e 1 d 1 e 1 i 1r d 1 e 1 d 1
   e 1 i w d 1 e 1 i 76 l 1c i l l 2 i 6 l 13 t 2 l w t 1 l 2x 0 1c 1 1c 0 1 1 1 0 3 1 2 0 1 1 1
   0 1 1 1 0 1 1 1 0 4 1 1 0 1 1 2 0 1 1 6 3 2 0 3 1 1 0 1 1 1 0 1 1 1 0 1 1 1 0 1 1 1 0 1 1 1 0
   1 1 1 0 1 1 1 0 1 1 1 0 1 1 1 0 1 1 1 0 1 1 1 0 1 1 1 0 1 1 1 0 1 1 1 0 1 1 1 0 1 1 1 0 1 1 1
   0 1 1 1 0 1 1 1 0 1 1 1 0 1 1 1 0 1 1 1 0 1 1 1 0 1 1 1 0 1 1 1 0 1 1 1 0 1 1 1 0 1 1 1 0 1 1
   1 0 1 1 1 0 1 1 1 0 1 1 1 0 1 1 1 0 1 1 1 0 1 1 1 0 1 1 1 0 1 1 1 0 1 1 1 0 1 1 1 0 1 1 1 0 1
   1 1 0 1 1 1 0 1 1 1 0 1 1 1 0 1 1 1 0 1 1 1 0 1 1 1 0 1 1 1 0 1 1 2 l 6 0 1 1 1 0 1 1 1 5 3 0
   1 1 1 t 5 h 4 a 1 h 2 1 12 t 1 1 1 t 5 1 1 t 2 4 1k t 7 3 1 h 1 t e 5 1 4 n t 9 4 7 t 1 4 7 t
   1 4 7 t 1 4 7 t 1 4 7 t 1 4 7 t 1 4 7 t 1 4 7 t 1 5 w h 2 f 1 g 1 f 1 g 1 h 3 f 1 g 1 h 1 f 1
   g 1 h 9 c 1 h 2 c 1 h 1 f 1 g 1 h 2 f 1 g 1 d 1 e 1 d 1 e 1 d 1 e 1 d 1 e 1 h 5 3 1 h a c 2 h
   4 c 1 h 1 d 1 h d l 2 h 3 d 1 e 1 d 1 e 1 d 1 e 1 d 1 e 1 c 1 t y l q t 1 l 2h t c l 5y t q l
   g m 1 h 3 l 1 3 1 4 1 9 1 d 1 e 1 d 1 e 1 d 1 e 1 d 1 e 1 d 1 e 1 l 2 d 1 e 1 d 1 e 1 d 1 e 1
   d 1 e 1 c 1 d 1 e 2 l 1 9 9 5 4 6 2 c 1 3 5 l 2 9 3 3 1 4 1 h 1 l 2 t 1 4 2e t 2 5 2 k 2 3 2
   4 1 c 1 4 2i h 1 3 3 4 1 t 5 4 17 t 1 4 2m t 1 l 2 a 4 l a 4 w l 12 t 9 l 1 4 g l v t 1 a a l
   u a 8 l 1 a f l w a a l 13 a f l 8w 4 534 l 1s 4 g7p 3 1 4 vr t 3 l 1j t 9 4 14 3 6 h 2 4 7g
   3 1 h 3 4 g 8 a 4 2 t k 0 1 1 1 0 1 1 1 0 1 1 1 0 1 1 1 0 1 1 1 0 1 1 1 0 1 1 1 0 1 1 1 0 1 1
   1 0 1 1 1 0 1 1 1 0 1 1 1 0 1 1 1 0 1 1 1 0 1 1 1 0 1 1 1 0 1 1 1 0 1 1 1 0 1 1 1 0 1 1 1 0 1
   1 1 0 1 1 1 0 1 1 1 4 1 5 1 7 3 h 1 5 a h 1 3 1 0 1 1 1 0 1 1 1 0 1 1 1 0 1 1 1 0 1 1 1 0 1 1
   1 0 1 1 1 0 1 1 1 0 1 1 1 0 1 1 1 0 1 1 1 0 1 1 1 0 1 1 1 0 1 1 1 3 2 5 2 4 1y 9 a 5 2 h 6 t
   8 k n 3 9 k 2 0 1 1 1 0 1 1 1 0 1 1 1 0 1 1 1 0 1 1 1 0 1 1 1 0 1 1 3 0 1 1 1 0 1 1 1 0 1 1 1
   0 1 1 1 0 1 1 1 0 1 1 1 0 1 1 1 0 1 1 1 0 1 1 1 0 1 1 1 0 1 1 1 0 1 1 1 0 1 1 1 0 1 1 1 0 1 1
   1 0 1 1 1 0 1 1 1 0 1 1 1 0 1 1 1 0 1 1 1 0 1 1 1 0 1 1 1 0 1 1 1 0 1 1 1 0 1 1 1 0 1 1 1 0 1
   1 1 0 1 1 1 0 1 1 1 0 1 1 1 0 1 1 1 3 1 1 8 0 1 1 1 0 1 1 1 0 2 1 1 0 1 1 1 0 1 1 1 0 1 1 1 0
   1 1 1 3 1 k 2 0 1 1 1 0 1 1 1 4 1 0 1 1 1 0 1 1 3 0 1 1 1 0 1 1 1 0 1 1 1 0 1 1 1 0 1 1 1 0 1
   1 1 0 1 1 1 0 1 1 1 0 1 1 1 0 1 1 1 0 5 1 1 0 5 1 1 0 1 1 1 0 1 1 1 0 1 1 1 0 1 1 1 0 1 1 1 0
   1 1 1 0 1 1 1 0 4 1 1 0 1 1 1 0 2 1 1 t 2 0 1 1 1 t 1 1 1 t 1 1 1 0 1 1 1 0 1 1 1 0 1 1 1 0 1
   t l 3 3 0 1 1 1 4 1 3 2 1 1 4 7 5 1 4 3 5 1 4 4 5 1 4 n 6 2 5 2 6 1 l 4 5 1 t 3 a 6 l 2 j 1 l
   1 t 6 4 1g h 4 t 8 6 2 4 1e 6 g 5 2 t 8 h 2 8 a t 6 5 i 4 6 h 3 4 1 h 1 4 2 5 1 8 a 4 s 5 8 h
   2 4 n 5 b 6 2 t b h 1 4 t t 3 5 3 6 1 4 1b 5 1 6 2 5 4 6 2 5 2 6 3 h d t 1 3 1 8 a t 4 h 2 4
   5 5 1 3 1 4 9 8 a 4 5 t 1 4 15 5 6 6 2 5 2 6 2 5 2 t 9 4 3 5 1 4 8 5 1 6 1 t 2 8 a t 2 h 4 4
   g 3 1 4 6 l 3 4 1 6 1 5 1 6 1 4 1e 5 1 4 1 5 3 4 2 5 2 4 5 5 2 4 1 5 1 4 1 t o 4 2 3 1 h 2 4
   b 6 1 5 2 6 2 h 2 4 1 3 2 6 1 5 1 t a 4 6 t 2 4 6 t 2 4 6 t 9 4 7 t 1 4 7 t 1 1 17 k 1 3 4 1
   9 3 1 k 2 t 4 1 28 4 z 6 2 5 1 6 2 5 1 6 2 h 1 6 1 5 1 t 2 8 a t 6 4 8mc t c 4 n t 4 4 1d t 4
   r 1kw s 4xs 4 a6 t 2 4 2y t 12 1 7 t c 1 5 t 5 4 1 5 1 4 a i 1 4 d t 1 4 5 t 1 4 1 t 1 4 2 t
   1 4 2 t 1 4 30 k h t g 4 a3 e 1 d 1 l g 4 1s t 2 4 1i t 7 l 1 t w 4 c j 1 l 3 5 g h 7 d 1 e 1
   h 1 t 6 5 g h 1 c 2 b 2 d 1 e 1 d 1 e 1 d 1 e 1 d 1 e 1 d 1 e 1 d 1 e 1 d 1 e 1 d 1 e 1 h 2 d
   1 e 1 h 4 b 3 h 3 t 1 h 4 c 1 d 1 e 1 d 1 e 1 d 1 e 1 h 3 i 1 c 1 i 3 t 1 h 1 j 1 h 2 t 4 4 5
   t 1 4 3r t 2 q 1 t 1 h 3 j 1 h 3 d 1 e 1 h 1 i 1 h 1 c 1 h 2 8 a h 2 i 3 h 2 0 q d 1 h 1 e 1
   k 1 b 1 k 1 1 q d 1 i 1 e 1 i 1 d 1 e 1 h 1 d 1 e 1 h 2 4 a 3 1 4 19 3 2 4 v t 3 4 6 t 2 4 6
   t 2 4 6 t 2 4 3 t 3 j 2 i 1 k 1 l 1 j 2 t 1 l 1 i 4 l 2 t a q 3 l 2 t 2 4 c t 1 4 q t 1 4 j t
   1 4 2 t 1 4 f t 2 4 e t y 4 3f t 5 h 3 t 4 a 19 t 3 l 9 9 1h a 4 l h a 2 l 3 t 1 l d t 3 l 1
   t 1b l 19 5 1 t 3m 4 t t 3 4 1d t f 5 1 a r t 4 4 w a 4 t 9 4 k 9 1 4 8 9 1 t 5 4 12 5 5 t 5
   4 u t 1 h 1 4 10 t 4 4 8 h 1 9 5 t 16 0 14 1 14 4 26 t 2 8 a t 6 0 10 t 4 1 10 t 4 4 14 t 8 4
   1g t b h 1 0 b t 1 0 f t 1 0 7 t 1 0 2 t 1 1 b t 1 1 f t 1 1 7 t 1 1 2 t 3 4 1g t c 4 8n t 9
   4 m t a 4 8 t o 3 6 t 1 3 16 t 1 3 9 t 1x 4 6 t 2 4 1 t 1 4 18 t 1 4 2 t 3 4 1 t 2 4 n t 1 h
   1 a 8 4 n l 2 a 7 4 v t 8 a 9 t 1c 4 j t 1 4 2 t 5 a 5 4 m a 6 t 3 h 1 4 q t 5 h 1 t 1s 4 1k
   t 4 a 2 4 2 a g t 2 a 1a 4 1 5 3 t 1 5 2 t 5 5 4 4 4 t 1 4 3 t 1 4 t t 2 5 3 t 4 5 1 a 9 t 7
   h 9 t 7 4 t a 2 h 1 4 t a 3 t w 4 8 l 1 4 s 5 2 t 4 a 5 h 7 t 9 4 1i t 3 h 7 4 m t 2 a 8 4 j
   t 5 a 8 4 i t 7 h 4 t c a 7 t 28 4 21 t 1j 0 1f t d 1 1f t 7 a 6 4 10 5 4 t 8 8 a t 6 8 a 4 4
   3 1 4 1 0 m t 3 5 5 c 1 3 1 1 m t 8 i 2 t 5s a v t 1 4 16 t 1 5 2 c 1 t 2 4 2 t g 4 3 t 1j 5
   4 4 t a a 4 1 t 8 4 m 5 b a 4 h 5 t m 4 i 5 4 h 4 t 12 4 l a 7 t k 4 n t 9 6 1 5 1 6 1 4 1h 5
   f h 7 t 4 a k 8 a 5 1 4 2 5 2 4 1 t 9 5 3 6 1 4 19 6 3 5 4 6 2 5 2 h 2 q 1 h 4 5 1 t a q 1 t
   2 4 p t 7 8 a t 6 5 3 4 10 5 5 6 1 5 8 t 1 8 a h 4 4 1 6 2 4 1 t 8 4 z 5 1 h 2 4 1 t 9 5 2 6
   1 4 1c 6 3 5 9 6 2 4 4 h 4 5 4 h 1 6 1 5 1 8 a 4 1 h 1 4 1 h 3 t 1 a k t b 4 i t 1 4 p 6 3 5
   3 6 2 5 1 6 1 5 2 h 6 5 1 4 2 5 1 t 1q 4 7 t 1 4 1 t 1 4 4 t 1 4 f t 1 4 a h 1 t 6 4 1b 5 1 6
   3 5 8 t 5 8 a t 6 5 2 6 2 t 1 4 8 t 2 4 2 t 2 4 m t 1 4 7 t 1 4 2 t 1 4 5 t 1 5 2 4 1 6 2 5 1
   6 4 t 2 6 2 t 2 6 3 t 2 4 1 t 6 6 1 t 5 4 5 6 2 t 2 5 7 t 3 5 5 t b 4 a t 1 4 1 t 2 4 1 t 1 4
   12 t 1 4 1 6 3 5 6 t 1 6 1 t 2 6 1 t 1 6 4 t 1 6 2 5 1 6 1 5 1 4 1 5 1 4 1 h 2 t 1 h 2 t 8 5
   2 t t 4 1h 6 3 5 8 6 2 5 3 6 1 5 1 4 4 h 5 8 a h 2 t 1 h 1 5 1 4 3 t u 4 1c 6 3 5 6 6 1 5 1 6
   4 5 2 6 1 5 2 4 2 h 1 4 1 t 8 8 a t 4m 4 1b 6 3 5 4 t 2 6 4 5 2 6 1 5 2 h n 4 4 5 2 t y 4 1c
   6 3 5 8 6 2 5 1 6 1 5 2 h 3 4 1 t b 8 a t 6 h d t j 4 17 5 1 6 1 5 1 6 2 5 6 6 1 5 1 4 1 h 1
   t 6 8 a t 6 8 k t s 4 r t 2 5 1 6 1 5 1 6 2 5 4 6 1 5 5 t 4 8 a a 2 h 3 l 1 4 7 t 55 4 18 6 3
   5 9 6 1 5 2 h 1 t 2s 0 w 1 w 8 a a 9 t c 4 8 t 2 4 1 t 2 4 8 t 1 4 2 t 1 4 o 6 6 t 1 6 2 t 2
   5 2 6 1 5 1 4 1 6 1 4 1 6 1 5 1 h 3 t 9 8 a t 1y 4 8 t 2 4 13 6 3 5 4 t 2 5 2 6 4 5 1 4 1 h 1
   4 1 6 1 t r 4 1 5 a 4 14 5 6 6 1 4 1 5 4 h 8 5 1 t 8 4 1 5 6 6 2 5 3 4 1a 5 d 6 1 5 2 h 3 4 1
   h 5 t d 4 21 t 7 h a t 52 4 x h 1 t e 8 a t 6 4 9 t 1 4 11 6 1 5 7 t 1 5 6 6 1 5 1 4 1 h 5 t
   a 8 a a j t 3 h 2 4 u t 2 5 m t 1 6 1 5 7 6 1 5 2 6 1 5 2 t 21 4 7 t 1 4 2 t 1 4 12 5 6 t 3 5
   1 t 1 5 2 t 1 5 7 4 1 5 1 t 8 8 a t 6 4 6 t 1 4 2 t 1 4 w 6 5 t 1 5 2 t 1 6 2 5 1 6 1 5 1 4 1
   t 7 8 a t 8m 4 j 5 2 6 2 h 2 t 7 5 2 4 1 6 1 4 d t 1 4 y 6 2 5 5 t 3 6 2 5 1 6 1 5 1 h d 8 a
   5 1 t 2d 4 1 t f a l l 8 j 4 l h t d h 1 4 pm t 2u 9 33 t 1 h 5 t b 4 5g t 218 4 2p h 2 t d 4
   ts q g 5 1 4 6 5 f t a 4 32z t 5 4 g7 t 5a1 4 u 5 c 6 3 5 3 8 a t 1c6 4 ft t 7 4 v t 1 8 a t
   4 h 2 4 27 t 1 8 a t 6 4 u t 2 5 5 h 1 t a 4 1c 5 7 h 5 l 4 3 4 h 1 l 1 t a 8 a t 1 a 7 t 1 4
   l t 5 4 j t c0 3 3 4 14 3 2 h 3 8 a t 5i 0 w 1 w a n h 4 t 2t 4 23 t 4 5 1 4 1 6 1j t 7 5 4 3
   d t 1s 3 2 h 1 3 1 5 1 t b 6 2 t e 4 4qg t 8 4 ye t 15 4 a t 6w7 3 4 t 1 3 7 t 1 3 2 t 1 4 83
   t f 4 1 t t 4 3 t 2 4 1 t e 4 4 t 8 4 b0 t 1s4 4 2z t 5 4 d t 3 4 9 t 7 4 a t 2 l 1 5 2 h 1 q
   4 t 318 l 6o 8 a t 6 l c4 t 24 5 1a t 2 5 n t 9 l 38 t 1o l 6u t a l 13 t 2 l 1o 6 2 5 3 l 3
   6 6 q 8 5 8 l 2 5 7 l u 5 4 l 1p t l l 1u 5 3 l 1 t 3e a k t c a k t c l 2f t 9 a p t 3r 0 q
   1 q 0 q 1 7 t 1 1 i 0 q 1 q 0 1 t 1 0 2 t 2 0 1 t 2 0 2 t 2 0 4 t 1 0 8 1 4 t 1 1 1 t 1 1 7 t
   1 1 b 0 q 1 q 0 2 t 1 0 4 t 2 0 8 t 1 0 7 t 1 1 q 0 2 t 1 0 4 t 1 0 5 t 1 0 1 t 3 0 7 t 1 1 q
   0 q 1 q 0 q 1 q 0 q 1 q 0 q 1 q 0 q 1 q 0 q 1 s t 2 0 p i 1 1 p i 1 1 6 0 p i 1 1 p i 1 1 6 0
   p i 1 1 p i 1 1 6 0 p i 1 1 p i 1 1 6 0 p i 1 1 p i 1 1 6 0 1 1 1 t 2 8 1e l e8 5 1j l 4 5 1e
   l 8 5 1 l e 5 1 l 2 h 5 t f 5 5 t 1 5 f t uo 1 a 4 1 1 k t 6 1 6 t 5x 5 7 t 1 5 h t 2 5 7 t 1
   5 2 t 1 5 5 t 5 3 1q t x 5 1 t 34 4 19 t 3 5 7 3 7 t 2 8 a t 4 4 1 l 1 t 8w 4 u 5 1 t h 4 18
   5 4 8 a t 5 j 1 t cw 4 r 3 1 5 4 8 a t 5y 4 u 5 2 4 1 8 a t 4 h 1 t dc 4 7 t 1 4 4 t 1 4 2 t
   1 4 f t 1 4 5h t 2 a 9 5 7 t 15 0 y 1 y 5 7 3 1 t 4 8 a t 4 h 2 t lt a 1n l 1 a 3 j 1 a 4 t
   24 a 19 l 1 a f t 5e 4 4 t 1 4 r t 1 4 2 t 1 4 1 t 2 4 1 t 1 4 a t 1 4 4 t 1 4 1 t 1 4 1 t 6
   4 1 t 4 4 1 t 1 4 1 t 1 4 1 t 1 4 3 t 1 4 2 t 1 4 1 t 2 4 1 t 1 4 1 t 1 4 1 t 1 4 1 t 1 4 1 t
   1 4 2 t 1 4 1 t 2 4 4 t 1 4 7 t 1 4 4 t 1 4 4 t 1 4 1 t 1 4 a t 1 4 h t 5 4 3 t 1 4 5 t 1 4 h
   t 1g i 2 t 7i l 18 t 4 l 2s t c l f t 2 l f t 1 l f t 1 l 11 t a a d l 4h t 1k l t t d l 18 t
   4 l 9 t 7 l 2 t e l 6 t 4a l 6z k 5 l k8 t 4 l h t 3 l d t 3 l 3b t 4 l 2n t 6 l c t 4 l 1 t
   f l c t 4 l 1k t 8 l a t 6 l 14 t 8 l u t 2 l c t 4 l 2 t 1q l 9g t c l e t 2 l d t 3 l a t 5
   l 1k t 7 l f t 2 l b t 6 l 9 t 7 l 43 t 1 l 2k 8 a t sm 4 wyo t w 4 37e t 6 4 66 t 2 4 4g2 t
   e 4 5rl t f 4 ha t 1wi 4 f2 t 15u 4 3t7 t 5 4 38g t f975 q 1 t u q 2o t 3k 5 6o t 1e6o s 1eke
   t 2 s 1eke t 2"

def charSet (categories : List Category) : CharSet :=
  partition.select fun label => all[label]?.any categories.contains

/-- The categories that a name stands for; names are lower-case without blanks or underscores. No
character is a surrogate, so that category is not among them by itself. -/
def named : List (List String × List Category) :=
  [(["lu", "uppercaseletter"], [.uppercaseLetter]),
   (["ll", "lowercaseletter"], [.lowercaseLetter]),
   (["lt", "titlecaseletter"], [.titlecaseLetter]),
   (["lm", "modifierletter"], [.modifierLetter]),
   (["lo", "otherletter"], [.otherLetter]),
   (["mn", "nonspacingmark"], [.nonspacingMark]),
   (["mc", "spacingmark"], [.spacingMark]),
   (["me", "enclosingmark"], [.enclosingMark]),
   (["nd", "decimalnumber", "digit"], [.decimalNumber]),
   (["nl", "letternumber"], [.letterNumber]),
   (["no", "othernumber"], [.otherNumber]),
   (["pc", "connectorpunctuation"], [.connectorPunctuation]),
   (["pd", "dashpunctuation"], [.dashPunctuation]),
   (["ps", "openpunctuation"], [.openPunctuation]),
   (["pe", "closepunctuation"], [.closePunctuation]),
   (["pi", "initialpunctuation"], [.initialPunctuation]),
   (["pf", "finalpunctuation"], [.finalPunctuation]),
   (["po", "otherpunctuation"], [.otherPunctuation]),
   (["sm", "mathsymbol"], [.mathSymbol]),
   (["sc", "currencysymbol"], [.currencySymbol]),
   (["sk", "modifiersymbol"], [.modifierSymbol]),
   (["so", "othersymbol"], [.otherSymbol]),
   (["zs", "spaceseparator"], [.spaceSeparator]),
   (["zl", "lineseparator"], [.lineSeparator]),
   (["zp", "paragraphseparator"], [.paragraphSeparator]),
   (["cc", "control", "cntrl"], [.control]),
   (["cf", "format"], [.format]),
   (["co", "privateuse"], [.privateUse]),
   (["cn", "unassigned"], [.unassigned]),
   (["lc", "casedletter"], [.uppercaseLetter, .lowercaseLetter, .titlecaseLetter]),
   (["l", "letter"], [.uppercaseLetter, .lowercaseLetter, .titlecaseLetter, .modifierLetter,
    .otherLetter]),
   (["m", "mark", "combiningmark"], [.nonspacingMark, .spacingMark, .enclosingMark]),
   (["n", "number"], [.decimalNumber, .letterNumber, .otherNumber]),
   (["p", "punctuation", "punct"], [.connectorPunctuation, .dashPunctuation, .openPunctuation,
    .closePunctuation, .initialPunctuation, .finalPunctuation, .otherPunctuation]),
   (["s", "symbol"], [.mathSymbol, .currencySymbol, .modifierSymbol, .otherSymbol]),
   (["z", "separator"], [.spaceSeparator, .lineSeparator, .paragraphSeparator]),
   (["c", "other"], [.control, .format, .surrogate, .privateUse, .unassigned])]

def ofName (name : String) : Option (List Category) :=
  (named.find? fun entry => entry.1.contains name).map Prod.snd

end Category

end SandboxPolicy
