import SandboxPolicy.Text.CharSet

/-!
The age of a character: the edition of the character database that brought it.
-/

namespace SandboxPolicy.Age

def names : List (List String) :=
  [["1.1", "v11"], ["2.0", "v20"], ["2.1", "v21"], ["3.0", "v30"], ["3.1", "v31"], ["3.2", "v32"],
   ["4.0", "v40"], ["4.1", "v41"], ["5.0", "v50"], ["5.1", "v51"], ["5.2", "v52"], ["6.0", "v60"],
   ["6.1", "v61"], ["6.2", "v62"], ["6.3", "v63"], ["7.0", "v70"], ["8.0", "v80"], ["9.0", "v90"],
   ["10.0", "v100"], ["11.0", "v110"], ["12.0", "v120"], ["12.1", "v121"], ["13.0", "v130"],
   ["14.0", "v140"], ["15.0", "v150"], ["15.1", "v151"], ["16.0", "v160"]]

def partition : Partition := .ofTable
  "0 dy 3 4 0 u 3 8 5 1 6 1 3 i 6 3 7 b 8 e 0 2h 3 5 6 2 0 1b 3 1 0 a 3 5 6 h 0 1y 3 9 5 1 6 8 7
   5 6 3 0 2 3 1 5 d 9 4 0 2 9 2 r 2 0 1 8 3 0 1 f 1 r 4 0 7 r 1 0 1 r 1 0 k r 1 0 18 9 1 0 7 3
   1 5 2 0 1 3 1 0 1 3 1 0 1 3 1 0 1 3 1 0 i 4 2 5 1 6 5 7 4 3 1 0 c 3 1 0 1u 3 1 0 c 3 1 0 15 9
   1 3 2 5 2 3 4 0 1h 5 2 0 2 5 2 0 2 5 2 8 1 0 s 3 2 0 8 7 2 0 2 8 6 5 g 8 4 9 g a 2 b 2 f 8 r
   1 0 12 r 2 0 7 j 1 0 13 j 1 0 1 3 1 r 2 f 2 c 1 r 1 1 h 7 1 1 d 0 a 8 1 0 9 1 1 7 3 r 8 0 r r
   4 j 1 0 5 r b 6 4 c 1 f 1 9 5 7 1 0 1 6 9 9 5 0 1 e 1 n 1 7 1 0 1 b 1 0 q 9 5 0 j 3 3 6 3 7 6
   b 1 0 e 5 2 0 20 3 2 0 5 3 1 0 f 3 1 0 u 6 2 0 a 3 5 6 1 3 e r 1 3 u 6 3 3 r r 2 6 3 7 u 9 i
   3 1d 5 1 r e 8 1n r 2 j 3 a 1a r 2 a f r 1 b s r 2 b 1 r 1 i b r 5 n v r 1 n 2 r 5 q 1 n 8 c
   1 f 1 c b f 6 g 2 n 1 h 8 m a n b j 1 h f g 1 c r f 1 a 1 0 3 6 1 0 1h b 2 0 i a 1 b 1 0 5 a
   1 b 2 0 p 9 2 b 5 f 1 a 2 8 2 7 1 8 2 f 1 0 3 r 1 0 8 r 2 0 2 r 2 0 m r 1 0 7 r 1 0 1 r 3 0 4
   r 2 0 1 6 1 0 7 r 2 0 2 r 2 0 3 7 1 r 8 0 1 r 4 0 2 r 1 0 5 r 2 0 l a 1 i 2 j 1 r 2 6 1 0 1 6
   1 r 1 0 6 r 4 0 2 r 2 0 m r 1 0 7 r 1 0 2 r 1 0 2 r 1 0 2 r 2 0 1 r 1 0 5 r 4 0 2 r 2 0 3 r 3
   9 1 r 7 0 4 r 1 0 1 r 7 0 f 9 1 j 1 r a 0 3 r 1 0 7 6 1 0 1 r 1 0 3 r 1 0 m r 1 0 7 r 1 0 2 r
   1 0 5 r 2 0 a r 1 0 3 r 1 0 3 r 2 0 1 r f 0 1 6 3 r 2 0 a c 1 6 1 r 7 g 1 i 6 r 1 0 3 r 1 0 8
   r 2 0 2 r 2 0 m r 1 0 7 r 1 0 2 r 1 6 1 0 4 r 2 0 8 9 1 r 2 0 2 r 2 0 3 r 7 m 1 0 2 r 4 0 2 r
   1 0 3 9 2 r 2 0 b 6 1 b 6 r a 0 2 r 1 0 6 r 3 0 3 r 1 0 4 r 3 0 2 r 1 0 1 r 1 0 2 r 3 0 2 r 3
   0 3 r 3 0 8 7 1 0 3 r 4 0 5 r 3 0 3 r 1 0 4 r 2 9 1 r 6 0 1 r e 7 1 0 c 6 8 r 5 f 1 0 3 j 1 0
   8 r 1 0 3 r 1 0 n r 1 0 a f 1 0 5 r 2 n 1 9 1 0 7 r 1 0 3 r 1 0 4 r 7 0 2 r 1 9 2 g 1 r 2 n 1
   r 2 0 2 9 2 r 2 0 a r 7 k 1 9 8 h 1 f 1 0 2 j 1 0 8 r 1 0 3 r 1 0 n r 1 0 a r 1 0 5 r 2 6 2 0
   7 r 1 0 3 r 1 0 4 r 7 0 2 r 6 n 1 0 1 r 1 0 2 8 2 r 2 0 a r 1 8 2 o 1 r c i 1 f 1 0 2 m 1 0 8
   r 1 0 3 r 1 0 n b 1 0 g b 1 i 2 9 1 0 6 9 1 r 1 0 3 r 1 0 4 b 1 h 1 r 4 h 3 0 1 h 7 g 1 0 2 9
   2 r 2 0 a 9 6 h 3 9 7 r 1 m 1 3 2 r 1 3 i r 3 3 o r 1 3 9 r 1 3 1 r 2 3 7 r 3 3 1 r 4 3 6 r 1
   3 1 r 1 3 8 r 6 f a r 2 3 3 r c 0 1m r 4 0 t r 11 0 2 r 1 0 1 r 1 k 1 0 2 k 1 0 1 r 1 k 1 0 1
   k 6 0 4 k 1 0 7 k 1 0 3 r 1 0 1 r 1 0 1 k 2 0 2 k 1 0 d k 1 0 3 r 2 0 5 r 1 0 1 r 1 0 6 o 1 r
   1 0 a r 2 0 2 c 2 r w 1 20 r 1 1 x 3 1 9 2 r 4 1 r b 4 1 6 3 1 1 1 r 1 1 l 3 3 1 7 3 1 1 1 3
   3 r 1 3 f r 1 9 1 3 1 7 2 9 3 a 4 b 2 r 11 3 y 9 1 3 5 9 1 3 2 9 1 3 7 9 3 3 4 9 6 3 q 9 1s a
   4 9 2 0 12 r 1 c 1 r 5 c 1 r 2 0 13 5 2 7 2 0 1 7 1 c 3 0 2i a 5 0 1w a 5 0 2a a 6 3 7 7 1 3
   1r 7 1 3 1 r 1 3 4 r 2 3 7 r 1 3 1 r 1 3 4 r 2 3 13 7 1 3 1 r 1 3 4 r 2 3 v 7 1 3 1 r 1 3 4 r
   2 3 7 r 1 3 1 r 1 3 4 r 2 3 7 7 1 3 7 r 1 3 n 7 1 3 v 7 1 3 1 r 1 3 4 r 2 3 7 7 1 3 13 7 1 3
   j r 2 b 2 7 2 3 s r 3 7 q r 6 3 2d g 1 r 2 g 6 r 2 a 1 3 hi a 9 3 t r 3 3 29 f 8 r 7 5 d n 1
   5 7 n 1 r 9 n 1 5 n r 9 5 k r c 5 d r 1 5 3 r 1 5 2 r c 3 2l 6 1 r 2 3 a r 6 6 a r 6 3 f n 1
   3 a r 6 3 2g j 1 r 7 3 16 9 1 r 5 a 1y r a 6 t f 2 r 1 6 c r 4 6 c r 4 6 1 r 3 6 16 r 2 6 5 r
   b 7 16 a 2 r 4 7 q r 6 7 a a 1 r 3 7 2 6 w 7 s r 2 7 2 a 1r r 1 a t r 2 a b r 6 a a r 6 a e r
   2 f f m 2 n e r 1d 8 24 n 1 r 1 q 2 8 19 n 2 q 1 9 17 c 3 9 c c 6 b 1g r 8 b 4 9 1k r 3 9 f r
   3 9 1f h 9 q 2 r 5 j 17 r 2 j 3 c 8 r 8 a z c 4 i 1 f 2 k 1 r 5 6 30 7 2g 8 7 9 s f f i 4 n 1
   h 1 b 1 a 1 8 2 0 4b 1 1 9 4 0 2i 9 6 0 m r 2 0 6 r 2 0 12 r 2 0 6 r 2 0 8 r 1 0 1 r 1 0 1 r
   1 0 1 r 1 0 v r 2 0 1h r 1 0 f r 1 0 e r 2 0 6 r 1 0 j r 2 0 3 r 1 0 9 r 1 0 1b 3 1 0 n 5 1 3
   6 5 5 6 2 7 2 5 1 7 7 5 5 9 1 r 1 e 4 0 7 5 1 r 2 0 r r 1 7 5 b 8 r 3 0 b 1 1 2 1 3 3 5 2 7 4
   a 3 b 1 d 1 f 3 g 1 i 1 n 1 r f 0 i 3 2 5 7 7 1 8 4 9 1 r f 0 1l 3 2 6 1 7 1 5 f 7 1 8 2 9 1
   a 3 0 1c 3 1 8 1 9 4 a 1 g 2 r 4 0 2j 3 9 5 c 0 6q 5 e 0 1 3 1 0 3d 3 1 5 1 3 u 5 1g 6 2 7 b
   8 c a 1 b b f 7 h 4 i 1 0 11 3 2 q 3 r m 0 b r l 0 3v 5 k 6 1 0 46 5 a 0 28 3 8 5 8 0 k 6 2 5
   2 7 1 3 1 0 2e 3 2 5 c 7 2 5 a 6 8 7 b 9 1 a 2 6 2 7 g 8 1 9 a a 3 9 4 a a b 1 a j b 1 a 1 b
   4 a o f 1 0 4 b 1 0 4 b 2 0 s b 1 0 z b 1 0 1 b 1 0 4 b 3 0 1 a 1 0 7 b 2 0 7 5 e 0 v b 3 0 o
   b 1 0 e b 1 7 7 8 4 c 1 9 1 c 1 b 2 5 s 9 4 5 g 3 74 5 e8 6 e 7 6 8 7 9 5 8 4 9 15 f 3 9 5 a
   5 f q r 2 f w r 1 m 1 f y j 3 f c k 1 f 8 i 1 j p g 4 j f k 1 7 1b n 1 7 1b n 1 8 d 9 3 a 1 9
   3 8 4 9 6 a 2 7 2z a 7 c 2 r 5 7 19 r 1 c 1 r 5 c 1 r 2 7 1i c 2 r 7 7 1 b 1 r e b 1 7 n r 9
   7 7 r 1 7 7 r 1 7 7 r 1 7 7 r 1 7 7 r 1 7 7 r 1 7 7 r 1 7 7 r 1 9 w 7 o 9 4 7 2 9 j a 1 c a f
   7 h 2 i 5 j 5 k 1 m 3 n b r y 3 q r 1 3 2h r c 3 5y r q 3 c p 4 0 1k 3 3 5 3 3 1 0 1 r 1 0 2c
   5 2 r 2 0 6 5 2 0 2m 5 1 r 5 0 14 9 1 i 1 j 1 r 1 0 2m r 1 0 g 3 o b 3 m 5 7 g 9 k q 2 r 9 p
   1 5 g 0 t 6 2 r 1 0 10 a c 6 1 5 f 0 s 6 2 7 1 0 1e 5 f 0 c 6 4 0 1b l 1 0 3b 6 4 0 2r 6 2 0
   v 6 1 3 52u m a 6 1s 0 g4m 7 m 9 8 a 8 c 1 g 9 i l j 5 m d n 3 3 wd r 3 3 i 5 2 3 g 5 1 3 c 5
   1 3 3 5 1 3 1 r 9 a 1c 9 8c r k 9 w b 2 9 i c 8 9 s f 6 g 1 c 1 a 2g r 8 7 n 8 4 9 5 8 2 9 2z
   b 2 g 1 b 2 c 2 f c b a c 1 f 3 h 1 j 1 f 2 g 6 j 2 k 6 n 2 k 5 m 4 q 3 r 2 n 2 r 1 n 1 r 1 n
   5 q 3 r l n 3 m 2 f 1 c 2 b 1 9 5 7 18 m 1 r 3 a a r 6 8 1k r 8 9 1x h 1 r 8 9 c r 6 a s g 2
   j 2 9 2c r b 9 1 a t r 3 a 26 r 1 a b r 4 a 2 f v r 1 9 1j r 9 9 e r 2 9 a r 2 9 4 a s f 4 a
   1v r o a 5 c n r a b 6 r 2 b 6 r 2 b 6 r 9 b 7 r 1 b 7 r 1 f 1c g 4 f 2 k 2 m 4 r 4 g 28 a 1a
   r 2 a a r 6 1 8mc r c a n r 4 a 1d r 1l0 0 566 c 2 5 1n a 3 r 2 7 2y r 12 0 7 r c 0 5 r 5 3 1
   0 p r 1 0 5 r 1 0 1 r 1 0 2 r 1 0 2 r 1 0 30 b g n 1 r g 0 a5 n g 0 1s r 2 0 1i r 7 n 1 4 w 0
   c 5 1 6 1 n 2 5 g 7 a r 6 0 4 9 3 f 7 g 2 0 l 5 2 6 2 0 a r 1 0 j r 1 0 4 r 4 0 3 5 1 0 1 r 1
   0 3r r 2 0 1 r 1 0 2m 5 2 0 2m r 3 0 6 r 2 0 6 r 2 0 6 r 2 0 3 r 3 0 7 r 1 0 7 r a 3 3 2 1 0
   3 6 c r 1 6 q r 1 6 j r 1 6 2 r 1 6 f r 2 6 e r y 6 3f r 5 6 3 r 4 6 19 r 3 6 9 7 23 f 2 h 2
   r 1 9 c m 1 r 3 f 1 r 1b 9 1a r 3m 9 t r 3 9 1d r f f s r 4 4 v f 1 4 4 r 9 i 3 4 r r 5 f 17
   r 5 6 u r 1 6 1 7 10 r 4 7 e r 16 4 12 6 2 4 12 6 28 r 2 6 a r 6 h 10 r 4 h 10 r 4 f 14 r 8 f
   1g r b f 1 n b r 1 n f r 1 n 7 r 1 n 2 r 1 n b r 1 n f r 1 n 7 r 1 n 2 r 3 q 1g r c f 8n r 9
   f m r a f 8 r o n 6 r 1 n 16 r 1 n 9 r 1x 6 6 r 2 6 1 r 1 6 18 r 1 6 2 r 3 6 1 r 2 6 1 a m r
   1 a 9 f 1r r 8 f 9 r 1c g j r 1 g 2 r 5 g 5 8 q a 2 r 3 8 1 9 q r 5 9 1 r 1s c 1k r 4 g 2 c 2
   g g r 2 g 1a 7 4 r 1 7 2 r 5 7 8 r 1 7 3 r 1 7 r j 2 r 2 7 3 r 4 7 9 j 1 r 7 7 9 r 7 a w f w
   r w f 13 r 4 f c r 9 a 1i r 3 a t r 2 a r r 5 a 8 f i r 7 f 4 r c f 7 r 28 a 21 r 1j g 1f r d
   g 1f r 7 g 6 j 14 r 8 j a r 6 q 12 r 3 q t r 8 q 2 r 5s a v r 1 m 16 r 1 m 3 r 2 m 2 r g q 3
   r 1j q 1 o 3 j 14 r 8 j 16 r m n q r 12 m s r k k n r 9 b 26 r 4 b u n 6 r 9 f 1 a 1u n 1 r a
   j 1 r 2 c p r 7 c a r 6 c 1h r 1 c e j 3 m 1 r 8 f 13 r 9 c 21 g 4 f 1 m 2 c a f 1 g 5 r 1 f
   k r b f i r 1 f 17 h 1 o 3 r 1q g 7 r 1 g 1 r 1 g 4 r 1 g f r 1 g b r 6 f 1n r 5 f a r 6 g 1
   f 3 r 1 f 8 r 2 f 2 r 2 f m r 1 f 7 r 1 f 2 r 1 f 5 r 1 j 1 f 9 r 2 f 2 r 2 f 3 r 2 g 1 r 6 f
   1 r 5 f 7 r 2 f 7 r 3 f 5 r b q a r 1 q 1 r 2 q 1 r 1 q 12 r 1 q a r 1 q 1 r 2 q 1 r 1 q 4 r
   1 q a r 1 q 2 r 8 q 2 r t h 2i m 1 h 1 r 1 h 1 j 1 k 1 m 2 r u f 20 r 8 f a r 4m f 1i r 2 f i
   g k r y f 1x r b f a r 6 h d r j c 1k k 1 n 1 r 6 c a r 6 q k r s g q j 1 r 2 g f r 4 g g n 7
   r 55 j 1o r 2s f 2b r c f 1 m 7 r 2 m 1 r 2 m 8 r 1 m 2 r 1 m u r 1 m 2 r 2 m c r 9 m a r 1y
   k 8 r 2 k 1a r 2 k b r r i 20 r 8 i 1g k 2 i n j 1 i 5 r d n g f 1l r 7 o a r 52 q y r e q a
   r 6 h 9 r 1 h 19 r 1 h e r a h t r 3 h w r 2 h m r 1 h e r 21 i 7 r 1 i 2 r 1 i 18 r 3 i 1 r
   1 i 2 r 1 i 9 r 8 i a r 6 j 6 r 1 j 2 r 1 j 11 r 1 j 2 r 1 j 6 r 7 j a r 8m j p r 7 o h r 1 o
   15 r 3 o s q 1 r 2d m 1 r f k 1e r d k 1 8 of f 16 g 1 r 2u 8 2r f c r 1 8 4 f 1 r b g 5g r
   218 n 2r r d a tr o 1 k 9 o t r a q 32z r 5 g g7 r 5a1 q 1m r 1c6 b ft r 7 f v r 1 f a r 4 f
   2 n 27 r 1 n a r 6 f u r 2 f 6 r a f 1y r a f a r 1 f 7 r 1 f l r 5 f j r c0 q 1m r 5i j 2j r
   2t c 1x k 6 r 4 k 1 c 1b k 9 r 7 c h r 1s h 1 i 1 k 2 m 1 r b m 2 r e h 4q5 j 5 k 6 r 8 h kz
   m df r 15 q 1 m 9 r 6w7 n 4 r 1 n 7 r 1 n 2 r 1 b 2 i 7x n 4 r f o 1 r t k 3 r 2 o 1 r e k 4
   r 8 i b0 r 1s4 f 2z r 5 f d r 3 f 9 r 7 f a r 2 f 8 r 318 q 6y r 6 q c4 r 24 n 1a r 2 n n r 9
   n 38 r 1o 4 6u r a 4 13 r 2 9 1 4 50 g b n 2 r l 7 1y r 3e o k r c j k r c 6 2f r 9 8 i j 7 r
   3r 4 2d r 1 4 1z r 1 4 2 r 2 4 1 r 2 4 2 r 2 4 4 r 1 4 c r 1 4 1 r 1 4 4 6 1 4 2 r 1 4 1t r 1
   4 4 r 2 4 8 r 1 4 7 r 1 4 s r 1 4 4 r 1 4 5 r 1 4 1 r 3 4 7 r 1 4 9e 7 2 r 2 4 82 8 2 r 2 4
   1e g i4 r f g 5 r 1 g f r uo n v r 6 o 6 r 5x h 7 r 1 h h r 2 h 7 r 1 h 2 r 1 h 5 r 5 o 1q r
   x o 1 r 34 k 19 r 3 k e r 2 k a r 4 k 2 r 8w n v r h k 1m r 5 k 1 r cw o 16 r 5y q 17 r 4 q 1
   r dc n 7 r 1 n 4 r 1 n 2 r 1 n f r 1 f 5h r 2 f g r 15 h 23 k 1 r 4 h a r 4 h 2 r lt j 1w r
   24 k 1p r 5e c 4 r 1 c r r 1 c 2 r 1 c 1 r 2 c 1 r 1 c a r 1 c 4 r 1 c 1 r 1 c 1 r 6 c 1 r 4
   c 1 r 1 c 1 r 1 c 1 r 1 c 3 r 1 c 2 r 1 c 1 r 2 c 1 r 1 c 1 r 1 c 1 r 1 c 1 r 1 c 1 r 1 c 2 r
   1 c 1 r 2 c 4 r 1 c 7 r 1 c 4 r 1 c 4 r 1 c 1 r 1 c a r 1 c h r 5 c 3 r 1 c 5 r 1 c h r 1g c
   2 r 7i 9 18 r 4 9 2s r c b f r 2 b e f 1 r 1 b f r 1 b f f m r a a b f 2 m 3 a v j 1 b 1 a 1
   b b a 1 b 1 a 1 b 2 a 1 b 3 a 1 b 3 a 5 b 8 a 1 b 7 a 1 b a c 2 k 1 m 3 b 9 a 1 b 1 a 2 b 2 a
   1 b a a 4 b 2 a 1 b a h i m 1 r 1k b q a 1 b 2 r d a y b 9 h 1 r 4 a 9 r 7 b 2 r e i 6 r 4a b
   x f c g 3 b 6 f 1 b 1y f 1 g 2 b k f c b 11 f 1 b 5 f 4 g 5 f c b h f 7 g 8 b 1r f 1 b 1 f 1
   b 52 f 1 b 4 f 2 g 1 b 1q f 2 c 4 f 7 g 5 b o f i h 1 f 15 h 1 f 2e b 5 c 1 b g c 1 b 3 c 1 b
   1 c 1 b 1 c 1 b 1 c 1 b 3 c 1 b 6 c 2 b 4 c 1 b 1 c 2 b 4 c 1 b c f 2 g 2 b b f 1c b 1y f a g
   1 h 2 i 2 k 1 m 2 r 4 o 1 n 3 f d r 3 f 4 h 3 i 2 j 1 k 1 m 2 r 3 b 38 o 3 r 4 o 5 f 2d j 4 o
   1 r 6 k c r 4 n 1 r f f c r 4 f 1k r 8 f a r 6 f 14 r 8 f u r 2 m 2 q a r 4 q 2 r 1q i c m 1
   k 3 g 9 h 6 i 1 h 8 i 8 h 1 i 2 h c k 1 h c i 1 j 3 h f i d j 5 k 1 m 1 j 4 m 2 n 1 j 1 k 1 j
   4 g 5 h d i 6 j b m 2 k 6 m 3 k 2 j a k 6 g 1 j 2 k 8 m 1 n 1 k 3 i n j p k 2c r c j e r 2 k
   4 m 1 o 3 k 3 n 2 r 3 k 3 m 4 o 2 q 1 r 5 q 1 k 6 m j n 4 o 3 m 7 n 4 o 3 q 1 o 1 m 3 n 3 q 1
   r 7 o 2 m 7 n 3 o 2 q 1 r 2 q 1 n 8 o 1 q 1 r 6 n 7 o 2 r 7 m 43 r 1 m 1j q 11 m a r sk 1 2 4
   wyf m 7 n 2 r w a 379 n 4 o 1 r 6 b 66 r 2 g 4g2 r e i 5rl r f p ha r 1wi 4 f2 r 15s 1 2 m
   3t7 r 5 o 38g r 17im 1 2 r 1eke 1 2 r 1eke 1 2 r 1eke 1 2 r 1eke 1 2 r 1eke 1 2 r 1eke 1 2 r
   1eke 1 2 r 1eke 1 2 r 1eke 1 2 r 1eke 1 2 r 1 4 1 r u 4 2o r 3k 6 6o r 1e6m 1 2t4y"

/-- The characters of the edition with the given normalised name, which are those of the editions
before it and its own. -/
def charSet (name : String) : Option CharSet :=
  (names.findIdx? fun aliases => aliases.contains name).map fun wanted =>
    partition.select (· ≤ wanted)

end SandboxPolicy.Age
