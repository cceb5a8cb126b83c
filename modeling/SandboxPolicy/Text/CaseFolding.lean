import SandboxPolicy.Text.CharSet

/-!
Simple case folding: the classes of characters that differ only in case.
-/

namespace SandboxPolicy.CaseFolding

/-- Runs of classes of two: first code point, distance to its partner, count and step. -/
def pairTable : String :=
  "1t w a 1 24 w 7 1 2c w 7 1 5c w 5 1 5i w h 1 60 w 7 1 67 5vj 1 1 73 3d 1 1 74 1 o 2 8i 1 3 2
   8p 1 8 2 96 1 n 2 ah 1 3 2 ao 5f 1 1 ap 5u 1 1 aq 1 2 2 au 5q 1 1 av 1 1 1 ax 5p 2 1 az 1 1 1
   b2 27 1 1 b3 5m 1 1 b4 5n 1 1 b5 1 1 1 b7 5p 1 1 b8 5r 1 1 b9 2p 1 1 ba 5v 1 1 bb 5t 1 1 bc 1
   1 1 be 4j 1 1 bf wu9 1 1 bg 5v 1 1 bh 5x 1 1 bi 3m 1 1 bj 5y 1 1 bk 1 3 2 bq 62 1 1 br 1 1 1
   bt 62 1 1 bw 1 1 1 by 62 1 1 bz 1 1 1 c1 61 2 1 c3 1 2 2 c7 63 1 1 c8 1 1 1 cc 1 1 1 cf 1k 1
   1 ct 1 8 2 da 1 9 2 dw 1 1 1 e0 1 k 2 f6 1 9 2 fu 8bv 1 1 fv 1 1 1 fy 8bs 1 1 fz 8cf 2 1 g1 1
   1 1 g4 1x 1 1 g5 1z 1 1 g6 1 5 2 gg 8bj 1 1 gh 8bg 1 1 gi 8bi 1 1 gs wnj 1 1 gx wnf 1 1 h0
   wo7 1 1 h1 wmg 1 1 h2 wn8 1 1 h6 wn8 1 1 h7 8af 1 1 h8 wn5 1 1 hd 8al 1 1 hp 89z 1 1 hu wn7 1
   1 hz wmi 1 1 il wlx 1 1 im wlu 1 1 og 1 2 2 om 1 1 1 or 3m 3 1 ov 38 1 1 p2 12 1 1 p4 11 3 1
   p8 1s 1 1 pa 1r 2 1 pc 5kz 1 1 pd w 2 2 pg w 2 2 pj w 1 1 pn w 2 2 pq w 2 1 pw w 2 1 pz w 2 1
   q2 w 2 1 q8 5kj 1 1 r3 8 1 1 rc 1 c 2 s2 7 1 1 s7 1 1 1 sa 1 1 1 sg 28 g 1 sw w 2 1 sz w 2 2
   t2 w 8 1 tb w 2 1 tf w 7 1 tn w 5 1 v4 1 1 1 v8 1 f 2 wa 1 r 2 xs f 1 1 xt 1 7 2 y8 1 1c 2
   10x 1c 12 1 3a8 5ls 12 1 3bb 5ls 1 1 3bh 5ls 1 1 3bk 2bk 17 1 3ct 2bk 3 1 3vk tzk 28 1 3xs 8
   6 1 5mx 1 1 1 5tl r9g 1 1 5tp 2xy 1 1 5u6 raw 1 1 5xc 1 1c 2 602 1 q 2 61s 1 1c 2 64g 8 8 1
   64w 8 6 1 65c 8 8 1 65s 8 8 1 668 8 6 1 66p 8 4 2 674 8 8 1 67k 22 2 1 67m 2e 4 1 67q 2s 2 1
   67s 3k 2 1 67u 34 2 1 67w 3i 2 1 680 8 8 1 68g 8 8 1 68w 8 8 1 69c 8 2 1 69f 9 1 1 69v 9 1 1
   6a8 8 2 1 6ao 8 2 1 6at 7 1 1 6b7 9 1 1 6k2 s 1 1 6lc g g 1 6mb 1 1 1 792 q q 1 8ow 1c 1c 1
   8rk 1 1 1 8rr 1 3 2 8s2 1 1 1 8s5 1 1 1 8sg 1 1e 2 8vf 1 2 2 8vm 1 1 1 wu8 1 5 2 wuk 1 h 2
   ww0 1 e 2 x0i 1 7 2 x0y 1 v 2 x2x 1 2 2 x32 1 5 2 x3f 1 1 1 x3k 1 2 2 x3o 1c 1 1 x3q 1 a 2
   x4j ps 1 1 x4k 1 8 2 x53 1 2 2 x58 1 1 1 x5c 1 1 1 x5i 1 3 2 x6d 1 1 1 1dl1 1 1 1 1ee9 w q 1
   1fcw 14 14 1 1fhs 14 10 1 1fn4 13 b 1 1fng 13 f 1 1fnw 13 7 1 1fo4 13 2 1 1h1c 1s 1f 1 1h74 w
   m 1 1jfk w w 1 20cg w w 1 2olc y y 1"

def largeClasses : List (List Nat) :=
  [[75, 107, 8490], [83, 115, 383], [181, 924, 956], [197, 229, 8491], [452, 453, 454],
   [455, 456, 457], [458, 459, 460], [497, 498, 499], [837, 921, 953, 8126], [914, 946, 976],
   [917, 949, 1013], [920, 952, 977, 1012], [922, 954, 1008], [928, 960, 982], [929, 961, 1009],
   [931, 962, 963], [934, 966, 981], [937, 969, 8486], [1042, 1074, 7296], [1044, 1076, 7297],
   [1054, 1086, 7298], [1057, 1089, 7299], [1058, 1090, 7300, 7301], [1066, 1098, 7302],
   [1122, 1123, 7303], [7304, 42570, 42571], [7776, 7777, 7835]]

def pairsOfRuns : List Nat → List (List Nat)
  | first :: distance :: count :: step :: rest =>
      (List.range count).map (fun index =>
        [first + step * index, first + step * index + distance]) ++ pairsOfRuns rest
  | _ => []

def classes : List (List Nat) := pairsOfRuns (tableNumbers pairTable) ++ largeClasses

/-- Adds to the set every character that differs from a member only in case. -/
def close (set : CharSet) : CharSet :=
  set.union (.ofRanges ((classes.filter fun members =>
    members.any fun code => set.meets code code).flatten.map fun code => (code, code)))

def closeAscii (set : CharSet) : CharSet :=
  set.union (.ofRanges ((List.range 26).flatMap fun index =>
    let upper := 'A'.toNat + index
    let lower := 'a'.toNat + index
    if set.meets upper upper || set.meets lower lower then [(upper, upper), (lower, lower)]
    else []))

end SandboxPolicy.CaseFolding
