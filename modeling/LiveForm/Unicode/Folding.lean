import LiveForm.Unicode.CharSet

/-!
# Letters that differ in case only

Simple case folding divides the letters into classes of two to four. Most are pairs; the table
gives them as runs: the first letter, how many follow at what stride, and the distance to the other
letter of each pair. The classes of three and four are listed.
-/

namespace LiveForm.Unicode

/-- First letter, count, stride and distance of each run of pairs. -/
def pairRuns : String :=
  String.join
    ["65 10 1 32 76 8 2 32 77 3 2 32 85 3 2 32 192 16 2 32 193 2 2 32 199 8 2 32 217 3 2 32 223 ",
     "1 1 7615 255 1 1 121 256 24 2 1 306 3 2 1 313 8 2 1 330 23 2 1 377 3 2 1 384 1 1 195 385 ",
     "1 1 210 386 2 2 1 390 1 1 206 391 1 1 1 393 2 1 205 395 1 1 1 398 1 1 79 399 1 1 202 400 ",
     "1 1 203 401 1 1 1 403 1 1 205 404 1 1 207 405 1 1 97 406 1 1 211 407 1 1 209 408 1 1 1 41",
     "0 1 1 163 411 1 1 42561 412 1 1 211 413 1 1 213 414 1 1 130 415 1 1 214 416 3 2 1 422 1 1 ",
     "218 423 1 1 1 425 1 1 218 428 1 1 1 430 1 1 218 431 1 1 1 433 2 1 217 435 2 2 1 439 1 1 21",
     "9 440 1 1 1 444 1 1 1 447 1 1 56 461 8 2 1 478 9 2 1 500 1 1 1 504 20 2 1 546 9 2 1 570 1 ",
     "1 10795 571 1 1 1 574 1 1 10792 575 2 1 10815 577 1 1 1 580 1 1 69 581 1 1 71 582 5 2 1 59",
     "2 1 1 10783 593 1 1 10780 594 1 1 10782 604 1 1 42319 609 1 1 42315 612 1 1 42343 613 1 1 ",
     "42280 614 1 1 42308 618 1 1 42308 619 1 1 10743 620 1 1 42305 625 1 1 10749 637 1 1 10727 ",
     "642 1 1 42307 647 1 1 42282 669 1 1 42261 670 1 1 42258 880 2 2 1 886 1 1 1 891 3 1 130 89",
     "5 1 1 116 902 1 1 38 904 3 1 37 908 1 1 64 910 2 1 63 913 2 2 32 916 2 2 32 919 1 1 32 92",
     "3 3 2 32 926 1 1 32 932 2 1 32 935 2 1 32 938 2 1 32 975 1 1 8 984 12 2 1 1010 1 1 7 1015 ",
     "1 1 1 1018 1 1 1 1024 16 1 80 1040 2 1 32 1043 7 2 32 1046 4 2 32 1056 1 1 32 1059 7 1 32 ",
     "1067 5 1 32 1120 1 1 1 1124 15 2 1 1162 27 2 1 1216 1 1 15 1217 7 2 1 1232 48 2 1 1329 38 ",
     "1 48 4256 38 1 7264 4295 1 1 7264 4301 1 1 7264 4304 43 1 3008 4349 3 1 3008 5024 80 1 388",
     "64 5104 6 1 8 7305 1 1 1 7545 1 1 35332 7549 1 1 3814 7566 1 1 35384 7680 48 2 1 7778 26 ",
     "2 1 7840 48 2 1 7936 8 1 8 7952 6 1 8 7968 8 1 8 7984 8 1 8 8000 6 1 8 8017 4 2 8 8032 8 ",
     "1 8 8048 2 1 74 8050 4 1 86 8054 2 1 100 8056 2 1 128 8058 2 1 112 8060 2 1 126 8064 8 1 ",
     "8 8080 8 1 8 8096 8 1 8 8112 2 1 8 8115 1 1 9 8131 1 1 9 8144 2 1 8 8160 2 1 8 8165 1 1 7 ",
     "8179 1 1 9 8498 1 1 28 8544 16 1 16 8579 1 1 1 9398 26 1 26 11264 48 1 48 11360 1 1 1 1136",
     "7 3 2 1 11378 1 1 1 11381 1 1 1 11392 50 2 1 11499 2 2 1 11506 1 1 1 42560 5 2 1 42572 17 ",
     "2 1 42624 14 2 1 42786 7 2 1 42802 31 2 1 42873 2 2 1 42878 5 2 1 42891 1 1 1 42896 2 2 1 ",
     "42900 1 1 48 42902 10 2 1 42931 1 1 928 42932 8 2 1 42951 2 2 1 42956 8 2 1 42997 1 1 1 65",
     "313 26 1 32 66560 40 1 40 66736 36 1 40 66928 19 2 39 66929 5 2 39 66941 7 2 39 66957 3 2 ",
     "39 66965 1 1 39 68736 51 1 64 68944 22 1 32 71840 32 1 32 93760 32 1 32 93856 25 1 27 1251",
     "84 34 1 34"]

/-- The classes of more than two letters. -/
def largeClasses : List (List Nat) :=
  [[0x4B, 0x6B, 0x212A], [0x53, 0x73, 0x17F], [0xB5, 0x39C, 0x3BC], [0xC5, 0xE5, 0x212B],
   [0x1C4, 0x1C5, 0x1C6], [0x1C7, 0x1C8, 0x1C9], [0x1CA, 0x1CB, 0x1CC], [0x1F1, 0x1F2, 0x1F3],
   [0x345, 0x399, 0x3B9, 0x1FBE], [0x392, 0x3B2, 0x3D0], [0x395, 0x3B5, 0x3F5],
   [0x398, 0x3B8, 0x3D1, 0x3F4], [0x39A, 0x3BA, 0x3F0], [0x3A0, 0x3C0, 0x3D6],
   [0x3A1, 0x3C1, 0x3F1], [0x3A3, 0x3C2, 0x3C3], [0x3A6, 0x3C6, 0x3D5], [0x3A9, 0x3C9, 0x2126],
   [0x412, 0x432, 0x1C80], [0x414, 0x434, 0x1C81], [0x41E, 0x43E, 0x1C82],
   [0x421, 0x441, 0x1C83], [0x422, 0x442, 0x1C84, 0x1C85], [0x42A, 0x44A, 0x1C86],
   [0x462, 0x463, 0x1C87], [0x1C88, 0xA64A, 0xA64B], [0x1E60, 0x1E61, 0x1E9B]]

/-- Split a list into fours. -/
def fours : List Nat → List (Nat × Nat × Nat × Nat)
  | a :: b :: c :: d :: rest => (a, b, c, d) :: fours rest
  | _ => []

/-- The runs of pairs. -/
def pairTable : List (Nat × Nat × Nat × Nat) := fours (readNumbers pairRuns)

/-- The code points of a range that are a run's letters, moved by a distance. -/
def moved (lo hi first count stride : Nat) (distance : Int) : List (Nat × Nat) :=
  let last := first + (count - 1) * stride
  if hi < first || last < lo then []
  else
    let start := if lo ≤ first then 0 else (lo - first + stride - 1) / stride
    let stop := if last ≤ hi then count else (hi - first) / stride + 1
    (List.range' start (stop - start)).map fun i =>
      let n := (((first + i * stride : Nat) : Int) + distance).toNat
      (n, n)

/-- The other members of the classes of the code points of a range. -/
def foldRange (lo hi : Nat) : CharSet :=
  pairTable.flatMap (fun (first, count, stride, distance) =>
    moved lo hi first count stride distance ++
      moved lo hi (first + distance) count stride (-(distance : Int))) ++
  largeClasses.flatMap (fun letters =>
    if letters.any fun n => lo ≤ n && n ≤ hi then letters.map fun n => (n, n) else [])

/-- The set with all members of the classes of its members. -/
def closeUnderCase (s : CharSet) : CharSet :=
  CharSet.join (s ++ s.flatMap fun (lo, hi) => foldRange lo hi)

end LiveForm.Unicode
