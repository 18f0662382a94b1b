-- SUMMARY: The ASCII letters that other characters are made of.
import Docsmith.Text.NormalForm

/-!
# ASCII parts

Many characters decompose into ASCII characters and marks: an accented letter
into the letter and its accent, a ligature into its letters. Characters of names are taken
apart as for the normal form; the table has the ASCII characters in the decompositions of
the others. A character in neither has none.
-/

namespace Docsmith.Text

/-- Neighbouring characters that stand in no name, from a code point on, and the ASCII parts of
    each of them, with low lines for blanks. -/
def symbolParts : List (Nat × List String) := [
  (160, ["_"]), (168, ["_"]), (175, ["_"]), (178, ["2 3 _"]), (184, ["_ 1"]), (188, ["14 12 34"]),
  (728, ["_ _ _ _ _ _"]), (890, ["_"]), (894, [";"]), (900, ["_ _"]), (8125, ["_"]),
  (8127, ["_ _ _"]), (8141, ["_ _ _"]), (8157, ["_ _ _"]), (8173, ["_ _ `"]), (8189, ["_ _"]),
  (8192, ["_ _ _ _ _ _ _ _ _ _ _"]), (8215, ["_"]), (8228, [". .. ..."]), (8239, ["_"]),
  (8252, ["!!"]), (8254, ["_"]), (8263, ["?? ?! !?"]), (8287, ["_"]), (8304, ["0"]),
  (8308, ["4 5 6 7 8 9 +"]), (8316, ["= ( )"]), (8320, ["0 1 2 3 4 5 6 7 8 9 +"]),
  (8332, ["= ( )"]), (8360, ["Rs"]), (8448, ["a/c a/s"]), (8451, ["C"]), (8453, ["c/o c/u"]),
  (8457, ["F"]), (8470, ["No"]), (8480, ["SM TEL TM"]), (8507, ["FAX"]),
  (8528, ["17 19 110 13 23 15 25 35 45 16 56 18 38 58 78 1"]), (8585, ["03"]), (8800, ["="]),
  (8814, ["< >"]),
  (9312, ["1 2 3 4 5 6 7 8 9 10 11 12 13 14 15 16 17 18 19 20 (1) (2) (3) (4) (5) (6) (7) (8) (9)",
    "(10) (11) (12) (13) (14) (15) (16) (17) (18) (19) (20) 1. 2. 3. 4. 5. 6. 7. 8. 9. 10.",
    "11. 12. 13. 14. 15. 16. 17. 18. 19. 20. (a) (b) (c) (d) (e) (f) (g) (h) (i) (j) (k) (l)",
    "(m) (n) (o) (p) (q) (r) (s) (t) (u) (v) (w) (x) (y) (z) A B C D E F G H I J K L M N O P",
    "Q R S T U V W X Y Z a b c d e f g h i j k l m n o p q r s t u v w x y z 0"]),
  (10868, ["::= == ==="]), (12288, ["_"]), (12443, ["_ _"]),
  (12800, ["() () () () () () () () () () () () () () () () () () () () () () () () () () () () ()",
    "() ()"]),
  (12832, ["() () () () () () () () () () () () () () () () () () () () () () () () () () () () ()",
    "() () () () () () ()"]),
  (12880, ["PTE 21 22 23 24 25 26 27 28 29 30 31 32 33 34 35"]),
  (12977, ["36 37 38 39 40 41 42 43 44 45 46 47 48 49 50 1 2 3 4 5 6 7 8 9 10 11 12 Hg erg eV LTD"]),
  (13144, ["0 1 2 3 4 5 6 7 8 9 10 11 12 13 14 15 16 17 18 19 20 21 22 23 24 hPa da AU bar oV pc dm",
    "dm2 dm3 IU"]),
  (13184, ["pA nA A mA kA KB MB GB cal kcal pF nF F g mg kg Hz kHz MHz GHz THz l ml dl kl fm nm m mm",
    "cm km mm2 cm2 m2 km2 mm3 cm3 m3 km3 ms ms2 Pa kPa MPa GPa rad rads rads2 ps ns s ms pV",
    "nV V mV kV MV pW nW W mW kW MW k M a.m. Bq cc cd Ckg Co. dB Gy ha HP in KK KM kt lm ln",
    "log lx mb mil mol PH p.m. PPM PR sr Sv Wb Vm Am 1 2 3 4 5 6 7 8 9 10 11 12 13 14 15 16",
    "17 18 19 20 21 22 23 24 25 26 27 28 29 30 31 gal"]),
  (64297, ["+"]), (64606, ["_ _ _ _ _ _"]), (65018, ["___ _"]), (65040, [","]),
  (65043, [": ; ! ?"]), (65049, ["..."]), (65072, [".."]), (65077, ["( ) \x7b \x7d"]),
  (65095, ["[ ] _ _ _ _"]), (65104, [","]), (65106, ["."]), (65108, ["; : ? !"]),
  (65113, ["( ) \x7b \x7d"]), (65119, ["# & * + - < > ="]), (65128, ["\\ $ % @"]), (65136, ["_"]),
  (65138, ["_"]), (65140, ["_"]), (65142, ["_"]), (65144, ["_"]), (65146, ["_"]), (65148, ["_"]),
  (65150, ["_"]), (65507, ["_"]), (127232, ["0. 0, 1, 2, 3, 4, 5, 6, 7, 8, 9,"]),
  (127248, ["(A) (B) (C) (D) (E) (F) (G) (H) (I) (J) (K) (L) (M) (N) (O) (P) (Q) (R) (S) (T) (U) (V)",
    "(W) (X) (Y) (Z) S C R CD WZ"]),
  (127280, ["A B C D E F G H I J K L M N O P Q R S T U V W X Y Z HV MV SD SS PPV WC"]),
  (127338, ["MC MD MR"]), (127376, ["DJ"])]

/-- The ASCII parts of a character. -/
def asciiParts (c : Char) : List Char :=
  let n := c.toNat
  if n < 128 then [c]
  else if 0xFF01 ≤ n && n < 0xFF5F then [Char.ofNat (n - 0xFEE0)]
  else match itemAt? symbolParts n with
    | some parts => parts.toList.map fun p => if p == '_' then ' ' else p
    | none => (decompose c).filter fun p => p.toNat < 128

end Docsmith.Text
