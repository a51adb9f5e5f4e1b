import CostJournal.Text.Runs

/-!
# Combining characters

Which characters are marks on a character before them, and in which order marks of one character come:
by their canonical combining classes, of which zero is for characters that are no such marks.
-/

namespace CostJournal

/-- Kinds: `c` with a class, `n` for class zero. -/
def combiningTable : CharTable :=
  ⟨0x300, CharRun.ofLines [
    "c21.e6 c.e8 c4.dc c.e8 c.d8 c5.dc c2.ca c4.dc c2.ca c11.dc c5.1 c4.dc c10.e6 c3.dc c3.e6",
    "c3.dc c3.e6 c4.dc c.e6 c.e8 c2.dc c.e6 c.e9 c2.ea c.e9 c2.ea c.e9 c14.e6 n274 c5.e6 n265 c.dc",
    "c4.e6 c.dc c3.e6 c.de c.dc c6.e6 c6.dc c2.e6 c.dc c2.e6 c.de c.e4 c.e6 c.a c.b c.c c.d c.e",
    "c.f c.10 c.11 c.12 c2.13 c.14 c.15 c.16 n c.17 n c.18 c.19 n c.e6 c.dc n c9.12 n64 c8.e6 c.1e",
    "c.1f c.20 n48 c.1b c.1c c.1d c.1e c.1f c.20 c.21 c.22 c2.e6 c2.dc c5.e6 c.dc c2.e6 c.dc n16",
    "c.23 n101 c8.e6 n c4.e6 c.dc c.e6 n2 c2.e6 n c.dc c2.e6 c.dc n35 c.24 n30 c.e6 c.dc c2.e6",
    "c.dc c2.e6 c3.dc c.e6 c2.dc c.e6 c.dc c3.e6 c.dc c.e6 c.dc c.e6 c.dc c.e6 c.dc c4.e6 n158",
    "c7.e6 c.dc c.e6 n9 c.dc n24 c4.e6 n c9.e6 n c3.e6 n c7.e6 n41 c5.dc n58 c.e6 c3.dc c4.e6 n42",
    "c5.e6 c5.dc c15.e6 c.dc c2.e6 c.dc c2.e6 c.dc c3.e6 c3.dc c.1b c.1c c.1d c3.e6 c.dc c2.e6",
    "c2.dc c5.e6 n60 c.7 n16 c.9 n3 c.e6 c.dc c2.e6 n103 c.7 n16 c.9 n48 c3.e6 n59 c2.7 n15 c4.9",
    "n107 c.7 n16 c3.9 n108 c.7 n16 c8.9 n120 c3.9 n108 c.7 n16 c8.9 c.54 c2.5b n100 c.7 n16 c8.9",
    "n102 c2.9 n16 c.9 n124 c5.9 n105 c2.67 c5.9 n9 c4.6b n108 c2.76 c.9 n13 c4.7a n76 c2.dc n27",
    "c.dc n c.dc n c.d8 n55 c.81 c2.82 c6.84 c4.82 n2 c2.82 c2.e6 c.9 n c2.e6 n62 c.dc n112 c.7 n",
    "c2.9 n82 c.dc n719 c3.e6 n948 c11.9 n21 c.9 n157 c.9 n10 c3.e6 n201 c.e4 n143 c.de c.e6 c5.dc",
    "n215 c.e6 c.dc n71 c.9 n20 c10.e6 c.dc n48 c5.e6 c6.dc c2.e6 c.dc n c2.dc c2.e6 c2.dc c5.e6",
    "c.dc c4.e6 n101 c.7 n15 c.9 n38 c.e6 c.dc c7.e6 n54 c2.9 n58 c.7 n11 c10.9 n59 c4.7 n149",
    "c3.e6 n c.1 c5.dc c2.e6 c4.dc c.e6 n c7.1 n4 c.dc n6 c.e6 n3 c2.e6 n198 c2.e6 c.dc c7.e6 c.dc",
    "c2.e6 c.ea c.d6 c.dc c.ca c37.e6 c.e8 c2.e4 c.dc c.da c.e6 c.e9 c.dc c.e6 c2.dc n719 c2.e6",
    "c2.1 c4.e6 c3.1 c2.e6 n4 c.e6 n3 c2.1 c.e6 c.dc c.e6 c2.1 c4.dc c20.e6 n3051 c4.e6 n140 c.9",
    "n96 c32.e6 n554 c.da c.e4 c.e8 c.de c2.e0 n105 c4.8 n30162 c.e6 n4 c10.e6 n32 c2.e6 n80 c2.e6",
    "n276 c.9 n37 c4.9 n148 c.9 n27 c18.e6 n57 c3.dc n37 c12.9 n84 c.7 n12 c.9 n239 c.e6 n c2.e6",
    "c.dc n2 c2.e6 n5 c2.e6 n c.e6 n52 c11.9 n236 c3.9 n20270 c148.1a n622 c7.e6 c7.dc c23.e6 n952",
    "c131.dc n96 c.dc n149 c10.e6 n1677 c.dc n c.e6 n40 c.e6 c.1 c5.dc c.9 n165 c.e6 c5.dc n569",
    "c12.e6 n379 c2.e6 n80 c3.dc n70 c2.dc c3.e6 c.dc c.e6 c4.dc n49 c.e6 c.dc c.e6 c.dc n192 c.9",
    "n41 c.9 n14 c.9 n57 c.9 c.7 n69 c3.e6 n48 c3.9 n61 c.7 n76 c.9 n9 c.7 n106 c.9 c.7 n178 c.7",
    "c6.9 n75 c2.7 n16 c3.9 n22 c26.e6 n194 c.9 n3 c.7 n23 c.e6 n99 c.9 c.7 n251 c.9 c.7 n126 c.9",
    "n118 c.9 c.7 n115 c5.9 n265 c.9 c.7 n258 c2.9 n4 c.7 n156 c.9 n83 c.9 n18 c9.9 n73 c.9 n421",
    "c.9 n258 c.7 n c2.9 n81 c.9 n425 c2.9 n19373 c5.1 n59 c7.e6 n1209 c2.6 n19628 c.1 n5318 c2.d8",
    "c3.1 n3 c.e2 c13.d8 c8.dc n2 c5.e6 c2.dc n30 c4.e6 n148 c3.e6 n3515 c256.e6 n48 c7.e6 n375",
    "c18.e6 n44 c4.e6 n508 c2.e8 c.dc c.e6 n992 c82.dc n34 c6.e6 c.7"]⟩

def combiningClass (c : Char) : Nat :=
  match combiningTable.find? c with
  | some (r, _) => r.numbers.headD 0
  | none => 0

/-- The class of the marks that silence a vowel. -/
def viramaClass : Nat := 9

/-- Kinds: `m` for the categories of marks, `n` for all else. -/
def markTable : CharTable :=
  ⟨0x300, CharRun.ofLines [
    "m113 n274 m8 n262 m45 n m n m2 n m2 n m9 n64 m11 n48 m21 n16 m n101 m8 n m6 n2 m2 n m4 n35 m",
    "n30 m29 n89 m11 n58 m9 n9 m n24 m4 n m9 n m3 n m7 n41 m5 n57 m9 n42 m58 n54 m3 n m18 n m15 n2",
    "m2 n29 m4 n55 m n m16 n9 m9 n2 m4 n24 m7 n55 m32 n20 m2 n3 m n11 m4 n55 m n m18 n18 m4 n20",
    "m11 n55 m n m33 n3 m4 n28 m n59 m18 n7 m15 n26 m5 n55 m n m26 n10 m4 n27 m3 n56 m n m30 n6 m4",
    "n13 m17 n55 m2 n m16 n9 m n10 m4 n27 m4 n69 m28 n12 m2 n61 m n2 m11 n8 m8 n98 m n2 m9 n11 m8",
    "n72 m2 n27 m n m n m n4 m2 n49 m20 n m2 n5 m49 n8 m n100 m20 n23 m4 n4 m3 n m3 n2 m7 n3 m4",
    "n13 m12 n m n10 m4 n703 m3 n946 m13 n19 m3 n29 m14 n18 m14 n54 m30 n9 m3 n165 m2 n34 m n118",
    "m32 n215 m7 n55 m43 n48 m85 n47 m17 n38 m9 n12 m3 n30 m13 n56 m22 n40 m23 n149 m3 n m21 n4 m",
    "n6 m n2 m3 n198 m65 n719 m52 n3051 m4 n140 m n96 m32 n554 m6 n105 m4 n30162 m4 n m10 n32 m2",
    "n80 m2 n272 m n3 m n4 m n23 m5 n4 m4 n80 m2 n50 m26 n18 m18 n13 m n38 m8 n25 m24 n33 m4 n47",
    "m14 n36 m n67 m23 n3 m n8 m4 n43 m3 n50 m n m3 n2 m2 n5 m2 n m n41 m5 n5 m12 n226 m8 n m4",
    "n20270 m148 n622 m37 n952 m131 n96 m n149 m10 n1665 m15 n40 m8 n165 m6 n569 m12 n57 m5 n317",
    "m2 n77 m6 n70 m11 n49 m4 n122 m3 n53 m15 n41 m n2 m2 n10 m4 n45 m11 n7 m14 n48 m3 n36 m15 n15",
    "m2 n44 m n12 m3 n48 m14 n8 m4 n m2 n92 m12 n6 m n2 m63 n95 m17 n16 m5 n54 m2 n m18 n7 m6 n5",
    "m30 n56 m25 n m n14 m31 n53 m18 n23 m n81 m20 n235 m18 n27 m36 n48 m17 n106 m13 n101 m19 n252",
    "m15 n245 m15 n m n m2 n141 m16 n3 m28 n m10 n40 m7 n m4 n8 m9 n m11 n46 m16 n198 m96 n111 m17",
    "n82 m110 n49 m21 n m9 n58 m14 n347 m4 n9 m2 n m n48 m15 n23 m86 n5264 m n6 m25 n11454 m18",
    "n2496 m5 n59 m7 n1048 m n m66 n81 m14 n19627 m2 n4705 m80 n533 m5 n3 m22 n2 m7 n30 m4 n148 m3",
    "n1979 m55 n4 m50 n8 m n14 m n22 m1125 n256 m256 n48 m7 n375 m18 n44 m4 n508 m4 n254 m2 n243 m",
    "n2 m n7 m2 n5 m9 n466 m82 n34 m7"]⟩

def isMark (c : Char) : Bool := markTable.kind? c == some 'm'

end CostJournal
