import CostJournal.Text.Runs

/-!
# Joining of letters

The Unicode property Joining_Type: on which of its sides a character is written together with its
neighbour.
-/

namespace CostJournal

inductive Joining where
  | none
  | left
  | right
  | both
  /-- The neighbours are written together as if the character were not there. -/
  | transparent
deriving DecidableEq

/-- Kinds: `n` none, `l` left, `r` right, `d` both, `t` transparent. -/
def joiningTable : CharTable :=
  ⟨0x80, CharRun.ofLines [
    "n640 t113 n274 t8 n262 t45 n t n t2 n t2 n t9 n64 t11 n5 d n r4 d r d r d5 r4 d13 n d7 r d2",
    "t21 n14 d2 t r3 n5 d15 r18 d38 r d2 r9 d r d r d2 r2 n r t8 n t6 n2 t2 n t4 r2 n10 d3 n2 d",
    "n16 r t d3 r5 d4 r d9 r d r d r d2 r t29 r d11 r3 d15 r2 d4 r d r2 d3 r2 d6 n38 t11 n25 d33",
    "t9 n9 t n24 t4 n t9 n t3 n t7 n16 r d5 r2 d r d10 r d r3 t5 n2 d n d4 n r d r26 n3 d n2 d5 r",
    "n9 t8 d10 r3 n r d2 r2 d6 r d15 n t57 n55 t n t n4 t8 n4 t n3 t15 n2 t2 n29 t n58 t n4 t6 n6",
    "t n20 t4 n24 t5 n57 t2 n3 t27 n20 t2 n3 t n11 t2 n57 t n4 t8 n4 t3 n18 t4 n20 t8 n58 t n2 t n",
    "t6 n6 t10 n11 t4 n28 t n61 t n12 t3 n48 t n3 t n55 t n t3 n5 t18 n10 t4 n27 t n58 t n2 t n6 t",
    "n5 t9 n13 t4 n26 t2 n57 t2 n4 t5 n7 t n20 t4 n27 t n72 t5 n3 t6 n89 t n2 t11 n8 t8 n98 t n2",
    "t9 n11 t8 n72 t2 n27 t n t n t n55 t14 n t5 n t2 n5 t49 n8 t n102 t4 n t6 n t2 n2 t2 n25 t2",
    "n4 t3 n16 t4 n13 t n2 t2 n6 t n15 t n703 t3 n946 t3 n29 t2 n30 t14 n18 t14 n55 t7 n8 t n2 t11",
    "n9 t3 n39 d n24 d96 n5 t2 d34 t d6 n112 t3 n4 t2 n9 t n6 t7 n215 t2 n2 t3 n56 t n t9 n t n2",
    "t8 n6 t13 n48 t31 n49 t4 n48 t n t5 n t n5 t n40 t9 n12 t2 n32 t4 n2 t2 n t3 n56 t n t2 n3 t",
    "n t3 n58 t8 n2 t5 n149 t3 n t13 n t7 n4 t n6 t n3 t2 n198 t65 n719 t52 n3051 t4 n140 t n96",
    "t32 n554 t4 n107 t4 n30162 t4 n t10 n32 t2 n80 t2 n272 t n3 t n4 t n25 t2 n5 t4 n16 d50 l n81",
    "t10 n18 t18 n13 t n38 t8 n25 t11 n46 t3 n48 t n2 t4 n2 t2 n39 t n67 t6 n2 t2 n2 t11 n3 t n8 t",
    "n47 t n51 t n t3 n2 t2 n5 t2 n t n42 t2 n8 t11 n228 t n2 t n4 t3 n20270 t148 n622 t37 n952",
    "t131 n96 t n149 t10 n1665 t15 n40 t8 n128 d5 r n r n r2 n2 l r5 d4 l d5 r d3 r n2 r t6 d4 r",
    "n144 d r d r3 d3 r d2 r d r2 d r8 n16 r4 d2 n337 l d33 r d t12 n379 t2 n80 t3 n48 d3 r d17 n",
    "t11 d3 r n27 d4 r2 d12 t4 n42 d n d2 r3 n d r2 d2 r d2 n d r2 d n4 r d l21 n33 t n54 t15 n41",
    "t n2 t2 n10 t3 n49 t4 n2 t2 n7 t14 n48 t3 n36 t5 n t9 n61 t n12 t2 n52 t9 n10 t4 n2 t n95 t3",
    "n2 t n t2 n6 t n2 t63 n95 t n3 t13 n16 t2 n57 t2 n3 t n37 t26 n184 t8 n2 t3 n t n23 t n84 t6",
    "n t n4 t2 n t2 n238 t6 n4 t2 n t2 n27 t36 n51 t8 n2 t n t2 n106 t n t n2 t6 n t n101 t3 n2 t4",
    "n t9 n255 t9 n t2 n256 t2 n t n4 t n144 t8 n4 t n32 t10 n40 t6 n2 t4 n8 t9 n t6 n2 t3 n46 t13",
    "n t2 n406 t14 n t n82 t23 n t7 n t2 n t75 n49 t21 n t9 n64 t3 n2 t n t n347 t2 n11 t2 n52 t8",
    "n2 t n t n5373 t n6 t25 n13968 t5 n59 t7 n1048 t n63 t4 n81 t12 n19629 t2 n4705 t80 n535 t3",
    "n17 t8 n2 t7 n30 t4 n148 t3 n1979 t55 n4 t50 n8 t n14 t n22 t1125 n256 t256 n48 t7 n375 t18",
    "n44 t4 n508 t4 n992 t82 d34 t12"]⟩

def joining (c : Char) : Joining :=
  match joiningTable.kind? c with
  | some 'l' => .left
  | some 'r' => .right
  | some 'd' => .both
  | some 't' => .transparent
  | _ => .none

end CostJournal
