import CostJournal.Text.Runs

/-!
# Letters and numbers

The characters with the Unicode property Alphabetic or of a category of numbers.
-/

namespace CostJournal

/-- Kinds: `a` for letters and numbers, `n` for all else. -/
def alphanumericTable : CharTable :=
  ⟨0x80, CharRun.ofLines [
    "n42 a n7 a2 n a n3 a2 n a3 n a23 n a31 n a458 n4 a12 n14 a5 n7 a n a n86 a n29 a18 n a2 n2 a4",
    "n a n6 a n a3 n a n a20 n a83 n a139 n8 a166 n a38 n2 a n6 a41 n39 a14 n a n a2 n a2 n a n8",
    "a27 n4 a4 n29 a11 n5 a56 n a17 n4 a102 n a8 n4 a8 n4 a16 n2 a n16 a48 n13 a101 n14 a43 n9 a2",
    "n4 a n5 a24 n2 a19 n19 a25 n7 a11 n5 a24 n a7 n7 a n8 a42 n10 a12 n3 a7 n6 a76 n a16 n a3 n4",
    "a15 n2 a10 n a19 n a8 n2 a2 n2 a22 n a7 n a n3 a4 n3 a8 n2 a2 n2 a2 n a n8 a n4 a2 n a5 n2",
    "a12 n2 a6 n2 a n4 a3 n a6 n4 a2 n2 a22 n a7 n a2 n a2 n a2 n4 a5 n4 a2 n2 a2 n4 a n7 a4 n a",
    "n7 a16 n11 a3 n a9 n a3 n a22 n a7 n a2 n a5 n3 a9 n a3 n a2 n3 a n15 a4 n2 a10 n9 a4 n4 a3 n",
    "a8 n2 a2 n2 a22 n a7 n a2 n a5 n3 a8 n2 a2 n2 a2 n9 a2 n4 a2 n a5 n2 a10 n a7 n10 a2 n a6 n3",
    "a3 n a4 n3 a2 n a n a2 n3 a2 n3 a3 n3 a12 n4 a5 n3 a3 n a3 n3 a n6 a n14 a13 n13 a13 n a3 n",
    "a23 n a16 n3 a8 n a3 n a3 n8 a2 n a3 n a2 n2 a4 n2 a10 n8 a7 n a4 n a8 n a3 n a23 n a10 n a5",
    "n3 a8 n a3 n a3 n8 a2 n5 a3 n a4 n2 a10 n a3 n12 a13 n a3 n a41 n2 a8 n a3 n a3 n a n5 a16 n2",
    "a19 n a6 n a3 n a18 n3 a24 n a9 n a n2 a7 n8 a6 n a n a8 n6 a10 n2 a2 n13 a58 n5 a7 n6 a n2",
    "a10 n39 a2 n a n a5 n a24 n a n a19 n a3 n2 a5 n a n6 a n2 a10 n2 a4 n32 a n31 a20 n12 a8 n",
    "a36 n4 a19 n4 a16 n a36 n67 a55 n a n2 a15 n6 a78 n2 a38 n a n5 a n2 a43 n a333 n a4 n2 a7 n",
    "a n a4 n2 a41 n a4 n2 a33 n a4 n2 a7 n a n a4 n2 a15 n a57 n a4 n2 a67 n14 a20 n3 a16 n16 a86",
    "n2 a6 n3 a620 n2 a17 n a26 n5 a75 n3 a11 n7 a20 n11 a21 n12 a20 n12 a13 n a3 n a2 n12 a52 n2",
    "a19 n14 a n4 a n3 a10 n6 a10 n22 a10 n6 a89 n7 a43 n5 a70 n10 a31 n a12 n4 a9 n13 a40 n2 a5",
    "n11 a44 n4 a26 n6 a11 n37 a28 n4 a63 n2 a20 n11 a10 n6 a10 n13 a n23 a2 n11 a3 n49 a52 n a15",
    "n a8 n3 a10 n38 a42 n2 a58 n a11 n14 a55 n9 a10 n3 a49 n2 a11 n5 a43 n2 a3 n41 a4 n a6 n a2",
    "n3 a n5 a192 n19 a34 n11 a278 n2 a6 n2 a38 n2 a6 n2 a8 n a n a n a n a31 n2 a53 n a7 n a n3",
    "a3 n a7 n3 a4 n2 a6 n4 a13 n5 a3 n a7 n115 a2 n2 a6 n5 a11 n6 a13 n101 a n4 a n2 a10 n a n3",
    "a5 n6 a n a n a n a4 n a11 n2 a4 n5 a5 n4 a n a58 n726 a60 n26 a74 n630 a30 n1132 a229 n6 a4",
    "n3 a2 n9 a n2 a38 n a n5 a n2 a56 n7 a n16 a23 n9 a7 n a7 n a7 n a7 n a7 n a7 n a7 n a7 n a32",
    "n47 a n469 a3 n25 a9 n7 a5 n2 a5 n4 a86 n6 a3 n a90 n a4 n5 a43 n a94 n3 a4 n10 a32 n48 a16",
    "n32 a10 n30 a8 n a15 n32 a10 n39 a15 n320 a6592 n64 a22157 n67 a46 n2 a269 n3 a28 n20 a47 n5",
    "a8 n3 a113 n39 a9 n2 a103 n2 a82 n20 a21 n a33 n8 a6 n10 a52 n12 a68 n a n10 a10 n24 a6 n3 a",
    "n a46 n5 a35 n13 a29 n3 a51 n a12 n15 a11 n6 a31 n a55 n9 a14 n2 a10 n6 a23 n3 a69 n a n a",
    "n24 a3 n2 a16 n2 a4 n11 a6 n2 a6 n2 a6 n9 a7 n a7 n a43 n a14 n6 a123 n5 a10 n6 a11172 n12",
    "a23 n4 a49 n8452 a366 n2 a106 n38 a7 n12 a5 n5 a12 n a13 n a5 n a n a2 n a2 n a108 n33 a363",
    "n18 a64 n2 a54 n40 a12 n116 a5 n a135 n19 a10 n7 a26 n6 a26 n11 a89 n3 a6 n2 a6 n2 a6 n2 a3",
    "n35 a12 n a26 n a19 n a2 n a15 n2 a14 n34 a123 n12 a45 n12 a57 n17 a2 n244 a29 n3 a49 n16 a27",
    "n4 a36 n9 a30 n5 a43 n5 a30 n2 a36 n4 a8 n a5 n42 a158 n2 a10 n6 a36 n4 a36 n4 a40 n8 a52 n12",
    "a11 n a15 n a7 n a2 n a11 n a15 n a7 n a2 n3 a52 n12 a311 n9 a22 n10 a8 n24 a6 n a42 n a9 n69",
    "a6 n2 a n a44 n a2 n3 a n2 a23 n2 a31 n2 a38 n8 a9 n48 a19 n a2 n5 a33 n4 a26 n6 a26 n38 a56",
    "n4 a20 n2 a50 n a2 n5 a8 n a3 n a29 n10 a9 n23 a31 n a32 n32 a8 n a28 n6 a5 n16 a54 n10 a22",
    "n2 a27 n5 a26 n23 a7 n80 a73 n55 a51 n13 a51 n7 a46 n8 a10 n6 a38 n3 a n5 a23 n218 a31 n a42",
    "n a2 n3 a2 n16 a6 n50 a3 n3 a40 n8 a22 n11 a4 n27 a18 n46 a28 n20 a23 n9 a70 n12 a30 n a5 n10",
    "a57 n9 a n13 a25 n7 a10 n6 a51 n3 a10 n4 a4 n8 a35 n3 a n9 a64 n a4 n9 a13 n a n4 a20 n11 a18",
    "n a34 n2 a n6 a4 n62 a7 n a n a4 n a15 n a10 n7 a57 n7 a10 n6 a4 n a8 n2 a2 n2 a22 n a7 n a2",
    "n a5 n3 a8 n2 a2 n2 a2 n3 a n6 a n5 a7 n28 a10 n a n2 a n a38 n a10 n a n2 a n a4 n a2 n3 a n",
    "a n44 a66 n a3 n a4 n5 a10 n5 a3 n30 a66 n2 a2 n a n8 a10 n166 a54 n2 a7 n25 a6 n34 a63 n a",
    "n3 a n11 a10 n38 a54 n2 a n7 a10 n6 a20 n28 a27 n2 a14 n5 a12 n4 a7 n185 a57 n103 a83 n12 a8",
    "n2 a n2 a8 n a2 n a30 n a2 n2 a2 n2 a4 n13 a10 n70 a8 n2 a46 n2 a6 n a n a2 n27 a51 n2 a10",
    "n17 a72 n5 a n18 a73 n103 a8 n88 a33 n15 a10 n6 a9 n a45 n a7 n a n15 a29 n5 a30 n2 a22 n a14",
    "n73 a7 n a2 n a44 n3 a n a2 n a3 n a n2 a2 n8 a10 n6 a6 n a2 n a37 n a2 n a4 n a n7 a10 n6",
    "a44 n4 a10 n246 a23 n9 a17 n a41 n3 a3 n15 a10 n86 a n15 a21 n43 a922 n102 a111 n17 a196",
    "n2636 a97 n15 a1072 n17 a6 n25 a3995 n5 a583 n6841 a47 n a10 n1734 a569 n7 a31 n a10 n6 a79 n",
    "a10 n6 a30 n18 a48 n16 a4 n12 a10 n a7 n a21 n5 a19 n432 a45 n3 a10 n198 a87 n9 a25 n2 a25",
    "n44 a75 n4 a57 n7 a17 n64 a2 n a n12 a7 n9 a7382 n41 a32 n97 a115 n8701 a4 n a7 n a2 n a291",
    "n15 a n29 a3 n2 a n14 a4 n8 a396 n2308 a107 n5 a13 n3 a9 n7 a10 n4 a n4177 a10 n1478 a20 n12",
    "a20 n108 a25 n135 a85 n a71 n a2 n2 a n2 a2 n2 a4 n a12 n a n a7 n a65 n a4 n2 a8 n a7 n a28",
    "n a4 n a5 n a n3 a7 n a340 n2 a25 n a25 n a31 n a25 n a31 n a25 n a31 n a25 n a31 n a25 n a8",
    "n2 a50 n1792 a31 n6 a6 n213 a7 n a17 n2 a7 n a2 n a5 n5 a62 n33 a n112 a45 n10 a7 n2 a10 n4 a",
    "n321 a30 n18 a44 n4 a10 n470 a28 n4 a10 n214 a30 n2 a11 n197 a31 n a22 n8 a2 n224 a7 n a4 n",
    "a2 n a15 n a197 n2 a9 n48 a68 n3 a n3 a n4 a10 n791 a59 n a3 n a4 n76 a45 n a15 n194 a4 n a27",
    "n a2 n a n2 a n a10 n a4 n a n a n6 a n4 a n a n a n a3 n a2 n a n2 a n a n a n a n a n a2 n",
    "a n2 a4 n a7 n a4 n a4 n a n a10 n a17 n5 a3 n a5 n a17 n580 a13 n35 a26 n6 a26 n6 a26 n2662",
    "a10 n1030 a42720 n32 a4382 n2 a5774 n2 a7473 n15 a622 n2466 a542 n1506 a4939 n5 a8490"]⟩

def isAlphanumeric (c : Char) : Bool := c.isAlphanum || alphanumericTable.kind? c == some 'a'

end CostJournal
