import CostJournal.Text.Runs

/-!
# Directions of characters

The Unicode property Bidi_Class, for the characters that domains may have.
-/

namespace CostJournal

inductive Direction where
  | left
  | right
  | arabicLetter
  | arabicNumber
  | europeanNumber
  | europeanSeparator
  | europeanTerminator
  | commonSeparator
  | neutral
  | boundary
  | mark
deriving DecidableEq

/-- Kinds: `l` left, `r` right, `a` Arabic letter, `h` Arabic number, `e` European number, `s` its
separator, `t` its terminator, `c` common separator, `o` neutral, `b` boundary, `m` mark. -/
def directionTable : CharTable :=
  ⟨0, CharRun.ofLines [
    "l33 o2 t3 o5 s c s c2 e10 c o6 l26 o6 l26 o39 t4 o10 t6 o41 l24 o l449 o2 l7 o14 l2 o28 l o17",
    "m113 l4 o2 l127 o2 l139 m8 l255 o5 t2 m45 r m r m2 r m2 r m9 r54 o2 a t2 a c a o2 m11 a48 m21",
    "h10 t h2 a3 m a101 m8 o m6 a2 m2 o m4 a2 e10 a23 m a30 m29 a89 m11 a15 r43 m9 r2 o4 r3 m r24",
    "m4 r m9 r m3 r m7 r41 m5 r2 a56 m8 a42 m57 l55 m l m l4 m8 l4 m l3 m15 l2 m2 l29 m l58 m l4",
    "m6 l6 m l20 m4 l12 t2 l7 t l2 m5 l57 m2 l3 m27 l20 m2 l3 m l11 m2 l57 m l4 m8 l4 m3 l18 m4",
    "l11 t8 l m8 l58 m l2 m l m6 l6 m10 l11 m4 l28 m l61 m l12 m3 l35 o6 t o6 m l3 m l55 m l m3 l5",
    "m18 l10 m4 l18 o7 l2 m l58 m l15 m9 l13 m4 l26 m2 l57 m2 l4 m5 l7 m l20 m4 l27 m l72 m5 l3 m6",
    "l89 m l2 m11 t l7 m8 l98 m l2 m9 l11 m8 l72 m2 l27 m l m l m o4 l51 m14 l m5 l m2 l5 m49 l8 m",
    "l102 m4 l m6 l m2 l2 m2 l25 m2 l4 m3 l16 m4 l13 m l2 m2 l6 m l15 m l703 m3 l48 o16 l96 o l666",
    "o5 l114 m3 l29 m2 l30 m14 l18 m14 l55 m7 l8 m l2 m11 l7 t l m3 l16 o32 l117 m2 l34 m l118 m3",
    "l4 m2 l9 m l6 m7 o6 l152 o34 l23 m2 l2 m3 l56 m l m9 l m l2 m8 l6 m13 l48 m31 l49 m4 l48 m l",
    "m5 l m l5 m l40 m9 l12 m2 l32 m4 l2 m2 l m3 l56 m l m2 l3 m l m3 l58 m8 l2 m5 l149 m3 l m13 l",
    "m7 l4 m l6 m l3 m2 l198 m65 l523 b4 o32 t5 o15 c o91 t48 m52 o42 t12 o20 l60 o136 s t o290",
    "l69 o26 l o145 l25 o620 l o339 l256 o662 l o153 l181 o7 l3 m4 l6 o7 l127 m l96 m32 o517 l3",
    "o25 l9 m4 l2 o l6 o4 l2 o4 l88 m4 l3 o l90 o l196 o36 l7132 o64 l22160 o64 l317 o3 l95 m4 o",
    "m10 o3 l29 m2 l80 m2 l14 o35 l101 o l121 m l3 m l4 m l25 m2 l o4 m4 l8 t8 l52 o12 l68 m10 l18",
    "m18 l13 m l38 m8 l25 m11 l46 m3 l48 m l2 m4 l2 m2 l39 m l67 m6 l2 m2 l2 m11 l3 m l8 m l47 m",
    "l51 m l m3 l2 m2 l5 m2 l m l42 m2 l8 m11 l105 o86 l37 m l2 m l4 m3 l20270 m148 a396 o82 a63",
    "o81 m37 o46 a397 l257 o l62 o77 l3 o64 l45 m131 l96 m e31 l118 m10 l1152 r287 o r225 m15 r40",
    "m8 r165 m6 r78 o7 r448 a36 m12 h16 r288 h32 r43 m2 r21 a59 m3 r48 a22 m11 a31 r18 m4 r122 l m",
    "l54 m15 l11 o20 l10 m l2 m2 l10 m3 l49 m4 l2 m2 l7 m14 l48 m3 l36 m5 l m9 l61 m l12 m2 l52 m9",
    "l10 m4 l2 m l95 m3 l2 m l m2 l6 m l2 m63 l95 m l3 m13 l16 m2 l57 m2 l3 m l37 m26 l184 m8 l2",
    "m3 l m l23 m l84 m6 l m l4 m2 l m2 l238 m6 l4 m2 l m2 l27 m36 l51 m8 l2 m l m2 l31 o32 l43 m",
    "l m l2 m6 l m l101 m3 l2 m4 l m9 l255 m9 l m2 l256 m2 l m l4 m l144 m8 l4 m l32 m6 l2 m2 l40",
    "m6 l2 m4 l8 m9 l m6 l2 m3 l46 m13 l m2 l406 m14 l84 m23 l m7 l m2 l m75 l49 m21 l m9 l64 m3",
    "l2 m l m l347 m2 l11 m2 l52 m8 l2 m l m l146 o8 t4 o30 l5185 m l6 m25 l13968 m5 l59 m7 l1048",
    "m l63 m4 l79 o l m12 l19629 m2 l4705 m80 l535 m3 l17 m8 l2 m7 l30 m4 l59 o89 m3 o123 l64 o96",
    "l1696 m55 l4 m50 l8 m l14 m l22 m1125 l256 m256 l48 m7 l375 m18 l44 m4 l15 t465 l28 m4 l784",
    "r208 m82 r34 m7 r806 a639 o608 l29 o3 l61 o57 l122 o1144 l4 o155 l4 o311 l78 o340 l12 o41 l7",
    "o46 l o7 l8 o14 l4 o9 l7 o219"]⟩

def Direction.ofKind : Char → Direction
  | 'r' => right
  | 'a' => arabicLetter
  | 'h' => arabicNumber
  | 'e' => europeanNumber
  | 's' => europeanSeparator
  | 't' => europeanTerminator
  | 'c' => commonSeparator
  | 'o' => neutral
  | 'b' => boundary
  | 'm' => mark
  | _ => left

def direction (c : Char) : Direction := .ofKind ((directionTable.kind? c).getD 'l')

end CostJournal
