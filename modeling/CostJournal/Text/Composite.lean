import CostJournal.Text.Runs

/-!
# Composite characters

Characters that stand for two others, one after the other: most by a table, and the syllables of
Korean by a rule. A character that a composite starts with has a lower code point
(`fst_toNat_lt_of_pair?`), so that taking composites apart ends.
-/

namespace CostJournal

/-- Kinds: `d` with the two code points of a composite, `n` for characters that are none. -/
def compositeTable : CharTable :=
  ⟨0xC0, CharRun.ofLines [
    "d.41.300 d.41.301 d.41.302 d.41.303 d.41.308 d.41.30a n d.43.327 d.45.300 d.45.301 d.45.302",
    "d.45.308 d.49.300 d.49.301 d.49.302 d.49.308 n d.4e.303 d.4f.300 d.4f.301 d.4f.302 d.4f.303",
    "d.4f.308 n2 d.55.300 d.55.301 d.55.302 d.55.308 d.59.301 n2 d.61.300 d.61.301 d.61.302",
    "d.61.303 d.61.308 d.61.30a n d.63.327 d.65.300 d.65.301 d.65.302 d.65.308 d.69.300 d.69.301",
    "d.69.302 d.69.308 n d.6e.303 d.6f.300 d.6f.301 d.6f.302 d.6f.303 d.6f.308 n2 d.75.300",
    "d.75.301 d.75.302 d.75.308 d.79.301 n d.79.308 d.41.304 d.61.304 d.41.306 d.61.306 d.41.328",
    "d.61.328 d.43.301 d.63.301 d.43.302 d.63.302 d.43.307 d.63.307 d.43.30c d.63.30c d.44.30c",
    "d.64.30c n2 d.45.304 d.65.304 d.45.306 d.65.306 d.45.307 d.65.307 d.45.328 d.65.328 d.45.30c",
    "d.65.30c d.47.302 d.67.302 d.47.306 d.67.306 d.47.307 d.67.307 d.47.327 d.67.327 d.48.302",
    "d.68.302 n2 d.49.303 d.69.303 d.49.304 d.69.304 d.49.306 d.69.306 d.49.328 d.69.328 d.49.307",
    "n3 d.4a.302 d.6a.302 d.4b.327 d.6b.327 n d.4c.301 d.6c.301 d.4c.327 d.6c.327 d.4c.30c",
    "d.6c.30c n4 d.4e.301 d.6e.301 d.4e.327 d.6e.327 d.4e.30c d.6e.30c n3 d.4f.304 d.6f.304",
    "d.4f.306 d.6f.306 d.4f.30b d.6f.30b n2 d.52.301 d.72.301 d.52.327 d.72.327 d.52.30c d.72.30c",
    "d.53.301 d.73.301 d.53.302 d.73.302 d.53.327 d.73.327 d.53.30c d.73.30c d.54.327 d.74.327",
    "d.54.30c d.74.30c n2 d.55.303 d.75.303 d.55.304 d.75.304 d.55.306 d.75.306 d.55.30a d.75.30a",
    "d.55.30b d.75.30b d.55.328 d.75.328 d.57.302 d.77.302 d.59.302 d.79.302 d.59.308 d.5a.301",
    "d.7a.301 d.5a.307 d.7a.307 d.5a.30c d.7a.30c n33 d.4f.31b d.6f.31b n13 d.55.31b d.75.31b n28",
    "d.41.30c d.61.30c d.49.30c d.69.30c d.4f.30c d.6f.30c d.55.30c d.75.30c d.dc.304 d.fc.304",
    "d.dc.301 d.fc.301 d.dc.30c d.fc.30c d.dc.300 d.fc.300 n d.c4.304 d.e4.304 d.226.304 d.227.304",
    "d.c6.304 d.e6.304 n2 d.47.30c d.67.30c d.4b.30c d.6b.30c d.4f.328 d.6f.328 d.1ea.304",
    "d.1eb.304 d.1b7.30c d.292.30c d.6a.30c n3 d.47.301 d.67.301 n2 d.4e.300 d.6e.300 d.c5.301",
    "d.e5.301 d.c6.301 d.e6.301 d.d8.301 d.f8.301 d.41.30f d.61.30f d.41.311 d.61.311 d.45.30f",
    "d.65.30f d.45.311 d.65.311 d.49.30f d.69.30f d.49.311 d.69.311 d.4f.30f d.6f.30f d.4f.311",
    "d.6f.311 d.52.30f d.72.30f d.52.311 d.72.311 d.55.30f d.75.30f d.55.311 d.75.311 d.53.326",
    "d.73.326 d.54.326 d.74.326 n2 d.48.30c d.68.30c n6 d.41.307 d.61.307 d.45.327 d.65.327",
    "d.d6.304 d.f6.304 d.d5.304 d.f5.304 d.4f.307 d.6f.307 d.22e.304 d.22f.304 d.59.304 d.79.304",
    "n337 d.a8.301 d.391.301 n d.395.301 d.397.301 d.399.301 n d.39f.301 n d.3a5.301 d.3a9.301",
    "d.3ca.301 n25 d.399.308 d.3a5.308 d.3b1.301 d.3b5.301 d.3b7.301 d.3b9.301 d.3cb.301 n25",
    "d.3b9.308 d.3c5.308 d.3bf.301 d.3c5.301 d.3c9.301 n4 d.3d2.301 d.3d2.308 n43 d.415.300",
    "d.415.308 n d.413.301 n3 d.406.308 n4 d.41a.301 d.418.300 d.423.306 n10 d.418.306 n31",
    "d.438.306 n22 d.435.300 d.435.308 n d.433.301 n3 d.456.308 n4 d.43a.301 d.438.300 d.443.306",
    "n23 d.474.30f d.475.30f n73 d.416.306 d.436.306 n13 d.410.306 d.430.306 d.410.308 d.430.308",
    "n2 d.415.306 d.435.306 n2 d.4d8.308 d.4d9.308 d.416.308 d.436.308 d.417.308 d.437.308 n2",
    "d.418.304 d.438.304 d.418.308 d.438.308 d.41e.308 d.43e.308 n2 d.4e8.308 d.4e9.308 d.42d.308",
    "d.44d.308 d.423.304 d.443.304 d.423.308 d.443.308 d.423.30b d.443.30b d.427.308 d.447.308 n2",
    "d.42b.308 d.44b.308 n296 d.627.653 d.627.654 d.648.654 d.627.655 d.64a.654 n153 d.6d5.654 n",
    "d.6c1.654 n16 d.6d2.654 n597 d.928.93c n7 d.930.93c n2 d.933.93c n150 d.9c7.9be d.9c7.9d7",
    "n379 d.b47.b56 n2 d.b47.b3e d.b47.b57 n71 d.b92.bd7 n53 d.bc6.bbe d.bc7.bbe d.bc6.bd7 n123",
    "d.c46.c56 n119 d.cbf.cd5 n6 d.cc6.cd5 d.cc6.cd6 n d.cc6.cc2 d.cca.cd5 n126 d.d46.d3e",
    "d.d47.d3e d.d46.d57 n141 d.dd9.dca n d.dd9.dcf d.ddc.dca d.dd9.ddf n583 d.1025.102e n2783",
    "d.1b05.1b35 n d.1b07.1b35 n d.1b09.1b35 n d.1b0b.1b35 n d.1b0d.1b35 n3 d.1b11.1b35 n40",
    "d.1b3a.1b35 n d.1b3c.1b35 n2 d.1b3e.1b35 d.1b3f.1b35 n d.1b42.1b35 n700 d.41.325 d.61.325",
    "d.42.307 d.62.307 d.42.323 d.62.323 d.42.331 d.62.331 d.c7.301 d.e7.301 d.44.307 d.64.307",
    "d.44.323 d.64.323 d.44.331 d.64.331 d.44.327 d.64.327 d.44.32d d.64.32d d.112.300 d.113.300",
    "d.112.301 d.113.301 d.45.32d d.65.32d d.45.330 d.65.330 d.228.306 d.229.306 d.46.307 d.66.307",
    "d.47.304 d.67.304 d.48.307 d.68.307 d.48.323 d.68.323 d.48.308 d.68.308 d.48.327 d.68.327",
    "d.48.32e d.68.32e d.49.330 d.69.330 d.cf.301 d.ef.301 d.4b.301 d.6b.301 d.4b.323 d.6b.323",
    "d.4b.331 d.6b.331 d.4c.323 d.6c.323 d.1e36.304 d.1e37.304 d.4c.331 d.6c.331 d.4c.32d d.6c.32d",
    "d.4d.301 d.6d.301 d.4d.307 d.6d.307 d.4d.323 d.6d.323 d.4e.307 d.6e.307 d.4e.323 d.6e.323",
    "d.4e.331 d.6e.331 d.4e.32d d.6e.32d d.d5.301 d.f5.301 d.d5.308 d.f5.308 d.14c.300 d.14d.300",
    "d.14c.301 d.14d.301 d.50.301 d.70.301 d.50.307 d.70.307 d.52.307 d.72.307 d.52.323 d.72.323",
    "d.1e5a.304 d.1e5b.304 d.52.331 d.72.331 d.53.307 d.73.307 d.53.323 d.73.323 d.15a.307",
    "d.15b.307 d.160.307 d.161.307 d.1e62.307 d.1e63.307 d.54.307 d.74.307 d.54.323 d.74.323",
    "d.54.331 d.74.331 d.54.32d d.74.32d d.55.324 d.75.324 d.55.330 d.75.330 d.55.32d d.75.32d",
    "d.168.301 d.169.301 d.16a.308 d.16b.308 d.56.303 d.76.303 d.56.323 d.76.323 d.57.300 d.77.300",
    "d.57.301 d.77.301 d.57.308 d.77.308 d.57.307 d.77.307 d.57.323 d.77.323 d.58.307 d.78.307",
    "d.58.308 d.78.308 d.59.307 d.79.307 d.5a.302 d.7a.302 d.5a.323 d.7a.323 d.5a.331 d.7a.331",
    "d.68.331 d.74.308 d.77.30a d.79.30a n d.17f.307 n4 d.41.323 d.61.323 d.41.309 d.61.309",
    "d.c2.301 d.e2.301 d.c2.300 d.e2.300 d.c2.309 d.e2.309 d.c2.303 d.e2.303 d.1ea0.302 d.1ea1.302",
    "d.102.301 d.103.301 d.102.300 d.103.300 d.102.309 d.103.309 d.102.303 d.103.303 d.1ea0.306",
    "d.1ea1.306 d.45.323 d.65.323 d.45.309 d.65.309 d.45.303 d.65.303 d.ca.301 d.ea.301 d.ca.300",
    "d.ea.300 d.ca.309 d.ea.309 d.ca.303 d.ea.303 d.1eb8.302 d.1eb9.302 d.49.309 d.69.309 d.49.323",
    "d.69.323 d.4f.323 d.6f.323 d.4f.309 d.6f.309 d.d4.301 d.f4.301 d.d4.300 d.f4.300 d.d4.309",
    "d.f4.309 d.d4.303 d.f4.303 d.1ecc.302 d.1ecd.302 d.1a0.301 d.1a1.301 d.1a0.300 d.1a1.300",
    "d.1a0.309 d.1a1.309 d.1a0.303 d.1a1.303 d.1a0.323 d.1a1.323 d.55.323 d.75.323 d.55.309",
    "d.75.309 d.1af.301 d.1b0.301 d.1af.300 d.1b0.300 d.1af.309 d.1b0.309 d.1af.303 d.1b0.303",
    "d.1af.323 d.1b0.323 d.59.300 d.79.300 d.59.323 d.79.323 d.59.309 d.79.309 d.59.303 d.79.303",
    "n6 d.3b1.313 d.3b1.314 d.1f00.300 d.1f01.300 d.1f00.301 d.1f01.301 d.1f00.342 d.1f01.342",
    "d.391.313 d.391.314 d.1f08.300 d.1f09.300 d.1f08.301 d.1f09.301 d.1f08.342 d.1f09.342",
    "d.3b5.313 d.3b5.314 d.1f10.300 d.1f11.300 d.1f10.301 d.1f11.301 n2 d.395.313 d.395.314",
    "d.1f18.300 d.1f19.300 d.1f18.301 d.1f19.301 n2 d.3b7.313 d.3b7.314 d.1f20.300 d.1f21.300",
    "d.1f20.301 d.1f21.301 d.1f20.342 d.1f21.342 d.397.313 d.397.314 d.1f28.300 d.1f29.300",
    "d.1f28.301 d.1f29.301 d.1f28.342 d.1f29.342 d.3b9.313 d.3b9.314 d.1f30.300 d.1f31.300",
    "d.1f30.301 d.1f31.301 d.1f30.342 d.1f31.342 d.399.313 d.399.314 d.1f38.300 d.1f39.300",
    "d.1f38.301 d.1f39.301 d.1f38.342 d.1f39.342 d.3bf.313 d.3bf.314 d.1f40.300 d.1f41.300",
    "d.1f40.301 d.1f41.301 n2 d.39f.313 d.39f.314 d.1f48.300 d.1f49.300 d.1f48.301 d.1f49.301 n2",
    "d.3c5.313 d.3c5.314 d.1f50.300 d.1f51.300 d.1f50.301 d.1f51.301 d.1f50.342 d.1f51.342 n",
    "d.3a5.314 n d.1f59.300 n d.1f59.301 n d.1f59.342 d.3c9.313 d.3c9.314 d.1f60.300 d.1f61.300",
    "d.1f60.301 d.1f61.301 d.1f60.342 d.1f61.342 d.3a9.313 d.3a9.314 d.1f68.300 d.1f69.300",
    "d.1f68.301 d.1f69.301 d.1f68.342 d.1f69.342 d.3b1.300 n d.3b5.300 n d.3b7.300 n d.3b9.300 n",
    "d.3bf.300 n d.3c5.300 n d.3c9.300 n3 d.1f00.345 d.1f01.345 d.1f02.345 d.1f03.345 d.1f04.345",
    "d.1f05.345 d.1f06.345 d.1f07.345 d.1f08.345 d.1f09.345 d.1f0a.345 d.1f0b.345 d.1f0c.345",
    "d.1f0d.345 d.1f0e.345 d.1f0f.345 d.1f20.345 d.1f21.345 d.1f22.345 d.1f23.345 d.1f24.345",
    "d.1f25.345 d.1f26.345 d.1f27.345 d.1f28.345 d.1f29.345 d.1f2a.345 d.1f2b.345 d.1f2c.345",
    "d.1f2d.345 d.1f2e.345 d.1f2f.345 d.1f60.345 d.1f61.345 d.1f62.345 d.1f63.345 d.1f64.345",
    "d.1f65.345 d.1f66.345 d.1f67.345 d.1f68.345 d.1f69.345 d.1f6a.345 d.1f6b.345 d.1f6c.345",
    "d.1f6d.345 d.1f6e.345 d.1f6f.345 d.3b1.306 d.3b1.304 d.1f70.345 d.3b1.345 d.3ac.345 n",
    "d.3b1.342 d.1fb6.345 d.391.306 d.391.304 d.391.300 n d.391.345 n4 d.a8.342 d.1f74.345",
    "d.3b7.345 d.3ae.345 n d.3b7.342 d.1fc6.345 d.395.300 n d.397.300 n d.397.345 d.1fbf.300",
    "d.1fbf.301 d.1fbf.342 d.3b9.306 d.3b9.304 d.3ca.300 n3 d.3b9.342 d.3ca.342 d.399.306",
    "d.399.304 d.399.300 n2 d.1ffe.300 d.1ffe.301 d.1ffe.342 d.3c5.306 d.3c5.304 d.3cb.300 n",
    "d.3c1.313 d.3c1.314 d.3c5.342 d.3cb.342 d.3a5.306 d.3a5.304 d.3a5.300 n d.3a1.314 d.a8.300 n4",
    "d.1f7c.345 d.3c9.345 d.3ce.345 n d.3c9.342 d.1ff6.345 d.39f.300 n d.3a9.300 n d.3a9.345 n413",
    "d.2190.338 d.2192.338 n18 d.2194.338 n30 d.21d0.338 d.21d4.338 d.21d2.338 n52 d.2203.338 n4",
    "d.2208.338 n2 d.220b.338 n23 d.2223.338 n d.2225.338 n26 d.223c.338 n2 d.2243.338 n2",
    "d.2245.338 n d.2248.338 n22 d.3d.338 n d.2261.338 n10 d.224d.338 d.3c.338 d.3e.338 d.2264.338",
    "d.2265.338 n2 d.2272.338 d.2273.338 n2 d.2276.338 d.2277.338 n6 d.227a.338 d.227b.338 n2",
    "d.2282.338 d.2283.338 n2 d.2286.338 d.2287.338 n34 d.22a2.338 d.22a8.338 d.22a9.338",
    "d.22ab.338 n48 d.227c.338 d.227d.338 d.2291.338 d.2292.338 n6 d.22b2.338 d.22b3.338",
    "d.22b4.338 d.22b5.338 n3422 d.304b.3099 n d.304d.3099 n d.304f.3099 n d.3051.3099 n",
    "d.3053.3099 n d.3055.3099 n d.3057.3099 n d.3059.3099 n d.305b.3099 n d.305d.3099 n",
    "d.305f.3099 n d.3061.3099 n2 d.3064.3099 n d.3066.3099 n d.3068.3099 n6 d.306f.3099",
    "d.306f.309a n d.3072.3099 d.3072.309a n d.3075.3099 d.3075.309a n d.3078.3099 d.3078.309a n",
    "d.307b.3099 d.307b.309a n22 d.3046.3099 n9 d.309d.3099 n13 d.30ab.3099 n d.30ad.3099 n",
    "d.30af.3099 n d.30b1.3099 n d.30b3.3099 n d.30b5.3099 n d.30b7.3099 n d.30b9.3099 n",
    "d.30bb.3099 n d.30bd.3099 n d.30bf.3099 n d.30c1.3099 n2 d.30c4.3099 n d.30c6.3099 n",
    "d.30c8.3099 n6 d.30cf.3099 d.30cf.309a n d.30d2.3099 d.30d2.309a n d.30d5.3099 d.30d5.309a n",
    "d.30d8.3099 d.30d8.309a n d.30db.3099 d.30db.309a n22 d.30a6.3099 n2 d.30ef.3099 d.30f0.3099",
    "d.30f1.3099 d.30f2.3099 n3 d.30fd.3099 n54474 d.105d2.307 n26 d.105da.307 n2741 d.11099.110ba",
    "n d.1109b.110ba n14 d.110a5.110ba n130 d.11131.11127 d.11132.11127 n539 d.11347.1133e",
    "d.11347.11357 n54 d.11382.113c9 n d.11384.113bb n8 d.1138b.113c2 n2 d.11390.113c9 n51",
    "d.113c2.113c2 n d.113c2.113b8 d.113c2.113c9 n242 d.114b9.114ba d.114b9.114b0 n d.114b9.114bd",
    "n251 d.115b8.115af d.115b9.115af n892 d.11935.11930 n18408 d.1611e.1611e d.1611e.16129",
    "d.1611e.1611f d.16129.1611f d.1611e.16120 d.16121.1611f d.16122.1611f d.16121.16120 n3135",
    "d.16d67.16d67 d.16d63.16d67 d.16d69.16d67"]⟩

namespace Hangul

/-! Syllables are made of a leading consonant, a vowel and perhaps a trailing consonant. -/

def leadBase : Nat := 0x1100
def vowelBase : Nat := 0x1161
def trailBase : Nat := 0x11A7
def syllableBase : Nat := 0xAC00

def leadCount : Nat := 19
def vowelCount : Nat := 21

/-- One more than there are trailing consonants. -/
def trailCount : Nat := 28

/-- A syllable, as one without a trailing consonant and that consonant, or as a leading consonant
and a vowel. -/
def pair? (n : Nat) : Option (Nat × Nat) :=
  if syllableBase ≤ n ∧ n < syllableBase + leadCount * vowelCount * trailCount then
    let i := n - syllableBase
    if i % trailCount = 0 then
      some (leadBase + i / trailCount / vowelCount, vowelBase + i / trailCount % vowelCount)
    else some (n - i % trailCount, trailBase + i % trailCount)
  else none

def compose? (m n : Nat) : Option Nat :=
  if leadBase ≤ m ∧ m < leadBase + leadCount ∧ vowelBase ≤ n ∧ n < vowelBase + vowelCount then
    some (syllableBase + ((m - leadBase) * vowelCount + (n - vowelBase)) * trailCount)
  else if (pair? m).isSome ∧ (m - syllableBase) % trailCount = 0 ∧ trailBase < n ∧
      n < trailBase + trailCount then some (m + (n - trailBase))
  else none

end Hangul

/-- The two characters that a composite stands for. -/
def pair? (c : Char) : Option (Char × Char) :=
  let codes := match compositeTable.find? c with
    | some (⟨_, _, [m, n]⟩, _) => some (m, n)
    | _ => Hangul.pair? c.toNat
  match codes with
  | some (m, n) => if (Char.ofNat m).toNat < c.toNat then some (Char.ofNat m, Char.ofNat n) else none
  | none => none

theorem fst_toNat_lt_of_pair? {c d e : Char} (h : pair? c = some (d, e)) : d.toNat < c.toNat := by
  unfold pair? at h
  dsimp only at h
  split at h
  · split at h
    next hlt =>
      simp only [Option.some.injEq, Prod.mk.injEq] at h
      rw [← h.1]
      exact hlt
    next => simp at h
  · simp at h

/-- The code point of the first run with the two numbers, in runs that start at a code point. -/
def codeOfPair? (m n : Nat) (start : Nat) : List CharRun → Option Nat
  | [] => none
  | r :: rs => if r.numbers == [m, n] then some start else codeOfPair? m n (start + r.length) rs

/-- The composite of two characters. -/
def compose? (c d : Char) : Option Char :=
  (codeOfPair? c.toNat d.toNat compositeTable.first compositeTable.runs).or
    (Hangul.compose? c.toNat d.toNat) |>.map Char.ofNat

end CostJournal
