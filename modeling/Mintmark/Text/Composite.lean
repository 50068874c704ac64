import Mintmark.Text.Ranges

/-!
# Composite characters

Characters of Unicode 17 that stand for two others, as far as a domain name holds them. The
syllables of Hangul are composed by rule and all others by a table.
-/

namespace Mintmark.Text

/-- Two characters and what they are composed to. -/
structure Composite where
  first : Nat
  second : Nat
  whole : Nat
deriving DecidableEq, Repr

namespace Composite

/-- Reads a first part, a colon, and the second parts with what each of them makes. -/
def readGroup (cs : List Char) : List Composite :=
  let first := readHex (cs.takeWhile (· != ':'))
  (((cs.dropWhile (· != ':')).drop 1).splitOn ',').map fun item =>
    let parts := (item.splitOn '=').map readHex
    ⟨first, parts.headD 0, parts.getLastD 0⟩

def table : List Composite := lines.flatMap fun line => (line.toList.splitOn ' ').flatMap readGroup
where lines : List String :=
  ["3C:338=226E 3D:338=2260 3E:338=226F",
   "61:300=E0,301=E1,302=E2,303=E3,304=101,306=103,307=227,308=E4",
   "61:309=1EA3,30A=E5,30C=1CE,30F=201,311=203,323=1EA1,325=1E01,328=105",
   "62:307=1E03,323=1E05,331=1E07 63:301=107,302=109,307=10B,30C=10D,327=E7",
   "64:307=1E0B,30C=10F,323=1E0D,327=1E11,32D=1E13,331=1E0F",
   "65:300=E8,301=E9,302=EA,303=1EBD,304=113,306=115,307=117,308=EB",
   "65:309=1EBB,30C=11B,30F=205,311=207,323=1EB9,327=229,328=119,32D=1E19 65:330=1E1B 66:307=1E1F",
   "67:301=1F5,302=11D,304=1E21,306=11F,307=121,30C=1E7,327=123",
   "68:302=125,307=1E23,308=1E27,30C=21F,323=1E25,327=1E29,32E=1E2B,331=1E96",
   "69:300=EC,301=ED,302=EE,303=129,304=12B,306=12D,308=EF,309=1EC9",
   "69:30C=1D0,30F=209,311=20B,323=1ECB,328=12F,330=1E2D 6A:302=135,30C=1F0",
   "6B:301=1E31,30C=1E9,323=1E33,327=137,331=1E35",
   "6C:301=13A,30C=13E,323=1E37,327=13C,32D=1E3D,331=1E3B 6D:301=1E3F,307=1E41,323=1E43",
   "6E:300=1F9,301=144,303=F1,307=1E45,30C=148,323=1E47,327=146,32D=1E4B 6E:331=1E49",
   "6F:300=F2,301=F3,302=F4,303=F5,304=14D,306=14F,307=22F,308=F6",
   "6F:309=1ECF,30B=151,30C=1D2,30F=20D,311=20F,31B=1A1,323=1ECD,328=1EB 70:301=1E55,307=1E57",
   "72:301=155,307=1E59,30C=159,30F=211,311=213,323=1E5B,327=157,331=1E5F",
   "73:301=15B,302=15D,307=1E61,30C=161,323=1E63,326=219,327=15F",
   "74:307=1E6B,308=1E97,30C=165,323=1E6D,326=21B,327=163,32D=1E71,331=1E6F",
   "75:300=F9,301=FA,302=FB,303=169,304=16B,306=16D,308=FC,309=1EE7",
   "75:30A=16F,30B=171,30C=1D4,30F=215,311=217,31B=1B0,323=1EE5,324=1E73",
   "75:328=173,32D=1E77,330=1E75 76:303=1E7D,323=1E7F",
   "77:300=1E81,301=1E83,302=175,307=1E87,308=1E85,30A=1E98,323=1E89 78:307=1E8B,308=1E8D",
   "79:300=1EF3,301=FD,302=177,303=1EF9,304=233,307=1E8F,308=FF,309=1EF7 79:30A=1E99,323=1EF5",
   "7A:301=17A,302=1E91,307=17C,30C=17E,323=1E93,331=1E95 E2:300=1EA7,301=1EA5,303=1EAB,309=1EA9",
   "E4:304=1DF E5:301=1FB E6:301=1FD,304=1E3 E7:301=1E09 EA:300=1EC1,301=1EBF,303=1EC5,309=1EC3",
   "EF:301=1E2F F4:300=1ED3,301=1ED1,303=1ED7,309=1ED5 F5:301=1E4D,304=22D,308=1E4F F6:304=22B",
   "F8:301=1FF FC:300=1DC,301=1D8,304=1D6,30C=1DA 103:300=1EB1,301=1EAF,303=1EB5,309=1EB3",
   "113:300=1E15,301=1E17 14D:300=1E51,301=1E53 15B:307=1E65 161:307=1E67 169:301=1E79",
   "16B:308=1E7B 1A1:300=1EDD,301=1EDB,303=1EE1,309=1EDF,323=1EE3",
   "1B0:300=1EEB,301=1EE9,303=1EEF,309=1EED,323=1EF1 1EB:304=1ED 227:304=1E1 229:306=1E1D",
   "22F:304=231 292:30C=1EF 3B1:300=1F70,301=3AC,304=1FB1,306=1FB0,313=1F00,314=1F01,342=1FB6",
   "3B5:300=1F72,301=3AD,313=1F10,314=1F11 3B7:300=1F74,301=3AE,313=1F20,314=1F21,342=1FC6",
   "3B9:300=1F76,301=3AF,304=1FD1,306=1FD0,308=3CA,313=1F30,314=1F31,342=1FD6",
   "3BF:300=1F78,301=3CC,313=1F40,314=1F41 3C1:313=1FE4,314=1FE5",
   "3C5:300=1F7A,301=3CD,304=1FE1,306=1FE0,308=3CB,313=1F50,314=1F51,342=1FE6",
   "3C9:300=1F7C,301=3CE,313=1F60,314=1F61,342=1FF6 3CA:300=1FD2,301=390,342=1FD7",
   "3CB:300=1FE2,301=3B0,342=1FE7 430:306=4D1,308=4D3 433:301=453 435:300=450,306=4D7,308=451",
   "436:306=4C2,308=4DD 437:308=4DF 438:300=45D,304=4E3,306=439,308=4E5 43A:301=45C 43E:308=4E7",
   "443:304=4EF,306=45E,308=4F1,30B=4F3 447:308=4F5 44B:308=4F9 44D:308=4ED 456:308=457",
   "475:30F=477 4D9:308=4DB 4E9:308=4EB 627:653=622,654=623,655=625 648:654=624 64A:654=626",
   "6C1:654=6C2 6D2:654=6D3 6D5:654=6C0 928:93C=929 930:93C=931 933:93C=934 9C7:9BE=9CB,9D7=9CC",
   "B47:B3E=B4B,B56=B48,B57=B4C B92:BD7=B94 BC6:BBE=BCA,BD7=BCC BC7:BBE=BCB C46:C56=C48",
   "CBF:CD5=CC0 CC6:CC2=CCA,CD5=CC7,CD6=CC8 CCA:CD5=CCB D46:D3E=D4A,D57=D4C D47:D3E=D4B",
   "DD9:DCA=DDA,DCF=DDC,DDF=DDE DDC:DCA=DDD 1025:102E=1026 1B05:1B35=1B06 1B07:1B35=1B08",
   "1B09:1B35=1B0A 1B0B:1B35=1B0C 1B0D:1B35=1B0E 1B11:1B35=1B12 1B3A:1B35=1B3B 1B3C:1B35=1B3D",
   "1B3E:1B35=1B40 1B3F:1B35=1B41 1B42:1B35=1B43 1E37:304=1E39 1E5B:304=1E5D 1E63:307=1E69",
   "1EA1:302=1EAD,306=1EB7 1EB9:302=1EC7 1ECD:302=1ED9 1F00:300=1F02,301=1F04,342=1F06",
   "1F01:300=1F03,301=1F05,342=1F07 1F10:300=1F12,301=1F14 1F11:300=1F13,301=1F15",
   "1F20:300=1F22,301=1F24,342=1F26 1F21:300=1F23,301=1F25,342=1F27",
   "1F30:300=1F32,301=1F34,342=1F36 1F31:300=1F33,301=1F35,342=1F37 1F40:300=1F42,301=1F44",
   "1F41:300=1F43,301=1F45 1F50:300=1F52,301=1F54,342=1F56 1F51:300=1F53,301=1F55,342=1F57",
   "1F60:300=1F62,301=1F64,342=1F66 1F61:300=1F63,301=1F65,342=1F67 2190:338=219A 2192:338=219B",
   "2194:338=21AE 21D0:338=21CD 21D2:338=21CF 21D4:338=21CE 2203:338=2204 2208:338=2209",
   "220B:338=220C 2223:338=2224 2225:338=2226 223C:338=2241 2243:338=2244 2245:338=2247",
   "2248:338=2249 224D:338=226D 2261:338=2262 2264:338=2270 2265:338=2271 2272:338=2274",
   "2273:338=2275 2276:338=2278 2277:338=2279 227A:338=2280 227B:338=2281 227C:338=22E0",
   "227D:338=22E1 2282:338=2284 2283:338=2285 2286:338=2288 2287:338=2289 2291:338=22E2",
   "2292:338=22E3 22A2:338=22AC 22A8:338=22AD 22A9:338=22AE 22AB:338=22AF 22B2:338=22EA",
   "22B3:338=22EB 22B4:338=22EC 22B5:338=22ED 3046:3099=3094 304B:3099=304C 304D:3099=304E",
   "304F:3099=3050 3051:3099=3052 3053:3099=3054 3055:3099=3056 3057:3099=3058 3059:3099=305A",
   "305B:3099=305C 305D:3099=305E 305F:3099=3060 3061:3099=3062 3064:3099=3065 3066:3099=3067",
   "3068:3099=3069 306F:3099=3070,309A=3071 3072:3099=3073,309A=3074 3075:3099=3076,309A=3077",
   "3078:3099=3079,309A=307A 307B:3099=307C,309A=307D 309D:3099=309E 30A6:3099=30F4 30AB:3099=30AC",
   "30AD:3099=30AE 30AF:3099=30B0 30B1:3099=30B2 30B3:3099=30B4 30B5:3099=30B6 30B7:3099=30B8",
   "30B9:3099=30BA 30BB:3099=30BC 30BD:3099=30BE 30BF:3099=30C0 30C1:3099=30C2 30C4:3099=30C5",
   "30C6:3099=30C7 30C8:3099=30C9 30CF:3099=30D0,309A=30D1 30D2:3099=30D3,309A=30D4",
   "30D5:3099=30D6,309A=30D7 30D8:3099=30D9,309A=30DA 30DB:3099=30DC,309A=30DD 30EF:3099=30F7",
   "30F0:3099=30F8 30F1:3099=30F9 30F2:3099=30FA 30FD:3099=30FE 105D2:307=105C9 105DA:307=105E4",
   "11099:110BA=1109A 1109B:110BA=1109C 110A5:110BA=110AB 11131:11127=1112E 11132:11127=1112F",
   "11347:1133E=1134B,11357=1134C 11382:113C9=11383 11384:113BB=11385 1138B:113C2=1138E",
   "11390:113C9=11391 113C2:113B8=113C7,113C2=113C5,113C9=113C8",
   "114B9:114B0=114BC,114BA=114BB,114BD=114BE 115B8:115AF=115BA 115B9:115AF=115BB",
   "11935:11930=11938 1611E:1611E=16121,1611F=16123,16120=16125,16129=16122",
   "16121:1611F=16126,16120=16128 16122:1611F=16127 16129:1611F=16124 16D63:16D67=16D69",
   "16D67:16D67=16D68 16D69:16D67=16D6A"]

/-- The first of the leading consonants, of the vowels, and one before the first of the trailing
consonants. -/
def leadStart : Nat := 0x1100
def vowelStart : Nat := 0x1161
def trailStart : Nat := 0x11A7
def syllableStart : Nat := 0xAC00

def leads : Nat := 19
def vowels : Nat := 21
/-- The trailing consonants, and none. -/
def trails : Nat := 28

def isSyllable (n : Nat) : Bool := syllableStart ≤ n && n < syllableStart + leads * vowels * trails

/-- The syllable of two parts. -/
def syllable? (a b : Nat) : Option Nat :=
  if leadStart ≤ a ∧ a < leadStart + leads ∧ vowelStart ≤ b ∧ b < vowelStart + vowels then
    some (syllableStart + ((a - leadStart) * vowels + (b - vowelStart)) * trails)
  else if isSyllable a ∧ (a - syllableStart) % trails = 0
      ∧ trailStart < b ∧ b < trailStart + trails then
    some (a + (b - trailStart))
  else none

/-- The two parts of a syllable. -/
def syllableParts (n : Nat) : Nat × Nat :=
  let place := n - syllableStart
  let trail := place % trails
  if trail = 0 then
    (leadStart + place / (vowels * trails), vowelStart + place / trails % vowels)
  else (n - trail, trailStart + trail)

/-- What two characters are composed to. -/
def compose? (a b : Char) : Option Char :=
  match syllable? a.toNat b.toNat with
  | some n => some (Char.ofNat n)
  | none =>
    (table.find? fun e => e.first = a.toNat && e.second = b.toNat).map fun e => Char.ofNat e.whole

/-- The two characters that a composite stands for. -/
def parts? (c : Char) : Option (Char × Char) :=
  let parts? :=
    if isSyllable c.toNat then some (syllableParts c.toNat)
    else (table.find? (·.whole = c.toNat)).map fun e => (e.first, e.second)
  parts?.map fun (a, b) => (Char.ofNat a, Char.ofNat b)

end Composite
end Mintmark.Text
