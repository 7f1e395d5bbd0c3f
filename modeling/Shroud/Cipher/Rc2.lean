import Shroud.Cipher.Block

/-!
# RC2

RC2 works on four sixteen-bit words. A key of any length is expanded to 128 octets, narrowed to the
effective number of bits, and read as 64 key words. A block then goes through the steps of
`Rc2.program`: sixteen mixing steps with four key words each, and two mashing steps, which add key words
chosen by the data. Every step has an inverse, so decryption runs the inverse steps in reverse order.
-/

namespace Shroud.Rc2

/-- A sixteen-bit word. -/
abbrev Word := BitVec 16

/-- The state of the cipher: four words. -/
structure State where
  r0 : Word
  r1 : Word
  r2 : Word
  r3 : Word
  deriving DecidableEq

/-! ### Key expansion -/

/-- The substitution of octets, a fixed permutation. -/
def permutation : Array UInt8 :=
  #[0xd9, 0x78, 0xf9, 0xc4, 0x19, 0xdd, 0xb5, 0xed, 0x28, 0xe9, 0xfd, 0x79, 0x4a, 0xa0, 0xd8, 0x9d,
    0xc6, 0x7e, 0x37, 0x83, 0x2b, 0x76, 0x53, 0x8e, 0x62, 0x4c, 0x64, 0x88, 0x44, 0x8b, 0xfb, 0xa2,
    0x17, 0x9a, 0x59, 0xf5, 0x87, 0xb3, 0x4f, 0x13, 0x61, 0x45, 0x6d, 0x8d, 0x09, 0x81, 0x7d, 0x32,
    0xbd, 0x8f, 0x40, 0xeb, 0x86, 0xb7, 0x7b, 0x0b, 0xf0, 0x95, 0x21, 0x22, 0x5c, 0x6b, 0x4e, 0x82,
    0x54, 0xd6, 0x65, 0x93, 0xce, 0x60, 0xb2, 0x1c, 0x73, 0x56, 0xc0, 0x14, 0xa7, 0x8c, 0xf1, 0xdc,
    0x12, 0x75, 0xca, 0x1f, 0x3b, 0xbe, 0xe4, 0xd1, 0x42, 0x3d, 0xd4, 0x30, 0xa3, 0x3c, 0xb6, 0x26,
    0x6f, 0xbf, 0x0e, 0xda, 0x46, 0x69, 0x07, 0x57, 0x27, 0xf2, 0x1d, 0x9b, 0xbc, 0x94, 0x43, 0x03,
    0xf8, 0x11, 0xc7, 0xf6, 0x90, 0xef, 0x3e, 0xe7, 0x06, 0xc3, 0xd5, 0x2f, 0xc8, 0x66, 0x1e, 0xd7,
    0x08, 0xe8, 0xea, 0xde, 0x80, 0x52, 0xee, 0xf7, 0x84, 0xaa, 0x72, 0xac, 0x35, 0x4d, 0x6a, 0x2a,
    0x96, 0x1a, 0xd2, 0x71, 0x5a, 0x15, 0x49, 0x74, 0x4b, 0x9f, 0xd0, 0x5e, 0x04, 0x18, 0xa4, 0xec,
    0xc2, 0xe0, 0x41, 0x6e, 0x0f, 0x51, 0xcb, 0xcc, 0x24, 0x91, 0xaf, 0x50, 0xa1, 0xf4, 0x70, 0x39,
    0x99, 0x7c, 0x3a, 0x85, 0x23, 0xb8, 0xb4, 0x7a, 0xfc, 0x02, 0x36, 0x5b, 0x25, 0x55, 0x97, 0x31,
    0x2d, 0x5d, 0xfa, 0x98, 0xe3, 0x8a, 0x92, 0xae, 0x05, 0xdf, 0x29, 0x10, 0x67, 0x6c, 0xba, 0xc9,
    0xd3, 0x00, 0xe6, 0xcf, 0xe1, 0x9e, 0xa8, 0x2c, 0x63, 0x16, 0x01, 0x3f, 0x58, 0xe2, 0x89, 0xa9,
    0x0d, 0x38, 0x34, 0x1b, 0xab, 0x33, 0xff, 0xb0, 0xbb, 0x48, 0x0c, 0x5f, 0xb9, 0xb1, 0xcd, 0x2e,
    0xc5, 0xf3, 0xdb, 0x47, 0xe5, 0xa5, 0x9c, 0x77, 0x0a, 0xa6, 0x20, 0x68, 0xfe, 0x7f, 0xc1, 0xad]

/-- The substitute of an octet. -/
def substitute (b : UInt8) : UInt8 :=
  permutation.getD b.toNat 0

/-- The key octets continued by `n` more: each substitutes the sum of the last one and the one a key
length back. -/
def extend (keyLength : Nat) : (n : Nat) → Array UInt8 → Array UInt8
  | 0, octets => octets
  | n + 1, octets =>
    extend keyLength n (octets.push
      (substitute (octets.getD (octets.size - 1) 0 + octets.getD (octets.size - keyLength) 0)))

/-- Octets preceded by `n` more: each substitutes the sum modulo two of its successor and the one
`width` places on. -/
def precede (width : Nat) : (n : Nat) → Bytes → Bytes
  | 0, octets => octets
  | n + 1, octets =>
    precede width n (substitute (octets.headD 0 ^^^ octets.getD (width - 1) 0) :: octets)

/-- The 128 octets of an expanded key: the extended key's last octets are kept, as many as hold
`bits` bits, the first of them is masked to its share, and the others are made anew from these. -/
def expandedOctets (key : Bytes) (bits : Nat) : Bytes :=
  let extended := (extend key.length (128 - key.length) key.toArray).toList
  let width := (bits + 7) / 8
  let mask := UInt8.ofNat (Nat.pow 2 (8 + bits - 8 * width) - 1)
  match extended.drop (128 - width) with
  | first :: rest => precede width (128 - width) (substitute (first &&& mask) :: rest)
  | [] => extended

/-- The word of a low and a high octet. -/
def wordOf (low high : UInt8) : Word :=
  high.toBitVec ++ low.toBitVec

/-- The words of octets, two octets each, the low one first. -/
def wordsOf : Bytes → List Word
  | low :: high :: rest => wordOf low high :: wordsOf rest
  | _ => []

/-- The 64 key words of a key with `bits` effective bits. -/
def keyWords (key : Bytes) (bits : Nat) : Array Word :=
  (wordsOf (expandedOctets key bits)).toArray

/-! ### Steps -/

/-- One step on the state. -/
inductive Step where
  /-- Four key words are mixed in. -/
  | mix (k0 k1 k2 k3 : Word)
  /-- Key words chosen by the data are added. -/
  | mash

/-- What the three other words contribute to a word in a mixing step: `a` is the preceding word, which
chooses between the bits of `b` and of `c`. -/
def choice (a b c : Word) : Word :=
  (a &&& b) + (~~~a &&& c)

/-- A step forward. -/
def Step.forward (keys : Array Word) : Step → State → State
  | mix k0 k1 k2 k3, s =>
    let r0 := (s.r0 + k0 + choice s.r3 s.r2 s.r1).rotateLeft 1
    let r1 := (s.r1 + k1 + choice r0 s.r3 s.r2).rotateLeft 2
    let r2 := (s.r2 + k2 + choice r1 r0 s.r3).rotateLeft 3
    let r3 := (s.r3 + k3 + choice r2 r1 r0).rotateLeft 5
    ⟨r0, r1, r2, r3⟩
  | mash, s =>
    let key (w : Word) : Word := keys.getD (w &&& 63).toNat 0
    let r0 := s.r0 + key s.r3
    let r1 := s.r1 + key r0
    let r2 := s.r2 + key r1
    let r3 := s.r3 + key r2
    ⟨r0, r1, r2, r3⟩

/-- The same step backward. -/
def Step.backward (keys : Array Word) : Step → State → State
  | mix k0 k1 k2 k3, s =>
    let r3 := s.r3.rotateRight 5 - choice s.r2 s.r1 s.r0 - k3
    let r2 := s.r2.rotateRight 3 - choice s.r1 s.r0 r3 - k2
    let r1 := s.r1.rotateRight 2 - choice s.r0 r3 r2 - k1
    let r0 := s.r0.rotateRight 1 - choice r3 r2 r1 - k0
    ⟨r0, r1, r2, r3⟩
  | mash, s =>
    let key (w : Word) : Word := keys.getD (w &&& 63).toNat 0
    let r3 := s.r3 - key s.r2
    let r2 := s.r2 - key s.r1
    let r1 := s.r1 - key s.r0
    let r0 := s.r0 - key r3
    ⟨r0, r1, r2, r3⟩

/-- The `i`-th mixing step of a key. -/
def mixing (keys : Array Word) (i : Nat) : Step :=
  .mix (keys.getD (4 * i) 0) (keys.getD (4 * i + 1) 0) (keys.getD (4 * i + 2) 0)
    (keys.getD (4 * i + 3) 0)

/-- The steps of an encryption: five, six and five mixing steps with a mashing step between them. -/
def program (keys : Array Word) : List Step :=
  (List.range' 0 5).map (mixing keys) ++ .mash :: (List.range' 5 6).map (mixing keys)
    ++ .mash :: (List.range' 11 5).map (mixing keys)

/-! ### Blocks -/

/-- The state of a block. -/
def stateOf (b : Block) : State :=
  ⟨wordOf b[0] b[1], wordOf b[2] b[3], wordOf b[4] b[5], wordOf b[6] b[7]⟩

/-- The low octet of a word. -/
def lowOctet (w : Word) : UInt8 := ⟨w.extractLsb' 0 8⟩

/-- The high octet of a word. -/
def highOctet (w : Word) : UInt8 := ⟨w.extractLsb' 8 8⟩

/-- The block of a state. -/
def blockOf (s : State) : Block :=
  #v[lowOctet s.r0, highOctet s.r0, lowOctet s.r1, highOctet s.r1, lowOctet s.r2, highOctet s.r2,
    lowOctet s.r3, highOctet s.r3]

/-- The block cipher of expanded key words. -/
def cipher (keys : Array Word) : BlockCipher where
  encrypt b := blockOf ((program keys).foldl (fun s step => step.forward keys s) (stateOf b))
  decrypt b := blockOf ((program keys).reverse.foldl (fun s step => step.backward keys s) (stateOf b))

end Shroud.Rc2
