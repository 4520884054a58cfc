import CiHarness.Host.Calendar
import CiHarness.Host.Tool.Lines

/-!
# Programs that compute digests

A digest is a short text that is computed from all bytes of a file, block by block. Some programs
write the digests of files, or check that files still have the digests that are written in a list.
-/
namespace CiHarness

/-- A method tells the digest of some bytes. -/
abbrev DigestMethod := ByteArray → String

/-- How a digest is computed: the words at the start, how a block of sixteen words changes them, how
many of them are told at the end, and whether numbers are written with the highest byte first. -/
structure BlockMethod (Word : Type) where
  start : Array Word
  step : Array Word → Array Word → Array Word
  kept : Nat
  isHighFirst : Bool
  /-- How many bytes make a word, and how a word is made of a number and told by one. -/
  width : Nat
  ofNat : Nat → Word
  toNat : Word → Nat

namespace BlockMethod

/-- The bytes of a number with the lowest one first. -/
def lowBytes (n count : Nat) : List UInt8 := (List.range count).map fun i =>
  UInt8.ofNat (n / Nat.pow 256 i)

/-- Bytes filled up to whole blocks: a mark, zeros, and the number of bits in two words. -/
def padded {Word : Type} (m : BlockMethod Word) (bytes : ByteArray) : ByteArray :=
  let block := 16 * m.width
  let zeros := (2 * block - 1 - 2 * m.width - bytes.size % block) % block
  let size := lowBytes (bytes.size * 8) (2 * m.width)
  (0x80 :: (List.replicate zeros 0 ++ if m.isHighFirst then size.reverse else size)).foldl
  ByteArray.push bytes

/-- The sixteen words of a block. -/
def words {Word : Type} (m : BlockMethod Word) (bytes : ByteArray) (block : Nat) : Array Word :=
  (Array.range 16).map fun i =>
    let start := (block * 16 + i) * m.width
    let places := List.range m.width
    m.ofNat ((if m.isHighFirst then places else places.reverse).foldl
      (fun n k => n * 256 + (bytes.get! (start + k)).toNat) 0)

/-- A byte in hexadecimal digits. -/
def hexadecimal (b : UInt8) : String :=
  String.ofList [Nat.digitChar (b.toNat / 16), Nat.digitChar (b.toNat % 16)]

/-- The digest of some bytes. -/
def digest {Word : Type} (m : BlockMethod Word) : DigestMethod := fun bytes =>
  let bytes := m.padded bytes
  let last := (List.range (bytes.size / (16 * m.width))).foldl
    (fun state i => m.step state (m.words bytes i)) m.start
  String.join ((last.toList.take m.kept).map fun word =>
    let low := lowBytes (m.toNat word) m.width
    String.join ((if m.isHighFirst then low.reverse else low).map hexadecimal))

/-- A method with words of thirty-two bits. -/
def narrow (start : Array UInt32) (kept : Nat) (isHighFirst : Bool)
    (step : Array UInt32 → Array UInt32 → Array UInt32) : BlockMethod UInt32 :=
  ⟨start, step, kept, isHighFirst, 4, UInt32.ofNat, UInt32.toNat⟩

def rotateLeft (x n : UInt32) : UInt32 := x <<< n ||| x >>> (32 - n)

def rotateRight (x n : UInt32) : UInt32 := x >>> n ||| x <<< (32 - n)

/-- Two sequences of words, added one by one. -/
def added {Word : Type} [Add Word] (a b : Array Word) : Array Word := a.zipWith (· + ·) b

/-- The fractions of the sines of the first numbers. -/
def sines : Array UInt32 :=
  #[0xd76aa478, 0xe8c7b756, 0x242070db, 0xc1bdceee, 0xf57c0faf, 0x4787c62a,
    0xa8304613, 0xfd469501, 0x698098d8, 0x8b44f7af, 0xffff5bb1, 0x895cd7be,
    0x6b901122, 0xfd987193, 0xa679438e, 0x49b40821, 0xf61e2562, 0xc040b340,
    0x265e5a51, 0xe9b6c7aa, 0xd62f105d, 0x02441453, 0xd8a1e681, 0xe7d3fbc8,
    0x21e1cde6, 0xc33707d6, 0xf4d50d87, 0x455a14ed, 0xa9e3e905, 0xfcefa3f8,
    0x676f02d9, 0x8d2a4c8a, 0xfffa3942, 0x8771f681, 0x6d9d6122, 0xfde5380c,
    0xa4beea44, 0x4bdecfa9, 0xf6bb4b60, 0xbebfbc70, 0x289b7ec6, 0xeaa127fa,
    0xd4ef3085, 0x04881d05, 0xd9d4d039, 0xe6db99e5, 0x1fa27cf8, 0xc4ac5665,
    0xf4292244, 0x432aff97, 0xab9423a7, 0xfc93a039, 0x655b59c3, 0x8f0ccc92,
    0xffeff47d, 0x85845dd1, 0x6fa87e4f, 0xfe2ce6e0, 0xa3014314, 0x4e0811a1,
    0xf7537e82, 0xbd3af235, 0x2ad7d2bb, 0xeb86d391]

/-- The method with digests of a hundred and twenty-eight bits. -/
def md5 : DigestMethod :=
  (narrow #[0x67452301, 0xefcdab89, 0x98badcfe, 0x10325476] 4 false step).digest
where
  step (state block : Array UInt32) : Array UInt32 :=
    let turns : Array UInt32 := #[7, 12, 17, 22, 5, 9, 14, 20, 4, 11, 16, 23, 6, 10, 15, 21]
    added state ((List.range 64).foldl (fun s i =>
      let (a, b, c, d) := (s.getD 0 0, s.getD 1 0, s.getD 2 0, s.getD 3 0)
      let (f, k) : UInt32 × Nat :=
        if i < 16 then ((b &&& c) ||| (~~~b &&& d), i)
        else if i < 32 then ((d &&& b) ||| (~~~d &&& c), (5 * i + 1) % 16)
        else if i < 48 then (b ^^^ c ^^^ d, (3 * i + 5) % 16)
        else (c ^^^ (b ||| ~~~d), (7 * i) % 16)
      let turned := rotateLeft (a + f + sines.getD i 0 + block.getD k 0)
        (turns.getD (i / 16 * 4 + i % 4) 0)
      #[d, b + turned, b, c]) state)

/-- The method with digests of a hundred and sixty bits. -/
def sha1 : DigestMethod :=
  (narrow #[0x67452301, 0xefcdab89, 0x98badcfe, 0x10325476, 0xc3d2e1f0] 5 true step).digest
where
  step (state block : Array UInt32) : Array UInt32 :=
    let schedule := (List.range 64).foldl (fun w i =>
      let old (k : Nat) : UInt32 := w.getD (i + 16 - k) 0
      w.push (rotateLeft (old 3 ^^^ old 8 ^^^ old 14 ^^^ old 16) 1)) block
    added state ((List.range 80).foldl (fun s i =>
      let (a, b, c, d, e) := (s.getD 0 0, s.getD 1 0, s.getD 2 0, s.getD 3 0, s.getD 4 0)
      let (f, k) : UInt32 × UInt32 :=
        if i < 20 then ((b &&& c) ||| (~~~b &&& d), 0x5a827999)
        else if i < 40 then (b ^^^ c ^^^ d, 0x6ed9eba1)
        else if i < 60 then ((b &&& c) ||| (b &&& d) ||| (c &&& d), 0x8f1bbcdc)
        else (b ^^^ c ^^^ d, 0xca62c1d6)
      #[rotateLeft a 5 + f + e + k + schedule.getD i 0, a, rotateLeft b 30, c, d]) state)

/-- The fractions of the cube roots of the first primes. -/
def cubeRoots : Array UInt32 :=
  #[0x428a2f98, 0x71374491, 0xb5c0fbcf, 0xe9b5dba5, 0x3956c25b, 0x59f111f1,
    0x923f82a4, 0xab1c5ed5, 0xd807aa98, 0x12835b01, 0x243185be, 0x550c7dc3,
    0x72be5d74, 0x80deb1fe, 0x9bdc06a7, 0xc19bf174, 0xe49b69c1, 0xefbe4786,
    0x0fc19dc6, 0x240ca1cc, 0x2de92c6f, 0x4a7484aa, 0x5cb0a9dc, 0x76f988da,
    0x983e5152, 0xa831c66d, 0xb00327c8, 0xbf597fc7, 0xc6e00bf3, 0xd5a79147,
    0x06ca6351, 0x14292967, 0x27b70a85, 0x2e1b2138, 0x4d2c6dfc, 0x53380d13,
    0x650a7354, 0x766a0abb, 0x81c2c92e, 0x92722c85, 0xa2bfe8a1, 0xa81a664b,
    0xc24b8b70, 0xc76c51a3, 0xd192e819, 0xd6990624, 0xf40e3585, 0x106aa070,
    0x19a4c116, 0x1e376c08, 0x2748774c, 0x34b0bcb5, 0x391c0cb3, 0x4ed8aa4a,
    0x5b9cca4f, 0x682e6ff3, 0x748f82ee, 0x78a5636f, 0x84c87814, 0x8cc70208,
    0x90befffa, 0xa4506ceb, 0xbef9a3f7, 0xc67178f2]

/-- How eight words are changed by a block. -/
def mixed (state block : Array UInt32) : Array UInt32 :=
  let schedule := (List.range 48).foldl (fun w i =>
    let old (k : Nat) : UInt32 := w.getD (i + 16 - k) 0
    let s0 := rotateRight (old 15) 7 ^^^ rotateRight (old 15) 18 ^^^ (old 15 >>> 3)
    let s1 := rotateRight (old 2) 17 ^^^ rotateRight (old 2) 19 ^^^ (old 2 >>> 10)
    w.push (old 16 + s0 + old 7 + s1)) block
  added state ((List.range 64).foldl (fun s i =>
    let (a, b, c, d) := (s.getD 0 0, s.getD 1 0, s.getD 2 0, s.getD 3 0)
    let (e, f, g, h) := (s.getD 4 0, s.getD 5 0, s.getD 6 0, s.getD 7 0)
    let s1 := rotateRight e 6 ^^^ rotateRight e 11 ^^^ rotateRight e 25
    let first := h + s1 + ((e &&& f) ^^^ (~~~e &&& g)) + cubeRoots.getD i 0 + schedule.getD i 0
    let s0 := rotateRight a 2 ^^^ rotateRight a 13 ^^^ rotateRight a 22
    let second := s0 + ((a &&& b) ^^^ (a &&& c) ^^^ (b &&& c))
    #[first + second, a, b, c, d + first, e, f, g]) state)

/-- The method with digests of two hundred and fifty-six bits. -/
def sha256 : DigestMethod :=
  (narrow
    #[0x6a09e667, 0xbb67ae85, 0x3c6ef372, 0xa54ff53a, 0x510e527f, 0x9b05688c, 0x1f83d9ab,
      0x5be0cd19]
    8 true mixed).digest

/-- The method with digests of two hundred and twenty-four bits. -/
def sha224 : DigestMethod :=
  (narrow
    #[0xc1059ed8, 0x367cd507, 0x3070dd17, 0xf70e5939, 0xffc00b31, 0x68581511, 0x64f98fa7,
      0xbefa4fa4]
    7 true mixed).digest

def turnRight (x n : UInt64) : UInt64 := x >>> n ||| x <<< (64 - n)

/-- The fractions of the cube roots of the first primes, with twice as many bits. -/
def longCubeRoots : Array UInt64 :=
  #[0x428a2f98d728ae22, 0x7137449123ef65cd, 0xb5c0fbcfec4d3b2f, 0xe9b5dba58189dbbc,
    0x3956c25bf348b538, 0x59f111f1b605d019, 0x923f82a4af194f9b, 0xab1c5ed5da6d8118,
    0xd807aa98a3030242, 0x12835b0145706fbe, 0x243185be4ee4b28c, 0x550c7dc3d5ffb4e2,
    0x72be5d74f27b896f, 0x80deb1fe3b1696b1, 0x9bdc06a725c71235, 0xc19bf174cf692694,
    0xe49b69c19ef14ad2, 0xefbe4786384f25e3, 0x0fc19dc68b8cd5b5, 0x240ca1cc77ac9c65,
    0x2de92c6f592b0275, 0x4a7484aa6ea6e483, 0x5cb0a9dcbd41fbd4, 0x76f988da831153b5,
    0x983e5152ee66dfab, 0xa831c66d2db43210, 0xb00327c898fb213f, 0xbf597fc7beef0ee4,
    0xc6e00bf33da88fc2, 0xd5a79147930aa725, 0x06ca6351e003826f, 0x142929670a0e6e70,
    0x27b70a8546d22ffc, 0x2e1b21385c26c926, 0x4d2c6dfc5ac42aed, 0x53380d139d95b3df,
    0x650a73548baf63de, 0x766a0abb3c77b2a8, 0x81c2c92e47edaee6, 0x92722c851482353b,
    0xa2bfe8a14cf10364, 0xa81a664bbc423001, 0xc24b8b70d0f89791, 0xc76c51a30654be30,
    0xd192e819d6ef5218, 0xd69906245565a910, 0xf40e35855771202a, 0x106aa07032bbd1b8,
    0x19a4c116b8d2d0c8, 0x1e376c085141ab53, 0x2748774cdf8eeb99, 0x34b0bcb5e19b48a8,
    0x391c0cb3c5c95a63, 0x4ed8aa4ae3418acb, 0x5b9cca4f7763e373, 0x682e6ff3d6b2b8a3,
    0x748f82ee5defb2fc, 0x78a5636f43172f60, 0x84c87814a1f0ab72, 0x8cc702081a6439ec,
    0x90befffa23631e28, 0xa4506cebde82bde9, 0xbef9a3f7b2c67915, 0xc67178f2e372532b,
    0xca273eceea26619c, 0xd186b8c721c0c207, 0xeada7dd6cde0eb1e, 0xf57d4f7fee6ed178,
    0x06f067aa72176fba, 0x0a637dc5a2c898a6, 0x113f9804bef90dae, 0x1b710b35131c471b,
    0x28db77f523047d84, 0x32caab7b40c72493, 0x3c9ebe0a15c9bebc, 0x431d67c49c100d4c,
    0x4cc5d4becb3e42b6, 0x597f299cfc657e2a, 0x5fcb6fab3ad6faec, 0x6c44198c4a475817]

/-- The same for words of sixty-four bits. -/
def mixedWide (state block : Array UInt64) : Array UInt64 :=
  let schedule := (List.range 64).foldl (fun w i =>
    let old (k : Nat) : UInt64 := w.getD (i + 16 - k) 0
    let s0 := turnRight (old 15) 1 ^^^ turnRight (old 15) 8 ^^^ (old 15 >>> 7)
    let s1 := turnRight (old 2) 19 ^^^ turnRight (old 2) 61 ^^^ (old 2 >>> 6)
    w.push (old 16 + s0 + old 7 + s1)) block
  added state ((List.range 80).foldl (fun s i =>
    let (a, b, c, d) := (s.getD 0 0, s.getD 1 0, s.getD 2 0, s.getD 3 0)
    let (e, f, g, h) := (s.getD 4 0, s.getD 5 0, s.getD 6 0, s.getD 7 0)
    let s1 := turnRight e 14 ^^^ turnRight e 18 ^^^ turnRight e 41
    let first := h + s1 + ((e &&& f) ^^^ (~~~e &&& g)) + longCubeRoots.getD i 0 + schedule.getD i 0
    let s0 := turnRight a 28 ^^^ turnRight a 34 ^^^ turnRight a 39
    let second := s0 + ((a &&& b) ^^^ (a &&& c) ^^^ (b &&& c))
    #[first + second, a, b, c, d + first, e, f, g]) state)

/-- A method with words of sixty-four bits. -/
def wide (start : Array UInt64) (kept : Nat) : BlockMethod UInt64 :=
  ⟨start, mixedWide, kept, true, 8, UInt64.ofNat, UInt64.toNat⟩

/-- The method with digests of five hundred and twelve bits. -/
def sha512 : DigestMethod :=
  (wide
    #[0x6a09e667f3bcc908, 0xbb67ae8584caa73b, 0x3c6ef372fe94f82b, 0xa54ff53a5f1d36f1,
      0x510e527fade682d1, 0x9b05688c2b3e6c1f, 0x1f83d9abfb41bd6b, 0x5be0cd19137e2179]
    8).digest

/-- The method with digests of three hundred and eighty-four bits. -/
def sha384 : DigestMethod :=
  (wide
    #[0xcbbb9d5dc1059ed8, 0x629a292a367cd507, 0x9159015a3070dd17, 0x152fecd8f70e5939,
      0x67332667ffc00b31, 0x8eb44a8768581511, 0xdb0c2e0d64f98fa7, 0x47b5481dbefa4fa4]
    6).digest

end BlockMethod

namespace Tool

/-- A line of a list of digests: the digest and the name of the file. -/
def digestLine? (line : String) : Option (String × String) :=
  let digits := line.toList.takeWhile fun c => c.isDigit || ('a' ≤ c && c ≤ 'f') ||
    ('A' ≤ c && c ≤ 'F')
  match line.toList.drop digits.length with
  | ' ' :: c :: name =>
    if digits.isEmpty || name.isEmpty || !(c = ' ' || c = '*') then none
    else some ((String.ofList digits).map Char.toLower, String.ofList name)
  | _ => none

/-- The digests in some lists are checked. -/
def checkDigests (m : DigestMethod) (s : Surroundings) (name : String) (o : Options)
    (contents : Contents) : Effect :=
  let results := contents.flatMap fun (path, content) =>
    match content with
    | .error fault => [(1, "", [readComplaint name path fault])]
    | .ok supply =>
      let all := ((Octets.bareLines supply.text).filter (· != "")).filterMap digestLine?
      if all.isEmpty then
        [(1, "", [name ++ ": " ++ path ++ ": no properly formatted checksum lines found"])]
      else all.map fun (wanted, file) =>
        match s.read file with
        | .error fault => (1, file ++ ": FAILED open or read\n", [readComplaint name file fault])
        | .ok supply =>
          if m supply.all = wanted then (0, if o.has 'q' then "" else file ++ ": OK\n", [])
          else (1, file ++ ": FAILED\n", [])
  let text := String.join (results.map fun (_, text, _) => text)
  .ofBoth (if results.all fun (status, _, _) => status = 0 then 0 else 1)
    (results.flatMap fun (_, _, complaints) => complaints) (if o.has 's' then "" else text)

/-- A program that writes or checks the digests of files. -/
def runDigest (m : DigestMethod) (tag : String) : Utility :=
  withOptions (Grammar.ofText "bctzqsw" [("binary", 'b'), ("check", 'c'), ("text", 't'),
    ("zero", 'z'), ("tag", 'T'), ("quiet", 'q'), ("status", 's'), ("warn", 'w'),
      ("ignore-missing", 'w')] true) 1
    fun s name o =>
      overFiles s o.operands fun contents =>
        if o.has 'c' then checkDigests m s name o contents
        else
          let ends := if o.has 'z' then "\x00" else "\n"
          .ofBoth (if contents.all (·.2.isOk) then 0 else 1)
            (contents.filterMap fun (path, content) => match content with
              | .error fault => some (readComplaint name path fault)
              | .ok _ => none)
            (String.join (contents.filterMap fun (path, content) =>
              content.toOption.map fun supply =>
              let value := m supply.all
              if o.has 'T' then tag ++ " (" ++ path ++ ") = " ++ value ++ ends
              else value ++ (if o.has 'b' then " *" else "  ") ++ path ++ ends))

/-- A remainder of thirty-two bits with one byte more. -/
def remainder (crc : UInt32) (b : UInt8) : UInt32 :=
  (List.range 8).foldl (fun crc _ =>
    if crc &&& 0x80000000 != 0 then (crc <<< 1) ^^^ 0x04c11db7 else crc <<< 1)
      (crc ^^^ (b.toUInt32 <<< 24))

/-- The program that writes the remainders of files and their sizes. -/
def runCksum : Utility :=
  withOptions (Grammar.ofText "" [] true) 1 fun s name o =>
    overFiles s o.operands fun contents =>
      let rec sizeBytes : Nat → Nat → List UInt8
        | 0, _ => []
        | n + 1, size => if size = 0 then [] else UInt8.ofNat size :: sizeBytes n (size / 256)
      .ofBoth (if contents.all (·.2.isOk) then 0 else 1)
        (contents.filterMap fun (path, content) => match content with
          | .error fault => some (readComplaint name path fault)
          | .ok _ => none)
        (String.join (contents.filterMap fun (path, content) => content.toOption.map fun supply =>
          let bytes := supply.all
          let crc := ~~~((sizeBytes 8 bytes.size).foldl remainder (bytes.foldl remainder 0))
          toString crc.toNat ++ " " ++ toString bytes.size ++
            (if o.operands.isEmpty then "" else " " ++ path) ++ "\n"))

/-- The sum of bytes, each of which turns what was summed up by one bit: the program that writes it
and the number of blocks. -/
def runSum : Utility :=
  withOptions (Grammar.ofText "rs" [("sysv", 's')] true) 1 fun s name o =>
    overFiles s o.operands fun contents =>
      .ofBoth (if contents.all (·.2.isOk) then 0 else 1)
        (contents.filterMap fun (path, content) => match content with
          | .error fault => some (readComplaint name path fault)
          | .ok _ => none)
        (String.join (contents.filterMap fun (path, content) => content.toOption.map fun supply =>
          let bytes := supply.all
          let title := if o.operands.isEmpty then "" else " " ++ path
          if o.has 's' then
            let total := bytes.foldl (fun n b => n + b.toNat) 0
            let folded := total % 65536 + total % 4294967296 / 65536
            toString (folded % 65536 + folded / 65536) ++ " " ++
            toString ((bytes.size + 511) / 512) ++ title ++ "\n"
          else
            let sum := bytes.foldl (fun n b => (n / 2 + n % 2 * 32768 + b.toNat) % 65536) 0
            Moment.fill '0' 5 (toString sum) ++ " " ++
              padLeft 5 (toString ((bytes.size + 1023) / 1024)) ++ title ++ "\n"))

end Tool

end CiHarness
