import CertifiedAccess.Digest.Blocks

/-!
MD5: a state of four 32-bit words, little-endian throughout, folded over blocks of 64 octets.
-/
namespace CertifiedAccess.Md5

/-- The 64 additive constants: integer parts of `2 ^ 32 * |sin (i + 1)|`. -/
def constants : List UInt32 :=
  [
    0xd76aa478, 0xe8c7b756, 0x242070db, 0xc1bdceee, 0xf57c0faf, 0x4787c62a, 0xa8304613, 0xfd469501,
    0x698098d8, 0x8b44f7af, 0xffff5bb1, 0x895cd7be, 0x6b901122, 0xfd987193, 0xa679438e, 0x49b40821,
    0xf61e2562, 0xc040b340, 0x265e5a51, 0xe9b6c7aa, 0xd62f105d, 0x02441453, 0xd8a1e681, 0xe7d3fbc8,
    0x21e1cde6, 0xc33707d6, 0xf4d50d87, 0x455a14ed, 0xa9e3e905, 0xfcefa3f8, 0x676f02d9, 0x8d2a4c8a,
    0xfffa3942, 0x8771f681, 0x6d9d6122, 0xfde5380c, 0xa4beea44, 0x4bdecfa9, 0xf6bb4b60, 0xbebfbc70,
    0x289b7ec6, 0xeaa127fa, 0xd4ef3085, 0x04881d05, 0xd9d4d039, 0xe6db99e5, 0x1fa27cf8, 0xc4ac5665,
    0xf4292244, 0x432aff97, 0xab9423a7, 0xfc93a039, 0x655b59c3, 0x8f0ccc92, 0xffeff47d, 0x85845dd1,
    0x6fa87e4f, 0xfe2ce6e0, 0xa3014314, 0x4e0811a1, 0xf7537e82, 0xbd3af235, 0x2ad7d2bb, 0xeb86d391]

structure State where
  a : UInt32
  b : UInt32
  c : UInt32
  d : UInt32

def start : State :=
  ⟨0x67452301, 0xefcdab89, 0x98badcfe, 0x10325476⟩

/-- A step: its constant, the message word it takes and how far it rotates. -/
structure Step where
  constant : UInt32
  word : Nat
  shift : UInt32

/-- The step at a position below 64. -/
def stepAt (i : Nat) : Step where
  constant := constants.getD i 0
  word :=
    if i < 16 then i
    else if i < 32 then (5 * i + 1) % 16
    else if i < 48 then (3 * i + 5) % 16
    else (7 * i) % 16
  shift :=
    ([[7, 12, 17, 22], [5, 9, 14, 20], [4, 11, 16, 23], [6, 10, 15, 21]].getD (i / 16) []).getD (i % 4) 0

/-- The sixteen steps of each of the four rounds. -/
def steps (round : Nat) : List Step :=
  (List.range 16).map fun i => stepAt (16 * round + i)

def steps0 : List Step := steps 0
def steps1 : List Step := steps 1
def steps2 : List Step := steps 2
def steps3 : List Step := steps 3

/-- Applies steps whose mixing function is `mix`. -/
def run (mix : UInt32 → UInt32 → UInt32 → UInt32) (words : Array UInt32) :
    List Step → State → State
  | [], s => s
  | step :: rest, s =>
    let x := s.a + mix s.b s.c s.d + step.constant + words.getD step.word 0
    run mix words rest ⟨s.d, s.b + ((x <<< step.shift) ||| (x >>> (32 - step.shift))), s.b, s.c⟩

def compress (s : State) (block : Bytes) : State :=
  let words :=
    (Digest.words 4 (fun b => UInt32.ofNat (Bytes.ofLittleEndian b)) 16 block).toArray
  let t := run (fun b c d => (b &&& c) ||| (~~~ b &&& d)) words steps0 s
  let t := run (fun b c d => (d &&& b) ||| (~~~ d &&& c)) words steps1 t
  let t := run (fun b c d => b ^^^ c ^^^ d) words steps2 t
  let t := run (fun b c d => c ^^^ (b ||| ~~~ d)) words steps3 t
  ⟨s.a + t.a, s.b + t.b, s.c + t.c, s.d + t.d⟩

def State.bytes (s : State) : Bytes :=
  [s.a, s.b, s.c, s.d].flatMap fun w => Bytes.littleEndian 4 w.toNat

def digest (message : Bytes) : Bytes :=
  (Digest.absorb 64 compress start (Bytes.littleEndian 8 (8 * message.length)) message).bytes

@[simp] theorem length_digest (message : Bytes) : (digest message).length = 16 := by
  simp [digest, State.bytes]

end CertifiedAccess.Md5
