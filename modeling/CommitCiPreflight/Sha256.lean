import Mathlib.Data.Vector.Defs

/-! SHA-256 over lists of bytes, the function the digests of the program are computed
with. Nothing is proved of it beyond test vectors; it instantiates developments that take
the hash as a parameter. -/
namespace CommitCiPreflight
namespace Sha256

def rotateRight (x n : UInt32) : UInt32 := (x >>> n) ||| (x <<< (32-n))

def roundConstants : List UInt32 := [
  0x428a2f98,0x71374491,0xb5c0fbcf,0xe9b5dba5,0x3956c25b,0x59f111f1,0x923f82a4,0xab1c5ed5,
  0xd807aa98,0x12835b01,0x243185be,0x550c7dc3,0x72be5d74,0x80deb1fe,0x9bdc06a7,0xc19bf174,
  0xe49b69c1,0xefbe4786,0x0fc19dc6,0x240ca1cc,0x2de92c6f,0x4a7484aa,0x5cb0a9dc,0x76f988da,
  0x983e5152,0xa831c66d,0xb00327c8,0xbf597fc7,0xc6e00bf3,0xd5a79147,0x06ca6351,0x14292967,
  0x27b70a85,0x2e1b2138,0x4d2c6dfc,0x53380d13,0x650a7354,0x766a0abb,0x81c2c92e,0x92722c85,
  0xa2bfe8a1,0xa81a664b,0xc24b8b70,0xc76c51a3,0xd192e819,0xd6990624,0xf40e3585,0x106aa070,
  0x19a4c116,0x1e376c08,0x2748774c,0x34b0bcb5,0x391c0cb3,0x4ed8aa4a,0x5b9cca4f,0x682e6ff3,
  0x748f82ee,0x78a5636f,0x84c87814,0x8cc70208,0x90befffa,0xa4506ceb,0xbef9a3f7,0xc67178f2]

structure State where
  (a b c d e f g h : UInt32)

def initial : State :=
  ⟨0x6a09e667,0xbb67ae85,0x3c6ef372,0xa54ff53a,0x510e527f,0x9b05688c,0x1f83d9ab,0x5be0cd19⟩

/-- The message schedule, from a window of sixteen words. -/
def schedule : ℕ → List UInt32 → List UInt32
  | 0, _ => []
  | _+1, [] => []
  | n+1, w::ws =>
    let early := ws.getD 0 0
    let late := ws.getD 13 0
    let next := w+(rotateRight early 7 ^^^ rotateRight early 18 ^^^ (early >>> 3))+ws.getD 8 0+
      (rotateRight late 17 ^^^ rotateRight late 19 ^^^ (late >>> 10))
    w::schedule n (ws++[next])

def round (s : State) (input : UInt32 × UInt32) : State :=
  let first := s.h+(rotateRight s.e 6 ^^^ rotateRight s.e 11 ^^^ rotateRight s.e 25)+
    ((s.e &&& s.f) ^^^ (~~~s.e &&& s.g))+input.1+input.2
  let second := (rotateRight s.a 2 ^^^ rotateRight s.a 13 ^^^ rotateRight s.a 22)+
    ((s.a &&& s.b) ^^^ (s.a &&& s.c) ^^^ (s.b &&& s.c))
  ⟨first+second,s.a,s.b,s.c,s.d+first,s.e,s.f,s.g⟩

def compress (s : State) (block : List UInt32) : State :=
  let t := (roundConstants.zip (schedule 64 block)).foldl round s
  ⟨s.a+t.a,s.b+t.b,s.c+t.c,s.d+t.d,s.e+t.e,s.f+t.f,s.g+t.g,s.h+t.h⟩

def words : List UInt8 → List UInt32
  | a::b::c::d::rest =>
    (a.toUInt32 <<< 24 ||| b.toUInt32 <<< 16 ||| c.toUInt32 <<< 8 ||| d.toUInt32)::words rest
  | _ => []

/-- A one bit, zeros, and the length in bits. -/
def padding (length : ℕ) : List UInt8 :=
  let bits := UInt64.ofNat (8*length)
  0x80::(List.replicate ((119-length%64)%64) (0 : UInt8)++
    [bits >>> 56,bits >>> 48,bits >>> 40,bits >>> 32,bits >>> 24,bits >>> 16,bits >>> 8,bits].map
      UInt64.toUInt8)

def blocks : ℕ → List UInt32 → State → State
  | 0, _, s => s
  | n+1, ws, s => blocks n (ws.drop 16) (compress s (ws.take 16))

def wordBytes (w : UInt32) : List UInt8 :=
  [(w >>> 24).toUInt8,(w >>> 16).toUInt8,(w >>> 8).toUInt8,w.toUInt8]

def digest (message : List UInt8) : List.Vector UInt8 32 :=
  let ws := words (message++padding message.length)
  let s := blocks (ws.length/16) ws initial
  ⟨[s.a,s.b,s.c,s.d,s.e,s.f,s.g,s.h].flatMap wordBytes,rfl⟩

example : (digest []).toList = [
    0xe3,0xb0,0xc4,0x42,0x98,0xfc,0x1c,0x14,0x9a,0xfb,0xf4,0xc8,0x99,0x6f,0xb9,0x24,
    0x27,0xae,0x41,0xe4,0x64,0x9b,0x93,0x4c,0xa4,0x95,0x99,0x1b,0x78,0x52,0xb8,0x55] := by
  decide +kernel

example : (digest [0x61,0x62,0x63]).toList = [
    0xba,0x78,0x16,0xbf,0x8f,0x01,0xcf,0xea,0x41,0x41,0x40,0xde,0x5d,0xae,0x22,0x23,
    0xb0,0x03,0x61,0xa3,0x96,0x17,0x7a,0x9c,0xb4,0x10,0xff,0x61,0xf2,0x00,0x15,0xad] := by
  decide +kernel

end Sha256
end CommitCiPreflight
