import Mathlib.Data.Vector.Defs
import PpmlIot.Library.Memory

/-!
# Hashing and signing

The types of the cryptographic values that the programs exchange, the key pair compiled into the
RIOT programs, and the three wrappers around RIOT's incremental SHA-256.  SHA-256 and the two
signature primitives themselves are parameters.
-/

namespace PpmlIot

abbrev Digest := List.Vector UInt8 32

/-- A P-256 signature, the 32-byte numbers `r` and `s` one after the other. -/
abbrev Signature := List.Vector UInt8 64

/-- SHA-256, and `uECC_verify` on a public key, a digest and a signature. -/
structure Crypto where
  sha256 : List UInt8 → Digest
  uECCVerify : List UInt8 → Digest → Signature → Bool

/-- One call of `uECC_sign_deterministic` on a private key and a digest: the signature it writes
when it returns 1, and `none` when it fails and leaves its output alone. -/
abbrev SigningCall := List UInt8 → Digest → Option Signature

/-- `verify_digest` of the host's ECDSA package on a public key, a signature and a digest: true when
it returns without raising. -/
abbrev VerifyDigest := List UInt8 → List UInt8 → List UInt8 → Bool

/-- `verify_digest` accepts signatures of 64 bytes only. -/
def AcceptsSized (verifyDigest : VerifyDigest) : Prop :=
  ∀ key signature digest, verifyDigest key signature digest = true → signature.length = 64

def lPrivate1 : List UInt8 :=
  [0x9b, 0x4c, 0x4b, 0xa0, 0xb7, 0xb1, 0x25, 0x23,
    0x9c, 0x09, 0x85, 0x4f, 0x9a, 0x21, 0xb4, 0x14,
    0x70, 0xe0, 0xce, 0x21, 0x25, 0x00, 0xa5, 0x62,
    0x34, 0xa4, 0x25, 0xf0, 0x0f, 0x00, 0xeb, 0xe7]

def lPublic1 : List UInt8 :=
  [0x54, 0x3e, 0x98, 0xf8, 0x14, 0x55, 0x08, 0x13,
    0xb5, 0x1a, 0x1d, 0x02, 0x02, 0xd7, 0x0e, 0xab,
    0xa0, 0x98, 0x74, 0x61, 0x91, 0x12, 0x3d, 0x96,
    0x50, 0xfa, 0xd5, 0x94, 0xa2, 0x86, 0xa8, 0xb0,
    0xd0, 0x7b, 0xda, 0x36, 0xba, 0x8e, 0xd3, 0x9a,
    0xa0, 0x16, 0x11, 0x0e, 0x1b, 0x6e, 0x81, 0x13,
    0xd7, 0xf4, 0x23, 0xa1, 0xb2, 0x9b, 0xaf, 0xf6,
    0x6b, 0xc4, 0x2a, 0xdf, 0xbd, 0xe4, 0x61, 0x5c]

/-- A `sha256_context_t`, represented by the bytes absorbed so far. -/
abbrev Sha256Context := List UInt8

/-- `_init_sha256` -/
def initSha256 : Sha256Context := []

/-- `_update_sha256` -/
def updateSha256 (context : Sha256Context) (message : List UInt8) (messageSize : Nat) :
    Sha256Context :=
  context ++ message.take messageSize

/-- `_finish_sha256` -/
def finishSha256 (crypto : Crypto) (context : Sha256Context) : Digest :=
  crypto.sha256 context

/-! ## Genuine values

The first record of the log `goodDataSensSign.txt`, whose signature verifies under `l_public1`, a
signed counter message, and further messages with their digests.
-/

/-- The bytes hashed for the first record of the log. -/
def logBytes : List UInt8 :=
  [0x98, 0x00, 0x00, 0x00, 0x58, 0x01, 0x00, 0x00,
    0xd0, 0xfa, 0xff, 0xff, 0xc0, 0x08, 0x00, 0x00,
    0xbb, 0xff, 0xff, 0xff, 0x6a, 0x00, 0x00, 0x00,
    0x5b, 0x00, 0x00, 0x00, 0x00, 0x00, 0x00, 0x00,
    0xd9, 0x03, 0x00, 0x00, 0x26, 0x00, 0x00, 0x00,
    0x7f, 0x01, 0x00, 0x00, 0x00, 0x00, 0x00, 0x00,
    0x00, 0x00, 0x00, 0x00, 0x00, 0x00, 0x00, 0x00,
    0x00, 0x00, 0x00, 0x00]

/-- The bytes of the first record of the log with another accelerometer reading. -/
def editedBytes : List UInt8 :=
  0x99 :: logBytes.tail

def editedDigest : Digest :=
  ⟨[0xcb, 0x3f, 0xb7, 0x84, 0x80, 0x05, 0x34, 0xff,
      0x5c, 0x84, 0x57, 0x13, 0x73, 0x81, 0x7c, 0x52,
      0x6b, 0x4f, 0xf7, 0x2b, 0xdd, 0x53, 0x2b, 0x1f,
      0x7d, 0xd0, 0x0c, 0x2e, 0x79, 0xaa, 0x9a, 0xd7], rfl⟩

def logDigest : Digest :=
  ⟨[0xe8, 0x12, 0x3d, 0xc8, 0xb8, 0x8c, 0xe2, 0xef,
      0x5f, 0x1f, 0xef, 0x52, 0x64, 0xe5, 0x86, 0x39,
      0x12, 0x0c, 0x07, 0x35, 0x34, 0x18, 0x12, 0xd0,
      0x17, 0xff, 0xa1, 0x86, 0x74, 0xf1, 0x61, 0x29], rfl⟩

def logSignature : Signature :=
  ⟨[0x8b, 0x05, 0xc4, 0xd3, 0x8d, 0xb9, 0x0f, 0xe7,
      0x97, 0x68, 0xe0, 0xa6, 0xb2, 0x94, 0xc9, 0xf2,
      0xf4, 0x4a, 0xdb, 0x4e, 0xc1, 0x5e, 0x0e, 0x53,
      0xdf, 0x8b, 0xf1, 0x1e, 0xc3, 0x7d, 0x21, 0x3a,
      0x45, 0xb9, 0xd0, 0x2e, 0x5d, 0xbf, 0xb6, 0xdd,
      0xf6, 0x5d, 0x5b, 0x94, 0xbb, 0xdf, 0xba, 0x67,
      0xbd, 0x4f, 0xa0, 0x36, 0x61, 0x9f, 0x32, 0xc9,
      0x9a, 0x39, 0x9b, 0x3b, 0x8a, 0x5e, 0x53, 0x32], rfl⟩

def helloBytes : List UInt8 := [0x68, 0x65, 0x6c, 0x6c, 0x6f]

def helloDigest : Digest :=
  ⟨[0x2c, 0xf2, 0x4d, 0xba, 0x5f, 0xb0, 0xa3, 0x0e,
      0x26, 0xe8, 0x3b, 0x2a, 0xc5, 0xb9, 0xe2, 0x9e,
      0x1b, 0x16, 0x1e, 0x5c, 0x1f, 0xa7, 0x42, 0x5e,
      0x73, 0x04, 0x33, 0x62, 0x93, 0x8b, 0x98, 0x24], rfl⟩

def worldDigest : Digest :=
  ⟨[0x48, 0x6e, 0xa4, 0x62, 0x24, 0xd1, 0xbb, 0x4f,
      0xb6, 0x80, 0xf3, 0x4f, 0x7c, 0x9a, 0xd9, 0x6a,
      0x8f, 0x24, 0xec, 0x88, 0xbe, 0x73, 0xea, 0x8e,
      0x5a, 0x6c, 0x65, 0x26, 0x0e, 0x9c, 0xb8, 0xa7], rfl⟩

/-- The message buffer of a node that prints a counter of one digit. -/
def counterBytes (digit : UInt8) : List UInt8 :=
  digit :: List.replicate 127 0

def zeroDigest : Digest :=
  ⟨[0x1a, 0x31, 0xe7, 0x2e, 0xde, 0x02, 0x06, 0x45,
      0x85, 0x6f, 0x67, 0xc1, 0x90, 0x15, 0xbf, 0x3c,
      0x0e, 0x3b, 0xa6, 0x47, 0x06, 0x6f, 0x0b, 0x47,
      0x01, 0x71, 0x7b, 0x88, 0x7d, 0x9f, 0xf1, 0x46], rfl⟩

def oneDigest : Digest :=
  ⟨[0x33, 0x79, 0x6c, 0x56, 0xca, 0x00, 0xfd, 0xee,
      0x83, 0xab, 0x4a, 0x3b, 0xb7, 0xd7, 0x1f, 0xad,
      0x7c, 0x4b, 0x0e, 0x0e, 0x90, 0xce, 0x8c, 0x93,
      0x67, 0x04, 0x54, 0xc1, 0x0a, 0xd0, 0xb7, 0x2e], rfl⟩

/-- A signature of the digest for the counter 0 that verifies under `l_public1`. -/
def zeroSignature : Signature :=
  ⟨[0x03, 0xb1, 0x63, 0xf7, 0x0c, 0x35, 0x54, 0x63,
      0xa1, 0xe7, 0xbe, 0xfb, 0xe3, 0xcc, 0xe8, 0xbf,
      0xc4, 0x9d, 0x4b, 0x8e, 0x45, 0xda, 0x20, 0x95,
      0x15, 0xeb, 0xe3, 0x00, 0x47, 0x2c, 0x59, 0xf9,
      0xa9, 0x2b, 0xa2, 0xe1, 0xf4, 0x6c, 0xd2, 0x41,
      0x4b, 0x07, 0x97, 0x07, 0xc1, 0xe3, 0x0a, 0x5f,
      0x6e, 0x9b, 0xa5, 0xa1, 0x17, 0x93, 0xce, 0x43,
      0x6c, 0xfb, 0x23, 0x4a, 0x5a, 0xc0, 0xf6, 0xaa], rfl⟩

/-- SHA-256 on these inputs, with `world` as the remaining one, and verification of the two
signatures. -/
def sampleCrypto : Crypto where
  sha256 message :=
    if message = logBytes then logDigest
    else if message = editedBytes then editedDigest
    else if message = helloBytes then helloDigest
    else if message = counterBytes 0x30 then zeroDigest
    else if message = counterBytes 0x31 then oneDigest
    else worldDigest
  uECCVerify key digest signature :=
    key = lPublic1 ∧
      (digest = logDigest ∧ signature = logSignature ∨
        digest = zeroDigest ∧ signature = zeroSignature)

/-- The host's verification of the same signatures. -/
def sampleVerifyDigest : VerifyDigest := fun key signature digest =>
  key = lPublic1 ∧
    (digest = logDigest.toList ∧ signature = logSignature.toList ∨
      digest = zeroDigest.toList ∧ signature = zeroSignature.toList)

theorem acceptsSized_sampleVerifyDigest : AcceptsSized sampleVerifyDigest := by
  intro key signature digest accepts
  rw [sampleVerifyDigest, decide_eq_true_eq] at accepts
  rcases accepts.2 with ⟨-, rfl⟩ | ⟨-, rfl⟩ <;> exact List.Vector.toList_length _

end PpmlIot
