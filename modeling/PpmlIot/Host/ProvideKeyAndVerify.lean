import PpmlIot.Crypto
import PpmlIot.Library.Hex

/-!
# The serial verifier

`ECDSA_provideKeyAndVerify.py` generates a key pair, provides the node with the private key and then
judges the lines it receives one by one.  The digest of a line is verified as it stands; it is not
compared with a hash of the message, so the message of an accepted line can be replaced.
-/

namespace PpmlIot.Host

open Library

/-- What the script prints for a line: `Signature verified` and the message, `Signature rejected`
and the line, `ERROR parsing` and the trimmed line, or nothing. -/
inductive Response
  | verified (msg : Text)
  | rejected (packet : Text)
  | unparsed (line : Text)
  | silent
  deriving DecidableEq

/-- The body of the receive loop. -/
def receiveLine (verifyDigest : VerifyDigest) (publicKey : List UInt8) (newData : Text) :
    Response :=
  match newData.splitOn ' ' with
  | [msg, digest, sign] =>
      match Hex.unhexlify (Text.strip sign), Hex.unhexlify (Text.strip digest) with
      | some signature, some hash =>
          if verifyDigest publicKey signature hash then .verified msg else .rejected newData
      | _, _ => .rejected newData
  | _ => if newData.length > 0 then .unparsed (Text.strip newData) else .silent

/-- A line splits into a message, a digest and a signature that verify under the public key. -/
structure SignedLine (verifyDigest : VerifyDigest) (publicKey : List UInt8) (newData msg : Text)
    (hash : List UInt8) : Prop where
  parsed : ∃ digest sign signature, newData.splitOn ' ' = [msg, digest, sign] ∧
    Hex.unhexlify (Text.strip digest) = some hash ∧
    Hex.unhexlify (Text.strip sign) = some signature ∧
    verifyDigest publicKey signature hash = true

/-- The 128 bytes that a node hashes for a message. -/
def hashedBuffer (msg : Text) : List UInt8 :=
  let bytes := msg.map fun c => UInt8.ofNat c.toNat
  bytes ++ List.replicate (128 - bytes.length) 0

/-- A line reported as verified is signed, and its digest is the one a node computes for the message
printed. -/
def MessageIntegrity (crypto : Crypto) (verifyDigest : VerifyDigest) (publicKey : List UInt8)
    (newData : Text) : Prop :=
  ∀ msg, receiveLine verifyDigest publicKey newData = .verified msg →
    SignedLine verifyDigest publicKey newData msg (crypto.sha256 (hashedBuffer msg)).toList

theorem receiveLine_eq_verified_iff {verifyDigest : VerifyDigest} {publicKey : List UInt8}
    {newData msg : Text} :
    receiveLine verifyDigest publicKey newData = .verified msg ↔
      ∃ hash, SignedLine verifyDigest publicKey newData msg hash := by
  constructor
  · intro accepted
    unfold receiveLine at accepted
    split at accepted
    · rename_i field digest sign fields
      split at accepted
      · rename_i signature hash sign_read digest_read
        split at accepted
        · rename_i verified
          obtain rfl := Response.verified.inj accepted
          exact ⟨hash, digest, sign, signature, fields, digest_read, sign_read, verified⟩
        · cases accepted
      · cases accepted
    · split at accepted <;> cases accepted
  · rintro ⟨hash, digest, sign, signature, fields, digest_read, sign_read, verified⟩
    simp only [receiveLine, fields, digest_read, sign_read, verified, if_true]

theorem splitOn_message {msg : Text} (solid : ' ' ∉ msg) (rest : Text) :
    (msg ++ ' ' :: rest).splitOn ' ' = msg :: rest.splitOn ' ' :=
  List.splitOn_append_cons_self_of_not_mem solid rest

/-- Replacing the message leaves a line signed, with the same digest. -/
theorem SignedLine.replace {verifyDigest : VerifyDigest} {publicKey : List UInt8}
    {msg other rest : Text} {hash : List UInt8} (solid : ' ' ∉ msg) (other_solid : ' ' ∉ other)
    (signed : SignedLine verifyDigest publicKey (msg ++ ' ' :: rest) msg hash) :
    SignedLine verifyDigest publicKey (other ++ ' ' :: rest) other hash := by
  obtain ⟨digest, sign, signature, fields, read⟩ := signed
  refine ⟨digest, sign, signature, ?_, read⟩
  rw [splitOn_message solid] at fields
  rw [splitOn_message other_solid, (List.cons.inj fields).2]

/-- A line is reported as verified exactly when it splits into three fields whose signature verifies
over the digest under the generated key; the message plays no part in this. -/
theorem serial_verified_iff (verifyDigest : VerifyDigest) (publicKey : List UInt8) :
    (∀ newData msg, receiveLine verifyDigest publicKey newData = .verified msg ↔
      ∃ hash, SignedLine verifyDigest publicKey newData msg hash) ∧
    ∀ msg other rest : Text, ' ' ∉ msg → ' ' ∉ other →
      (receiveLine verifyDigest publicKey (msg ++ ' ' :: rest) = .verified msg ↔
        receiveLine verifyDigest publicKey (other ++ ' ' :: rest) = .verified other) := by
  constructor
  · intro newData msg
    exact receiveLine_eq_verified_iff
  · intro msg other rest solid other_solid
    rw [receiveLine_eq_verified_iff, receiveLine_eq_verified_iff]
    constructor
    · rintro ⟨hash, signed⟩
      exact ⟨hash, signed.replace solid other_solid⟩
    · rintro ⟨hash, signed⟩
      exact ⟨hash, signed.replace other_solid solid⟩

/-- A line with the digest and signature of the counter message 0. -/
def counterLine (msg : Text) : Text :=
  msg ++ ' ' :: (zeroDigest.toList.flatMap (fun byte => Hex.fixed Hex.upperDigit 2 byte.toNat) ++
    ' ' :: (zeroSignature.toList.flatMap (fun byte => Hex.fixed Hex.upperDigit 2 byte.toNat) ++
      ['\r', '\n']))

/-- With its message replaced by 1 the line is reported as verified. -/
theorem counterLine_replaced :
    ¬ MessageIntegrity sampleCrypto sampleVerifyDigest lPublic1 (counterLine ['1']) := by
  intro integrity
  obtain ⟨digest, sign, signature, fields, digest_read, -⟩ :=
    integrity ['1'] (by decide +kernel)
  have split : (counterLine ['1']).splitOn ' ' =
      [['1'], zeroDigest.toList.flatMap (fun byte => Hex.fixed Hex.upperDigit 2 byte.toNat),
        zeroSignature.toList.flatMap (fun byte => Hex.fixed Hex.upperDigit 2 byte.toNat) ++
          ['\r', '\n']] := by
    decide +kernel
  rw [split] at fields
  obtain ⟨-, digest_eq, -⟩ : _ ∧ _ = digest ∧ _ := by
    simpa only [List.cons.injEq] using fields
  rw [← digest_eq] at digest_read
  revert digest_read
  decide +kernel

end PpmlIot.Host
