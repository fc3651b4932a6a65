/-
# Cryptographic primitives

The cryptographic functions that other packages supply, as one interface.  Nothing
is assumed about them here: a result that rests on a property of a primitive states
that property as a hypothesis.
-/

import Reproit.Core.Identity

namespace Reproit

/-- A 256-bit secret key. -/
abbrev SecretKey := Vector UInt8 32

/-- A 96-bit AES-GCM nonce. -/
abbrev Nonce := Vector UInt8 12

/-- The supplied cryptographic functions. Encryption appends its authentication tag
to the ciphertext, and decryption fails unless the tag matches. A public key is read
before a signature is checked with it. -/
class Primitives where
  sha256 : Bytes → Digest
  hmacSha256 : (key : SecretKey) → (message : Bytes) → Digest
  hkdfExtract : (salt : Bytes) → (material : SecretKey) → SecretKey
  hkdfExpand : (key : SecretKey) → (info : Bytes) → SecretKey
  aesGcmEncrypt : (key : SecretKey) → (nonce : Nonce) → (message aad : Bytes) → Option Bytes
  aesGcmDecrypt : (key : SecretKey) → (nonce : Nonce) → (message aad : Bytes) → Option Bytes
  ed25519PublicKey : (publicKey : SecretKey) → Bool
  ed25519Verify : (publicKey : SecretKey) → (message : Bytes) → (signature : Vector UInt8 64) → Bool

variable [Primitives]

/-- The digest of a byte string. -/
def Digest.of (bytes : Bytes) : Digest := Primitives.sha256 bytes

end Reproit
