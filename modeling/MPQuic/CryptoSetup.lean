import MPQuic.Lib.ByteCodec
import MPQuic.Protocol

/-!
# Sealing

The sealing half of `internal/crypto` and of the two crypto setups in `internal/handshake`: which
AEAD seals a packet at which encryption level, and the nonce it uses.

What an AEAD makes of a payload plays no part. An AES-GCM instance is its own key and IV, with the
lengths that its constructor checks; the null AEAD takes no nonce.
-/

namespace MPQuic

open ByteCodec

/-- `aeadAESGCM12`, as far as it seals. -/
structure AEADAESGCM12 where
  myKey : List UInt8
  myIV : List UInt8
  keyLength : myKey.length = 16
  ivLength : myIV.length = 4
  deriving DecidableEq

/-- The AEAD with the key and the IV of zeros. -/
def zeroKeys : AEADAESGCM12 where
  myKey := List.replicate 16 0
  myIV := List.replicate 4 0
  keyLength := rfl
  ivLength := rfl

/-- The nonce is the IV followed by the packet number. -/
def makeNonce (iv : List UInt8) (packetNumber : Nat) : List UInt8 := iv ++ leBytes 8 packetNumber

/-- One IV and two packet numbers give two nonces. -/
theorem makeNonce_inj {iv : List UInt8} {p q : Nat} (boundP : p < 2 ^ 64) (boundQ : q < 2 ^ 64)
    (same : makeNonce iv p = makeNonce iv q) : p = q := by
  have bytes : leBytes 8 p = leBytes 8 q := List.append_cancel_left same
  have residues : p % 2 ^ 64 = q % 2 ^ 64 := leBytes_inj bytes
  rwa [Nat.mod_eq_of_lt boundP, Nat.mod_eq_of_lt boundQ] at residues

/-- How a packet is sealed. -/
inductive Sealer where
  | nullAEAD
  | aesgcm12 (aead : AEADAESGCM12)
  deriving DecidableEq

/-- The hash of the null AEAD and the tag of AES-GCM are both twelve bytes long. -/
def Sealer.overhead : Sealer → Nat
  | .nullAEAD => 12
  | .aesgcm12 _ => 12

/-- The errors of `GetSealerWithEncryptionLevel`. Their texts name the side. -/
inductive CryptoError where
  /-- "CryptoSetupClient: no secureAEAD", or the server's -/
  | noSecureAEAD
  | noForwardSecureAEAD
  /-- "no encryption level specified" -/
  | noEncryptionLevel
  deriving DecidableEq, Repr

/-- What `cryptoSetupClient` and `cryptoSetupServer` seal with. -/
structure CryptoSetup where
  secureAEAD : Option AEADAESGCM12 := none
  forwardSecureAEAD : Option AEADAESGCM12 := none
  diversificationNonce : List UInt8 := []
  deriving DecidableEq

namespace CryptoSetup

/-- The server seals nothing but its crypto stream with the initial keys. -/
def getSealer (h : CryptoSetup) : Perspective → EncryptionLevel × Sealer
  | .client =>
    match h.forwardSecureAEAD, h.secureAEAD with
    | some aead, _ => (.forwardSecure, .aesgcm12 aead)
    | none, some aead => (.secure, .aesgcm12 aead)
    | none, none => (.unencrypted, .nullAEAD)
  | .server =>
    match h.forwardSecureAEAD with
    | some aead => (.forwardSecure, .aesgcm12 aead)
    | none => (.unencrypted, .nullAEAD)

/-- `GetSealerForCryptoStream`. -/
def getSealerForCryptoStream (h : CryptoSetup) : Perspective → EncryptionLevel × Sealer
  | .client => (.unencrypted, .nullAEAD)
  | .server =>
    match h.secureAEAD with
    | some aead => (.secure, .aesgcm12 aead)
    | none => (.unencrypted, .nullAEAD)

/-- `GetSealerWithEncryptionLevel`. -/
def getSealerWithEncryptionLevel (h : CryptoSetup) : EncryptionLevel → Except CryptoError Sealer
  | .unencrypted => .ok .nullAEAD
  | .secure => h.secureAEAD.elim (.error .noSecureAEAD) fun aead => .ok (.aesgcm12 aead)
  | .forwardSecure =>
    h.forwardSecureAEAD.elim (.error .noForwardSecureAEAD) fun aead => .ok (.aesgcm12 aead)
  | .unspecified => .error .noEncryptionLevel

end CryptoSetup

end MPQuic
