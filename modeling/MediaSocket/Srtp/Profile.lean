import MediaSocket.Bytes
import MediaSocket.Text.Hex

/-! What is negotiated for the media of a peer: a protection profile and four keys. -/

namespace MediaSocket.Srtp

/-- A protection profile. `unknown` may hold any code, also one that has a name; it is then a
profile of its own with the same code. -/
inductive Profile where
  | aes128CmSha1_80
  | aes128CmSha1_32
  | aeadAes128Gcm
  | aeadAes256Gcm
  | unknown (code : UInt16)
  deriving DecidableEq, Repr

namespace Profile

def code : Profile → UInt16
  | .aes128CmSha1_80 => 1
  | .aes128CmSha1_32 => 2
  | .aeadAes128Gcm => 7
  | .aeadAes256Gcm => 8
  | .unknown code => code

def ofCode (code : UInt16) : Profile :=
  if code = 1 then .aes128CmSha1_80
  else if code = 2 then .aes128CmSha1_32
  else if code = 7 then .aeadAes128Gcm
  else if code = 8 then .aeadAes256Gcm
  else .unknown code

def text : Profile → String
  | .aes128CmSha1_80 => "SRTP_AES128_CM_HMAC_SHA1_80"
  | .aes128CmSha1_32 => "SRTP_AES128_CM_HMAC_SHA1_32"
  | .aeadAes128Gcm => "SRTP_AEAD_AES_128_GCM"
  | .aeadAes256Gcm => "SRTP_AEAD_AES_256_GCM"
  | .unknown code => "unknown(0x" ++ String.ofList (Text.Hex.padded 4 code.toNat) ++ ")"

def describe : Profile → String
  | .aes128CmSha1_80 => "Aes128CmSha1_80"
  | .aes128CmSha1_32 => "Aes128CmSha1_32"
  | .aeadAes128Gcm => "AeadAes128Gcm"
  | .aeadAes256Gcm => "AeadAes256Gcm"
  | .unknown code => s!"Unknown({code})"

end Profile

/-- The key material of a handshake: a key and a salt for each direction. -/
structure Keys where
  clientKey : Bytes
  serverKey : Bytes
  clientSalt : Bytes
  serverSalt : Bytes
  deriving DecidableEq, Repr

/-- A description that gives the lengths of the keys and not their bytes. -/
def Keys.describe (k : Keys) : String :=
  let shown (name : String) (bytes : Bytes) := s!"{name}: <{bytes.length} bytes>"
  "SrtpKeys \x7b " ++ ", ".intercalate
    [shown "client_write_key" k.clientKey, shown "server_write_key" k.serverKey,
     shown "client_write_salt" k.clientSalt, shown "server_write_salt" k.serverSalt] ++ " \x7d"

structure Negotiated where
  profile : Profile
  keys : Keys
  deriving DecidableEq, Repr

/-- A description without the bytes of the keys. -/
def Negotiated.describe (n : Negotiated) : String :=
  "NegotiatedKeys \x7b profile: " ++ n.profile.describe ++ ", keys: " ++ n.keys.describe ++ " \x7d"

end MediaSocket.Srtp
