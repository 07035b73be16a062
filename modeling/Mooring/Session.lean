import Mooring.DigestHistory
import Mooring.Credentials.Basic

/-! The key and the signature scheme of a connection, with the digests of the messages that were
seen under them. -/

namespace Mooring

structure Session where
  key : Bytes
  signatureScheme : String
  history : DigestHistory

namespace Session

def withKey (key : Bytes) : Session := ⟨key, defaultSignatureScheme, DigestHistory.empty⟩

def supportedDigests : List String := ["md5", "sha1", "sha224", "sha256", "sha384", "sha512"]

def supportedSchemes : List String := supportedDigests.map ("hmac-" ++ ·)

/-- Capital letters do not matter, and the scheme is kept in small ones. -/
def setScheme (session : Session) (scheme : String) : Except Error Session :=
  let lowered := Text.lowerAscii scheme
  if lowered ∈ supportedSchemes then .ok { session with signatureScheme := lowered }
  else .error (.invalidSignatureScheme lowered)

def record (session : Session) (digest : Bytes) : Bool × Session :=
  let (fresh, history) := session.history.record digest
  (fresh, { session with history := history })

def recordAll (session : Session) (digests : List Bytes) : Nat × Session :=
  digests.foldl
    (fun progress digest =>
      let (fresh, session) := progress.2.record digest
      (if fresh then progress.1 + 1 else progress.1, session))
    (0, session)

/-- The same key and scheme, and no digests. -/
def fork (session : Session) : Session := { session with history := DigestHistory.empty }

def agreesWith (a b : Session) : Bool :=
  a.key = b.key && a.signatureScheme = b.signatureScheme && a.history.sameDigests b.history

/-- The key is never shown. -/
def inspect (session : Session) : String :=
  Text.record "Session"
    [("key", Text.quoted "<redacted>"), ("signature_scheme", Text.quoted session.signatureScheme),
      ("digest_history", toString session.history.size)]
    false

end Session
end Mooring
