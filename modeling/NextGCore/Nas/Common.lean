import Mathlib.Data.Nat.Notation

/-!
# Types and errors of the NAS codecs
-/

namespace NextGCore.Nas

/-- A mobile country code and a mobile network code of two or three digits. -/
structure PlmnId where
  mcc : Vector UInt8 3
  mnc : Vector UInt8 3
  mncLen : UInt8
  deriving DecidableEq

def PlmnId.Canonical (plmn : PlmnId) : Prop := plmn.mncLen = 2 → plmn.mnc[2] = 0

inductive NasError where
  | bufferTooShort (expected actual : ℕ)
  | invalidMessageType (value : UInt8)
  | invalidProtocolDiscriminator (value : UInt8)
  | invalidSecurityHeaderType (value : UInt8)
  | invalidIeType (value : UInt8)
  | invalidIeLength (expected actual : ℕ)
  | missingMandatoryIe (name : String)
  | invalidMobileIdentityType (value : UInt8)
  | invalidRegistrationType (value : UInt8)
  | encodingError (text : String)
  | decodingError (text : String)
  | securityError (text : String)
  | macVerificationFailed
  | replayedSequenceNumber
  deriving DecidableEq

def NasError.toText : NasError → String
  | .bufferTooShort expected actual =>
    s!"Buffer too short: expected {expected} bytes, got {actual}"
  | .invalidMessageType value => s!"Invalid message type: {value}"
  | .invalidProtocolDiscriminator value => s!"Invalid protocol discriminator: {value}"
  | .invalidSecurityHeaderType value => s!"Invalid security header type: {value}"
  | .invalidIeType value => s!"Invalid IE type: {value}"
  | .invalidIeLength expected actual => s!"Invalid IE length: expected {expected}, got {actual}"
  | .missingMandatoryIe name => s!"Missing mandatory IE: {name}"
  | .invalidMobileIdentityType value => s!"Invalid mobile identity type: {value}"
  | .invalidRegistrationType value => s!"Invalid registration type: {value}"
  | .encodingError text => s!"Encoding error: {text}"
  | .decodingError text => s!"Decoding error: {text}"
  | .securityError text => s!"Security error: {text}"
  | .macVerificationFailed => "MAC verification failed"
  | .replayedSequenceNumber => "Replayed NAS sequence number"

end NextGCore.Nas
