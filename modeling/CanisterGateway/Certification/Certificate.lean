import CanisterGateway.Certification.HashTree
import CanisterGateway.Curve.Signature
import CanisterGateway.Principal

/-!
# Certificates

A certificate is a hash tree with a signature on its root digest, made with the root key, or with
a subnet's key and then accompanied by a delegation: a certificate of the root key for the
subnet's key and for the range of canisters that the subnet may speak for.

Whether a certificate is recent is decided first, and against the time of the verification alone:
the time it states must lie within a distance of that time on either side. The two ends of this
window are unsigned 128-bit numbers; where one of them would not be, there is no window, and the
check stops without a verdict. Likewise a canister id that is too long to be a principal cannot be
compared with the ranges of a delegation.
-/

namespace CanisterGateway.Certification

/-- How a check ends that does not succeed: with a fault to report, or without any verdict because
a number or an identifier has no representation. -/
inductive Stop (ε : Type)
  | fault (error : ε)
  | aborted
  deriving DecidableEq

/-- Why a certificate does not vouch for its tree. -/
inductive CertificateFault
  | missingTime
  | timeOverflow (unread : Bytes)
  | future (time latest : Nat)
  | past (time earliest : Nat)
  | encoding (fault : Cbor.Fault)
  | nestedDelegation
  | rangesNotFound (path : List Bytes)
  | outOfRange (canister : Principal) (ranges : List (Principal × Principal))
  | keyNotFound (path : List Bytes)
  | keyLength (actual : Nat)
  | keyHeader (actual : Bytes)
  | signature
  deriving DecidableEq

/-- A path as the list of the byte lists of its labels. -/
def pathText (path : List Bytes) : String :=
  Text.bracketed (path.map Text.byteList)

/-- The path of the time in a certificate. -/
def timePath : List Bytes := [Bytes.ofText "time"]

/-- The bytes in front of the group element in a public key. -/
def keyHeader : Bytes :=
  [0x30, 0x81, 0x82, 0x30, 0x1d, 0x06, 0x0d, 0x2b, 0x06, 0x01, 0x04, 0x01, 0x82, 0xdc, 0x7c, 0x05,
    0x03, 0x01, 0x02, 0x01, 0x06, 0x0c, 0x2b, 0x06, 0x01, 0x04, 0x01, 0x82, 0xdc, 0x7c, 0x05, 0x03,
    0x02, 0x01, 0x03, 0x61, 0x00]

/-- The number of bytes of a public key. -/
def keyLength : Nat := 133

/-- The wording of a fault. -/
def CertificateFault.message : CertificateFault → String
  | missingTime => "Time not found in certificate at path: " ++ pathText timePath
  | timeOverflow unread =>
    "Certificate time decoding failed due to an overflow: " ++ Text.byteList unread
  | future time latest =>
    s!"Certificate time is too far in the future. Received {time}, expected {latest} or earlier"
  | past time earliest =>
    s!"Certificate time is too far in the past. Received {time}, expected {earliest} or later"
  | encoding _ => "CBOR decoding failed"
  | nestedDelegation => "The certificate contained more than one delegation"
  | rangesNotFound path =>
    "Subnet canister ID ranges not found in certificate at path: " ++ pathText path
  | outOfRange canister ranges =>
    "Canister ID " ++ canister.text ++ " is not within the certificate's range: "
      ++ Text.bracketed (ranges.map fun (first, last) =>
        "(" ++ first.fields ++ ", " ++ last.fields ++ ")")
  | keyNotFound path => "Subnet public key not found in certificate at path: " ++ pathText path
  | keyLength actual =>
    s!"BLS DER-encoded public key must be {Certification.keyLength} bytes long, "
      ++ s!"but is {actual} bytes long"
  | keyHeader actual =>
    "BLS DER-encoded public key is invalid. Expected the following prefix: "
      ++ Text.byteList Certification.keyHeader ++ ", but got " ++ Text.byteList actual
  | signature => "Signature verification failed"

/-! ## The certificate -/

/-- The delegation of a subnet. -/
structure Delegation where
  subnet : Bytes
  certificate : Bytes

/-- A signed hash tree. -/
structure Certificate where
  tree : HashTree
  signature : Bytes
  delegation? : Option Delegation

/-- The delegation that an entry of a certificate writes; there is none unless it is a map. -/
def Delegation.ofItem? : Option Cbor.Item → Except Cbor.Fault (Option Delegation)
  | some (.map entries) =>
    match Cbor.lookup? entries "subnet_id", Cbor.lookup? entries "certificate" with
    | some (.bytes subnet), some (.bytes certificate) => .ok (some ⟨subnet, certificate⟩)
    | _, _ => .error .malformedCertificate
  | _ => .ok none

/-- The certificate that bytes write: a map with a tree, a signature and perhaps a delegation. -/
def Certificate.ofBytes (bytes : Bytes) : Except Cbor.Fault Certificate := do
  match ← Cbor.read bytes with
  | .map entries =>
    match Cbor.lookup? entries "tree" with
    | none => throw .malformedCertificate
    | some treeItem =>
      let tree ← HashTree.ofItem treeItem
      match Cbor.lookup? entries "signature" with
      | some (.bytes signature) =>
        let delegation? ← Delegation.ofItem? (Cbor.lookup? entries "delegation")
        return ⟨tree, signature, delegation?⟩
      | _ => throw .malformedCertificate
  | _ => throw .malformedCertificate

/-! ## The time -/

/-- What follows the first number in bytes that write variable-length numbers. -/
def afterNumber (bytes : Bytes) : Bytes :=
  (bytes.dropWhile (· ≥ 128)).drop 1

/-- Reads a number of at most 64 bits, lowest seven bits first. The fault is that it is longer or
ends early; it carries the bytes that were not read. -/
def readTime : (index : Nat) → Bytes → Except Bytes Nat
  | _, [] => .error []
  | index, b :: rest =>
    if index = 9 ∧ b > 1 then .error (afterNumber (b :: rest))
    else if b < 128 then .ok b.toNat
    else (readTime (index + 1) rest).map fun n => b.toNat % 128 + 128 * n

/-- The time that a certificate states, in nanoseconds. -/
def Certificate.time (certificate : Certificate) : Except CertificateFault Nat :=
  match certificate.tree.leaf? timePath with
  | none => .error .missingTime
  | some content => (readTime 0 content).mapError .timeOverflow

/-- The first and the last time that are within a distance of a time, all of them unsigned numbers
of 128 bits. -/
def timeWindow? (now distance : Nat) : Option (Nat × Nat) :=
  if now + distance < 1 <<< 128 ∧ distance ≤ now then some (now - distance, now + distance) else none

/-- Checks that a time is within a distance of another. -/
def checkTime (time now distance : Nat) : Except (Stop CertificateFault) Unit :=
  match timeWindow? now distance with
  | none => .error .aborted
  | some (first, last) =>
    if time > last then .error (.fault (.future time last))
    else if time < first then .error (.fault (.past time first))
    else .ok ()

/-! ## The signature -/

/-- The group element of a public key. -/
def keyElement (key : Bytes) : Except CertificateFault Bytes :=
  if key.length ≠ keyLength then .error (.keyLength key.length)
  else if key.take keyHeader.length ≠ keyHeader then
    .error (.keyHeader (key.take keyHeader.length))
  else .ok (key.drop keyHeader.length)

/-- What the signature of a certificate is made on. -/
def Certificate.signedMessage (certificate : Certificate) : Bytes :=
  let tag := Bytes.ofText "ic-state-root"
  UInt8.ofNat tag.length :: tag ++ certificate.tree.digest

/-- Checks the signature of a certificate with a public key. -/
def Certificate.checkSignature (certificate : Certificate) (key : Bytes) :
    Except CertificateFault Unit := do
  let element ← keyElement key
  if Curve.Signature.verify certificate.signature certificate.signedMessage element then return ()
  else throw .signature

/-! ## The delegation -/

/-- The ranges of principals that an item writes. -/
def rangesOfItems : List Cbor.Item → Option (List (Principal × Principal))
  | [] => some []
  | .array (.bytes first :: .bytes last :: _) :: rest => do
    let first ← Principal.ofBytes? first
    let last ← Principal.ofBytes? last
    let ranges ← rangesOfItems rest
    some ((first, last) :: ranges)
  | _ => none

/-- The ranges of principals that bytes write. -/
def readRanges (bytes : Bytes) : Except Cbor.Fault (List (Principal × Principal)) := do
  match ← Cbor.read bytes with
  | .array items =>
    match rangesOfItems items with
    | some ranges => return ranges
    | none => throw .unexpectedType
  | _ => throw .unexpectedType

/-- The key of the subnet that a delegation names, if the root key vouches for it and for the
canister. -/
def Delegation.subnetKey (delegation : Delegation) (canisterId rootKey : Bytes) :
    Except (Stop CertificateFault) Bytes := do
  let certificate ← (Certificate.ofBytes delegation.certificate).mapError (.fault ∘ .encoding)
  if certificate.delegation?.isSome then throw (.fault .nestedDelegation)
  (certificate.checkSignature rootKey).mapError .fault
  let below (name : String) : List Bytes :=
    [Bytes.ofText "subnet", delegation.subnet, Bytes.ofText name]
  let rangesPath := below "canister_ranges"
  match certificate.tree.leaf? rangesPath with
  | none => throw (.fault (.rangesNotFound rangesPath))
  | some content =>
    let ranges ← (readRanges content).mapError (.fault ∘ .encoding)
    match Principal.ofBytes? canisterId with
    | none => throw .aborted
    | some canister =>
      if !ranges.any fun (first, last) => canister.within first last then
        throw (.fault (.outOfRange canister ranges))
      let keyPath := below "public_key"
      match certificate.tree.leaf? keyPath with
      | none => throw (.fault (.keyNotFound keyPath))
      | some key => return key

/-- Checks that a certificate is recent and signed. -/
def Certificate.check (certificate : Certificate) (canisterId rootKey : Bytes)
    (now distance : Nat) : Except (Stop CertificateFault) Unit := do
  let time ← certificate.time.mapError .fault
  checkTime time now distance
  let key ← match certificate.delegation? with
    | none => .ok rootKey
    | some delegation => delegation.subnetKey canisterId rootKey
  (certificate.checkSignature key).mapError .fault

end CanisterGateway.Certification
