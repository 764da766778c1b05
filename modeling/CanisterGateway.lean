import CanisterGateway.Address.Internet
import CanisterGateway.Address.Socket
import CanisterGateway.Address.Web
import CanisterGateway.Bytes.Basic
import CanisterGateway.Bytes.Leb128
import CanisterGateway.Bytes.Radix
import CanisterGateway.Bytes.Reader
import CanisterGateway.Bytes.Utf8
import CanisterGateway.Candid.Value
import CanisterGateway.Candid.Wire
import CanisterGateway.Canister.Interface
import CanisterGateway.Canister.Message
import CanisterGateway.Certification.Cbor
import CanisterGateway.Certification.Certificate
import CanisterGateway.Certification.Expression
import CanisterGateway.Certification.ExpressionPath
import CanisterGateway.Certification.Fingerprint
import CanisterGateway.Certification.HashTree
import CanisterGateway.Certification.Statement
import CanisterGateway.Certification.Verify
import CanisterGateway.Compression.ContentCoding
import CanisterGateway.Compression.Inflate
import CanisterGateway.Curve.Base
import CanisterGateway.Curve.HashToCurve
import CanisterGateway.Curve.Isogeny
import CanisterGateway.Curve.Pairing
import CanisterGateway.Curve.Point
import CanisterGateway.Curve.Signature
import CanisterGateway.Curve.Tower
import CanisterGateway.Gateway.Error
import CanisterGateway.Gateway.Exchange
import CanisterGateway.Gateway.Outbound
import CanisterGateway.Gateway.Settings
import CanisterGateway.Gateway.Trust
import CanisterGateway.Gateway.TrustAnchor
import CanisterGateway.Hash.Crc32
import CanisterGateway.Hash.Sha256
import CanisterGateway.Http.Chunks
import CanisterGateway.Http.Delivery
import CanisterGateway.Http.Field
import CanisterGateway.Http.Frame
import CanisterGateway.Http.Head
import CanisterGateway.Http.HeaderMap
import CanisterGateway.Http.Line
import CanisterGateway.Http.Message
import CanisterGateway.Http.Target
import CanisterGateway.Main
import CanisterGateway.Principal
import CanisterGateway.Proofs.Confinement
import CanisterGateway.Proofs.Course
import CanisterGateway.Proofs.Provenance
import CanisterGateway.Replica.Agent
import CanisterGateway.Replica.CallError
import CanisterGateway.Replica.QueryBody
import CanisterGateway.Server.CommandLine
import CanisterGateway.Server.Parameter
import CanisterGateway.Server.Service
import CanisterGateway.Text.Blank
import CanisterGateway.Text.Escaped
import CanisterGateway.Text.Number
import CanisterGateway.Text.Quoted
import CanisterGateway.Text.Split
import CanisterGateway.Text.Unprintable
import CanisterGateway.Proofs.CallOrder
import CanisterGateway.Proofs.Session
import CanisterGateway.Proofs.Failure
import CanisterGateway.Proofs.SharedKey
import CanisterGateway.Proofs.KeyTurns
import CanisterGateway.Proofs.Utf8
import CanisterGateway.Proofs.HeaderGroups
import CanisterGateway.Proofs.HeaderEcho
import CanisterGateway.Proofs.Freshness
import CanisterGateway.Proofs.Framing
import CanisterGateway.Proofs.Skipping
import CanisterGateway.Proofs.Wiring
import CanisterGateway.Proofs.Encoding
import CanisterGateway.Proofs.TargetForms
import CanisterGateway.Proofs.CanisterUrl
import CanisterGateway.Proofs.FieldOrder
import CanisterGateway.Proofs.ToldHeaders
import CanisterGateway.Proofs.FirstDefect
import CanisterGateway.Proofs.ErrorResponses
import CanisterGateway.Proofs.Reading
import CanisterGateway.Proofs.Arguments
import CanisterGateway.Proofs.Replies
import CanisterGateway.Proofs.AgentCalls
import CanisterGateway.Proofs.Hexadecimal
import CanisterGateway.Proofs.RootKeyText
