import Shroud.Algorithm.Form
import Shroud.Algorithm.Registry
import Shroud.Algorithm.Writing
import Shroud.AlgorithmId
import Shroud.Ber.Charset
import Shroud.Ber.Der
import Shroud.Ber.Element
import Shroud.Ber.Fault
import Shroud.Ber.ObjectIdentifier
import Shroud.Ber.Primitive
import Shroud.Ber.Renewal
import Shroud.Ber.Time
import Shroud.Bytes
import Shroud.Cipher.Bench
import Shroud.Cipher.Block
import Shroud.Cipher.Cbc
import Shroud.Cipher.Des
import Shroud.Cipher.Feistel
import Shroud.Cipher.Keyed
import Shroud.Cipher.Mode
import Shroud.Cipher.Rc2
import Shroud.Decimal.Binary64
import Shroud.Decimal.Fixed
import Shroud.Decimal.Integer
import Shroud.Decimal.Lenient
import Shroud.Decimal.Rounded
import Shroud.Decimal.Shortest
import Shroud.Derivation
import Shroud.Descriptor
import Shroud.Digest.Basic
import Shroud.Digest.Named
import Shroud.Digest.Sha1
import Shroud.Digest.Sha256
import Shroud.Engine.Basic
import Shroud.Engine.Message
import Shroud.Engine.Mode
import Shroud.Engine.Request
import Shroud.Envelope
import Shroud.Failure
import Shroud.Log.Format
import Shroud.Log.Journal
import Shroud.Log.Level
import Shroud.Log.Logger
import Shroud.Log.Mask
import Shroud.Log.Moment
import Shroud.Log.Placeholder
import Shroud.Log.Record
import Shroud.Log.Script
import Shroud.Log.Severity
import Shroud.Log.Template
import Shroud.Padding
import Shroud.Parameters
import Shroud.Password
import Shroud.Proofs.Ber.Der
import Shroud.Proofs.Bytes
import Shroud.Proofs.Cipher.Bench
import Shroud.Proofs.Cipher.Block
import Shroud.Proofs.Cipher.Chaining
import Shroud.Proofs.Cipher.Des
import Shroud.Proofs.Cipher.Keys
import Shroud.Proofs.Cipher.Pieces
import Shroud.Proofs.Cipher.Rc2
import Shroud.Proofs.Cipher.Standard
import Shroud.Proofs.Derivation
import Shroud.Proofs.Engine.Ceiling
import Shroud.Proofs.Engine.Checks
import Shroud.Proofs.Engine.Custody
import Shroud.Proofs.Engine.Decryption
import Shroud.Proofs.Engine.Encryption
import Shroud.Proofs.Engine.Material
import Shroud.Proofs.Engine.Operation
import Shroud.Proofs.Engine.Tools
import Shroud.Proofs.Engine.Frame
import Shroud.Proofs.Engine.Outcome
import Shroud.Proofs.Engine.RoundTrip
import Shroud.Proofs.Engine.Run
import Shroud.Proofs.Engine.Secrecy
import Shroud.Proofs.Engine.Trace
import Shroud.Proofs.Log.Notices
import Shroud.Proofs.Padding
import Shroud.Proofs.Parameters
import Shroud.Purpose
import Shroud.Scheme
import Shroud.Secret
import Shroud.Session
import Shroud.Settings.Basic
import Shroud.Settings.Coercion
import Shroud.Settings.EnvFile
import Shroud.Settings.Fault
import Shroud.Settings.Source
import Shroud.Surroundings
import Shroud.Text.Digit
import Shroud.Text.Lower
import Shroud.Text.Printable
import Shroud.Text.Quoted
import Shroud.Text.Search
import Shroud.Text.Upper
import Shroud.Value.Basic
import Shroud.Value.Printer
import Shroud.Proofs.Ber.Grammar
import Shroud.Proofs.Ber.Values
import Shroud.Proofs.Decimal.Integer
import Shroud.Proofs.Ber.ObjectIdentifier
import Shroud.Proofs.Parameters.Grammar
import Shroud.Proofs.Ber.Forms
import Shroud.Proofs.Parameters.Forms
import Shroud.Proofs.Algorithm.Writing
import Shroud.Proofs.AlgorithmId
import Shroud.Proofs.AlgorithmId.Arcs
import Shroud.Proofs.Envelope
import Shroud.Proofs.Envelope.Structures
import Shroud.Proofs.Descriptor
import Shroud.Proofs.Engine.History
import Shroud.Proofs.Engine.Reports
import Shroud.Proofs.Engine.Correlation
import Shroud.Proofs.Engine.Salts
import Shroud.Proofs.Engine.Dispatch
import Shroud.Proofs.Engine.Schemes
import Shroud.Proofs.Engine.Unconfigured
import Shroud.Proofs.Log.Masking
import Shroud.Proofs.Log.OwnEntries
import Shroud.Proofs.Log.Redaction
import Shroud.Proofs.Log.Nesting
import Shroud.Proofs.Log.Setups
import Shroud.Proofs.Log.Templates
import Shroud.Proofs.Settings
import Shroud.Proofs.Value.Fits
import Shroud.Proofs.Log.Writable
import Shroud.Proofs.Json.Grammar
import Shroud.Proofs.Json.Unambiguity
import Shroud.Proofs.Json.Writing
import Shroud.Proofs.Log.JsonLines
import Shroud.Proofs.Derivation.Blocks
import Shroud.Proofs.Derivation.Rounds
import Shroud.Proofs.Password.Units
import Shroud.Proofs.Password
import Shroud.Proofs.Engine.Consistency
