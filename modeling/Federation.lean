import Federation.Saml.Decode
import Federation.Saml.Encode
import Federation.Saml.Report
import Federation.Crypto.Digest
import Federation.Crypto.Cipher.Gcm
import Federation.Crypto.Rsa
import Federation.Crypto.Ecdsa
import Federation.Crypto.Pem
import Federation.Crypto.Certificate
import Federation.Crypto.Secret
import Federation.Crypto.Envelope
import Federation.Crypto.KeyStore
import Federation.Crypto.Generation
import Federation.Metadata.Document
import Federation.Metadata.Resolver
import Federation.Metadata.Sharing
import Federation.Saml.Signing
import Federation.Saml.Encryption
import Federation.Exchange.Lifecycle
import Federation.Exchange.Contention
import Federation.Settings
import Federation.CommandLine.Run
import Federation.Main
import Federation.Proofs.Exchange.Lifecycle
import Federation.Proofs.Exchange.Replay
import Federation.Proofs.Metadata.Credentials
import Federation.Proofs.Saml.Signing
import Federation.Proofs.Exchange.Acceptance
import Federation.Proofs.Text.Base64
import Federation.Proofs.Text.Decimal
import Federation.Proofs.Time.Calendar
import Federation.Proofs.Time.Format
import Federation.Proofs.Xml.Escape
import Federation.Proofs.Xml.Scan
import Federation.Proofs.Xml.Tree
import Federation.Proofs.Xml.Canonical
import Federation.Proofs.Xml.Writing
import Federation.Proofs.Xml.Nesting
import Federation.Proofs.Saml.Layout
import Federation.Proofs.Saml.Pieces
import Federation.Proofs.Saml.Assertions
import Federation.Proofs.Saml.Responses
import Federation.Proofs.Bytes
import Federation.Proofs.Saml.Coverage
import Federation.Proofs.Exchange.Production
import Federation.Proofs.Saml.Encryption
import Federation.Proofs.Saml.Decryption
import Federation.Proofs.Metadata.Trust
import Federation.Proofs.Metadata.Sharing
import Federation.Proofs.Exchange.RoundTrip
import Federation.Proofs.Crypto.Gcm
import Federation.Proofs.Crypto.Rsa
import Federation.Proofs.Crypto.Primes
import Federation.Proofs.Crypto.Der
import Federation.Proofs.Crypto.KeyInfo
import Federation.Proofs.Crypto.RsaCredential
import Federation.Proofs.Crypto.Generation
import Federation.Proofs.Saml.RoundTrip
import Federation.Proofs.Saml.Rereading
import Federation.Proofs.Exchange.Readback
import Federation.Proofs.Exchange.Unsigned
import Federation.Proofs.Exchange.Rejection
import Federation.Proofs.Exchange.Opacity
import Federation.Proofs.Exchange.Protection
import Federation.Proofs.Exchange.Purging
import Federation.Proofs.Exchange.Contention
import Federation.Proofs.Exchange.Clocks
import Federation.Proofs.Saml.Sending
import Federation.Proofs.Exchange.EmbeddedKeys
import Federation.Proofs.Xml.Alike
import Federation.Proofs.Exchange.Markup
import Federation.Proofs.Exchange.Auditing
import Federation.Proofs.Exchange.Windows
import Federation.Proofs.Saml.Placement
import Federation.Proofs.Text.Blank
import Federation.Proofs.Crypto.Pem
import Federation.Proofs.Crypto.Credential
import Federation.Proofs.Metadata.RoundTrip
import Federation.Proofs.Metadata.Flattening
import Federation.Proofs.Files
import Federation.Proofs.Crypto.KeyStore
import Federation.Proofs.Text.Sextets
import Federation.Proofs.Saml.BinaryFields
import Federation.Proofs.Time.Clock
import Federation.Proofs.Time.Reading
import Federation.Proofs.Saml.Timestamps
import Federation.Proofs.Lookup
import Federation.Proofs.Exchange.Overrides
import Federation.Proofs.Metadata.Publication
